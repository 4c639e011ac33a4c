/-!
# Bytes as text

Files hold bytes.  Bytes that are UTF-8 read as characters; other bytes read as gaps, one each, so
that a reader can go on past them where they do no harm.
-/

namespace Orthography.Bytes

set_option autoImplicit false

/-- The bits that a byte adds to the character it continues; none if it does not continue one. -/
def continuation? (byte : UInt8) : Option Nat :=
  if 0x80 ≤ byte && byte < 0xC0 then some (byte.toNat - 0x80) else none

/-- The character that some bytes make up together, if they are its shortest form. -/
def combine? (least value : Nat) : Option Char :=
  if least ≤ value && value ≤ 0x10FFFF && (value < 0xD800 || 0xDFFF < value) then
    some (Char.ofNat value)
  else none

/-- The character at the front of a row of bytes that does not start with an ASCII one, and the
bytes after it. -/
def leading? : List UInt8 → Option (Char × List UInt8)
  | a :: b :: rest => do
    let first := a.toNat
    let second ← continuation? b
    if 0xC0 ≤ first && first < 0xE0 then
      return (← combine? 0x80 ((first - 0xC0) * 64 + second), rest)
    else
      match rest with
      | c :: rest => do
        let third ← continuation? c
        if 0xE0 ≤ first && first < 0xF0 then
          return (← combine? 0x800 (((first - 0xE0) * 64 + second) * 64 + third), rest)
        else
          match rest with
          | d :: rest => do
            let fourth ← continuation? d
            if 0xF0 ≤ first && first < 0xF8 then
              return (← combine? 0x10000
                ((((first - 0xF0) * 64 + second) * 64 + third) * 64 + fourth), rest)
            else none
          | [] => none
      | [] => none
  | _ => none

/-- The characters and gaps of a row of bytes.  The number of bytes is fuel enough. -/
def lenient : Nat → List UInt8 → List (Option Char)
  | 0, _ => []
  | _, [] => []
  | fuel + 1, byte :: rest =>
    if byte < 0x80 then some (Char.ofNat byte.toNat) :: lenient fuel rest
    else
      match leading? (byte :: rest) with
      | some (c, after) => some c :: lenient fuel after
      | none => none :: lenient fuel rest

/-- The text that bytes stand for, if they are UTF-8 throughout. -/
def text? (bytes : ByteArray) : Option String :=
  String.fromUTF8? bytes

/-- The characters that bytes stand for, with a gap for each byte that stands for none. -/
def chars (bytes : ByteArray) : List (Option Char) :=
  match text? bytes with
  | some text => text.toList.map some
  | none => lenient bytes.size bytes.toList

end Orthography.Bytes
