/-!
# Identifiers of entries

An identifier is a number of 128 bits.  It is written as 32 hexadecimal digits in five groups with
hyphens between them, and may be read without hyphens, in braces, or as a uniform resource name.

New identifiers come from a supply: it starts at some number and counts up, so that no two of them
are the same, and every one is marked as an identifier of version 4.
-/

namespace Orthography

set_option autoImplicit false

/-- An identifier of an entry. -/
structure Identifier where
  value : BitVec 128
deriving DecidableEq, Repr

namespace Identifier

/-- The hexadecimal digit of a number. -/
def hexChar (n : Nat) : Char :=
  if n < 10 then Char.ofNat (0x30 + n) else Char.ofNat (0x61 + n - 10)

/-- The value of a hexadecimal digit. -/
def hexValue? (c : Char) : Option Nat :=
  if '0' ≤ c && c ≤ '9' then some (c.toNat - 0x30)
  else if 'a' ≤ c && c ≤ 'f' then some (c.toNat - 0x61 + 10)
  else if 'A' ≤ c && c ≤ 'F' then some (c.toNat - 0x41 + 10)
  else none

/-- The last hexadecimal digits of a number. -/
def hexDigits (n : Nat) : Nat → List Char
  | 0 => []
  | count + 1 => hexDigits (n / 16) count ++ [hexChar (n % 16)]

/-- The digits of an identifier, in groups of 8, 4, 4, 4 and 12. -/
def chars (id : Identifier) : List Char :=
  let n := id.value.toNat
  let group (below count : Nat) : List Char := hexDigits (n / Nat.pow 2 below) count
  group 96 8 ++ '-' :: group 80 4 ++ '-' :: group 64 4 ++ '-' :: group 48 4 ++ '-' :: group 0 12

/-- An identifier as it is written. -/
def text (id : Identifier) : String :=
  String.ofList id.chars

/-- The number that some hexadecimal digits stand for. -/
def ofDigits? (value : Nat) : List Char → Option Nat
  | [] => some value
  | c :: rest => do ofDigits? (value * 16 + (← hexValue? c)) rest

/-- The digits of a text in groups of 8, 4, 4, 4 and 12, without the hyphens between them. -/
def ungroup? (text : List Char) : Option (List Char) :=
  let hyphen (index : Nat) := text[index]? = some '-'
  if text.length = 36 && hyphen 8 && hyphen 13 && hyphen 18 && hyphen 23 then
    some (text.take 8 ++ (text.drop 9).take 4 ++ (text.drop 14).take 4 ++ (text.drop 19).take 4
      ++ text.drop 24)
  else none

/-- The 32 digits of an identifier in one of the forms in which it may be written. -/
def digits? (text : List Char) : Option (List Char) :=
  if text.length = 32 then some text
  else if text.length = 36 then ungroup? text
  else if text.length = 38 then
    if text.head? = some '\x7b' && text.getLast? = some '\x7d' then
      ungroup? ((text.drop 1).dropLast)
    else none
  else if text.length = 45 && text.take 9 = "urn:uuid:".toList then ungroup? (text.drop 9)
  else none

/-- The identifier that a text stands for. -/
def ofChars? (text : List Char) : Option Identifier := do
  return ⟨BitVec.ofNat 128 (← ofDigits? 0 (← digits? text))⟩

/-- An identifier made of 122 bits and the marks of version 4. -/
def ofSeed (seed : Nat) : Identifier :=
  let high := seed / Nat.pow 2 74 % Nat.pow 2 48
  let middle := seed / Nat.pow 2 62 % Nat.pow 2 12
  let low := seed % Nat.pow 2 62
  ⟨BitVec.ofNat 128
    (high * Nat.pow 2 80 + (0x4000 + middle) * Nat.pow 2 64 + Nat.pow 2 63 + low)⟩

end Identifier

/-- The identifiers that have not been given out yet. -/
structure Supply where
  next : Nat
deriving DecidableEq, Repr

/-- One new identifier. -/
def Supply.draw (supply : Supply) : Identifier × Supply :=
  (Identifier.ofSeed supply.next, ⟨supply.next + 1⟩)

end Orthography
