import Orthography.Pattern.Flags

/-!
# Escapes

What a backslash and the characters after it stand for: a character, a class or a place.
-/

namespace Orthography.Pattern

set_option autoImplicit false

/-- The smallest parts of a pattern. -/
inductive Atom where
  /-- A character; `byte` says that it was written as a byte, with two hexadecimal digits. -/
  | char (c : Char) (byte : Bool)
  | set (set : CharSet)
  | place (place : Place)
deriving Repr

/-- A text from its first character that counts: where a pattern is verbose, white space and
comments do not.  A comment starts with a number sign and runs to the end of the line. -/
def skipBlank (verbose : Bool) (inComment : Bool) : List Char → List Char
  | [] => []
  | c :: rest =>
    if !verbose then c :: rest
    else if inComment then skipBlank verbose (c != '\n') rest
    else if Unicode.isWhiteSpace c then skipBlank verbose false rest
    else if c = '#' then skipBlank verbose true rest
    else c :: rest

/-- The characters that count up to a closing brace, and the rest after the brace. -/
def toBrace (verbose : Bool) (inComment : Bool) : List Char → Option (List Char × List Char)
  | [] => none
  | c :: rest =>
    if inComment then toBrace verbose (c != '\n') rest
    else if verbose && Unicode.isWhiteSpace c then toBrace verbose false rest
    else if verbose && c = '#' then toBrace verbose true rest
    else if c = '\x7d' then some ([], rest)
    else (toBrace verbose false rest).map fun (inside, after) => (c :: inside, after)

/-- The next characters that count, as many as asked for, and the rest after them. -/
def takeCounting (verbose : Bool) (inComment : Bool) :
    Nat → List Char → Option (List Char × List Char)
  | 0, rest => some ([], rest)
  | _ + 1, [] => none
  | count + 1, c :: rest =>
    if inComment then takeCounting verbose (c != '\n') (count + 1) rest
    else if verbose && Unicode.isWhiteSpace c then takeCounting verbose false (count + 1) rest
    else if verbose && c = '#' then takeCounting verbose true (count + 1) rest
    else (takeCounting verbose false count rest).map fun (taken, after) => (c :: taken, after)

/-- The value of a hexadecimal digit. -/
def hexDigit? (c : Char) : Option Nat :=
  if '0' ≤ c && c ≤ '9' then some (c.toNat - 0x30)
  else if 'a' ≤ c && c ≤ 'f' then some (c.toNat - 0x61 + 10)
  else if 'A' ≤ c && c ≤ 'F' then some (c.toNat - 0x41 + 10)
  else none

/-- The value of a row of hexadecimal digits. -/
def hexValue? (digits : List Char) : Option Nat :=
  digits.foldl (fun value c => do return (← value) * 16 + (← hexDigit? c)) (some 0)

/-- The character of a code point; surrogates and numbers past the last code point have none. -/
def charOfCode? (n : Nat) : Option Char :=
  if n < 0xD800 || (0xDFFF < n && n ≤ 0x10FFFF) then some (Char.ofNat n) else none

/-- A character by its code point in hexadecimal digits: a fixed number of them, or any number in
braces. -/
def readHex (flags : Flags) (digits : Nat) (text : List Char) : Option (Atom × List Char) := do
  match skipBlank flags.verbose false text with
  | [] => none
  | '\x7b' :: rest =>
    let (inside, after) ← toBrace flags.verbose false rest
    if inside.isEmpty then none
    else return (.char (← charOfCode? (← hexValue? inside)) false, after)
  | rest =>
    let (inside, after) ← takeCounting flags.verbose false digits rest
    return (.char (← charOfCode? (← hexValue? inside)) (digits = 2), after)

/-- The two parts of a text around the first place where a separator stands. -/
def splitAround (separator : List Char) : List Char → Option (List Char × List Char)
  | [] => none
  | c :: rest =>
    if separator.isPrefixOf (c :: rest) then some ([], (c :: rest).drop separator.length)
    else (splitAround separator rest).map fun (left, right) => (c :: left, right)

/-- The class of what stands in the braces of `\p`. -/
def propertySet? (inside : List Char) : Option CharSet :=
  match splitAround ['!', '='] inside <|> splitAround [':'] inside <|> splitAround ['='] inside with
  | some (property, value) => CharSet.ofPropertyValue? property value
  | none => CharSet.ofName? inside

/-- A class by the name of a property, after `\p` or `\P`. -/
def readProperty (flags : Flags) (negated : Bool) (text : List Char) :
    Option (Atom × List Char) := do
  let named : Option (CharSet × List Char) :=
    match skipBlank flags.verbose false text with
    | [] => none
    | '\x7b' :: rest => do
      let (inside, after) ← toBrace flags.verbose false rest
      return (← propertySet? inside, after)
    | c :: rest => if c = '\\' then none else return (← CharSet.ofName? [c], rest)
  let (set, after) ← named
  if flags.unicode then return (.set (← flags.finish negated set), after) else none

/-- Characters with a meaning of their own in patterns. -/
def isMeta (c : Char) : Bool :=
  "\\.+*?()|[]\x7b\x7d^$#&-~".toList.contains c

/-- Characters that stand for themselves after a backslash: all of ASCII but letters, digits and
angle brackets. -/
def isEscapable (c : Char) : Bool :=
  isMeta c || (c.toNat ≤ 0x7F && !c.isAlphanum && c != '<' && c != '>')

/-- The place that stands after `\b`: a special one in braces, else any edge of a word.  Braces
that start with anything but a letter or a hyphen are left for a repetition. -/
def readEdge (flags : Flags) (text : List Char) : Option (Atom × List Char) :=
  let plain := some (.place (.edge flags.word), text)
  match text with
  | '\x7b' :: rest =>
    match skipBlank flags.verbose false rest with
    | [] => none
    | c :: _ =>
      if c.isAlpha || c = '-' then do
        let (inside, after) ← toBrace flags.verbose false rest
        let place ←
          match String.ofList inside with
          | "start" => some (Place.wordStart flags.word)
          | "end" => some (Place.wordEnd flags.word)
          | "start-half" => some (Place.wordStartHalf flags.word)
          | "end-half" => some (Place.wordEndHalf flags.word)
          | _ => none
        return (.place place, after)
      else plain
  | _ => plain

/-- What stands after a backslash. -/
def readEscape (flags : Flags) : List Char → Option (Atom × List Char)
  | [] => none
  | c :: rest =>
    let shorthand (negated : Bool) (unicode ascii : CharSet) :=
      (flags.shorthand negated unicode ascii).map fun set => (Atom.set set, rest)
    let place (place : Place) := some (Atom.place place, rest)
    let char (c : Char) := some (Atom.char c false, rest)
    if isEscapable c then char c
    else
      match c with
      | 'x' => readHex flags 2 rest
      | 'u' => readHex flags 4 rest
      | 'U' => readHex flags 8 rest
      | 'p' => readProperty flags false rest
      | 'P' => readProperty flags true rest
      | 'd' => shorthand false .digit .asciiDigit
      | 'D' => shorthand true .digit .asciiDigit
      | 's' => shorthand false .space .asciiSpace
      | 'S' => shorthand true .space .asciiSpace
      | 'w' => shorthand false .word .asciiWord
      | 'W' => shorthand true .word .asciiWord
      | 'a' => char '\x07'
      | 'f' => char '\x0c'
      | 't' => char '\t'
      | 'n' => char '\n'
      | 'r' => char '\r'
      | 'v' => char '\x0b'
      | 'A' => place .textStart
      | 'z' => place .textEnd
      | 'b' => readEdge flags rest
      | 'B' => place (.noEdge flags.word)
      | '<' => place (.wordStart flags.word)
      | '>' => place (.wordEnd flags.word)
      | _ => none

end Orthography.Pattern
