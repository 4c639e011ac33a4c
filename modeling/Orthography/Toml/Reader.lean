import Orthography.Toml.Number
import Orthography.Toml.Quoted

/-!
# Reading TOML

The document that a text stands for.  A text with a single fault stands for none.
-/

namespace Orthography.Toml

set_option autoImplicit false

/-! ## Keys -/

/-- A character of a key without quotes. -/
def isKeyChar (c : Char) : Bool :=
  c.isAlphanum || c = '-' || c = '_'

/-- One part of a key, and the rest. -/
def readPart (text : List Char) : Option (String × List Char) :=
  match readQuoted text with
  | some (chars, rest) => some (String.ofList chars, rest)
  | none =>
    match text.takeWhile isKeyChar with
    | [] => none
    | chars => some (String.ofList chars, text.dropWhile isKeyChar)

/-- The parts of a key with points between them, at most so many of them, and the rest. -/
def readParts : Nat → List Char → Option (List String × List Char)
  | 0, _ => none
  | room + 1, text => do
    let (part, rest) ← readPart (skipBlanks text)
    match skipBlanks rest with
    | '.' :: more =>
      let (parts, rest) ← readParts room more
      return (part :: parts, rest)
    | rest => return ([part], rest)

/-- How many parts a key may have, and how many arrays and tables may be open at once. -/
def depthLimit : Nat := 79

/-- The parts of a key, and the rest. -/
def readKey (text : List Char) : Option (List String × List Char) :=
  readParts depthLimit text

/-- Entries with a value added under a key of some parts. -/
def addAt (parts : List String) (value : Value) (kind : TableKind) (entries : Entries) :
    Option Entries := do
  insertKey parts.dropLast (← parts.getLast?) value kind entries

/-! ## Values -/

mutual

/-- A value at the front of a text, with room for so many arrays and tables inside each other, and
the rest.  Every two rounds take a character off the text, so twice its length is fuel enough. -/
def readValue : Nat → Nat → List Char → Option (Value × List Char)
  | 0, _, _ => none
  | fuel + 1, room, text =>
    match text with
    | 't' :: 'r' :: 'u' :: 'e' :: rest => some (.boolean true, rest)
    | 'f' :: 'a' :: 'l' :: 's' :: 'e' :: rest => some (.boolean false, rest)
    | '[' :: rest =>
      if room = 0 then none
      else (readItems fuel (room - 1) rest).map fun (items, after) => (.array items, after)
    | '\x7b' :: rest =>
      if room = 0 then none
      else
        match skipBlanks rest with
        | '\x7d' :: after => some (.table .inline [], after)
        | _ =>
          (readPairs fuel (room - 1) [] rest).map fun (entries, after) =>
            (.table .inline entries, after)
    | _ =>
      match readText text with
      | some (chars, rest) => some (.string (String.ofList chars), rest)
      | none =>
        match skipMoment? text with
        | some rest => some (.moment, rest)
        | none => readNumber text

/-- The items of an array up to its closing bracket, and the rest.  There may be a comma after the
last one. -/
def readItems : Nat → Nat → List Char → Option (List Value × List Char)
  | 0, _, _ => none
  | fuel + 1, room, text =>
    match skipLayout false text with
    | ']' :: after => some ([], after)
    | start => do
      let (item, rest) ← readValue fuel room start
      match skipLayout false rest with
      | ']' :: after => return ([item], after)
      | ',' :: more =>
        let (items, after) ← readItems fuel room more
        return (item :: items, after)
      | _ => none

/-- The entries of a table in braces up to its closing brace, added to those before them, and the
rest. -/
def readPairs : Nat → Nat → Entries → List Char → Option (Entries × List Char)
  | 0, _, _, _ => none
  | fuel + 1, room, before, text => do
    let (parts, rest) ← readKey text
    let (value, rest) ← readValue fuel room (skipBlanks (← expect? '=' rest))
    let entries ← addAt parts value .inline before
    match skipBlanks rest with
    | '\x7d' :: after => return (entries, after)
    | ',' :: more => readPairs fuel room entries more
    | _ => none

end

/-! ## Lines -/

/-- The draft after a line that gives a key a value, and the text after that line. -/
def readEntry (draft : Draft) (text : List Char) : Option (Draft × List Char) := do
  let (parts, rest) ← readKey text
  let (value, rest) ← readValue (2 * rest.length + 2) depthLimit (skipBlanks (← expect? '=' rest))
  let rest ← endLine? rest
  return (← draft.add parts.dropLast (← parts.getLast?) value, rest)

/-- The draft after a header, and the text after its line; read after the opening brackets. -/
def readHeader (draft : Draft) (double : Bool) (text : List Char) : Option (Draft × List Char) := do
  let (parts, rest) ← readKey text
  let rest ← expect? ']' rest
  let rest ← if double then expect? ']' rest else some rest
  let rest ← endLine? rest
  return (← draft.startTable double parts, rest)

/-- The draft after one more line, and the text after that line. -/
def readLine (draft : Draft) (text : List Char) : Option (Draft × List Char) :=
  match text with
  | '[' :: '[' :: rest => readHeader draft true rest
  | '[' :: rest => readHeader draft false rest
  | c :: _ =>
    if c = '#' || c = '\n' || c = '\r' then (endLine? text).map fun rest => (draft, rest)
    else readEntry draft text
  | [] => some (draft, [])

/-- The draft after all lines of a text.  Every line takes a character off the text, so its length
is fuel enough. -/
def readLines : Nat → Draft → List Char → Option Draft
  | 0, draft, text => if (skipBlanks text).isEmpty then some draft else none
  | fuel + 1, draft, text =>
    match skipBlanks text with
    | [] => some draft
    | line => do
      let (draft, rest) ← readLine draft line
      readLines fuel draft rest

/-- The entries of the document that a text stands for.  A mark of the byte order in front does not
count. -/
def ofText? (text : String) : Option Entries := do
  let chars :=
    match text.toList with
    | '\uFEFF' :: rest => rest
    | chars => chars
  let draft ← readLines chars.length {} chars
  draft.complete

end Orthography.Toml
