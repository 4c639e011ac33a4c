import Orthography.Text.Bytes

/-!
# The form of a JSON text

Reading a JSON text takes two steps.  The first one, here, finds its form: which values it is made
of and how numbers and strings are spelled.  It is lenient about what a later step may never look
at: numbers may be of any size, strings may hold escapes of half a surrogate pair and bytes that are
no characters, and values may be nested to any depth.
-/

namespace Orthography.Json

set_option autoImplicit false

/-- The form of a JSON value. -/
inductive Form where
  | null
  | bool (value : Bool)
  /-- A number as it is spelled. -/
  | number (spelling : List Char)
  /-- The characters of a string; nothing if some part of it stands for no character. -/
  | string (content : Option (List Char))
  | array (items : List Form)
  | object (members : List (Option (List Char) × Form))
deriving Repr

/-- A text that is being read: characters, and gaps for bytes that are none. -/
abbrev Text := List (Option Char)

/-- What a string is made of: characters as they stand or by a short escape, and escaped units of
sixteen bits. -/
inductive Piece where
  | char (c : Option Char)
  | unit (n : Nat)
deriving Repr

/-- The value of a hexadecimal digit. -/
def hexDigit? : Option Char → Option Nat
  | some c =>
    if '0' ≤ c && c ≤ '9' then some (c.toNat - 0x30)
    else if 'a' ≤ c && c ≤ 'f' then some (c.toNat - 0x61 + 10)
    else if 'A' ≤ c && c ≤ 'F' then some (c.toNat - 0x41 + 10)
    else none
  | none => none

/-- The characters of the pieces of a string, if every piece stands for one: the two halves of a
surrogate pair stand for one character together and for none apart. -/
def joinPieces : List Piece → Option (List Char)
  | [] => some []
  | .char c :: rest => do return (← c) :: (← joinPieces rest)
  | .unit high :: .unit low :: rest =>
    if 0xD800 ≤ high && high < 0xDC00 && 0xDC00 ≤ low && low < 0xE000 then do
      return Char.ofNat (0x10000 + (high - 0xD800) * 0x400 + (low - 0xDC00)) :: (← joinPieces rest)
    else if 0xD800 ≤ high && high < 0xE000 then none
    else do return Char.ofNat high :: (← joinPieces (.unit low :: rest))
  | .unit n :: rest =>
    if 0xD800 ≤ n && n < 0xE000 then none
    else do return Char.ofNat n :: (← joinPieces rest)

/-- The character that a short escape stands for. -/
def shortEscape? : Char → Option Char
  | '"' => some '"'
  | '\\' => some '\\'
  | '/' => some '/'
  | 'b' => some '\x08'
  | 'f' => some '\x0c'
  | 'n' => some '\n'
  | 'r' => some '\r'
  | 't' => some '\t'
  | _ => none

/-- The pieces of a string up to its closing quote, and the text after it.  Control characters may
not stand in a string as they are. -/
def readPieces : Text → Option (List Piece × Text)
  | [] => none
  | some '"' :: rest => some ([], rest)
  | some '\\' :: some 'u' :: a :: b :: c :: d :: rest => do
    let unit := ((← hexDigit? a) * 16 + (← hexDigit? b)) * 256 + (← hexDigit? c) * 16
      + (← hexDigit? d)
    let (pieces, after) ← readPieces rest
    return (.unit unit :: pieces, after)
  | some '\\' :: some escape :: rest => do
    let c ← shortEscape? escape
    let (pieces, after) ← readPieces rest
    return (.char (some c) :: pieces, after)
  | c :: rest =>
    if c = some '\\' || c.any (·.toNat < 0x20) then none
    else do
      let (pieces, after) ← readPieces rest
      return (.char c :: pieces, after)

/-- The content of a string, read after its opening quote. -/
def readString (text : Text) : Option (Option (List Char) × Text) :=
  (readPieces text).map fun (pieces, rest) => (joinPieces pieces, rest)

/-- The text from the first character on that is not white space. -/
def skipSpace : Text → Text
  | some c :: rest =>
    if c = ' ' || c = '\n' || c = '\t' || c = '\r' then skipSpace rest else some c :: rest
  | text => text

/-- The digits at the front of a text, and the rest. -/
def readDigits : Text → List Char × Text
  | some c :: rest =>
    if c.isDigit then
      let (digits, after) := readDigits rest
      (c :: digits, after)
    else ([], some c :: rest)
  | text => ([], text)

/-- The whole part of a number: a zero, or digits that do not start with one. -/
def readWhole (text : Text) : Option (List Char × Text) :=
  match readDigits text with
  | ([], _) => none
  | ('0' :: _ :: _, _) => none
  | result => some result

/-- The fraction of a number, if it has one: a point and at least one digit. -/
def readFraction : Text → Option (List Char × Text)
  | some '.' :: rest =>
    match readDigits rest with
    | ([], _) => none
    | (digits, after) => some ('.' :: digits, after)
  | text => some ([], text)

/-- The sign of an exponent, if it has one, and the text after it. -/
def readSign : Text → List Char × Text
  | some '+' :: rest => (['+'], rest)
  | some '-' :: rest => (['-'], rest)
  | text => ([], text)

/-- The exponent of a number, if it has one: a letter, perhaps a sign, and at least one digit. -/
def readExponent : Text → Option (List Char × Text)
  | some c :: rest =>
    if c = 'e' || c = 'E' then
      match readDigits (readSign rest).2 with
      | ([], _) => none
      | (digits, after) => some ('e' :: (readSign rest).1 ++ digits, after)
    else some ([], some c :: rest)
  | text => some ([], text)

/-- The minus sign of a number, if it has one, and the text after it. -/
def readMinus : Text → List Char × Text
  | some '-' :: rest => (['-'], rest)
  | text => ([], text)

/-- A number as it is spelled, and the text after it. -/
def readNumber (text : Text) : Option (Form × Text) := do
  let (whole, rest) ← readWhole (readMinus text).2
  let (fraction, rest) ← readFraction rest
  let (exponent, rest) ← readExponent rest
  return (.number ((readMinus text).1 ++ whole ++ fraction ++ exponent), rest)

mutual

/-- The form of the value at the front of a text, and the text after it.  Every two rounds take a
character off the text, so twice its length is fuel enough. -/
def readForm : Nat → Text → Option (Form × Text)
  | 0, _ => none
  | fuel + 1, text =>
    match skipSpace text with
    | some 'n' :: some 'u' :: some 'l' :: some 'l' :: rest => some (.null, rest)
    | some 't' :: some 'r' :: some 'u' :: some 'e' :: rest => some (.bool true, rest)
    | some 'f' :: some 'a' :: some 'l' :: some 's' :: some 'e' :: rest => some (.bool false, rest)
    | some '"' :: rest => (readString rest).map fun (content, after) => (.string content, after)
    | some '[' :: rest =>
      match skipSpace rest with
      | some ']' :: after => some (.array [], after)
      | items => (readItems fuel items).map fun (items, after) => (.array items, after)
    | some '\x7b' :: rest =>
      match skipSpace rest with
      | some '\x7d' :: after => some (.object [], after)
      | members => (readMembers fuel members).map fun (members, after) => (.object members, after)
    | other => readNumber other

/-- The items of an array up to its closing bracket, at least one, and the text after it. -/
def readItems : Nat → Text → Option (List Form × Text)
  | 0, _ => none
  | fuel + 1, text => do
    let (item, rest) ← readForm fuel text
    match skipSpace rest with
    | some ']' :: after => return ([item], after)
    | some ',' :: more =>
      let (items, after) ← readItems fuel more
      return (item :: items, after)
    | _ => none

/-- The members of an object up to its closing brace, at least one, and the text after it. -/
def readMembers : Nat → Text → Option (List (Option (List Char) × Form) × Text)
  | 0, _ => none
  | fuel + 1, text =>
    match skipSpace text with
    | some '"' :: rest => do
      let (name, rest) ← readString rest
      match skipSpace rest with
      | some ':' :: rest =>
        let (value, rest) ← readForm fuel rest
        match skipSpace rest with
        | some '\x7d' :: after => return ([(name, value)], after)
        | some ',' :: more =>
          let (members, after) ← readMembers fuel more
          return ((name, value) :: members, after)
        | _ => none
      | _ => none
    | _ => none

end

/-- The form of a text that holds one value and nothing else but white space. -/
def Form.ofText? (text : Text) : Option Form := do
  let (form, rest) ← readForm (2 * text.length + 2) text
  if (skipSpace rest).isEmpty then return form else none

/-- The form of the JSON text in a file. -/
def Form.ofBytes? (bytes : ByteArray) : Option Form :=
  Form.ofText? (Bytes.chars bytes)

end Orthography.Json
