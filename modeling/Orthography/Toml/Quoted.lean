/-!
# Text between values

Blanks, comments and the ends of lines, and quoted text.  Quoted text has escapes, between double
quotes, or none, between single ones; between three quotes it may run over several lines.
-/

namespace Orthography.Toml

set_option autoImplicit false

/-! ## Blanks and lines -/

/-- A space or a tab. -/
def isBlank (c : Char) : Bool :=
  c = ' ' || c = '\t'

/-- A character that may stand in a line: no control character but a tab. -/
def isPlain (c : Char) : Bool :=
  c = '\t' || (0x20 ≤ c.toNat && c.toNat ≠ 0x7F)

/-- The text after the blanks at its front. -/
def skipBlanks (text : List Char) : List Char :=
  text.dropWhile isBlank

/-- The text after the line break at its front. -/
def lineBreak? : List Char → Option (List Char)
  | '\n' :: rest => some rest
  | '\r' :: '\n' :: rest => some rest
  | _ => none

/-- The text after a comment, if it starts with one. -/
def skipComment : List Char → List Char
  | '#' :: rest => rest.dropWhile isPlain
  | text => text

/-- The text after the end of a line, with nothing before it but blanks and a comment. -/
def endLine? (text : List Char) : Option (List Char) :=
  match skipComment (skipBlanks text) with
  | [] => some []
  | rest => lineBreak? rest

/-- The text after blanks, line breaks and comments; the first argument says whether it starts
within a comment. -/
def skipLayout : Bool → List Char → List Char
  | _, [] => []
  | _, '\r' :: '\n' :: rest => skipLayout false rest
  | inComment, c :: rest =>
    if c = '\n' then skipLayout false rest
    else if inComment then if isPlain c then skipLayout true rest else c :: rest
    else if isBlank c then skipLayout false rest
    else if c = '#' then skipLayout true rest
    else c :: rest

/-! ## Quoted text -/

/-- A result with one more character in front. -/
def prepend (c : Char) (result : Option (List Char × List Char)) :
    Option (List Char × List Char) :=
  result.map fun (chars, rest) => (c :: chars, rest)

/-- The value of a hexadecimal digit. -/
def hexDigit? (c : Char) : Option Nat :=
  if '0' ≤ c && c ≤ '9' then some (c.toNat - 0x30)
  else if 'a' ≤ c && c ≤ 'f' then some (c.toNat - 0x61 + 10)
  else if 'A' ≤ c && c ≤ 'F' then some (c.toNat - 0x41 + 10)
  else none

/-- The value of hexadecimal digits. -/
def hexValue? (digits : List Char) : Option Nat :=
  digits.foldlM (fun value c => (hexDigit? c).map (value * 16 + ·)) 0

/-- The character with a number in hexadecimal digits. -/
def hexChar? (digits : List Char) : Option Char := do
  let value ← hexValue? digits
  if value < 0xD800 || (0xDFFF < value && value ≤ 0x10FFFF) then return Char.ofNat value else none

/-- The character that a short escape stands for. -/
def shortEscape? : Char → Option Char
  | 'b' => some '\x08'
  | 't' => some '\t'
  | 'n' => some '\n'
  | 'f' => some '\x0c'
  | 'r' => some '\r'
  | '"' => some '"'
  | '\\' => some '\\'
  | _ => none

/-- The end of a text between three quotes: three of them, with up to two more before them that
belong to the text. -/
def closing? (quote : Char) : List Char → Option (List Char × List Char)
  | a :: b :: c :: rest =>
    if a = quote && b = quote && c = quote then
      let extra := (rest.take 2).takeWhile (· = quote)
      some (extra, rest.drop extra.length)
    else none
  | _ => none

/-- The end of a quoted text, in a quote or in three. -/
def close? (quote : Char) (long : Bool) (text : List Char) : Option (List Char × List Char) :=
  if long then closing? quote text
  else
    match text with
    | c :: rest => if c = quote then some ([], rest) else none
    | [] => none

/-- Whether a line break comes next, perhaps after blanks. -/
def breaksLine (text : List Char) : Bool :=
  (lineBreak? (skipBlanks text)).isSome

/-- The content of a text between double quotes, and what comes after it.  In a text of several
lines, a backslash at the end of a line leaves out all blanks and line breaks that follow; the
second argument says whether some of them are being left out. -/
def readEscaped (long : Bool) : Bool → List Char → Option (List Char × List Char)
  | _, [] => none
  | _, '\\' :: 'u' :: a :: b :: c :: d :: rest => do
    prepend (← hexChar? [a, b, c, d]) (readEscaped long false rest)
  | _, '\\' :: 'U' :: a :: b :: c :: d :: e :: f :: g :: h :: rest => do
    prepend (← hexChar? [a, b, c, d, e, f, g, h]) (readEscaped long false rest)
  | _, '\\' :: c :: rest =>
    match shortEscape? c with
    | some meant => prepend meant (readEscaped long false rest)
    | none => if long && breaksLine (c :: rest) then readEscaped long true rest else none
  | skipping, '\r' :: '\n' :: rest =>
    if !long then none
    else if skipping then readEscaped long true rest
    else prepend '\n' (readEscaped long false rest)
  | skipping, c :: rest =>
    match close? '"' long (c :: rest) with
    | some result => some result
    | none =>
      if skipping && (isBlank c || c = '\n') then readEscaped long true rest
      else if c = '\\' || !(isPlain c || (long && c = '\n')) then none
      else prepend c (readEscaped long false rest)

/-- The content of a text between single quotes, and what comes after it. -/
def readLiteral (long : Bool) : List Char → Option (List Char × List Char)
  | [] => none
  | '\r' :: '\n' :: rest => if long then prepend '\n' (readLiteral long rest) else none
  | c :: rest =>
    match close? '\'' long (c :: rest) with
    | some result => some result
    | none =>
      if isPlain c || (long && c = '\n') then prepend c (readLiteral long rest) else none

/-- A quoted text on one line, and what comes after it. -/
def readQuoted : List Char → Option (List Char × List Char)
  | '"' :: rest => readEscaped false false rest
  | '\'' :: rest => readLiteral false rest
  | _ => none

/-- A quoted text, and what comes after it.  A line break right after three quotes does not
count. -/
def readText : List Char → Option (List Char × List Char)
  | '"' :: '"' :: '"' :: rest => readEscaped true false ((lineBreak? rest).getD rest)
  | '\'' :: '\'' :: '\'' :: rest => readLiteral true ((lineBreak? rest).getD rest)
  | text => readQuoted text

end Orthography.Toml
