/-!
# Documents

A document is a list of lines.  Lines end in a line feed, perhaps with one carriage return before
it; a text that ends in a line feed has no empty line after it.
-/

namespace Orthography

set_option autoImplicit false

/-- The lines of an open file. -/
structure Document where
  uri : String
  lines : List String
deriving DecidableEq, Repr

namespace Document

/-- The characters of a line, last first, without a carriage return at the end. -/
def dropReturn : List Char → List Char
  | '\r' :: rest => rest
  | line => line

/-- The lines of a text whose current line starts with some characters, last first. -/
def splitLines (current : List Char) : List Char → List (List Char)
  | [] => if current.isEmpty then [] else [current.reverse]
  | c :: rest =>
    if c = '\n' then (dropReturn current).reverse :: splitLines [] rest
    else splitLines (c :: current) rest

/-- The document that a text makes up. -/
def ofText (uri text : String) : Document :=
  ⟨uri, (splitLines [] text.toList).map String.ofList⟩

/-- A line by its number, counted from zero. -/
def line? (document : Document) (index : Nat) : Option String :=
  document.lines[index]?

/-- Lines with a line feed between any two of them. -/
def joinLines : List (List Char) → List Char
  | [] => []
  | [line] => line
  | line :: rest => line ++ '\n' :: joinLines rest

/-- The lines as one text, with a line feed at the end if the text they came from had one. -/
def toText (document : Document) (before : String) : String :=
  let ending := if before.toList.getLast? = some '\n' then ['\n'] else []
  String.ofList (joinLines (document.lines.map String.toList) ++ ending)

/-- The document with one line replaced. -/
def setLine (document : Document) (index : Nat) (line : String) : Document :=
  { document with lines := document.lines.set index line }

end Document

end Orthography
