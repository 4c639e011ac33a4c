/-!
# Columns of a line

Editors count the columns of a line in units of sixteen bits: a character of the basic plane takes
one unit and any other character takes two.  Files count bytes.  This module converts between the
two by cutting a line at a column.  Cutting never splits a character: a column inside a character
stands for the column right after it, and a column past the end stands for the end.
-/

namespace Orthography.Columns

set_option autoImplicit false

/-- Units that one character takes. -/
def units (c : Char) : Nat :=
  if c.toNat < 0x10000 then 1 else 2

/-- Units that a line takes. -/
def width : List Char → Nat
  | [] => 0
  | c :: rest => units c + width rest

/-- Bytes that a text takes in UTF-8. -/
def byteLength : List Char → Nat
  | [] => 0
  | c :: rest => c.utf8Size + byteLength rest

/-- The parts of a line before and after a column. -/
def cut : Nat → List Char → List Char × List Char
  | _, [] => ([], [])
  | 0, line => ([], line)
  | column + 1, c :: rest =>
    let parts := cut (column + 1 - units c) rest
    (c :: parts.1, parts.2)

/-- Bytes before a column. -/
def byteOffset (line : List Char) (column : Nat) : Nat :=
  byteLength (cut column line).1

/-- The text between two columns; nothing when they are reversed. -/
def slice (line : List Char) (start stop : Nat) : List Char :=
  (cut stop line).1.drop (cut start line).1.length

/-- The line with the text between two columns replaced; reversed columns make it an insertion at
the first of them. -/
def splice (line : List Char) (start stop : Nat) (replacement : List Char) : List Char :=
  (cut start line).1 ++ replacement ++ (cut (max start stop) line).2

end Orthography.Columns
