import Orthography.Unicode.WhiteSpace
import Orthography.Pattern.WordClass
import Orthography.Pattern.Folding

/-!
# Patterns

A pattern is a regular expression over classes of characters and *places*: conditions on the
characters on either side of a position, such as the start of the text or the edge of a word.

`Matches pattern before matched after` says that the pattern matches the middle one of three texts
that stand in a row.  The texts around it matter because of the places.
-/

namespace Orthography.Pattern

set_option autoImplicit false

open Unicode

/-- A class of characters, built up from runs of code points. -/
inductive CharSet where
  /-- The code points of runs in ascending order. -/
  | runs (codes : List CodeRun)
  | union (first second : CharSet)
  | inter (first second : CharSet)
  | compl (body : CharSet)
  /-- The class together with all characters that differ from one of it by case only. -/
  | folded (body : CharSet)
  /-- The class together with the ASCII letters that differ from one of it by case only. -/
  | foldedAscii (body : CharSet)
deriving DecidableEq, Repr

namespace CharSet

/-- The ASCII letter of the other case. -/
def asciiPartner (n : Nat) : List Nat :=
  if 0x41 ≤ n && n ≤ 0x5A then [n + 32]
  else if 0x61 ≤ n && n ≤ 0x7A then [n - 32]
  else []

/-- Whether a class contains a code point. -/
def contains : CharSet → Nat → Bool
  | runs codes, n => CodeRun.covers codes n
  | union first second, n => first.contains n || second.contains n
  | inter first second, n => first.contains n && second.contains n
  | compl body, n => !body.contains n
  | folded body, n => body.contains n || (foldPartners n).any body.contains
  | foldedAscii body, n => body.contains n || (asciiPartner n).any body.contains

/-- The class of the code points from one to another. -/
def span (first last : Nat) : CharSet :=
  runs [⟨first, last, 1⟩]

/-- The class of one character. -/
def single (c : Char) : CharSet :=
  span c.toNat c.toNat

/-- The empty class. -/
def none : CharSet :=
  runs []

/-- The class of all characters. -/
def any : CharSet :=
  span 0 0x10FFFF

/-- The characters of one class that are not in another. -/
def diff (first second : CharSet) : CharSet :=
  inter first (compl second)

/-- The characters that are in exactly one of two classes. -/
def symmDiff (first second : CharSet) : CharSet :=
  union (diff first second) (diff second first)

/-- Word characters: letters, marks, decimal digits and connectors. -/
def word : CharSet :=
  runs wordRuns

/-- Decimal digits. -/
def digit : CharSet :=
  runs digitRuns

/-- White space. -/
def space : CharSet :=
  runs whiteSpace

/-- Word characters of ASCII. -/
def asciiWord : CharSet :=
  runs [⟨0x30, 0x39, 1⟩, ⟨0x41, 0x5A, 1⟩, ⟨0x5F, 0x5F, 1⟩, ⟨0x61, 0x7A, 1⟩]

/-- Digits of ASCII. -/
def asciiDigit : CharSet :=
  span 0x30 0x39

/-- White space of ASCII. -/
def asciiSpace : CharSet :=
  runs [⟨0x09, 0x0D, 1⟩, ⟨0x20, 0x20, 1⟩]

end CharSet

/-- Whether there is a character and it is in a class. -/
def neighbourIn (set : CharSet) : Option Char → Bool
  | some c => set.contains c.toNat
  | none => false

/-- A condition on the characters right before and right after a position. -/
inductive Place where
  | textStart
  | textEnd
  /-- After a line feed, or at the start of the text. -/
  | lineStart
  /-- Before a line feed, or at the end of the text. -/
  | lineEnd
  /-- Like `lineStart`, for lines that a carriage return, a line feed or both of them end. -/
  | lineStartAny
  /-- Like `lineEnd`, for lines that a carriage return, a line feed or both of them end. -/
  | lineEndAny
  /-- Where a run of characters of the class starts or ends. -/
  | edge (word : CharSet)
  /-- Where no run of characters of the class starts or ends. -/
  | noEdge (word : CharSet)
  /-- Where a run of characters of the class starts. -/
  | wordStart (word : CharSet)
  /-- Where a run of characters of the class ends. -/
  | wordEnd (word : CharSet)
  /-- Where no character of the class stands before. -/
  | wordStartHalf (word : CharSet)
  /-- Where no character of the class stands after. -/
  | wordEndHalf (word : CharSet)
deriving DecidableEq, Repr

/-- Whether a place is at a position, given the characters around it. -/
def Place.holds (place : Place) (before after : Option Char) : Bool :=
  match place with
  | textStart => before.isNone
  | textEnd => after.isNone
  | lineStart => before.isNone || before == some '\n'
  | lineEnd => after.isNone || after == some '\n'
  | lineStartAny =>
    before.isNone || before == some '\n' || (before == some '\r' && after != some '\n')
  | lineEndAny =>
    after.isNone || after == some '\r' || (after == some '\n' && before != some '\r')
  | edge word => neighbourIn word before != neighbourIn word after
  | noEdge word => neighbourIn word before == neighbourIn word after
  | wordStart word => !neighbourIn word before && neighbourIn word after
  | wordEnd word => neighbourIn word before && !neighbourIn word after
  | wordStartHalf word => !neighbourIn word before
  | wordEndHalf word => !neighbourIn word after

/-- A pattern. -/
inductive Expr where
  /-- The empty text. -/
  | empty
  /-- One character of a class. -/
  | one (set : CharSet)
  /-- The empty text at certain positions. -/
  | at (place : Place)
  | seq (first second : Expr)
  | alt (first second : Expr)
  /-- Any number of times. -/
  | star (body : Expr)
deriving DecidableEq, Repr

namespace Expr

/-- One or more times. -/
def plus (body : Expr) : Expr :=
  seq body (star body)

/-- Once or not at all. -/
def optional (body : Expr) : Expr :=
  alt body empty

/-- One pattern after the other. -/
def all (parts : List Expr) : Expr :=
  parts.foldr seq empty

/-- A pattern a number of times in a row. -/
def times (body : Expr) : Nat → Expr
  | 0 => empty
  | count + 1 => seq body (times body count)

/-- A pattern up to a number of times in a row. -/
def upTo (body : Expr) : Nat → Expr
  | 0 => empty
  | count + 1 => optional (seq body (upTo body count))

end Expr

/-- `Matches pattern before matched after`: the pattern matches the middle text of three. -/
inductive Matches : Expr → List Char → List Char → List Char → Prop where
  | empty (before after : List Char) : Matches .empty before [] after
  | one {set : CharSet} {c : Char} (before after : List Char) (member : set.contains c.toNat) :
      Matches (.one set) before [c] after
  | at {place : Place} (before after : List Char)
      (here : place.holds before.getLast? after.head?) : Matches (.at place) before [] after
  | seq {first second : Expr} {before left right after : List Char}
      (leftMatch : Matches first before left (right ++ after))
      (rightMatch : Matches second (before ++ left) right after) :
      Matches (.seq first second) before (left ++ right) after
  | altLeft {first second : Expr} {before matched after : List Char}
      (leftMatch : Matches first before matched after) :
      Matches (.alt first second) before matched after
  | altRight {first second : Expr} {before matched after : List Char}
      (rightMatch : Matches second before matched after) :
      Matches (.alt first second) before matched after
  | starNone {body : Expr} (before after : List Char) : Matches (.star body) before [] after
  | starMore {body : Expr} {before left right after : List Char}
      (leftMatch : Matches body before left (right ++ after))
      (rightMatch : Matches (.star body) (before ++ left) right after) :
      Matches (.star body) before (left ++ right) after

/-- Whether a pattern matches some part of a text. -/
def Occurs (pattern : Expr) (text : List Char) : Prop :=
  ∃ before matched after, text = before ++ matched ++ after ∧ Matches pattern before matched after

end Orthography.Pattern
