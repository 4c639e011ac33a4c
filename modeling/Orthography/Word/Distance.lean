import Orthography.Number.Binary64

/-!
# Edit distance

The number of single-character insertions, deletions and substitutions between two texts, found
row by row.  The row of a text `a` against `b` lists the distances from `a` to every tail of `b`,
longest tail first, so that the first number of the row is the distance itself.
-/

namespace Orthography.Word

set_option autoImplicit false

/-- The row of the empty text: every tail is as far away as it is long. -/
def firstRow : List Char → List Nat
  | [] => [0]
  | _ :: rest => (rest.length + 1) :: firstRow rest

/-- The row after one more character at the front of the first text. -/
def nextRow (a : Char) : List Char → List Nat → List Nat
  | b :: bs, above :: rest =>
    let row := nextRow a bs rest
    let deletion := above + 1
    let insertion := row.headD 0 + 1
    let substitution := rest.headD 0 + if a = b then 0 else 1
    min (min deletion insertion) substitution :: row
  | [], [last] => [last + 1]
  | _, row => row

/-- The distances from a text to every tail of another, longest tail first. -/
def distanceRow : List Char → List Char → List Nat
  | [], b => firstRow b
  | a :: rest, b => nextRow a b (distanceRow rest b)

/-- Fewest single-character insertions, deletions and substitutions that turn one text into the
other. -/
def distanceChars (a b : List Char) : Nat :=
  (distanceRow a b).headD 0

/-- Fewest single-character insertions, deletions and substitutions that turn one text into the
other. -/
def distance (a b : String) : Nat :=
  distanceChars a.toList b.toList

/-- The edit distance in relation to the length of the first text, which counts as at least one. -/
def relativeDistance (reference word : String) : Binary64 :=
  Binary64.ofRatio (distance reference word) (max reference.length 1)

end Orthography.Word
