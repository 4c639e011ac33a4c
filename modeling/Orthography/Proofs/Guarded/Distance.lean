import Orthography.Proofs.Guarded.Text
import Orthography.Proofs.Word.Distance

/-!
# The table of distances on guard

The edit distance of two texts is found with two rows of numbers that take turns.  A row belongs to
the first characters of one text, and has a cell for every number of first characters of the other
one.  Each cell is made of three cells that are there already, and goes into its place in the row.

This goes through the texts from the left, where the rows of distances (`Word.distanceRow`) go from the
right.  The invariant is that a filled cell has the distance of the first characters that it belongs
to, read backwards (`Guarded.Filled`); in this order they come to the same
(`Word.distanceChars_reverse`).  No number is greater than the two texts are long together, so that
no sum overflows (`Guarded.distance_eq`).
-/

namespace Orthography.Guarded

set_option autoImplicit false

open Word (distanceChars)

/-! ## The table -/

/-- A list with the number at a place replaced, if it has such a place. -/
def put (row : List Nat) (place value : Nat) : Option (List Nat) :=
  if place < row.length then some (row.set place value) else none

/-- The cell right of a place: one deletion, one insertion or perhaps a substitution more than in the
three cells around it.  There are so many characters in all. -/
def cell (things : Nat) (previous current : List Nat) (place : Nat) (same : Bool) : Option Nat := do
  let deletion ← count things (← previous[place + 1]?) 1
  let insertion ← count things (← current[place]?) 1
  let substitution ← count things (← previous[place]?) (if same then 0 else 1)
  return min (min deletion insertion) substitution

/-- The row for one more character of the first text, filled from a place on for the rest of the
second text. -/
def fillRow (things : Nat) (a : Char) (previous : List Nat) :
    List Nat → Nat → List Char → Option (List Nat)
  | current, _, [] => some current
  | current, place, b :: rest => do
    let value ← cell things previous current place (a = b)
    fillRow things a previous (← put current (place + 1) value) (place + 1) rest

/-- The last row for the rest of the first text, of which so many characters were passed.  The row
that is not needed any more is filled next. -/
def fillRows (things : Nat) (b : List Char) :
    List Nat → List Nat → Nat → List Char → Option (List Nat)
  | previous, _, _, [] => some previous
  | previous, current, passed, a :: rest => do
    let started ← put current 0 (← count things passed 1)
    let filled ← fillRow things a previous started 0 b
    fillRows things b filled previous (passed + 1) rest

/-- The edit distance of two texts. -/
def distance (a b : List Char) : Option Nat :=
  if a.isEmpty then some b.length
  else if b.isEmpty then some a.length
  else do
    let last ← fillRows (a.length + b.length) b (List.range (b.length + 1))
      (List.replicate (b.length + 1) 0) 0 a
    last[b.length]?

/-! ## Distances of first characters -/

/-- The distance from a text, read backwards, to so many first characters of another one. -/
def distanceTo (done b : List Char) (place : Nat) : Nat :=
  distanceChars done (b.take place).reverse

variable {done b : List Char} {place : Nat}

theorem distanceTo_zero (done b : List Char) : distanceTo done b 0 = done.length := by
  rw [distanceTo, List.take_zero, List.reverse_nil, Word.distanceChars_nil_right]

/-- Nothing is as far away from some first characters as they are many. -/
theorem distanceTo_nil (inside : place ≤ b.length) : distanceTo [] b place = place := by
  rw [distanceTo, Word.distanceChars_nil_left, List.length_reverse, List.length_take_of_le inside]

/-- The distance for one more character on both sides comes from the three distances for fewer. -/
theorem distanceTo_succ {d : Char} (here : b[place]? = some d) (c : Char) :
    distanceTo (c :: done) b (place + 1)
      = min (min (distanceTo done b (place + 1) + 1) (distanceTo (c :: done) b place + 1))
          (distanceTo done b place + if c = d then 0 else 1) := by
  have more : (b.take (place + 1)).reverse = d :: (b.take place).reverse := by
    rw [List.take_add_one, here, Option.toList_some, List.reverse_append, List.reverse_singleton,
      List.singleton_append]
  rw [distanceTo, more, Word.distanceChars_cons_cons, distanceTo, distanceTo, distanceTo, more]

/-- A distance is no greater than the characters that it belongs to are many. -/
theorem distanceTo_le (done b : List Char) (place : Nat) :
    distanceTo done b place ≤ done.length + place := by
  have bound := Word.distanceChars_le_add done (b.take place).reverse
  rw [List.length_reverse] at bound
  exact Nat.le_trans bound (Nat.add_le_add_left (List.length_take_le place b) _)

/-! ## Filling the table -/

/-- A row that has the distances from a text to the first characters of another one, up to a
place. -/
structure Filled (row : List Nat) (done b : List Char) (place : Nat) : Prop where
  length : row.length = b.length + 1
  cells : ∀ other ≤ place, row[other]? = some (distanceTo done b other)

theorem put_eq {row : List Nat} {place : Nat} (inside : place < row.length) (value : Nat) :
    put row place value = some (row.set place value) :=
  if_pos inside

/-- A row is started with the number of characters that its text has by then. -/
theorem filled_set_zero {row : List Nat} (length : row.length = b.length + 1) (done : List Char) :
    Filled (row.set 0 done.length) done b 0 := by
  refine ⟨by rw [List.length_set, length], fun other le => ?_⟩
  obtain rfl := Nat.le_zero.mp le
  rw [List.getElem?_set_self (by omega), distanceTo_zero]

/-- A row that is filled up to a place is filled up to the next one when its distance is put there. -/
theorem Filled.set_succ {row : List Nat} (filled : Filled row done b place)
    (inside : place < b.length) :
    Filled (row.set (place + 1) (distanceTo done b (place + 1))) done b (place + 1) := by
  refine ⟨by rw [List.length_set, filled.length], fun other le => ?_⟩
  rcases Nat.lt_or_eq_of_le le with before | rfl
  · rw [List.getElem?_set_ne (by omega)]
    exact filled.cells other (by omega)
  · exact List.getElem?_set_self (by rw [filled.length]; omega)

/-- A cell right of what is filled has its distance. -/
theorem cell_eq {previous current : List Nat} {c d : Char} {things : Nat}
    (above : Filled previous done b b.length) (left : Filled current (c :: done) b place)
    (here : b[place]? = some d) (enough : done.length + 1 + b.length ≤ things) :
    cell things previous current place (c = d) = some (distanceTo (c :: done) b (place + 1)) := by
  have inside : place < b.length := (List.getElem?_eq_some_iff.mp here).1
  have deletion := distanceTo_le done b (place + 1)
  have insertion := distanceTo_le (c :: done) b place
  have substitution := distanceTo_le done b place
  rw [List.length_cons] at insertion
  have cost : (if c = d then 0 else 1) ≤ 1 := by split <;> omega
  rw [cell, above.cells (place + 1) inside, left.cells place (Nat.le_refl place),
    above.cells place (Nat.le_of_lt inside), distanceTo_succ here]
  simp only [Option.bind_eq_bind, Option.bind_some, decide_eq_true_eq, Option.pure_def]
  rw [count_eq (by omega), Option.bind_some, count_eq (by omega), Option.bind_some,
    count_eq (by omega), Option.bind_some]

/-- The rest of a row is filled. -/
theorem exists_fillRow {previous current : List Nat} {c : Char} {things : Nat} {rest : List Char}
    (above : Filled previous done b b.length) (left : Filled current (c :: done) b place)
    (whole : b.drop place = rest) (enough : done.length + 1 + b.length ≤ things) :
    ∃ row, fillRow things c previous current place rest = some row ∧
      Filled row (c :: done) b b.length := by
  induction rest generalizing current place with
  | nil =>
    have past : b.length ≤ place := List.drop_eq_nil_iff.mp whole
    exact ⟨current, rfl, left.length, fun other le => left.cells other (Nat.le_trans le past)⟩
  | cons d rest ih =>
    have here : b[place]? = some d := by
      rw [← List.head?_drop, whole, List.head?_cons]
    have inside : place < b.length := (List.getElem?_eq_some_iff.mp here).1
    have after : b.drop (place + 1) = rest := by
      rw [← List.drop_drop, whole, List.drop_one, List.tail_cons]
    obtain ⟨row, filled, final⟩ := ih (left.set_succ inside) after
    refine ⟨row, ?_, final⟩
    rw [fillRow, cell_eq above left here enough]
    simp only [Option.bind_eq_bind, Option.bind_some]
    rw [put_eq (by rw [left.length]; omega), Option.bind_some, filled]

/-- All rows are filled. -/
theorem exists_fillRows {previous current : List Nat} {things : Nat} {rest : List Char}
    (above : Filled previous done b b.length) (length : current.length = b.length + 1)
    (enough : done.length + rest.length + b.length ≤ things) :
    ∃ row, fillRows things b previous current done.length rest = some row ∧
      Filled row (rest.reverse ++ done) b b.length := by
  induction rest generalizing previous current done with
  | nil => exact ⟨previous, rfl, above⟩
  | cons c rest ih =>
    rw [List.length_cons] at enough
    have started : Filled (current.set 0 (c :: done).length) (c :: done) b 0 :=
      filled_set_zero length (c :: done)
    obtain ⟨row, filled, next⟩ : ∃ row,
        fillRow things c previous (current.set 0 (done.length + 1)) 0 b = some row ∧
          Filled row (c :: done) b b.length :=
      exists_fillRow above started List.drop_zero (by omega)
    obtain ⟨last, all, final⟩ := ih next above.length (by rw [List.length_cons]; omega)
    refine ⟨last, ?_, by rwa [List.reverse_cons, List.append_assoc, List.singleton_append]⟩
    rw [fillRows, count_eq (by omega)]
    simp only [Option.bind_eq_bind, Option.bind_some]
    rw [put_eq (by omega), Option.bind_some, filled, Option.bind_some, ← all, List.length_cons]

/-- **The distance of two texts is found**: every place that is looked at is there, and no number
overflows. -/
theorem distance_eq (a b : List Char) : distance a b = some (distanceChars a b) := by
  rw [distance]
  split
  · next empty =>
    rw [List.isEmpty_iff.mp empty, Word.distanceChars_nil_left]
  · split
    · next empty =>
      rw [List.isEmpty_iff.mp empty, Word.distanceChars_nil_right]
    · have first : Filled (List.range (b.length + 1)) [] b b.length := by
        refine ⟨List.length_range, fun place inside => ?_⟩
        rw [List.getElem?_range (by omega), distanceTo_nil inside]
      obtain ⟨last, all, final⟩ : ∃ last,
          fillRows (a.length + b.length) b (List.range (b.length + 1))
              (List.replicate (b.length + 1) 0) 0 a = some last ∧
            Filled last (a.reverse ++ []) b b.length :=
        exists_fillRows first List.length_replicate (by rw [List.length_nil, Nat.zero_add])
      rw [all, Option.bind_eq_bind, Option.bind_some, final.cells b.length (Nat.le_refl _),
        List.append_nil, distanceTo, List.take_length, Word.distanceChars_reverse]

end Orthography.Guarded
