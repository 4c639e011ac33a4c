import Orthography.Proofs.Word.Distance

/-!
# The edit distance is a metric

Edits can be made one after the other (`EditedIn.trans`) and taken back (`EditedIn.symm`), as many as
they are.  The distance is the least number of edits, so a detour over a third text is never shorter
(`distanceChars_triangle`), and the way back is as long as the way there (`distanceChars_comm`).  No
edit at all leaves a text as it is, and so only a text itself is at distance zero
(`distanceChars_eq_zero_iff`).

What two texts have in common at the front does not count (`distanceChars_append_left`): the first
characters need no edit when they are the same, because leaving out or putting in a character gains
one at most.  The same holds at the back, which is the front of the texts read backwards
(`distanceChars_append_right`).
-/

namespace Orthography.Word

set_option autoImplicit false

/-! ## Edits one after the other, and taken back -/

/-- Edits after edits are edits, as many as both together. -/
theorem EditedIn.trans {before after : Nat} {first second third : List Char}
    (edits : EditedIn before first second) (others : EditedIn after second third) :
    EditedIn (before + after) first third := by
  induction edits with
  | none text =>
    rw [Nat.zero_add]
    exact others
  | @next count first second third edit _ ih =>
    rw [Nat.add_right_comm]
    exact .next edit (ih others)

/-- An edit is taken back by one edit. -/
theorem Edited.symm {first second : List Char} (edit : Edited first second) :
    Edited second first := by
  cases edit with
  | inserted front back c => exact .deleted front back c
  | deleted front back c => exact .inserted front back c
  | replaced front back c other => exact .replaced front back other c

/-- Edits are taken back by as many edits. -/
theorem EditedIn.symm {count : Nat} {first second : List Char}
    (edits : EditedIn count first second) : EditedIn count second first := by
  induction edits with
  | none text => exact .none text
  | next edit _ ih => exact ih.trans (.next edit.symm (.none _))

variable (a b c : List Char)

/-- A detour over another text is never shorter. -/
theorem distanceChars_triangle : distanceChars a c ≤ distanceChars a b + distanceChars b c :=
  ((editedIn_distanceChars a b).trans (editedIn_distanceChars b c)).distanceChars_le

/-- The way back is as long as the way there. -/
theorem distanceChars_comm : distanceChars a b = distanceChars b a :=
  Nat.le_antisymm (editedIn_distanceChars b a).symm.distanceChars_le
    (editedIn_distanceChars a b).symm.distanceChars_le

variable {a b} in
/-- Only a text itself is at distance zero. -/
theorem distanceChars_eq_zero_iff : distanceChars a b = 0 ↔ a = b := by
  constructor
  · intro zero
    have edits := editedIn_distanceChars a b
    rw [zero] at edits
    cases edits
    rfl
  · rintro rfl
    exact distanceChars_self a

/-! ## Common characters at the edges -/

/-- One character fewer at the front of the second text gains at most one. -/
theorem distanceChars_le_cons_right (d : Char) :
    distanceChars a b ≤ distanceChars a (d :: b) + 1 := by
  rw [distanceChars_comm a b, distanceChars_comm a (d :: b)]
  exact distanceChars_le_cons_left d b a

/-- The same first character does not count. -/
theorem distanceChars_cons_self (d : Char) :
    distanceChars (d :: a) (d :: b) = distanceChars a b := by
  have shorterLeft := distanceChars_le_cons_left d a b
  have shorterRight := distanceChars_le_cons_right a b d
  rw [distanceChars_cons_cons, if_pos rfl]
  omega

/-- The same front does not count. -/
theorem distanceChars_append_left (front : List Char) :
    distanceChars (front ++ a) (front ++ b) = distanceChars a b := by
  induction front with
  | nil => rfl
  | cons d front ih => rw [List.cons_append, List.cons_append, distanceChars_cons_self, ih]

/-- The same back does not count. -/
theorem distanceChars_append_right (back : List Char) :
    distanceChars (a ++ back) (b ++ back) = distanceChars a b := by
  rw [← distanceChars_reverse, List.reverse_append, List.reverse_append, distanceChars_append_left,
    distanceChars_reverse]

/-- **The edit distance is a metric that does not see what two texts have in common at their edges.**
It is zero for a text and itself only, it is the same in both directions, a detour is never shorter,
and the same front and back can be put around two texts or left out. -/
theorem distance_metric :
    (∀ a b, distance a b = 0 ↔ a = b) ∧ (∀ a b, distance a b = distance b a) ∧
      (∀ a b c, distance a c ≤ distance a b + distance b c) ∧
      ∀ front a b back, distance (front ++ a ++ back) (front ++ b ++ back) = distance a b := by
  refine ⟨?zero, ?symmetric, ?triangle, ?context⟩
  case zero =>
    intro a b
    rw [distance, distanceChars_eq_zero_iff, String.toList_inj]
  case symmetric => exact fun a b => distanceChars_comm a.toList b.toList
  case triangle => exact fun a b c => distanceChars_triangle a.toList b.toList c.toList
  case context =>
    intro front a b back
    simp only [distance, String.toList_append]
    rw [distanceChars_append_right, distanceChars_append_left]

example : distance "unforgiving" "unforging" = distance "iv" "" := by decide

end Orthography.Word
