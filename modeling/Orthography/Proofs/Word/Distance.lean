import Mathlib.Order.Bounds.Defs
import Mathlib.Order.MinMax
import Orthography.Word.Distance

/-!
# The edit distance is the least number of edits

A text is edited one character at a time: a character is inserted, deleted or put in the place of
another one (`Edited`).  The rows of distances hold, for every two tails of two texts, the least of
the three ways to deal with their first characters (`distanceChars_cons_cons`).  Two inductions
compare this with edits in any number, at any place and in any order:

* as many edits as the distance says turn the first text into the second
  (`editedIn_distanceChars`);
* one edit of the first text brings it at most one nearer to the second
  (`Edited.distanceChars_le`), so that fewer edits never do (`EditedIn.distanceChars_le`).

Together they say that the distance is the least number of edits (`distance_isLeast`).
-/

namespace Orthography.Word

set_option autoImplicit false

/-! ## Edits -/

/-- The second text is the first one with one character inserted, deleted or replaced. -/
inductive Edited : List Char → List Char → Prop where
  | inserted (front back : List Char) (c : Char) : Edited (front ++ back) (front ++ c :: back)
  | deleted (front back : List Char) (c : Char) : Edited (front ++ c :: back) (front ++ back)
  | replaced (front back : List Char) (c other : Char) :
      Edited (front ++ c :: back) (front ++ other :: back)

/-- The second text comes from the first one by so many edits, one after the other. -/
inductive EditedIn : Nat → List Char → List Char → Prop where
  | none (text : List Char) : EditedIn 0 text text
  | next {count : Nat} {first second third : List Char} (edit : Edited first second)
      (others : EditedIn count second third) : EditedIn (count + 1) first third

/-- An edit is made behind one more character just as well. -/
theorem Edited.cons (c : Char) {first second : List Char} (edit : Edited first second) :
    Edited (c :: first) (c :: second) := by
  cases edit with
  | inserted front back new => exact .inserted (c :: front) back new
  | deleted front back old => exact .deleted (c :: front) back old
  | replaced front back old new => exact .replaced (c :: front) back old new

/-- Edits are made behind one more character just as well. -/
theorem EditedIn.cons (c : Char) {count : Nat} {first second : List Char}
    (edits : EditedIn count first second) : EditedIn count (c :: first) (c :: second) := by
  induction edits with
  | none text => exact .none (c :: text)
  | next edit _ ih => exact .next (edit.cons c) ih

/-! ## Rows -/

/-- The row against the empty text is the length of the other one. -/
theorem distanceRow_nil (a : List Char) : distanceRow a [] = [a.length] := by
  induction a with
  | nil => rfl
  | cons c rest ih =>
    rw [distanceRow, ih]
    rfl

/-- A row against a longer text has one more number in front. -/
theorem distanceRow_cons (a : List Char) (d : Char) (b : List Char) :
    distanceRow a (d :: b) = distanceChars a (d :: b) :: distanceRow a b := by
  induction a with
  | nil => rfl
  | cons c rest ih =>
    rw [distanceChars, distanceRow, ih]
    rfl

/-- The empty text is as far away as the other one is long. -/
theorem distanceChars_nil_left (b : List Char) : distanceChars [] b = b.length := by
  cases b with
  | nil => rfl
  | cons d rest => rfl

/-- A text is as far away from the empty one as it is long. -/
theorem distanceChars_nil_right (a : List Char) : distanceChars a [] = a.length := by
  rw [distanceChars, distanceRow_nil, List.headD_cons]

/-- Of the three ways to deal with two first characters the best one counts. -/
theorem distanceChars_cons_cons (c d : Char) (a b : List Char) :
    distanceChars (c :: a) (d :: b)
      = min (min (distanceChars a (d :: b) + 1) (distanceChars (c :: a) b + 1))
          (distanceChars a b + if c = d then 0 else 1) := by
  rw [distanceChars, distanceRow, distanceRow_cons]
  rfl

/-! ## The edits are enough -/

/-- As many insertions as a text is long make it out of nothing. -/
theorem editedIn_of_nil (b : List Char) : EditedIn b.length [] b := by
  induction b with
  | nil => exact .none []
  | cons d rest ih => exact .next (.inserted [] [] d) (ih.cons d)

/-- As many deletions as a text is long leave nothing of it. -/
theorem editedIn_nil (a : List Char) : EditedIn a.length a [] := by
  induction a with
  | nil => exact .none []
  | cons c rest ih => exact .next (.deleted [] rest c) ih

/-- As many edits as the distance says turn one text into the other. -/
theorem editedIn_distanceChars (a b : List Char) : EditedIn (distanceChars a b) a b := by
  induction a generalizing b with
  | nil =>
    rw [distanceChars_nil_left]
    exact editedIn_of_nil b
  | cons c a deleting =>
    induction b with
    | nil =>
      rw [distanceChars_nil_right]
      exact editedIn_nil (c :: a)
    | cons d b inserting =>
      have deletion : EditedIn (distanceChars a (d :: b) + 1) (c :: a) (d :: b) :=
        .next (.deleted [] a c) (deleting (d :: b))
      have insertion : EditedIn (distanceChars (c :: a) b + 1) (c :: a) (d :: b) :=
        .next (.inserted [] (c :: a) d) (inserting.cons d)
      have substitution :
          EditedIn (distanceChars a b + if c = d then 0 else 1) (c :: a) (d :: b) := by
        by_cases same : c = d
        · rw [if_pos same, same]
          exact (deleting b).cons d
        · rw [if_neg same]
          exact .next (.replaced [] a c d) ((deleting b).cons d)
      -- The distance is one of the three numbers, whichever is the least.
      rw [distanceChars_cons_cons]
      rcases min_choice (min (distanceChars a (d :: b) + 1) (distanceChars (c :: a) b + 1))
        (distanceChars a b + if c = d then 0 else 1) with least | least
      · rw [least]
        rcases min_choice (distanceChars a (d :: b) + 1) (distanceChars (c :: a) b + 1)
          with least | least
        · rw [least]
          exact deletion
        · rw [least]
          exact insertion
      · rw [least]
        exact substitution

/-! ## Fewer edits are not -/

/-- One more character at the front of the first text costs at most one. -/
theorem distanceChars_cons_left_le (c : Char) (a b : List Char) :
    distanceChars (c :: a) b ≤ distanceChars a b + 1 := by
  cases b with
  | nil => rw [distanceChars_nil_right, distanceChars_nil_right, List.length_cons]
  | cons d b =>
    rw [distanceChars_cons_cons]
    omega

/-- One more character at the front of the second text costs at most one. -/
theorem distanceChars_cons_right_le (d : Char) (a b : List Char) :
    distanceChars a (d :: b) ≤ distanceChars a b + 1 := by
  cases a with
  | nil => rw [distanceChars_nil_left, distanceChars_nil_left, List.length_cons]
  | cons c a =>
    rw [distanceChars_cons_cons]
    omega

/-- One character fewer at the front of the first text gains at most one. -/
theorem distanceChars_le_cons_left (c : Char) (a b : List Char) :
    distanceChars a b ≤ distanceChars (c :: a) b + 1 := by
  induction b with
  | nil =>
    rw [distanceChars_nil_right, distanceChars_nil_right, List.length_cons]
    omega
  | cons d b ih =>
    have longer := distanceChars_cons_right_le d a b
    rw [distanceChars_cons_cons]
    omega

/-- What holds of two texts holds behind one more character. -/
theorem distanceChars_cons_le_cons (c : Char) {first second : List Char}
    (near : ∀ b, distanceChars first b ≤ distanceChars second b + 1) (b : List Char) :
    distanceChars (c :: first) b ≤ distanceChars (c :: second) b + 1 := by
  induction b with
  | nil =>
    have empty := near []
    rw [distanceChars_nil_right, distanceChars_nil_right] at empty ⊢
    rw [List.length_cons, List.length_cons]
    omega
  | cons d b ih =>
    have whole := near (d :: b)
    have rest := near b
    rw [distanceChars_cons_cons, distanceChars_cons_cons]
    omega

/-- Another character at the front of the first text gains at most one. -/
theorem distanceChars_replace_le (c other : Char) (a b : List Char) :
    distanceChars (c :: a) b ≤ distanceChars (other :: a) b + 1 := by
  induction b with
  | nil =>
    rw [distanceChars_nil_right, distanceChars_nil_right, List.length_cons, List.length_cons]
    omega
  | cons d b ih =>
    rw [distanceChars_cons_cons, distanceChars_cons_cons]
    split <;> split <;> omega

/-- **One edit brings a text at most one nearer to another.** -/
theorem Edited.distanceChars_le {first second : List Char} (edit : Edited first second)
    (b : List Char) : distanceChars first b ≤ distanceChars second b + 1 := by
  cases edit with
  | inserted front back c =>
    induction front generalizing b with
    | nil => exact distanceChars_le_cons_left c back b
    | cons x front ih => exact distanceChars_cons_le_cons x ih b
  | deleted front back c =>
    induction front generalizing b with
    | nil => exact distanceChars_cons_left_le c back b
    | cons x front ih => exact distanceChars_cons_le_cons x ih b
  | replaced front back c other =>
    induction front generalizing b with
    | nil => exact distanceChars_replace_le c other back b
    | cons x front ih => exact distanceChars_cons_le_cons x ih b

/-- No text is away from itself. -/
theorem distanceChars_self (a : List Char) : distanceChars a a = 0 := by
  induction a with
  | nil => rfl
  | cons c a ih =>
    rw [distanceChars_cons_cons, ih, if_pos rfl]
    omega

/-- Edits are never fewer than the distance says. -/
theorem EditedIn.distanceChars_le {count : Nat} {a b : List Char} (edits : EditedIn count a b) :
    distanceChars a b ≤ count := by
  induction edits with
  | none text => exact Nat.le_of_eq (distanceChars_self text)
  | next edit _ ih => exact Nat.le_trans (edit.distanceChars_le _) (Nat.succ_le_succ ih)

/-! ## Texts read backwards -/

/-- An edit is one of the texts read backwards, too. -/
theorem Edited.reverse {first second : List Char} (edit : Edited first second) :
    Edited first.reverse second.reverse := by
  cases edit with
  | inserted front back c =>
    simpa using Edited.inserted back.reverse front.reverse c
  | deleted front back c =>
    simpa using Edited.deleted back.reverse front.reverse c
  | replaced front back c other =>
    simpa using Edited.replaced back.reverse front.reverse c other

/-- So are several edits. -/
theorem EditedIn.reverse {count : Nat} {first second : List Char}
    (edits : EditedIn count first second) : EditedIn count first.reverse second.reverse := by
  induction edits with
  | none text => exact .none text.reverse
  | next edit _ ih => exact .next edit.reverse ih

/-- Texts that are read backwards are as far away from each other. -/
theorem distanceChars_reverse (a b : List Char) :
    distanceChars a.reverse b.reverse = distanceChars a b := by
  have backwards (a b : List Char) : distanceChars a.reverse b.reverse ≤ distanceChars a b :=
    (editedIn_distanceChars a b).reverse.distanceChars_le
  refine Nat.le_antisymm (backwards a b) ?_
  have forwards := backwards a.reverse b.reverse
  rwa [List.reverse_reverse, List.reverse_reverse] at forwards

/-- Two texts are no further away from each other than they are long together. -/
theorem distanceChars_le_add (a b : List Char) : distanceChars a b ≤ a.length + b.length := by
  induction a with
  | nil => rw [distanceChars_nil_left, List.length_nil, Nat.zero_add]
  | cons c a ih =>
    have longer := distanceChars_cons_left_le c a b
    rw [List.length_cons]
    omega

/-- **The edit distance is the least number of edits.**  One text is turned into the other by as many
insertions, deletions and replacements of single characters as the distance says, and by no fewer. -/
theorem distance_isLeast (a b : String) :
    IsLeast {count | EditedIn count a.toList b.toList} (distance a b) :=
  ⟨editedIn_distanceChars a.toList b.toList, fun _ edits => edits.distanceChars_le⟩

example : distance "kitten" "sitting" = 3 := by decide

end Orthography.Word
