import Orthography.Pattern.Expr

/-!
# What the parts of a pattern match

A match of a pattern is taken apart along the pattern, by one equivalence for each constructor that is
no repetition.  A repetition of characters of one class matches the texts that hold no other character
(`Pattern.matches_star_one_iff`), or those of them that are not empty if there has to be one
(`Pattern.matches_plus_one_iff`).
-/

namespace Orthography.Pattern

set_option autoImplicit false

variable {before matched after : List Char}

@[simp]
theorem matches_empty_iff : Matches .empty before matched after ↔ matched = [] := by
  constructor
  · intro found
    cases found
    rfl
  · rintro rfl
    exact .empty before after

@[simp]
theorem matches_one_iff {set : CharSet} :
    Matches (.one set) before matched after ↔
      ∃ c, matched = [c] ∧ set.contains c.toNat = true := by
  constructor
  · intro found
    cases found with
    | one _ _ member => exact ⟨_, rfl, member⟩
  · rintro ⟨c, rfl, member⟩
    exact .one before after member

@[simp]
theorem matches_at_iff {place : Place} :
    Matches (.at place) before matched after ↔
      matched = [] ∧ place.holds before.getLast? after.head? = true := by
  constructor
  · intro found
    cases found with
    | «at» _ _ here => exact ⟨rfl, here⟩
  · rintro ⟨rfl, here⟩
    exact .at before after here

theorem matches_seq_iff {first second : Expr} :
    Matches (.seq first second) before matched after ↔
      ∃ left right, matched = left ++ right ∧ Matches first before left (right ++ after) ∧
        Matches second (before ++ left) right after := by
  constructor
  · intro found
    cases found with
    | seq leftMatch rightMatch => exact ⟨_, _, rfl, leftMatch, rightMatch⟩
  · rintro ⟨left, right, rfl, leftMatch, rightMatch⟩
    exact .seq leftMatch rightMatch

theorem matches_alt_iff {first second : Expr} :
    Matches (.alt first second) before matched after ↔
      Matches first before matched after ∨ Matches second before matched after := by
  constructor
  · intro found
    cases found with
    | altLeft leftMatch => exact Or.inl leftMatch
    | altRight rightMatch => exact Or.inr rightMatch
  · rintro (leftMatch | rightMatch)
    · exact .altLeft leftMatch
    · exact .altRight rightMatch

/-! ## Rows of characters -/

variable {set : CharSet}

/-- A row of characters of a class holds no other character. -/
theorem contains_of_matches_star_one (found : Matches (.star (.one set)) before matched after) :
    ∀ c ∈ matched, set.contains c.toNat = true := by
  generalize row : Expr.star (.one set) = pattern at found
  induction found with
  | starNone => simp
  | starMore leftMatch _ _ ih =>
    obtain rfl := Expr.star.inj row
    obtain ⟨c, rfl, member⟩ := matches_one_iff.mp leftMatch
    simpa using ⟨member, ih rfl⟩
  | empty => cases row
  | one => cases row
  | «at» => cases row
  | seq => cases row
  | altLeft => cases row
  | altRight => cases row

/-- A text of characters of a class is a row of them. -/
theorem matches_star_one (members : ∀ c ∈ matched, set.contains c.toNat = true) :
    Matches (.star (.one set)) before matched after := by
  induction matched generalizing before with
  | nil => exact .starNone before after
  | cons c rest ih =>
    have head : Matches (.one set) before [c] (rest ++ after) :=
      .one before (rest ++ after) (members c List.mem_cons_self)
    exact .starMore head (ih fun other member => members other (List.mem_cons_of_mem c member))

/-- **A row of characters of a class**, perhaps empty. -/
@[simp]
theorem matches_star_one_iff :
    Matches (.star (.one set)) before matched after ↔
      ∀ c ∈ matched, set.contains c.toNat = true :=
  ⟨contains_of_matches_star_one, matches_star_one⟩

/-- **A row of characters of a class** that is not empty. -/
@[simp]
theorem matches_plus_one_iff :
    Matches (.plus (.one set)) before matched after ↔
      matched ≠ [] ∧ ∀ c ∈ matched, set.contains c.toNat = true := by
  rw [Expr.plus, matches_seq_iff]
  constructor
  · rintro ⟨left, right, rfl, leftMatch, rightMatch⟩
    obtain ⟨c, rfl, member⟩ := matches_one_iff.mp leftMatch
    simpa using ⟨member, matches_star_one_iff.mp rightMatch⟩
  · rintro ⟨filled, members⟩
    obtain ⟨c, rest, rfl⟩ := List.exists_cons_of_ne_nil filled
    obtain ⟨head, others⟩ := List.forall_mem_cons.mp members
    exact ⟨[c], rest, rfl, matches_one_iff.mpr ⟨c, rfl, head⟩, matches_star_one_iff.mpr others⟩

end Orthography.Pattern
