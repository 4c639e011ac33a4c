import Mathlib.Data.List.Basic
import Orthography.Proofs.Unicode.CaseMapping

/-!
# Small forms are settled

A character is *settled* when it is its own small form wherever it stands (`Unicode.Settled`).  The
small form of a text is made up of the small forms of its characters (`Unicode.smallForm`), which
depend on the characters around them for a capital sigma only.  Whatever stands in a small form is the
letter that a shift leads to, or one of four letters that the exceptions lead to
(`Unicode.mem_smallForm_cases`), and all of them are settled: no shift leads to a letter that is moved
again.

So the small form of a text has only settled characters (`Unicode.settled_of_mem_lowercaseAfter`), and a
text of settled characters is its own small form (`Unicode.lowercaseAfter_of_settled`).
-/

namespace Orthography.Unicode

set_option autoImplicit false

/-! ## Small forms of characters -/

/-- The small form of a character, given the characters before it, nearest first, and those after
it. -/
def smallForm (before : List Char) (c : Char) (after : List Char) : List Char :=
  if c.toNat = 0x3A3 then
    [Char.ofNat (if leadsToCased before && !leadsToCased after then 0x3C2 else 0x3C3)]
  else toLowercase c

/-- The letters of small forms that no shift leads to: those of the capital sigma and of the dotted
capital I. -/
def exceptionalForms : List Char :=
  [Char.ofNat 0x3C2, Char.ofNat 0x3C3, 'i', Char.ofNat 0x307]

variable {before after text : List Char} {c d : Char}

/-- The small form of a text starts with that of its first character. -/
theorem lowercaseAfter_cons (before : List Char) (c : Char) (rest : List Char) :
    lowercaseAfter before (c :: rest) = smallForm before c rest ++ lowercaseAfter (c :: before) rest :=
  rfl

/-- A character has a small form. -/
theorem smallForm_ne_nil (before : List Char) (c : Char) (after : List Char) :
    smallForm before c after ≠ [] := by
  unfold smallForm toLowercase
  split
  · exact List.cons_ne_nil _ _
  · split <;> exact List.cons_ne_nil _ _

/-- What stands in a small form is the letter that a shift leads to, or one of the exceptions. -/
theorem mem_smallForm_cases (member : d ∈ smallForm before c after) :
    d ∈ exceptionalForms ∨
      c.toNat ≠ 0x130 ∧ d = Char.ofNat (CaseShift.apply lowercaseShifts c.toNat) := by
  unfold smallForm toLowercase at member
  split at member
  · left
    rw [List.mem_singleton.mp member]
    split <;> simp [exceptionalForms]
  · split at member
    · left
      simp only [List.mem_cons, List.not_mem_nil, or_false] at member
      rcases member with rfl | rfl <;> simp [exceptionalForms]
    · next plain => exact .inr ⟨plain, List.mem_singleton.mp member⟩

/-! ## Settled characters -/

/-- A code point that no shift holds is not moved. -/
theorem CaseShift.apply_of_not_covered {shifts : List CaseShift} {n : Nat}
    (outside : CodeRun.covers (shifts.map CaseShift.run) n = false) : apply shifts n = n := by
  induction shifts with
  | nil => rfl
  | cons shift rest ih =>
    rw [List.map_cons, CodeRun.covers] at outside
    rw [apply]
    split
    · rfl
    · next start =>
      rw [if_neg start, Bool.or_eq_false_iff] at outside
      rw [if_neg (Bool.eq_false_iff.mp outside.1)]
      exact ih outside.2

/-- A character is settled when it is not moved on the way to small forms, and is not the dotted capital
I. -/
def Settled (c : Char) : Prop :=
  CaseShift.apply lowercaseShifts c.toNat = c.toNat ∧ c.toNat ≠ 0x130

instance : DecidablePred Settled :=
  fun c => inferInstanceAs
    (Decidable (CaseShift.apply lowercaseShifts c.toNat = c.toNat ∧ c.toNat ≠ 0x130))

/-- What the tables say about the letters that small forms lead to. -/
structure FormsSettled : Prop where
  /-- No shift leads to a letter that is moved again, -/
  unmoved :
    lowercaseShifts.all (CaseShift.imageAgrees false (lowercaseShifts.map CaseShift.run)) = true
  /-- and none leads to the dotted capital I. -/
  undotted : lowercaseShifts.all (CaseShift.imageAgrees false [⟨0x130, 0x130, 1⟩]) = true
  exceptional : exceptionalForms.all (fun c => decide (Settled c)) = true

/-- The letters that small forms lead to are settled. -/
theorem formsSettled : FormsSettled := by
  constructor <;> decide +kernel

/-- The character of a code point that is not moved is settled, whether the code point is valid or
not. -/
theorem settled_ofNat {n : Nat} (stays : CaseShift.apply lowercaseShifts n = n) (plain : n ≠ 0x130) :
    Settled (Char.ofNat n) := by
  rw [Char.ofNat]
  by_cases valid : n.isValidChar
  · rw [dif_pos valid]
    exact ⟨stays, plain⟩
  · rw [dif_neg valid]
    decide

/-- The letter that a shift leads to is settled. -/
theorem settled_shifted (plain : c.toNat ≠ 0x130) :
    Settled (Char.ofNat (CaseShift.apply lowercaseShifts c.toNat)) := by
  by_cases stays : CaseShift.apply lowercaseShifts c.toNat = c.toNat
  · rw [stays, Char.ofNat_toNat]
    exact ⟨stays, plain⟩
  · apply settled_ofNat
    · apply CaseShift.apply_of_not_covered
      exact CaseShift.covers_apply formsSettled.unmoved stays
    · intro dotted
      have other := CaseShift.covers_apply formsSettled.undotted stays
      rw [dotted] at other
      cases other

/-- What stands in a small form is settled. -/
theorem settled_of_mem_smallForm (member : d ∈ smallForm before c after) : Settled d := by
  rcases mem_smallForm_cases member with exceptional | ⟨plain, rfl⟩
  · exact of_decide_eq_true (List.all_eq_true.mp formsSettled.exceptional d exceptional)
  · exact settled_shifted plain

/-- A settled character is its own small form. -/
theorem smallForm_of_settled (settled : Settled c) : smallForm before c after = [c] := by
  obtain ⟨stays, plain⟩ := settled
  rw [smallForm, if_neg (ne_sigma_of_stays stays), toLowercase_of_stays stays plain]

/-! ## Small forms of texts -/

/-- The small form of a text has only settled characters. -/
theorem settled_of_mem_lowercaseAfter (member : c ∈ lowercaseAfter before text) : Settled c := by
  induction text generalizing before with
  | nil => cases member
  | cons first rest ih =>
    rw [lowercaseAfter_cons] at member
    rcases List.mem_append.mp member with here | later
    · exact settled_of_mem_smallForm here
    · exact ih later

/-- A text of settled characters is its own small form. -/
theorem lowercaseAfter_of_settled (settled : ∀ c ∈ text, Settled c) :
    lowercaseAfter before text = text := by
  induction text generalizing before with
  | nil => rfl
  | cons first rest ih =>
    obtain ⟨here, later⟩ := List.forall_mem_cons.mp settled
    rw [lowercaseAfter_cons, smallForm_of_settled here, ih later, List.singleton_append]

/-- **The small form of a text is its own small form.** -/
theorem lowercaseText_lowercaseText (text : List Char) :
    lowercaseText (lowercaseText text) = lowercaseText text := by
  apply lowercaseAfter_of_settled
  intro c member
  exact settled_of_mem_lowercaseAfter member

/-- The small form of a text starts within the small form of its first character. -/
theorem exists_of_mem_head? (starts : d ∈ (lowercaseAfter before text).head?) :
    ∃ c ∈ text.head?, ∃ after, d ∈ smallForm before c after := by
  cases text with
  | nil => cases starts
  | cons c rest =>
    rw [lowercaseAfter_cons, List.head?_append_of_ne_nil _ (smallForm_ne_nil _ _ _)] at starts
    exact ⟨c, rfl, rest, List.mem_of_mem_head? starts⟩

/-- The small form of a text ends within the small form of its last character. -/
theorem exists_of_mem_getLast? (ends : d ∈ (lowercaseAfter before text).getLast?) :
    ∃ c ∈ text.getLast?, ∃ front, d ∈ smallForm front c [] := by
  induction text generalizing before with
  | nil => cases ends
  | cons c rest ih =>
    rw [lowercaseAfter_cons] at ends
    cases rest with
    | nil =>
      rw [lowercaseAfter, List.append_nil] at ends
      exact ⟨c, rfl, before, List.mem_of_mem_getLast? ends⟩
    | cons next rest =>
      have filled : lowercaseAfter (c :: before) (next :: rest) ≠ [] := by
        rw [lowercaseAfter_cons]
        exact List.append_ne_nil_of_left_ne_nil (smallForm_ne_nil _ _ _) _
      rw [List.getLast?_append_of_ne_nil _ filled] at ends
      exact ih ends

end Orthography.Unicode
