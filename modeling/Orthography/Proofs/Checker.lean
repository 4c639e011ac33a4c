import Orthography.Checker

/-!
# What the checker decides and offers

A word that has to be corrected has a key (`Checker.key_ne_empty`).  Whatever is offered for it is
the head word of an entry.  The entry is accepted as a rule; only when the lexicon has no accepted
entry at all is it the first one of any level (`Checker.exists_entry_of_mem_check`).
-/

namespace Orthography

set_option autoImplicit false

/-- A text with a character in it has a small form with one. -/
theorem Unicode.lowercaseText_ne_nil {text : List Char} (filled : text ≠ []) :
    lowercaseText text ≠ [] := by
  cases text with
  | nil => exact absurd rfl filled
  | cons c rest =>
    rw [lowercaseText, lowercaseAfter]
    split
    · exact List.cons_ne_nil _ _
    · unfold toLowercase
      split <;> exact List.cons_ne_nil _ _

namespace Checker

variable {checker : Checker}

/-- A word that has to be corrected has a key: one that is nothing but white space and punctuation is
exempt. -/
theorem key_ne_empty {word : String} (needs : checker.needsCorrection word = true) :
    Word.key word ≠ "" := by
  simp only [needsCorrection, ignores, Word.isExempt, Word.isExemptChars, Bool.and_eq_true,
    Bool.not_eq_true', Bool.or_eq_false_iff, List.isEmpty_eq_false_iff] at needs
  obtain ⟨⟨⟨⟨⟨inner, -⟩, -⟩, -⟩, -⟩, -⟩ := needs
  rw [Word.key, Word.keyChars, ne_eq, String.ofList_eq_empty_iff]
  exact Unicode.lowercaseText_ne_nil inner

/-- The accepted entries are the entries of a level that counts as correct. -/
theorem mem_accepted {entry : Entry} :
    entry ∈ checker.accepted
      ↔ entry ∈ checker.lexicon.entries ∧ checker.settings.accepts entry.level = true :=
  List.mem_filter

/-- Without entries of a level that counts as correct there are no accepted entries. -/
theorem accepted_eq_nil_iff :
    checker.accepted = []
      ↔ ∀ entry ∈ checker.lexicon.entries, checker.settings.accepts entry.level = false := by
  simp only [List.eq_nil_iff_forall_not_mem, mem_accepted, not_and, Bool.not_eq_true]

/-- Ranking neither adds nor loses anything. -/
theorem mem_ranked {α : Type} {scored : List (Nat × α)} {element : α} :
    element ∈ ranked scored ↔ ∃ score, (score, element) ∈ scored := by
  simp only [ranked, List.mem_map, List.mem_mergeSort, Prod.exists, exists_eq_right]

/-- The candidates are accepted entries. -/
theorem mem_accepted_of_mem_candidates {key : String} {score : Nat} {entry : Entry}
    (member : (score, entry) ∈ checker.candidates key) : entry ∈ checker.accepted := by
  obtain ⟨other, accepted, chosen⟩ := List.mem_filterMap.mp member
  simp only [Option.ite_none_right_eq_some, Option.some.injEq, Prod.mk.injEq] at chosen
  rw [← chosen.2.2]
  exact accepted

/-- The fallback is an accepted entry or, if there is none, the first entry of any level. -/
theorem exists_entry_of_mem_fallback {offer : String} (offered : offer ∈ checker.fallback) :
    ∃ entry, offer = entry.headWord ∧
      (entry ∈ checker.accepted ∨
        checker.accepted = [] ∧ ∃ rest, checker.lexicon.entries = entry :: rest) := by
  rw [fallback] at offered
  cases accepted : checker.accepted with
  | cons entry others =>
    rw [accepted] at offered
    exact ⟨entry, List.mem_singleton.mp offered, .inl List.mem_cons_self⟩
  | nil =>
    cases all : checker.lexicon.entries with
    | cons entry rest =>
      rw [accepted, all] at offered
      exact ⟨entry, List.mem_singleton.mp offered, .inr ⟨rfl, rest, rfl⟩⟩
    | nil =>
      rw [accepted, all] at offered
      cases offered

variable {word : String}

/-- **Whatever is offered is an accepted entry**, or else the first entry of any level while no entry
is accepted. -/
theorem exists_entry_of_mem_check (needs : checker.needsCorrection word = true) {offer : String}
    (offered : offer ∈ checker.check word) :
    ∃ entry, offer = entry.headWord ∧
      (entry ∈ checker.accepted ∨
        checker.accepted = [] ∧ ∃ rest, checker.lexicon.entries = entry :: rest) := by
  simp only [check, needs, Bool.not_true, Bool.false_eq_true, if_false] at offered
  split at offered
  · exact exists_entry_of_mem_fallback offered
  · obtain ⟨entry, chosen, rfl⟩ := List.mem_map.mp offered
    obtain ⟨score, candidate⟩ := mem_ranked.mp (List.mem_of_mem_take chosen)
    exact ⟨entry, rfl, .inl (mem_accepted_of_mem_candidates candidate)⟩

/-- While no entry is accepted, the first entry of any level is offered. -/
theorem check_eq_first (needs : checker.needsCorrection word = true)
    (none : checker.accepted = []) {first : Entry} {rest : List Entry}
    (all : checker.lexicon.entries = first :: rest) : checker.check word = [first.headWord] := by
  have candidates : checker.candidates (Word.key word) = [] := by
    rw [Checker.candidates, none]
    rfl
  simp only [check, needs, Bool.not_true, Bool.false_eq_true, if_false, candidates, fallback, none,
    all]

end Checker

end Orthography
