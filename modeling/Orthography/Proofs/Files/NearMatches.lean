import Orthography.Proofs.Checker
import Orthography.Proofs.Files.Fix

/-!
# Which corrections are near

The corrections that are reported and made for a flagged word are meant to be near entries of a level
that counts as correct.  The checker itself always has something to offer: when nothing is near, the
first accepted entry, and when nothing is accepted at all, the first entry of any level.  The files
drop what is not near.  This drops an accepted entry that is only offered because nothing is near, but
it keeps an entry of a level that does not count as correct if that entry happens to be near.

So the corrections for a word are as they are meant to be exactly when no entry that does not count
as correct stands in for the accepted ones (`offersOnlyAccepted_iff`).
-/

namespace Orthography.Files

set_option autoImplicit false

open Spelling (flagged)

/-- Whether an entry is near enough to a word to correct it. -/
def IsNear (checker : Checker) (word : String) (entry : Entry) : Prop :=
  (Word.relativeDistance entry.key (Word.key word)).le checker.settings.maxDistance = true

/-- A correction that is meant for a word: the head word of a near entry of a level that counts as
correct, with the capital of the word taken over. -/
def IsMeant (checker : Checker) (word suggestion : String) : Prop :=
  ∃ entry ∈ checker.lexicon.entries, checker.settings.accepts entry.level = true ∧
    IsNear checker word entry ∧ suggestion = Word.matchCase word entry.headWord

/-- The corrections for a word are as they are meant to be. -/
structure OffersOnlyAccepted (checker : Checker) (word : String) : Prop where
  /-- Each of them is meant for the word. -/
  meant : ∀ suggestion ∈ nearMatches checker word, IsMeant checker word suggestion
  /-- There is none when no entry of a level that counts as correct is near. -/
  nothing :
    (∀ entry ∈ checker.lexicon.entries, checker.settings.accepts entry.level = true →
      ¬ IsNear checker word entry) → nearMatches checker word = []

/-- No entry counts as correct, and the first entry of all, which the checker falls back on, is near
the word without being the word itself. -/
def FallsBackNear (checker : Checker) (word : String) : Prop :=
  (∀ entry ∈ checker.lexicon.entries, checker.settings.accepts entry.level = false) ∧
    ∃ first rest, checker.lexicon.entries = first :: rest ∧
      first.key ≠ Word.key word ∧ IsNear checker word first

variable {checker : Checker} {word : String}

/-- The near corrections are the near offers of the checker other than the word itself. -/
theorem mem_nearMatches {suggestion : String} :
    suggestion ∈ nearMatches checker word ↔
      ∃ offer ∈ checker.check word, Word.key offer ≠ Word.key word ∧
        (Word.relativeDistance (Word.key offer) (Word.key word)).le checker.settings.maxDistance
          = true ∧
        Word.matchCase word offer = suggestion := by
  simp only [nearMatches, List.mem_filterMap, Option.ite_none_right_eq_some, Bool.and_eq_true,
    decide_eq_true_eq, Option.some.injEq, and_assoc]

/-- A near correction is meant for its word, or it comes from falling back. -/
theorem isMeant_or_fallsBackNear (needs : checker.needsCorrection word = true)
    {suggestion : String} (offered : suggestion ∈ nearMatches checker word) :
    IsMeant checker word suggestion ∨ FallsBackNear checker word := by
  obtain ⟨offer, found, other, near, rfl⟩ := mem_nearMatches.mp offered
  obtain ⟨entry, rfl, accepted | ⟨none, rest, all⟩⟩ := Checker.exists_entry_of_mem_check needs found
  · obtain ⟨member, accepts⟩ := Checker.mem_accepted.mp accepted
    exact .inl ⟨entry, member, accepts, near, rfl⟩
  · exact .inr ⟨Checker.accepted_eq_nil_iff.mp none, entry, rest, all, other, near⟩

/-- A word that falls back near is offered the entry that it falls back on. -/
theorem mem_nearMatches_of_fallsBackNear (needs : checker.needsCorrection word = true)
    (falls : FallsBackNear checker word) :
    ∃ entry ∈ checker.lexicon.entries, checker.settings.accepts entry.level = false ∧
      Word.matchCase word entry.headWord ∈ nearMatches checker word := by
  obtain ⟨none, first, rest, all, other, near⟩ := falls
  have member : first ∈ checker.lexicon.entries := by
    rw [all]
    exact List.mem_cons_self
  have offered : first.headWord ∈ checker.check word := by
    rw [Checker.check_eq_first needs (Checker.accepted_eq_nil_iff.mpr none) all]
    exact List.mem_singleton_self _
  exact ⟨first, member, none first member,
    mem_nearMatches.mpr ⟨first.headWord, offered, other, near, rfl⟩⟩

/-- **The corrections for a flagged word are as they are meant to be exactly when the word does not
fall back near.** -/
theorem offersOnlyAccepted_iff (needs : checker.needsCorrection word = true) :
    OffersOnlyAccepted checker word ↔ ¬ FallsBackNear checker word := by
  constructor
  · intro only falls
    obtain ⟨fallback, _, _, offered⟩ := mem_nearMatches_of_fallsBackNear needs falls
    obtain ⟨entry, member, accepts, _⟩ := only.meant _ offered
    have rejects := falls.1 entry member
    rw [accepts] at rejects
    cases rejects
  · intro stays
    have meant : ∀ suggestion ∈ nearMatches checker word, IsMeant checker word suggestion := by
      intro suggestion offered
      cases isMeant_or_fallsBackNear needs offered with
      | inl meant => exact meant
      | inr falls => exact absurd falls stays
    refine ⟨meant, fun far => List.eq_nil_iff_forall_not_mem.mpr fun suggestion offered => ?_⟩
    obtain ⟨entry, member, accepts, near, _⟩ := meant suggestion offered
    exact far entry member accepts near

/-! ## Files -/

/-- What a file has to do with the near corrections for its flagged words: they are what is reported,
and nothing else is ever put in the place of a word. -/
structure CorrectsByNearMatches (session : Session) (disk : Disk) (path before : String)
    (document : Document) : Prop where
  /-- Only words that have to be corrected are flagged. -/
  needed : ∀ token ∈ document.lines.flatMap (flagged session.workspace),
    session.checker.needsCorrection token.text = true
  /-- The findings offer the near corrections for the flagged words. -/
  reported : ∃ result, (check session disk path).1 = .ok result ∧
    result.findings.map wordAndSuggestions
      = (document.lines.flatMap (flagged session.workspace)).map
        fun token => (token.text, nearMatches session.checker token.text)
  /-- A flagged word is replaced by a near correction or, if it has none, by itself. -/
  replaced : ∀ token : Token,
    replacement session.checker token ∈ nearMatches session.checker token.text ∨
      nearMatches session.checker token.text = [] ∧
        replacement session.checker token = token.text
  /-- Fixing leaves the disk alone or writes the file with just these replacements made. -/
  written : (fix session disk path).2.2 = disk ∨
    (fix session disk path).2.2
      = (disk.write path (bytesAfter session.workspace before document)).2

/-- A token is replaced by the first near correction or, if there is none, by itself. -/
theorem replacement_cases (checker : Checker) (token : Token) :
    replacement checker token ∈ nearMatches checker token.text ∨
      nearMatches checker token.text = [] ∧ replacement checker token = token.text := by
  unfold replacement
  cases nearMatches checker token.text with
  | nil => exact .inr ⟨rfl, rfl⟩
  | cons nearest others => exact .inl List.mem_cons_self

/-- Checking and fixing a file whose lines have numbers of 32 bits go by the near corrections. -/
theorem correctsByNearMatches {session : Session} {disk : Disk} {path before : String}
    {document : Document} (only : session.OnlySpelling)
    (opened : readDocument disk path = .ok (before, document))
    (numbered : document.lines.length ≤ Nat.pow 2 32) :
    CorrectsByNearMatches session disk path before document := by
  have reported := only.diagnostics_eq numbered
  have outcomes := fix_eq opened reported
  refine ⟨?_, exists_findings opened reported, replacement_cases session.checker, ?_⟩
  · intro token flag
    obtain ⟨line, _, here⟩ := List.mem_flatMap.mp flag
    exact ((Spelling.mem_flagged session.workspace).mp here).2.2
  · rw [outcomes]
    split
    · exact .inl rfl
    · right
      show (writeDocument disk path before (substituted session.workspace document)).2 = _
      rw [writeDocument, bytesAfter]
      split
      · next success => rw [success]
      · next failure => rw [failure]

/-- **Which corrections are made.**  In a session with the spelling analyzers and no others, the
corrections for a flagged word are as they are meant to be exactly when the word does not fall back
near; and checking and fixing a file of at most `2 ^ 32` lines go by these corrections.

With more lines than that a line would be taken for an earlier one.  Columns are counted without a
bound here; that counting them in 32 bits comes to the same is `Guarded.checkFile_eq` and
`Guarded.fixFile_eq`, for lines of fewer than `2 ^ 32` units. -/
theorem corrections_meant_iff {session : Session} (only : session.OnlySpelling) :
    (∀ word, session.checker.needsCorrection word = true →
      (OffersOnlyAccepted session.checker word ↔ ¬ FallsBackNear session.checker word)) ∧
    ∀ (disk : Disk) (path before : String) (document : Document),
      readDocument disk path = .ok (before, document) → document.lines.length ≤ Nat.pow 2 32 →
        CorrectsByNearMatches session disk path before document :=
  ⟨fun _ needs => offersOnlyAccepted_iff needs,
    fun _ _ _ _ opened numbered => correctsByNearMatches only opened numbered⟩

/-- A session whose only word does not count as correct. -/
def unverifiedSession : Session :=
  { workspace :=
      { configuration := Configuration.default
        settings := { maxDistance := Binary64.ofRatio 3 10 }
        lexicon :=
          { Lexicon.inMemory with
            index := Lexicon.addEntries KeyMap.empty [Entry.ofWord "hello" .unverified ⟨0⟩] } }
    registry := Session.initialRegistry Configuration.default }

/-- A word near an entry that does not count as correct is corrected to it. -/
theorem corrections_meant_iff_unverified :
    unverifiedSession.OnlySpelling ∧
      unverifiedSession.checker.needsCorrection "helllo" = true ∧
      FallsBackNear unverifiedSession.checker "helllo" ∧
      nearMatches unverifiedSession.checker "helllo" = ["hello"] ∧
      ¬ OffersOnlyAccepted unverifiedSession.checker "helllo" := by
  have only : unverifiedSession.OnlySpelling := Session.slot_initialRegistry Configuration.default
  have needs : unverifiedSession.checker.needsCorrection "helllo" = true := by decide +kernel
  have all : unverifiedSession.checker.lexicon.entries = [Entry.ofWord "hello" .unverified ⟨0⟩] := by
    rfl
  have falls : FallsBackNear unverifiedSession.checker "helllo" := by
    refine ⟨?_, Entry.ofWord "hello" .unverified ⟨0⟩, [], all, ?_, ?_⟩
    · intro entry member
      rw [all, List.mem_singleton] at member
      rw [member]
      decide +kernel
    · decide +kernel
    · unfold IsNear
      decide +kernel
  have condition := (corrections_meant_iff only).1 "helllo" needs
  exact ⟨only, needs, falls, by decide +kernel, fun offers => condition.mp offers falls⟩

end Orthography.Files
