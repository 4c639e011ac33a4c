import Orthography.Proofs.Capitals
import Orthography.Proofs.Files.NearMatches
import Orthography.Proofs.Unicode.SmallForm

/-!
# Keys are settled

The key of a word is made in two steps: white space and punctuation are taken off its ends, and the
rest is turned into small letters.  Neither step gives the other one anything new to do.  Small letters
in the place of others bring no white space or punctuation to the ends of a word
(`Word.isEdge_of_mem_smallForm`), so there is nothing more to take off; and a small form is its own
small form (`Unicode.lowercaseText_lowercaseText`).

So a key is its own key (`Word.key_key`).  It is empty for words of nothing but white space and
punctuation, and for no others (`Word.key_eq_empty_iff`).  The checker answers with the key when a
word needs no correction, and this is no correction, since it has the key of the word
(`Files.nearMatches_of_correct`).
-/

namespace Orthography

set_option autoImplicit false

namespace Word

open Unicode (CodeRun CaseShift lowercaseShifts lowercaseText smallForm exceptionalForms)

variable {before after word : List Char} {c d : Char}

/-! ## Small letters at the ends of a word -/

/-- What the edges have to do with the letters that small forms lead to. -/
structure FormsInner : Prop where
  /-- No shift leads to an edge, -/
  shifted : lowercaseShifts.all (CaseShift.imageAgrees false edges) = true
  /-- and neither do the exceptions. -/
  exceptional : exceptionalForms.all (fun c => !isEdge c) = true

/-- The letters that small forms lead to are no edges. -/
theorem formsInner : FormsInner := by
  constructor <;> decide +kernel

/-- The small form of a character that is no edge has no edge in it. -/
theorem isEdge_of_mem_smallForm (inner : isEdge c = false) (member : d ∈ smallForm before c after) :
    isEdge d = false := by
  rcases Unicode.mem_smallForm_cases member with exceptional | ⟨-, rfl⟩
  · simpa using List.all_eq_true.mp formsInner.exceptional d exceptional
  · by_cases stays : CaseShift.apply lowercaseShifts c.toNat = c.toNat
    · rw [stays, Char.ofNat_toNat]
      exact inner
    · exact isEdge_ofNat (CaseShift.covers_apply formsInner.shifted stays)

/-- Nothing is taken off the small form of a word from which nothing is taken off. -/
theorem surfaceChars_lowercaseText (bare : surfaceChars word = word) :
    surfaceChars (lowercaseText word) = lowercaseText word := by
  obtain ⟨first, last⟩ := (trimBy_eq_self_iff isEdge).mp bare
  apply (trimBy_eq_self_iff isEdge).mpr
  constructor
  · intro d starts
    obtain ⟨c, here, after, member⟩ := Unicode.exists_of_mem_head? starts
    exact isEdge_of_mem_smallForm (first c here) member
  · intro d ends
    obtain ⟨c, here, front, member⟩ := Unicode.exists_of_mem_getLast? ends
    exact isEdge_of_mem_smallForm (last c here) member

/-! ## Keys -/

/-- **A key is its own key.** -/
theorem key_key (word : String) : key (key word) = key word := by
  have bare : surfaceChars (surfaceChars word.toList) = surfaceChars word.toList :=
    trimBy_trimBy isEdge word.toList
  rw [key, key, String.toList_ofList, String.ofList_inj, keyChars, keyChars,
    surfaceChars_lowercaseText bare, Unicode.lowercaseText_lowercaseText]

/-- **A key is empty** for words of nothing but white space and punctuation, and for no others. -/
theorem key_eq_empty_iff (word : String) : key word = "" ↔ AllEdges word := by
  rw [key, keyChars, String.ofList_eq_empty_iff, AllEdges, ← trimBy_eq_nil_iff isEdge]
  constructor
  · intro empty
    by_contra filled
    exact Unicode.lowercaseText_ne_nil filled empty
  · intro empty
    rw [surfaceChars, empty]
    rfl

end Word

/-- There are no near corrections for a word that needs none. -/
theorem Files.nearMatches_of_correct {checker : Checker} {word : String}
    (correct : checker.needsCorrection word = false) : nearMatches checker word = [] := by
  apply List.eq_nil_iff_forall_not_mem.mpr
  intro suggestion offered
  obtain ⟨offer, found, other, -, -⟩ := mem_nearMatches.mp offered
  have answer : checker.check word = [Word.key word] := by
    simp [Checker.check, correct]
  rw [answer] at found
  rw [List.mem_singleton.mp found, Word.key_key] at other
  exact other rfl

namespace Word

/-- **Making keys settles after one step.**  A key is its own key, and the surface form of a word has
the key of the word; the key is empty exactly if there is nothing but white space and punctuation in
the word.  So the files of no session have near corrections for a word that needs none. -/
theorem keys_settle :
    (∀ word, key (key word) = key word ∧ key (surface word) = key word ∧
        (key word = "" ↔ AllEdges word)) ∧
      ∀ (session : Session) (word : String), session.checker.needsCorrection word = false →
        Files.nearMatches session.checker word = [] := by
  constructor
  · intro word
    exact ⟨key_key word, key_surface word, key_eq_empty_iff word⟩
  · intro session word correct
    exact Files.nearMatches_of_correct correct

/-- A session that knows two names, whose capitals have small forms of their own: two letters for the
dotted I, and another sigma at the end. -/
def namesSession : Session :=
  { workspace :=
      { configuration := Configuration.default
        settings := { maxDistance := Binary64.ofRatio 1 1 }
        lexicon :=
          Lexicon.inMemory.afterCalls <|
            ["İstanbul", "Οδυσσεύς"].map fun word => (⟨{}, ⟨0⟩⟩, .define word .verified) }
    registry := Session.initialRegistry Configuration.default }

/-- The names are known in other spellings, and have no near corrections then, though either of them
is near the other one.  With a sigma of the wrong kind the second one is not known. -/
theorem keys_settle_names :
    key "«ΟΔΥΣΣΕΎΣ, İ!»" = "οδυσσεύς, i̇" ∧ key "οδυσσεύς, i̇" = "οδυσσεύς, i̇" ∧
      namesSession.checker.needsCorrection "(Οδυσσεύσ)" = true ∧
      namesSession.checker.needsCorrection "(ΟΔΥΣΣΕύΣ)" = false ∧
      Files.nearMatches namesSession.checker "(ΟΔΥΣΣΕύΣ)" = [] := by
  have once : key "«ΟΔΥΣΣΕΎΣ, İ!»" = "οδυσσεύς, i̇" := by decide +kernel
  have correct : namesSession.checker.needsCorrection "(ΟΔΥΣΣΕύΣ)" = false := by decide +kernel
  have twice := (keys_settle.1 "«ΟΔΥΣΣΕΎΣ, İ!»").1
  rw [once] at twice
  exact ⟨once, twice, by decide +kernel, correct, keys_settle.2 namesSession _ correct⟩

end Word

end Orthography
