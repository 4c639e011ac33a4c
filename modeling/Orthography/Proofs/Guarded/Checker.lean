import Orthography.Checker
import Orthography.Proofs.Guarded.Distance
import Orthography.Proofs.Traversal

/-!
# Checking words on guard

Ranking corrections comes down to edit distances (`Guarded.check_eq`).  To complete a stem, what
follows its first occurrence in a head word is cut off by bytes: behind the offset where the stem was
found and as many bytes as the stem has.  There the occurrence ends, and so the head word can be cut
(`Guarded.ending_eq`), whatever letters it is written in.
-/

namespace Orthography.Guarded

set_option autoImplicit false

open Columns (byteLength)
open Traversal (filterMapM_eq_some)

variable (checker : Checker)

/-! ## Corrections -/

/-- The edit distance in relation to the length of the first text. -/
def relativeDistance (reference word : String) : Option Binary64 := do
  let edits ← distance reference.toList word.toList
  return Binary64.ofRatio edits (max reference.length 1)

/-- The accepted entries that are near enough to a key, each with its distance. -/
def candidates (key : String) : Option (List (Nat × Entry)) :=
  checker.accepted.filterMapM fun entry => do
    let distance ← relativeDistance entry.key key
    return if distance.le checker.settings.maxDistance then some (distance.magnitude, entry)
      else none

/-- Corrections for a word, best first. -/
def check (word : String) : Option (List String) :=
  if !checker.needsCorrection word then some [Word.key word]
  else do
    match ← candidates checker (Word.key word) with
    | [] => return checker.fallback
    | near => return ((Checker.ranked near).take checker.settings.maxSuggestions).map Entry.headWord

theorem relativeDistance_eq (reference word : String) :
    relativeDistance reference word = some (Word.relativeDistance reference word) := by
  rw [relativeDistance, distance_eq]
  rfl

theorem candidates_eq (key : String) : candidates checker key = some (checker.candidates key) := by
  refine filterMapM_eq_some fun entry _ => ?_
  rw [relativeDistance_eq]
  rfl

/-- **Corrections are found for every word.** -/
theorem check_eq (word : String) : check checker word = some (checker.check word) := by
  rw [check, Checker.check, candidates_eq]
  split
  · rfl
  · cases checker.candidates (Word.key word) <;> rfl

/-! ## Completions -/

/-- The byte offset of the first occurrence of a text in another one, if there is one. -/
def offsetOf (part : List Char) : List Char → Option Nat
  | [] => if part.isEmpty then some 0 else none
  | c :: rest =>
    if part.isPrefixOf (c :: rest) then some 0
    else (offsetOf part rest).map (c.utf8Size + ·)

/-- The part of a head word after the first occurrence of a stem, if there is one. -/
def ending (stem headWord : List Char) : Option (Option (List Char)) :=
  match offsetOf stem headWord with
  | none => some none
  | some start => do
    let stop ← count (byteLength headWord) start (byteLength stem)
    let parts ← splitAt stop headWord
    return some parts.2

/-- The verified head words that contain a stem: what follows its first occurrence, with the edit
distance between the two. -/
def endings (stem : String) : Option (List (Nat × String)) :=
  (checker.lexicon.entriesAt [.verified]).filterMapM fun entry => do
    match ← ending stem.toList entry.headWord.toList with
    | none => return none
    | some rest =>
      let edits ← distance rest stem.toList
      return some (edits, String.ofList rest)

/-- Endings that complete a word, those nearest to its surface form first. -/
def complete (word : String) : Option (List String) :=
  let stem := Word.surface word
  if stem.isEmpty then some []
  else do
    let found ← endings checker stem
    return (Checker.ranked found).take checker.settings.maxCompletions

/-- A text that is not found does not occur; one that is found stands at its offset. -/
theorem offsetOf_spec (part text : List Char) :
    offsetOf part text = none ∧ Checker.afterFirst part text = none ∨
      ∃ front back, text = front ++ (part ++ back) ∧
        offsetOf part text = some (byteLength front) ∧
        Checker.afterFirst part text = some back := by
  induction text with
  | nil =>
    cases part with
    | nil => exact .inr ⟨[], [], rfl, rfl, rfl⟩
    | cons c rest => exact .inl ⟨rfl, rfl⟩
  | cons c rest ih =>
    by_cases here : part.isPrefixOf (c :: rest) = true
    · obtain ⟨back, whole⟩ := List.isPrefixOf_iff_prefix.mp here
      refine .inr ⟨[], back, whole.symm, if_pos here, ?_⟩
      rw [Checker.afterFirst, if_pos here, ← whole, List.drop_left]
    · rw [offsetOf, if_neg here, Checker.afterFirst, if_neg here]
      rcases ih with ⟨missing, nothing⟩ | ⟨front, back, whole, found, after⟩
      · exact .inl ⟨by rw [missing, Option.map_none], nothing⟩
      · exact .inr ⟨c :: front, back, by rw [whole, List.cons_append],
          by rw [found, Option.map_some, byteLength], after⟩

/-- **What follows a stem can be cut off.** -/
theorem ending_eq (stem headWord : List Char) :
    ending stem headWord = some (Checker.afterFirst stem headWord) := by
  rcases offsetOf_spec stem headWord with
    ⟨missing, nothing⟩ | ⟨front, back, whole, found, after⟩
  · rw [ending, missing, nothing]
  · rw [← List.append_assoc] at whole
    have stop : count (byteLength headWord) (byteLength front) (byteLength stem)
        = some (byteLength (front ++ stem)) := by
      rw [whole, count_byteLength]
    have parts : splitAt (byteLength (front ++ stem)) headWord = some (front ++ stem, back) := by
      rw [whole, splitAt_byteLength]
    rw [ending, found, after]
    dsimp only
    rw [stop, Option.bind_eq_bind, Option.bind_some, parts]
    rfl

theorem endings_eq (stem : String) : endings checker stem = some (checker.endings stem) := by
  refine filterMapM_eq_some fun entry _ => ?_
  rw [ending_eq, Option.bind_eq_bind, Option.bind_some]
  cases Checker.afterFirst stem.toList entry.headWord.toList with
  | none => rfl
  | some rest =>
    dsimp only
    rw [distance_eq, Option.map_some, Word.distance, String.toList_ofList]
    rfl

/-- **Endings are found for every word.** -/
theorem complete_eq (word : String) : complete checker word = some (checker.complete word) := by
  rw [complete, Checker.complete, endings_eq]
  split <;> rfl

end Orthography.Guarded
