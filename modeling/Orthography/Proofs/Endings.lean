import Orthography.Proofs.Completion
import Orthography.Proofs.Ranking

/-!
# The order of endings

A word is completed by the verified entries that have its surface form, the *stem*, in their head words
(`Checker.containing`).  What each of them offers is the part of its head word after the first
occurrence of the stem (`Checker.endingOf`), and the number that it is ranked by is the distance of this
part from the stem.  The stem and the ending are all that ranking looks at, but two entries can have
the same ending, so the order is one of entries: endings are ranked as their entries are
(`Checker.complete_eq`), by distance and key.
-/

namespace Orthography.Checker

set_option autoImplicit false

variable {checker : Checker} {word : String}

/-! ## The entries that complete a word -/

/-- The verified entries with a text in their head words, in the order of their keys. -/
def containing (checker : Checker) (stem : String) : List Entry :=
  checker.lexicon.entries.filter fun entry =>
    entry.level = .verified ∧ stem.toList <:+: entry.headWord.toList

/-- What follows the first occurrence of a text in the head word of an entry. -/
def endingOf (stem : String) (entry : Entry) : String :=
  String.ofList ((afterFirst stem.toList entry.headWord.toList).getD [])

/-- The distance of this part from the text. -/
def endingDistance (stem : String) (entry : Entry) : Nat :=
  Word.distance (endingOf stem entry) stem

/-- A text is looked for in the head words of the verified entries. -/
theorem containing_eq_filter (checker : Checker) (stem : String) :
    checker.containing stem = (checker.lexicon.entriesAt [.verified]).filter fun entry =>
      stem.toList <:+: entry.headWord.toList := by
  rw [containing, Lexicon.entriesAt, List.filter_filter]
  refine List.filter_congr fun entry _ => ?_
  rw [Bool.decide_and, Bool.and_comm]
  simp only [List.contains_cons, List.contains_nil, Bool.or_false, beq_eq_decide]

/-- The endings are those of the entries with the stem in their head words. -/
theorem endings_eq_map_containing (checker : Checker) (stem : String) :
    checker.endings stem
      = (checker.containing stem).map fun entry =>
          (endingDistance stem entry, endingOf stem entry) := by
  rw [endings, containing_eq_filter]
  induction checker.lexicon.entriesAt [.verified] with
  | nil => rfl
  | cons entry rest ih =>
    rw [List.filterMap_cons, List.filter_cons, ih]
    simp only [← isSome_afterFirst_iff, endingDistance, endingOf]
    cases found : afterFirst stem.toList entry.headWord.toList with
    | none => rfl
    | some ending => simp [found]

/-- The entries with a text in their head words, the one with the nearest ending first. -/
def closest (checker : Checker) (stem : String) : List Entry :=
  ranked ((checker.containing stem).map fun entry => (endingDistance stem entry, entry))

/-- A word is completed by the endings of the first entries. -/
theorem complete_eq (filled : Word.surface word ≠ "") :
    checker.complete word
      = ((checker.closest (Word.surface word)).take checker.settings.maxCompletions).map
          (endingOf (Word.surface word)) := by
  simp only [complete]
  rw [if_neg (by simpa using filled), endings_eq_map_containing, List.map_take, closest,
    ← ranked_map, List.map_map]
  rfl

/-- The entries of a well-formed lexicon with a text in their head words are in ascending order of
their keys. -/
theorem ascending_containing (wellFormed : checker.lexicon.WellFormed) (stem : String) :
    (checker.containing stem).Pairwise fun first second => first.key < second.key :=
  wellFormed.ascending.filter _

/-! ## What completes a word -/

/-- The best of the entries with the stem of a word in their head words complete the word, as many as
there may be. -/
structure CompletesBest (checker : Checker) (word : String) (ordered best : List Entry) : Prop where
  /-- The entries are put in the order of distance and key. -/
  perm : ordered.Perm (checker.containing (Word.surface word))
  sorted : ordered.Pairwise (Outranks (endingDistance (Word.surface word)))
  /-- The best are the first of them. -/
  best_eq : best = ordered.take checker.settings.maxCompletions
  /-- Their endings are the completions. -/
  completed : checker.complete word = best.map (endingOf (Word.surface word))
  length : (checker.complete word).length
    = min checker.settings.maxCompletions (checker.containing (Word.surface word)).length
  /-- Each head word goes on with the ending after the first occurrence of the stem. -/
  splits : ∀ entry ∈ best, ∃ front,
    entry.headWord.toList
        = front ++ (Word.surface word).toList ++ (endingOf (Word.surface word) entry).toList ∧
      ∀ earlier, (Word.surface word).toList <+: entry.headWord.toList.drop earlier →
        front.length ≤ earlier
  /-- The distances do not decrease. -/
  nearer : (checker.complete word).Pairwise fun first second =>
    Word.distance first (Word.surface word) ≤ Word.distance second (Word.surface word)
  /-- No entry comes twice, and no two with the same key do. -/
  once : (best.map Entry.key).Nodup
  /-- Every entry that is left out comes after all that are not. -/
  omitted : ∀ entry ∈ checker.containing (Word.surface word), entry ∉ best → ∀ chosen ∈ best,
    Outranks (endingDistance (Word.surface word)) chosen entry ∧
      ¬ Outranks (endingDistance (Word.surface word)) entry chosen

/-- **The best endings complete a word**, by a lexicon that comes about: of the verified entries with
the surface form of the word in their head words, the first ones in the order of distance and key give
what follows the first occurrence of the surface form. -/
theorem complete_ranks (reachable : checker.lexicon.Reachable) (filled : Word.surface word ≠ "") :
    ∃ ordered best, CompletesBest checker word ordered best := by
  let stem := Word.surface word
  let ordered := checker.closest stem
  let best := ordered.take checker.settings.maxCompletions
  have ascending := ascending_containing reachable.wellFormed stem
  have perm : ordered.Perm (checker.containing stem) := perm_ranked_map _ _
  have sorted : ordered.Pairwise (Outranks (endingDistance stem)) := pairwise_outranks ascending
  have completed : checker.complete word = best.map (endingOf stem) := complete_eq filled
  refine ⟨ordered, best, perm, sorted, rfl, completed, ?length, ?splits, ?nearer, ?once, ?omitted⟩
  case length => rw [completed, List.length_map, List.length_take, perm.length_eq]
  case splits =>
    intro entry member
    have inside := perm.mem_iff.mp (List.mem_of_mem_take member)
    have occurs := (of_decide_eq_true (List.mem_filter.mp inside).2).2
    obtain ⟨ending, found⟩ := Option.isSome_iff_exists.mp (isSome_afterFirst_iff.mpr occurs)
    rw [endingOf, found, Option.getD_some, String.toList_ofList]
    exact exists_front_of_afterFirst found
  case nearer =>
    rw [completed, List.pairwise_map]
    exact (sorted.sublist (List.take_sublist _ _)).imp Outranks.le
  case once =>
    have nodup := (perm.map Entry.key).nodup_iff.mpr (nodup_of_ascending ascending)
    exact nodup.sublist ((List.take_sublist _ _).map Entry.key)
  case omitted =>
    intro entry member left chosen taken
    have outranks := before_of_not_mem_take sorted taken (perm.mem_iff.mpr member) left
    exact ⟨outranks, outranks.asymm⟩

/-- A checker that knows five words and completes with three. -/
def bands : Checker where
  lexicon :=
    Lexicon.inMemory.afterCalls <|
      ["sand", "Banana", "can", "band", "and"].map fun word =>
        (⟨{}, ⟨0⟩⟩, .define word .verified)
  settings := { maxCompletions := 3 }

/-- Some entries with the first two of them the other way round. -/
def secondFirst : List Entry → List Entry
  | first :: second :: rest => second :: first :: rest
  | entries => entries

theorem perm_secondFirst : (entries : List Entry) → (secondFirst entries).Perm entries
  | [] => .refl _
  | [_] => .refl _
  | first :: second :: rest => .swap first second rest

/-- Two of the words go on with the same letter after the stem, and in another one the stem occurs
twice. -/
theorem complete_ranks_bands :
    bands.lexicon.Reachable ∧ Word.surface "an!" ≠ "" ∧
      (∃ ordered best, CompletesBest bands "an!" ordered best ∧
        best.map Entry.headWord = ["Banana", "and", "band"]) ∧
      bands.complete "an!" = ["ana", "d", "d"] := by
  have reachable : bands.lexicon.Reachable := Lexicon.Reachable.inMemory.afterCalls _
  have filled : Word.surface "an!" ≠ "" := by decide +kernel
  let inOrder := secondFirst (bands.containing (Word.surface "an!"))
  have sorted : inOrder.Pairwise (Outranks (endingDistance (Word.surface "an!"))) := by
    decide +kernel
  obtain ⟨ordered, best, completes⟩ := complete_ranks reachable filled
  -- There is only one way to put the entries in order.
  have same : ordered = inOrder :=
    (completes.perm.trans (perm_secondFirst _).symm).eq_of_pairwise
      (fun _ _ _ _ here there => absurd there here.asymm) completes.sorted sorted
  have first : best = inOrder.take 3 := by
    rw [completes.best_eq, same]
    rfl
  refine ⟨reachable, filled, ⟨ordered, best, completes, ?_⟩, ?_⟩
  · rw [first]
    decide +kernel
  · rw [completes.completed, first]
    decide +kernel

end Orthography.Checker
