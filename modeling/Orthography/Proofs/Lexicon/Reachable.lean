import Orthography.Proofs.Lexicon.History

/-!
# Lexicons that come about

A lexicon is empty in memory or loaded from files, and then changed by any calls, each in a world of
its own (`Lexicon.Reachable`).  Loading that fails comes to an empty lexicon in memory, so nothing
else ever comes about.

Every such lexicon is well formed (`Lexicon.Reachable.wellFormed`): its entries stand under their own
keys, so that they come in ascending order of the keys of their head words, each key once
(`Lexicon.WellFormed.ascending`), and each of them is found under its key and no other
(`Lexicon.WellFormed.get?_eq_some_iff`); and new words go to a file that is there.
-/

namespace Orthography

set_option autoImplicit false

namespace Lexicon

/-- The lexicons that come about. -/
inductive Reachable : Lexicon → Prop where
  | inMemory : Reachable inMemory
  | loaded {world after : World} {dataDirectory : String} {language : Option String}
      {lexicon : Lexicon}
      (success : load world dataDirectory language = (.ok lexicon, after)) : Reachable lexicon
  | performed {lexicon : Lexicon} (before : Reachable lexicon) (world : World) (call : Call) :
      Reachable (lexicon.perform world call)

theorem Reachable.afterCalls {lexicon : Lexicon} (reachable : Reachable lexicon)
    (calls : List (World × Call)) : Reachable (lexicon.afterCalls calls) := by
  induction calls generalizing lexicon with
  | nil => exact reachable
  | cons step rest ih => exact ih (reachable.performed step.1 step.2)

/-- A lexicon whose entries are found where they belong. -/
structure WellFormed (lexicon : Lexicon) : Prop where
  /-- Every entry stands under its own key, and that is not empty. -/
  keyed : ∀ pair ∈ lexicon.index.pairs, pair.1 ≠ "" ∧ pair.1 = pair.2.key
  /-- New words go to a file that is there. -/
  primary : ∀ position, lexicon.primary = some position → position < lexicon.files.length

/-- A loaded lexicon is well formed. -/
theorem Backed.wellFormed {lexicon : Lexicon} (backed : Backed lexicon) : WellFormed lexicon := by
  constructor
  · rintro ⟨key, entry⟩ member
    rw [KeyMap.mem_pairs_iff, backed.index_eq] at member
    obtain ⟨filled, same⟩ := key_of_get?_union member
    exact ⟨filled, same.symm⟩
  · intro position chosen
    obtain ⟨other, there, path, here, -⟩ := backed.primary
    obtain rfl : other = position := Option.some.inj (there.symm.trans chosen)
    have inside := (List.getElem?_eq_some_iff.mp here).1
    rwa [paths, List.length_map] at inside

/-- No call changes how many files there are. -/
theorem length_files_perform (lexicon : Lexicon) (world : World) (call : Call) :
    (lexicon.perform world call).files.length = lexicon.files.length := by
  have same := congrArg List.length (paths_perform lexicon world call)
  rwa [paths, paths, List.length_map, List.length_map] at same

/-- A pair of the index after a call was there before or is that of a new entry for a word. -/
theorem mem_pairs_perform {lexicon : Lexicon} {world : World} {call : Call}
    {pair : String × Entry} (member : pair ∈ (lexicon.perform world call).index.pairs) :
    pair ∈ lexicon.index.pairs ∨
      ∃ word level id, Word.key word ≠ "" ∧
        pair = (Word.key word, Entry.ofWord word level id) := by
  have inserted {word : String} {entry : Entry}
      (member : pair ∈ (lexicon.index.insert (Word.key word) entry).pairs) :
      pair ∈ lexicon.index.pairs ∨ pair = (Word.key word, entry) := by
    obtain ⟨key, held⟩ := pair
    rw [KeyMap.mem_pairs_iff, KeyMap.get?_insert] at member
    split at member
    · next same => exact .inr (by rw [same, Option.some.inj member])
    · exact .inl (KeyMap.mem_pairs_iff.mpr member)
  cases call with
  | define word level =>
    have outcome := defined lexicon world word level
    rw [perform] at member
    generalize lexicon.define world word level = change at outcome member
    cases outcome with
    | known => exact .inl member
    | failed => exact .inl member
    | inMemory filled => exact (inserted member).imp_right fun new => ⟨word, level, _, filled, new⟩
    | saved filled => exact (inserted member).imp_right fun new => ⟨word, level, _, filled, new⟩
  | remove word =>
    have outcome := removed lexicon world word
    rw [perform] at member
    generalize lexicon.remove world word = change at outcome member
    cases outcome with
    | unknown => exact .inl member
    | failed => exact .inl member
    | done => exact .inl (List.mem_filter.mp member).1

/-- Every call keeps a lexicon well formed. -/
theorem WellFormed.perform {lexicon : Lexicon} (wellFormed : WellFormed lexicon) (world : World)
    (call : Call) : WellFormed (lexicon.perform world call) := by
  constructor
  · intro pair member
    rcases mem_pairs_perform member with old | ⟨word, level, id, filled, rfl⟩
    · exact wellFormed.keyed pair old
    · exact ⟨filled, (Entry.key_ofWord word level id).symm⟩
  · rw [primary_perform, length_files_perform]
    exact wellFormed.primary

/-- **Every lexicon that comes about is well formed.** -/
theorem Reachable.wellFormed {lexicon : Lexicon} (reachable : Reachable lexicon) :
    WellFormed lexicon := by
  induction reachable with
  | inMemory =>
    constructor
    · exact fun _ impossible => absurd impossible List.not_mem_nil
    · exact fun _ impossible => nomatch impossible
  | loaded success => exact (backed_of_load success).wellFormed
  | performed _ world call ih => exact ih.perform world call

/-- A word is found under an entry of a well-formed lexicon exactly when it has the key of the
entry. -/
theorem WellFormed.get?_eq_some_iff {lexicon : Lexicon} (wellFormed : WellFormed lexicon)
    {entry : Entry} (member : entry ∈ lexicon.entries) (word : String) :
    lexicon.get? word = some entry ↔ Word.key word = entry.key := by
  constructor
  · intro found
    exact (wellFormed.keyed _ (KeyMap.mem_pairs_iff.mpr found)).2
  · intro same
    obtain ⟨⟨key, held⟩, inside, rfl⟩ := List.mem_map.mp member
    have keyed : key = held.key := (wellFormed.keyed _ inside).2
    rw [get?, same, ← KeyMap.mem_pairs_iff, ← keyed]
    exact inside

/-- The entries of a well-formed lexicon are in ascending order of their keys. -/
theorem WellFormed.ascending {lexicon : Lexicon} (wellFormed : WellFormed lexicon) :
    lexicon.entries.Pairwise fun first second => first.key < second.key := by
  refine List.pairwise_map.mpr (lexicon.index.ascending.imp_of_mem ?_)
  intro first second here there less
  rwa [(wellFormed.keyed first here).2, (wellFormed.keyed second there).2] at less

end Lexicon

end Orthography
