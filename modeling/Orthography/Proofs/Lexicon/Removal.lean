import Orthography.Proofs.Lexicon.Coverage

/-!
# A removal is complete

A removal that succeeds takes out all entries with the key of the word, in every file, and nothing
else: it counts them, every file keeps its other entries in their order, only files that had some are
written, and the index changes under this key only (`Lexicon.TakenOut`).  In particular an entry that
another one had hidden does not come back: the word is found neither in the lexicon nor, unless it is
added again, in what is loaded from the directory at any later time (`Store.removal_complete`).

The first part is read off the one outcome of a removal that succeeds (`Lexicon.Removed.done`); that
there is an entry to count follows from the index being the union of the files (`Lexicon.Backed`).
The second part rests on the lexicon having all that is in its files (`Store.contains_of_load`).
-/

namespace Orthography

set_option autoImplicit false

open Lexicon (Call load)

namespace Lexicon

/-! ## What is taken out -/

/-- Counting file by file is counting over all entries. -/
theorem countAll_eq_countP (key : String) (files : List BackingFile) :
    countAll key files = (allEntries files).countP fun entry => entry.key = key := by
  induction files with
  | nil => rfl
  | cons file rest ih =>
    rw [countAll, ih, allEntries_cons, List.countP_append, BackingFile.count,
      ← List.countP_eq_length_filter]

/-- What a removal of a word has done that has taken out a number of entries. -/
structure TakenOut (lexicon : Lexicon) (world : World) (word : String) (count : Nat)
    (change : Change Nat) : Prop where
  /-- All entries with the key of the word were counted, those that were hidden among them. -/
  counted : count = (allEntries lexicon.files).countP fun entry => entry.key = Word.key word
  positive : 1 ≤ count
  /-- Every file keeps its other entries in their order. -/
  files : change.lexicon.files = lexicon.files.map fun file =>
    { file with entries := file.entries.filter fun entry => entry.key ≠ Word.key word }
  /-- Nothing is found under the key of the word, and under any other key what was there before. -/
  index : ∀ key, change.lexicon.index.get? key =
    if key = Word.key word then none else lexicon.index.get? key
  primary : change.lexicon.primary = lexicon.primary
  absent : change.lexicon.contains word = false
  /-- The files with such entries are written one after the other, and no other file is. -/
  writes : SavedAll world.disk
    ((holders (Word.key word) lexicon.files).map (BackingFile.without · (Word.key word)))
    change.world.disk
  /-- So each of them stands on the disk as it is in memory now. -/
  rewritten : ∀ file ∈ lexicon.files, file.holds (Word.key word) = true →
    change.world.disk.at? file.path = some (.file (file.without (Word.key word)).bytes)
  /-- The other files of the lexicon stand as before. -/
  kept : ∀ file ∈ lexicon.files, file.holds (Word.key word) = false →
    change.world.disk.at? file.path = world.disk.at? file.path
  /-- So does everything else. -/
  untouched : ∀ path,
    (∀ file ∈ lexicon.files, file.holds (Word.key word) = true →
      ¬ world.disk.SamePlace path file.path) →
    change.world.disk.at? path = world.disk.at? path

/-- After a removal that succeeds the word is not there, whether it was known or not. -/
theorem contains_remove {lexicon : Lexicon} {world : World} {word : String} {count : Nat}
    (succeeds : (lexicon.remove world word).result = .ok count) :
    (lexicon.remove world word).lexicon.contains word = false := by
  have outcome := removed lexicon world word
  generalize lexicon.remove world word = change at outcome succeeds ⊢
  rw [contains, KeyMap.contains_eq_isSome, Option.isSome_eq_false_iff, Option.isNone_iff_eq_none]
  cases outcome with
  | unknown absent => exact absent
  | failed => cases succeeds
  | done => exact (KeyMap.get?_erase ..).trans (if_pos rfl)

/-- An entry with a key is counted. -/
theorem Backed.countAll_pos {lexicon : Lexicon} (backed : Backed lexicon) {word : String}
    (known : lexicon.contains word = true) : 1 ≤ countAll (Word.key word) lexicon.files := by
  obtain ⟨-, file, member, entry, inside, key⟩ := (backed.contains_iff word).mp known
  rw [countAll_eq_countP, Nat.one_le_iff_ne_zero, Nat.ne_zero_iff_zero_lt, List.countP_pos_iff]
  exact ⟨entry, List.mem_flatMap.mpr ⟨file, member, inside⟩, decide_eq_true key⟩

/-- **A removal of a known word that succeeds takes out exactly the entries with its key.** -/
theorem takenOut {lexicon : Lexicon} (backed : Backed lexicon) (filed : Filed lexicon)
    {world : World} {word : String} (known : lexicon.contains word = true) {count : Nat}
    (succeeds : (lexicon.remove world word).result = .ok count) :
    TakenOut lexicon world word count (lexicon.remove world word) := by
  have positive := backed.countAll_pos known
  have absent := contains_remove succeeds
  have outcome := removed lexicon world word
  generalize lexicon.remove world word = change at outcome succeeds absent ⊢
  cases outcome with
  | unknown unknown =>
    rw [contains, KeyMap.contains_eq_isSome, unknown] at known
    cases known
  | failed => cases succeeds
  | @done entry disk present saves =>
    have total : countAll (Word.key word) lexicon.files = count := by
      rw [← Except.ok.inj succeeds, Nat.max_eq_left positive]
    have apart := allApart_of_pairwise filed.apart
    have untouched : ∀ path,
        (∀ file ∈ lexicon.files, file.holds (Word.key word) = true →
          ¬ world.disk.SamePlace path file.path) →
        disk.at? path = world.disk.at? path := by
      intro path away
      refine saves.at?_of_not_samePlace fun swept member => ?_
      obtain ⟨file, holder, rfl⟩ := List.mem_map.mp member
      obtain ⟨inside, holds⟩ := List.mem_filter.mp holder
      exact away file inside holds
    refine
      { counted := by rw [← total, countAll_eq_countP]
        positive := total ▸ positive
        files := rfl
        index := fun key => KeyMap.get?_erase ..
        primary := rfl
        absent := absent
        writes := saves
        rewritten := fun file member holds => ?_
        kept := fun file member free => ?_
        untouched := untouched }
    · exact saves.at?_of_mem ((AllApart.holders apart _).map_without _)
        (List.mem_map_of_mem (List.mem_filter.mpr ⟨member, holds⟩))
    · exact untouched file.path fun other inside holds =>
        apart.apart_of_holds member inside free holds world.disk

/-! ## What stays out -/

/-- A word that is not there stays away when a call does not add it. -/
theorem contains_perform {lexicon : Lexicon} {word : String}
    (absent : lexicon.contains word = false) (world : World) {call : Call}
    (other : ∀ added level, call = .define added level → Word.key added ≠ Word.key word) :
    (lexicon.perform world call).contains word = false := by
  rw [contains, KeyMap.contains_eq_isSome, Option.isSome_eq_false_iff,
    Option.isNone_iff_eq_none] at absent ⊢
  cases call with
  | define added level =>
    have different : Word.key word ≠ Word.key added := (other added level rfl).symm
    have outcome := defined lexicon world added level
    rw [perform]
    generalize lexicon.define world added level = change at outcome ⊢
    cases outcome with
    | known => exact absent
    | failed => exact absent
    | inMemory => exact (KeyMap.get?_insert ..).trans (by rw [if_neg different, absent])
    | saved => exact (KeyMap.get?_insert ..).trans (by rw [if_neg different, absent])
  | remove taken =>
    have outcome := removed lexicon world taken
    rw [perform]
    generalize lexicon.remove world taken = change at outcome ⊢
    cases outcome with
    | unknown => exact absent
    | failed => exact absent
    | done =>
      refine (KeyMap.get?_erase ..).trans ?_
      split
      · rfl
      · exact absent

end Lexicon

namespace Store

theorem afterCalls_append (store : Store) (first second : List Call) :
    store.afterCalls (first ++ second) = (store.afterCalls first).afterCalls second := by
  induction first generalizing store with
  | nil => rfl
  | cons call rest ih => exact ih (store.perform call)

/-- A word that is not there stays away as long as no call adds it. -/
theorem contains_afterCalls {store : Store} {word : String}
    (absent : store.lexicon.contains word = false) {calls : List Call}
    (others : ∀ added level, Call.define added level ∈ calls → Word.key added ≠ Word.key word) :
    (store.afterCalls calls).lexicon.contains word = false := by
  induction calls generalizing store with
  | nil => exact absent
  | cons call rest ih =>
    refine ih ?_ fun added level member => others added level (.tail _ member)
    rw [lexicon_perform]
    refine Lexicon.contains_perform absent store.world ?_
    rintro added level rfl
    exact others added level (.head _)

/-- **A removal is complete and touches nothing else.**  Take a lexicon that was loaded and changed
by any calls.

* In any world and with any writes refused: a removal of a word that is known, if it succeeds, says
  how many entries with its key there were in all files together, at least one.  Every file keeps its
  other entries in their order, the files that had such entries are written and nothing else is, and
  the index changes under the key of the word only, where nothing is found any more.
* When nobody else writes to the files: after a removal that succeeds, and any calls that do not add
  the word again, the word is neither in the lexicon nor in what is loaded from the directory.  The
  directory can be loaded if the fractions among the free members of the entries read back. -/
theorem removal_complete {world after : World} {dataDirectory : String}
    {language : Option String} {base : Lexicon}
    (loaded : load world dataDirectory language = (.ok base, after)) :
    (∀ (calls : List (World × Call)) (now : World) (word : String) (count : Nat),
      let lexicon := base.afterCalls calls
      lexicon.contains word = true → (lexicon.remove now word).result = .ok count →
        Lexicon.TakenOut lexicon now word count (lexicon.remove now word)) ∧
    ∀ (calls : List Call) (word : String) (count : Nat),
      let store := (Store.mk base after).afterCalls calls
      (store.lexicon.remove store.world word).result = .ok count →
        ∀ later : List Call,
          (∀ added level, Call.define added level ∈ later → Word.key added ≠ Word.key word) →
          let now := (store.perform (.remove word)).afterCalls later
          now.lexicon.contains word = false ∧
          ∀ (refusals : List Bool) (supply : Supply),
            let again : World := ⟨{ now.world.disk with refusals := refusals }, supply⟩
            (∀ twin last, load again dataDirectory language = (.ok twin, last) →
              twin.contains word = false) ∧
            ((∀ file ∈ now.lexicon.files, ∀ entry ∈ file.entries, entry.FractionsReadBack) →
              ∃ twin last, load again dataDirectory language = (.ok twin, last)) := by
  refine ⟨?_, ?_⟩
  · intro calls now word count lexicon known succeeds
    exact Lexicon.takenOut ((Lexicon.backed_of_load loaded).afterCalls calls).1
      ((Lexicon.filed_of_load loaded).afterCalls calls) known succeeds
  · intro calls word count store succeeds later others now
    have absent : now.lexicon.contains word = false :=
      contains_afterCalls (Lexicon.contains_remove succeeds) others
    -- What was called before the removal, the removal and what follows are calls in a row.
    have whole : (Store.mk base after).afterCalls (calls ++ .remove word :: later) = now :=
      afterCalls_append _ calls _
    refine ⟨absent, fun refusals supply => ⟨fun twin last reloaded => ?_, fun back => ?_⟩⟩
    · rw [← whole] at reloaded absent
      rw [Bool.eq_false_iff] at absent ⊢
      exact fun found => absent (contains_of_load loaded _ refusals supply reloaded found)
    · rw [← whole] at back ⊢
      exact exists_load loaded _ refusals supply back

/-- A word is in both of two files, in one of them under a different spelling.  Both entries are taken
out, and the directory is loaded again without the word. -/
theorem removal_complete_twoFiles :
    ∃ base after, load ⟨Lexicon.twoFiles, ⟨0⟩⟩ "words" none = (.ok base, after) ∧
      let change := base.remove after "GRACE"
      Lexicon.TakenOut base after "GRACE" 2 change ∧
        ∃ twin last,
          load ⟨{ change.world.disk with refusals := [] }, ⟨8⟩⟩ "words" none = (.ok twin, last) ∧
            twin.contains "GRACE" = false := by
  have passes : loadsWith ⟨Lexicon.twoFiles, ⟨0⟩⟩ "words" (fun store =>
      let change := store.lexicon.remove store.world "GRACE"
      store.lexicon.contains "GRACE" && (change.result.toOption == some 2 &&
        change.lexicon.files.all fun file =>
          file.entries.all fun entry => entry.numbers.isEmpty)) = true := by decide +kernel
  obtain ⟨base, after, loaded, passed⟩ := exists_load_of_loadsWith passes
  simp only [Bool.and_eq_true, List.all_eq_true, List.isEmpty_iff, beq_iff_eq] at passed
  obtain ⟨known, counted, plain⟩ := passed
  have succeeds : (base.remove after "GRACE").result = .ok 2 := eq_ok_of_toOption counted
  obtain ⟨now, later⟩ := removal_complete loaded
  obtain ⟨absent, again⟩ := later [] "GRACE" 2 succeeds [] fun _ _ none => nomatch none
  obtain ⟨without, loads⟩ := again [] ⟨8⟩
  obtain ⟨twin, last, reloaded⟩ := loads fun file here entry member x number => by
    rw [plain file here entry member] at number
    cases number
  exact ⟨base, after, loaded, now [] after "GRACE" 2 known succeeds, twin, last, reloaded,
    without twin last reloaded⟩

end Store

end Orthography
