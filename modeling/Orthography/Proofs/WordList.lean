import Orthography.Maintenance
import Orthography.Proofs.Firsts
import Orthography.Proofs.Lexicon.Glossary
import Orthography.Proofs.Lexicon.Outcome
import Mathlib.Data.List.Forall2

/-!
# Adding a list of words

Words are added one after the other.  A word makes a new entry unless its key is empty or has an entry
(`Lexicon.knows`), and the entry makes its key known for the words that follow.  So the new words are
the ones with an unknown key that no word before them has (`Lexicon.newWords`), and what a list of words
adds is their entries, in this order (`Session.exists_entries_of_added`).

From this follow what the keys and the entries are afterwards, how many they are, and that a second
addition finds all keys known.  The order of the words decides which of those with one key counts;
where no two words have the same key it decides nothing but the identifiers.

Whether an addition succeeds depends on the list only through the number of the new words, which is the
number of writes (`Session.exists_added_iff`).  One that fails stops at the definition that fails, which
leaves the lexicon as it was (`Session.stopsAt`).
-/

namespace Orthography

set_option autoImplicit false

/-! ## One word -/

namespace Lexicon

/-- Whether no new entry is made under a key: it is empty, or it has an entry. -/
def knows (lexicon : Lexicon) (key : String) : Bool :=
  key.isEmpty || lexicon.index.contains key

/-- The words of a list that get new entries. -/
def newWords (lexicon : Lexicon) (words : List String) : List String :=
  firsts Word.key lexicon.knows words

/-- A lexicon with one more entry, at the end of the file that new words go to. -/
def withEntry (lexicon : Lexicon) (entry : Entry) : Lexicon :=
  { lexicon with
    index := lexicon.index.insert entry.key entry
    files :=
      match lexicon.primaryFile? with
      | none => lexicon.files
      | some (position, file) => lexicon.files.set position (file.append entry) }

/-- A lexicon with more entries. -/
def withEntries (lexicon : Lexicon) (entries : List Entry) : Lexicon :=
  entries.foldl withEntry lexicon

variable {lexicon : Lexicon} {world : World} {word : String} {level : Level} {change : Change Bool}

theorem knows_eq_false_iff {key : String} :
    lexicon.knows key = false ↔ key ≠ "" ∧ lexicon.index.get? key = none := by
  rw [knows, Bool.or_eq_false_iff, KeyMap.contains_eq_isSome, Option.isSome_eq_false_iff,
    Option.isNone_iff_eq_none, String.isEmpty_eq_false_iff]

/-- A known key that is not empty has an entry. -/
theorem isSome_of_knows {key : String} (known : lexicon.knows key = true) (filled : key ≠ "") :
    (lexicon.index.get? key).isSome = true := by
  rw [knows, Bool.or_eq_true, String.isEmpty_iff] at known
  exact known.resolve_left filled

/-- A new entry makes its key known. -/
theorem knows_withEntry (lexicon : Lexicon) (entry : Entry) (key : String) :
    (lexicon.withEntry entry).knows key = (lexicon.knows key || key == entry.key) := by
  simp only [knows, withEntry, KeyMap.contains_eq_isSome, KeyMap.get?_insert]
  by_cases same : key = entry.key <;> simp [same]

/-- New words go to the same file, which ends in the new entry. -/
theorem primaryFile?_withEntry (lexicon : Lexicon) (entry : Entry) :
    (lexicon.withEntry entry).primaryFile?
      = lexicon.primaryFile?.map fun place => (place.1, place.2.append entry) := by
  cases primary : lexicon.primaryFile? with
  | none =>
    have files : (lexicon.withEntry entry).files = lexicon.files := by rw [withEntry, primary]
    rw [Option.map_none, ← primary, Lexicon.primaryFile?, files]
    rfl
  | some place =>
    obtain ⟨position, file⟩ := place
    obtain ⟨chosen, here⟩ := getElem?_of_primaryFile? primary
    obtain ⟨inside, -⟩ := List.getElem?_eq_some_iff.mp here
    have files : (lexicon.withEntry entry).files
        = lexicon.files.set position (file.append entry) := by
      rw [withEntry, primary]
    have same : (lexicon.withEntry entry).primary = some position := chosen
    rw [Lexicon.primaryFile?, files, same]
    simp [inside]

/-- What adding a word comes to: it is known, it gets an entry, or its entry cannot be written. -/
inductive Extended (lexicon : Lexicon) (world : World) (word : String) (level : Level) :
    Change Bool → Prop where
  | known (knows : lexicon.knows (Word.key word) = true) :
      Extended lexicon world word level ⟨.ok false, lexicon, world, []⟩
  | new {id : Identifier} {now : World} (unknown : lexicon.knows (Word.key word) = false)
      (written : ∀ position file, lexicon.primaryFile? = some (position, file) →
        ∃ bytes, world.disk.write file.path bytes = (true, now.disk)) :
      Extended lexicon world word level
        ⟨.ok true, lexicon.withEntry (Entry.ofWord word level id), now, []⟩
  | failed {failure : Failure} {now : World} {position : Nat} {file : BackingFile}
      {bytes : ByteArray} (unknown : lexicon.knows (Word.key word) = false)
      (primary : lexicon.primaryFile? = some (position, file))
      (refused : world.disk.write file.path bytes = (false, now.disk)) :
      Extended lexicon world word level ⟨.error failure, lexicon, now, []⟩

/-- Adding a word comes to one of the three. -/
theorem extended (lexicon : Lexicon) (world : World) (word : String) (level : Level) :
    Extended lexicon world word level (lexicon.define world word level) := by
  have outcome := defined lexicon world word level
  have entryOf (id : Identifier) : lexicon.withEntry (Entry.ofWord word level id)
      = { lexicon with
          index := lexicon.index.insert (Word.key word) (Entry.ofWord word level id)
          files := match lexicon.primaryFile? with
            | none => lexicon.files
            | some (position, file) =>
              lexicon.files.set position (file.append (Entry.ofWord word level id)) } := by
    rw [withEntry, Entry.key_ofWord]
  generalize lexicon.define world word level = change at outcome ⊢
  cases outcome with
  | known reason =>
    refine .known ?_
    rw [knows, Bool.or_eq_true, String.isEmpty_iff]
    exact reason
  | inMemory filled absent unbacked =>
    have same := entryOf world.supply.draw.1
    rw [unbacked] at same
    rw [← same]
    exact .new (knows_eq_false_iff.mpr ⟨filled, absent⟩) fun position file primary => by
      rw [unbacked] at primary
      cases primary
  | @saved position file disk filled absent primary written =>
    have same := entryOf world.supply.draw.1
    rw [primary] at same
    rw [← same]
    refine .new (knows_eq_false_iff.mpr ⟨filled, absent⟩) fun other held there => ?_
    rw [primary] at there
    cases there
    exact ⟨_, written⟩
  | failed filled absent primary refused =>
    exact .failed (knows_eq_false_iff.mpr ⟨filled, absent⟩) primary refused

/-- A word with a known key is not new. -/
theorem newWords_of_knows (known : lexicon.knows (Word.key word) = true) (rest : List String) :
    lexicon.newWords (word :: rest) = lexicon.newWords rest := by
  rw [newWords, firsts, if_pos known, newWords]

/-- After a word that is new, the new words are those that are new to the lexicon with its entry. -/
theorem newWords_of_unknown (unknown : lexicon.knows (Word.key word) = false) (rest : List String)
    (level : Level) (id : Identifier) :
    lexicon.newWords (word :: rest)
      = word :: (lexicon.withEntry (Entry.ofWord word level id)).newWords rest := by
  have later : (lexicon.withEntry (Entry.ofWord word level id)).knows
      = fun other => lexicon.knows other || other == Word.key word := by
    funext other
    rw [knows_withEntry, Entry.key_ofWord]
  rw [newWords, firsts, if_neg (by simp [unknown]), newWords, later]

/-! ## Several entries -/

/-- Some entries are new to a lexicon: their keys are not known, and no two of them have the same. -/
structure Fresh (lexicon : Lexicon) (entries : List Entry) : Prop where
  unknown : ∀ entry ∈ entries, lexicon.knows entry.key = false
  once : (entries.map Entry.key).Nodup

/-- After the first of some new entries, the others are still new. -/
theorem Fresh.tail {entry : Entry} {rest : List Entry} (fresh : lexicon.Fresh (entry :: rest)) :
    (lexicon.withEntry entry).Fresh rest := by
  obtain ⟨absent, once⟩ := List.nodup_cons.mp fresh.once
  refine ⟨fun other member => ?_, once⟩
  rw [knows_withEntry, fresh.unknown other (List.mem_cons_of_mem _ member), Bool.false_or,
    beq_eq_false_iff_ne]
  rintro same
  exact absent (same ▸ List.mem_map_of_mem member)

/-- New entries are found under their keys, and what was there before stays. -/
theorem get?_withEntries {entries : List Entry} (fresh : lexicon.Fresh entries) (key : String) :
    (lexicon.withEntries entries).index.get? key
      = (lexicon.index.get? key).or (entries.find? fun entry => entry.key = key) := by
  induction entries generalizing lexicon with
  | nil => simp [withEntries]
  | cons entry rest ih =>
    have step := ih fresh.tail
    have absent := (knows_eq_false_iff.mp (fresh.unknown entry List.mem_cons_self)).2
    rw [withEntries, List.foldl_cons, ← withEntries, step, List.find?_cons]
    simp only [withEntry, KeyMap.get?_insert]
    by_cases same : key = entry.key
    · subst same
      simp [absent]
    · simp [same, Ne.symm same]

/-- New entries are as many more. -/
theorem size_withEntries {entries : List Entry} (fresh : lexicon.Fresh entries) :
    (lexicon.withEntries entries).size = lexicon.size + entries.length := by
  induction entries generalizing lexicon with
  | nil => rfl
  | cons entry rest ih =>
    have absent := (knows_eq_false_iff.mp (fresh.unknown entry List.mem_cons_self)).2
    have larger : (lexicon.withEntry entry).size = lexicon.size + 1 := KeyMap.size_insert absent _
    rw [withEntries, List.foldl_cons, ← withEntries, ih fresh.tail, larger, List.length_cons]
    omega

/-- New entries stand at the end of the file that new words go to, in their order; all other files are as
they were. -/
theorem files_withEntries (lexicon : Lexicon) (entries : List Entry) :
    (lexicon.withEntries entries).files =
      match lexicon.primaryFile? with
      | none => lexicon.files
      | some (position, file) =>
        lexicon.files.set position { file with entries := file.entries ++ entries } := by
  induction entries generalizing lexicon with
  | nil =>
    cases primary : lexicon.primaryFile? with
    | none => rfl
    | some place =>
      obtain ⟨position, file⟩ := place
      obtain ⟨inside, here⟩ := List.getElem?_eq_some_iff.mp (getElem?_of_primaryFile? primary).2
      simp only [withEntries, List.foldl_nil, List.append_nil]
      rw [← here]
      exact (List.set_getElem_self inside).symm
  | cons entry rest ih =>
    rw [withEntries, List.foldl_cons, ← withEntries, ih, primaryFile?_withEntry]
    cases primary : lexicon.primaryFile? with
    | none => simp [withEntry, primary]
    | some place => simp [withEntry, primary, BackingFile.append]

/-! ## Writes -/

/-- The file that new words go to can be written some times in a row, if there is such a file. -/
def Accepts (lexicon : Lexicon) (disk : Disk) (count : Nat) : Prop :=
  ∀ position file, lexicon.primaryFile? = some (position, file) →
    disk.AcceptsWrites file.path count

/-- After an entry was written there can be one write less. -/
theorem accepts_succ_iff {entry : Entry} {disk now : Disk} {count : Nat}
    (written : ∀ position file, lexicon.primaryFile? = some (position, file) →
      ∃ bytes, disk.write file.path bytes = (true, now)) :
    lexicon.Accepts disk (count + 1) ↔ (lexicon.withEntry entry).Accepts now count := by
  rw [Accepts, Accepts, primaryFile?_withEntry]
  cases primary : lexicon.primaryFile? with
  | none => exact ⟨fun _ _ _ none => (nomatch none), fun _ _ _ none => (nomatch none)⟩
  | some place =>
    obtain ⟨position, file⟩ := place
    obtain ⟨bytes, success⟩ := written position file primary
    have step : disk.AcceptsWrites file.path (count + 1) ↔ now.AcceptsWrites file.path count :=
      Disk.acceptsWrites_succ_iff success
    constructor
    · intro accepts other held there
      cases there
      exact step.mp (accepts position file rfl)
    · intro accepts other held there
      cases there
      exact step.mpr (accepts position (file.append entry) rfl)

end Lexicon

/-! ## A list of words -/

namespace Session

open Lexicon (knows newWords)

variable {session : Session} {world : World} {level : Level} {words : List String}

/-- Some entries are made for some words, in the same order. -/
def Made (level : Level) (words : List String) (entries : List Entry) : Prop :=
  List.Forall₂ (fun word entry => ∃ id, entry = Entry.ofWord word level id) words entries

/-- **What a list of words adds** is an entry for each of the new words. -/
theorem exists_entries_of_added {count : Nat}
    (success : (session.addWordsAt world level words).result = .ok count) :
    ∃ entries, Made level (session.lexicon.newWords words) entries ∧ entries.length = count ∧
      (session.addWordsAt world level words).session
        = session.withLexicon (session.lexicon.withEntries entries) := by
  induction words generalizing session world count with
  | nil =>
    cases success
    exact ⟨[], .nil, rfl, rfl⟩
  | cons word rest ih =>
    have outcome := session.lexicon.extended world word level
    rw [addWordsAt, define] at success ⊢
    generalize session.lexicon.define world word level = change at outcome success ⊢
    cases outcome with
    | known knows =>
      obtain ⟨others, counted⟩ := exists_eq_ok_of_map success
      dsimp only at counted success
      obtain ⟨entries, made, length, after⟩ := ih counted
      rw [counted] at success
      cases success
      refine ⟨entries, ?_, length, after⟩
      rw [Lexicon.newWords_of_knows knows]
      exact made
    | @new id now unknown written =>
      obtain ⟨others, counted⟩ := exists_eq_ok_of_map success
      dsimp only at counted success
      obtain ⟨entries, made, length, after⟩ := ih counted
      rw [counted] at success
      cases success
      refine ⟨Entry.ofWord word level id :: entries, ?_, by rw [List.length_cons, length]; rfl, after⟩
      rw [Lexicon.newWords_of_unknown unknown rest level id]
      exact .cons ⟨id, rfl⟩ made
    | failed => cases success

/-- The entries have the keys of their words. -/
theorem Made.map_key {entries : List Entry} (made : Made level words entries) :
    entries.map Entry.key = words.map Word.key := by
  induction made with
  | nil => rfl
  | cons first rest ih =>
    obtain ⟨id, rfl⟩ := first
    rw [List.map_cons, List.map_cons, ih, Entry.key_ofWord]

/-- The first entry with a key is that of the first word with it. -/
theorem Made.find? {entries : List Entry} (made : Made level words entries) (key : String) :
    (words.find? fun word => Word.key word = key) = none ∧
        (entries.find? fun entry => entry.key = key) = none ∨
      ∃ word id, (words.find? fun word => Word.key word = key) = some word ∧
        (entries.find? fun entry => entry.key = key) = some (Entry.ofWord word level id) := by
  induction made with
  | nil => exact .inl ⟨rfl, rfl⟩
  | @cons word entry _ _ first _ ih =>
    obtain ⟨id, rfl⟩ := first
    rw [List.find?_cons, List.find?_cons, Entry.key_ofWord]
    by_cases same : Word.key word = key
    · exact .inr ⟨word, id, by simp [same]⟩
    · simpa [same] using ih

/-- The entries for the new words are new. -/
theorem Made.fresh {lexicon : Lexicon} {entries : List Entry}
    (made : Made level (lexicon.newWords words) entries) : lexicon.Fresh entries := by
  refine ⟨fun entry member => ?_, ?_⟩
  · have inside := List.mem_map_of_mem (f := Entry.key) member
    rw [made.map_key, newWords, mem_map_firsts] at inside
    exact inside.1
  · rw [made.map_key]
    exact nodup_map_firsts Word.key lexicon.knows words

/-- What is found under a key after the entries for the new words are added: what was found before or,
under a key that was not known, an entry for the first word with it. -/
theorem Made.get?_withEntries {lexicon : Lexicon} {entries : List Entry}
    (made : Made level (lexicon.newWords words) entries) {key : String}
    (unknown : lexicon.knows key = false) :
    (words.find? fun word => Word.key word = key) = none ∧
        (lexicon.withEntries entries).index.get? key = none ∨
      ∃ word id, (words.find? fun word => Word.key word = key) = some word ∧
        (lexicon.withEntries entries).index.get? key = some (Entry.ofWord word level id) := by
  have absent := (Lexicon.knows_eq_false_iff.mp unknown).2
  have found := made.find? key
  rw [newWords, find?_firsts, unknown, if_neg Bool.false_ne_true] at found
  rwa [Lexicon.get?_withEntries made.fresh, absent, Option.none_or]

/-- What is found under a known key stays. -/
theorem Made.get?_of_knows {lexicon : Lexicon} {entries : List Entry}
    (made : Made level (lexicon.newWords words) entries) {key : String}
    (known : lexicon.knows key = true) :
    (lexicon.withEntries entries).index.get? key = lexicon.index.get? key := by
  have none := made.find? key
  rw [newWords, find?_firsts, known, if_pos rfl] at none
  rcases none with ⟨-, absent⟩ | ⟨word, id, impossible, -⟩
  · rw [Lexicon.get?_withEntries made.fresh, absent, Option.or_none]
  · cases impossible

/-! ## Adding the words again -/

/-- Words with known keys change nothing. -/
theorem addWordsAt_of_knows (known : ∀ word ∈ words, session.lexicon.knows (Word.key word) = true)
    (world : World) : session.addWordsAt world level words = ⟨.ok 0, session, world⟩ := by
  induction words with
  | nil => rfl
  | cons word rest ih =>
    have outcome := session.lexicon.extended world word level
    have here := known word List.mem_cons_self
    have later := ih fun other member => known other (List.mem_cons_of_mem _ member)
    rw [addWordsAt, define]
    generalize session.lexicon.define world word level = change at outcome ⊢
    cases outcome with
    | known =>
      have same : session.withLexicon session.lexicon = session := rfl
      simp only [same, later]
      rfl
    | new unknown => simp [here] at unknown
    | failed unknown => simp [here] at unknown

/-! ## The order of the words -/

/-- However words are put in order, as many of them are new. -/
theorem length_newWords_of_perm (lexicon : Lexicon) {other : List String} (perm : words.Perm other) :
    (lexicon.newWords words).length = (lexicon.newWords other).length := by
  have keys : ((lexicon.newWords words).map Word.key).Perm
      ((lexicon.newWords other).map Word.key) := by
    refine (List.perm_ext_iff_of_nodup (nodup_map_firsts _ _ _) (nodup_map_firsts _ _ _)).mpr ?_
    intro key
    rw [mem_map_firsts, mem_map_firsts, (perm.map Word.key).mem_iff]
  simpa using keys.length_eq

/-- Where no two words have the same key, the order of the words decides nothing but the
identifiers. -/
theorem anonymous_eq_of_perm {lexicon : Lexicon} {other : List String} {entries others : List Entry}
    (perm : words.Perm other) (once : (words.map Word.key).Nodup)
    (made : Made level (lexicon.newWords words) entries)
    (madeOther : Made level (lexicon.newWords other) others) :
    (lexicon.withEntries others).index.map Entry.anonymous
      = (lexicon.withEntries entries).index.map Entry.anonymous := by
  refine KeyMap.ext_get? fun key => ?_
  rw [KeyMap.get?_map, KeyMap.get?_map]
  cases known : lexicon.knows key with
  | true => rw [made.get?_of_knows known, madeOther.get?_of_knows known]
  | false =>
    have same : (other.find? fun word => Word.key word = key)
        = words.find? fun word => Word.key word = key := by
      refine Option.ext fun word => ?_
      rw [find?_eq_some_iff_of_nodup Word.key once,
        find?_eq_some_iff_of_nodup Word.key ((perm.map Word.key).nodup_iff.mp once), perm.mem_iff]
    rcases made.get?_withEntries known with ⟨none, absent⟩ | ⟨word, id, first, found⟩
    · rcases madeOther.get?_withEntries known with ⟨-, missing⟩ | ⟨_, _, impossible, -⟩
      · rw [absent, missing]
      · rw [same, none] at impossible
        cases impossible
    · rcases madeOther.get?_withEntries known with ⟨impossible, -⟩ | ⟨second, _, again, there⟩
      · rw [same, first] at impossible
        cases impossible
      · rw [same, first, Option.some.injEq] at again
        subst again
        rw [found, there, Option.map_some, Option.map_some, Entry.anonymous_ofWord,
          Entry.anonymous_ofWord]

/-! ## When an addition succeeds -/

/-- **An addition succeeds exactly if there can be as many writes as there are new words.** -/
theorem exists_added_iff : (∃ count, (session.addWordsAt world level words).result = .ok count) ↔
    session.lexicon.Accepts world.disk (session.lexicon.newWords words).length := by
  induction words generalizing session world with
  | nil => exact ⟨fun _ _ _ _ _ none => absurd none (Nat.not_lt_zero _), fun _ => ⟨0, rfl⟩⟩
  | cons word rest ih =>
    have outcome := session.lexicon.extended world word level
    rw [addWordsAt, define]
    generalize session.lexicon.define world word level = change at outcome ⊢
    have counts {result : Except Failure Nat} (more : Nat) :
        (∃ count, result.map (· + more) = .ok count) ↔ ∃ count, result = .ok count := by
      cases result <;> simp [Except.map]
    cases outcome with
    | known knows =>
      rw [Lexicon.newWords_of_knows knows]
      exact (counts _).trans ih
    | @new id now unknown written =>
      rw [Lexicon.newWords_of_unknown unknown rest level id, List.length_cons,
        Lexicon.accepts_succ_iff written]
      exact (counts _).trans ih
    | failed unknown primary refused =>
      rw [Lexicon.newWords_of_unknown unknown rest level ⟨0⟩, List.length_cons]
      refine ⟨fun ⟨_, success⟩ => (nomatch success), fun accepts => ?_⟩
      exact absurd (accepts _ _ primary) (Disk.not_acceptsWrites_of_refused refused _)

/-! ## Where an addition stops -/

/-- An addition that fails stops at a word, after the words before it were added. -/
def StopsAt (session : Session) (world : World) (level : Level) (words : List String)
    (failure : Failure) (change : Change Nat) : Prop :=
  ∃ before word rest count,
    let first := session.addWordsAt world level before
    words = before ++ word :: rest ∧ first.result = .ok count ∧
      (first.session.define first.world word level).result = .error failure ∧
      change.session = first.session ∧ change.world.disk = first.world.disk.spend

/-- After a word whose addition succeeds, the others are added. -/
theorem addWordsAt_cons_of_ok {word : String} {isNew : Bool}
    (success : (session.define world word level).result = .ok isNew) (rest : List String) :
    session.addWordsAt world level (word :: rest)
      = { (session.define world word level).session.addWordsAt
            (session.define world word level).world level rest with
          result := ((session.define world word level).session.addWordsAt
            (session.define world word level).world level rest).result.map
              (· + if isNew then 1 else 0) } := by
  rw [addWordsAt]
  simp only [success]

/-- After a word whose addition fails, no others are added. -/
theorem addWordsAt_cons_of_error {word : String} {failure : Failure}
    (failed : (session.define world word level).result = .error failure) (rest : List String) :
    session.addWordsAt world level (word :: rest)
      = ⟨.error failure, (session.define world word level).session,
          (session.define world word level).world⟩ := by
  rw [addWordsAt]
  simp only [failed]

/-- A definition that fails leaves the session as it was, and the disk but for the attempt to write. -/
theorem eq_of_define_error {word : String} {failure : Failure}
    (failed : (session.define world word level).result = .error failure) :
    (session.define world word level).session = session ∧
      (session.define world word level).world.disk = world.disk.spend := by
  have outcome := session.lexicon.extended world word level
  rw [define] at failed ⊢
  generalize session.lexicon.define world word level = change at outcome failed ⊢
  cases outcome with
  | known => cases failed
  | new => cases failed
  | failed _ _ refused => exact ⟨rfl, Disk.eq_spend_of_refused refused⟩

/-- Every addition that fails does so. -/
theorem stopsAt {failure : Failure}
    (failed : (session.addWordsAt world level words).result = .error failure) :
    StopsAt session world level words failure (session.addWordsAt world level words) := by
  induction words generalizing session world with
  | nil => cases failed
  | cons word rest ih =>
    cases result : (session.define world word level).result with
    | error cause =>
      have whole := addWordsAt_cons_of_error result rest
      rw [whole] at failed ⊢
      cases failed
      have kept := eq_of_define_error result
      refine ⟨[], word, rest, 0, ?_⟩
      rw [addWordsAt]
      dsimp only
      exact ⟨rfl, rfl, result, kept⟩
    | ok isNew =>
      rw [addWordsAt_cons_of_ok result rest] at failed ⊢
      have later := @ih (session.define world word level).session
        (session.define world word level).world
      generalize ((session.define world word level).session.addWordsAt
        (session.define world word level).world level rest) = others at failed later ⊢
      obtain ⟨result, after, last⟩ := others
      cases result with
      | ok count => cases failed
      | error cause =>
        cases failed
        obtain ⟨before, stop, behind, count, split, added, stopped, same, disk⟩ := later rfl
        have first := addWordsAt_cons_of_ok result before
        refine ⟨word :: before, stop, behind, count + if isNew then 1 else 0, ?_⟩
        rw [first]
        exact ⟨by rw [split, List.cons_append], by rw [added]; rfl, stopped, same, disk⟩

/-! ## All additions -/

/-- What a list of words adds to a session. -/
structure AddsNew (session : Session) (level : Level) (words : List String) (count : Nat)
    (after : Session) : Prop where
  /-- Nothing but the lexicon changes. -/
  session_eq : after = session.withLexicon after.lexicon
  /-- The keys are those from before and the keys of the words, but for the empty one. -/
  keys : ∀ key, (after.lexicon.index.get? key).isSome = true ↔
    (session.lexicon.index.get? key).isSome = true ∨ key ≠ "" ∧ key ∈ words.map Word.key
  size : after.lexicon.size = session.lexicon.size + count
  /-- What is counted are the keys that were not there, each of them once. -/
  counted : count = ((words.map Word.key).filter fun key =>
    key ≠ "" ∧ (session.lexicon.index.get? key).isNone).eraseDups.length
  /-- A new entry is one for the first word with its key. -/
  new : ∀ key entry, session.lexicon.index.get? key = none →
    after.lexicon.index.get? key = some entry → ∃ first id,
      (words.find? fun word => Word.key word = key) = some first ∧
        entry = Entry.ofWord first level id
  /-- An old entry stays. -/
  kept : ∀ key entry, session.lexicon.index.get? key = some entry →
    after.lexicon.index.get? key = some entry
  /-- The new entries stand at the end of the file that new words go to. -/
  files : ∃ entries, Made level (session.lexicon.newWords words) entries ∧ after.lexicon.files =
    match session.lexicon.primaryFile? with
    | none => session.lexicon.files
    | some (position, file) =>
      session.lexicon.files.set position { file with entries := file.entries ++ entries }
  primary : after.lexicon.primary = session.lexicon.primary

/-- The file that new words go to is the same after new entries. -/
theorem primary_withEntries (lexicon : Lexicon) (entries : List Entry) :
    (lexicon.withEntries entries).primary = lexicon.primary := by
  induction entries generalizing lexicon with
  | nil => rfl
  | cons entry rest ih => exact ih (lexicon.withEntry entry)

/-- The entries for the new words are what a list of words adds. -/
theorem Made.addsNew {entries : List Entry}
    (made : Made level (session.lexicon.newWords words) entries) :
    AddsNew session level words entries.length
      (session.withLexicon (session.lexicon.withEntries entries)) := by
  refine ⟨rfl, ?keys, Lexicon.size_withEntries made.fresh, ?counted, ?new, ?kept,
    ⟨entries, made, Lexicon.files_withEntries _ _⟩, primary_withEntries _ _⟩
  case keys =>
    intro key
    show ((session.lexicon.withEntries entries).index.get? key).isSome = true ↔ _
    cases known : session.lexicon.knows key with
    | true =>
      rw [made.get?_of_knows known]
      exact ⟨.inl, fun either => either.elim id fun inside => Lexicon.isSome_of_knows known inside.1⟩
    | false =>
      obtain ⟨filled, absent⟩ := Lexicon.knows_eq_false_iff.mp known
      rw [absent]
      rcases made.get?_withEntries known with ⟨none, found⟩ | ⟨word, id, first, found⟩
      · rw [found]
        simp only [Option.isSome_none, Bool.false_eq_true, false_or, false_iff, not_and]
        rintro - member
        obtain ⟨word, inside, rfl⟩ := List.mem_map.mp member
        exact List.find?_eq_none.mp none word inside (decide_eq_true rfl)
      · rw [found]
        have same : Word.key word = key := by simpa using List.find?_some first
        have inside := List.mem_map_of_mem (f := Word.key) (List.mem_of_find?_eq_some first)
        exact ⟨fun _ => .inr ⟨filled, same ▸ inside⟩, fun _ => rfl⟩
  case counted =>
    have length := congrArg List.length (map_firsts Word.key session.lexicon.knows words)
    rw [List.length_map, ← newWords, ← List.length_map (f := Word.key), ← made.map_key,
      List.length_map] at length
    have guard (key : String) : (!session.lexicon.knows key)
        = decide (key ≠ "" ∧ (session.lexicon.index.get? key).isNone = true) := by
      rw [Bool.eq_iff_iff, Bool.not_eq_true', Lexicon.knows_eq_false_iff, decide_eq_true_iff,
        Option.isNone_iff_eq_none]
    rw [length, List.filter_congr fun key _ => guard key]
  case new =>
    intro key entry absent found
    have found : (session.lexicon.withEntries entries).index.get? key = some entry := found
    cases known : session.lexicon.knows key with
    | true =>
      rw [made.get?_of_knows known, absent] at found
      cases found
    | false =>
      rcases made.get?_withEntries known with ⟨-, missing⟩ | ⟨word, id, first, there⟩
      · rw [missing] at found
        cases found
      · rw [there, Option.some.injEq] at found
        exact ⟨word, id, first, found.symm⟩
  case kept =>
    intro key entry found
    show (session.lexicon.withEntries entries).index.get? key = some entry
    rw [Lexicon.get?_withEntries made.fresh, found, Option.some_or]

/-- After the entries for the new words are added, all words have known keys. -/
theorem Made.knows {entries : List Entry}
    (made : Made level (session.lexicon.newWords words) entries) :
    ∀ word ∈ words, (session.withLexicon (session.lexicon.withEntries entries)).lexicon.knows
      (Word.key word) = true := by
  intro word member
  by_contra unknown
  obtain ⟨filled, absent⟩ := Lexicon.knows_eq_false_iff.mp (Bool.eq_false_iff.mpr unknown)
  have present := (made.addsNew.keys (Word.key word)).mpr
    (.inr ⟨filled, List.mem_map_of_mem member⟩)
  rw [absent] at present
  cases present

/-- **Adding a list of words**, at a level or at that of the configuration.

* If it succeeds, it has added what it counts: an entry at this level for each new key, made from the
  first word with it (`AddsNew`).  Doing it again adds nothing and changes nothing.  Other orders of
  words with different keys, in the same world, succeed as well, with the same count and the same
  entries, but for identifiers.
* If it fails, it has added the words before the one that failed (`StopsAt`).

On the command line it has the same result. -/
theorem words_added (session : Session) (world : World) (words : List String)
    (level : Option Level) :
    let chosen := level.getD session.configuration.addedWordLevel
    let change := session.addWords world words level
    (∀ count, change.result = .ok count →
      AddsNew session chosen words count change.session ∧
      (∀ now, change.session.addWords now words level = ⟨.ok 0, change.session, now⟩) ∧
      ∀ other, words.Perm other → (words.map Word.key).Nodup →
        let second := session.addWords world other level
        second.result = .ok count ∧
          second.session.lexicon.index.map Entry.anonymous
            = change.session.lexicon.index.map Entry.anonymous) ∧
    (∀ failure, change.result = .error failure →
      StopsAt session world chosen words failure change) ∧
    ∀ colour, let outcome := Maintenance.add session world colour words level
      outcome.result = change.result ∧ outcome.session = change.session ∧
        outcome.world = change.world := by
  intro chosen change
  refine ⟨?succeeds, fun failure failed => stopsAt failed, ?typed⟩
  case succeeds =>
    intro count success
    obtain ⟨entries, made, length, after⟩ := exists_entries_of_added success
    have after : change.session = session.withLexicon (session.lexicon.withEntries entries) := after
    subst length
    refine ⟨?adds, ?again, ?reordered⟩
    case adds =>
      rw [after]
      exact made.addsNew
    case again =>
      intro now
      rw [after, addWords, addWordsAt_of_knows made.knows now]
    case reordered =>
      intro other perm once second
      have accepts := exists_added_iff.mp ⟨_, success⟩
      rw [length_newWords_of_perm session.lexicon perm] at accepts
      obtain ⟨total, added⟩ := exists_added_iff.mpr accepts
      obtain ⟨others, madeOther, length, afterOther⟩ := exists_entries_of_added added
      have equal : others.length = entries.length := by
        rw [← madeOther.length_eq, ← made.length_eq, length_newWords_of_perm _ perm]
      have last : second.session = session.withLexicon (session.lexicon.withEntries others) :=
        afterOther
      refine ⟨added.trans (by rw [← length, equal]), ?_⟩
      rw [last, after]
      exact anonymous_eq_of_perm perm once made madeOther
  case typed =>
    intro colour
    rw [Maintenance.add]
    cases (session.addWords world words level).result <;> exact ⟨rfl, rfl, rfl⟩

/-- A session with one word in one file. -/
def oneWordSession : Session :=
  let file : BackingFile := ⟨"words", [Entry.ofWord "Grace" .unverified ⟨0⟩]⟩
  { workspace :=
      { configuration := Configuration.default
        settings := {}
        lexicon := ⟨Lexicon.union [file], [file], some 0⟩ }
    registry := initialRegistry Configuration.default }

/-- Of these words one is known, one has an empty key, and two have the same key. -/
def someWords : List String :=
  ["Glory", "GRACE", "?!", "glory!", "Hope"]

/-- Two of these words are added; without the others they can come in any order.  Where the second write
is refused, the addition stops at the last one. -/
theorem words_added_oneWord :
    let level := Configuration.default.addedWordLevel
    let change := oneWordSession.addWords ⟨{}, ⟨1⟩⟩ someWords none
    let refusing : World := ⟨{ refusals := [false, true] }, ⟨1⟩⟩
    change.result = .ok 2 ∧ AddsNew oneWordSession level someWords 2 change.session ∧
      change.session.addWords change.world someWords none = ⟨.ok 0, change.session, change.world⟩ ∧
      (oneWordSession.addWords ⟨{}, ⟨1⟩⟩ ["Hope", "Glory"] none).session.lexicon.index.map
          Entry.anonymous
        = (oneWordSession.addWords ⟨{}, ⟨1⟩⟩ ["Glory", "Hope"] none).session.lexicon.index.map
            Entry.anonymous ∧
      ∃ failure, StopsAt oneWordSession refusing level someWords failure
        (oneWordSession.addWords refusing someWords none) := by
  intro level change refusing
  have counted : change.result = .ok 2 := eq_ok_of_toOption (by decide +kernel)
  have both : (oneWordSession.addWords ⟨{}, ⟨1⟩⟩ ["Glory", "Hope"] none).result = .ok 2 :=
    eq_ok_of_toOption (by decide +kernel)
  have stopped : (oneWordSession.addWords refusing someWords none).result.toOption = none := by
    decide +kernel
  obtain ⟨adds, again, -⟩ := (words_added oneWordSession ⟨{}, ⟨1⟩⟩ someWords none).1 2 counted
  obtain ⟨-, -, reordered⟩ :=
    (words_added oneWordSession ⟨{}, ⟨1⟩⟩ ["Glory", "Hope"] none).1 2 both
  have same := (reordered ["Hope", "Glory"] (.swap _ _ _) (by decide +kernel)).2
  refine ⟨counted, adds, again _, same, ?_⟩
  cases failed : (oneWordSession.addWords refusing someWords none).result with
  | error failure =>
    exact ⟨failure, (words_added oneWordSession refusing someWords none).2.1 failure failed⟩
  | ok count =>
    rw [failed] at stopped
    cases stopped

end Session

end Orthography
