import Orthography.Proofs.Guarded.Text
import Orthography.Proofs.Lexicon.Reachable

/-!
# Changes of a lexicon on guard

A lexicon knows the position of its primary file, and a removal remembers the positions of the files
that it has saved.  Files are looked up by these positions again and again.  The primary file of a
well-formed lexicon is there (`Guarded.primaryPath_eq`, `Guarded.define_eq`).  No change adds or drops
a file, so the files that a removal has saved are there when they are put back
(`Guarded.Kept.sweepFiles`).

A removal counts the entries that it takes out.  Together with those that are left they are as many
as there were before (`Guarded.entryCount_of_sweepFile`), so that the count does not overflow
(`Guarded.remove_eq`).
-/

namespace Orthography.Guarded

set_option autoImplicit false

open Lexicon (Sweep Change)

/-! ## The operations -/

/-- The path of the file that new words go to. -/
def primaryPath (lexicon : Lexicon) : Option (Option String) :=
  match lexicon.primary with
  | none => some none
  | some position => do
    let file ← lexicon.files[position]?
    return some file.path

/-- Adds a word.  The primary file is looked up to extend it, to write it, and once more if that
fails. -/
def define (lexicon : Lexicon) (world : World) (word : String) (level : Level) :
    Option (Change Bool) :=
  let key := Word.key word
  if key.isEmpty || lexicon.index.contains key then some ⟨.ok false, lexicon, world, []⟩
  else
    let (id, supply) := world.supply.draw
    let entry := Entry.ofWord word level id
    let defined := { lexicon with index := lexicon.index.insert key entry }
    match defined.primary with
    | none => some ⟨.ok true, defined, { world with supply := supply }, []⟩
    | some position => do
      let file ← defined.files[position]?
      let extended := defined.setFile position (file.append entry)
      let longer ← extended.files[position]?
      match longer.save world.disk with
      | (true, disk) => return ⟨.ok true, extended, ⟨disk, supply⟩, []⟩
      | (false, disk) =>
        let refused ← extended.files[position]?
        let undone := extended.setFile position refused.dropLast
        return ⟨.error (.storage file.path), { undone with index := undone.index.erase key },
          ⟨disk, supply⟩, []⟩

/-- Takes the entries with a key out of the file at a position and writes it. -/
def sweepFile (key : String) (sweep : Sweep) (position : Nat) :
    Option (Except String Nat × Sweep) := do
  let file ← sweep.lexicon.files[position]?
  if !file.holds key then return (.ok 0, sweep)
  else
    let swept := sweep.lexicon.setFile position (file.without key)
    let shorter ← swept.files[position]?
    let dropped ← difference file.entries.length shorter.entries.length
    match shorter.save sweep.disk with
    | (true, disk) => return (.ok dropped, ⟨swept, disk, (position, file) :: sweep.saved⟩)
    | (false, disk) => return (.error file.path, ⟨swept.setFile position file, disk, sweep.saved⟩)

/-- Takes the entries with a key out of the files at some positions, after so many of all entries
were taken out before. -/
def sweepFiles (entries : Nat) (key : String) (sweep : Sweep) (total : Nat) :
    List Nat → Option (Except String Nat × Sweep)
  | [] => some (.ok total, sweep)
  | position :: rest => do
    match ← sweepFile key sweep position with
    | (.error path, sweep) => return (.error path, sweep)
    | (.ok dropped, sweep) =>
      let total ← count entries total dropped
      sweepFiles entries key sweep total rest

/-- Puts files back as they were, in memory and on the disk. -/
def restore (lexicon : Lexicon) (disk : Disk) :
    List (Nat × BackingFile) → Option (Lexicon × Disk × List String)
  | [] => some (lexicon, disk, [])
  | (position, file) :: rest => do
    let put := lexicon.setFile position file
    let same ← put.files[position]?
    let (written, disk) := same.save disk
    let (restored, disk, unrestored) ← restore put disk rest
    return (restored, disk, if written then unrestored else file.path :: unrestored)

/-- How many entries the files of a lexicon have. -/
def entryCount (lexicon : Lexicon) : Nat :=
  (lexicon.files.flatMap BackingFile.entries).length

/-- Takes a word out of the index and of every file. -/
def remove (lexicon : Lexicon) (world : World) (word : String) : Option (Change Nat) :=
  let key := Word.key word
  match lexicon.index.get? key with
  | none => some ⟨.ok 0, lexicon, world, []⟩
  | some entry => do
    let erased := { lexicon with index := lexicon.index.erase key }
    match ← sweepFiles (entryCount lexicon) key ⟨erased, world.disk, []⟩ 0
        (List.range erased.files.length) with
    | (.ok total, sweep) =>
      return ⟨.ok (max total 1), sweep.lexicon, { world with disk := sweep.disk }, []⟩
    | (.error path, sweep) =>
      let (restored, disk, unrestored) ← restore sweep.lexicon sweep.disk sweep.saved
      return ⟨.error (.storage path), { restored with index := restored.index.insert key entry },
        { world with disk := disk }, unrestored⟩

/-! ## The primary file -/

section Primary

variable {lexicon : Lexicon} (wellFormed : lexicon.WellFormed)

include wellFormed

/-- **The path of the primary file is found.** -/
theorem primaryPath_eq : primaryPath lexicon = some lexicon.primaryPath := by
  rw [primaryPath, Lexicon.primaryPath]
  cases chosen : lexicon.primary with
  | none => rfl
  | some position =>
    have here := List.getElem?_eq_getElem (wellFormed.primary position chosen)
    simp only [Option.bind_eq_bind, Option.bind_some, here]
    rfl

/-- **Words are added.** -/
theorem define_eq (world : World) (word : String) (level : Level) :
    define lexicon world word level = some (lexicon.define world word level) := by
  rw [define, Lexicon.define]
  dsimp only
  split
  · rfl
  · cases chosen : lexicon.primary with
    | none =>
      simp only [Lexicon.primaryFile?, Option.bind_eq_bind, Option.bind_none]
    | some position =>
      have inside := wellFormed.primary position chosen
      obtain ⟨file, here⟩ : ∃ file, lexicon.files[position]? = some file :=
        ⟨_, List.getElem?_eq_getElem inside⟩
      have there (file : BackingFile) : (lexicon.files.set position file)[position]? = some file :=
        List.getElem?_set_self inside
      simp only [Lexicon.primaryFile?, Lexicon.setFile, here, there, Option.bind_eq_bind,
        Option.bind_some, Option.pure_def]
      rcases (file.append _).save world.disk with ⟨_ | _, disk⟩ <;> rfl

end Primary

/-! ## Sweeps -/

/-- A file has the entries with a key and those that are left without them. -/
theorem length_without_add_count (file : BackingFile) (key : String) :
    (file.without key).entries.length + file.count key = file.entries.length := by
  have parts := @List.length_eq_length_filter_add Entry file.entries fun entry => entry.key = key
  have kept : file.entries.filter (fun entry => !decide (entry.key = key))
      = (file.without key).entries := by
    simp only [BackingFile.without, ne_eq, decide_not]
  rw [kept] at parts
  rw [BackingFile.count, parts, Nat.add_comm]

/-- A file in the place of another one brings its entries and takes those of the other one away. -/
theorem entryCount_setFile {lexicon : Lexicon} {position : Nat} {file : BackingFile}
    (here : lexicon.files[position]? = some file) (other : BackingFile) :
    entryCount (lexicon.setFile position other) + file.entries.length
      = entryCount lexicon + other.entries.length := by
  obtain ⟨inside, there⟩ := List.getElem?_eq_some_iff.mp here
  have whole := List.take_append_drop position lexicon.files
  rw [List.drop_eq_getElem_cons inside, there] at whole
  have counted : entryCount lexicon = _ :=
    congrArg (fun files => (files.flatMap BackingFile.entries).length) whole.symm
  rw [counted, entryCount, Lexicon.setFile, List.set_eq_take_append_cons_drop, if_pos inside]
  simp only [List.flatMap_append, List.flatMap_cons, List.length_append]
  omega

/-- A sweep over so many files has not lost any, and those that were saved are among them. -/
structure Kept (files : Nat) (sweep : Sweep) : Prop where
  length : sweep.lexicon.files.length = files
  saved : ∀ place ∈ sweep.saved, place.1 < files

variable {key : String} {sweep : Sweep} {position files : Nat}

theorem Kept.exists_file (kept : Kept files sweep) (inside : position < files) :
    ∃ file, sweep.lexicon.files[position]? = some file :=
  ⟨_, List.getElem?_eq_getElem (by rw [kept.length]; exact inside)⟩

/-- Sweeping one file keeps all files. -/
theorem Kept.sweepFile (kept : Kept files sweep) (inside : position < files) :
    Kept files (Lexicon.sweepFile key sweep position).2 := by
  obtain ⟨file, here⟩ := kept.exists_file inside
  cases holds : file.holds key with
  | false =>
    rw [Lexicon.sweepFile_of_not_holds here holds]
    exact kept
  | true =>
    rcases outcome : (file.without key).save sweep.disk with ⟨_ | _, disk⟩
    · rw [Lexicon.sweepFile_of_refused here holds outcome]
      exact ⟨kept.length, kept.saved⟩
    · rw [Lexicon.sweepFile_of_written here holds outcome]
      refine ⟨by rw [Lexicon.setFile, List.length_set, kept.length], ?_⟩
      exact List.forall_mem_cons.mpr ⟨inside, kept.saved⟩

/-- Sweeping many files keeps all files. -/
theorem Kept.sweepFiles {positions : List Nat} (kept : Kept files sweep)
    (inside : ∀ position ∈ positions, position < files) :
    Kept files (Lexicon.sweepFiles key sweep positions).2 := by
  induction positions generalizing sweep with
  | nil => exact kept
  | cons position rest ih =>
    obtain ⟨first, others⟩ := List.forall_mem_cons.mp inside
    have next : Kept files (Lexicon.sweepFile key sweep position).2 := kept.sweepFile first
    rcases step : Lexicon.sweepFile key sweep position with ⟨path | dropped, swept⟩
    · rw [Lexicon.sweepFiles_cons_of_error step]
      rwa [step] at next
    · rw [Lexicon.sweepFiles_cons_of_ok step]
      rw [step] at next
      exact ih next others

/-- The entries that are taken out of a file and those that are left are as many as there were. -/
theorem entryCount_of_sweepFile {dropped : Nat} {next : Sweep}
    (swept : Lexicon.sweepFile key sweep position = (.ok dropped, next)) :
    dropped + entryCount next.lexicon = entryCount sweep.lexicon := by
  cases here : sweep.lexicon.files[position]? with
  | none =>
    rw [Lexicon.sweepFile, here] at swept
    cases swept
    exact Nat.zero_add _
  | some file =>
    cases holds : file.holds key with
    | false =>
      rw [Lexicon.sweepFile_of_not_holds here holds] at swept
      cases swept
      exact Nat.zero_add _
    | true =>
      rcases outcome : (file.without key).save sweep.disk with ⟨_ | _, disk⟩
      · rw [Lexicon.sweepFile_of_refused here holds outcome] at swept
        cases swept
      · rw [Lexicon.sweepFile_of_written here holds outcome] at swept
        cases swept
        have exchanged := entryCount_setFile here (file.without key)
        have parts := length_without_add_count file key
        dsimp only
        omega

theorem sweepFile_eq (inside : position < sweep.lexicon.files.length) :
    sweepFile key sweep position = some (Lexicon.sweepFile key sweep position) := by
  obtain ⟨file, here⟩ : ∃ file, sweep.lexicon.files[position]? = some file :=
    ⟨_, List.getElem?_eq_getElem inside⟩
  have there (file : BackingFile) :
      (sweep.lexicon.files.set position file)[position]? = some file :=
    List.getElem?_set_self inside
  have parts := length_without_add_count file key
  have dropped : difference file.entries.length (file.without key).entries.length
      = some (file.count key) := by
    rw [difference_eq (by omega)]
    exact congrArg some (by omega)
  rw [sweepFile, Lexicon.sweepFile, here]
  simp only [Lexicon.setFile, there, dropped, Option.bind_eq_bind, Option.bind_some]
  split
  · rfl
  · rcases (file.without key).save sweep.disk with ⟨_ | _, disk⟩ <;> rfl

/-- **A sweep finds all its files** and counts what it takes out of them. -/
theorem sweepFiles_eq {entries total : Nat} {positions : List Nat} (kept : Kept files sweep)
    (inside : ∀ position ∈ positions, position < files)
    (room : total + entryCount sweep.lexicon ≤ entries) :
    sweepFiles entries key sweep total positions
      = some ((Lexicon.sweepFiles key sweep positions).1.map (total + ·),
          (Lexicon.sweepFiles key sweep positions).2) := by
  induction positions generalizing sweep total with
  | nil => rfl
  | cons position rest ih =>
    obtain ⟨first, others⟩ := List.forall_mem_cons.mp inside
    have next : Kept files (Lexicon.sweepFile key sweep position).2 := kept.sweepFile first
    rw [sweepFiles, sweepFile_eq (by rw [kept.length]; exact first), Option.bind_eq_bind,
      Option.bind_some]
    rcases step : Lexicon.sweepFile key sweep position with ⟨path | dropped, swept⟩
    · rw [Lexicon.sweepFiles_cons_of_error step]
      rfl
    · rw [step] at next
      change Kept files swept at next
      have left := entryCount_of_sweepFile step
      rw [Lexicon.sweepFiles_cons_of_ok step]
      dsimp only
      rw [count_eq (by omega), Option.bind_eq_bind, Option.bind_some,
        ih next others (by omega)]
      cases (Lexicon.sweepFiles key swept rest).1 with
      | error path => rfl
      | ok counted => simp only [Except.map, Nat.add_assoc]

/-! ## Removals -/

/-- **Files are put back** where they were. -/
theorem restore_eq {lexicon : Lexicon} {saved : List (Nat × BackingFile)}
    (inside : ∀ place ∈ saved, place.1 < lexicon.files.length) (disk : Disk) :
    restore lexicon disk saved = some (Lexicon.restore lexicon disk saved) := by
  induction saved generalizing lexicon disk with
  | nil => rfl
  | cons place rest ih =>
    obtain ⟨position, file⟩ := place
    obtain ⟨here, others⟩ := List.forall_mem_cons.mp inside
    have there : (lexicon.setFile position file).files[position]? = some file :=
      List.getElem?_set_self here
    have same : (lexicon.setFile position file).files.length = lexicon.files.length :=
      List.length_set
    rw [restore, Lexicon.restore, there, Option.bind_eq_bind, Option.bind_some]
    dsimp only
    rw [ih (by rwa [same]), Option.bind_eq_bind, Option.bind_some]
    rfl

/-- **Words are removed.** -/
theorem remove_eq (lexicon : Lexicon) (world : World) (word : String) :
    remove lexicon world word = some (lexicon.remove world word) := by
  rw [remove, Lexicon.remove]
  dsimp only
  cases lexicon.index.get? (Word.key word) with
  | none => rfl
  | some entry =>
    have kept : Kept lexicon.files.length
        ⟨{ lexicon with index := lexicon.index.erase (Word.key word) }, world.disk, []⟩ :=
      ⟨rfl, fun _ impossible => absurd impossible List.not_mem_nil⟩
    have inside : ∀ position ∈ List.range lexicon.files.length, position < lexicon.files.length :=
      fun position => List.mem_range.mp
    have room : 0 + entryCount { lexicon with index := lexicon.index.erase (Word.key word) }
        ≤ entryCount lexicon :=
      Nat.le_of_eq (Nat.zero_add _)
    have after := @Kept.sweepFiles (Word.key word) _ _ _ kept inside
    dsimp only
    rw [sweepFiles_eq kept inside room, Option.bind_eq_bind, Option.bind_some]
    generalize Lexicon.sweepFiles (Word.key word) _ _ = run at after ⊢
    obtain ⟨path | total, swept⟩ := run
    · dsimp only [Except.map]
      rw [restore_eq (by rw [after.length]; exact after.saved), Option.bind_eq_bind,
        Option.bind_some]
      rfl
    · simp only [Except.map, Nat.zero_add]
      rfl

end Orthography.Guarded
