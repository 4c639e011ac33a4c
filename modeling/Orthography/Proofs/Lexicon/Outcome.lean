import Orthography.Proofs.Lexicon.Union
import Orthography.Proofs.Word.Edges

/-!
# What comes of a change of a lexicon

The outcomes of `Lexicon.define` and `Lexicon.remove`, one constructor each (`Lexicon.Defined`,
`Lexicon.Removed`), and that every change has one of them (`Lexicon.defined`, `Lexicon.removed`).
All that is proved about changes rests on these two.

A failed change has undone its work in memory.  For a definition this is the removal of a key and of
a last entry that were just added.  For a removal the files have been changed one after the other,
and only those that were saved so far are put back; the invariant of the sweep is that putting back
what was saved gives the files from before (`Lexicon.putBack`).
-/

namespace Orthography

set_option autoImplicit false

/-! ## Results -/

/-- A result that can be had is no failure. -/
theorem eq_ok_of_toOption {α : Type} {result : Except Failure α} {value : α}
    (had : result.toOption = some value) : result = .ok value := by
  cases result with
  | error failure => cases had
  | ok other =>
    cases had
    rfl

/-- What is counted was no failure. -/
theorem exists_eq_ok_of_map {α β : Type} {result : Except Failure α} {count : α → β} {total : β}
    (counted : result.map count = .ok total) : ∃ value, result = .ok value := by
  cases result with
  | error failure => cases counted
  | ok value => exact ⟨value, rfl⟩

/-! ## Files -/

namespace BackingFile

/-- A file that has no entry with a key loses none. -/
theorem without_of_not_holds {file : BackingFile} {key : String}
    (free : file.holds key = false) : file.without key = file := by
  have kept : file.entries.filter (fun entry => entry.key ≠ key) = file.entries := by
    rw [List.filter_eq_self]
    intro entry member
    simp only [holds, List.any_eq_false] at free
    simpa using free entry member
  cases file
  simp only [without] at kept ⊢
  rw [kept]

/-- The count of a file that has no entry with a key is zero. -/
theorem count_of_not_holds {file : BackingFile} {key : String}
    (free : file.holds key = false) : file.count key = 0 := by
  rw [count, List.length_eq_zero_iff, List.filter_eq_nil_iff]
  intro entry member
  simp only [holds, List.any_eq_false] at free
  exact free entry member

/-- An entry at the end of a file is taken off again. -/
theorem dropLast_append (file : BackingFile) (entry : Entry) :
    (file.append entry).dropLast = file := by
  cases file
  simp [append, dropLast]

end BackingFile

namespace Lexicon

/-! ## Putting files back -/

/-- Files are all written, one after the other. -/
inductive SavedAll : Disk → List BackingFile → Disk → Prop where
  | nil (disk : Disk) : SavedAll disk [] disk
  | cons {disk next after : Disk} {file : BackingFile} {rest : List BackingFile}
      (written : file.save disk = (true, next)) (others : SavedAll next rest after) :
      SavedAll disk (file :: rest) after

/-- The disk after files are written one after the other, and the paths of those that could not
be. -/
def resave (disk : Disk) : List BackingFile → Disk × List String
  | [] => (disk, [])
  | file :: rest =>
    let (written, next) := file.save disk
    let (after, unrestored) := resave next rest
    (after, if written then unrestored else file.path :: unrestored)

/-- Files with some of them put back at their positions. -/
def putBack (files : List BackingFile) (saved : List (Nat × BackingFile)) : List BackingFile :=
  saved.foldl (fun files place => files.set place.1 place.2) files

/-- Restoring puts files back in memory and writes them. -/
theorem restore_eq (lexicon : Lexicon) (disk : Disk) (saved : List (Nat × BackingFile)) :
    restore lexicon disk saved =
      ({ lexicon with files := putBack lexicon.files saved },
        resave disk (saved.map Prod.snd)) := by
  induction saved generalizing lexicon disk with
  | nil => rfl
  | cons place rest ih =>
    obtain ⟨position, file⟩ := place
    simp only [restore, ih, setFile, putBack, List.foldl_cons, List.map_cons, resave]

/-! ## The sweep -/

/-- The files that have an entry with a key. -/
def holders (key : String) (files : List BackingFile) : List BackingFile :=
  files.filter fun file => file.holds key

theorem holders_cons_of_holds {key : String} {file : BackingFile} {rest : List BackingFile}
    (holds : file.holds key = true) : holders key (file :: rest) = file :: holders key rest :=
  List.filter_cons_of_pos holds

theorem holders_cons_of_not_holds {key : String} {file : BackingFile} {rest : List BackingFile}
    (free : file.holds key = false) : holders key (file :: rest) = holders key rest :=
  List.filter_cons_of_neg (by simp [free])

section Sweep

variable {key : String} {sweep : Sweep} {position : Nat} {file : BackingFile}

/-- A file without an entry with the key is passed over. -/
theorem sweepFile_of_not_holds (here : sweep.lexicon.files[position]? = some file)
    (free : file.holds key = false) : sweepFile key sweep position = (.ok 0, sweep) := by
  simp [sweepFile, here, free]

/-- A file with entries with the key loses them and is remembered. -/
theorem sweepFile_of_written {disk : Disk} (here : sweep.lexicon.files[position]? = some file)
    (holds : file.holds key = true) (written : (file.without key).save sweep.disk = (true, disk)) :
    sweepFile key sweep position =
      (.ok (file.count key),
        ⟨sweep.lexicon.setFile position (file.without key), disk,
          (position, file) :: sweep.saved⟩) := by
  simp [sweepFile, here, holds, written]

/-- A file that cannot be written has its entries again. -/
theorem sweepFile_of_refused {disk : Disk} (here : sweep.lexicon.files[position]? = some file)
    (holds : file.holds key = true)
    (refused : (file.without key).save sweep.disk = (false, disk)) :
    sweepFile key sweep position = (.error file.path, { sweep with disk := disk }) := by
  have same : (sweep.lexicon.setFile position (file.without key)).setFile position file
      = sweep.lexicon := by
    obtain ⟨inside, held⟩ := List.getElem?_eq_some_iff.mp here
    simp only [setFile, List.set_set]
    rw [← held, List.set_getElem_self]
  simp [sweepFile, here, holds, refused, same]

/-- A sweep goes on after a file. -/
theorem sweepFiles_cons_of_ok {count : Nat} {next : Sweep}
    (first : sweepFile key sweep position = (.ok count, next)) (rest : List Nat) :
    sweepFiles key sweep (position :: rest) =
      ((sweepFiles key next rest).1.map (count + ·), (sweepFiles key next rest).2) := by
  rw [sweepFiles, first]

/-- A sweep ends at a file that cannot be written. -/
theorem sweepFiles_cons_of_error {path : String} {next : Sweep}
    (first : sweepFile key sweep position = (.error path, next)) (rest : List Nat) :
    sweepFiles key sweep (position :: rest) = (.error path, next) := by
  rw [sweepFiles, first]

end Sweep

/-- How many entries of some files have a key. -/
def countAll (key : String) : List BackingFile → Nat
  | [] => 0
  | file :: rest => file.count key + countAll key rest

/-- What comes of a sweep over the files from some position on: all of them are swept, or one of
them cannot be written.  Putting back what was saved gives the files from before. -/
inductive Swept (key : String) (start : Sweep) (done rest : List BackingFile) :
    Except String Nat × Sweep → Prop where
  | all {disk : Disk} {saved : List (Nat × BackingFile)}
      (saves : SavedAll start.disk
        ((holders key rest).map (BackingFile.without · key)) disk) :
      Swept key start done rest
        (.ok (countAll key rest),
          ⟨{ start.lexicon with files := done ++ rest.map (BackingFile.without · key) }, disk,
            saved⟩)
  | stopped {before after : List BackingFile} {file : BackingFile} {disk refused : Disk}
      {swept : List BackingFile} {saved : List (Nat × BackingFile)}
      (split : rest = before ++ file :: after) (holds : file.holds key = true)
      (saves : SavedAll start.disk
        ((holders key before).map (BackingFile.without · key)) disk)
      (refusal : (file.without key).save disk = (false, refused))
      (files : saved.map Prod.snd =
        (holders key before).reverse ++ start.saved.map Prod.snd)
      (undone : putBack swept saved = putBack (done ++ rest) start.saved) :
      Swept key start done rest
        (.error file.path, ⟨{ start.lexicon with files := swept }, refused, saved⟩)

/-- Every sweep over the files from some position on comes to one of the two. -/
theorem sweepFiles_swept (key : String) (start : Sweep) (done rest : List BackingFile)
    (whole : start.lexicon.files = done ++ rest) :
    Swept key start done rest
      (sweepFiles key start (List.range' done.length rest.length)) := by
  induction rest generalizing done start with
  | nil =>
    have same : start = ⟨{ start.lexicon with files := done ++ [] }, start.disk, start.saved⟩ := by
      rw [← whole]
    rw [List.length_nil, List.range'_zero, sweepFiles, same]
    exact .all (.nil _)
  | cons file rest ih =>
    have here : start.lexicon.files[done.length]? = some file := by
      rw [whole, List.getElem?_append_right (Nat.le_refl _), Nat.sub_self, List.getElem?_cons_zero]
    rw [List.length_cons, List.range'_succ]
    cases holds : file.holds key with
    | false =>
      rw [sweepFiles_cons_of_ok (sweepFile_of_not_holds here holds)]
      have next := ih start (done ++ [file]) (by rw [whole, List.append_assoc]; rfl)
      rw [List.length_append, List.length_singleton] at next
      generalize sweepFiles key start (List.range' (done.length + 1) rest.length) = run at next ⊢
      cases next with
      | @all disk saved saves =>
        have total : Swept key start done (file :: rest) (.ok _, ⟨_, disk, saved⟩) :=
          .all (by rwa [holders_cons_of_not_holds holds])
        rw [countAll, BackingFile.count_of_not_holds holds, List.map_cons,
          BackingFile.without_of_not_holds holds] at total
        simpa only [Except.map, List.append_assoc, List.singleton_append] using total
      | @stopped before after stop disk refused swept saved split stops saves refusal files undone =>
        subst split
        refine .stopped List.cons_append.symm stops ?_ refusal ?_ ?_
        · rwa [holders_cons_of_not_holds holds]
        · rwa [holders_cons_of_not_holds holds]
        · rwa [List.append_assoc] at undone
    | true =>
      cases outcome : (file.without key).save start.disk with
      | mk written disk =>
        cases written with
        | false =>
          rw [sweepFiles_cons_of_error (sweepFile_of_refused here holds outcome)]
          exact .stopped (List.nil_append _).symm holds (.nil _) outcome rfl
            (by rw [whole])
        | true =>
          rw [sweepFiles_cons_of_ok (sweepFile_of_written here holds outcome)]
          have next := ih
            ⟨start.lexicon.setFile done.length (file.without key), disk,
              (done.length, file) :: start.saved⟩
            (done ++ [file.without key]) (by simp [setFile, whole])
          rw [List.length_append, List.length_singleton] at next
          generalize sweepFiles key _ (List.range' (done.length + 1) rest.length) = run at next ⊢
          cases next with
          | @all disk saved saves =>
            have total : Swept key start done (file :: rest) (.ok _, ⟨_, disk, saved⟩) :=
              .all (by
                rw [holders_cons_of_holds holds, List.map_cons]
                exact .cons outcome saves)
            rw [countAll, List.map_cons] at total
            simpa only [Except.map, setFile, List.append_assoc, List.singleton_append] using total
          | @stopped before after stop disk refused swept saved split stops saves refusal files
              undone =>
            subst split
            refine .stopped List.cons_append.symm stops ?_ refusal ?_ ?_
            · rw [holders_cons_of_holds holds, List.map_cons]
              exact .cons outcome saves
            · rw [files, holders_cons_of_holds holds]
              simp
            · -- Putting back the file that was just swept comes first.
              rw [undone]
              simp [putBack]

/-! ## Definitions -/

/-- What comes of adding a word. -/
inductive Defined (lexicon : Lexicon) (world : World) (word : String) (level : Level) :
    Change Bool → Prop where
  | known (reason : Word.key word = "" ∨ (lexicon.index.get? (Word.key word)).isSome) :
      Defined lexicon world word level ⟨.ok false, lexicon, world, []⟩
  | inMemory (filled : Word.key word ≠ "") (absent : lexicon.index.get? (Word.key word) = none)
      (unbacked : lexicon.primaryFile? = none) :
      Defined lexicon world word level
        ⟨.ok true,
          { lexicon with
            index := lexicon.index.insert (Word.key word)
              (Entry.ofWord word level world.supply.draw.1) },
          { world with supply := world.supply.draw.2 }, []⟩
  | saved {position : Nat} {file : BackingFile} {disk : Disk} (filled : Word.key word ≠ "")
      (absent : lexicon.index.get? (Word.key word) = none)
      (primary : lexicon.primaryFile? = some (position, file))
      (written : (file.append (Entry.ofWord word level world.supply.draw.1)).save world.disk =
        (true, disk)) :
      Defined lexicon world word level
        ⟨.ok true,
          { lexicon with
            index := lexicon.index.insert (Word.key word)
              (Entry.ofWord word level world.supply.draw.1)
            files := lexicon.files.set position
              (file.append (Entry.ofWord word level world.supply.draw.1)) },
          ⟨disk, world.supply.draw.2⟩, []⟩
  | failed {position : Nat} {file : BackingFile} {disk : Disk} (filled : Word.key word ≠ "")
      (absent : lexicon.index.get? (Word.key word) = none)
      (primary : lexicon.primaryFile? = some (position, file))
      (refused : (file.append (Entry.ofWord word level world.supply.draw.1)).save world.disk =
        (false, disk)) :
      Defined lexicon world word level
        ⟨.error (.storage file.path), lexicon, ⟨disk, world.supply.draw.2⟩, []⟩

/-- The primary file stands at its position. -/
theorem getElem?_of_primaryFile? {lexicon : Lexicon} {position : Nat} {file : BackingFile}
    (primary : lexicon.primaryFile? = some (position, file)) :
    lexicon.primary = some position ∧ lexicon.files[position]? = some file := by
  unfold primaryFile? at primary
  cases chosen : lexicon.primary with
  | none => simp [chosen] at primary
  | some index =>
    cases here : lexicon.files[index]? with
    | none => simp [chosen, here] at primary
    | some held =>
      simp only [chosen, here, Option.bind_eq_bind, Option.bind_some, Option.pure_def,
        Option.some.injEq, Prod.mk.injEq] at primary
      obtain ⟨rfl, rfl⟩ := primary
      exact ⟨rfl, here⟩

/-- Every definition has one of the outcomes.  In particular one that fails has undone its work in
memory. -/
theorem defined (lexicon : Lexicon) (world : World) (word : String) (level : Level) :
    Defined lexicon world word level (lexicon.define world word level) := by
  unfold define
  by_cases blank : Word.key word = ""
  · rw [if_pos (by simp [blank])]
    exact .known (.inl blank)
  · cases found : lexicon.index.get? (Word.key word) with
    | some entry =>
      rw [if_pos (by simp [KeyMap.contains_eq_isSome, found])]
      exact .known (.inr (by rw [found]; rfl))
    | none =>
      rw [if_neg (by simp [KeyMap.contains_eq_isSome, found, blank])]
      have same : ({ lexicon with
          index := lexicon.index.insert (Word.key word)
            (Entry.ofWord word level world.supply.draw.1) } : Lexicon).primaryFile?
          = lexicon.primaryFile? := rfl
      simp only [same]
      cases primary : lexicon.primaryFile? with
      | none => exact .inMemory blank found primary
      | some place =>
        obtain ⟨position, file⟩ := place
        obtain ⟨inside, held⟩ := List.getElem?_eq_some_iff.mp (getElem?_of_primaryFile? primary).2
        cases outcome : (file.append (Entry.ofWord word level world.supply.draw.1)).save
            world.disk with
        | mk written disk =>
          cases written with
          | true =>
            simp only [outcome, setFile]
            exact .saved blank found primary outcome
          | false =>
            simp only [outcome, setFile, List.set_set, BackingFile.dropLast_append,
              KeyMap.erase_insert found]
            rw [← held, List.set_getElem_self, held]
            exact .failed blank found primary outcome

/-! ## Removals -/

/-- What comes of taking out a word.  When a file cannot be written, the files that were saved
before it are written again as they were, the one saved last first. -/
inductive Removed (lexicon : Lexicon) (world : World) (word : String) : Change Nat → Prop where
  | unknown (absent : lexicon.index.get? (Word.key word) = none) :
      Removed lexicon world word ⟨.ok 0, lexicon, world, []⟩
  | done {entry : Entry} {disk : Disk}
      (present : lexicon.index.get? (Word.key word) = some entry)
      (saves : SavedAll world.disk
        ((holders (Word.key word) lexicon.files).map (BackingFile.without · (Word.key word))) disk) :
      Removed lexicon world word
        ⟨.ok (max (countAll (Word.key word) lexicon.files) 1),
          { lexicon with
            index := lexicon.index.erase (Word.key word)
            files := lexicon.files.map (BackingFile.without · (Word.key word)) },
          { world with disk := disk }, []⟩
  | failed {entry : Entry} {before after : List BackingFile} {file : BackingFile}
      {disk refused : Disk} (present : lexicon.index.get? (Word.key word) = some entry)
      (split : lexicon.files = before ++ file :: after)
      (holds : file.holds (Word.key word) = true)
      (saves : SavedAll world.disk
        ((holders (Word.key word) before).map (BackingFile.without · (Word.key word))) disk)
      (refusal : (file.without (Word.key word)).save disk = (false, refused)) :
      Removed lexicon world word
        ⟨.error (.storage file.path), lexicon,
          { world with disk := (resave refused (holders (Word.key word) before).reverse).1 },
          (resave refused (holders (Word.key word) before).reverse).2⟩

/-- Every removal has one of the outcomes.  In particular one that fails has undone its work in
memory, whichever writes are refused. -/
theorem removed (lexicon : Lexicon) (world : World) (word : String) :
    Removed lexicon world word (lexicon.remove world word) := by
  unfold remove
  cases found : lexicon.index.get? (Word.key word) with
  | none =>
    simp only [found]
    exact .unknown found
  | some entry =>
    have swept := sweepFiles_swept (Word.key word)
      ⟨{ lexicon with index := lexicon.index.erase (Word.key word) }, world.disk, []⟩
      [] lexicon.files rfl
    rw [List.length_nil, ← List.range_eq_range'] at swept
    simp only [found]
    generalize sweepFiles _ _ _ = run at swept ⊢
    cases swept with
    | all saves => exact .done found saves
    | @stopped before after file disk refused swept saved split holds saves refusal files undone =>
      have back : putBack swept saved = lexicon.files := undone
      simp only [restore_eq, back, files, List.map_nil, List.append_nil,
        KeyMap.insert_erase found]
      exact .failed found split holds saves refusal

end Lexicon

end Orthography
