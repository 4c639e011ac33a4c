import Orthography.Proofs.Lexicon.Glossary
import Orthography.Proofs.Lexicon.Reachable
import Orthography.Proofs.Lexicon.Reload

/-!
# A removal undoes a definition

A definition that adds a word puts an entry under a new key, and a removal takes out all entries with a
key, in every file.  The two undo each other because a key that is not in the index is in no file either
(`Lexicon.Kept.not_holds`): what the removal takes out is the new entry and nothing else, from the end
of the file that it was put into (`Lexicon.map_without_set_append`).  So the lexicon is what it was
before, the other entries with an empty key and the hidden ones included.

On the disk only the primary file was written, twice, and the second time with the entries from before
(`Lexicon.undone`).  Whether these are read from it again is the question whether all fractions among
their free members read back (`Lexicon.remove_undoes_define`); if not, they need not be
(`Lexicon.undone_file_reads_differently`).
-/

namespace Orthography

set_option autoImplicit false

/-! ## An entry at the end of a file -/

namespace BackingFile

/-- An entry with a new key at the end of a file is all that is taken out under its key. -/
theorem without_append {file : BackingFile} {entry : Entry} (free : file.holds entry.key = false) :
    (file.append entry).without entry.key = file := by
  rw [without, append, List.filter_append, List.filter_cons_of_neg (by simp), List.filter_nil,
    List.append_nil]
  exact without_of_not_holds free

/-- A file that ends in an entry holds its key. -/
theorem holds_append (file : BackingFile) (entry : Entry) :
    (file.append entry).holds entry.key = true := by
  simp [holds, append]

end BackingFile

namespace Lexicon

/-- Files without entries with a key lose none. -/
theorem map_without_of_not_holds {key : String} {files : List BackingFile}
    (free : ∀ file ∈ files, file.holds key = false) :
    files.map (BackingFile.without · key) = files := by
  refine (List.map_congr_left fun file member => ?_).trans (List.map_id files)
  exact BackingFile.without_of_not_holds (free file member)

/-- They have no entries to count. -/
theorem countAll_of_not_holds {key : String} {files : List BackingFile}
    (free : ∀ file ∈ files, file.holds key = false) : countAll key files = 0 := by
  induction files with
  | nil => rfl
  | cons file rest ih =>
    rw [countAll, BackingFile.count_of_not_holds (free file List.mem_cons_self),
      ih fun other member => free other (List.mem_cons_of_mem _ member)]

/-- None of them holds the key. -/
theorem holders_of_not_holds {key : String} {files : List BackingFile}
    (free : ∀ file ∈ files, file.holds key = false) : holders key files = [] := by
  rw [holders, List.filter_eq_nil_iff]
  intro file member
  rw [free file member]
  exact Bool.false_ne_true

section Append

variable {files : List BackingFile} {position : Nat} {file : BackingFile} {entry : Entry}

/-- **Taking out a new entry gives the files from before.** -/
theorem map_without_set_append (here : files[position]? = some file)
    (free : ∀ file ∈ files, file.holds entry.key = false) :
    (files.set position (file.append entry)).map (BackingFile.without · entry.key) = files := by
  have kept := map_without_of_not_holds free
  obtain ⟨inside, held⟩ := List.getElem?_eq_some_iff.mp here
  rw [List.map_set, kept, BackingFile.without_append (free file (List.mem_of_getElem? here)),
    ← held, List.set_getElem_self]

/-- Only the file that a new entry was put into holds its key. -/
theorem holders_set_append (here : files[position]? = some file)
    (free : ∀ file ∈ files, file.holds entry.key = false) :
    holders entry.key (files.set position (file.append entry)) = [file.append entry] := by
  obtain ⟨before, after, split, replaced⟩ := exists_split here
  rw [split] at free
  have left := holders_of_not_holds fun other member => free other (List.mem_append_left _ member)
  have right := holders_of_not_holds fun other member =>
    free other (List.mem_append_right _ (List.mem_cons_of_mem _ member))
  rw [replaced, holders, List.filter_append, ← holders, left, List.nil_append, ← holders,
    holders_cons_of_holds (BackingFile.holds_append file entry), right]

end Append

/-! ## Keys without an entry -/

/-- How a lexicon is kept: in memory only, or in files that it is the union of. -/
inductive Kept (lexicon : Lexicon) : Prop where
  | inMemory (files : lexicon.files = []) (primary : lexicon.primary = none)
  | inFiles (backed : Backed lexicon) (filed : Filed lexicon)

/-- Every lexicon that comes about is kept in one of these ways. -/
theorem Reachable.kept {lexicon : Lexicon} (reachable : Reachable lexicon) : Kept lexicon := by
  induction reachable with
  | inMemory => exact .inMemory rfl rfl
  | loaded success => exact .inFiles (backed_of_load success) (filed_of_load success)
  | performed _ world call ih =>
    cases ih with
    | inMemory files primary =>
      refine .inMemory (List.length_eq_zero_iff.mp ?_) ((primary_perform ..).trans primary)
      rw [length_files_perform, files, List.length_nil]
    | inFiles backed filed => exact .inFiles (backed.perform world call) (filed.perform world call)

/-- **A key without an entry in the index has none in any file.** -/
theorem Kept.not_holds {lexicon : Lexicon} (kept : Kept lexicon) {key : String} (filled : key ≠ "")
    (absent : lexicon.index.get? key = none) : ∀ file ∈ lexicon.files, file.holds key = false := by
  cases kept with
  | inMemory files =>
    rw [files]
    exact fun _ impossible => absurd impossible List.not_mem_nil
  | inFiles backed =>
    rw [backed.index_eq] at absent
    intro file member
    rw [BackingFile.holds, List.any_eq_false]
    intro entry inside
    have different := key_ne_of_get?_union_eq_none filled absent entry
      (List.mem_flatMap.mpr ⟨file, member, inside⟩)
    simpa using different

/-! ## Definition and removal -/

variable {lexicon : Lexicon} {world : World} {word : String} {level : Level}

/-- A removal takes out the one entry with its key that was put into the index and perhaps into a
file. -/
theorem eq_of_removed_inserted {files : List BackingFile} {entry : Entry} {now : World}
    {change : Change Nat} {count : Nat} (absent : lexicon.index.get? (Word.key word) = none)
    (back : files.map (BackingFile.without · (Word.key word)) = lexicon.files)
    (few : countAll (Word.key word) files ≤ 1)
    (outcome : Removed
      { lexicon with index := lexicon.index.insert (Word.key word) entry, files := files } now word
      change)
    (success : change.result = .ok count) :
    change.result = .ok 1 ∧ change.lexicon = lexicon ∧
      SavedAll now.disk
        ((holders (Word.key word) files).map (BackingFile.without · (Word.key word)))
        change.world.disk := by
  cases outcome with
  | unknown missing =>
    rw [KeyMap.get?_insert, if_pos rfl] at missing
    cases missing
  | failed => cases success
  | done present saves =>
    refine ⟨congrArg Except.ok (Nat.max_eq_right few), ?_, saves⟩
    simp only [KeyMap.erase_insert absent, back]

/-- Writing no files changes nothing. -/
theorem SavedAll.eq_of_nil {disk after : Disk} (saves : SavedAll disk [] after) : after = disk := by
  cases saves
  rfl

/-- Writing one file is one write. -/
theorem SavedAll.written {disk after : Disk} {file : BackingFile}
    (saves : SavedAll disk [file] after) : file.save disk = (true, after) := by
  cases saves with
  | cons written others => rw [written, others.eq_of_nil]

/-- What is left of a definition after a removal that undoes it. -/
structure Undone (lexicon : Lexicon) (disk : Disk) (change : Change Nat) : Prop where
  counted : change.result = .ok 1
  lexicon_eq : change.lexicon = lexicon
  /-- On the disk nothing but the primary file can have changed. -/
  untouched : ∀ path, (∀ position file, lexicon.primaryFile? = some (position, file) →
    ¬ disk.SamePlace path file.path) → change.world.disk.at? path = disk.at? path
  /-- The primary file has its entries from before. -/
  stands : ∀ position file, lexicon.primaryFile? = some (position, file) →
    change.world.disk.at? file.path = some (.file file.bytes)

/-- A removal that succeeds after a definition that added the word undoes it. -/
theorem undone (kept : Kept lexicon) (added : (lexicon.define world word level).result = .ok true)
    {other : String} (same : Word.key other = Word.key word) {count : Nat}
    (success : ((lexicon.define world word level).lexicon.remove
      (lexicon.define world word level).world other).result = .ok count) :
    Undone lexicon world.disk ((lexicon.define world word level).lexicon.remove
      (lexicon.define world word level).world other) := by
  have outcome := defined lexicon world word level
  generalize lexicon.define world word level = change at outcome added success ⊢
  have removal := removed change.lexicon change.world other
  generalize change.lexicon.remove change.world other = last at removal success ⊢
  have key : (Entry.ofWord word level world.supply.draw.1).key = Word.key other :=
    (Entry.key_ofWord ..).trans same.symm
  cases outcome with
  | known => cases added
  | failed => cases added
  | inMemory filled absent unbacked =>
    rw [← same] at filled absent removal
    have free := kept.not_holds filled absent
    obtain ⟨counted, lexicon_eq, saves⟩ := eq_of_removed_inserted absent
      (map_without_of_not_holds free) (countAll_of_not_holds free ▸ Nat.zero_le 1) removal success
    rw [holders_of_not_holds free] at saves
    refine ⟨counted, lexicon_eq, fun path _ => by rw [saves.eq_of_nil], fun position file chosen => ?_⟩
    rw [unbacked] at chosen
    cases chosen
  | @saved position file disk filled absent primary written =>
    have here := (getElem?_of_primaryFile? primary).2
    rw [← same] at filled absent removal
    have free := kept.not_holds filled absent
    rw [← key] at free
    have back := map_without_set_append here free
    have holder := holders_set_append here free
    have few := countAll_set_append here (Entry.ofWord word level world.supply.draw.1)
      (Word.key other)
    rw [key] at back holder free
    rw [countAll_of_not_holds free, if_pos key, Nat.zero_add] at few
    obtain ⟨counted, lexicon_eq, saves⟩ := eq_of_removed_inserted absent back (Nat.le_of_eq few)
      removal success
    have again : file.save disk = (true, last.world.disk) := by
      rw [holder, List.map_singleton, ← key, BackingFile.without_append (key ▸ free _
        (List.mem_of_getElem? here))] at saves
      exact saves.written
    refine ⟨counted, lexicon_eq, fun path away => ?_, fun other held chosen => ?_⟩
    · have first := away position file primary
      have second : ¬ disk.SamePlace path file.path := by
        rwa [(Disk.sameDirectories_of_write written).samePlace_iff]
      rw [Disk.at?_of_written_of_not_samePlace again second,
        Disk.at?_of_written_of_not_samePlace written first]
    · rw [primary, Option.some.injEq, Prod.mk.injEq] at chosen
      obtain ⟨-, rfl⟩ := chosen
      exact Disk.at?_of_written_of_samePlace again (Disk.samePlace_self_of_written again)

/-! ## What is read -/

/-- What is read from a path, with identifiers to draw from. -/
def readEntries? (disk : Disk) (path : String) (supply : Supply) : Option (List Entry × Supply) :=
  (disk.read? path).bind fun bytes => Entry.ofFile? bytes supply

/-- What is read from a path depends only on what stands there. -/
theorem readEntries?_congr {disk after : Disk} {path : String}
    (same : after.at? path = disk.at? path) {supply : Supply} {read : List Entry × Supply}
    (found : readEntries? disk path supply = some read) :
    readEntries? after path supply = some read := by
  obtain ⟨bytes, held, decoded⟩ := Option.bind_eq_some_iff.mp found
  have here := same.trans (Disk.at?_eq_of_read? held)
  rw [readEntries?, Disk.read?_eq_of_at? here, Option.bind_some, decoded]

/-- A file that was read as its entries is read as its entries again, if all fractions among their free
members read back or the file is not the primary one. -/
theorem Undone.readEntries? {disk : Disk} {change : Change Nat} (undone : Undone lexicon disk change)
    (filed : Filed lexicon) {file : BackingFile} (member : file ∈ lexicon.files) {supply next : Supply}
    (agrees : Lexicon.readEntries? disk file.path supply = some (file.entries, next))
    (back : ∀ position, lexicon.primaryFile? = some (position, file) →
      ∀ entry ∈ file.entries, entry.FractionsReadBack) :
    ∃ last, Lexicon.readEntries? change.world.disk file.path supply = some (file.entries, last) := by
  by_cases chosen : ∃ position, lexicon.primaryFile? = some (position, file)
  · obtain ⟨position, primary⟩ := chosen
    refine ⟨supply, ?_⟩
    rw [Lexicon.readEntries?, Disk.read?_eq_of_at? (undone.stands position file primary),
      Option.bind_some]
    exact Entry.ofFile?_fileText (filed.readable file member) (back position primary) supply
  · refine ⟨next, readEntries?_congr (undone.untouched file.path ?_) agrees⟩
    intro position primary there
    have inside := List.mem_of_getElem? (getElem?_of_primaryFile? there).2
    have different : file ≠ primary := by
      rintro rfl
      exact chosen ⟨position, there⟩
    exact (allApart_of_pairwise filed.apart).apart member inside different disk

/-- **A removal undoes a definition.**  Take a lexicon that comes about, in any world, and a definition
that adds a word.  If a word with the same key is then removed and that succeeds, one entry was taken
out, and the lexicon is what it was before.

On the disk nothing but the primary file was written, and this has its entries from before.  Every file
of the lexicon that was read as its entries is read as its entries again, provided, for the primary
file, that all fractions among their free members read back. -/
theorem remove_undoes_define (reachable : lexicon.Reachable)
    (added : (lexicon.define world word level).result = .ok true) {other : String}
    (same : Word.key other = Word.key word) {count : Nat}
    (removed : ((lexicon.define world word level).lexicon.remove
      (lexicon.define world word level).world other).result = .ok count) :
    let last := (lexicon.define world word level).lexicon.remove
      (lexicon.define world word level).world other
    count = 1 ∧ Undone lexicon world.disk last ∧
      ∀ file ∈ lexicon.files, ∀ supply next,
        readEntries? world.disk file.path supply = some (file.entries, next) →
          (∀ position, lexicon.primaryFile? = some (position, file) →
            ∀ entry ∈ file.entries, entry.FractionsReadBack) →
          ∃ after, readEntries? last.world.disk file.path supply = some (file.entries, after) := by
  intro last
  have kept := reachable.kept
  have undone : Undone lexicon world.disk last := undone kept added same removed
  refine ⟨Except.ok.inj (removed.symm.trans undone.counted), undone, ?_⟩
  intro file member supply next agrees back
  cases kept with
  | inMemory files =>
    rw [files] at member
    cases member
  | inFiles _ filed => exact undone.readEntries? filed member agrees back

/-- A word is added to the first of two files and removed under another spelling. -/
theorem remove_undoes_define_twoFiles :
    ∃ base after, load ⟨twoFiles, ⟨0⟩⟩ "words" none = (.ok base, after) ∧ base.Reachable ∧
      Word.key "GLORY!" = Word.key "Glory" ∧
      let change := base.define after "Glory" .verified
      let last := change.lexicon.remove change.world "GLORY!"
      change.result = .ok true ∧ Undone base after.disk last ∧
        ∀ file ∈ base.files, ∀ supply next,
          readEntries? after.disk file.path supply = some (file.entries, next) →
            ∃ again, readEntries? last.world.disk file.path supply = some (file.entries, again) := by
  have passes : Store.loadsWith ⟨twoFiles, ⟨0⟩⟩ "words" (fun store =>
      let change := store.lexicon.define store.world "Glory" .verified
      change.result.toOption == some true &&
        ((change.lexicon.remove change.world "GLORY!").result.toOption == some 1 &&
          store.lexicon.files.all fun file =>
            file.entries.all fun entry => entry.numbers.isEmpty)) = true := by
    decide +kernel
  obtain ⟨base, after, loaded, passed⟩ := Store.exists_load_of_loadsWith passes
  simp only [Bool.and_eq_true, List.all_eq_true, List.isEmpty_iff, beq_iff_eq] at passed
  obtain ⟨added, taken, plain⟩ := passed
  have reachable : base.Reachable := .loaded loaded
  have same : Word.key "GLORY!" = Word.key "Glory" := by decide +kernel
  obtain ⟨-, undone, reads⟩ :=
    remove_undoes_define reachable (eq_ok_of_toOption added) same (eq_ok_of_toOption taken)
  refine ⟨base, after, loaded, reachable, same, eq_ok_of_toOption added, undone, ?_⟩
  intro file member supply next agrees
  refine reads file member supply next agrees fun _ _ entry inside x number => ?_
  rw [plain file member entry inside] at number
  cases number

/-- The first file of a lexicon that was loaded was read as its entries. -/
theorem exists_readEntries?_of_load {world after : World} {dataDirectory : String}
    {language : Option String} (loaded : load world dataDirectory language = (.ok lexicon, after))
    {file : BackingFile} {others : List BackingFile} (files : lexicon.files = file :: others) :
    ∃ next, readEntries? after.disk file.path world.supply = some (file.entries, next) := by
  obtain ⟨paths, read, prepared, success, -, rfl⟩ := files_of_load loaded
  have whole : read = file :: others := by
    rw [← files, files_foldl_attach]
    rfl
  subst whole
  cases paths with
  | nil => cases success
  | cons path rest =>
    rw [readFiles] at success
    split at success
    · cases success
    · next entries next decoded =>
      split at success
      · cases success
        exact ⟨next, decoded⟩
      · cases success

/-- A word is added to the first file and removed again; the numbers in the files, and those in what is
read from their forms. -/
theorem loadsWith_fractionFiles :
    Store.loadsWith ⟨fractionFiles, ⟨0⟩⟩ "words" (fun store =>
      let change := store.lexicon.define store.world "grace" .verified
      change.result.toOption == some true &&
        ((change.lexicon.remove change.world "grace").result.toOption == some 1 &&
          (store.lexicon.primary == some 0 &&
            (store.lexicon.files.map fun file =>
              (file.entries.flatMap Entry.numbers,
                (Entry.ofForms? (Json.depthLimit - 2)
                  (file.entries.map fun entry => Json.toForm entry.json) ⟨0⟩).map
                    fun read => read.1.flatMap Entry.numbers)) ==
              [([nearFraction], some [.fraction ⟨5096006472832567708⟩]), ([], some [])]))) =
      true := by
  decide +kernel

/-- **After a definition and a removal a file need not read as before.**  A word is added to the first of
two files and removed again.  The file was read as its entries, and it has its entries from before; but
what is read from it then is something else: a fraction is off by a little once more. -/
theorem undone_file_reads_differently :
    ∃ base after, load ⟨fractionFiles, ⟨0⟩⟩ "words" none = (.ok base, after) ∧
      let change := base.define after "grace" .verified
      let last := change.lexicon.remove change.world "grace"
      change.result = .ok true ∧ last.result = .ok 1 ∧ ∃ file ∈ base.files,
        (∃ next, readEntries? after.disk file.path ⟨0⟩ = some (file.entries, next)) ∧
          ∀ next, readEntries? last.world.disk file.path ⟨0⟩ ≠ some (file.entries, next) := by
  obtain ⟨base, after, loaded, passed⟩ := Store.exists_load_of_loadsWith loadsWith_fractionFiles
  simp only [Bool.and_eq_true, beq_iff_eq] at passed
  obtain ⟨added, taken, primary, numbers⟩ := passed
  obtain ⟨file, others, files, numbers, -⟩ := List.map_eq_cons_iff.mp numbers
  obtain ⟨held, reread⟩ := Prod.mk.inj numbers
  have reachable : base.Reachable := .loaded loaded
  have undone := undone reachable.kept (eq_ok_of_toOption added) rfl (eq_ok_of_toOption taken)
  refine ⟨base, after, loaded, eq_ok_of_toOption added, eq_ok_of_toOption taken, file,
    by rw [files]; exact List.mem_cons_self, exists_readEntries?_of_load loaded files, ?_⟩
  intro next equal
  have chosen : base.primaryFile? = some (0, file) := by
    simp [primaryFile?, primary, files]
  have legible := legible_of_numbers_eq held
  rw [readEntries?, Disk.read?_eq_of_at? (undone.stands 0 file chosen), Option.bind_some,
    BackingFile.bytes, Entry.ofFile?_fileText_eq legible] at equal
  rw [equal, Option.map_some, held] at reread
  exact absurd reread (by decide)

end Lexicon

end Orthography
