import Orthography.Proofs.Lexicon.Identified
import Orthography.Proofs.Lexicon.Store

/-!
# A lexicon that is loaded again

A lexicon that is loaded, changed by any calls and loaded again is the same, as long as nobody else
writes to its files and every failed removal puts back what it has to.

**Invariant.**  What is read from every file on the disk are the entries that the file has in memory
(`Store.WrittenThrough`).  Loading establishes this if all entries carry identifiers
(`Store.writtenThrough_of_load`), and every call that puts back what it has to keeps it
(`Store.WrittenThrough.perform`).  No call makes or removes a file (`Store.sameShape_perform`), so
that the files are listed as before.

Together this gives the same lexicon when it is loaded again (`Store.load_afterCalls`): the index is
the union of the files in both, and the primary file depends on the paths only
(`Lexicon.primary_foldl_attach`).
-/

namespace Orthography

set_option autoImplicit false

open Lexicon (Call Backed Filed directory prepare load)

/-! ## What is read from a file -/

namespace Entry

/-- All numbers in the free members of an entry are whole. -/
def Whole (entry : Entry) : Prop :=
  ∀ x, .fraction x ∉ entry.numbers

/-- Whole numbers read back: there is no fraction that could fail to. -/
theorem Whole.fractionsReadBack {entry : Entry} (whole : entry.Whole) : entry.FractionsReadBack :=
  fun x member => absurd member (whole x)

theorem whole_ofWord (word : String) (level : Level) (id : Identifier) :
    (ofWord word level id).Whole :=
  fun _ => List.not_mem_nil

end Entry

/-- What is read from a file on the disk are its entries, whatever identifiers are left. -/
def BackingFile.ReadsFrom (file : BackingFile) (disk : Disk) : Prop :=
  ∃ bytes, disk.at? file.path = some (.file bytes) ∧
    ∀ supply, Entry.ofFile? bytes supply = some (file.entries, supply)

namespace BackingFile.ReadsFrom

variable {file : BackingFile} {disk after : Disk}

theorem isSome_read? (reads : file.ReadsFrom disk) : (disk.read? file.path).isSome = true := by
  obtain ⟨bytes, here, -⟩ := reads
  rw [Disk.read?_eq_of_at? here]
  rfl

/-- A file that has not changed reads as before. -/
theorem congr (reads : file.ReadsFrom disk) (same : after.at? file.path = disk.at? file.path) :
    file.ReadsFrom after := by
  obtain ⟨bytes, here, read⟩ := reads
  exact ⟨bytes, same.trans here, read⟩

end BackingFile.ReadsFrom

/-! ## The invariant -/

namespace Store

/-- The files on the disk are those in memory. -/
structure WrittenThrough (store : Store) : Prop where
  backed : Backed store.lexicon
  filed : Filed store.lexicon
  whole : ∀ file ∈ store.lexicon.files, ∀ entry ∈ file.entries, entry.Whole
  reads : ∀ file ∈ store.lexicon.files, file.ReadsFrom store.world.disk

/-! ## Calls keep the files on the disk those in memory -/

/-- A file that was written reads as its entries. -/
theorem readsFrom_of_written {lexicon : Lexicon}
    (readable : ∀ file ∈ lexicon.files, ∀ entry ∈ file.entries, entry.Readable)
    (whole : ∀ file ∈ lexicon.files, ∀ entry ∈ file.entries, entry.Whole) {file : BackingFile}
    (member : file ∈ lexicon.files) {disk : Disk}
    (here : disk.at? file.path = some (.file file.bytes)) : file.ReadsFrom disk :=
  ⟨file.bytes, here, fun supply => Entry.ofFile?_fileText (readable file member)
    (fun entry inside => (whole file member entry inside).fractionsReadBack) supply⟩

/-- **Every call that puts back what it has to keeps the files on the disk those in memory.** -/
theorem WrittenThrough.perform {store : Store} (through : WrittenThrough store) {call : Call}
    (restored : store.unrestored call = []) : WrittenThrough (store.perform call) := by
  have backed := through.backed.perform store.world call
  have filed := through.filed.perform store.world call
  have whole : ∀ file ∈ (store.lexicon.perform store.world call).files,
      ∀ entry ∈ file.entries, entry.Whole := by
    intro file here entry member
    rcases Lexicon.mem_entries_perform here member with
      ⟨old, known, inside⟩ | ⟨word, level, id, rfl⟩
    · exact through.whole old known entry inside
    · exact Entry.whole_ofWord word level id
  rw [← lexicon_perform] at backed filed whole
  refine ⟨backed, filed, whole, fun file member => ?_⟩
  cases standing_perform through.filed call file member with
  | kept known same => exact (through.reads file known).congr same
  | written here => exact readsFrom_of_written filed.readable whole member here
  | lost _ reported =>
    rw [restored] at reported
    cases reported

/-- The files of the lexicon are there. -/
theorem WrittenThrough.areFiles {store : Store} (through : WrittenThrough store) :
    ∀ file ∈ store.lexicon.files, (store.world.disk.read? file.path).isSome = true :=
  fun file member => (through.reads file member).isSome_read?

/-- Every sequence of such calls keeps the invariant, the shape of the disk, the paths and the
choice of the primary file. -/
theorem WrittenThrough.afterCalls {store : Store} (through : WrittenThrough store)
    {calls : List Call} (restored : store.unrestoredAll calls = []) :
    WrittenThrough (store.afterCalls calls) ∧
      Disk.SameShape (store.afterCalls calls).world.disk store.world.disk ∧
      (store.afterCalls calls).lexicon.paths = store.lexicon.paths ∧
      (store.afterCalls calls).lexicon.primary = store.lexicon.primary := by
  induction calls generalizing store with
  | nil => exact ⟨through, .refl _, rfl, rfl⟩
  | cons call rest ih =>
    rw [unrestoredAll, List.append_eq_nil_iff] at restored
    obtain ⟨first, others⟩ := restored
    obtain ⟨last, shape, paths, primary⟩ := ih (through.perform first) others
    rw [lexicon_perform] at paths primary
    refine ⟨last, shape.trans (sameShape_perform through.areFiles call), ?_, ?_⟩
    · exact paths.trans (Lexicon.paths_perform store.lexicon store.world call)
    · exact primary.trans (Lexicon.primary_perform store.lexicon store.world call)

end Store

/-! ## Loading -/

namespace Lexicon

/-- All entries in the files of a lexicon in a directory carry identifiers. -/
def AllIdentified (disk : Disk) (directory : String) : Prop :=
  ∀ paths ∈ backingPaths? disk directory, ∀ path ∈ paths, ∀ bytes ∈ disk.read? path,
    Entry.Identified bytes

instance (disk : Disk) (directory : String) : Decidable (AllIdentified disk directory) :=
  inferInstanceAs (Decidable (∀ paths ∈ backingPaths? disk directory, ∀ path ∈ paths,
    ∀ bytes ∈ disk.read? path, Entry.Identified bytes))

/-- The files that a lexicon is loaded from have entries with identifiers; the one that is made
where there are none has no entries. -/
theorem identified_of_prepare {disk after : Disk} {directory : String} {paths : List String}
    (run : prepare disk directory = (.ok paths, after))
    (identified : AllIdentified (disk.ensureDirectory directory).2 directory) :
    ∀ path ∈ paths, ∀ bytes ∈ after.read? path, Entry.Identified bytes := by
  have outcome := prepared disk directory
  rw [run] at outcome
  cases outcome with
  | listed made found =>
    rw [made] at identified
    exact identified paths found
  | created _ _ written =>
    intro path member bytes found
    rw [List.mem_singleton] at member
    subst member
    have here := Disk.at?_of_written_of_samePlace written (Disk.samePlace_self_of_written written)
    rw [Disk.read?_eq_of_at? here] at found
    cases found
    exact Entry.identified_fileText_nil

/-- Files that are read have the entries that their bytes stand for. -/
theorem exists_bytes_of_readFiles {disk : Disk} {supply after : Supply} {paths : List String}
    {files : List BackingFile} (read : readFiles disk supply paths = .ok (files, after)) :
    ∀ file ∈ files, ∃ bytes before next, disk.read? file.path = some bytes ∧
      Entry.ofFile? bytes before = some (file.entries, next) := by
  induction paths generalizing supply files with
  | nil =>
    cases read
    exact fun _ impossible => nomatch impossible
  | cons path rest ih =>
    rw [readFiles] at read
    split at read
    · cases read
    · next entries next found =>
      split at read
      · next others last others_eq =>
        cases read
        obtain ⟨bytes, here, decoded⟩ := Option.bind_eq_some_iff.mp found
        intro file member
        rcases List.mem_cons.mp member with rfl | later
        · exact ⟨bytes, supply, next, here, decoded⟩
        · exact ih others_eq file later
      · cases read

/-- Files whose entries are read from the disk are read, and no identifier is drawn. -/
theorem readFiles_of_readsFrom {disk : Disk} {files : List BackingFile}
    (reads : ∀ file ∈ files, file.ReadsFrom disk) (supply : Supply) :
    readFiles disk supply (files.map BackingFile.path) = .ok (files, supply) := by
  induction files with
  | nil => rfl
  | cons file rest ih =>
    obtain ⟨bytes, here, decoded⟩ := reads file List.mem_cons_self
    have others := ih fun other member => reads other (List.mem_cons_of_mem _ member)
    rw [List.map_cons, readFiles, Disk.read?_eq_of_at? here]
    simp only [Option.bind_some, decoded, others]

attribute [ext] Lexicon

/-- Which file becomes the primary one depends on the paths only. -/
theorem primary_foldl_attach {files others : List BackingFile}
    (paths : files.map BackingFile.path = others.map BackingFile.path) {lexicon other : Lexicon}
    (primary : lexicon.primary = other.primary)
    (length : lexicon.files.length = other.files.length) :
    (files.foldl attach lexicon).primary = (others.foldl attach other).primary := by
  induction files generalizing others lexicon other with
  | nil =>
    rw [List.map_nil, eq_comm, List.map_eq_nil_iff] at paths
    subst paths
    exact primary
  | cons file rest ih =>
    cases others with
    | nil => cases paths
    | cons next more =>
      rw [List.map_cons, List.map_cons, List.cons.injEq] at paths
      obtain ⟨same, paths⟩ := paths
      rw [List.foldl_cons, List.foldl_cons]
      have default : file.isDefault = next.isDefault := by
        rw [BackingFile.isDefault, BackingFile.isDefault, same]
      refine ih paths ?_ ?_
      · simp only [attach, default, primary, length]
      · simp only [attach, List.length_append, length, List.length_singleton]

/-- A lexicon is put together from its files again, if its primary file is the one that is chosen
from its paths. -/
theorem Backed.foldl_attach_files {lexicon : Lexicon} (backed : Backed lexicon)
    {files : List BackingFile} (paths : lexicon.paths = files.map BackingFile.path)
    (primary : lexicon.primary = (files.foldl attach inMemory).primary) :
    lexicon.files.foldl attach inMemory = lexicon := by
  have empty : Attached inMemory := ⟨rfl, .inl ⟨rfl, rfl⟩⟩
  have index := (empty.foldl_attach lexicon.files).index_eq
  have whole : (lexicon.files.foldl attach inMemory).files = lexicon.files :=
    files_foldl_attach lexicon.files inMemory
  rw [whole] at index
  exact Lexicon.ext (index.trans backed.index_eq.symm) whole
    ((primary_foldl_attach paths rfl rfl).trans primary.symm)

end Lexicon

namespace Store

/-- **Loading establishes the invariant**, if all entries carry identifiers and hold no numbers but
whole ones. -/
theorem writtenThrough_of_load {world after : World} {dataDirectory : String}
    {language : Option String} {base : Lexicon}
    (loaded : load world dataDirectory language = (.ok base, after))
    (identified : Lexicon.AllIdentified
      (world.disk.ensureDirectory (directory dataDirectory language)).2
      (directory dataDirectory language))
    (whole : ∀ file ∈ base.files, ∀ entry ∈ file.entries, entry.Whole) :
    WrittenThrough ⟨base, after⟩ := by
  refine ⟨Lexicon.backed_of_load loaded, Lexicon.filed_of_load loaded, whole, ?_⟩
  obtain ⟨paths, files, prepared, read, -, rfl⟩ := Lexicon.files_of_load loaded
  have all := Lexicon.identified_of_prepare prepared identified
  rw [← Lexicon.paths_of_readFiles read] at all
  intro file member
  rw [Lexicon.files_foldl_attach] at member
  obtain ⟨bytes, before, next, here, decoded⟩ := Lexicon.exists_bytes_of_readFiles read file member
  exact ⟨bytes, Disk.at?_eq_of_read? here,
    Entry.ofFile?_of_identified (all file.path (List.mem_map_of_mem member) bytes here) decoded⟩

/-- **Everything is written through.**  Load a lexicon from a directory whose entries all carry
identifiers and hold no numbers but whole ones, and make any calls, one after the other.  Writes may
be refused, as long as no file stays lost that a failed removal has to put back.  Then loading the
directory again gives the same lexicon: the same index, the same files in the same order with the
same entries, and the same primary file.  This does not depend on the identifiers that are left and
on the writes that are refused then, and it changes nothing. -/
theorem load_afterCalls {world after : World} {dataDirectory : String} {language : Option String}
    {base : Lexicon} (loaded : load world dataDirectory language = (.ok base, after))
    (identified : Lexicon.AllIdentified
      (world.disk.ensureDirectory (directory dataDirectory language)).2
      (directory dataDirectory language))
    (whole : ∀ file ∈ base.files, ∀ entry ∈ file.entries, entry.Whole) {calls : List Call}
    (restored : (Store.mk base after).unrestoredAll calls = []) (refusals : List Bool)
    (supply : Supply) :
    let now := (Store.mk base after).afterCalls calls
    let again : World := ⟨{ now.world.disk with refusals := refusals }, supply⟩
    load again dataDirectory language = (.ok now.lexicon, again) := by
  intro now again
  obtain ⟨through, shape, paths, primary⟩ :=
    (writtenThrough_of_load loaded identified whole).afterCalls restored
  obtain ⟨listed, files, prepared, read, -, rfl⟩ := Lexicon.files_of_load loaded
  have files_eq : (files.foldl Lexicon.attach Lexicon.inMemory).files = files :=
    Lexicon.files_foldl_attach files Lexicon.inMemory
  have paths_eq : now.lexicon.paths = files.map BackingFile.path := by
    rw [← files_eq]
    exact paths
  have listed_eq : now.lexicon.paths = listed := by
    rw [paths_eq, Lexicon.paths_of_readFiles read]
  -- The directory is listed as before, since no file was made or removed.
  have same : Disk.SameShape again.disk now.world.disk := ⟨⟨rfl, fun _ => rfl⟩, fun _ => rfl⟩
  have ready : prepare again.disk (directory dataDirectory language) = (.ok listed, again.disk) :=
    Lexicon.prepare_of_prepared prepared (same.trans shape)
  have reads : Lexicon.readFiles again.disk again.supply listed =
      .ok (now.lexicon.files, again.supply) := by
    rw [← listed_eq]
    refine Lexicon.readFiles_of_readsFrom (fun file member => ?_) again.supply
    exact (through.reads file member).congr (Disk.at?_withRefusals _ _ _)
  have rebuilt : now.lexicon.files.foldl Lexicon.attach Lexicon.inMemory = now.lexicon :=
    through.backed.foldl_attach_files paths_eq primary
  rw [load]
  simp only [ready, reads, rebuilt]

/-- Whether a lexicon can be loaded and, with the world that is left, passes a test. -/
def loadsWith (world : World) (dataDirectory : String) (test : Store → Bool) : Bool :=
  match load world dataDirectory none with
  | (.ok base, after) => test ⟨base, after⟩
  | (.error _, _) => false

theorem exists_load_of_loadsWith {world : World} {dataDirectory : String} {test : Store → Bool}
    (passes : loadsWith world dataDirectory test = true) :
    ∃ base after, load world dataDirectory none = (.ok base, after) ∧
      test ⟨base, after⟩ = true := by
  unfold loadsWith at passes
  split at passes
  · next base after loaded => exact ⟨base, after, loaded, passes⟩
  · cases passes

/-- The bytes of a file with one entry, its members given in their order: a head word, a level and an
identifier. -/
def numberedBytes (word digits : String) : ByteArray :=
  (Json.array [.array [.strings [word, "verified", digits]]]).compact.toUTF8

/-- A directory with two files that have a word in common.  Of the next writes the first one and the
third one are refused. -/
def numberedFiles : Disk :=
  { nodes :=
      [(["words"], .directory),
        (["words", "a.dictionary"],
          .file (numberedBytes "Grace" "a0000000000040008000000000000001")),
        (["words", "b.dictionary"],
          .file (numberedBytes "grace!" "b0000000000040008000000000000002"))]
    refusals := [true, false, true] }

/-- A definition fails, a removal fails at the second of its files and puts the first one back, and
then the definition succeeds. -/
def mixedCalls : List Call :=
  [.define "Glory" .verified, .remove "GRACE", .define "Glory" .unverified]

/-- After these calls the lexicon has two words, and it is loaded again with both of them. -/
theorem load_afterCalls_mixedCalls :
    ∃ base after, load ⟨numberedFiles, ⟨0⟩⟩ "words" none = (.ok base, after) ∧
      let now := (Store.mk base after).afterCalls mixedCalls
      now.lexicon.size = 2 ∧
        (load ⟨{ now.world.disk with refusals := [] }, ⟨8⟩⟩ "words" none).1 = .ok now.lexicon := by
  have passes : loadsWith ⟨numberedFiles, ⟨0⟩⟩ "words" (fun store =>
      (store.lexicon.files.all fun file => file.entries.all fun entry => entry.numbers.isEmpty) &&
        ((store.unrestoredAll mixedCalls).isEmpty &&
          (store.afterCalls mixedCalls).lexicon.size == 2)) = true := by decide +kernel
  have identified : Lexicon.AllIdentified
      (numberedFiles.ensureDirectory (directory "words" none)).2 (directory "words" none) := by
    decide +kernel
  obtain ⟨base, after, loaded, passed⟩ := exists_load_of_loadsWith passes
  simp only [Bool.and_eq_true, List.all_eq_true, List.isEmpty_iff, beq_iff_eq] at passed
  obtain ⟨plain, restored, size⟩ := passed
  have whole : ∀ file ∈ base.files, ∀ entry ∈ file.entries, entry.Whole := by
    intro file here entry member x
    rw [plain file here entry member]
    exact List.not_mem_nil
  exact ⟨base, after, loaded, size,
    congrArg Prod.fst (load_afterCalls loaded identified whole restored [] ⟨8⟩)⟩

end Store

end Orthography
