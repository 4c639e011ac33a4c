import Mathlib.Data.List.Forall2
import Orthography.Proofs.Lexicon.Outcome
import Orthography.Proofs.Storage.Disk

/-!
# New identifiers make no difference

Every entry that is made gets a new identifier from a supply.  Two runs of the same program that
have different supplies make different identifiers, and nothing else in them differs.

**Likeness.**  Two entries are alike if they are the same entry, or if they were made for the same
word at the same level with identifiers from the two supplies (`Entry.Alike`).  Files, lexicons, and
the files on two disks are alike if they agree entry by entry.  What is written to a file does not
decide whether it can be written, so that writes of alike files have alike outcomes
(`Disk.Alike.write`).  From alike lexicons on alike disks a definition has the same result, and
leads to alike lexicons on alike disks (`Lexicon.Alike.define`).
-/

namespace Orthography

set_option autoImplicit false

/-! ## What is alike -/

/-- Whether a supply may still give out an identifier. -/
def Supply.Gives (supply : Supply) (id : Identifier) : Prop :=
  ∃ seed, supply.next ≤ seed ∧ id = Identifier.ofSeed seed

/-- Two entries are alike: they are the same, or were made for the same word at the same level, each
with an identifier from its own supply. -/
inductive Entry.Alike (here there : Supply) : Entry → Entry → Prop where
  | same (entry : Entry) : Alike here there entry entry
  | made (word : String) (level : Level) {id other : Identifier} (first : here.Gives id)
      (second : there.Gives other) :
      Alike here there (Entry.ofWord word level id) (Entry.ofWord word level other)

/-- Two files of a lexicon are alike: they have the same path and, one by one, alike entries. -/
structure BackingFile.Alike (here there : Supply) (first second : BackingFile) : Prop where
  path : first.path = second.path
  entries : List.Forall₂ (Entry.Alike here there) first.entries second.entries

/-- Two lexicons are alike: they have alike entries under the same keys and alike files in the same
order, and new words go to the same file. -/
structure Lexicon.Alike (here there : Supply) (first second : Lexicon) : Prop where
  index : ∀ key, Option.Rel (Entry.Alike here there) (first.index.get? key) (second.index.get? key)
  files : ∀ position : Nat,
    Option.Rel (BackingFile.Alike here there) first.files[position]? second.files[position]?
  primary : first.primary = second.primary

/-- What stands at a location of two disks is alike: it is the same, or it is a file with the text
of alike entries. -/
inductive DiskNode.Alike (here there : Supply) : DiskNode → DiskNode → Prop where
  | same (node : DiskNode) : Alike here there node node
  | entries {first second : List Entry}
      (alike : List.Forall₂ (Entry.Alike here there) first second) :
      Alike here there (.file (Entry.fileText first).toUTF8) (.file (Entry.fileText second).toUTF8)

/-- Two disks are alike: they have alike things at the same locations, and refuse the same writes.
-/
structure Disk.Alike (here there : Supply) (first second : Disk) : Prop where
  node : ∀ location,
    Option.Rel (DiskNode.Alike here there) (first.node? location) (second.node? location)
  current : first.current = second.current
  refusals : first.refusals = second.refusals

/-- Two worlds are alike: their disks are, and each one's identifiers come from its own supply. -/
structure World.Alike (here there : Supply) (first second : World) : Prop where
  disk : Disk.Alike here there first.disk second.disk
  supply : here.next ≤ first.supply.next
  otherSupply : there.next ≤ second.supply.next

/-- Two changes of lexicons are alike: they have the same result, and lead to alike lexicons in
alike worlds. -/
structure Lexicon.Change.Alike {α : Type} (here there : Supply) (first second : Lexicon.Change α) :
    Prop where
  result : first.result = second.result
  lexicon : Lexicon.Alike here there first.lexicon second.lexicon
  world : World.Alike here there first.world second.world

variable {here there : Supply}

/-- A lexicon is like itself. -/
theorem Lexicon.Alike.refl (lexicon : Lexicon) : Lexicon.Alike here there lexicon lexicon := by
  refine ⟨fun key => ?_, fun position => ?_, rfl⟩
  · cases lexicon.index.get? key with
    | none => exact .none
    | some entry => exact .some (.same entry)
  · cases lexicon.files[position]? with
    | none => exact .none
    | some file => exact .some ⟨rfl, List.forall₂_same.mpr fun entry _ => .same entry⟩

/-- A disk is like itself. -/
theorem Disk.Alike.refl (disk : Disk) : Disk.Alike here there disk disk := by
  refine ⟨fun location => ?_, rfl, rfl⟩
  cases disk.node? location with
  | none => exact .none
  | some node => exact .some (.same node)

/-- The same disk with the two supplies makes two worlds that are alike. -/
theorem World.Alike.start (disk : Disk) : World.Alike here there ⟨disk, here⟩ ⟨disk, there⟩ :=
  ⟨.refl disk, Nat.le_refl _, Nat.le_refl _⟩

/-! ## Writes -/

namespace Disk.Alike

variable {first second : Disk} (alike : Disk.Alike here there first second)

include alike

/-- Alike disks have the same directories. -/
theorem sameDirectories : SameDirectories first second := by
  refine ⟨alike.current, fun location => ?_⟩
  have node := alike.node location
  rw [isDirectoryAt, isDirectoryAt]
  generalize first.node? location = held, second.node? location = other at node ⊢
  cases node with
  | none => rfl
  | some content =>
    cases content with
    | same => rfl
    | entries => rfl

/-- Alike disks are alike after an attempt to write. -/
theorem spend : Disk.Alike here there first.spend second.spend :=
  ⟨alike.node, alike.current, congrArg (List.drop 1) alike.refusals⟩

/-- Alike disks are alike after alike things are put at the same location. -/
theorem put {location : Location} (below : location ≠ []) {node other : DiskNode}
    (content : DiskNode.Alike here there node other) :
    Disk.Alike here there (first.put location node) (second.put location other) := by
  refine ⟨fun place => ?_, alike.current, alike.refusals⟩
  rw [node?_put below, node?_put below]
  split
  · exact .some content
  · exact alike.node place

/-- **Writes of alike files have alike outcomes**: both succeed or none does, and the disks are
alike afterwards. -/
theorem write (path : String) {bytes other : ByteArray}
    (content : DiskNode.Alike here there (.file bytes) (.file other)) :
    (first.write path bytes).1 = (second.write path other).1 ∧
      Disk.Alike here there (first.write path bytes).2 (second.write path other).2 := by
  have directories := alike.sameDirectories
  rw [Disk.write, Disk.write, directories.locate_eq]
  cases second.locate path with
  | none => exact ⟨rfl, alike.spend⟩
  | some location =>
    have refuses : first.refuses = second.refuses := by rw [refuses, refuses, alike.refusals]
    simp only [refuses, directories.canHold_eq]
    split
    · exact ⟨rfl, alike.spend⟩
    · next accepted =>
      have below : location ≠ [] := by
        rintro rfl
        simp [canHold] at accepted
      exact ⟨rfl, alike.spend.put below content⟩

/-- So have writes of alike files of a lexicon. -/
theorem save {file other : BackingFile} (files : BackingFile.Alike here there file other) :
    (file.save first).1 = (other.save second).1 ∧
      Disk.Alike here there (file.save first).2 (other.save second).2 := by
  rw [BackingFile.save, BackingFile.save, files.path]
  exact alike.write other.path (.entries files.entries)

end Disk.Alike

/-! ## Definitions -/

/-- The identifiers that two worlds give out next come from their supplies. -/
theorem World.Alike.made {first second : World} (alike : World.Alike here there first second)
    (word : String) (level : Level) :
    Entry.Alike here there (Entry.ofWord word level first.supply.draw.1)
      (Entry.ofWord word level second.supply.draw.1) :=
  .made word level ⟨_, alike.supply, rfl⟩ ⟨_, alike.otherSupply, rfl⟩

/-- Worlds are alike after each has given out an identifier, as long as their disks are. -/
theorem World.Alike.drawn {first second : World} (alike : World.Alike here there first second)
    {disk other : Disk} (disks : Disk.Alike here there disk other) :
    World.Alike here there ⟨disk, first.supply.draw.2⟩ ⟨other, second.supply.draw.2⟩ :=
  ⟨disks, Nat.le_succ_of_le alike.supply, Nat.le_succ_of_le alike.otherSupply⟩

/-- Files are alike after alike entries are put at their ends. -/
theorem BackingFile.Alike.append {first second : BackingFile}
    (alike : BackingFile.Alike here there first second) {entry other : Entry}
    (last : Entry.Alike here there entry other) :
    BackingFile.Alike here there (first.append entry) (second.append other) :=
  ⟨alike.path, List.rel_append alike.entries (.cons last .nil)⟩

namespace Lexicon

namespace Alike

variable {first second : Lexicon} (alike : Lexicon.Alike here there first second)

include alike

/-- Alike lexicons have the same keys. -/
theorem isSome_eq (key : String) :
    (first.index.get? key).isSome = (second.index.get? key).isSome := by
  have found := alike.index key
  generalize first.index.get? key = held, second.index.get? key = other at found ⊢
  cases found with
  | none => rfl
  | some => rfl

/-- New words go to files that are alike, at the same position. -/
theorem primaryFile? :
    Option.Rel (fun place other => place.1 = other.1 ∧ BackingFile.Alike here there place.2 other.2)
      first.primaryFile? second.primaryFile? := by
  unfold Lexicon.primaryFile?
  rw [alike.primary]
  cases second.primary with
  | none => exact .none
  | some position =>
    have files := alike.files position
    simp only [Option.bind_eq_bind, Option.bind_some]
    generalize first.files[position]? = held, second.files[position]? = other at files ⊢
    cases files with
    | none => exact .none
    | some file => exact .some ⟨rfl, file⟩

/-- Lexicons are alike after alike entries are put under the same key. -/
theorem insert (key : String) {entry other : Entry} (made : Entry.Alike here there entry other) :
    Lexicon.Alike here there { first with index := first.index.insert key entry }
      { second with index := second.index.insert key other } := by
  refine ⟨fun place => ?_, alike.files, alike.primary⟩
  rw [KeyMap.get?_insert, KeyMap.get?_insert]
  split
  · exact .some made
  · exact alike.index place

/-- Lexicons are alike after the same key is taken out. -/
theorem erase (key : String) :
    Lexicon.Alike here there { first with index := first.index.erase key }
      { second with index := second.index.erase key } := by
  refine ⟨fun place => ?_, alike.files, alike.primary⟩
  rw [KeyMap.get?_erase, KeyMap.get?_erase]
  split
  · exact .none
  · exact alike.index place

/-- Lexicons are alike after alike files are put at the same position. -/
theorem setFile (position : Nat) {file other : BackingFile}
    (files : BackingFile.Alike here there file other) :
    Lexicon.Alike here there (first.setFile position file) (second.setFile position other) := by
  refine ⟨alike.index, fun place => ?_, alike.primary⟩
  have before := alike.files place
  rw [Lexicon.setFile, Lexicon.setFile, List.getElem?_set', List.getElem?_set']
  split
  · generalize first.files[place]? = held, second.files[place]? = known at before ⊢
    cases before with
    | none => exact .none
    | some => exact .some files
  · exact before

/-- **A definition does not depend on the identifiers that are new.**  From alike lexicons in alike
worlds it has the same result, and leads to alike lexicons in alike worlds. -/
theorem define {world other : World} (worlds : World.Alike here there world other) (word : String)
    (level : Level) :
    Change.Alike here there (first.define world word level) (second.define other word level) := by
  have known : first.index.contains (Word.key word) = second.index.contains (Word.key word) := by
    rw [KeyMap.contains_eq_isSome, KeyMap.contains_eq_isSome, alike.isSome_eq]
  have defined := alike.insert (Word.key word) (worlds.made word level)
  have place := defined.primaryFile?
  rw [Lexicon.define, Lexicon.define, known]
  split
  · exact ⟨rfl, alike, worlds⟩
  · dsimp only
    generalize Lexicon.primaryFile? _ = held at place ⊢
    generalize Lexicon.primaryFile? _ = chosen at place ⊢
    cases place with
    | none => exact ⟨rfl, defined, worlds.drawn worlds.disk⟩
    | @some held chosen related =>
      obtain ⟨position, file⟩ := held
      obtain ⟨_, twin⟩ := chosen
      obtain ⟨rfl, files⟩ := related
      have appended := files.append (worlds.made word level)
      have saves := worlds.disk.save appended
      dsimp only
      generalize BackingFile.save _ _ = run at saves ⊢
      generalize BackingFile.save _ _ = otherRun at saves ⊢
      obtain ⟨written, disk⟩ := run
      obtain ⟨_, otherDisk⟩ := otherRun
      obtain ⟨rfl, disks⟩ := saves
      cases written with
      | true => exact ⟨rfl, defined.setFile position appended, worlds.drawn disks⟩
      | false =>
        -- Both take the entry out of the file and of the index again.
        refine ⟨?_, ?_, worlds.drawn disks⟩
        · rw [files.path]
        · rw [BackingFile.dropLast_append, BackingFile.dropLast_append]
          exact ((defined.setFile position appended).setFile position files).erase _

end Alike

end Lexicon

end Orthography
