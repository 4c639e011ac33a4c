import Orthography.Lexicon.Basic

/-!
# Lexicons in files

A lexicon is loaded from all files of a directory that have its extension.  A change is made in
memory and written to the files it touches, one after the other.  When a write fails, the change is
undone: the lexicon is as it was, and files that were already saved are put back.
-/

namespace Orthography

set_option autoImplicit false

namespace BackingFile

/-- The file that every lexicon starts with. -/
def defaultName : String := "project.dictionary"

/-- The extension of the files of a lexicon. -/
def extension : String := "dictionary"

/-- The bytes of a file. -/
def bytes (file : BackingFile) : ByteArray :=
  (Entry.fileText file.entries).toUTF8

/-- Writes a file: whether that succeeded, and the disk after it. -/
def save (file : BackingFile) (disk : Disk) : Bool × Disk :=
  disk.write file.path file.bytes

/-- Whether a file has an entry with a key. -/
def holds (file : BackingFile) (key : String) : Bool :=
  file.entries.any fun entry => entry.key = key

/-- How many entries with a key a file has. -/
def count (file : BackingFile) (key : String) : Nat :=
  (file.entries.filter fun entry => entry.key = key).length

/-- A file without the entries with a key. -/
def without (file : BackingFile) (key : String) : BackingFile :=
  { file with entries := file.entries.filter fun entry => entry.key ≠ key }

/-- A file with one more entry. -/
def append (file : BackingFile) (entry : Entry) : BackingFile :=
  { file with entries := file.entries ++ [entry] }

/-- A file without its last entry. -/
def dropLast (file : BackingFile) : BackingFile :=
  { file with entries := file.entries.dropLast }

/-- Whether a file is the one that every lexicon starts with. -/
def isDefault (file : BackingFile) : Bool :=
  (Path.names file.path).getLast? = some defaultName

end BackingFile

namespace Lexicon

/-- What comes of a change: its result, the lexicon and the world after it, and the paths of files
that a failed change had saved already and could not put back. -/
structure Change (α : Type) where
  result : Except Failure α
  lexicon : Lexicon
  world : World
  unrestored : List String

/-- The lexicon with the file at a position replaced. -/
def setFile (lexicon : Lexicon) (position : Nat) (file : BackingFile) : Lexicon :=
  { lexicon with files := lexicon.files.set position file }

/-- The file that new words go to, with its position. -/
def primaryFile? (lexicon : Lexicon) : Option (Nat × BackingFile) := do
  let position ← lexicon.primary
  return (position, ← lexicon.files[position]?)

/-- Adds a word, unless it is nothing but white space and punctuation or has an entry already: says
whether it was added.  When the file cannot be written, the entry is taken out of the file and the
index again. -/
def define (lexicon : Lexicon) (world : World) (word : String) (level : Level) : Change Bool :=
  let key := Word.key word
  if key.isEmpty || lexicon.index.contains key then ⟨.ok false, lexicon, world, []⟩
  else
    let (id, supply) := world.supply.draw
    let entry := Entry.ofWord word level id
    let defined := { lexicon with index := lexicon.index.insert key entry }
    match defined.primaryFile? with
    | none => ⟨.ok true, defined, { world with supply := supply }, []⟩
    | some (position, file) =>
      let extended := defined.setFile position (file.append entry)
      match (file.append entry).save world.disk with
      | (true, disk) => ⟨.ok true, extended, ⟨disk, supply⟩, []⟩
      | (false, disk) =>
        let undone := extended.setFile position (file.append entry).dropLast
        ⟨.error (.storage file.path), { undone with index := undone.index.erase key },
          ⟨disk, supply⟩, []⟩

/-- How far a removal has come: the lexicon and the disk, and the files that were saved, as they
were before and with their positions, the one saved last first. -/
structure Sweep where
  lexicon : Lexicon
  disk : Disk
  saved : List (Nat × BackingFile)

/-- Takes the entries with a key out of the file at a position and writes it, if there are any: how
many were taken, or the path of the file if it could not be written.  Such a file has all its
entries again. -/
def sweepFile (key : String) (sweep : Sweep) (position : Nat) : Except String Nat × Sweep :=
  match sweep.lexicon.files[position]? with
  | none => (.ok 0, sweep)
  | some file =>
    if !file.holds key then (.ok 0, sweep)
    else
      let swept := sweep.lexicon.setFile position (file.without key)
      match (file.without key).save sweep.disk with
      | (true, disk) => (.ok (file.count key), ⟨swept, disk, (position, file) :: sweep.saved⟩)
      | (false, disk) => (.error file.path, ⟨swept.setFile position file, disk, sweep.saved⟩)

/-- Takes the entries with a key out of the files at some positions, one after the other, up to the
first that cannot be written. -/
def sweepFiles (key : String) (sweep : Sweep) : List Nat → Except String Nat × Sweep
  | [] => (.ok 0, sweep)
  | position :: rest =>
    match sweepFile key sweep position with
    | (.error path, sweep) => (.error path, sweep)
    | (.ok count, sweep) =>
      let (result, sweep) := sweepFiles key sweep rest
      (result.map (count + ·), sweep)

/-- Puts files back as they were, in memory and on the disk: the lexicon and the disk after it, and
the paths of files that could not be written.  Such a file is passed over on the disk. -/
def restore (lexicon : Lexicon) (disk : Disk) :
    List (Nat × BackingFile) → Lexicon × Disk × List String
  | [] => (lexicon, disk, [])
  | (position, file) :: rest =>
    let (written, disk) := file.save disk
    let (restored, disk, unrestored) := restore (lexicon.setFile position file) disk rest
    (restored, disk, if written then unrestored else file.path :: unrestored)

/-- Takes a word out of the index and of every file: says how many entries that were, at least one
if the word had an entry.  A word without an entry is no failure.  When a file cannot be written,
those that were saved before it are put back, and so is the entry in the index. -/
def remove (lexicon : Lexicon) (world : World) (word : String) : Change Nat :=
  let key := Word.key word
  match lexicon.index.get? key with
  | none => ⟨.ok 0, lexicon, world, []⟩
  | some entry =>
    let erased := { lexicon with index := lexicon.index.erase key }
    match sweepFiles key ⟨erased, world.disk, []⟩ (List.range erased.files.length) with
    | (.ok count, sweep) =>
      ⟨.ok (max count 1), sweep.lexicon, { world with disk := sweep.disk }, []⟩
    | (.error path, sweep) =>
      let (restored, disk, unrestored) := restore sweep.lexicon sweep.disk sweep.saved
      ⟨.error (.storage path), { restored with index := restored.index.insert key entry },
        { world with disk := disk }, unrestored⟩

/-- A lexicon with one more file.  The first file is the primary one until the default file
comes. -/
def attach (lexicon : Lexicon) (file : BackingFile) : Lexicon :=
  { index := addEntries lexicon.index file.entries
    files := lexicon.files ++ [file]
    primary :=
      if lexicon.primary.isNone || file.isDefault then some lexicon.files.length
      else lexicon.primary }

/-- The directory of a lexicon, perhaps for one language. -/
def directory (dataDirectory : String) (language : Option String) : String :=
  match language with
  | some language =>
    if language.isEmpty then dataDirectory else Path.join dataDirectory language
  | none => dataDirectory

/-- The paths of the files of a lexicon in a directory, in ascending order.  The empty path leads to
no directory that could be listed. -/
def backingPaths? (disk : Disk) (directory : String) : Option (List String) :=
  match disk.locate directory with
  | none => none
  | some location =>
    let names := (disk.children location).filter fun name =>
      Path.extension? name = some BackingFile.extension
        && (disk.bytesAt? (location ++ [name])).isSome
    some (names.map (Path.join directory))

/-- Reads files one after the other; the path of the first one that cannot be read is the cause of
a failure. -/
def readFiles (disk : Disk) (supply : Supply) :
    List String → Except Failure (List BackingFile × Supply)
  | [] => .ok ([], supply)
  | path :: rest =>
    match (disk.read? path).bind fun bytes => Entry.ofFile? bytes supply with
    | none => .error (.storage path)
    | some (entries, supply) =>
      match readFiles disk supply rest with
      | .ok (files, supply) => .ok (⟨path, entries⟩ :: files, supply)
      | .error failure => .error failure

/-- The paths of the files of a lexicon, after the directory and a first file are made where there
are none. -/
def prepare (disk : Disk) (directory : String) : Except Failure (List String) × Disk :=
  match disk.ensureDirectory directory with
  | (false, disk) => (.error (.storage directory), disk)
  | (true, disk) =>
    match backingPaths? disk directory with
    | none => (.error (.storage directory), disk)
    | some [] =>
      let path := Path.join directory BackingFile.defaultName
      match (BackingFile.mk path []).save disk with
      | (true, disk) => (.ok [path], disk)
      | (false, disk) => (.error (.storage path), disk)
    | some paths => (.ok paths, disk)

/-- The lexicon in a directory, perhaps for one language. -/
def load (world : World) (dataDirectory : String) (language : Option String) :
    Except Failure Lexicon × World :=
  match prepare world.disk (directory dataDirectory language) with
  | (.error failure, disk) => (.error failure, { world with disk := disk })
  | (.ok paths, disk) =>
    match readFiles disk world.supply paths with
    | .error failure => (.error failure, { world with disk := disk })
    | .ok (files, supply) => (.ok (files.foldl attach inMemory), ⟨disk, supply⟩)

/-- The lexicon in a directory, or an empty one in memory if it cannot be loaded.  Nothing is ever
written over files that could not be read. -/
def loadOrEmpty (world : World) (dataDirectory : String) (language : Option String) :
    Lexicon × World :=
  match load world dataDirectory language with
  | (.ok lexicon, world) => (lexicon, world)
  | (.error _, world) => (inMemory, world)

end Lexicon

end Orthography
