import Orthography.Lexicon.EntryText
import Orthography.Lexicon.KeyMap
import Orthography.Storage.Disk

/-!
# Lexicons

A lexicon is an index from keys to entries and the files that back it, each with all its entries.
The index is the union of the files: of the entries with one key, it holds the first in the first
file.  New words go to the primary file.  A lexicon without files is kept in memory only.
-/

namespace Orthography

set_option autoImplicit false

/-- What a lexicon depends on outside: the files, and new identifiers. -/
structure World where
  disk : Disk
  supply : Supply

/-- A file of a lexicon with its entries. -/
structure BackingFile where
  path : String
  entries : List Entry

/-- The words that are known. -/
structure Lexicon where
  index : KeyMap Entry
  files : List BackingFile
  primary : Option Nat

namespace Lexicon

/-- A lexicon that is empty and has no files. -/
def inMemory : Lexicon :=
  ⟨KeyMap.empty, [], none⟩

/-- The entry that a word is found under. -/
def get? (lexicon : Lexicon) (word : String) : Option Entry :=
  lexicon.index.get? (Word.key word)

/-- Whether a word has an entry. -/
def contains (lexicon : Lexicon) (word : String) : Bool :=
  lexicon.index.contains (Word.key word)

/-- The entries, in the order of their keys. -/
def entries (lexicon : Lexicon) : List Entry :=
  lexicon.index.values

/-- The entries of some levels, in the order of their keys. -/
def entriesAt (lexicon : Lexicon) (levels : List Level) : List Entry :=
  lexicon.entries.filter fun entry => levels.contains entry.level

/-- How many entries there are. -/
def size (lexicon : Lexicon) : Nat :=
  lexicon.index.size

/-- The paths of the files, in order. -/
def paths (lexicon : Lexicon) : List String :=
  lexicon.files.map BackingFile.path

/-- The path of the file that new words go to. -/
def primaryPath (lexicon : Lexicon) : Option String := do
  let index ← lexicon.primary
  let file ← lexicon.files[index]?
  return file.path

/-- An index with one more entry, unless its key is empty or already there. -/
def addEntry (index : KeyMap Entry) (entry : Entry) : KeyMap Entry :=
  if entry.key.isEmpty then index else index.insertNew entry.key entry

/-- An index with more entries; of those with one key the first counts. -/
def addEntries (index : KeyMap Entry) (entries : List Entry) : KeyMap Entry :=
  entries.foldl addEntry index

/-- The union of some files. -/
def union (files : List BackingFile) : KeyMap Entry :=
  addEntries KeyMap.empty (files.flatMap BackingFile.entries)

end Lexicon

end Orthography
