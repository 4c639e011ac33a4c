import Orthography.Json.Value
import Orthography.Level
import Orthography.Lexicon.Identifier
import Orthography.Word.Key

/-!
# Entries

An entry of a lexicon is a head word with its level and whatever else is known about it.  Its key is
that of its head word.
-/

namespace Orthography

set_option autoImplicit false

/-- One word of a lexicon. -/
structure Entry where
  headWord : String
  level : Level
  id : Identifier
  definition : Option String := none
  equivalents : List String := []
  /-- The entries that it is linked to, in ascending order. -/
  links : List Identifier := []
  linkedEntries : List Identifier := []
  /-- Free members of the metadata, in ascending order of their names. -/
  metadata : List (String × Json) := []
  notes : List String := []
  /-- Free members of the entry, in ascending order of their names. -/
  extra : List (String × Json) := []
deriving Repr

namespace Entry

/-- An entry for a word: its head word is the word without white space and punctuation around
it. -/
def ofWord (word : String) (level : Level) (id : Identifier) : Entry :=
  { headWord := Word.surface word, level := level, id := id }

/-- The key that an entry is found under. -/
def key (entry : Entry) : String :=
  Word.key entry.headWord

/-- Identifiers with one more, at its place in ascending order. -/
def insertLink (id : Identifier) : List Identifier → List Identifier
  | [] => [id]
  | other :: rest =>
    if id.value < other.value then id :: other :: rest
    else if id = other then other :: rest
    else other :: insertLink id rest

/-- Identifiers in ascending order, each of them once. -/
def sortLinks (ids : List Identifier) : List Identifier :=
  ids.foldl (fun sorted id => insertLink id sorted) []

end Entry

end Orthography
