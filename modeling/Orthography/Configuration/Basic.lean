import Orthography.Level

/-!
# Configuration

What a project can set, and what holds where it sets nothing.
-/

namespace Orthography

set_option autoImplicit false

/-- The settings of a project. -/
structure Configuration where
  /-- The part of the data directory to use, when lexicons are split by language. -/
  language : Option String := none
  /-- The directory of the lexicon, relative to the project. -/
  dataDirectory : String := "project_data"
  /-- Entries of the level `verifiedAuto` count as correct too. -/
  relativeChecking : Bool := false
  maxSuggestions : Nat := 5
  /-- The largest distance of a correction, relative to the length of its key. -/
  maxDistance : Binary64 := Binary64.ofRatio 8 100
  maxCompletions : Nat := 5
  /-- Completions stop at the first analyzer that has some. -/
  firstCompletionsOnly : Bool := false
  /-- The level of words that are added from an editor. -/
  addedWordLevel : Level := .verified
  /-- Patterns of words that are not checked; at first those of web and mail addresses. -/
  ignorePatterns : List String :=
    ["https?://\\S+", "[a-zA-Z0-9._%+-]+@[a-zA-Z0-9.-]+\\.[a-zA-Z]\x7b2,\x7d"]
  /-- The extensions of the documents that are checked. -/
  documentExtensions : List String := ["codex", "scripture"]
deriving DecidableEq, Repr

namespace Configuration

/-- What holds where nothing is set. -/
def default : Configuration := {}

/-- The characters after the last one of a class. -/
def afterLast (separator : Char → Bool) (text : List Char) : List Char :=
  (text.reverse.takeWhile fun c => !separator c).reverse

/-- Whether a document is checked: the last part of its name has one of the extensions, in
whichever case. -/
def acceptsDocument (configuration : Configuration) (name : String) : Bool :=
  let file := afterLast (fun c => c = '/' || c = '\\') name.toList
  file.contains '.' &&
    let extension := (afterLast (· = '.') file).map Char.toLower
    configuration.documentExtensions.any fun allowed => allowed.toList.map Char.toLower = extension

end Configuration

end Orthography
