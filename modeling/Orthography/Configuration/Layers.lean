import Orthography.Configuration.Reader
import Orthography.Storage.Disk

/-!
# Layers of configuration

The configuration of a project is put together from layers: the defaults, the file of the user, the
file of the project, and what the command line says.  A file has a say in a setting when its value
is not the default one; the two switches it always sets.
-/

namespace Orthography.Configuration

set_option autoImplicit false

/-- The name of the file with the configuration of a project. -/
def projectFileName : String := ".codexspell.toml"

/-- The path of the file with the configuration of a user, in the directory for configurations. -/
def userFile (directory : String) : String :=
  Path.join (Path.join directory "codexspell") "config.toml"

/-- The upper of two values, unless it is the default one. -/
def upper {α : Type} [DecidableEq α] (default lower upper : α) : α :=
  if upper = default then lower else upper

/-- A configuration with that of a file over it. -/
def overlay (below file : Configuration) : Configuration where
  language := file.language.or below.language
  dataDirectory := upper default.dataDirectory below.dataDirectory file.dataDirectory
  relativeChecking := file.relativeChecking
  maxSuggestions := upper default.maxSuggestions below.maxSuggestions file.maxSuggestions
  maxDistance := upper default.maxDistance below.maxDistance file.maxDistance
  maxCompletions := upper default.maxCompletions below.maxCompletions file.maxCompletions
  firstCompletionsOnly := file.firstCompletionsOnly
  addedWordLevel := upper default.addedWordLevel below.addedWordLevel file.addedWordLevel
  ignorePatterns := upper default.ignorePatterns below.ignorePatterns file.ignorePatterns
  documentExtensions :=
    upper default.documentExtensions below.documentExtensions file.documentExtensions

/-- The configuration in a file. -/
def ofFile (disk : Disk) (path : String) : Except Failure Configuration :=
  match disk.readText? path with
  | none => .error (.unreadableSettings path)
  | some text =>
    match ofText? text with
    | none => .error (.malformedSettings path)
    | some configuration => .ok configuration

/-- A configuration with that of a file over it, if there is such a file. -/
def withFile (disk : Disk) (below : Configuration) (path : String) :
    Except Failure Configuration :=
  if disk.exists? path then (ofFile disk path).map below.overlay else .ok below

/-- What the command line says about the configuration. -/
structure Overrides where
  language : Option String := none
  relativeChecking : Option Bool := none
deriving DecidableEq, Repr

/-- The configuration of a project: its layers one over the other.  The first directory is that of
the configurations of the user. -/
def load (disk : Disk) (directory project : String) (overrides : Overrides) :
    Except Failure Configuration := do
  let user ← withFile disk default (userFile directory)
  let configuration ← withFile disk user (Path.join project projectFileName)
  return { configuration with
    language := overrides.language.or configuration.language
    relativeChecking := overrides.relativeChecking.getD configuration.relativeChecking }

end Orthography.Configuration
