import Orthography.Configuration.Basic
import Orthography.Toml.Reader

/-!
# Configurations in files

A configuration is read from a TOML document.  Keys that are not there keep their defaults, unknown
keys do not count, and a value of the wrong type spoils the whole file.
-/

namespace Orthography

set_option autoImplicit false

namespace Toml.Value

/-- The text that a value is. -/
def text? : Value → Option String
  | .string text => some text
  | _ => none

/-- The truth value that a value is. -/
def truth? : Value → Option Bool
  | .boolean value => some value
  | _ => none

/-- The natural number that a value is. -/
def natural? : Value → Option Nat
  | .integer n => if 0 ≤ n then some n.toNat else none
  | _ => none

/-- The number that a value is; a whole number is rounded. -/
def fraction? : Value → Option Binary64
  | .float x => some x
  | .integer n =>
    let magnitude := Binary64.ofNat n.natAbs
    some (if n < 0 then magnitude.negate else magnitude)
  | _ => none

/-- The texts that an array holds. -/
def texts? : Value → Option (List String)
  | .array items => items.mapM text?
  | _ => none

/-- Whether a value has nothing in it. -/
def isEmpty : Value → Bool
  | .array items => items.isEmpty
  | .table _ entries => entries.isEmpty
  | _ => false

/-- The level that a value is: the name of one, or a table with that name as its first key and
nothing under it.  A table in braces may have no other keys. -/
def level? : Value → Option Level
  | .string name => Level.named? name
  | .table kind ((name, value) :: others) =>
    if value.isEmpty && (kind ≠ .inline || others.isEmpty) then Level.named? name else none
  | _ => none

end Toml.Value

namespace Configuration

/-- A configuration with the value of one key set. -/
def set (configuration : Configuration) (key : String) (value : Toml.Value) :
    Option Configuration :=
  match key with
  | "language" => value.text?.map fun name => { configuration with language := some name }
  | "data_dir" => value.text?.map fun path => { configuration with dataDirectory := path }
  | "relative_checking" =>
    value.truth?.map fun flag => { configuration with relativeChecking := flag }
  | "max_suggestions" =>
    value.natural?.map fun count => { configuration with maxSuggestions := count }
  | "max_normalized_distance" =>
    value.fraction?.map fun limit => { configuration with maxDistance := limit }
  | "max_completions" =>
    value.natural?.map fun count => { configuration with maxCompletions := count }
  | "completion_until_first_valid" =>
    value.truth?.map fun flag => { configuration with firstCompletionsOnly := flag }
  | "added_word_level" =>
    value.level?.map fun level => { configuration with addedWordLevel := level }
  | "ignore_patterns" =>
    value.texts?.map fun sources => { configuration with ignorePatterns := sources }
  | "document_extensions" =>
    value.texts?.map fun names => { configuration with documentExtensions := names }
  | _ => some configuration

/-- The configuration that the entries of a document make up. -/
def ofEntries? (entries : Toml.Entries) : Option Configuration :=
  entries.foldlM (fun configuration (key, value) => configuration.set key value) default

/-- The configuration in a text. -/
def ofText? (text : String) : Option Configuration :=
  (Toml.ofText? text).bind ofEntries?

end Configuration

end Orthography
