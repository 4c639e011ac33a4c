import Orthography.Analyzer.Kind
import Orthography.Json.Printer
import Orthography.Number.Shortest

/-!
# Failures

Everything that can be refused, by cause.  The wording of each cause is in one place,
`Failure.message`.
-/

namespace Orthography

set_option autoImplicit false

/-- Why a setting or a registration is refused. -/
inductive Misconfiguration where
  | unknownLevel (name : String)
  | unknownKind (name : String)
  | unnamedAnalyzer (kind : AnalyzerKind)
  | wrongShape (kind : AnalyzerKind) (name : String) (shape : AnalyzerShape)
  | duplicateAnalyzer (kind : AnalyzerKind) (name : String)
  | badThreshold (value : Binary64)
  | badPattern (source : String)
deriving DecidableEq, Repr

/-- Why an operation fails. -/
inductive Failure where
  | misconfigured (cause : Misconfiguration)
  /-- A file or directory of the lexicon cannot be read or written. -/
  | storage (path : String)
  | unreadableSettings (path : String)
  | malformedSettings (path : String)
  | unreadableDocument (path : String)
  | unwritableDocument (path : String)
  | unknownFormat (name : String)
  | unknownCommand (name : String)
  /-- The first argument of a command is no word and no list. -/
  | wordsExpected (command : String)
  /-- The list in the first argument of a command holds something that is no word. -/
  | wordListMixed
  /-- The second argument of a command is no name of a level. -/
  | levelExpected (argument : Json)
  | noPaths
  /-- A choice has to be made and there is nobody to make it. -/
  | noTerminal
deriving Repr

/-- The wording of a refused setting or registration. -/
def Misconfiguration.message : Misconfiguration → String
  | .unknownLevel name => "Unknown verification level: " ++ name
  | .unknownKind name => "Unknown analyzer kind: " ++ name
  | .unnamedAnalyzer kind => kind.name ++ " analyzer registered without a name"
  | .wrongShape kind name shape =>
    kind.name ++ " analyzer '" ++ name ++ "' must be a " ++ kind.shape.name
      ++ " analyzer, got a " ++ shape.name ++ " analyzer"
  | .duplicateAnalyzer kind name =>
    kind.name ++ " analyzer '" ++ name ++ "' is already registered"
  | .badThreshold value =>
    "max_normalized_distance must be a non-negative number, got " ++ value.plain
  | .badPattern source => "Invalid ignore pattern '" ++ source ++ "'"

/-- The wording of a failure. -/
def Failure.message : Failure → String
  | .misconfigured cause => "Configuration error: " ++ cause.message
  | .storage path => "Storage error at " ++ path
  | .unreadableSettings path => "Failed to read config file: " ++ path
  | .malformedSettings path => "Failed to parse config file: " ++ path
  | .unreadableDocument path => "Failed to read file: " ++ path
  | .unwritableDocument path => "Failed to write file: " ++ path
  | .unknownFormat name => "Unknown format: " ++ name
  | .unknownCommand name => "Unknown command: " ++ name
  | .wordsExpected command => command ++ " expects a word or a list of words"
  | .wordListMixed => "Word list must contain only strings"
  | .levelExpected argument => "Invalid level argument: " ++ argument.compact
  | .noPaths => "No paths specified. Use --help for usage information."
  | .noTerminal => "IO error: not a terminal"

end Orthography
