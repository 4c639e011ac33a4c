import Orthography.Level
import Orthography.Report.Format

/-!
# Commands and their options

The program itself is a command with subcommands.  A command takes flags, settings and words; some
flags and settings belong to the program and may also be given to its subcommands.
-/

namespace Orthography.CommandLine

set_option autoImplicit false

/-- An option without a value. -/
inductive Flag where
  | fix
  | interactive
  | relative
  | noColour
  | noFail
  | verbose
  | help
  | version
deriving DecidableEq, Repr

/-- An option with a value. -/
inductive Setting where
  | project
  | language
  | format
  | completion
  | level
deriving DecidableEq, Repr

/-- A command. -/
inductive Command where
  /-- The program. -/
  | program
  /-- The group of the commands that look after a lexicon. -/
  | dict
  | list
  | add
  | remove
  | info
  | suggest
  | complete
deriving DecidableEq, Repr

/-- How many words a command takes. -/
inductive Arity where
  | none
  | one
  | some
  | any
deriving DecidableEq, Repr

/-- The long name of a flag. -/
def Flag.long : Flag → String
  | fix => "fix"
  | interactive => "interactive"
  | relative => "relative"
  | noColour => "no-color"
  | noFail => "no-fail"
  | verbose => "verbose"
  | help => "help"
  | version => "version"

/-- The letter for a flag. -/
def Flag.letter? : Flag → Option Char
  | fix => some 'f'
  | interactive => some 'i'
  | relative => some 'r'
  | noColour | noFail => none
  | verbose => some 'v'
  | help => some 'h'
  | version => some 'V'

/-- The long name of a setting. -/
def Setting.long : Setting → String
  | project => "project"
  | language => "language"
  | format => "format"
  | completion => "completion"
  | level => "level"

/-- The letter for a setting. -/
def Setting.letter? : Setting → Option Char
  | project => some 'p'
  | language => some 'l'
  | format => some 'o'
  | completion | level => none

/-- The shells for which there is a script of completions. -/
def shells : List String :=
  ["bash", "elvish", "fish", "powershell", "zsh"]

/-- Whether a setting can have a value. -/
def Setting.accepts : Setting → String → Bool
  | project, value => !value.isEmpty
  | language, _ => true
  | format, value => (OutputFormat.read value).isOk
  | completion, value => shells.contains value
  | level, value => (Level.read value).isOk

namespace Command

/-- The flags that a command takes. -/
def flags : Command → List Flag
  | program => [.fix, .interactive, .relative, .noColour, .noFail, .verbose, .help, .version]
  | _ => [.relative, .noColour, .verbose, .help]

/-- The settings that a command takes. -/
def settings : Command → List Setting
  | program => [.project, .language, .format, .completion]
  | list | add => [.project, .language, .level]
  | _ => [.project, .language]

/-- How many words a command takes. -/
def arity : Command → Arity
  | program => .any
  | add | remove => .some
  | suggest | complete => .one
  | dict | list | info => .none

/-- Whether a command takes a word; the program takes paths, which are not empty. -/
def accepts : Command → String → Bool
  | program, word => !word.isEmpty
  | _, _ => true

/-- The subcommands of a command, by name. -/
def subcommands : Command → List (String × Command)
  | program => [("dict", dict)]
  | dict =>
    [("list", list), ("add", add), ("remove", remove), ("info", info), ("suggest", suggest),
      ("complete", complete)]
  | _ => []

end Command

end Orthography.CommandLine
