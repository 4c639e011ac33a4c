import Orthography.CommandLine.Reading

/-!
# What a command line asks for

The options, words and flags that were read make up one task and the project it is carried out in.
An option that may stand before or after a subcommand counts wherever it stands.
-/

namespace Orthography.CommandLine

set_option autoImplicit false

/-- How files are treated. -/
inductive Treatment where
  | check
  | fix
  | interactive
deriving DecidableEq, Repr

/-- What is to be done. -/
inductive Task where
  /-- Print a script of completions for a shell. -/
  | script (shell : String)
  | files (paths : List String) (treatment : Treatment) (format : OutputFormat) (noFail : Bool)
  | list (level : Option Level)
  | add (words : List String) (level : Option Level)
  | remove (words : List String)
  | info
  | suggest (word : String)
  | complete (word : String)
deriving Repr

/-- What a command line asks for. -/
structure Arguments where
  task : Task
  project : String
  language : Option String
  relative : Bool
  colour : Bool
deriving Repr

/-- The value of a setting in what is given to a command. -/
def Given.setting? (given : Given) (setting : Setting) : Option String :=
  given.settings.lookup setting

/-- The level that is given to a command. -/
def Given.level? (given : Given) : Option Level :=
  (given.setting? .level).bind fun name => (Level.read name).toOption

/-- How the program is to treat files. -/
def Given.treatment (given : Given) : Treatment :=
  if given.flags.contains .interactive then .interactive
  else if given.flags.contains .fix then .fix
  else .check

/-- The format of the report that the program is to print. -/
def Given.format (given : Given) : OutputFormat :=
  ((given.setting? .format).bind fun name => (OutputFormat.read name).toOption).getD .text

/-- What a command is to do. -/
def Given.task (command : Command) (given : Given) : Task :=
  match command with
  | .program | .dict =>
    .files given.words given.treatment given.format (given.flags.contains .noFail)
  | .list => .list given.level?
  | .add => .add given.words given.level?
  | .remove => .remove given.words
  | .info => .info
  | .suggest => .suggest (given.words.headD "")
  | .complete => .complete (given.words.headD "")

namespace Arguments

/-- What a command and its subcommands ask for together.  Of the values of a setting the innermost
one counts. -/
def ofLevels (levels : List (Command × Given)) : Arguments :=
  let program := (levels.head?.map Prod.snd).getD {}
  let (command, given) := levels.getLast?.getD (.program, {})
  let flagged (flag : Flag) : Bool := levels.any fun level => level.2.flags.contains flag
  let innermost (setting : Setting) : Option String :=
    (levels.reverse.filterMap fun level => level.2.setting? setting).head?
  { task :=
      match program.setting? .completion with
      | some shell => .script shell
      | none => given.task command
    project := (innermost .project).getD "."
    language := innermost .language
    relative := flagged .relative
    colour := !flagged .noColour }

/-- What a command line asks for, or why it is not carried out. -/
def read (arguments : List String) : Except Notice Arguments :=
  (readArguments .program {} .fresh arguments).map ofLevels

end Arguments

end Orthography.CommandLine
