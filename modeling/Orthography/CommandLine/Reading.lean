import Orthography.CommandLine.Command

/-!
# Reading a command line

The arguments of a command line are read from left to right.  Each one is an option, the value of
the setting before it, the name of a subcommand, or a word.  Names of subcommands count only where
no row of words has begun, and after two hyphens all arguments are words.  Every option is given at
most once to a command.  A request for help counts as soon as it is met, if all is well up to there.
-/

namespace Orthography.CommandLine

set_option autoImplicit false

/-- Why a command line is not carried out. -/
inductive Notice where
  /-- Help was asked for. -/
  | help
  /-- The version was asked for. -/
  | version
  /-- The command line makes no sense. -/
  | misuse
deriving DecidableEq, Repr

/-- What is given to one command. -/
structure Given where
  flags : List Flag := []
  settings : List (Setting × String) := []
  words : List String := []
deriving Repr

/-- What the next argument can be. -/
inductive Mode where
  | fresh
  | awaiting (setting : Setting)
  /-- Within a row of words. -/
  | words
  /-- After two hyphens. -/
  | trailing
deriving DecidableEq, Repr

namespace Given

/-- Whether a command takes all words and values that are given, and each setting is given once. -/
def isValid (command : Command) (given : Given) : Bool :=
  given.words.all command.accepts
    && given.settings.all (fun (setting, value) => setting.accepts value)
    && decide (given.settings.map Prod.fst).Nodup

/-- Whether as many words are given as a command takes. -/
def hasWords (command : Command) (given : Given) : Bool :=
  match command.arity with
  | .none => given.words.isEmpty
  | .one => given.words.length = 1
  | .some => !given.words.isEmpty
  | .any => true

/-- Whether what is given to a command is complete. -/
def isComplete (command : Command) (given : Given) : Bool :=
  given.isValid command && given.hasWords command
    && (!given.flags.contains .interactive || given.flags.contains .fix)

/-- What is given, with one more flag.  Flags that ask for something are answered at once. -/
def addFlag (given : Given) (flag : Flag) : Except Notice Given :=
  match flag with
  | .help => .error .help
  | .version => .error .version
  | _ =>
    if given.flags.contains flag then .error .misuse
    else .ok { given with flags := given.flags ++ [flag] }

/-- What is given, with one more value of a setting. -/
def addSetting (given : Given) (setting : Setting) (value : String) : Given :=
  { given with settings := given.settings ++ [(setting, value)] }

/-- What is given, with one more word. -/
def addWord (command : Command) (given : Given) (word : String) : Except Notice Given :=
  match command.arity with
  | .none => .error .misuse
  | .one =>
    if given.words.isEmpty then .ok { given with words := [word] } else .error .misuse
  | .some | .any => .ok { given with words := given.words ++ [word] }

end Given

/-- The name in a long option and the value behind its equals sign. -/
def splitOption (option : List Char) : String × Option String :=
  let name := String.ofList (option.takeWhile (· ≠ '='))
  match option.dropWhile (· ≠ '=') with
  | _ :: value => (name, some (String.ofList value))
  | [] => (name, none)

/-- What is given after a long option, and what comes next. -/
def readLong (command : Command) (given : Given) (option : List Char) :
    Except Notice (Given × Mode) :=
  let (name, value) := splitOption option
  match command.flags.find? fun flag => flag.long = name with
  | some flag =>
    if value.isSome then .error .misuse else (given.addFlag flag).map fun given => (given, .fresh)
  | none =>
    match command.settings.find? fun setting => setting.long = name, value with
    | some setting, some value => .ok (given.addSetting setting value, .fresh)
    | some setting, none => .ok (given, .awaiting setting)
    | none, _ => .error .misuse

/-- What is given after a row of letters, and what comes next.  The letter of a setting may be
followed by its value, with or without an equals sign. -/
def readLetters (command : Command) (given : Given) : List Char → Except Notice (Given × Mode)
  | [] => .ok (given, .fresh)
  | letter :: rest =>
    match command.flags.find? fun flag => flag.letter? = some letter with
    | some flag =>
      match given.addFlag flag with
      | .error notice => .error notice
      | .ok given => readLetters command given rest
    | none =>
      match command.settings.find? fun setting => setting.letter? = some letter with
      | none => .error .misuse
      | some setting =>
        match rest with
        | [] => .ok (given, .awaiting setting)
        | '=' :: value => .ok (given.addSetting setting (String.ofList value), .fresh)
        | value => .ok (given.addSetting setting (String.ofList value), .fresh)

/-- What is given after an argument that is not the name of a subcommand, and what comes next. -/
def readArgument (command : Command) (given : Given) (mode : Mode) (argument : String) :
    Except Notice (Given × Mode) :=
  let word (next : Mode) : Except Notice (Given × Mode) :=
    (Given.addWord command given argument).map fun given => (given, next)
  match mode, argument.toList with
  | .trailing, _ => word .trailing
  | .awaiting _, '-' :: _ :: _ => .error .misuse
  | .awaiting setting, _ => .ok (given.addSetting setting argument, .fresh)
  | _, ['-', '-'] => .ok (given, .trailing)
  | _, '-' :: '-' :: option => readLong command given option
  | _, '-' :: letter :: letters => readLetters command given (letter :: letters)
  | _, _ => word .words

/-- Whether the name of a subcommand can come next. -/
def Mode.allowsCommand : Mode → Bool
  | .fresh => true
  | .awaiting _ | .words | .trailing => false

/-- What to do about a request for help with the command of some names. -/
def helpNotice : Command → List String → Notice
  | _, [] => .help
  | command, name :: names =>
    if command.subcommands.isEmpty then .misuse
    else
      match command.subcommands.lookup name with
      | some inner => helpNotice inner names
      | none => if name = "help" && names.isEmpty then .help else .misuse

/-- What is given to a command and to the subcommands after it, outermost first. -/
def readArguments (command : Command) (given : Given) (mode : Mode) :
    List String → Except Notice (List (Command × Given))
  | [] =>
    match mode with
    | .awaiting _ => .error .misuse
    | _ =>
      if given.isComplete command && command ≠ .dict then .ok [(command, given)]
      else .error .misuse
  | argument :: rest =>
    if mode.allowsCommand && !command.subcommands.isEmpty && argument = "help" then
      .error (helpNotice command rest)
    else
      match if mode.allowsCommand then command.subcommands.lookup argument else none with
      | some inner => do
        let levels ← readArguments inner {} .fresh rest
        if given.isComplete command then return (command, given) :: levels else .error .misuse
      | none => do
        if !given.isValid command then .error .misuse
        else
          let (given, mode) ← readArgument command given mode argument
          readArguments command given mode rest

end Orthography.CommandLine
