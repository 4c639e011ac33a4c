import Orthography.CommandLine.FileRun
import Orthography.Configuration.Layers
import Orthography.Maintenance

/-!
# Running the program

What the program does for a command line: what it prints, what it complains about, and the code that
it ends with.
-/

namespace Orthography.CommandLine

set_option autoImplicit false

/-- What the program finds around it. -/
structure Surroundings where
  /-- The directory for the configurations of the user. -/
  configurations : String
  /-- Whether the output can show colours. -/
  colour : Bool
  /-- The keys that are typed, if there is a terminal. -/
  keys : Option (List Char)

/-- What a run of the program comes to. -/
structure Ending where
  code : Nat
  printed : String
  complaints : List String
  world : World

/-- The text that tells the version. -/
def versionText : String := "codexspell 0.1.0\n"

namespace Ending

/-- The end of a run that has nothing to do with the files. -/
def plain (code : Nat) (printed : String) (world : World) : Ending :=
  ⟨code, printed, [], world⟩

/-- The end of a run for a command line that is not carried out. -/
def ofNotice (world : World) : Notice → Ending
  | .help => plain 0 "" world
  | .version => plain 0 versionText world
  | .misuse => plain 2 "" world

/-- The end of a run by a failure, if there is one. -/
def ofFailure (world : World) (printed : String) (complaints : List String) (code : Nat) :
    Option Failure → Ending
  | none => ⟨code, printed, complaints, world⟩
  | some failure => ⟨1, printed, complaints ++ [failure.message], world⟩

/-- The end of a run of a command that looks after a lexicon. -/
def ofOutcome {α : Type} (outcome : Maintenance.Outcome α) : Ending :=
  match outcome.result with
  | .ok _ => plain 0 outcome.printed outcome.world
  | .error failure => ofFailure outcome.world outcome.printed [] 0 (some failure)

/-- The end of a run over files. -/
def ofFileRun (noFail : Bool) (run : FileRun) (failure : Option Failure) : Ending :=
  let code := if 0 < run.errors && !noFail && run.treatment = .check then 1 else 0
  ofFailure run.world run.printed run.complaints code failure

end Ending

/-- The configuration that a command line asks for. -/
def Arguments.configuration (arguments : Arguments) (surroundings : Surroundings) (disk : Disk) :
    Except Failure Configuration :=
  Configuration.load disk surroundings.configurations arguments.project
    { language := arguments.language
      relativeChecking := if arguments.relative then some true else none }

/-- A run over files, at its first question or at its end. -/
def startFiles (session : Session) (world : World) (colour : Bool) (paths : List String)
    (treatment : Treatment) (format : OutputFormat) : FileRun × Progress :=
  let files := Files.collect session.configuration world.disk paths
  FileRun.proceed files
    { treatment := treatment
      format := format
      colour := colour
      session := session
      world := world
      fileCount := files.length
      remaining := [] }

/-- Does what a command line asks for, in an open project. -/
def perform (session : Session) (world : World) (colour : Bool) (keys : Option (List Char)) :
    Task → Ending
  | .script _ => .plain 0 "" world
  | .files paths treatment format noFail =>
    if paths.isEmpty then Ending.ofFailure world "" [] 0 (some .noPaths)
    else
      let (run, failure) :=
        FileRun.converse ((keys.getD []).length + 1) keys
          (startFiles session world colour paths treatment format)
      .ofFileRun noFail run failure
  | .list level => .plain 0 (Maintenance.list session colour level) world
  | .add words level => .ofOutcome (Maintenance.add session world colour words level)
  | .remove words => .ofOutcome (Maintenance.remove session world colour words)
  | .info => .plain 0 (Maintenance.info session world.disk colour) world
  | .suggest word => .plain 0 (Maintenance.suggest session colour word).1 world
  | .complete word => .plain 0 (Maintenance.complete session colour word).1 world

/-- Opens the project of a command line: the session, or why there is none, and the world after
it. -/
def Arguments.openProject (arguments : Arguments) (surroundings : Surroundings) (world : World) :
    Except Failure Session × World :=
  match arguments.configuration surroundings world.disk with
  | .error failure => (.error failure, world)
  | .ok configuration => Session.openProject world arguments.project configuration

/-- Runs the program with some arguments. -/
def run (surroundings : Surroundings) (world : World) (arguments : List String) : Ending :=
  match Arguments.read arguments with
  | .error notice => .ofNotice world notice
  | .ok arguments =>
    match arguments.task with
    | .script _ => .plain 0 "" world
    | task =>
      match arguments.openProject surroundings world with
      | (.error failure, world) => Ending.ofFailure world "" [] 0 (some failure)
      | (.ok session, world) =>
        perform session world (surroundings.colour && arguments.colour) surroundings.keys task

end Orthography.CommandLine
