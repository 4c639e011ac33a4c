import Orthography.CommandLine.Run

/-!
# The program

The files that a command line is about are taken into a value, the program runs on that value, and
what it has changed is written back.
-/

namespace Orthography.CommandLine

set_option autoImplicit false

/-- The path of a location. -/
def pathOf (location : Location) : String :=
  "/" ++ "/".intercalate location

/-- A disk with what really stands at a location. -/
def observe (disk : Disk) (location : Location) : IO Disk := do
  match ← (IO.FS.realPath (pathOf location)).toBaseIO with
  | .error _ => return disk
  | .ok path =>
    if ← path.isDir then return disk.put location .directory
    else
      match ← (IO.FS.readBinFile path).toBaseIO with
      | .ok bytes => return disk.put location (.file bytes)
      | .error _ => return disk

/-- A disk with what really stands on the way along some names. -/
def observeAlong (disk : Disk) (location : Location) : List String → IO Disk
  | [] => return disk
  | name :: rest =>
    if name.isEmpty || name = "." then observeAlong disk location rest
    else if name = ".." then observeAlong disk location.dropLast rest
    else do
      let next := location ++ [name]
      observeAlong (← observe disk next) next rest

/-- A disk with all that really stands below a location. -/
partial def observeBelow (disk : Disk) (location : Location) : IO Disk := do
  if !disk.isDirectoryAt location then return disk
  match ← (IO.FS.realPath (pathOf location)).toBaseIO with
  | .error _ => return disk
  | .ok path =>
    let mut disk := disk
    for entry in ← path.readDir do
      let child := location ++ [entry.fileName]
      disk ← observeBelow (← observe disk child) child
    return disk

/-- A disk with what really stands on the way to a path and at it, and if asked for also below. -/
def observePath (below : Bool) (disk : Disk) (path : String) : IO Disk := do
  let disk ← observeAlong disk (disk.origin path) (Path.names path)
  match disk.locate path with
  | some location => if below then observeBelow disk location else return disk
  | none => return disk

/-- The disk with all files that a command line is about. -/
def observeFor (surroundings : Surroundings) (arguments : Arguments) (disk : Disk) : IO Disk := do
  let paths :=
    match arguments.task with
    | .files paths _ _ _ => paths
    | _ => []
  let disk ← observePath false disk (Configuration.userFile surroundings.configurations)
  let disk ←
    observePath false disk (Path.join arguments.project Configuration.projectFileName)
  let disk ← paths.foldlM (observePath true) disk
  match arguments.configuration surroundings disk with
  | .ok configuration =>
    observePath true disk (Session.dataDirectory arguments.project configuration)
  | .error _ => return disk

/-- Writes what differs between two disks. -/
def writeChanges (before after : Disk) : IO Unit :=
  for (location, node) in after.nodes do
    if before.node? location ≠ some node then
      match node with
      | .directory => IO.FS.createDirAll (pathOf location)
      | .file bytes => IO.FS.writeBinFile (pathOf location) bytes

/-- Prints what a run comes to, writes what it has changed, and ends with its code. -/
def conclude (before : Disk) (ending : Ending) : IO UInt32 := do
  writeChanges before ending.world.disk
  IO.print ending.printed
  for complaint in ending.complaints do
    IO.eprintln ("Error: " ++ complaint)
  return UInt32.ofNat ending.code

/-- Shows the menu of a question. -/
def showMenu (question : Files.Question) : IO Unit := do
  for placed in question.actions do
    IO.eprintln ("  " ++ placed.suggestion.message)
  IO.eprintln "  Skip line"
  IO.eprintln "  Quit"

/-- Goes on with a run over files, answering its questions with the keys of one line each. -/
partial def interview : FileRun × Progress → IO (FileRun × Option Failure)
  | (run, .over failure) => return (run, failure)
  | (run, .asking before pass question) => do
    IO.print run.printed
    showMenu question
    let keys ← (← IO.getStdin).getLine
    let (item, _) := Menu.choose (question.actions.length + 2) keys.toList
    interview ({ run with printed := "" }.answer before pass (question.choice item))

/-- Fixes files by hand, at a terminal. -/
def runByHand (surroundings : Surroundings) (world : World) (arguments : Arguments)
    (paths : List String) : IO Ending := do
  match arguments.openProject surroundings world with
  | (.error failure, world) => return Ending.ofFailure world "" [] 0 (some failure)
  | (.ok session, world) =>
    let colour := surroundings.colour && arguments.colour
    let (run, failure) ←
      interview (startFiles session world colour paths .interactive .text)
    return .ofFileRun true run failure

/-- Whether a variable of the environment is set to something. -/
def isSet (name : String) : IO Bool := do
  return ((← IO.getEnv name).getD "") ≠ ""

/-- What the program finds around it. -/
def look : IO Surroundings := do
  let home := (← IO.getEnv "HOME").getD ""
  let given := (← IO.getEnv "XDG_CONFIG_HOME").getD ""
  let shown ← (← IO.getStdout).isTty
  let forced ← isSet "CLICOLOR_FORCE"
  let plain ← isSet "NO_COLOR"
  return {
    configurations := if given.startsWith "/" then given else Path.join home ".config"
    colour := forced || (shown && !plain)
    keys := none }

/-- Runs the program. -/
def execute (arguments : List String) : IO UInt32 := do
  let surroundings ← look
  let seed := (← IO.getRandomBytes 16).toList.foldl (fun seed byte => seed * 256 + byte.toNat) 0
  let here := (Path.names (← IO.currentDir).toString).filter fun name => !name.isEmpty
  let empty : Disk := { current := here }
  match Arguments.read arguments with
  | .error _ => conclude empty (run surroundings ⟨empty, ⟨seed⟩⟩ arguments)
  | .ok asked =>
    let disk ← observeFor surroundings asked (← observeAlong empty [] here)
    let world : World := ⟨disk, ⟨seed⟩⟩
    match asked.task, ← (← IO.getStdin).isTty with
    | .files (path :: rest) .interactive _ _, true =>
      conclude disk (← runByHand surroundings world asked (path :: rest))
    | _, _ => conclude disk (run surroundings world arguments)

end Orthography.CommandLine

/-- Runs the program with the arguments of the command line. -/
def main (arguments : List String) : IO UInt32 :=
  Orthography.CommandLine.execute arguments
