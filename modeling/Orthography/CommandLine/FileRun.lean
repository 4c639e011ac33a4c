import Orthography.CommandLine.Arguments
import Orthography.Files.Interactive
import Orthography.Report.Json

/-!
# Runs over files

Files are checked or fixed one after the other, then a summary or a report is printed.  A run in
which every correction is chosen by hand stops at each question and goes on with the answer.
-/

namespace Orthography.CommandLine

set_option autoImplicit false

open Files Report

/-- How far a run over files has come. -/
structure FileRun where
  treatment : Treatment
  format : OutputFormat
  colour : Bool
  session : Session
  world : World
  /-- The number of all files, missing ones included. -/
  fileCount : Nat
  /-- The files that are still to be treated. -/
  remaining : List String
  results : List (String × CheckResult) := []
  errors : Nat := 0
  fixed : Nat := 0
  added : Nat := 0
  printed : String := ""
  complaints : List String := []

/-- Where a run over files stands. -/
inductive Progress where
  | over (failure : Option Failure)
  /-- A question about a file has to be answered; the text is that of the file at first. -/
  | asking (before : String) (pass : Pass) (question : Question)

namespace FileRun

/-- The run with more text printed. -/
def print (run : FileRun) (text : String) : FileRun :=
  { run with printed := run.printed ++ text }

/-- What is printed after all files. -/
def closing (run : FileRun) : String :=
  if run.treatment ≠ .check then fixSummary run.colour run.fixed run.added run.fileCount
  else if run.format = .json then jsonText run.results
  else checkSummary run.colour run.errors run.fileCount

/-- The run with one more file checked. -/
def check (run : FileRun) (path : String) : Except Failure FileRun :=
  (Files.check run.session run.world.disk path).1.map fun result =>
    let text := if run.format = .text then findingsText run.colour path result.findings else ""
    { run.print text with
      errors := run.errors + result.errorCount
      results := run.results ++ [(path, result)] }

/-- The run with one more file fixed. -/
def fix (run : FileRun) (path : String) : Except Failure FileRun × World :=
  let (result, _, disk) := Files.fix run.session run.world.disk path
  let world := { run.world with disk := disk }
  (result.map fun result =>
    { run with
      world := world
      errors := run.errors + result.errorCount
      fixed := run.fixed + result.fixedCount }, world)

/-- The run at a question about a file. -/
def ask (run : FileRun) (before : String) (pass : Pass) (question : Question) :
    FileRun × Progress :=
  (run.print (promptText run.colour pass.path question.number question.text),
    .asking before pass question)

/-- The run after a pass over a file that was worked by hand. -/
def tally (run : FileRun) (pass : Pass) (outcome : Outcome) : FileRun :=
  { run with
    session := pass.session
    world := pass.world
    fixed := run.fixed + outcome.fixed
    added := run.added + outcome.added }

/-- The run after all files. -/
def finish (run : FileRun) : FileRun × Progress :=
  (run.print run.closing, .over none)

/-- The run after some more files: at the next question, or at its end. -/
def proceed : List String → FileRun → FileRun × Progress
  | [], run => run.finish
  | path :: rest, run =>
    if !run.world.disk.exists? path then
      proceed rest { run with complaints := run.complaints ++ ["File not found: " ++ path] }
    else
      match run.treatment with
      | .check =>
        match run.check path with
        | .error failure => (run, .over (some failure))
        | .ok run => proceed rest run
      | .fix =>
        match run.fix path with
        | (.error failure, world) => ({ run with world := world }, .over (some failure))
        | (.ok run, _) => proceed rest run
      | .interactive =>
        match Pass.begin run.session run.world path with
        | .error failure => (run, .over (some failure))
        | .ok (before, pass) =>
          match pass.question? with
          | some question => { run with remaining := rest }.ask before pass question
          | none => proceed rest run

/-- The run after the last answer about a file. -/
def leave (run : FileRun) (before : String) (pass : Pass) : FileRun × Progress :=
  match pass.finish before with
  | (.error failure, pass) =>
    ({ run with session := pass.session, world := pass.world }, .over (some failure))
  | (.ok outcome, pass) =>
    let run := run.tally pass outcome
    if outcome.hasQuit then run.finish else proceed run.remaining run

/-- The run after an answer. -/
def answer (run : FileRun) (before : String) (pass : Pass) (choice : Choice) :
    FileRun × Progress :=
  match pass.answer choice with
  | (.error failure, pass) =>
    ({ run with session := pass.session, world := pass.world }, .over (some failure))
  | (.ok _, pass) =>
    match pass.question? with
    | some question => run.ask before pass question
    | none => run.leave before pass

/-- Goes on with a run, answering its questions with keys.  Every answer but the last uses up at
least one key, so the number of keys is fuel enough.  Without a terminal there are no keys and a
question cannot be answered. -/
def converse : Nat → Option (List Char) → FileRun × Progress → FileRun × Option Failure
  | _, _, (run, .over failure) => (run, failure)
  | _, none, (run, .asking _ pass _) =>
    ({ run with session := pass.session, world := pass.world }, some .noTerminal)
  | 0, some _, (run, .asking _ pass _) =>
    ({ run with session := pass.session, world := pass.world }, none)
  | fuel + 1, some keys, (run, .asking before pass question) =>
    let (item, rest) := Menu.choose (question.actions.length + 2) keys
    converse fuel (some rest) (run.answer before pass (question.choice item))

end FileRun

end Orthography.CommandLine
