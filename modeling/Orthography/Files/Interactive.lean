import Orthography.Files.Fix
import Orthography.Files.Menu
import Orthography.Report.Text

/-!
# Fixing files by hand

The lines of a file that have actions are gone through from the first to the last.  For each one a
menu offers its actions, then to skip the line, then to quit.  After an action the same line comes
again, until it has none left or is skipped.  Words that are added count at once.

A pass over a file is a state that stops at every question: `Pass.question?` is what is asked, and
`Pass.answer` goes on from there.
-/

namespace Orthography.Files

set_option autoImplicit false

/-- An answer to the menu of a line. -/
inductive Choice where
  | act (index : Nat)
  | skip
  | quit
deriving DecidableEq, Repr

/-- How far a pass over a file has come. -/
structure Pass where
  session : Session
  world : World
  path : String
  document : Document
  /-- The number of the current line; past the last one at the end. -/
  index : Nat := 0
  fixed : Nat := 0
  added : Nat := 0
  hasQuit : Bool := false

/-- A line that has actions. -/
structure Question where
  number : Nat
  text : String
  actions : List Placed

/-- What a pass comes to. -/
structure Outcome where
  fixed : Nat
  added : Nat
  hasQuit : Bool
deriving DecidableEq, Repr

namespace Pass

/-- The actions for the current line. -/
def actions (pass : Pass) : List Placed :=
  pass.session.actions pass.document pass.index pass.index

/-- The pass at the next line that has actions, from the current one on; past the last line if none
has.  The number of lines left is fuel enough. -/
def settleWithin : Nat → Pass → Pass
  | 0, pass => pass
  | fuel + 1, pass =>
    if pass.actions.isEmpty then settleWithin fuel { pass with index := pass.index + 1 } else pass

/-- The pass at the next line that has actions. -/
def settle (pass : Pass) : Pass :=
  settleWithin (pass.document.lines.length - pass.index) pass

/-- What is asked at the current line; nothing at the end. -/
def question? (pass : Pass) : Option Question :=
  if pass.hasQuit then none
  else
    match pass.document.line? pass.index with
    | some text => some ⟨pass.index + 1, text, pass.actions⟩
    | none => none

/-- The pass with the edit of an action made. -/
def edit (pass : Pass) (placed : Placed) : Pass :=
  match applyEdit pass.document placed with
  | some document => { pass with document := document, fixed := pass.fixed + 1 }
  | none => pass

/-- The pass with the command of an action done. -/
def obey (pass : Pass) (placed : Placed) : Except Failure Unit × Pass :=
  match placed.suggestion.command with
  | none => (.ok (), pass)
  | some command =>
    let change := pass.session.apply pass.world command
    let pass := { pass with session := change.session, world := change.world }
    match change.result with
    | .ok count => (.ok (), { pass with added := pass.added + count })
    | .error failure => (.error failure, pass)

/-- The pass after an answer, at the next question. -/
def answer (pass : Pass) : Choice → Except Failure Unit × Pass
  | .quit => (.ok (), { pass with hasQuit := true })
  | .skip => (.ok (), { pass with index := pass.index + 1 }.settle)
  | .act index =>
    match pass.actions[index]? with
    | none => (.ok (), pass)
    | some placed =>
      match (pass.edit placed).obey placed with
      | (.ok _, pass) => (.ok (), pass.settle)
      | failed => failed

/-- What a pass comes to. -/
def outcome (pass : Pass) : Outcome :=
  ⟨pass.fixed, pass.added, pass.hasQuit⟩

/-- The pass at the first question about a file, and the text of the file. -/
def begin (session : Session) (world : World) (path : String) : Except Failure (String × Pass) :=
  (readDocument world.disk path).map fun (before, document) =>
    let pass : Pass :=
      { session := session, world := world, path := path, document := document }
    (before, pass.settle)

/-- Ends a pass: the file is written if something was corrected. -/
def finish (pass : Pass) (before : String) : Except Failure Outcome × Pass :=
  if pass.fixed = 0 then (.ok pass.outcome, pass)
  else
    let (written, disk) := writeDocument pass.world.disk pass.path before pass.document
    (written.map fun _ => pass.outcome, { pass with world := { pass.world with disk := disk } })

end Pass

/-- The choice that an item of the menu of a question stands for. -/
def Question.choice (question : Question) : Option Nat → Choice
  | some item =>
    if item < question.actions.length then .act item
    else if item = question.actions.length then .skip
    else .quit
  | none => .quit

/-- What comes of answering all questions with keys. -/
structure Dialogue where
  result : Except Failure Outcome
  session : Session
  world : World
  printed : String
  /-- The keys that were not used. -/
  keys : Option (List Char)

/-- Goes on with a pass, answering its questions with keys.  Every answer but the last uses up at
least one key, so the number of keys is fuel enough.  Without a terminal there are no keys and a
question cannot be answered. -/
def converse (colour : Bool) (before : String) :
    Nat → Pass → String → Option (List Char) → Dialogue
  | fuel, pass, printed, keys =>
    match pass.question? with
    | none =>
      let (result, pass) := pass.finish before
      ⟨result, pass.session, pass.world, printed, keys⟩
    | some question =>
      let printed := printed ++ Report.promptText colour pass.path question.number question.text
      match keys with
      | none => ⟨.error .noTerminal, pass.session, pass.world, printed, none⟩
      | some typed =>
        let (item, rest) := Menu.choose (question.actions.length + 2) typed
        match pass.answer (question.choice item) with
        | (.error failure, pass) =>
          ⟨.error failure, pass.session, pass.world, printed, some rest⟩
        | (.ok _, pass) =>
          match fuel with
          | 0 => ⟨.ok pass.outcome, pass.session, pass.world, printed, some rest⟩
          | fuel + 1 => converse colour before fuel pass printed (some rest)

/-- Fixes a file by the answers that keys give. -/
def fixInteractively (session : Session) (world : World) (colour : Bool) (path : String)
    (keys : Option (List Char)) : Dialogue :=
  match Pass.begin session world path with
  | .error failure => ⟨.error failure, session, world, "", keys⟩
  | .ok (before, pass) =>
    converse colour before ((keys.getD []).length + 1) pass "" keys

end Orthography.Files
