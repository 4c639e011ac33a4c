import Orthography.Editor.Feature
import Orthography.Session

/-!
# Serving an editor

Requests of an editor to a session.  Documents whose names have none of the configured extensions
are left alone.  A command is checked as a whole before it changes anything.
-/

namespace Orthography.Editor

set_option autoImplicit false

/-- Whether a document is looked after. -/
def accepts (session : Session) (uri : Uri) : Bool :=
  session.configuration.acceptsDocument uri.text

/-- The quick fixes for the lines that a range touches. -/
def codeActions (session : Session) (uri : Uri) (document : Document) (range : Range) :
    List CodeAction :=
  if accepts session uri then
    (session.actions document range.start.line range.stop.line).filterMap
      (CodeAction.ofPlaced? uri)
  else []

/-- The completions at a cursor. -/
def completions (session : Session) (uri : Uri) (document : Document) (cursor : Position) :
    List CompletionItem :=
  if accepts session uri then
    (session.completions document cursor).map CompletionItem.ofPlaced
  else []

/-- The diagnostics of a document, and what is announced. -/
def diagnostics (session : Session) (uri : Uri) (document : Document) :
    List Diagnostic × List Announcement :=
  if accepts session uri then
    let (placed, announcements) := session.diagnostics document
    (placed.map Diagnostic.ofPlaced, announcements)
  else ([], [])

/-- The texts of a list of values, if all of them are texts. -/
def texts? : List Json → Option (List String)
  | [] => some []
  | .string text :: rest => (texts? rest).map (text :: ·)
  | _ :: _ => none

/-- The words in the first argument of a command: one word, or a list of words. -/
def wordsArgument (name : String) : List Json → Except Failure (List String)
  | .string word :: _ => .ok [word]
  | .array items :: _ =>
    match texts? items with
    | some words => .ok words
    | none => .error .wordListMixed
  | _ => .error (.wordsExpected name)

/-- The level in the second argument of a command, if it is there and not null. -/
def levelArgument : List Json → Except Failure (Option Level)
  | _ :: .string name :: _ => (Level.read name).map some
  | _ :: .null :: _ => .ok none
  | _ :: other :: _ => .error (.levelExpected other)
  | _ => .ok none

/-- The words and the level that a command with arguments asks to add. -/
def readCommand (name : String) (arguments : List Json) :
    Except Failure (List String × Option Level) :=
  if name ≠ addWordsCommand && name ≠ addWordsAlias then .error (.unknownCommand name)
  else
    match wordsArgument name arguments with
    | .error failure => .error failure
    | .ok words => (levelArgument arguments).map fun level => (words, level)

/-- Runs a command: says how many words were new. -/
def execute (session : Session) (world : World) (name : String) (arguments : List Json) :
    Session.Change Nat :=
  match readCommand name arguments with
  | .error failure => ⟨.error failure, session, world⟩
  | .ok (words, level) => session.addWords world words level

end Orthography.Editor
