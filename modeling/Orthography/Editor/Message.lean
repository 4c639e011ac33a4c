import Orthography.Editor.Feature

/-!
# Messages to an editor

The JSON values in which diagnostics, quick fixes and completions are sent to an editor.  A part
that is not there is left out.
-/

namespace Orthography.Editor

set_option autoImplicit false

/-- A place between two characters. -/
def positionJson (position : Position) : Json :=
  .ofMembers [("line", .nat position.line), ("character", .nat position.character)]

/-- A part of a document. -/
def rangeJson (range : Range) : Json :=
  .ofMembers [("start", positionJson range.start), ("end", positionJson range.stop)]

/-- The number of a severity. -/
def severityNumber : Severity → Nat
  | .error => 1
  | .warning => 2
  | .information => 3
  | .hint => 4

/-- A member that may be missing. -/
def member? (name : String) (value : Option Json) : List (String × Json) :=
  match value with
  | some value => [(name, value)]
  | none => []

/-- A diagnostic. -/
def Diagnostic.json (diagnostic : Diagnostic) : Json :=
  .ofMembers
    [("range", rangeJson diagnostic.range),
      ("severity", .nat (severityNumber diagnostic.severity)),
      ("source", .string diagnostic.source),
      ("message", .string diagnostic.message)]

/-- An edit. -/
def TextEdit.json (edit : TextEdit) : Json :=
  .ofMembers [("range", rangeJson edit.range), ("newText", .string edit.newText)]

/-- A command. -/
def RemoteCommand.json (command : RemoteCommand) : Json :=
  .ofMembers
    [("title", .string command.title), ("command", .string command.name),
      ("arguments", .array command.arguments)]

/-- A quick fix; its edit is a change of the document at its address. -/
def CodeAction.json (action : CodeAction) : Json :=
  let change (edit : TextEdit) : Json :=
    .ofMembers [("changes", .ofMembers [(action.uri.text, .array [edit.json])])]
  .ofMembers
    ([("title", .string action.title), ("kind", .string "quickfix")]
      ++ member? "edit" (action.edit.map change)
      ++ member? "command" (action.command.map RemoteCommand.json))

/-- A completion; its kind is plain text. -/
def CompletionItem.json (item : CompletionItem) : Json :=
  .ofMembers
    ([("label", .string item.label), ("kind", .nat 1), ("detail", .string item.detail)]
      ++ member? "textEdit" (item.edit.map TextEdit.json))

end Orthography.Editor
