import Orthography.Analyzer.Registry
import Orthography.Uri

/-!
# What an editor shows

Suggestions as an editor shows them: diagnostics, quick fixes and completions.
-/

namespace Orthography.Editor

set_option autoImplicit false

/-- A marked part of a document. -/
structure Diagnostic where
  range : Range
  severity : Severity
  source : String
  message : String
deriving DecidableEq, Repr

/-- Some text in place of a part of a document. -/
structure TextEdit where
  range : Range
  newText : String
deriving DecidableEq, Repr

/-- A command that the editor sends back when it is chosen. -/
structure RemoteCommand where
  title : String
  name : String
  arguments : List Json
deriving Repr

/-- A quick fix: an edit of the document at an address, a command, or both. -/
structure CodeAction where
  title : String
  uri : Uri
  edit : Option TextEdit
  command : Option RemoteCommand
deriving Repr

/-- A completion. -/
structure CompletionItem where
  label : String
  detail : String
  edit : Option TextEdit
deriving DecidableEq, Repr

/-- The name of the command that adds words to the lexicon. -/
def addWordsCommand : String := "codexspell.addDictionaryEntry"

/-- Another name of it, which some editors use. -/
def addWordsAlias : String := "add-dictionary-entry"

/-- The diagnostic of a suggestion. -/
def Diagnostic.ofPlaced (placed : Placed) : Diagnostic :=
  { range := placed.range
    severity := placed.suggestion.severity
    source := placed.suggestion.source
    message := placed.suggestion.message }

/-- A command under a title: its arguments are the words and the name of the level. -/
def RemoteCommand.ofCommand (title : String) : Command → RemoteCommand
  | .addWords words level =>
    { title := title
      name := addWordsCommand
      arguments := [.strings words, .string level.name] }

/-- The edit of a suggestion in its place, if it has one. -/
def editOf (placed : Placed) : Option TextEdit :=
  placed.suggestion.edit.map fun newText => ⟨placed.range, newText⟩

/-- The quick fix of a suggestion; one that has neither an edit nor a command is none. -/
def CodeAction.ofPlaced? (uri : Uri) (placed : Placed) : Option CodeAction :=
  if placed.suggestion.edit.isNone && placed.suggestion.command.isNone then none
  else
    some
      { title := placed.suggestion.message
        uri := uri
        edit := editOf placed
        command :=
          placed.suggestion.command.map (RemoteCommand.ofCommand placed.suggestion.message) }

/-- The completion of a suggestion. -/
def CompletionItem.ofPlaced (placed : Placed) : CompletionItem :=
  { label := placed.suggestion.message
    detail := placed.suggestion.source
    edit := editOf placed }

/-- An announcement as an editor gets it: the diagnostics for an address.  One whose address is no
URI reference is dropped. -/
def announced? (announcement : Announcement) : Option (Uri × List Diagnostic) :=
  (Uri.ofString? announcement.uri).map fun uri =>
    (uri, announcement.placed.map Diagnostic.ofPlaced)

end Orthography.Editor
