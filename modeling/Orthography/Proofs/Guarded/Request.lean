import Orthography.Editor.Service
import Orthography.Proofs.Completion
import Orthography.Proofs.Guarded.Spelling

/-!
# Requests on guard

A request of an editor comes with places that need not be in the document: a line past the last one,
a range whose end is before its start, a column inside a character.  The numbers of lines are made
smaller before lines are looked up, but only the greater one of a range is; the smaller one may be
past the end, and then there is nothing to look up (`Guarded.actions_eq`).  The line of a cursor is
looked up with care, and the text is cut at the offset of the column, which lies between two
characters (`Guarded.completions_eq`).  In a session with the spelling analyzers, and for a document
with lines whose units can be counted, these requests are what a session answers.
-/

namespace Orthography

set_option autoImplicit false

/-- A document with lines whose units can be counted in 32 bits. -/
def Document.Narrow (document : Document) : Prop :=
  ∀ line ∈ document.lines, Columns.width line.toList < Nat.pow 2 32

namespace Guarded

open Traversal (mapM_eq_some flatMapM_eq_some)

/-! ## Places -/

/-- The part of a document that a suggestion is about. -/
def rangeOf (suggestion : Suggestion) (document : Document) : Option Range :=
  match suggestion.line with
  | none => some Range.origin
  | some line =>
    match suggestion.span with
    | some span => some (Range.onLine (line % Nat.pow 2 32) span.start span.stop)
    | none =>
      match document.line? line with
      | some text => do
        let width ← width32 text.toList
        return Range.onLine (line % Nat.pow 2 32) 0 width
      | none => some (Range.onLine (line % Nat.pow 2 32) 0 0)

/-- A suggestion placed in a document. -/
def place (suggestion : Suggestion) (document : Document) : Option Placed := do
  let range ← rangeOf suggestion document
  return ⟨suggestion, range⟩

/-- A completion in its place. -/
def placeCompletion (document : Document) (cursor : Position) (suggestion : Suggestion) :
    Option Placed :=
  if suggestion.line.isSome then place suggestion document
  else some ⟨suggestion, Range.caret cursor⟩

section Places

variable {document : Document} (narrow : document.Narrow) (suggestion : Suggestion)

include narrow

theorem rangeOf_eq : rangeOf suggestion document = some (suggestion.range document) := by
  rw [rangeOf, Suggestion.range]
  cases suggestion.line with
  | none => rfl
  | some line =>
    cases suggestion.span with
    | some span => rfl
    | none =>
      dsimp only
      cases here : document.line? line with
      | none => rfl
      | some text =>
        dsimp only
        rw [width32_eq (narrow text (List.mem_of_getElem? here))]
        rfl

/-- **Every suggestion can be placed** in a document whose units can be counted. -/
theorem place_eq : place suggestion document = some (suggestion.place document) := by
  rw [place, rangeOf_eq narrow]
  rfl

theorem placeCompletion_eq (cursor : Position) :
    placeCompletion document cursor suggestion
      = some (Registry.placeCompletion document cursor suggestion) := by
  rw [placeCompletion, Registry.placeCompletion, place_eq narrow]
  split <;> rfl

end Places

/-! ## What the analyzers are asked -/

/-- The actions for lines of a document.  Every line that is looked up has to be there. -/
def actions (workspace : Workspace) (document : Document) (first last : Nat) :
    Option (List Placed) :=
  match difference document.lines.length 1 with
  | none => some []
  | some greatest =>
    (Registry.numbers first (min last greatest)).flatMapM fun index => do
      let line ← document.lines[index]?
      let suggestions ← fixLine workspace line
      suggestions.mapM fun suggestion => place { suggestion with line := some index } document

/-- The text of the cursor's line up to the cursor, if there is such a line. -/
def beforeCursor (document : Document) (cursor : Position) : Option (Option String) :=
  match document.line? cursor.line with
  | none => some none
  | some line => do
    let offset ← byteOffset line.toList cursor.character
    let parts ← splitAt offset line.toList
    return some (String.ofList parts.1)

/-- The completions at a cursor. -/
def completions (workspace : Workspace) (document : Document) (cursor : Position) :
    Option (List Placed) := do
  match ← beforeCursor document cursor with
  | none => return []
  | some text =>
    let suggestions ← completeWord workspace text
    suggestions.mapM (placeCompletion document cursor)

/-- The diagnostics of a document. -/
def diagnose (workspace : Workspace) (document : Document) : Option (List Placed) := do
  let suggestions ← diagnoseFrom workspace 0 document.lines
  suggestions.mapM fun suggestion => place suggestion document

/-- The diagnostics of a document, and what is announced. -/
def diagnostics (session : Session) (document : Document) :
    Option (List Placed × List Announcement) := do
  let placed ← diagnose session.workspace document
  return (placed, if session.registry.announces then [⟨document.uri, placed⟩] else [])

/-- The numbers from any one to one that is not past the end are numbers of lines. -/
theorem lt_of_mem_numbers {first last index length : Nat} (filled : 0 < length)
    (member : index ∈ Registry.numbers first (min last (length - 1))) : index < length := by
  rw [Registry.numbers, List.mem_range'_1] at member
  omega

/-- The text before any cursor can be cut off. -/
theorem beforeCursor_eq {document : Document} (narrow : document.Narrow) (cursor : Position) :
    beforeCursor document cursor
      = some ((document.line? cursor.line).map fun line =>
          String.ofList (Session.textBefore line cursor)) := by
  rw [beforeCursor]
  cases here : document.line? cursor.line with
  | none => rfl
  | some line =>
    have findable := findable_of_narrow (narrow line (List.mem_of_getElem? here)) cursor.character
    dsimp only
    rw [byteOffset_eq findable, Option.bind_eq_bind, Option.bind_some, splitAt_byteOffset]
    rfl

section Session

variable {session : Session} (only : session.OnlySpelling) {document : Document}
  (narrow : document.Narrow)

include only narrow

/-- **The actions for any lines are found**, be they reversed or past the end. -/
theorem actions_eq (first last : Nat) :
    actions session.workspace document first last
      = some (session.actions document first last) := by
  rw [actions, only.actions_eq]
  rcases Nat.eq_zero_or_pos document.lines.length with empty | filled
  · -- A document without lines has no greatest number; nothing is looked up.
    have missing (index : Nat) : document.line? index = none := by
      rw [Document.line?, List.length_eq_zero_iff.mp empty, List.getElem?_nil]
    have nothing : difference document.lines.length 1 = none := by
      rw [empty]
      rfl
    simp only [nothing, missing, List.flatMap_eq_nil_iff.mpr fun _ _ => rfl]
  · rw [difference_eq filled]
    refine flatMapM_eq_some fun index member => ?_
    have inside := lt_of_mem_numbers filled member
    have here : document.lines[index]? = some document.lines[index] :=
      List.getElem?_eq_getElem inside
    have counted := narrow document.lines[index] (List.getElem_mem inside)
    rw [Document.line?, here, Option.bind_eq_bind, Option.bind_some,
      fixLine_eq session.workspace counted, Option.bind_eq_bind, Option.bind_some]
    exact mapM_eq_some fun suggestion _ => place_eq narrow _

/-- **The completions at any cursor are found**, be it inside a character or past the end. -/
theorem completions_eq (cursor : Position) :
    completions session.workspace document cursor = some (session.completions document cursor) := by
  rw [completions, beforeCursor_eq narrow, only.completions_eq]
  cases document.line? cursor.line with
  | none => rfl
  | some line =>
    rw [Option.map_some, Option.bind_eq_bind, Option.bind_some]
    dsimp only
    rw [completeWord_eq, Option.bind_eq_bind, Option.bind_some]
    refine mapM_eq_some fun suggestion member => ?_
    obtain ⟨stem, ending, -, rfl⟩ := Spelling.exists_of_mem_completeWord member
    exact placeCompletion_eq narrow _ cursor

/-- **The diagnostics of a document are found.** -/
theorem diagnose_eq :
    diagnose session.workspace document = some (session.diagnostics document).1 := by
  rw [diagnose, only.diagnostics_eq_diagnose, diagnoseFrom_eq session.workspace 0 narrow]
  exact mapM_eq_some fun suggestion _ => place_eq narrow suggestion

theorem diagnostics_eq : diagnostics session document = some (session.diagnostics document) := by
  rw [diagnostics, diagnose_eq only narrow]
  rfl

end Session

/-! ## What an editor asks -/

/-- The quick fixes for the lines that a range touches. -/
def codeActions (session : Session) (uri : Uri) (document : Document) (range : Range) :
    Option (List Editor.CodeAction) :=
  if Editor.accepts session uri then do
    let placed ← actions session.workspace document range.start.line range.stop.line
    return placed.filterMap (Editor.CodeAction.ofPlaced? uri)
  else some []

/-- The completions that an editor shows at a cursor. -/
def completionItems (session : Session) (uri : Uri) (document : Document) (cursor : Position) :
    Option (List Editor.CompletionItem) :=
  if Editor.accepts session uri then do
    let placed ← completions session.workspace document cursor
    return placed.map Editor.CompletionItem.ofPlaced
  else some []

/-- The diagnostics that an editor shows, and what is announced. -/
def shownDiagnostics (session : Session) (uri : Uri) (document : Document) :
    Option (List Editor.Diagnostic × List Announcement) :=
  if Editor.accepts session uri then do
    let (placed, announcements) ← diagnostics session document
    return (placed.map Editor.Diagnostic.ofPlaced, announcements)
  else some ([], [])

section Editor

variable {session : Session} (only : session.OnlySpelling) (uri : Uri) {document : Document}
  (narrow : document.Narrow)

include only narrow

theorem codeActions_eq (range : Range) :
    codeActions session uri document range
      = some (Editor.codeActions session uri document range) := by
  rw [codeActions, Editor.codeActions, actions_eq only narrow]
  split <;> rfl

theorem completionItems_eq (cursor : Position) :
    completionItems session uri document cursor
      = some (Editor.completions session uri document cursor) := by
  rw [completionItems, Editor.completions, completions_eq only narrow]
  split <;> rfl

theorem shownDiagnostics_eq :
    shownDiagnostics session uri document = some (Editor.diagnostics session uri document) := by
  rw [shownDiagnostics, Editor.diagnostics, diagnostics_eq only narrow]
  split <;> rfl

end Editor

end Guarded

end Orthography
