import Orthography.Analyzer.Basic
import Orthography.Word.Punctuation

/-!
# The registry of analyzers

The registry knows the analyzers of each kind, in the order of their registration, and passes
requests on to them.  An analyzer that breaks down does not keep the others from answering; a run of
diagnostics reports it as an error.  What a run of diagnostics returns is also announced, if
somebody listens.
-/

namespace Orthography

set_option autoImplicit false

/-- The kind that a user means; case does not count. -/
def AnalyzerKind.read (text : String) : Except Failure AnalyzerKind :=
  match String.ofList (Unicode.lowercaseText text.toList) with
  | "action" => .ok .action
  | "completion" => .ok .completion
  | "diagnostic" => .ok .diagnostic
  | other => .error (.misconfigured (.unknownKind other))

/-- An analyzer that has been registered. -/
structure Registered (Context : Type) where
  id : Nat
  name : String
  description : Option String
  analyzer : Analyzer Context

/-- What takes an analyzer out of the registry again. -/
structure AnalyzerHandle where
  kind : AnalyzerKind
  id : Nat
deriving DecidableEq, Repr

/-- The analyzers of each kind.  Every registration uses up one number. -/
structure Registry (Context : Type) where
  actions : List (Registered Context) := []
  completions : List (Registered Context) := []
  diagnostics : List (Registered Context) := []
  nextId : Nat := 0
  /-- Completions stop at the first analyzer that has some. -/
  firstCompletionsOnly : Bool := false
  /-- Somebody listens to the announcements. -/
  announces : Bool := false

/-- What is announced: the suggestions for the document at some address. -/
structure Announcement where
  uri : String
  placed : List Placed
deriving DecidableEq, Repr

namespace Registry

variable {Context : Type}

/-! ## Registration -/

/-- The analyzers of a kind. -/
def slot (registry : Registry Context) : AnalyzerKind → List (Registered Context)
  | .action => registry.actions
  | .completion => registry.completions
  | .diagnostic => registry.diagnostics

/-- The registry with the analyzers of a kind replaced. -/
def setSlot (registry : Registry Context) (kind : AnalyzerKind)
    (analyzers : List (Registered Context)) : Registry Context :=
  match kind with
  | .action => { registry with actions := analyzers }
  | .completion => { registry with completions := analyzers }
  | .diagnostic => { registry with diagnostics := analyzers }

/-- Why an analyzer cannot be registered: it has no name, the wrong shape, or the name of another
one of its kind. -/
def refusal? (registry : Registry Context) (kind : AnalyzerKind) (analyzer : Analyzer Context)
    (name : String) : Option Misconfiguration :=
  if (Word.trimmed name).isEmpty then some (.unnamedAnalyzer kind)
  else if analyzer.shape ≠ kind.shape then some (.wrongShape kind name analyzer.shape)
  else if (registry.slot kind).any (·.name = name) then some (.duplicateAnalyzer kind name)
  else none

/-- Adds an analyzer. -/
def register (registry : Registry Context) (kind : AnalyzerKind) (analyzer : Analyzer Context)
    (name : String) (description : Option String) :
    Except Failure (AnalyzerHandle × Registry Context) :=
  match registry.refusal? kind analyzer name with
  | some cause => .error (.misconfigured cause)
  | none =>
    let registered := ⟨registry.nextId, name, description, analyzer⟩
    let extended := registry.setSlot kind (registry.slot kind ++ [registered])
    .ok (⟨kind, registry.nextId⟩, { extended with nextId := registry.nextId + 1 })

/-- Takes an analyzer out; says whether it was still there. -/
def unregister (registry : Registry Context) (handle : AnalyzerHandle) :
    Bool × Registry Context :=
  let kept := (registry.slot handle.kind).filter (·.id ≠ handle.id)
  (kept.length ≠ (registry.slot handle.kind).length, registry.setSlot handle.kind kept)

/-- The names and descriptions of the analyzers of a kind, in order. -/
def described (registry : Registry Context) (kind : AnalyzerKind) :
    List (String × Option String) :=
  (registry.slot kind).map fun registered => (registered.name, registered.description)

/-! ## Requests -/

/-- What an analyzer of lines has to say about a line; nothing if it is none or breaks down. -/
def Registered.onLine (registered : Registered Context) (context : Context) (line : String) :
    List Suggestion :=
  match registered.analyzer with
  | .document _ => []
  | .line run =>
    match run context line with
    | .ok suggestions => suggestions
    | .error _ => []

/-- What an analyzer of documents has to say about a document; nothing if it is none or breaks
down. -/
def Registered.onDocument (registered : Registered Context) (context : Context) (view : View) :
    List Suggestion :=
  match registered.analyzer with
  | .line _ => []
  | .document run =>
    match run context view with
    | .ok suggestions => suggestions
    | .error _ => []

/-- The suggestion that reports a breakdown of an analyzer. -/
def Registered.report (registered : Registered Context) (breakdown : Breakdown) : Suggestion :=
  { message := "Analyzer '" ++ registered.name ++ "' failed: " ++ breakdown.message
    source := registered.name
    severity := .error }

/-- What an analyzer of documents has to say about a document, its breakdown included. -/
def Registered.diagnose (registered : Registered Context) (context : Context) (view : View) :
    List Suggestion :=
  match registered.analyzer with
  | .line _ => []
  | .document run =>
    match run context view with
    | .ok suggestions => suggestions
    | .error breakdown => [Registered.report registered breakdown]

/-- The actions for one line of a document. -/
def actionsOnLine (registry : Registry Context) (context : Context) (document : Document)
    (index : Nat) (line : String) : List Placed :=
  registry.actions.flatMap fun registered =>
    (Registered.onLine registered context line).map fun suggestion =>
      { suggestion with line := some index }.place document

/-- The numbers from one to another, both included. -/
def numbers (first last : Nat) : List Nat :=
  List.range' first (last + 1 - first)

/-- The actions for the lines of a document from one number to another, in the order of the lines
and then of the registration.  Numbers past the end of the document have no lines. -/
def runActions (registry : Registry Context) (context : Context) (document : Document)
    (first last : Nat) : List Placed :=
  (numbers first (min last (document.lines.length - 1))).flatMap fun index =>
    match document.line? index with
    | some line => registry.actionsOnLine context document index line
    | none => []

/-- A completion in its place: on the line that it names, or else inserted at the cursor. -/
def placeCompletion (document : Document) (cursor : Position) (suggestion : Suggestion) : Placed :=
  if suggestion.line.isSome then suggestion.place document
  else ⟨suggestion, Range.caret cursor⟩

/-- The completions of some analyzers, up to and including the first that has some if only that one
counts. -/
def completionsOf (firstOnly : Bool) (context : Context) (view : View) :
    List (Registered Context) → List Suggestion
  | [] => []
  | registered :: rest =>
    let suggestions := Registered.onDocument registered context view
    if firstOnly && !suggestions.isEmpty then suggestions
    else suggestions ++ completionsOf firstOnly context view rest

/-- The completions at a cursor. -/
def runCompletions (registry : Registry Context) (context : Context) (document : Document)
    (cursor : Position) : List Placed :=
  (completionsOf registry.firstCompletionsOnly context ⟨document.lines, some cursor⟩
    registry.completions).map (placeCompletion document cursor)

/-- The diagnostics of a document; a document without lines has none. -/
def diagnosticsOf (registry : Registry Context) (context : Context) (document : Document) :
    List Placed :=
  if document.lines.isEmpty then []
  else
    (registry.diagnostics.flatMap fun registered =>
      Registered.diagnose registered context ⟨document.lines, none⟩).map (·.place document)

/-- The diagnostics of a document, and their announcement if somebody listens. -/
def runDiagnostics (registry : Registry Context) (context : Context) (document : Document) :
    List Placed × List Announcement :=
  let placed := registry.diagnosticsOf context document
  (placed, if registry.announces then [⟨document.uri, placed⟩] else [])

end Registry

end Orthography
