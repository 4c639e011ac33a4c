import Mathlib.Data.List.Forall2
import Mathlib.Data.List.ProdSigma
import Orthography.Proofs.Analyzer.Registration

/-!
# Breakdowns are isolated

A request calls analyzers one after the other, and each call contributes a part of the result.  An
analyzer that breaks down contributes nothing to actions and completions and one report to
diagnostics (`Registry.ActionPart`, `Registry.CompletionPart`, `Registry.DiagnosticPart`).  The
result is made of these parts in the order of the calls, so that no part depends on what the other
analyzers do (`Registry.breakdowns_isolated`).

This needs the shape of the analyzers: in a registry that is reached by calls, every analyzer has the
shape of its kind (`Registry.WellKept`), and none is passed over.  Completions may stop at the first
part that is not empty; the induction is over the analyzers that are left
(`Registry.completionRun_of_shape`).
-/

namespace Orthography

set_option autoImplicit false

namespace Registry

variable {Context : Type}

/-! ## Parts -/

/-- What an analyzer contributes to the diagnostics of a document: its suggestions in their places,
or one error at the start of the document that names it. -/
inductive DiagnosticPart (context : Context) (document : Document)
    (registered : Registered Context) : List Placed → Prop where
  | answered {run : Context → View → Answer} {suggestions : List Suggestion}
      (analyzer : registered.analyzer = .document run)
      (answer : run context ⟨document.lines, none⟩ = .ok suggestions) :
      DiagnosticPart context document registered (suggestions.map (·.place document))
  | reported {run : Context → View → Answer} {breakdown : Breakdown}
      (analyzer : registered.analyzer = .document run)
      (answer : run context ⟨document.lines, none⟩ = .error breakdown) :
      DiagnosticPart context document registered
        [⟨{ message := "Analyzer '" ++ registered.name ++ "' failed: " ++ breakdown.message
            source := registered.name
            severity := .error },
          ⟨⟨0, 0⟩, ⟨0, 0⟩⟩⟩]

/-- What a call of an analyzer for a line contributes to the actions: its suggestions in their places
on this line, or nothing if it breaks down. -/
inductive ActionPart (context : Context) (document : Document) (index : Nat)
    (registered : Registered Context) : List Placed → Prop where
  | answered {run : Context → String → Answer} {line : String} {suggestions : List Suggestion}
      (analyzer : registered.analyzer = .line run) (here : document.line? index = some line)
      (answer : run context line = .ok suggestions) :
      ActionPart context document index registered
        (suggestions.map fun suggestion => { suggestion with line := some index }.place document)
  | brokeDown {run : Context → String → Answer} {line : String} {breakdown : Breakdown}
      (analyzer : registered.analyzer = .line run) (here : document.line? index = some line)
      (answer : run context line = .error breakdown) :
      ActionPart context document index registered []

/-- What an analyzer contributes to the completions at a cursor: its suggestions in their places, or
nothing if it breaks down. -/
inductive CompletionPart (context : Context) (document : Document) (cursor : Position)
    (registered : Registered Context) : List Placed → Prop where
  | answered {run : Context → View → Answer} {suggestions : List Suggestion}
      (analyzer : registered.analyzer = .document run)
      (answer : run context ⟨document.lines, some cursor⟩ = .ok suggestions) :
      CompletionPart context document cursor registered
        (suggestions.map (placeCompletion document cursor))
  | brokeDown {run : Context → View → Answer} {breakdown : Breakdown}
      (analyzer : registered.analyzer = .document run)
      (answer : run context ⟨document.lines, some cursor⟩ = .error breakdown) :
      CompletionPart context document cursor registered []

/-- Results that calls contribute one by one, put together in their order. -/
def MadeOf {α β : Type} (contributes : α → List β → Prop) (calls : List α) (result : List β) :
    Prop :=
  ∃ parts, List.Forall₂ contributes calls parts ∧ result = parts.flatten

/-- What is put together call by call is made of what the calls contribute. -/
theorem madeOf_flatMap {α β : Type} {contributes : α → List β → Prop} {part : α → List β}
    {calls : List α} (each : ∀ call ∈ calls, contributes call (part call)) :
    MadeOf contributes calls (calls.flatMap part) :=
  ⟨calls.map part, List.forall₂_map_right_iff.mpr (List.forall₂_same.mpr each), rfl⟩

/-! ## Shapes -/

theorem exists_line_of_shape {analyzer : Analyzer Context} (shape : analyzer.shape = .line) :
    ∃ run, analyzer = .line run := by
  cases analyzer with
  | line run => exact ⟨run, rfl⟩
  | document run => cases shape

theorem exists_document_of_shape {analyzer : Analyzer Context}
    (shape : analyzer.shape = .document) : ∃ run, analyzer = .document run := by
  cases analyzer with
  | line run => cases shape
  | document run => exact ⟨run, rfl⟩

variable {context : Context} {document : Document} {registered : Registered Context}

theorem diagnosticPart_of_shape (shape : registered.analyzer.shape = .document) :
    DiagnosticPart context document registered
      ((Registered.diagnose registered context ⟨document.lines, none⟩).map (·.place document)) := by
  obtain ⟨run, analyzer⟩ := exists_document_of_shape shape
  rw [Registered.diagnose, analyzer]
  cases answer : run context ⟨document.lines, none⟩ with
  | ok suggestions => simpa only [answer] using .answered analyzer answer
  | error breakdown => simpa only [answer] using .reported analyzer answer

theorem actionPart_of_shape (shape : registered.analyzer.shape = .line) {index : Nat}
    {line : String} (here : document.line? index = some line) :
    ActionPart context document index registered
      ((Registered.onLine registered context line).map fun suggestion =>
        { suggestion with line := some index }.place document) := by
  obtain ⟨run, analyzer⟩ := exists_line_of_shape shape
  rw [Registered.onLine, analyzer]
  cases answer : run context line with
  | ok suggestions => simpa only [answer] using .answered analyzer here answer
  | error breakdown => simpa only [answer] using .brokeDown analyzer here answer

theorem completionPart_of_shape (shape : registered.analyzer.shape = .document)
    {cursor : Position} :
    CompletionPart context document cursor registered
      ((Registered.onDocument registered context ⟨document.lines, some cursor⟩).map
        (placeCompletion document cursor)) := by
  obtain ⟨run, analyzer⟩ := exists_document_of_shape shape
  rw [Registered.onDocument, analyzer]
  cases answer : run context ⟨document.lines, some cursor⟩ with
  | ok suggestions => simpa only [answer] using .answered analyzer answer
  | error breakdown => simpa only [answer] using .brokeDown analyzer answer

/-! ## Actions -/

/-- The numbers of the lines of a document that lie between two numbers, both included. -/
def linesBetween (document : Document) (first last : Nat) : List Nat :=
  (List.range document.lines.length).filter fun index => first ≤ index && index ≤ last

/-- The calls for actions: line by line, and for each line in the order of the registration. -/
def actionCalls (registry : Registry Context) (document : Document) (first last : Nat) :
    List (Nat × Registered Context) :=
  (linesBetween document first last).product registry.actions

/-- The lines between two numbers are those from the first number on, up to the last line. -/
theorem linesBetween_eq {first last : Nat} (filled : document.lines ≠ []) :
    linesBetween document first last =
      numbers first (min last (document.lines.length - 1)) := by
  have positive : 0 < document.lines.length := List.length_pos_iff.mpr filled
  unfold linesBetween numbers
  refine List.Perm.eq_of_pairwise
    (fun _ _ _ _ less greater => absurd (Nat.lt_trans less greater) (Nat.lt_irrefl _))
    (List.pairwise_lt_range.filter _) List.pairwise_lt_range' ?_
  refine (List.perm_ext_iff_of_nodup (List.nodup_range.filter _) List.nodup_range').mpr
    fun index => ?_
  simp only [List.mem_filter, List.mem_range, List.mem_range'_1, Bool.and_eq_true,
    decide_eq_true_eq]
  omega

/-- The actions are put together call by call. -/
theorem runActions_eq_flatMap (registry : Registry Context) (context : Context)
    (document : Document) (first last : Nat) :
    registry.runActions context document first last =
      (registry.actionCalls document first last).flatMap fun call =>
        match document.line? call.1 with
        | some line =>
          (Registered.onLine call.2 context line).map fun suggestion =>
            { suggestion with line := some call.1 }.place document
        | none => [] := by
  by_cases filled : document.lines = []
  · have none (index : Nat) : document.line? index = none := by
      rw [Document.line?, filled, List.getElem?_nil]
    simp [runActions, actionCalls, linesBetween, none, filled, List.product]
  · rw [runActions, actionCalls, linesBetween_eq filled, List.product, List.flatMap_assoc]
    refine List.flatMap_congr fun index _ => ?_
    rw [List.flatMap_map]
    cases here : document.line? index with
    | none => simp [here]
    | some line =>
      simp only [here]
      rfl

/-- **The actions are made of what the calls contribute.** -/
theorem madeOf_runActions {registry : Registry Context} (kept : registry.WellKept)
    (context : Context) (document : Document) (first last : Nat) :
    MadeOf (fun call => ActionPart context document call.1 call.2)
      (registry.actionCalls document first last)
      (registry.runActions context document first last) := by
  rw [runActions_eq_flatMap]
  refine madeOf_flatMap fun call member => ?_
  obtain ⟨number, known⟩ := List.pair_mem_product.mp member
  have inside : call.1 < document.lines.length :=
    List.mem_range.mp (List.mem_filter.mp number).1
  have here : document.line? call.1 = some document.lines[call.1] :=
    List.getElem?_eq_getElem inside
  simp only [here]
  exact actionPart_of_shape (kept.shaped .action call.2 known) here

/-! ## Completions -/

/-- A run of analyzers for completions: one after the other contributes its part.  If only the first
completions count, the run stops at the first part that is not empty. -/
inductive CompletionRun (firstOnly : Bool) (context : Context) (document : Document)
    (cursor : Position) : List (Registered Context) → List Placed → Prop where
  | finished : CompletionRun firstOnly context document cursor [] []
  | stopped {registered : Registered Context} {rest : List (Registered Context)}
      {part : List Placed} (contributed : CompletionPart context document cursor registered part)
      (first : firstOnly = true) (filled : part ≠ []) :
      CompletionRun firstOnly context document cursor (registered :: rest) part
  | next {registered : Registered Context} {rest : List (Registered Context)}
      {part others : List Placed}
      (contributed : CompletionPart context document cursor registered part)
      (goesOn : firstOnly = true → part = [])
      (run : CompletionRun firstOnly context document cursor rest others) :
      CompletionRun firstOnly context document cursor (registered :: rest) (part ++ others)

/-- The completions of analyzers of the right shape are those of a run. -/
theorem completionRun_of_shape {analyzers : List (Registered Context)}
    (shaped : ∀ registered ∈ analyzers, registered.analyzer.shape = .document) (firstOnly : Bool)
    (context : Context) (document : Document) (cursor : Position) :
    CompletionRun firstOnly context document cursor analyzers
      ((completionsOf firstOnly context ⟨document.lines, some cursor⟩ analyzers).map
        (placeCompletion document cursor)) := by
  induction analyzers with
  | nil => exact .finished
  | cons registered rest ih =>
    have contributed : CompletionPart context document cursor registered
        ((Registered.onDocument registered context ⟨document.lines, some cursor⟩).map
          (placeCompletion document cursor)) :=
      completionPart_of_shape (shaped registered List.mem_cons_self)
    rw [completionsOf]
    split
    · next stops =>
      obtain ⟨first, filled⟩ := Bool.and_eq_true_iff.mp stops
      refine .stopped contributed first fun none => ?_
      rw [List.map_eq_nil_iff] at none
      simp [none] at filled
    · next goesOn =>
      rw [List.map_append]
      refine .next contributed (fun first => ?_)
        (ih fun other member => shaped other (List.mem_cons_of_mem _ member))
      simpa [first] using goesOn

/-! ## Silence -/

/-- An analyzer that has nothing to say where another one breaks down. -/
def silenced : Analyzer Context → Analyzer Context
  | .line run => .line fun context line => .ok ((run context line).toOption.getD [])
  | .document run => .document fun context view => .ok ((run context view).toOption.getD [])

/-- The registry with all analyzers silenced. -/
def silencedAll (registry : Registry Context) : Registry Context :=
  let quiet (registered : Registered Context) : Registered Context :=
    { registered with analyzer := silenced registered.analyzer }
  { registry with
    actions := registry.actions.map quiet
    completions := registry.completions.map quiet
    diagnostics := registry.diagnostics.map quiet }

/-- A breakdown for a line counts as silence. -/
theorem onLine_silenced (registered : Registered Context) (context : Context) (line : String) :
    Registered.onLine { registered with analyzer := silenced registered.analyzer } context line =
      Registered.onLine registered context line := by
  unfold Registered.onLine
  cases registered.analyzer with
  | line run => cases answer : run context line <;> simp [silenced, answer, Except.toOption]
  | document run => rfl

/-- A breakdown for a document counts as silence. -/
theorem onDocument_silenced (registered : Registered Context) (context : Context) (view : View) :
    Registered.onDocument { registered with analyzer := silenced registered.analyzer } context view =
      Registered.onDocument registered context view := by
  unfold Registered.onDocument
  cases registered.analyzer with
  | line run => rfl
  | document run => cases answer : run context view <;> simp [silenced, answer, Except.toOption]

/-- Actions do not tell breakdowns from silence. -/
theorem runActions_silencedAll (registry : Registry Context) (context : Context)
    (document : Document) (first last : Nat) :
    registry.silencedAll.runActions context document first last =
      registry.runActions context document first last := by
  unfold runActions
  refine List.flatMap_congr fun index _ => ?_
  split
  · simp only [actionsOnLine, silencedAll, List.flatMap_map, onLine_silenced]
  · rfl

/-- Completions do not tell breakdowns from silence. -/
theorem runCompletions_silencedAll (registry : Registry Context) (context : Context)
    (document : Document) (cursor : Position) :
    registry.silencedAll.runCompletions context document cursor =
      registry.runCompletions context document cursor := by
  have same (firstOnly : Bool) (view : View) (analyzers : List (Registered Context)) :
      completionsOf firstOnly context view (analyzers.map fun registered =>
        { registered with analyzer := silenced registered.analyzer }) =
          completionsOf firstOnly context view analyzers := by
    induction analyzers with
    | nil => rfl
    | cons registered rest ih =>
      rw [List.map_cons, completionsOf, completionsOf, onDocument_silenced, ih]
  simp only [runCompletions, silencedAll, same]

/-! ## Isolation -/

/-- What the requests to a registry make of the answers of its analyzers. -/
structure Isolates (registry : Registry Context) (context : Context) (document : Document) :
    Prop where
  /-- Every analyzer contributes its own part to the diagnostics, in the order of registration. -/
  diagnostics : document.lines ≠ [] →
    MadeOf (DiagnosticPart context document) registry.diagnostics
      (registry.runDiagnostics context document).1
  /-- A document without lines has no diagnostics, whatever its analyzers would answer. -/
  empty : document.lines = [] → ∀ analyzers,
    ({ registry with diagnostics := analyzers }.runDiagnostics context document).1 = []
  /-- If somebody listens, the diagnostics are announced once, as they are returned. -/
  announced : (registry.runDiagnostics context document).2 =
    if registry.announces then [⟨document.uri, (registry.runDiagnostics context document).1⟩]
    else []
  /-- Whether somebody listens makes no difference to actions and completions. -/
  unheard : ∀ listening, let other := { registry with announces := listening }
    (∀ first last, other.runActions context document first last =
      registry.runActions context document first last) ∧
    ∀ cursor, other.runCompletions context document cursor =
      registry.runCompletions context document cursor
  /-- Every call contributes its own part to the actions, line by line. -/
  actions : ∀ first last,
    MadeOf (fun call => ActionPart context document call.1 call.2)
      (registry.actionCalls document first last)
      (registry.runActions context document first last)
  /-- Every analyzer up to the last one that is called contributes its own part to the
  completions. -/
  completions : ∀ cursor,
    CompletionRun registry.firstCompletionsOnly context document cursor registry.completions
      (registry.runCompletions context document cursor)
  /-- Breakdowns count as silence for actions. -/
  actions_silenced : ∀ first last,
    registry.runActions context document first last =
      registry.silencedAll.runActions context document first last
  /-- Breakdowns count as silence for completions. -/
  completions_silenced : ∀ cursor,
    registry.runCompletions context document cursor =
      registry.silencedAll.runCompletions context document cursor

/-- **Breakdowns are isolated.**  In every registry that is reached by calls, whichever of its
analyzers break down on whatever they are called for, a request gives what the other analyzers
contribute, in order, as if those that broke down had been silent; diagnostics report each of them
with one error. -/
theorem breakdowns_isolated (changes : List (Change Context)) (context : Context)
    (document : Document) :
    Isolates ((blank : Registry Context).afterChanges changes) context document := by
  have kept := wellKept_blank.afterChanges changes
  refine ⟨fun filled => ?_, fun none analyzers => ?_, rfl, fun _ => ⟨fun _ _ => rfl, fun _ => rfl⟩,
    madeOf_runActions kept context document, fun cursor => ?_, fun first last => ?_,
    fun cursor => ?_⟩
  · show MadeOf _ _ (diagnosticsOf _ context document)
    rw [diagnosticsOf, if_neg (by simpa using filled), List.map_flatMap]
    exact madeOf_flatMap fun registered member =>
      diagnosticPart_of_shape (kept.shaped .diagnostic registered member)
  · show diagnosticsOf _ context document = []
    rw [diagnosticsOf, if_pos (by simpa using none)]
  · exact completionRun_of_shape (kept.shaped .completion) _ context document cursor
  · exact (runActions_silencedAll _ context document first last).symm
  · exact (runCompletions_silencedAll _ context document cursor).symm

end Registry

end Orthography
