import Orthography.Proofs.Analyzer.Isolation

/-!
# The first completions only

A run of completions can stop at the first analyzer that has some.  Analyzers that break down and
analyzers that have none are passed over, and the run gives what the first one that succeeds with some
suggestions contributes (`Registry.completionsOf_of_firstToSucceed`), or nothing if there is no such one
(`Registry.completionsOf_of_none_succeeds`).

A run that does not stop gives what all of them contribute, in the order of their registration.  So a run
that stops gives a first part of it, and this part is empty only if the whole is
(`Registry.first_completions_cut`).
-/

namespace Orthography

set_option autoImplicit false

namespace Registry

variable {Context : Type} {context : Context} {view : View}
  {registered : Registered Context} {analyzers : List (Registered Context)}
  {suggestions : List Suggestion}

/-! ## Success -/

/-- An analyzer of documents answers with suggestions, and with at least one. -/
def Succeeds (context : Context) (view : View) (registered : Registered Context)
    (suggestions : List Suggestion) : Prop :=
  suggestions ≠ [] ∧
    ∃ run, registered.analyzer = .document run ∧ run context view = .ok suggestions

/-- No analyzer succeeds. -/
def NoneSucceeds (context : Context) (view : View) (analyzers : List (Registered Context)) : Prop :=
  ∀ registered ∈ analyzers, ∀ suggestions, ¬ Succeeds context view registered suggestions

/-- The first analyzer that succeeds answers with these suggestions. -/
def FirstToSucceed (context : Context) (view : View) (analyzers : List (Registered Context))
    (suggestions : List Suggestion) : Prop :=
  ∃ before registered after, analyzers = before ++ registered :: after ∧
    NoneSucceeds context view before ∧ Succeeds context view registered suggestions

/-- What an analyzer that succeeds has to say. -/
theorem Succeeds.onDocument_eq (succeeds : Succeeds context view registered suggestions) :
    Registered.onDocument registered context view = suggestions := by
  obtain ⟨-, run, analyzer, answer⟩ := succeeds
  rw [Registered.onDocument, analyzer]
  simp only [answer]

/-- An analyzer has something to say only if it succeeds with it. -/
theorem succeeds_onDocument (filled : Registered.onDocument registered context view ≠ []) :
    Succeeds context view registered (Registered.onDocument registered context view) := by
  refine ⟨filled, ?_⟩
  rw [Registered.onDocument] at filled ⊢
  cases analyzer : registered.analyzer with
  | line run => simp [analyzer] at filled
  | document run =>
    cases answer : run context view with
    | ok suggestions => exact ⟨run, rfl, by simp [answer]⟩
    | error breakdown => simp [analyzer, answer] at filled

theorem onDocument_eq_nil_iff :
    Registered.onDocument registered context view = [] ↔
      ∀ suggestions, ¬ Succeeds context view registered suggestions := by
  constructor
  · intro silent suggestions succeeds
    exact succeeds.1 (succeeds.onDocument_eq.symm.trans silent)
  · intro fails
    by_contra filled
    exact fails _ (succeeds_onDocument filled)

/-! ## Runs that stop -/

/-- An analyzer with nothing to say is passed over. -/
theorem completionsOf_cons_of_silent {firstOnly : Bool}
    (silent : Registered.onDocument registered context view = []) :
    completionsOf firstOnly context view (registered :: analyzers) =
      completionsOf firstOnly context view analyzers := by
  simp [completionsOf, silent]

/-- A run that stops does so at the first analyzer with something to say. -/
theorem completionsOf_cons_of_filled
    (filled : Registered.onDocument registered context view ≠ []) :
    completionsOf true context view (registered :: analyzers) =
      Registered.onDocument registered context view := by
  simp [completionsOf, filled]

theorem completionsOf_of_none_succeeds {firstOnly : Bool}
    (none : NoneSucceeds context view analyzers) :
    completionsOf firstOnly context view analyzers = [] := by
  induction analyzers with
  | nil => rfl
  | cons registered rest ih =>
    obtain ⟨first, others⟩ := List.forall_mem_cons.mp none
    rw [completionsOf_cons_of_silent (onDocument_eq_nil_iff.mpr first), ih others]

/-- **A run that stops gives what the first analyzer that succeeds contributes.** -/
theorem completionsOf_of_firstToSucceed
    (first : FirstToSucceed context view analyzers suggestions) :
    completionsOf true context view analyzers = suggestions := by
  obtain ⟨before, registered, after, rfl, none, succeeds⟩ := first
  induction before with
  | nil =>
    have filled := succeeds.onDocument_eq ▸ succeeds.1
    rw [List.nil_append, completionsOf_cons_of_filled filled, succeeds.onDocument_eq]
  | cons other rest ih =>
    obtain ⟨silent, others⟩ := List.forall_mem_cons.mp none
    rw [List.cons_append, completionsOf_cons_of_silent (onDocument_eq_nil_iff.mpr silent), ih others]

/-- Either some analyzer is the first one to succeed, or none does. -/
theorem exists_firstToSucceed_or (context : Context) (view : View)
    (analyzers : List (Registered Context)) :
    (∃ suggestions, FirstToSucceed context view analyzers suggestions) ∨
      NoneSucceeds context view analyzers := by
  induction analyzers with
  | nil => exact Or.inr fun _ member => absurd member List.not_mem_nil
  | cons registered rest ih =>
    by_cases silent : Registered.onDocument registered context view = []
    · have fails := onDocument_eq_nil_iff.mp silent
      rcases ih with ⟨suggestions, before, other, after, rfl, none, succeeds⟩ | none
      · exact Or.inl ⟨suggestions, registered :: before, other, after, rfl,
          List.forall_mem_cons.mpr ⟨fails, none⟩, succeeds⟩
      · exact Or.inr (List.forall_mem_cons.mpr ⟨fails, none⟩)
    · exact Or.inl ⟨_, [], registered, rest, rfl, fun _ member => absurd member List.not_mem_nil,
        succeeds_onDocument silent⟩

/-! ## Runs that go on -/

/-- **A run that does not stop gives what all analyzers contribute.** -/
theorem completionsOf_false (context : Context) (view : View)
    (analyzers : List (Registered Context)) :
    completionsOf false context view analyzers =
      analyzers.flatMap fun registered => Registered.onDocument registered context view := by
  induction analyzers with
  | nil => rfl
  | cons registered rest ih => rw [completionsOf, ih]; rfl

/-- A run that stops gives a first part of one that does not. -/
theorem completionsOf_isPrefix (context : Context) (view : View)
    (analyzers : List (Registered Context)) :
    completionsOf true context view analyzers <+: completionsOf false context view analyzers := by
  induction analyzers with
  | nil => exact List.prefix_rfl
  | cons registered rest ih =>
    by_cases silent : Registered.onDocument registered context view = []
    · rwa [completionsOf_cons_of_silent silent, completionsOf_cons_of_silent silent]
    · rw [completionsOf_cons_of_filled silent, completionsOf_false, List.flatMap_cons]
      exact List.prefix_append _ _

/-- Whether a run stops or not, it gives something exactly if some analyzer succeeds. -/
theorem completionsOf_eq_nil_iff (firstOnly : Bool) :
    completionsOf firstOnly context view analyzers = [] ↔ NoneSucceeds context view analyzers := by
  refine ⟨fun empty => ?_, completionsOf_of_none_succeeds⟩
  induction analyzers with
  | nil => exact fun _ member => absurd member List.not_mem_nil
  | cons registered rest ih =>
    have silent : Registered.onDocument registered context view = [] := by
      by_contra filled
      cases firstOnly with
      | true => exact filled (completionsOf_cons_of_filled filled ▸ empty)
      | false =>
        rw [completionsOf_false, List.flatMap_cons] at empty
        exact filled (List.append_eq_nil_iff.mp empty).1
    rw [completionsOf_cons_of_silent silent] at empty
    exact List.forall_mem_cons.mpr ⟨onDocument_eq_nil_iff.mp silent, ih empty⟩

/-! ## Places -/

/-- A completion without a line of its own is placed at the cursor, and one with a line where other
suggestions for this line are. -/
theorem range_placeCompletion (document : Document) (cursor : Position) (suggestion : Suggestion) :
    let placed := placeCompletion document cursor suggestion
    (placed.suggestion.line = none → placed.range = ⟨cursor, cursor⟩) ∧
      ∀ line, placed.suggestion.line = some line →
        placed.range = placed.suggestion.range document := by
  simp only [placeCompletion]
  split
  · next named =>
    refine ⟨fun unnamed => ?_, fun line _ => rfl⟩
    rw [Suggestion.place] at unnamed
    rw [unnamed] at named
    cases named
  · next unnamed =>
    refine ⟨fun _ => rfl, fun line named => ?_⟩
    exact absurd (Option.isSome_of_eq_some named) unnamed

/-! ## Stopping early -/

/-- **To stop early only cuts.**

* A run that stops gives exactly what the first analyzer in the order of registration contributes that
  succeeds with some suggestions, and nothing if there is none.
* A run that does not stop gives what all analyzers contribute.  The other one gives a first part of it,
  which is empty exactly when the whole is.
* In both runs a suggestion without a line of its own is placed at the cursor as an empty range, and one
  with a line is placed on this line. -/
theorem first_completions_cut (registry : Registry Context) (context : Context)
    (document : Document) (cursor : Position) :
    let view : View := ⟨document.lines, some cursor⟩
    let run (firstOnly : Bool) :=
      { registry with firstCompletionsOnly := firstOnly }.runCompletions context document cursor
    ((∃ suggestions, FirstToSucceed context view registry.completions suggestions ∧
          run true = suggestions.map (placeCompletion document cursor)) ∨
        NoneSucceeds context view registry.completions ∧ run true = []) ∧
      (run false = registry.completions.flatMap fun registered =>
        (Registered.onDocument registered context view).map (placeCompletion document cursor)) ∧
      run true <+: run false ∧ (run true = [] ↔ run false = []) ∧
      ∀ firstOnly, ∀ placed ∈ run firstOnly,
        (placed.suggestion.line = none → placed.range = ⟨cursor, cursor⟩) ∧
          ∀ line, placed.suggestion.line = some line →
            placed.range = placed.suggestion.range document := by
  intro view run
  have placed (firstOnly : Bool) : run firstOnly =
      (completionsOf firstOnly context view registry.completions).map
        (placeCompletion document cursor) := rfl
  refine ⟨?first, ?all, ?cut, ?empty, ?places⟩
  case first =>
    rw [placed]
    rcases exists_firstToSucceed_or context view registry.completions with ⟨suggestions, first⟩ | none
    · exact Or.inl ⟨suggestions, first, by rw [completionsOf_of_firstToSucceed first]⟩
    · exact Or.inr ⟨none, by rw [completionsOf_of_none_succeeds none, List.map_nil]⟩
  case all => rw [placed, completionsOf_false, List.map_flatMap]
  case cut =>
    rw [placed, placed]
    exact (completionsOf_isPrefix context view registry.completions).map _
  case empty =>
    rw [placed, placed, List.map_eq_nil_iff, List.map_eq_nil_iff, completionsOf_eq_nil_iff,
      completionsOf_eq_nil_iff]
  case places =>
    intro firstOnly completion member
    rw [placed] at member
    obtain ⟨suggestion, -, rfl⟩ := List.mem_map.mp member
    exact range_placeCompletion document cursor suggestion

/-- Four analyzers of documents: one breaks down, one has nothing to say, and two have completions, of
which one names a line. -/
def mixedCompletions : Registry Unit :=
  { completions :=
      [⟨0, "broken", none, .document fun _ _ => .error (.stopped none)⟩,
        ⟨1, "silent", none, .document fun _ _ => .ok []⟩,
        ⟨2, "first", none, .document fun _ _ =>
          .ok [{ message := "here", source := "first" },
            { message := "there", source := "first", line := some 0 }]⟩,
        ⟨3, "second", none, .document fun _ _ => .ok [{ message := "more", source := "second" }]⟩]
    nextId := 4 }

/-- The first two analyzers are passed over, the third one stops the run, and the fourth one is left
out. -/
theorem first_completions_cut_mixed :
    let document : Document := ⟨"draft", ["one", "two"]⟩
    let cursor : Position := ⟨1, 2⟩
    let run (firstOnly : Bool) :=
      { mixedCompletions with firstCompletionsOnly := firstOnly }.runCompletions () document cursor
    (∃ suggestions, FirstToSucceed () ⟨document.lines, some cursor⟩ mixedCompletions.completions
        suggestions ∧ run true = suggestions.map (placeCompletion document cursor)) ∧
      run true <+: run false ∧
      (run true).map (fun placed => (placed.suggestion.message, placed.range))
        = [("here", ⟨⟨1, 2⟩, ⟨1, 2⟩⟩), ("there", ⟨⟨0, 0⟩, ⟨0, 3⟩⟩)] ∧
      (run false).length = 3 := by
  intro document cursor run
  obtain ⟨first | ⟨-, none⟩, -, cut, -, -⟩ :=
    first_completions_cut mixedCompletions () document cursor
  · exact ⟨first, cut, by decide, by decide⟩
  · exact absurd none (by decide)

end Registry

end Orthography
