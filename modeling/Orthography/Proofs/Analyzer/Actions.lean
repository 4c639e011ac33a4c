import Mathlib.Data.List.Pairwise
import Orthography.Proofs.Analyzer.Isolation

/-!
# Actions line by line

The actions for several lines are those for the single lines, one after the other.  A range of lines
can therefore be cut anywhere, before the end of the document, at it and past it
(`Registry.runActions_append`): a number past the end has no line, and the upper bound of a range is
brought down to the last line on both sides of the cut.

What an analyzer suggests for a line gets this line as its own.  So the lines of the suggestions are
lines of the range and of the document, in ascending order (`Registry.exists_line_of_mem_runActions`,
`Registry.pairwise_runActions`).
-/

namespace Orthography

set_option autoImplicit false

namespace Registry

variable {Context : Type}

/-! ## Ranges of numbers -/

/-- A range that is brought down to a bound is cut at a number, on whichever side of the bound this
is. -/
theorem numbers_append {first middle last : Nat} (bound : Nat) (opens : first ≤ middle + 1)
    (closes : middle ≤ last) :
    numbers first (min last bound) =
      numbers first (min middle bound) ++ numbers (middle + 1) (min last bound) := by
  unfold numbers
  -- past the bound, the second part is empty and the first one is the whole
  by_cases inside : middle ≤ bound
  · have whole : min last bound + 1 - first =
        (middle + 1 - first) + (min last bound + 1 - (middle + 1)) := by omega
    have next : middle + 1 = first + (middle + 1 - first) := by omega
    rw [Nat.min_eq_left inside, whole, ← List.range'_append_1, ← next]
  · have none : min last bound + 1 - (middle + 1) = 0 := by omega
    have same : min last bound = min middle bound := by omega
    rw [none, same, List.range'_zero, List.append_nil]

theorem numbers_eq_nil {first last : Nat} (reversed : last < first) : numbers first last = [] := by
  rw [numbers, Nat.sub_eq_zero_of_le reversed, List.range'_zero]

theorem pairwise_numbers (first last : Nat) : (numbers first last).Pairwise (· < ·) :=
  List.pairwise_lt_range'

/-! ## Parts of a run -/

variable (registry : Registry Context) (context : Context) (document : Document)

/-- The actions for the line of a number; nothing if there is no such line. -/
def actionsAt (index : Nat) : List Placed :=
  match document.line? index with
  | some line => registry.actionsOnLine context document index line
  | none => []

theorem runActions_eq (first last : Nat) :
    registry.runActions context document first last =
      (numbers first (min last (document.lines.length - 1))).flatMap
        (registry.actionsAt context document) :=
  rfl

/-- **The actions for a range are those for its parts**, one after the other. -/
theorem runActions_append {first middle last : Nat} (opens : first ≤ middle + 1)
    (closes : middle ≤ last) :
    registry.runActions context document first last =
      registry.runActions context document first middle ++
        registry.runActions context document (middle + 1) last := by
  rw [runActions_eq, runActions_eq, runActions_eq, ← List.flatMap_append,
    ← numbers_append _ opens closes]

/-- The actions for a single line. -/
theorem runActions_self {index : Nat} {line : String} (here : document.line? index = some line) :
    registry.runActions context document index index =
      registry.actionsOnLine context document index line := by
  have inside : index < document.lines.length := (List.getElem?_eq_some_iff.mp here).1
  have kept : min index (document.lines.length - 1) = index := by omega
  rw [runActions_eq, kept, numbers, Nat.add_sub_cancel_left, List.range'_one, List.flatMap_singleton,
    actionsAt, here]

/-- A range has no actions if it is reversed or starts past the end of the document. -/
theorem runActions_eq_nil {first last : Nat}
    (outside : last < first ∨ document.lines.length ≤ first) :
    registry.runActions context document first last = [] := by
  rw [runActions_eq, List.flatMap_eq_nil_iff]
  intro index member
  rcases outside with reversed | beyond
  · rw [numbers_eq_nil (by omega)] at member
    cases member
  · -- the only line number that is left in an empty document has no line
    have past : document.line? index = none := by
      rw [Document.line?, List.getElem?_eq_none_iff]
      have range := List.mem_range'_1.mp member
      omega
    rw [actionsAt, past]

/-! ## Lines of suggestions -/

variable {registry context document}

/-- A suggestion for a line has this line as its own, which is one of the document. -/
theorem line_of_mem_actionsAt {index : Nat} {placed : Placed}
    (member : placed ∈ registry.actionsAt context document index) :
    placed.suggestion.line = some index ∧ index < document.lines.length := by
  cases here : document.line? index with
  | none =>
    rw [actionsAt, here] at member
    cases member
  | some line =>
    rw [actionsAt, here] at member
    obtain ⟨registered, -, suggested⟩ := List.mem_flatMap.mp member
    obtain ⟨suggestion, -, rfl⟩ := List.mem_map.mp suggested
    exact ⟨rfl, (List.getElem?_eq_some_iff.mp here).1⟩

/-- The line of a suggestion is one of the range and of the document. -/
theorem exists_line_of_mem_runActions {first last : Nat} {placed : Placed}
    (member : placed ∈ registry.runActions context document first last) :
    ∃ line, placed.suggestion.line = some line ∧ first ≤ line ∧ line ≤ last ∧
      line < document.lines.length := by
  obtain ⟨index, number, here⟩ := List.mem_flatMap.mp member
  obtain ⟨line, inside⟩ := line_of_mem_actionsAt here
  have range := List.mem_range'_1.mp number
  exact ⟨index, line, by omega, by omega, inside⟩

/-- A suggestion is for the line of another one or for an earlier line. -/
def NotAfter (earlier later : Placed) : Prop :=
  ∀ one other, earlier.suggestion.line = some one → later.suggestion.line = some other → one ≤ other

theorem notAfter_of_mem {index next : Nat} (ordered : index ≤ next) {earlier later : Placed}
    (here : earlier ∈ registry.actionsAt context document index)
    (there : later ∈ registry.actionsAt context document next) : NotAfter earlier later := by
  intro one other line line'
  obtain rfl : one = index := Option.some.inj (line.symm.trans (line_of_mem_actionsAt here).1)
  obtain rfl : other = next := Option.some.inj (line'.symm.trans (line_of_mem_actionsAt there).1)
  exact ordered

/-- The lines of the suggestions ascend. -/
theorem pairwise_runActions (registry : Registry Context) (context : Context) (document : Document)
    (first last : Nat) :
    (registry.runActions context document first last).Pairwise NotAfter := by
  rw [runActions_eq, List.pairwise_flatMap]
  constructor
  · intro index _
    exact List.pairwise_of_forall_mem_list fun _ here _ there =>
      notAfter_of_mem (Nat.le_refl index) here there
  · refine (pairwise_numbers _ _).imp fun ascend => ?_
    intro _ here _ there
    exact notAfter_of_mem (Nat.le_of_lt ascend) here there

/-! ## Ranges of lines -/

/-- **Actions are additive over ranges of lines**, wherever the document ends and whichever analyzers
break down.

* The actions for a range are those for its first lines, followed by those for the other ones; for a
  single line they are what the analyzers suggest for it.
* Every suggestion is for a line of the range that exists, and the lines ascend.
* A range that is reversed or starts past the end has no actions. -/
theorem actions_additive (registry : Registry Context) (context : Context) (document : Document) :
    (∀ first middle last, first ≤ middle → middle < last →
        registry.runActions context document first last =
          registry.runActions context document first middle ++
            registry.runActions context document (middle + 1) last) ∧
      (∀ index line, document.line? index = some line →
        registry.runActions context document index index =
          registry.actionsOnLine context document index line) ∧
      (∀ first last,
        (∀ placed ∈ registry.runActions context document first last, ∃ line,
          placed.suggestion.line = some line ∧ first ≤ line ∧ line ≤ last ∧
            line < document.lines.length) ∧
          (registry.runActions context document first last).Pairwise NotAfter) ∧
      ∀ first last, last < first ∨ document.lines.length ≤ first →
        registry.runActions context document first last = [] := by
  refine ⟨?additive, ?single, ?lines, ?outside⟩
  case additive =>
    intro first middle last opens closes
    exact runActions_append registry context document (Nat.le_succ_of_le opens)
      (Nat.le_of_lt closes)
  case single => exact fun index line here => runActions_self registry context document here
  case lines =>
    intro first last
    exact ⟨fun placed member => exists_line_of_mem_runActions member,
      pairwise_runActions registry context document first last⟩
  case outside =>
    exact fun first last outside => runActions_eq_nil registry context document outside

/-- Two analyzers of lines, of which the first one breaks down. -/
def brokenAndEcho : Registry Unit :=
  { actions :=
      [⟨0, "broken", none, .line fun _ _ => .error (.stopped none)⟩,
        ⟨1, "echo", none, .line fun _ line => .ok [{ message := line, source := "echo" }]⟩]
    nextId := 2 }

/-- A document of two lines is asked for eight, which are cut behind the first line. -/
theorem actions_additive_pastEnd :
    let run := brokenAndEcho.runActions () ⟨"draft", ["one", "two"]⟩
    (0 ≤ 0 ∧ 0 < 7) ∧ run 0 7 = run 0 0 ++ run 1 7 ∧
      (run 0 7).map (fun placed => (placed.suggestion.message, placed.suggestion.line))
        = [("one", some 0), ("two", some 1)] ∧
      (run 0 7).Pairwise NotAfter ∧ run 2 7 = [] := by
  intro run
  obtain ⟨additive, -, lines, outside⟩ :=
    actions_additive brokenAndEcho () ⟨"draft", ["one", "two"]⟩
  have opens : 0 ≤ 0 := by decide
  have closes : 0 < 7 := by decide
  exact ⟨⟨opens, closes⟩, additive 0 0 7 opens closes, by decide, (lines 0 7).2,
    outside 2 7 (Or.inr (by decide))⟩

end Registry

end Orthography
