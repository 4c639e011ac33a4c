import Mathlib.Data.List.Pairwise
import Orthography.Analyzer.Registry
import Orthography.Proofs.Word.Edges

/-!
# The registry over time

A registry starts without analyzers and is changed by a sequence of calls: analyzers are registered
and taken out again, and the owner decides whether only the first completions count and whether
somebody listens (`Registry.Change`, `Registry.afterChanges`).

**Invariant.**  The analyzers of a kind stand in the order of their numbers, with different names
that are not blank and with the shape of their kind.  No number is in use twice, and all of them have
been given out before (`Registry.WellKept`).  A registration keeps this because its number is the
next one (`Registry.WellKept.add`), and taking analyzers out keeps it because every part of the
invariant is about all pairs of analyzers (`Registry.WellKept.setSlot`).

The number of a handle is never given out again.  So an analyzer stays until its own handle is used,
whatever else happens (`Registry.mem_slot_afterChanges`), and a handle that was used is of no effect
from then on (`Registry.SpentHandle.afterChanges`).
-/

namespace Orthography

set_option autoImplicit false

namespace Registry

variable {Context : Type}

/-! ## Changes -/

/-- A call that changes a registry. -/
inductive Change (Context : Type) where
  | register (kind : AnalyzerKind) (analyzer : Analyzer Context) (name : String)
      (description : Option String)
  | unregister (handle : AnalyzerHandle)
  | stopAtFirstCompletions (enabled : Bool)
  | listen (enabled : Bool)

/-- The registry after a call.  A registration that is refused leaves the registry as it is. -/
def perform (registry : Registry Context) : Change Context → Registry Context
  | .register kind analyzer name description =>
    match registry.register kind analyzer name description with
    | .ok (_, extended) => extended
    | .error _ => registry
  | .unregister handle => (registry.unregister handle).2
  | .stopAtFirstCompletions enabled => { registry with firstCompletionsOnly := enabled }
  | .listen enabled => { registry with announces := enabled }

/-- The registry after some calls. -/
def afterChanges (registry : Registry Context) (changes : List (Change Context)) :
    Registry Context :=
  changes.foldl perform registry

/-- A registry without analyzers, that nobody listens to. -/
def blank : Registry Context := {}

/-! ## Slots -/

@[simp] theorem slot_blank (kind : AnalyzerKind) : (blank : Registry Context).slot kind = [] := by
  cases kind <;> rfl

@[simp] theorem slot_setSlot (registry : Registry Context) (kind other : AnalyzerKind)
    (analyzers : List (Registered Context)) :
    (registry.setSlot kind analyzers).slot other =
      if other = kind then analyzers else registry.slot other := by
  cases kind <;> cases other <;> rfl

@[simp] theorem nextId_setSlot (registry : Registry Context) (kind : AnalyzerKind)
    (analyzers : List (Registered Context)) :
    (registry.setSlot kind analyzers).nextId = registry.nextId := by
  cases kind <;> rfl

/-- Analyzers replaced by themselves are the same. -/
@[simp] theorem setSlot_slot (registry : Registry Context) (kind : AnalyzerKind) :
    registry.setSlot kind (registry.slot kind) = registry := by
  cases kind <;> rfl

/-- The registry with one more analyzer of a kind, and its number used up. -/
def add (registry : Registry Context) (kind : AnalyzerKind) (registered : Registered Context) :
    Registry Context :=
  { registry.setSlot kind (registry.slot kind ++ [registered]) with nextId := registry.nextId + 1 }

@[simp] theorem slot_add (registry : Registry Context) (kind other : AnalyzerKind)
    (registered : Registered Context) :
    (registry.add kind registered).slot other =
      if other = kind then registry.slot kind ++ [registered] else registry.slot other := by
  cases kind <;> cases other <;> rfl

/-! ## Registration -/

/-- What has to be so for an analyzer to be registered under a name: the name is not blank, the shape
is that of the kind, and no analyzer of the kind has the name. -/
structure Registrable (registry : Registry Context) (kind : AnalyzerKind)
    (analyzer : Analyzer Context) (name : String) : Prop where
  named : (Word.trimmed name).isEmpty = false
  shaped : analyzer.shape = kind.shape
  free : ∀ registered ∈ registry.slot kind, registered.name ≠ name

/-- What comes of a registration. -/
inductive Registration (registry : Registry Context) (kind : AnalyzerKind)
    (analyzer : Analyzer Context) (name : String) (description : Option String) :
    Except Failure (AnalyzerHandle × Registry Context) → Prop where
  | accepted (registrable : registry.Registrable kind analyzer name) :
      Registration registry kind analyzer name description
        (.ok (⟨kind, registry.nextId⟩,
          registry.add kind ⟨registry.nextId, name, description, analyzer⟩))
  | refused {cause : Misconfiguration} (reason : registry.refusal? kind analyzer name = some cause)
      (barred : ¬ registry.Registrable kind analyzer name) :
      Registration registry kind analyzer name description (.error (.misconfigured cause))

/-- There is a cause to refuse an analyzer if it cannot be registered, and only then. -/
theorem refusal?_eq_none_iff {registry : Registry Context} {kind : AnalyzerKind}
    {analyzer : Analyzer Context} {name : String} :
    registry.refusal? kind analyzer name = none ↔ registry.Registrable kind analyzer name := by
  unfold refusal?
  constructor
  · intro none
    split at none
    · cases none
    · next named =>
      split at none
      · cases none
      · next shaped =>
        split at none
        · cases none
        · next free =>
          refine ⟨Bool.eq_false_iff.mpr named, not_not.mp shaped, ?_⟩
          intro registered member same
          exact free (List.any_eq_true.mpr ⟨registered, member, decide_eq_true same⟩)
  · rintro ⟨named, shaped, free⟩
    rw [if_neg (Bool.eq_false_iff.mp named), if_neg (not_not.mpr shaped), if_neg]
    intro taken
    obtain ⟨registered, member, same⟩ := List.any_eq_true.mp taken
    exact free registered member (of_decide_eq_true same)

/-- Every registration has one of the two outcomes. -/
theorem registration (registry : Registry Context) (kind : AnalyzerKind)
    (analyzer : Analyzer Context) (name : String) (description : Option String) :
    Registration registry kind analyzer name description
      (registry.register kind analyzer name description) := by
  unfold register
  cases reason : registry.refusal? kind analyzer name with
  | none => exact .accepted (refusal?_eq_none_iff.mp reason)
  | some cause =>
    refine .refused reason fun registrable => ?_
    rw [refusal?_eq_none_iff.mpr registrable] at reason
    cases reason

/-! ## The invariant -/

/-- What holds of the analyzers of a registry at all times. -/
structure WellKept (registry : Registry Context) : Prop where
  /-- The analyzers of a kind stand in the order of their registration. -/
  ascending : ∀ kind, (registry.slot kind).Pairwise fun first second => first.id < second.id
  /-- A name is more than white space. -/
  named : ∀ kind, ∀ registered ∈ registry.slot kind,
    ∃ c ∈ registered.name.toList, Unicode.isWhiteSpace c = false
  distinct : ∀ kind, (registry.slot kind).Pairwise fun first second => first.name ≠ second.name
  shaped : ∀ kind, ∀ registered ∈ registry.slot kind, registered.analyzer.shape = kind.shape
  /-- Analyzers of different kinds have different numbers. -/
  apart : ∀ kind other, kind ≠ other → ∀ first ∈ registry.slot kind,
    ∀ second ∈ registry.slot other, first.id ≠ second.id
  below : ∀ kind, ∀ registered ∈ registry.slot kind, registered.id < registry.nextId

theorem wellKept_blank : (blank : Registry Context).WellKept where
  ascending kind := by simp
  named kind := by simp
  distinct kind := by simp
  shaped kind := by simp
  apart kind other _ := by simp
  below kind := by simp

/-- A registration keeps the invariant: the number of the new analyzer is above all others. -/
theorem WellKept.add {registry : Registry Context} (kept : registry.WellKept)
    {kind : AnalyzerKind} {analyzer : Analyzer Context} {name : String}
    (registrable : registry.Registrable kind analyzer name) (description : Option String) :
    (registry.add kind ⟨registry.nextId, name, description, analyzer⟩).WellKept := by
  have member_add {other : AnalyzerKind} {registered : Registered Context}
      (member : registered ∈ (registry.add kind
        ⟨registry.nextId, name, description, analyzer⟩).slot other) :
      registered ∈ registry.slot other ∨
        other = kind ∧ registered = ⟨registry.nextId, name, description, analyzer⟩ := by
    rw [slot_add] at member
    split at member
    · next same =>
      subst same
      rcases List.mem_append.mp member with old | new
      · exact .inl old
      · exact .inr ⟨rfl, List.mem_singleton.mp new⟩
    · exact .inl member
  refine ⟨fun other => ?_, fun other registered member => ?_, fun other => ?_,
    fun other registered member => ?_, fun first second different one here two there => ?_,
    fun other registered member => ?_⟩
  · rw [slot_add]
    split
    · refine List.pairwise_append.mpr ⟨kept.ascending kind, List.pairwise_singleton _ _, ?_⟩
      intro old member new single
      rw [List.mem_singleton.mp single]
      exact kept.below kind old member
    · exact kept.ascending other
  · rcases member_add member with old | ⟨-, rfl⟩
    · exact kept.named other registered old
    · exact Word.exists_of_trimmed_isEmpty_eq_false registrable.named
  · rw [slot_add]
    split
    · refine List.pairwise_append.mpr ⟨kept.distinct kind, List.pairwise_singleton _ _, ?_⟩
      intro old member new single
      rw [List.mem_singleton.mp single]
      exact registrable.free old member
    · exact kept.distinct other
  · rcases member_add member with old | ⟨rfl, rfl⟩
    · exact kept.shaped other registered old
    · exact registrable.shaped
  · rcases member_add here with old | ⟨rfl, rfl⟩
    · rcases member_add there with known | ⟨rfl, rfl⟩
      · exact kept.apart first second different one old two known
      · exact Nat.ne_of_lt (kept.below first one old)
    · rcases member_add there with known | ⟨rfl, -⟩
      · exact Nat.ne_of_gt (kept.below second two known)
      · exact absurd rfl different
  · rcases member_add member with old | ⟨-, rfl⟩
    · exact Nat.lt_succ_of_lt (kept.below other registered old)
    · exact Nat.lt_succ_self _

/-- Taking analyzers out keeps the invariant. -/
theorem WellKept.setSlot {registry : Registry Context} (kept : registry.WellKept)
    {kind : AnalyzerKind} {analyzers : List (Registered Context)}
    (fewer : analyzers.Sublist (registry.slot kind)) :
    (registry.setSlot kind analyzers).WellKept := by
  have part (other : AnalyzerKind) :
      ((registry.setSlot kind analyzers).slot other).Sublist (registry.slot other) := by
    rw [slot_setSlot]
    split
    · next same => rwa [same]
    · exact List.Sublist.refl _
  refine ⟨fun other => (kept.ascending other).sublist (part other),
    fun other registered member => kept.named other registered ((part other).subset member),
    fun other => (kept.distinct other).sublist (part other),
    fun other registered member => kept.shaped other registered ((part other).subset member),
    fun first second different one here two there =>
      kept.apart first second different one ((part first).subset here) two
        ((part second).subset there),
    fun other registered member => ?_⟩
  rw [nextId_setSlot]
  exact kept.below other registered ((part other).subset member)

/-- The invariant is about the analyzers and the next number only. -/
theorem WellKept.congr {registry other : Registry Context} (kept : registry.WellKept)
    (slots : other.slot = registry.slot) (next : other.nextId = registry.nextId) :
    other.WellKept := by
  refine ⟨?_, ?_, ?_, ?_, ?_, ?_⟩ <;> rw [slots]
  · exact kept.ascending
  · exact kept.named
  · exact kept.distinct
  · exact kept.shaped
  · exact kept.apart
  · rw [next]
    exact kept.below

/-- Every call keeps the invariant. -/
theorem WellKept.perform {registry : Registry Context} (kept : registry.WellKept)
    (change : Change Context) : (registry.perform change).WellKept := by
  cases change with
  | register kind analyzer name description =>
    have outcome := registration registry kind analyzer name description
    rw [Registry.perform]
    generalize registry.register kind analyzer name description = result at outcome ⊢
    cases outcome with
    | accepted registrable => exact kept.add registrable description
    | refused => exact kept
  | unregister handle => exact kept.setSlot List.filter_sublist
  | stopAtFirstCompletions enabled => exact kept.congr rfl rfl
  | listen enabled => exact kept.congr rfl rfl

/-- **Every sequence of calls keeps the invariant.** -/
theorem WellKept.afterChanges {registry : Registry Context} (kept : registry.WellKept)
    (changes : List (Change Context)) : (registry.afterChanges changes).WellKept := by
  induction changes generalizing registry with
  | nil => exact kept
  | cons change rest ih => exact ih (kept.perform change)

/-! ## Handles -/

/-- In lists with ascending numbers, leaving out a number takes out the one entry with it. -/
theorem filter_id_ne {front back : List (Registered Context)} {registered : Registered Context}
    (ascending : (front ++ registered :: back).Pairwise fun first second => first.id < second.id) :
    (front ++ registered :: back).filter (fun other => other.id ≠ registered.id) =
      front ++ back := by
  obtain ⟨-, rest, across⟩ := List.pairwise_append.mp ascending
  have before : front.filter (fun other => other.id ≠ registered.id) = front := by
    rw [List.filter_eq_self]
    intro other member
    have less := across other member registered List.mem_cons_self
    simpa using Nat.ne_of_lt less
  have after : back.filter (fun other => other.id ≠ registered.id) = back := by
    rw [List.filter_eq_self]
    intro other member
    have less := (List.pairwise_cons.mp rest).1 other member
    simpa using Nat.ne_of_gt less
  rw [List.filter_append, before, List.filter_cons_of_neg (by simp), after]

/-- The handle of an analyzer that is there takes it out, and no other. -/
theorem WellKept.unregister_of_mem {registry : Registry Context} (kept : registry.WellKept)
    {kind : AnalyzerKind} {front back : List (Registered Context)}
    {registered : Registered Context}
    (split : registry.slot kind = front ++ registered :: back) :
    registry.unregister ⟨kind, registered.id⟩ = (true, registry.setSlot kind (front ++ back)) := by
  have ascending := kept.ascending kind
  rw [split] at ascending
  simp only [unregister, split, filter_id_ne ascending]
  simp

/-- A handle whose number no analyzer has changes nothing. -/
theorem unregister_of_absent {registry : Registry Context} {handle : AnalyzerHandle}
    (absent : ∀ registered ∈ registry.slot handle.kind, registered.id ≠ handle.id) :
    registry.unregister handle = (false, registry) := by
  have all : (registry.slot handle.kind).filter (fun registered => registered.id ≠ handle.id) =
      registry.slot handle.kind := by
    rw [List.filter_eq_self]
    intro registered member
    simpa using absent registered member
  simp only [unregister, all, setSlot_slot]
  simp

/-- An analyzer stays when something else happens than the use of its own handle. -/
theorem mem_slot_perform {registry : Registry Context} {kind : AnalyzerKind}
    {registered : Registered Context} (here : registered ∈ registry.slot kind)
    {change : Change Context} (other : change ≠ .unregister ⟨kind, registered.id⟩) :
    registered ∈ (registry.perform change).slot kind := by
  cases change with
  | register newKind analyzer name description =>
    have outcome := registration registry newKind analyzer name description
    rw [perform]
    generalize registry.register newKind analyzer name description = result at outcome ⊢
    cases outcome with
    | accepted =>
      show registered ∈ (registry.add newKind _).slot kind
      rw [slot_add]
      split
      · next same =>
        subst same
        exact List.mem_append_left _ here
      · exact here
    | refused => exact here
  | unregister handle =>
    show registered ∈ (registry.setSlot handle.kind _).slot kind
    rw [slot_setSlot]
    split
    · next same =>
      subst same
      refine List.mem_filter.mpr ⟨here, decide_eq_true fun equal => other ?_⟩
      rw [equal]
    · exact here
  | stopAtFirstCompletions enabled => exact here
  | listen enabled => exact here

/-- An analyzer stays as long as its own handle is not used. -/
theorem mem_slot_afterChanges {registry : Registry Context} {kind : AnalyzerKind}
    {registered : Registered Context} (here : registered ∈ registry.slot kind)
    {changes : List (Change Context)}
    (unused : .unregister ⟨kind, registered.id⟩ ∉ changes) :
    registered ∈ (registry.afterChanges changes).slot kind := by
  induction changes generalizing registry with
  | nil => exact here
  | cons change rest ih =>
    rw [List.mem_cons, not_or] at unused
    exact ih (mem_slot_perform here (Ne.symm unused.1)) unused.2

/-- A handle whose number has been given out and is no longer in use. -/
structure SpentHandle (registry : Registry Context) (handle : AnalyzerHandle) : Prop where
  issued : handle.id < registry.nextId
  absent : ∀ registered ∈ registry.slot handle.kind, registered.id ≠ handle.id

/-- The use of a handle that was given out leaves it spent. -/
theorem spentHandle_of_unregister {registry : Registry Context} {handle : AnalyzerHandle}
    (issued : handle.id < registry.nextId) :
    (registry.perform (.unregister handle)).SpentHandle handle := by
  refine ⟨?_, fun registered member => ?_⟩
  · show handle.id < (registry.setSlot handle.kind _).nextId
    rwa [nextId_setSlot]
  · change registered ∈ (registry.setSlot handle.kind _).slot handle.kind at member
    rw [slot_setSlot, if_pos rfl] at member
    exact of_decide_eq_true (List.mem_filter.mp member).2

/-- A handle that is spent stays so: a new analyzer gets a number that was not given out yet. -/
theorem SpentHandle.perform {registry : Registry Context} {handle : AnalyzerHandle}
    (spent : registry.SpentHandle handle) (change : Change Context) :
    (registry.perform change).SpentHandle handle := by
  cases change with
  | register kind analyzer name description =>
    have outcome := registration registry kind analyzer name description
    rw [Registry.perform]
    generalize registry.register kind analyzer name description = result at outcome ⊢
    cases outcome with
    | accepted =>
      refine ⟨Nat.lt_succ_of_lt spent.issued, fun registered member => ?_⟩
      change registered ∈ (registry.add kind _).slot handle.kind at member
      rw [slot_add] at member
      split at member
      · next same =>
        rcases List.mem_append.mp member with old | new
        · exact spent.absent registered (same ▸ old)
        · rw [List.mem_singleton.mp new]
          exact Nat.ne_of_gt spent.issued
      · exact spent.absent registered member
    | refused => exact spent
  | unregister other =>
    refine ⟨?_, fun registered member => ?_⟩
    · show handle.id < (registry.setSlot other.kind _).nextId
      rw [nextId_setSlot]
      exact spent.issued
    · change registered ∈ (registry.setSlot other.kind _).slot handle.kind at member
      rw [slot_setSlot] at member
      split at member
      · next same => exact spent.absent registered (same ▸ (List.mem_filter.mp member).1)
      · exact spent.absent registered member
  | stopAtFirstCompletions enabled => exact ⟨spent.issued, spent.absent⟩
  | listen enabled => exact ⟨spent.issued, spent.absent⟩

/-- A handle that is spent stays so. -/
theorem SpentHandle.afterChanges {registry : Registry Context} {handle : AnalyzerHandle}
    (spent : registry.SpentHandle handle) (changes : List (Change Context)) :
    (registry.afterChanges changes).SpentHandle handle := by
  induction changes generalizing registry with
  | nil => exact spent
  | cons change rest ih => exact ih (spent.perform change)

/-- No call takes a number back. -/
theorem nextId_le_perform (registry : Registry Context) (change : Change Context) :
    registry.nextId ≤ (registry.perform change).nextId := by
  cases change with
  | register kind analyzer name description =>
    have outcome := registration registry kind analyzer name description
    rw [perform]
    generalize registry.register kind analyzer name description = result at outcome ⊢
    cases outcome with
    | accepted => exact Nat.le_succ _
    | refused => exact Nat.le_refl _
  | unregister handle =>
    show registry.nextId ≤ (registry.setSlot handle.kind _).nextId
    rw [nextId_setSlot]
  | stopAtFirstCompletions enabled => exact Nat.le_refl _
  | listen enabled => exact Nat.le_refl _

/-- A handle that was given out and then used is spent. -/
theorem spentHandle_of_mem {registry : Registry Context} {handle : AnalyzerHandle}
    (issued : handle.id < registry.nextId) {changes : List (Change Context)}
    (used : .unregister handle ∈ changes) :
    (registry.afterChanges changes).SpentHandle handle := by
  induction changes generalizing registry with
  | nil => cases used
  | cons change rest ih =>
    rcases List.mem_cons.mp used with rfl | later
    · exact (spentHandle_of_unregister issued).afterChanges rest
    · exact ih (Nat.lt_of_lt_of_le issued (nextId_le_perform registry change)) later

/-- **A handle takes out its analyzer, once.**  Start with a registry without analyzers and make any
calls.

* The analyzers are well kept.
* An analyzer is registered exactly if it can be; otherwise the registry is left as it is.
* Whatever is called after a registration, its handle takes out exactly the analyzer that was
  registered if it has not been used yet, and otherwise it changes nothing at all. -/
theorem handle_takes_out_once (changes : List (Change Context)) :
    let registry := (blank : Registry Context).afterChanges changes
    registry.WellKept ∧
    (∀ kind analyzer name description,
      (registry.Registrable kind analyzer name ↔
        ∃ handle extended,
          registry.register kind analyzer name description = .ok (handle, extended)) ∧
      (¬ registry.Registrable kind analyzer name →
        registry.perform (.register kind analyzer name description) = registry)) ∧
    ∀ kind analyzer name description handle extended,
      registry.register kind analyzer name description = .ok (handle, extended) →
        ∀ later : List (Change Context),
          let now := extended.afterChanges later
          (.unregister handle ∈ later → now.unregister handle = (false, now)) ∧
          (.unregister handle ∉ later → ∃ front back,
            now.slot kind = front ++ ⟨handle.id, name, description, analyzer⟩ :: back ∧
              now.unregister handle = (true, now.setSlot kind (front ++ back))) := by
  intro registry
  have kept : registry.WellKept := wellKept_blank.afterChanges changes
  refine ⟨kept, fun kind analyzer name description => ?_, ?_⟩
  · have outcome := registration registry kind analyzer name description
    rw [perform]
    generalize registry.register kind analyzer name description = result at outcome ⊢
    cases outcome with
    | accepted registrable =>
      exact ⟨⟨fun _ => ⟨_, _, rfl⟩, fun _ => registrable⟩, fun barred => absurd registrable barred⟩
    | refused _ barred =>
      exact ⟨⟨fun registrable => absurd registrable barred, nofun⟩, fun _ => rfl⟩
  · intro kind analyzer name description handle extended registered later now
    have outcome := registration registry kind analyzer name description
    rw [registered] at outcome
    cases outcome with
    | accepted registrable =>
      refine ⟨fun used => ?_, fun unused => ?_⟩
      · have spent : now.SpentHandle ⟨kind, registry.nextId⟩ :=
          spentHandle_of_mem (Nat.lt_succ_self _) used
        exact unregister_of_absent spent.absent
      · have here : ⟨registry.nextId, name, description, analyzer⟩ ∈ now.slot kind :=
          mem_slot_afterChanges (by simp) unused
        obtain ⟨front, back, split⟩ := List.append_of_mem here
        have keptNow : now.WellKept := (kept.add registrable description).afterChanges later
        exact ⟨front, back, split, keptNow.unregister_of_mem split⟩

/-- An analyzer of lines that has nothing to say. -/
def silentLine : Analyzer Unit :=
  .line fun _ _ => .ok []

/-- A handle takes its analyzer out when it is used at once.  When the name has been registered a
second time after that, the handle does not take out the new analyzer. -/
theorem handle_takes_out_once_reregistered :
    ∃ handle extended,
      (blank : Registry Unit).register .action silentLine "upper" none = .ok (handle, extended) ∧
        (∃ front back,
          extended.slot .action = front ++ ⟨handle.id, "upper", none, silentLine⟩ :: back ∧
            extended.unregister handle = (true, extended.setSlot .action (front ++ back))) ∧
        let now := extended.afterChanges
          [.unregister handle, .register .action silentLine "upper" none]
        now.unregister handle = (false, now) := by
  have registrable : (blank : Registry Unit).Registrable .action silentLine "upper" :=
    ⟨by decide +kernel, rfl, nofun⟩
  obtain ⟨-, accepted, handles⟩ := handle_takes_out_once ([] : List (Change Unit))
  obtain ⟨handle, extended, registered⟩ :=
    (accepted .action silentLine "upper" none).1.mp registrable
  have after := handles .action silentLine "upper" none handle extended registered
  exact ⟨handle, extended, registered, (after []).2 List.not_mem_nil,
    (after _).1 List.mem_cons_self⟩

end Registry

end Orthography
