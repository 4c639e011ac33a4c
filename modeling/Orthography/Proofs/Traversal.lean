/-!
# Going through a list

An operation that gives nothing for some values is done for all elements of a list.  It gives
something for the whole list if it does so for each element.
-/

namespace Orthography.Traversal

set_option autoImplicit false

variable {α β : Type} {items : List α}

/-- The results for all elements. -/
theorem mapM_eq_some {run : α → Option β} {value : α → β}
    (each : ∀ item ∈ items, run item = some (value item)) :
    items.mapM run = some (items.map value) := by
  induction items with
  | nil => rfl
  | cons item rest ih =>
    have others := ih fun other member => each other (List.mem_cons_of_mem item member)
    rw [List.mapM_cons, each item List.mem_cons_self, others]
    rfl

/-- The results for those elements that have one. -/
theorem filterMapM_eq_some {run : α → Option (Option β)} {value : α → Option β}
    (each : ∀ item ∈ items, run item = some (value item)) :
    items.filterMapM run = some (items.filterMap value) := by
  induction items with
  | nil => rfl
  | cons item rest ih =>
    have others := ih fun other member => each other (List.mem_cons_of_mem item member)
    rw [List.filterMapM_cons, each item List.mem_cons_self, others, List.filterMap_cons]
    cases value item <;> rfl

/-- The results for all elements, one list after the other. -/
theorem flatMapM_eq_some {run : α → Option (List β)} {value : α → List β}
    (each : ∀ item ∈ items, run item = some (value item)) :
    items.flatMapM run = some (items.flatMap value) := by
  induction items with
  | nil => rfl
  | cons item rest ih =>
    have others := ih fun other member => each other (List.mem_cons_of_mem item member)
    rw [List.flatMapM_cons, each item List.mem_cons_self, others]
    rfl

end Orthography.Traversal
