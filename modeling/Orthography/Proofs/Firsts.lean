import Mathlib.Data.List.Nodup

/-!
# The first element with each key

Of some elements with keys, the ones whose keys are not known and that no element before them has
(`firsts`).  An element that is taken makes its key known for the rest.  So every unknown key comes once
(`nodup_map_firsts`, `mem_map_firsts`), under the first element with it (`find?_firsts`).
-/

namespace Orthography

set_option autoImplicit false

variable {α : Type} (key : α → String)

/-- The elements with keys that are not known; of those with one key the first. -/
def firsts (known : String → Bool) : List α → List α
  | [] => []
  | first :: rest =>
    if known (key first) then firsts known rest
    else first :: firsts (fun other => known other || other == key first) rest

/-- The keys of these elements are the unknown ones, each of them once and in the order in which they
come first. -/
theorem map_firsts (known : String → Bool) (list : List α) :
    (firsts key known list).map key
      = ((list.map key).filter fun other => !known other).eraseDups := by
  induction list generalizing known with
  | nil => rfl
  | cons first rest ih =>
    rw [firsts, List.map_cons]
    cases here : known (key first) with
    | true => rw [if_pos rfl, ih, List.filter_cons_of_neg (by simp [here])]
    | false =>
      have both (other : String) :
          (!(known other || other == key first)) = (!other == key first && !known other) := by
        rw [Bool.not_or, Bool.and_comm]
      rw [if_neg Bool.false_ne_true, List.map_cons, ih, List.filter_cons_of_pos (by simp [here]),
        List.eraseDups_cons, List.filter_filter, List.filter_congr fun other _ => both other]

/-- Under an unknown key these elements have the first one with this key, and under a known key they
have none. -/
theorem find?_firsts (known : String → Bool) (list : List α) (wanted : String) :
    (firsts key known list).find? (fun element => key element = wanted)
      = if known wanted then none else list.find? fun element => key element = wanted := by
  induction list generalizing known with
  | nil => simp [firsts]
  | cons first rest ih =>
    rw [firsts]
    by_cases same : key first = wanted
    · subst same
      cases here : known (key first) <;> simp [ih, here]
    · have other : ¬ wanted = key first := fun equal => same equal.symm
      cases here : known (key first) <;> simp [ih, same, other]

/-- No key comes twice among these elements, and none that is known does. -/
theorem nodup_map_firsts (known : String → Bool) (list : List α) :
    ((firsts key known list).map key).Nodup := by
  induction list generalizing known with
  | nil => exact List.nodup_nil
  | cons first rest ih =>
    rw [firsts]
    cases here : known (key first) with
    | true => exact ih known
    | false =>
      refine List.nodup_cons.mpr ⟨?_, ih _⟩
      rw [map_firsts, List.mem_eraseDups, List.mem_filter]
      simp

/-- The keys of these elements are the unknown ones. -/
theorem mem_map_firsts {known : String → Bool} {list : List α} {wanted : String} :
    wanted ∈ (firsts key known list).map key ↔ known wanted = false ∧ wanted ∈ list.map key := by
  rw [map_firsts, List.mem_eraseDups, List.mem_filter, Bool.not_eq_true', and_comm]

/-- Where no key comes twice, the first element with a key is the only one. -/
theorem find?_eq_some_iff_of_nodup {list : List α} (once : (list.map key).Nodup) {wanted : String}
    {element : α} : (list.find? fun other => key other = wanted) = some element ↔
      element ∈ list ∧ key element = wanted := by
  induction list with
  | nil => simp
  | cons first rest ih =>
    obtain ⟨absent, later⟩ := List.nodup_cons.mp once
    rw [List.find?_cons, List.mem_cons]
    by_cases same : key first = wanted
    · subst same
      have none (inside : element ∈ rest) : key element ≠ key first := fun equal =>
        absent (equal ▸ List.mem_map_of_mem inside)
      simp only [decide_true, Option.some.injEq]
      constructor
      · rintro rfl
        exact ⟨.inl rfl, rfl⟩
      · rintro ⟨rfl | inside, equal⟩
        · rfl
        · exact absurd equal (none inside)
    · simp only [same, decide_false, ih later]
      refine ⟨fun ⟨inside, equal⟩ => ⟨.inr inside, equal⟩, ?_⟩
      rintro ⟨rfl | inside, equal⟩
      · exact absurd equal same
      · exact ⟨inside, equal⟩

/-- Each of these elements has an unknown key, and is the first one with it. -/
theorem find?_of_mem_firsts {known : String → Bool} {list : List α} {element : α}
    (member : element ∈ firsts key known list) : known (key element) = false ∧
      (list.find? fun other => key other = key element) = some element := by
  have unknown := (mem_map_firsts key).mp (List.mem_map_of_mem (f := key) member)
  have found := (find?_eq_some_iff_of_nodup key (nodup_map_firsts key known list)).mpr
    ⟨member, rfl⟩
  rw [find?_firsts, unknown.1, if_neg Bool.false_ne_true] at found
  exact ⟨unknown.1, found⟩

end Orthography
