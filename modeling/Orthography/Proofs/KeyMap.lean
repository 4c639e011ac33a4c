import Orthography.Lexicon.KeyMap
import Mathlib.Data.List.Nodup

/-!
# Laws of maps with ordered keys

What insertion and removal do to look-up, and that look-up determines a map: since the pairs stand
in ascending order of their keys, two maps that have the same under every key are the same map
(`KeyMap.ext_get?`).  It follows that a removal undoes the insertion of a new key
(`KeyMap.erase_insert`) and that an insertion undoes the removal of a key (`KeyMap.insert_erase`).

A map can be read through a function of its values (`KeyMap.map`), which changes neither its keys nor
their order.
-/

namespace Orthography.KeyMap

set_option autoImplicit false

variable {α : Type}

/-! ## Look-up -/

@[simp] theorem get?_empty (key : String) : (empty : KeyMap α).get? key = none :=
  rfl

theorem contains_eq_isSome (map : KeyMap α) (key : String) :
    map.contains key = (map.get? key).isSome :=
  rfl

/-- Look-up takes the first pair with the key. -/
theorem lookup_cons (key first : String) (held : α) (rest : List (String × α)) :
    ((first, held) :: rest).lookup key = if key = first then some held else rest.lookup key := by
  by_cases here : key = first
  · subst here
    simp
  · simp [List.lookup_cons, here, beq_false_of_ne here]

/-- Insertion into pairs changes look-up at the new key only. -/
theorem lookup_insertPair (key other : String) (value : α) (pairs : List (String × α)) :
    (insertPair key value pairs).lookup other =
      if other = key then some value else pairs.lookup other := by
  induction pairs with
  | nil => rw [insertPair, lookup_cons]
  | cons head rest ih =>
    obtain ⟨first, held⟩ := head
    simp only [insertPair]
    split
    · rw [lookup_cons]
    · split
      · next equal =>
        subst equal
        rw [lookup_cons, lookup_cons]
        split <;> rfl
      · next different =>
        rw [lookup_cons, lookup_cons, ih]
        by_cases here : other = first
        · subst here
          simp [Ne.symm different]
        · simp [here]

/-- Insertion changes look-up at the new key only. -/
@[simp] theorem get?_insert (map : KeyMap α) (key other : String) (value : α) :
    (map.insert key value).get? other = if other = key then some value else map.get? other :=
  lookup_insertPair key other value map.pairs

/-- Leaving out the pairs with a key changes look-up at this key only. -/
theorem lookup_filter_ne (key other : String) (pairs : List (String × α)) :
    (pairs.filter fun pair => pair.1 ≠ key).lookup other =
      if other = key then none else pairs.lookup other := by
  induction pairs with
  | nil => simp
  | cons head rest ih =>
    obtain ⟨first, held⟩ := head
    by_cases dropped : first = key
    · rw [List.filter_cons_of_neg (by simp [dropped]), ih, lookup_cons, dropped]
      split <;> rfl
    · rw [List.filter_cons_of_pos (by simp [dropped]), lookup_cons, lookup_cons, ih]
      by_cases here : other = first
      · subst here
        simp [dropped]
      · simp [here]

/-- Removal changes look-up at the removed key only. -/
@[simp] theorem get?_erase (map : KeyMap α) (key other : String) :
    (map.erase key).get? other = if other = key then none else map.get? other :=
  lookup_filter_ne key other map.pairs

/-- Insertion of a new key gives way to what a map has. -/
@[simp] theorem get?_insertNew (map : KeyMap α) (key other : String) (value : α) :
    (map.insertNew key value).get? other =
      if other = key then some ((map.get? key).getD value) else map.get? other := by
  unfold insertNew
  rw [contains_eq_isSome]
  cases found : map.get? key with
  | none => simp
  | some held =>
    by_cases same : other = key
    · subst same
      simp [found]
    · simp [same]

/-! ## Look-up determines the map -/

/-- The pairs of a map are what look-up finds. -/
theorem mem_pairs_iff {map : KeyMap α} {key : String} {value : α} :
    (key, value) ∈ map.pairs ↔ map.get? key = some value := by
  obtain ⟨pairs, ascending⟩ := map
  show (key, value) ∈ pairs ↔ pairs.lookup key = some value
  induction pairs with
  | nil => simp
  | cons head rest ih =>
    obtain ⟨first, held⟩ := head
    obtain ⟨below, sorted⟩ := List.pairwise_cons.mp ascending
    rw [List.mem_cons, lookup_cons, ih sorted]
    by_cases here : key = first
    · subst here
      -- The key does not come again: all later keys are above it.
      have absent : rest.lookup key ≠ some value := fun found =>
        String.lt_irrefl key (below _ ((ih sorted).mpr found))
      simp [absent, eq_comm]
    · simp [here]

/-- No pair of a map comes twice. -/
theorem nodup_pairs (map : KeyMap α) : map.pairs.Nodup := by
  refine List.Pairwise.imp ?_ map.ascending
  intro first second less equal
  rw [equal] at less
  exact String.lt_irrefl _ less

/-- **Look-up determines a map.**  Two maps that have the same under every key are the same. -/
theorem ext_get? {first second : KeyMap α} (same : ∀ key, first.get? key = second.get? key) :
    first = second := by
  have members : ∀ pair, pair ∈ first.pairs ↔ pair ∈ second.pairs := by
    rintro ⟨key, value⟩
    rw [mem_pairs_iff, mem_pairs_iff, same]
  have perm : first.pairs.Perm second.pairs :=
    (List.perm_ext_iff_of_nodup first.nodup_pairs second.nodup_pairs).mpr members
  have pairs : first.pairs = second.pairs :=
    perm.eq_of_pairwise
      (fun _ _ _ _ less greater => absurd (String.lt_trans less greater) (String.lt_irrefl _))
      first.ascending second.ascending
  cases first
  cases second
  cases pairs
  rfl

/-! ## Size -/

/-- Inserting a pair with a new key makes pairs longer by one. -/
theorem length_insertPair {key : String} {pairs : List (String × α)}
    (absent : pairs.lookup key = none) (value : α) :
    (insertPair key value pairs).length = pairs.length + 1 := by
  induction pairs with
  | nil => rfl
  | cons head rest ih =>
    obtain ⟨first, held⟩ := head
    rw [lookup_cons] at absent
    split at absent
    · cases absent
    · next different =>
      rw [insertPair, if_neg different]
      split
      · rfl
      · rw [List.length_cons, ih absent, List.length_cons]

/-- A new key makes a map larger by one. -/
theorem size_insert {map : KeyMap α} {key : String} (absent : map.get? key = none) (value : α) :
    (map.insert key value).size = map.size + 1 :=
  length_insertPair absent value

/-! ## Undoing -/

/-- Removal undoes the insertion of a new key. -/
theorem erase_insert {map : KeyMap α} {key : String} (absent : map.get? key = none) (value : α) :
    (map.insert key value).erase key = map := by
  refine ext_get? fun other => ?_
  by_cases same : other = key
  · subst same
    simp [absent]
  · simp [same]

/-- Insertion undoes the removal of a key. -/
theorem insert_erase {map : KeyMap α} {key : String} {value : α}
    (present : map.get? key = some value) : (map.erase key).insert key value = map := by
  refine ext_get? fun other => ?_
  by_cases same : other = key
  · subst same
    simp [present]
  · simp [same]

/-! ## Reading a map through a function -/

section Map

variable {β : Type} (read : α → β)

/-- A map with every value read through a function. -/
def map (held : KeyMap α) : KeyMap β where
  pairs := held.pairs.map fun pair => (pair.1, read pair.2)
  ascending := List.pairwise_map.mpr held.ascending

/-- Reading pairs through a function is reading what look-up finds. -/
theorem lookup_map (key : String) (pairs : List (String × α)) :
    (pairs.map fun pair => (pair.1, read pair.2)).lookup key = (pairs.lookup key).map read := by
  induction pairs with
  | nil => rfl
  | cons head rest ih =>
    obtain ⟨first, held⟩ := head
    rw [List.map_cons, lookup_cons, lookup_cons, ih]
    split <;> rfl

@[simp] theorem get?_map (held : KeyMap α) (key : String) :
    (held.map read).get? key = (held.get? key).map read :=
  lookup_map read key held.pairs

@[simp] theorem values_map (held : KeyMap α) : (held.map read).values = held.values.map read := by
  simp [map, values]

@[simp] theorem size_map (held : KeyMap α) : (held.map read).size = held.size :=
  List.length_map _

end Map

end Orthography.KeyMap
