/-!
# Maps with ordered keys

A finite map from texts, kept as a list of pairs in ascending order of the keys.  Texts are ordered
by the code points of their characters.  The order is part of the type, so that two maps with the
same pairs are the same map.
-/

namespace Orthography

set_option autoImplicit false

/-- A finite map from texts; its pairs are in ascending order of the keys. -/
structure KeyMap (α : Type) where
  pairs : List (String × α)
  ascending : pairs.Pairwise fun first second => first.1 < second.1
deriving DecidableEq, Repr

namespace KeyMap

variable {α : Type}

/-- The map without keys. -/
def empty : KeyMap α :=
  ⟨[], List.Pairwise.nil⟩

/-- What a map has under a key. -/
def get? (map : KeyMap α) (key : String) : Option α :=
  map.pairs.lookup key

/-- Whether a map has something under a key. -/
def contains (map : KeyMap α) (key : String) : Bool :=
  (map.get? key).isSome

/-- Pairs with one more, at the place of its key; a pair with the same key is replaced. -/
def insertPair (key : String) (value : α) : List (String × α) → List (String × α)
  | [] => [(key, value)]
  | (other, held) :: rest =>
    if key < other then (key, value) :: (other, held) :: rest
    else if key = other then (key, value) :: rest
    else (other, held) :: insertPair key value rest

/-- Inserting adds at most the new key. -/
theorem key_of_mem_insertPair {key : String} {value : α} {pairs : List (String × α)}
    {pair : String × α} (member : pair ∈ insertPair key value pairs) :
    pair.1 = key ∨ pair ∈ pairs := by
  induction pairs with
  | nil => simp_all [insertPair]
  | cons head rest ih =>
    obtain ⟨other, held⟩ := head
    simp only [insertPair] at member
    split at member
    · rcases List.mem_cons.mp member with rfl | member
      · exact Or.inl rfl
      · exact Or.inr member
    · split at member
      · rcases List.mem_cons.mp member with rfl | member
        · exact Or.inl rfl
        · exact Or.inr (List.mem_cons_of_mem _ member)
      · rcases List.mem_cons.mp member with rfl | member
        · exact Or.inr List.mem_cons_self
        · rcases ih member with equal | member
          · exact Or.inl equal
          · exact Or.inr (List.mem_cons_of_mem _ member)

/-- Inserting keeps the order. -/
theorem ascending_insertPair {key : String} {value : α} {pairs : List (String × α)}
    (ascending : pairs.Pairwise fun first second => first.1 < second.1) :
    (insertPair key value pairs).Pairwise fun first second => first.1 < second.1 := by
  induction pairs with
  | nil => simp [insertPair]
  | cons head rest ih =>
    obtain ⟨other, held⟩ := head
    obtain ⟨below, sorted⟩ := List.pairwise_cons.mp ascending
    simp only [insertPair]
    split
    · next less =>
      refine List.pairwise_cons.mpr ⟨fun pair member => ?_, ascending⟩
      rcases List.mem_cons.mp member with rfl | member
      · exact less
      · exact String.lt_trans less (below pair member)
    · split
      · next equal =>
        subst equal
        exact List.pairwise_cons.mpr ⟨below, sorted⟩
      · next notLess notEqual =>
        refine List.pairwise_cons.mpr ⟨fun pair member => ?_, ih sorted⟩
        rcases key_of_mem_insertPair member with equal | member
        · rw [equal]
          rcases Std.lt_trichotomy key other with less | equal | greater
          · exact absurd less notLess
          · exact absurd equal notEqual
          · exact greater
        · exact below pair member

/-- The map with a value put under a key. -/
def insert (map : KeyMap α) (key : String) (value : α) : KeyMap α :=
  ⟨insertPair key value map.pairs, ascending_insertPair map.ascending⟩

/-- The map with a value put under a key that had none. -/
def insertNew (map : KeyMap α) (key : String) (value : α) : KeyMap α :=
  if map.contains key then map else map.insert key value

/-- The map without a key. -/
def erase (map : KeyMap α) (key : String) : KeyMap α :=
  ⟨map.pairs.filter fun pair => pair.1 ≠ key, map.ascending.filter _⟩

/-- The values, in the order of their keys. -/
def values (map : KeyMap α) : List α :=
  map.pairs.map Prod.snd

/-- How many keys a map has. -/
def size (map : KeyMap α) : Nat :=
  map.pairs.length

end KeyMap

end Orthography
