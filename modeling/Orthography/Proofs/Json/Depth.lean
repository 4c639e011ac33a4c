import Orthography.Proofs.Json.Readable

/-!
# How deep a value is nested

A value can be read in some room (`Json.Readable`) exactly if three things come together that have
nothing to do with each other: its objects are maps, with their members in ascending order; no more
arrays and objects are inside each other than there is room for; and its whole numbers fit 64 bits
(`Json.readable_iff`).
-/

namespace Orthography.Json

set_option autoImplicit false

/-! ## Nesting -/

mutual

/-- How many arrays and objects of a value are inside each other, where most are. -/
def depth : Json → Nat
  | .array items => itemsDepth items + 1
  | .object members => membersDepth members + 1
  | _ => 0

/-- How deep the items of an array are nested. -/
def itemsDepth : List Json → Nat
  | [] => 0
  | item :: rest => max item.depth (itemsDepth rest)

/-- How deep the members of an object are nested. -/
def membersDepth : List (String × Json) → Nat
  | [] => 0
  | (_, value) :: rest => max value.depth (membersDepth rest)

end

/-- Items are nested no deeper than some number exactly if none of them is. -/
theorem itemsDepth_le_iff {items : List Json} {bound : Nat} :
    itemsDepth items ≤ bound ↔ ∀ item ∈ items, item.depth ≤ bound := by
  induction items with
  | nil => simp [itemsDepth]
  | cons item rest ih => rw [itemsDepth, Nat.max_le, ih, List.forall_mem_cons]

/-- A list of texts is nested once. -/
theorem depth_strings (texts : List String) : (Json.strings texts).depth = 1 := by
  have flat : itemsDepth (texts.map .string) ≤ 0 := by
    rw [itemsDepth_le_iff]
    intro item member
    obtain ⟨text, -, rfl⟩ := List.mem_map.mp member
    exact Nat.le_refl 0
  rw [Json.strings, depth, Nat.le_zero.mp flat]

/-- A text or nothing is not nested. -/
theorem depth_optional (text : Option String) : (Json.optional text).depth = 0 := by
  cases text <;> rfl

/-! ## Maps -/

mutual

/-- A value whose objects are maps: their members stand in ascending order, no name twice. -/
def Sorted : Json → Prop
  | .array items => ItemsSorted items
  | .object members => Ascending members ∧ MembersSorted members
  | _ => True

/-- Items whose objects are maps. -/
def ItemsSorted : List Json → Prop
  | [] => True
  | item :: rest => item.Sorted ∧ ItemsSorted rest

/-- Members whose objects are maps. -/
def MembersSorted : List (String × Json) → Prop
  | [] => True
  | (_, value) :: rest => value.Sorted ∧ MembersSorted rest

end

/-! ## What can be read -/

mutual

/-- **A value can be read in some room exactly if its objects are maps, it is nested no deeper than
the room, and its numbers are in range.** -/
theorem readable_iff (room : Nat) (value : Json) :
    value.Readable room ↔
      value.Sorted ∧ value.depth ≤ room ∧ ∀ n ∈ value.numbers, n.InRange := by
  match value with
  | .null | .bool _ | .string _ => simp [Readable, Sorted, depth, numbers]
  | .number n => simp [Readable, Sorted, depth, numbers]
  | .array items =>
    have inner := itemsReadable_iff (room - 1) items
    rw [Readable, Sorted, depth, numbers, inner]
    constructor
    · rintro ⟨filled, sorted, shallow, range⟩
      exact ⟨sorted, by omega, range⟩
    · rintro ⟨sorted, shallow, range⟩
      exact ⟨by omega, sorted, by omega, range⟩
  | .object members =>
    have inner := membersReadable_iff_sorted (room - 1) members
    rw [Readable, Sorted, depth, numbers, inner]
    constructor
    · rintro ⟨filled, ascending, sorted, shallow, range⟩
      exact ⟨⟨ascending, sorted⟩, by omega, range⟩
    · rintro ⟨⟨ascending, sorted⟩, shallow, range⟩
      exact ⟨by omega, ascending, sorted, by omega, range⟩

theorem itemsReadable_iff (room : Nat) (items : List Json) :
    ItemsReadable room items ↔
      ItemsSorted items ∧ itemsDepth items ≤ room ∧ ∀ n ∈ itemNumbers items, n.InRange := by
  match items with
  | [] => simp [ItemsReadable, ItemsSorted, itemsDepth, itemNumbers]
  | item :: rest =>
    rw [ItemsReadable, ItemsSorted, itemsDepth, itemNumbers, readable_iff room item,
      itemsReadable_iff room rest, Nat.max_le, List.forall_mem_append, and_and_and_comm,
      @and_and_and_comm (item.depth ≤ room)]

theorem membersReadable_iff_sorted (room : Nat) (members : List (String × Json)) :
    MembersReadable room members ↔
      MembersSorted members ∧ membersDepth members ≤ room ∧
        ∀ n ∈ memberNumbers members, n.InRange := by
  match members with
  | [] => simp [MembersReadable, MembersSorted, membersDepth, memberNumbers]
  | (name, value) :: rest =>
    rw [MembersReadable, MembersSorted, membersDepth, memberNumbers, readable_iff room value,
      membersReadable_iff_sorted room rest, Nat.max_le, List.forall_mem_append, and_and_and_comm,
      @and_and_and_comm (value.depth ≤ room)]

end

end Orthography.Json
