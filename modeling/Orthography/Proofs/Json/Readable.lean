import Orthography.Lexicon.KeyMap
import Orthography.Proofs.Json.Printed

/-!
# Values that can be read

A value that is read in some room is nested no deeper than the room, its whole numbers fit 64 bits,
and the members of its objects stand in ascending order, no name twice (`Json.Readable`,
`Json.readable_of_ofForm?`).  Conversely, the form of such a value stands for it
(`Json.ofForm?_toForm`), if its fractions read back.
-/

namespace Orthography.Json

set_option autoImplicit false

/-- A number that can be read: a whole one fits 64 bits. -/
def Number.InRange : Number → Prop
  | .natural n => n ≤ naturalLimit
  | .negative n => 1 ≤ n ∧ n ≤ Nat.pow 2 63
  | .fraction _ => True

/-- Members that stand in ascending order of their names. -/
def Ascending (members : List (String × Json)) : Prop :=
  members.Pairwise fun first second => first.1 < second.1

mutual

/-- A value that can be read in some room for arrays and objects inside each other. -/
def Readable (room : Nat) : Json → Prop
  | .number n => n.InRange
  | .array items => room ≠ 0 ∧ ItemsReadable (room - 1) items
  | .object members => room ≠ 0 ∧ Ascending members ∧ MembersReadable (room - 1) members
  | _ => True

/-- Items that can be read in some room. -/
def ItemsReadable (room : Nat) : List Json → Prop
  | [] => True
  | item :: rest => Readable room item ∧ ItemsReadable room rest

/-- Members that can be read in some room. -/
def MembersReadable (room : Nat) : List (String × Json) → Prop
  | [] => True
  | (_, value) :: rest => Readable room value ∧ MembersReadable room rest

end

theorem membersReadable_iff {room : Nat} {members : List (String × Json)} :
    MembersReadable room members ↔ ∀ member ∈ members, Readable room member.2 := by
  induction members with
  | nil => simp [MembersReadable]
  | cons member rest ih =>
    obtain ⟨name, value⟩ := member
    simp [MembersReadable, ih]

/-! ## Members in order -/

/-- Members are kept in the same way as keys of a map. -/
theorem insertMember_eq (name : String) (value : Json) (members : List (String × Json)) :
    insertMember name value members = KeyMap.insertPair name value members := by
  induction members with
  | nil => rfl
  | cons member rest ih =>
    obtain ⟨other, held⟩ := member
    rw [insertMember, KeyMap.insertPair, ih]

/-- Inserting adds at most the new member. -/
theorem mem_insertMember {name : String} {value : Json} {members : List (String × Json)}
    {member : String × Json} (inside : member ∈ insertMember name value members) :
    member = (name, value) ∨ member ∈ members := by
  induction members with
  | nil => exact .inl (List.mem_singleton.mp inside)
  | cons first rest ih =>
    obtain ⟨other, held⟩ := first
    rw [insertMember] at inside
    split at inside
    · exact List.mem_cons.mp inside
    · split at inside
      · rcases List.mem_cons.mp inside with new | old
        · exact .inl new
        · exact .inr (List.mem_cons_of_mem _ old)
      · rcases List.mem_cons.mp inside with first | rest
        · exact .inr (first ▸ List.mem_cons_self)
        · exact (ih rest).imp_right (List.mem_cons_of_mem _)

/-- What an object is made of stands in order, and its values are those of the members. -/
theorem foldl_insertMember {members sorted : List (String × Json)} {P : Json → Prop}
    (ascending : Ascending sorted) (known : ∀ member ∈ sorted, P member.2)
    (new : ∀ member ∈ members, P member.2) :
    let all := members.foldl (fun sorted (name, value) => insertMember name value sorted) sorted
    Ascending all ∧ ∀ member ∈ all, P member.2 := by
  induction members generalizing sorted with
  | nil => exact ⟨ascending, known⟩
  | cons member rest ih =>
    obtain ⟨name, value⟩ := member
    rw [List.foldl_cons]
    refine ih ?_ ?_ fun other inside => new other (List.mem_cons_of_mem _ inside)
    · show Ascending (insertMember name value sorted)
      rw [insertMember_eq]
      exact KeyMap.ascending_insertPair ascending
    · intro other inside
      rcases mem_insertMember inside with rfl | old
      · exact new (name, value) List.mem_cons_self
      · exact known other old

/-- A member that comes after all others is put at the end. -/
theorem insertMember_of_forall_lt {name : String} {value : Json} {members : List (String × Json)}
    (greater : ∀ member ∈ members, member.1 < name) :
    insertMember name value members = members ++ [(name, value)] := by
  induction members with
  | nil => rfl
  | cons member rest ih =>
    obtain ⟨other, held⟩ := member
    have less : other < name := greater (other, held) List.mem_cons_self
    rw [insertMember, if_neg (fun below => String.lt_irrefl _ (String.lt_trans less below)),
      if_neg (by rintro rfl; exact String.lt_irrefl _ less),
      ih fun other inside => greater other (List.mem_cons_of_mem _ inside), List.cons_append]

/-- An object is made of members in order as they are. -/
theorem ofMembers_of_ascending {members : List (String × Json)} (ascending : Ascending members) :
    ofMembers members = .object members := by
  have step (rest sorted : List (String × Json)) (whole : Ascending (sorted ++ rest)) :
      rest.foldl (fun sorted (name, value) => insertMember name value sorted) sorted =
        sorted ++ rest := by
    induction rest generalizing sorted with
    | nil => rw [List.foldl_nil, List.append_nil]
    | cons member more ih =>
      obtain ⟨name, value⟩ := member
      have greater : ∀ other ∈ sorted, other.1 < name := by
        intro other inside
        exact (List.pairwise_append.mp whole).2.2 other inside (name, value) List.mem_cons_self
      have moved : sorted ++ (name, value) :: more = sorted ++ [(name, value)] ++ more := by simp
      simp only [List.foldl_cons, insertMember_of_forall_lt greater]
      rw [ih _ (moved ▸ whole), moved]
  rw [ofMembers, step members [] ascending, List.nil_append]

/-! ## What is read can be read -/

theorem collect_le {limit start : Nat} (small : start ≤ limit) (row : List Char) :
    (collect limit start row).1 ≤ limit := by
  induction row generalizing start with
  | nil => exact small
  | cons c rest ih =>
    rw [collect]
    split
    · exact small
    · next fits => exact ih (Nat.not_lt.mp fits)

/-- A number that is read is in range. -/
theorem inRange_of_ofSpelling? {spelling : List Char} {n : Number}
    (value : Number.ofSpelling? spelling = some n) : n.InRange := by
  unfold Number.ofSpelling? at value
  simp only at value
  split at value
  · obtain ⟨x, _, rfl⟩ := Option.map_eq_some_iff.mp value
    trivial
  · split at value
    · cases value
      exact collect_le (Nat.zero_le _) _
    · split at value
      · next positive =>
        cases value
        simpa [Number.InRange] using positive
      · cases value
        trivial

mutual

/-- **Every value that is read in some room can be read in it.** -/
theorem readable_of_ofForm? (room : Nat) (form : Form) {value : Json}
    (read : ofForm? room form = some value) : value.Readable room := by
  match form with
  | .null =>
    cases read
    trivial
  | .bool _ =>
    cases read
    trivial
  | .number spelling =>
    rw [ofForm?, Option.map_eq_some_iff] at read
    obtain ⟨n, number, rfl⟩ := read
    exact inRange_of_ofSpelling? number
  | .string content =>
    rw [ofForm?, Option.map_eq_some_iff] at read
    obtain ⟨chars, _, rfl⟩ := read
    trivial
  | .array items =>
    rw [ofForm?] at read
    split at read
    · cases read
    · next some =>
      obtain ⟨values, inside, rfl⟩ := Option.map_eq_some_iff.mp read
      exact ⟨some, itemsReadable_of_ofItems? (room - 1) items inside⟩
  | .object members =>
    rw [ofForm?] at read
    split at read
    · cases read
    · next some =>
      obtain ⟨values, inside, rfl⟩ := Option.map_eq_some_iff.mp read
      have all := membersReadable_of_ofFormMembers? (room - 1) members inside
      have empty : Ascending [] := List.Pairwise.nil
      obtain ⟨ascending, readable⟩ := foldl_insertMember (P := Readable (room - 1)) empty
        (fun _ impossible => nomatch impossible) (membersReadable_iff.mp all)
      exact ⟨some, ascending, membersReadable_iff.mpr readable⟩

theorem itemsReadable_of_ofItems? (room : Nat) (forms : List Form) {items : List Json}
    (read : ofItems? room forms = some items) : ItemsReadable room items := by
  match forms with
  | [] =>
    cases read
    trivial
  | form :: rest =>
    rw [ofItems?] at read
    cases first : ofForm? room form with
    | none => simp [first] at read
    | some item =>
      cases others : ofItems? room rest with
      | none => simp [first, others] at read
      | some more =>
        simp only [first, others, Option.bind_eq_bind, Option.bind_some, Option.pure_def,
          Option.some.injEq] at read
        subst read
        exact ⟨readable_of_ofForm? room form first, itemsReadable_of_ofItems? room rest others⟩

theorem membersReadable_of_ofFormMembers? (room : Nat)
    (forms : List (Option (List Char) × Form)) {members : List (String × Json)}
    (read : ofFormMembers? room forms = some members) : MembersReadable room members := by
  match forms with
  | [] =>
    cases read
    trivial
  | (name, form) :: rest =>
    rw [ofFormMembers?] at read
    cases named : name with
    | none => simp [named] at read
    | some chars =>
      cases first : ofForm? room form with
      | none => simp [named, first] at read
      | some value =>
        cases others : ofFormMembers? room rest with
        | none => simp [named, first, others] at read
        | some more =>
          simp only [named, first, others, Option.bind_eq_bind, Option.bind_some, Option.pure_def,
            Option.some.injEq] at read
          subst read
          exact ⟨readable_of_ofForm? room form first,
            membersReadable_of_ofFormMembers? room rest others⟩

end

/-! ## What can be read is read back -/

mutual

theorem inRange_of_mem_numbers (room : Nat) (value : Json) (readable : value.Readable room) :
    ∀ n ∈ value.numbers, n.InRange := by
  intro n member
  match value with
  | .number m =>
    rw [List.mem_singleton.mp member]
    exact readable
  | .array items => exact inRange_of_mem_itemNumbers (room - 1) items readable.2 n member
  | .object members => exact inRange_of_mem_memberNumbers (room - 1) members readable.2.2 n member

theorem inRange_of_mem_itemNumbers (room : Nat) (items : List Json)
    (readable : ItemsReadable room items) : ∀ n ∈ itemNumbers items, n.InRange := by
  intro n member
  match items with
  | item :: rest =>
    rcases List.mem_append.mp member with first | others
    · exact inRange_of_mem_numbers room item readable.1 n first
    · exact inRange_of_mem_itemNumbers room rest readable.2 n others

theorem inRange_of_mem_memberNumbers (room : Nat) (members : List (String × Json))
    (readable : MembersReadable room members) : ∀ n ∈ memberNumbers members, n.InRange := by
  intro n member
  match members with
  | (_, value) :: rest =>
    rcases List.mem_append.mp member with first | others
    · exact inRange_of_mem_numbers room value readable.1 n first
    · exact inRange_of_mem_memberNumbers room rest readable.2 n others

end

/-- The numbers of a value that can be read are printed as their own spellings, if its fractions
read back. -/
theorem spelled_of_readable {room : Nat} {value : Json} (readable : value.Readable room)
    (fractions : ∀ x, .fraction x ∈ value.numbers → (Number.fraction x).ReadsBack) :
    ∀ n ∈ value.numbers, n.Spelled := by
  intro n member
  have range := inRange_of_mem_numbers room value readable n member
  cases n with
  | natural n => exact spelled_natural range
  | negative n => exact spelled_negative range.1 range.2
  | fraction x => exact spelled_of_readsBack (fractions x member)

mutual

/-- **The form of a value that can be read stands for it.** -/
theorem ofForm?_toForm (room : Nat) (value : Json) (readable : value.Readable room)
    (spelled : ∀ n ∈ value.numbers, n.Spelled) : ofForm? room (toForm value) = some value := by
  match value with
  | .null => rfl
  | .bool _ => rfl
  | .number n =>
    rw [toForm, ofForm?, (spelled n (List.mem_singleton.mpr rfl)).value]
    rfl
  | .string text =>
    rw [toForm, ofForm?, Option.map_some, String.ofList_toList]
  | .array items =>
    rw [toForm, ofForm?, if_neg readable.1, ofItems?_itemForms (room - 1) items readable.2 spelled]
    rfl
  | .object members =>
    rw [toForm, ofForm?, if_neg readable.1,
      ofFormMembers?_memberForms (room - 1) members readable.2.2 spelled, Option.map_some,
      ofMembers_of_ascending readable.2.1]

theorem ofItems?_itemForms (room : Nat) (items : List Json) (readable : ItemsReadable room items)
    (spelled : ∀ n ∈ itemNumbers items, n.Spelled) :
    ofItems? room (itemForms items) = some items := by
  match items with
  | [] => rfl
  | item :: rest =>
    rw [itemForms, ofItems?,
      ofForm?_toForm room item readable.1 fun n first => spelled n (List.mem_append_left _ first),
      ofItems?_itemForms room rest readable.2 fun n more => spelled n (List.mem_append_right _ more)]
    rfl

theorem ofFormMembers?_memberForms (room : Nat) (members : List (String × Json))
    (readable : MembersReadable room members) (spelled : ∀ n ∈ memberNumbers members, n.Spelled) :
    ofFormMembers? room (memberForms members) = some members := by
  match members with
  | [] => rfl
  | (name, value) :: rest =>
    rw [memberForms, ofFormMembers?,
      ofForm?_toForm room value readable.1 fun n first => spelled n (List.mem_append_left _ first),
      ofFormMembers?_memberForms room rest readable.2 fun n more =>
        spelled n (List.mem_append_right _ more)]
    simp

end

end Orthography.Json
