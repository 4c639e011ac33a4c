import Orthography.Lexicon.Archive
import Orthography.Proofs.Json.Readable
import Orthography.Proofs.Lexicon.Identifier
import Orthography.Proofs.Text.Bytes
import Orthography.Proofs.Traversal

/-!
# Files that are written and read

The bytes of a file with some entries are read as these entries (`Entry.ofFile?_fileText`).  This
holds for entries that can be read from a file at all (`Entry.Readable`) and whose fractions read
back (`Entry.FractionsReadBack`).  Every entry that is read from a file can be read from one
(`Entry.readable_of_ofFile?`), and so can every new entry for a word (`Entry.readable_ofWord`).
-/

namespace Orthography

set_option autoImplicit false

namespace Entry

open Json (Form toForm itemForms memberForms itemForms_eq_map memberForms_eq_map)

/-! ## Entries that can be read -/

/-- An entry that can be read from a file: its links stand in ascending order, and its free members
are values that can be read in the room that is left inside an entry. -/
structure Readable (entry : Entry) : Prop where
  links : entry.links.Pairwise fun first second => first.value < second.value
  metadata : (Json.object entry.metadata).Readable (Json.depthLimit - 4)
  extra : (Json.object entry.extra).Readable (Json.depthLimit - 3)

/-- The numbers in the free members of an entry. -/
def numbers (entry : Entry) : List Json.Number :=
  (Json.object entry.metadata).numbers ++ (Json.object entry.extra).numbers

/-- All fractions in the free members of an entry read back. -/
def FractionsReadBack (entry : Entry) : Prop :=
  ∀ x, .fraction x ∈ entry.numbers → (Json.Number.fraction x).ReadsBack

/-- The numbers of an entry that can be read are printed as their own spellings, if its fractions
read back. -/
theorem spelled_of_readable {entry : Entry} (readable : entry.Readable)
    (back : entry.FractionsReadBack) : ∀ n ∈ entry.numbers, n.Spelled := by
  intro n member
  rcases List.mem_append.mp member with inside | inside
  · exact Json.spelled_of_readable readable.metadata
      (fun x fraction => back x (List.mem_append_left _ fraction)) n inside
  · exact Json.spelled_of_readable readable.extra
      (fun x fraction => back x (List.mem_append_right _ fraction)) n inside

/-! ## Lists of texts -/

/-- A list of values that are read one by one. -/
theorem mapM_map_eq_some {α β γ : Type} {read : β → Option γ} {write : α → β} {value : α → γ}
    {items : List α} (each : ∀ item ∈ items, read (write item) = some (value item)) :
    (items.map write).mapM read = some (items.map value) := by
  rw [List.mapM_map]
  exact Traversal.mapM_eq_some each

@[simp] theorem string?_toForm (text : String) : string? (toForm (.string text)) = some text := by
  rw [toForm, string?, Option.map_some, String.ofList_toList]

/-- Texts are read from their list. -/
theorem strings?_toForm {room : Nat} (some : room ≠ 0) (texts : List String) :
    strings? room (toForm (Json.strings texts)) = Option.some texts := by
  rw [Json.strings, toForm, itemForms_eq_map, List.map_map, strings?, list?, if_neg some]
  have each : (texts.map (toForm ∘ Json.string)).mapM string? =
      Option.some (texts.map fun text => text) :=
    mapM_map_eq_some fun text _ => string?_toForm text
  rwa [List.map_id'] at each

theorem identifier?_toForm (id : Identifier) :
    identifier? (toForm (.string id.text)) = some id := by
  rw [identifier?, string?_toForm]
  simp [Identifier.text, Identifier.ofChars?_chars]

/-- Identifiers are read from their list. -/
theorem identifiers?_toForm {room : Nat} (some : room ≠ 0) (ids : List Identifier) :
    identifiers? room (toForm (identifiers ids)) = Option.some ids := by
  rw [identifiers, Json.strings, toForm, itemForms_eq_map, List.map_map, List.map_map, identifiers?,
    list?, if_neg some]
  have each : (ids.map (toForm ∘ Json.string ∘ Identifier.text)).mapM identifier? =
      Option.some (ids.map fun id => id) :=
    mapM_map_eq_some fun id _ => identifier?_toForm id
  rwa [List.map_id'] at each

/-! ## Members by name -/

/-- Of pairs with different names one has a given name. -/
theorem filter_eq_singleton {α : Type} {pairs : List (String × α)}
    (once : (pairs.map Prod.fst).Nodup) {pair : String × α} (inside : pair ∈ pairs) :
    pairs.filter (fun other => other.1 = pair.1) = [pair] := by
  induction pairs with
  | nil => cases inside
  | cons first rest ih =>
    rw [List.map_cons, List.nodup_cons] at once
    rcases List.mem_cons.mp inside with rfl | later
    · rw [List.filter_cons_of_pos (by simp), List.filter_eq_nil_iff.mpr]
      intro other member
      have different : other.1 ≠ pair.1 := by
        intro same
        exact once.1 (same ▸ List.mem_map_of_mem member)
      simpa using different
    · have different : first.1 ≠ pair.1 := by
        intro same
        exact once.1 (same ▸ List.mem_map_of_mem later)
      rw [List.filter_cons_of_neg (by simpa using different), ih once.2 later]

/-- The members of an object with different names are found under their names. -/
theorem members?_memberForms {room : Nat} (filled : room ≠ 0) {members : List (String × Json)}
    (once : (members.map Prod.fst).Nodup) :
    members? room (members.map Prod.fst) (.object (memberForms members)) =
      some (members.map fun member => some (toForm member.2)) := by
  have named : (memberForms members).mapM
      (fun member => member.1.bind fun name => pure (String.ofList name, member.2)) =
        some (members.map fun member => (member.1, toForm member.2)) := by
    rw [memberForms_eq_map]
    refine mapM_map_eq_some fun member _ => ?_
    simp
  simp only [members?, if_neg filled, Option.bind_eq_bind]
  rw [named, Option.bind_some]
  refine mapM_map_eq_some fun member inside => ?_
  have names : ((members.map fun member => (member.1, toForm member.2)).map Prod.fst).Nodup := by
    rwa [List.map_map]
  have single := filter_eq_singleton names (List.mem_map_of_mem inside)
  simp only [single]

/-! ## The members of an entry -/

theorem level?_toForm (room : Nat) (level : Level) :
    level? room (toForm (.string level.name)) = some level := by
  rw [toForm, level?, Option.bind_eq_bind, Option.bind_some, String.ofList_toList]
  cases level <;> rfl

theorem optionalString?_toForm (text : Option String) :
    optionalString? (toForm (Json.optional text)) = some text := by
  cases text with
  | none => rfl
  | some text =>
    rw [Json.optional, toForm, optionalString?, string?, Option.map_some, String.ofList_toList]
    · rfl
    · nofun

/-- Free members are read back. -/
theorem freeMembers?_toForm {room : Nat} {members : List (String × Json)}
    (readable : (Json.object members).Readable room)
    (spelled : ∀ n ∈ (Json.object members).numbers, n.Spelled) :
    freeMembers? room (toForm (.object members)) = some members := by
  have value := Json.ofForm?_toForm room (.object members) readable spelled
  rw [toForm] at value ⊢
  rw [freeMembers?, value]

/-- Metadata is read back. -/
theorem metadata?_toForm {room : Nat} (filled : room ≠ 0) {members : List (String × Json)}
    (readable : (Json.object members).Readable (room - 1))
    (spelled : ∀ n ∈ (Json.object members).numbers, n.Spelled) :
    metadata? room (toForm (.object [("extra", .object members)])) = some members := by
  have found : members? room ["extra"] (toForm (.object [("extra", .object members)])) =
      some [some (toForm (.object members))] := by
    rw [toForm]
    exact members?_memberForms filled (by simp)
  rw [metadata?, found]
  simp only [Option.bind_eq_bind, Option.bind_some]
  exact freeMembers?_toForm readable spelled

/-- A link that comes after all others is put at the end. -/
theorem insertLink_of_forall_lt {id : Identifier} {ids : List Identifier}
    (greater : ∀ other ∈ ids, other.value < id.value) : insertLink id ids = ids ++ [id] := by
  induction ids with
  | nil => rfl
  | cons other rest ih =>
    have less : other.value < id.value := greater other List.mem_cons_self
    rw [insertLink, if_neg (by bv_omega), if_neg (by rintro rfl; bv_omega),
      ih fun later member => greater later (List.mem_cons_of_mem _ member), List.cons_append]

/-- Links in ascending order stay as they are. -/
theorem sortLinks_of_ascending {ids : List Identifier}
    (ascending : ids.Pairwise fun first second => first.value < second.value) :
    sortLinks ids = ids := by
  have step (rest sorted : List Identifier)
      (whole : (sorted ++ rest).Pairwise fun first second => first.value < second.value) :
      rest.foldl (fun sorted id => insertLink id sorted) sorted = sorted ++ rest := by
    induction rest generalizing sorted with
    | nil => rw [List.foldl_nil, List.append_nil]
    | cons id more ih =>
      have greater : ∀ other ∈ sorted, other.value < id.value := fun other member =>
        (List.pairwise_append.mp whole).2.2 other member id List.mem_cons_self
      have moved : sorted ++ id :: more = sorted ++ [id] ++ more := by simp
      rw [List.foldl_cons, insertLink_of_forall_lt greater, ih _ (moved ▸ whole), moved]
  exact step ids [] ascending

/-! ## Reading what was written -/

/-- The members of an entry are found in its form. -/
theorem members?_json (entry : Entry) :
    members? (Json.depthLimit - 2) memberNames (toForm entry.json) =
      some
        [some (toForm (.string entry.headWord)), some (toForm (.string entry.level.name)),
          some (toForm (.string entry.id.text)), some (toForm (Json.optional entry.definition)),
          some (toForm (Json.strings entry.equivalents)), some (toForm (identifiers entry.links)),
          some (toForm (identifiers entry.linkedEntries)),
          some (toForm (.object [("extra", .object entry.metadata)])),
          some (toForm (Json.strings entry.notes)), some (toForm (.object entry.extra))] := by
  have once : memberNames.Nodup := by decide
  rw [json, toForm]
  exact members?_memberForms (by decide) once

/-- **An entry is read back from its form.** -/
theorem ofForm?_toForm {entry : Entry} (readable : entry.Readable)
    (spelled : ∀ n ∈ entry.numbers, n.Spelled) (supply : Supply) :
    ofForm? (Json.depthLimit - 2) (toForm entry.json) supply = some (entry, supply) := by
  have room : Json.depthLimit - 2 - 1 ≠ 0 := by decide
  have metadata := metadata?_toForm room readable.metadata fun n member =>
    spelled n (List.mem_append_left _ member)
  have extra : freeMembers? (Json.depthLimit - 2 - 1) (toForm (.object entry.extra)) =
      some entry.extra :=
    freeMembers?_toForm readable.extra fun n member => spelled n (List.mem_append_right _ member)
  rw [ofForm?, members?_json]
  simp only [Option.bind_eq_bind, Option.bind_some, orElse, identifier?_toForm, Option.map_some,
    string?_toForm, level?_toForm, optionalString?_toForm, strings?_toForm room,
    identifiers?_toForm room, metadata, extra, sortLinks_of_ascending readable.links]
  rfl

/-- Entries are read back from their forms. -/
theorem ofForms?_toForm {entries : List Entry} (readable : ∀ entry ∈ entries, entry.Readable)
    (spelled : ∀ entry ∈ entries, ∀ n ∈ entry.numbers, n.Spelled) (supply : Supply) :
    ofForms? (Json.depthLimit - 2) (entries.map fun entry => toForm entry.json) supply =
      some (entries, supply) := by
  induction entries with
  | nil => rfl
  | cons entry rest ih =>
    have first := ofForm?_toForm (readable entry List.mem_cons_self)
      (spelled entry List.mem_cons_self) supply
    have others := ih (fun other member => readable other (List.mem_cons_of_mem _ member))
      fun other member => spelled other (List.mem_cons_of_mem _ member)
    rw [List.map_cons, ofForms?, first]
    simp only [Option.bind_eq_bind, Option.bind_some, others]
    rfl

theorem itemNumbers_map_string (texts : List String) :
    Json.itemNumbers (texts.map .string) = [] := by
  induction texts with
  | nil => rfl
  | cons text rest ih => simp [Json.itemNumbers, Json.numbers, ih]

/-- The numbers in an entry as a JSON value are those in its free members. -/
theorem numbers_json (entry : Entry) : entry.json.numbers = entry.numbers := by
  have definition : (Json.optional entry.definition).numbers = [] := by
    cases entry.definition <;> rfl
  have texts (list : List String) : (Json.strings list).numbers = [] := itemNumbers_map_string list
  simp [json, Json.numbers, Json.memberNumbers, definition, texts, identifiers, numbers]

/-- The value that is written to a file with some entries. -/
def fileJson (entries : List Entry) : Json :=
  .object [("entries", .array (entries.map json))]

/-- The text of a file is that of its value. -/
theorem fileText_eq (entries : List Entry) : fileText entries = (fileJson entries).pretty :=
  rfl

/-- The numbers in a file are those in its entries. -/
theorem numbers_fileJson (entries : List Entry) :
    (fileJson entries).numbers = entries.flatMap numbers := by
  have items : Json.itemNumbers (entries.map json) = entries.flatMap numbers := by
    induction entries with
    | nil => rfl
    | cons entry rest ih =>
      rw [List.map_cons, Json.itemNumbers, numbers_json, ih, List.flatMap_cons]
  rw [fileJson, Json.numbers, Json.memberNumbers, Json.numbers, items, Json.memberNumbers,
    List.append_nil]

/-- The form of a file is read back from its bytes, if all numbers in it are printed legibly. -/
theorem ofBytes?_fileText {entries : List Entry}
    (legible : ∀ entry ∈ entries, ∀ n ∈ entry.numbers, n.Legible) :
    Form.ofBytes? (fileText entries).toUTF8 =
      some (.object [(some "entries".toList, .array (entries.map fun entry => toForm entry.json))]) := by
  have all : ∀ n ∈ (fileJson entries).numbers, n.Legible := by
    intro n member
    rw [numbers_fileJson] at member
    obtain ⟨entry, inside, number⟩ := List.mem_flatMap.mp member
    exact legible entry inside n number
  rw [Form.ofBytes?, Bytes.chars_toUTF8, fileText_eq, Form.ofText?_pretty all, fileJson, toForm,
    memberForms, memberForms, toForm, itemForms_eq_map, List.map_map]
  rfl

/-- The forms of the entries in a file. -/
def forms? (bytes : ByteArray) : Option (List Form) := do
  match ← members? Json.depthLimit ["entries"] (← Form.ofBytes? bytes) with
  | [some (.array forms)] => return forms
  | [none] => return []
  | _ => none

/-- A file is read by way of the forms of its entries. -/
theorem ofFile?_eq_bind (bytes : ByteArray) (supply : Supply) :
    ofFile? bytes supply =
      (forms? bytes).bind fun forms => ofForms? (Json.depthLimit - 2) forms supply := by
  unfold ofFile? forms?
  simp only [Option.bind_eq_bind, Option.bind_assoc]
  refine Option.bind_congr fun form _ => Option.bind_congr fun members _ => ?_
  rcases members with _ | ⟨first, _ | ⟨second, rest⟩⟩
  · rfl
  · cases first with
    | none => rfl
    | some value => cases value <;> rfl
  · cases first with
    | none => rfl
    | some value => cases value <;> rfl

/-- The forms of the entries that a file was written with. -/
theorem forms?_fileText {entries : List Entry}
    (legible : ∀ entry ∈ entries, ∀ n ∈ entry.numbers, n.Legible) :
    forms? (fileText entries).toUTF8 = some (entries.map fun entry => toForm entry.json) := by
  have found : members? Json.depthLimit ["entries"]
      (.object [(some "entries".toList, .array (entries.map fun entry => toForm entry.json))]) =
        some [some (.array (entries.map fun entry => toForm entry.json))] := by
    simp [members?, Json.depthLimit]
  rw [forms?, ofBytes?_fileText legible]
  simp only [Option.bind_eq_bind, Option.bind_some, found, Option.pure_def]

/-- A file is read by way of the forms of the entries that it was written with. -/
theorem ofFile?_fileText_eq {entries : List Entry}
    (legible : ∀ entry ∈ entries, ∀ n ∈ entry.numbers, n.Legible) (supply : Supply) :
    ofFile? (fileText entries).toUTF8 supply =
      ofForms? (Json.depthLimit - 2) (entries.map fun entry => toForm entry.json) supply := by
  rw [ofFile?_eq_bind, forms?_fileText legible, Option.bind_some]

/-- **A file is read as the entries that it was written with.** -/
theorem ofFile?_fileText {entries : List Entry} (readable : ∀ entry ∈ entries, entry.Readable)
    (back : ∀ entry ∈ entries, entry.FractionsReadBack) (supply : Supply) :
    ofFile? (fileText entries).toUTF8 supply = some (entries, supply) := by
  have spelled : ∀ entry ∈ entries, ∀ n ∈ entry.numbers, n.Spelled := fun entry member =>
    spelled_of_readable (readable entry member) (back entry member)
  have legible : ∀ entry ∈ entries, ∀ n ∈ entry.numbers, n.Legible := fun entry member n number =>
    (spelled entry member n number).legible
  rw [ofFile?_fileText_eq legible, ofForms?_toForm readable spelled]

/-! ## What is read can be read again -/

theorem mem_insertLink {id other : Identifier} {ids : List Identifier}
    (inside : other ∈ insertLink id ids) : other = id ∨ other ∈ ids := by
  induction ids with
  | nil => exact .inl (List.mem_singleton.mp inside)
  | cons first rest ih =>
    rw [insertLink] at inside
    split at inside
    · exact List.mem_cons.mp inside
    · split at inside
      · exact .inr inside
      · rcases List.mem_cons.mp inside with same | later
        · exact .inr (same ▸ List.mem_cons_self)
        · exact (ih later).imp_right (List.mem_cons_of_mem _)

/-- Inserting a link keeps the order. -/
theorem ascending_insertLink {ids : List Identifier}
    (ascending : ids.Pairwise fun first second => first.value < second.value) (id : Identifier) :
    (insertLink id ids).Pairwise fun first second => first.value < second.value := by
  induction ids with
  | nil => exact List.pairwise_singleton _ id
  | cons first rest ih =>
    obtain ⟨below, sorted⟩ := List.pairwise_cons.mp ascending
    rw [insertLink]
    split
    · next less =>
      refine List.pairwise_cons.mpr ⟨fun other member => ?_, ascending⟩
      rcases List.mem_cons.mp member with rfl | later
      · exact less
      · have beyond := below other later
        bv_omega
    · split
      · exact ascending
      · next notLess notEqual =>
        have different : id.value ≠ first.value := by
          intro same
          exact notEqual (congrArg Identifier.mk same)
        refine List.pairwise_cons.mpr ⟨fun other member => ?_, ih sorted⟩
        rcases mem_insertLink member with rfl | later
        · bv_omega
        · exact below other later

/-- Sorted links are in ascending order. -/
theorem ascending_sortLinks (ids : List Identifier) :
    (sortLinks ids).Pairwise fun first second => first.value < second.value := by
  have fold (sorted : List Identifier)
      (ascending : sorted.Pairwise fun first second => first.value < second.value) :
      (ids.foldl (fun sorted id => insertLink id sorted) sorted).Pairwise
        fun first second => first.value < second.value := by
    induction ids generalizing sorted with
    | nil => exact ascending
    | cons id rest ih => exact ih _ (ascending_insertLink ascending id)
  exact fold [] List.Pairwise.nil

theorem readable_object_nil {room : Nat} (filled : room ≠ 0) :
    (Json.object []).Readable room :=
  ⟨filled, List.Pairwise.nil, trivial⟩

theorem readable_of_freeMembers? {room : Nat} {form : Form} {members : List (String × Json)}
    (read : freeMembers? room form = some members) : (Json.object members).Readable room := by
  unfold freeMembers? at read
  split at read
  · split at read
    · next value =>
      cases read
      exact Json.readable_of_ofForm? room _ value
    · cases read
  · cases read

/-- Free members that are left out are none. -/
theorem readable_of_orElse {inner : Nat} (filled : inner ≠ 0) {read : Form → Option _}
    (each : ∀ form members, read form = some members → (Json.object members).Readable inner)
    {form : Option Form} {members : List (String × Json)}
    (found : orElse read [] form = some members) : (Json.object members).Readable inner := by
  cases form with
  | none =>
    cases found
    exact readable_object_nil filled
  | some form => exact each form members found

theorem readable_of_metadata? {room : Nat} (filled : room - 1 ≠ 0) {form : Form}
    {members : List (String × Json)} (read : metadata? room form = some members) :
    (Json.object members).Readable (room - 1) := by
  unfold metadata? at read
  obtain ⟨list, _, read⟩ := Option.bind_eq_some_iff.mp read
  split at read
  · exact readable_of_freeMembers? read
  · cases read
    exact readable_object_nil filled

/-- **Every entry that is read from a file can be read again.** -/
theorem readable_of_ofForm? {form : Form} {supply after : Supply} {entry : Entry}
    (read : ofForm? (Json.depthLimit - 2) form supply = some (entry, after)) : entry.Readable := by
  unfold ofForm? at read
  obtain ⟨members, _, read⟩ := Option.bind_eq_some_iff.mp read
  split at read
  · simp only [Option.bind_eq_bind] at read
    -- With an identifier or without one, the members are read in the same way.
    split at read
    all_goals
      simp only [Option.bind_eq_some_iff, Option.pure_def, Option.some.injEq, Prod.mk.injEq] at read
      obtain ⟨_, _, _, _, _, _, _, _, _, _, _, _, links, _, _, _, _, metadata, _, _, _, extra, rfl,
        _⟩ := read
      exact ⟨ascending_sortLinks links,
        readable_of_orElse (by decide) (fun _ _ => readable_of_metadata? (by decide)) metadata,
        readable_of_orElse (by decide) (fun _ _ => readable_of_freeMembers?) extra⟩
  · cases read

theorem readable_of_ofForms? {forms : List Form} {supply after : Supply} {entries : List Entry}
    (read : ofForms? (Json.depthLimit - 2) forms supply = some (entries, after)) :
    ∀ entry ∈ entries, entry.Readable := by
  induction forms generalizing supply entries with
  | nil =>
    cases read
    exact fun _ impossible => nomatch impossible
  | cons form rest ih =>
    rw [ofForms?] at read
    obtain ⟨⟨first, next⟩, head, read⟩ := Option.bind_eq_some_iff.mp read
    obtain ⟨⟨others, last⟩, tail, read⟩ := Option.bind_eq_some_iff.mp read
    cases read
    intro entry member
    rcases List.mem_cons.mp member with rfl | later
    · exact readable_of_ofForm? head
    · exact ih tail entry later

/-- All entries that are read from a file can be read again. -/
theorem readable_of_ofFile? {bytes : ByteArray} {supply after : Supply} {entries : List Entry}
    (read : ofFile? bytes supply = some (entries, after)) : ∀ entry ∈ entries, entry.Readable := by
  unfold ofFile? at read
  obtain ⟨form, _, read⟩ := Option.bind_eq_some_iff.mp read
  obtain ⟨members, _, read⟩ := Option.bind_eq_some_iff.mp read
  split at read
  · exact readable_of_ofForms? read
  · cases read
    exact fun _ impossible => nomatch impossible
  · cases read

/-- A new entry for a word can be read from a file. -/
theorem readable_ofWord (word : String) (level : Level) (id : Identifier) :
    (ofWord word level id).Readable :=
  ⟨List.Pairwise.nil, readable_object_nil (by decide), readable_object_nil (by decide)⟩

end Entry

end Orthography
