import Orthography.Proofs.Json.Quoted
import Orthography.Proofs.Json.Spelling

/-!
# Printed values are read as their forms

Every value has a form (`Json.toForm`), and a value that is printed over several lines is read as
its form, with the text after it left over (`Json.readForm_prettyChars`).  This holds for all values
whose numbers are printed legibly.

The proof is by induction on the value, together with the lists of items and members in it.  Values
inside others stand behind line breaks, which are skipped wherever a value or a name may start.
-/

namespace Orthography.Json

set_option autoImplicit false

/-! ## Forms and numbers of values -/

mutual

/-- The form of a value. -/
def toForm : Json → Form
  | .null => .null
  | .bool value => .bool value
  | .number value => .number value.chars
  | .string value => .string (some value.toList)
  | .array items => .array (itemForms items)
  | .object members => .object (memberForms members)

/-- The forms of the items of an array. -/
def itemForms : List Json → List Form
  | [] => []
  | item :: rest => toForm item :: itemForms rest

/-- The forms of the members of an object. -/
def memberForms : List (String × Json) → List (Option (List Char) × Form)
  | [] => []
  | (name, value) :: rest => (some name.toList, toForm value) :: memberForms rest

end

theorem itemForms_eq_map (items : List Json) : itemForms items = items.map toForm := by
  induction items with
  | nil => rfl
  | cons item rest ih => rw [itemForms, ih, List.map_cons]

theorem memberForms_eq_map (members : List (String × Json)) :
    memberForms members = members.map fun member => (some member.1.toList, toForm member.2) := by
  induction members with
  | nil => rfl
  | cons member rest ih =>
    obtain ⟨name, value⟩ := member
    rw [memberForms, ih, List.map_cons]

mutual

/-- The numbers in a value. -/
def numbers : Json → List Number
  | .number value => [value]
  | .array items => itemNumbers items
  | .object members => memberNumbers members
  | _ => []

/-- The numbers in the items of an array. -/
def itemNumbers : List Json → List Number
  | [] => []
  | item :: rest => numbers item ++ itemNumbers rest

/-- The numbers in the members of an object. -/
def memberNumbers : List (String × Json) → List Number
  | [] => []
  | (_, value) :: rest => numbers value ++ memberNumbers rest

end

/-! ## White space -/

/-- White space is skipped at once. -/
theorem skipSpace_skipSpace (text : Text) : skipSpace (skipSpace text) = skipSpace text := by
  induction text with
  | nil => rfl
  | cons c rest ih =>
    cases c with
    | none => rfl
    | some c =>
      by_cases space : (c = ' ' || c = '\n' || c = '\t' || c = '\r') = true
      · rw [skipSpace, if_pos space, ih]
      · rw [skipSpace, if_neg space, skipSpace, if_neg space]

/-- A line break and the spaces after it are skipped. -/
theorem skipSpace_newline (level : Nat) (rest : Text) :
    skipSpace ((newline level).map some ++ rest) = skipSpace rest := by
  have spaces (count : Nat) :
      skipSpace ((List.replicate count ' ').map some ++ rest) = skipSpace rest := by
    induction count with
    | zero => rfl
    | succ count ih =>
      rw [List.replicate_succ, List.map_cons, List.cons_append, skipSpace, if_pos (by decide), ih]
  rw [newline, List.map_cons, List.cons_append, skipSpace, if_pos (by decide), spaces]

theorem readForm_skipSpace (fuel : Nat) (text : Text) :
    readForm fuel (skipSpace text) = readForm fuel text := by
  cases fuel with
  | zero => rfl
  | succ fuel => rw [readForm, readForm, skipSpace_skipSpace]

theorem readItems_skipSpace (fuel : Nat) (text : Text) :
    readItems fuel (skipSpace text) = readItems fuel text := by
  cases fuel with
  | zero => rfl
  | succ fuel => rw [readItems, readItems, readForm_skipSpace]

theorem readMembers_skipSpace (fuel : Nat) (text : Text) :
    readMembers fuel (skipSpace text) = readMembers fuel text := by
  cases fuel with
  | zero => rfl
  | succ fuel => rw [readMembers, readMembers, skipSpace_skipSpace]

/-! ## How values start -/

/-- A character that a printed value starts with. -/
def startsValue (c : Char) : Bool :=
  isNumberChar c || ['n', 't', 'f', '"', '[', '\x7b'].contains c

theorem isNumberChar_of_mem_chars {n : Number} {c : Char} (member : c ∈ n.chars) :
    isNumberChar c = true := by
  cases n with
  | natural n => exact isNumberChar_of_mem_digits member
  | negative n =>
    rcases List.mem_cons.mp member with rfl | digit
    · decide
    · exact isNumberChar_of_mem_digits digit
  | fraction x => exact isNumberChar_of_mem_literal member

/-- A number that is printed legibly is not printed as nothing. -/
theorem Number.Legible.exists_cons {n : Number} (legible : n.Legible) :
    ∃ c more, n.chars = c :: more ∧ isNumberChar c = true := by
  cases chars : n.chars with
  | nil =>
    have read := legible
    rw [Number.Legible, chars] at read
    simp [readNumber, readMinus, readWhole, readDigits] at read
  | cons c more =>
    exact ⟨c, more, rfl, isNumberChar_of_mem_chars (n := n) (by rw [chars]; exact List.mem_cons_self)⟩

theorem exists_prettyChars_eq_cons {value : Json} (legible : ∀ n ∈ value.numbers, n.Legible)
    (level : Nat) : ∃ c more, prettyChars level value = c :: more ∧ startsValue c = true := by
  cases value with
  | null => exact ⟨'n', _, by rw [prettyChars]; rfl, by decide⟩
  | bool value =>
    cases value with
    | true => exact ⟨'t', _, by rw [prettyChars]; rfl, by decide⟩
    | false => exact ⟨'f', _, by rw [prettyChars]; rfl, by decide⟩
  | number n =>
    obtain ⟨c, more, chars, start⟩ := (legible n (by simp [numbers])).exists_cons
    exact ⟨c, more, by rw [prettyChars, chars], by simp [startsValue, start]⟩
  | string text => exact ⟨'"', _, by rw [prettyChars, quoted]; rfl, by decide⟩
  | array items =>
    cases items with
    | nil => exact ⟨'[', _, by rw [prettyChars]; rfl, by decide⟩
    | cons item rest => exact ⟨'[', _, by rw [prettyChars]; rfl, by decide⟩
  | object members =>
    cases members with
    | nil => exact ⟨'\x7b', _, by rw [prettyChars], by decide⟩
    | cons member rest => exact ⟨'\x7b', _, by rw [prettyChars]; rfl, by decide⟩

/-- Nothing is skipped in front of a value. -/
theorem skipSpace_of_startsValue {c : Char} (start : startsValue c = true) (more : Text) :
    skipSpace (some c :: more) = some c :: more :=
  skipSpace_of_class (by decide) start more

/-! ## Reading what was printed -/

/-- Items after the first one stand behind a comma. -/
theorem prettyItems_false_cons (level : Nat) (item : Json) (rest : List Json) :
    prettyItems level false (item :: rest) = ',' :: prettyItems level true (item :: rest) := by
  simp [prettyItems]

/-- Members after the first one stand behind a comma. -/
theorem prettyMembers_false_cons (level : Nat) (member : String × Json)
    (rest : List (String × Json)) :
    prettyMembers level false (member :: rest) = ',' :: prettyMembers level true (member :: rest) := by
  simp [prettyMembers]

/-- What follows an item or a member does not go on with a number. -/
theorem endsNumber_newline (level : Nat) (rest : Text) :
    EndsNumber ((newline level).map some ++ rest) :=
  endsNumber_cons (by decide) _

theorem endsNumber_comma (rest : Text) : EndsNumber (some ',' :: rest) :=
  endsNumber_cons (by decide) rest

/-- Items are no closing bracket. -/
theorem exists_skipSpace_prettyItems {item : Json} (legible : ∀ n ∈ item.numbers, n.Legible)
    (items : List Json) (level : Nat) (rest : Text) :
    ∃ c more, skipSpace ((prettyItems level true (item :: items)).map some ++ rest) =
      some c :: more ∧ c ≠ ']' := by
  obtain ⟨c, more, chars, start⟩ := exists_prettyChars_eq_cons legible level
  refine ⟨c, more.map some ++ ((prettyItems level false items).map some ++ rest), ?_,
    ne_of_class start (by decide)⟩
  rw [prettyItems, if_pos rfl, List.nil_append, chars]
  simp only [List.map_append, List.map_cons, List.append_assoc, List.cons_append,
    skipSpace_newline, skipSpace_of_startsValue start]

/-- Members start with a quote. -/
theorem skipSpace_prettyMembers (name : String) (value : Json) (members : List (String × Json))
    (level : Nat) (rest : Text) :
    skipSpace ((prettyMembers level true ((name, value) :: members)).map some ++ rest) =
      some '"' :: ((name.toList.flatMap escape ++ ['"']).map some ++
        (some ':' :: some ' ' :: ((prettyChars level value).map some ++
          ((prettyMembers level false members).map some ++ rest)))) := by
  rw [prettyMembers, if_pos rfl, List.nil_append, quoted]
  simp only [List.map_append, List.map_cons, List.map_nil, List.append_assoc, List.cons_append,
    List.nil_append, skipSpace_newline, skipSpace_visible (c := '"') (by decide)]

mutual

/-- **A printed value is read as its form.** -/
theorem readForm_prettyChars (value : Json) (legible : ∀ n ∈ value.numbers, n.Legible)
    (level fuel : Nat) (enough : 2 * (prettyChars level value).length ≤ fuel) {rest : Text}
    (ends : EndsNumber rest) :
    readForm fuel ((prettyChars level value).map some ++ rest) = some (toForm value, rest) := by
  obtain ⟨c, more, chars, start⟩ := exists_prettyChars_eq_cons legible level
  have positive : 0 < fuel := by
    rw [chars, List.length_cons] at enough
    omega
  obtain ⟨fuel, rfl⟩ := Nat.exists_eq_succ_of_ne_zero (Nat.ne_of_gt positive)
  match value with
  | .null => rfl
  | .bool true => rfl
  | .bool false => rfl
  | .number n =>
    have itself := legible n (by simp [numbers])
    obtain ⟨first, others, row, digit⟩ := itself.exists_cons
    rw [prettyChars, row, List.map_cons, List.cons_append, readForm_of_isNumberChar digit,
      ← List.cons_append, ← List.map_cons, ← row, readNumber_append ends itself]
    rfl
  | .string text =>
    rw [prettyChars, quoted, List.cons_append, List.map_cons, List.cons_append, readForm,
      skipSpace_visible (c := '"') (by decide)]
    simp only [readString_quoted, Option.map_some, toForm]
  | .array [] => rfl
  | .array (item :: items) =>
    have inside : readItems fuel ((prettyItems (level + 1) true (item :: items)).map some ++
        ((newline level).map some ++ some ']' :: rest)) =
          some (itemForms (item :: items), rest) := by
      refine readItems_prettyItems (item :: items) (List.cons_ne_nil item items) ?_ _ _ ?_ _ _
      · simpa only [numbers] using legible
      · simp only [prettyChars, List.length_append, List.length_cons] at enough
        omega
    have text : (prettyChars level (.array (item :: items))).map some ++ rest =
        some '[' :: ((prettyItems (level + 1) true (item :: items)).map some ++
          ((newline level).map some ++ some ']' :: rest)) := by
      simp [prettyChars]
    have legibleItem : ∀ n ∈ item.numbers, n.Legible := fun n member =>
      legible n (by simp [numbers, itemNumbers, member])
    obtain ⟨d, others, first, notClosed⟩ := exists_skipSpace_prettyItems legibleItem items
      (level + 1) ((newline level).map some ++ some ']' :: rest)
    rw [text, readForm, skipSpace_visible (c := '[') (by decide)]
    simp only
    split
    · next closed =>
      rw [first] at closed
      cases closed
      exact absurd rfl notClosed
    · rw [readItems_skipSpace, inside]
      rfl
  | .object [] => rfl
  | .object ((name, value) :: members) =>
    have inside : readMembers fuel ((prettyMembers (level + 1) true ((name, value) :: members)).map
        some ++ ((newline level).map some ++ some '\x7d' :: rest)) =
          some (memberForms ((name, value) :: members), rest) := by
      refine readMembers_prettyMembers _ (List.cons_ne_nil _ members) ?_ _ _ ?_ _ _
      · simpa only [numbers] using legible
      · simp only [prettyChars, List.length_append, List.length_cons] at enough
        omega
    have text : (prettyChars level (.object ((name, value) :: members))).map some ++ rest =
        some '\x7b' :: ((prettyMembers (level + 1) true ((name, value) :: members)).map some ++
          ((newline level).map some ++ some '\x7d' :: rest)) := by
      simp [prettyChars]
    rw [text, readForm, skipSpace_visible (c := '\x7b') (by decide)]
    simp only
    split
    · next closed =>
      rw [skipSpace_prettyMembers] at closed
      cases closed
    · rw [readMembers_skipSpace, inside]
      rfl

/-- Printed items are read as their forms, up to the closing bracket. -/
theorem readItems_prettyItems (items : List Json) (filled : items ≠ [])
    (legible : ∀ n ∈ itemNumbers items, n.Legible) (level fuel : Nat)
    (enough : 2 * (prettyItems level true items).length ≤ fuel) (last : Nat) (rest : Text) :
    readItems fuel ((prettyItems level true items).map some ++
      ((newline last).map some ++ some ']' :: rest)) = some (itemForms items, rest) := by
  match items with
  | [] => exact absurd rfl filled
  | item :: others =>
    simp only [itemNumbers, List.mem_append] at legible
    simp only [prettyItems, if_true, List.nil_append, List.length_append, newline,
      List.length_cons] at enough
    obtain ⟨fuel, rfl⟩ := Nat.exists_eq_succ_of_ne_zero (n := fuel) (by omega)
    -- The item itself, with whatever stands behind it.
    have read {behind : Text} (ends : EndsNumber behind) :
        readForm fuel ((newline level).map some ++
          ((prettyChars level item).map some ++ behind)) = some (toForm item, behind) := by
      rw [← readForm_skipSpace, skipSpace_newline, readForm_skipSpace]
      exact readForm_prettyChars item (fun n member => legible n (.inl member)) level fuel
        (by omega) ends
    match others with
    | [] =>
      have text : (prettyItems level true [item]).map some ++
          ((newline last).map some ++ some ']' :: rest) =
            (newline level).map some ++ ((prettyChars level item).map some ++
              ((newline last).map some ++ some ']' :: rest)) := by
        simp [prettyItems]
      have closed : skipSpace (some ']' :: rest) = some ']' :: rest :=
        skipSpace_visible (by decide) rest
      rw [text, readItems, read (endsNumber_newline _ _)]
      simp only [Option.bind_eq_bind, Option.bind_some, skipSpace_newline, closed]
      rfl
    | next :: more =>
      have text : (prettyItems level true (item :: next :: more)).map some ++
          ((newline last).map some ++ some ']' :: rest) =
            (newline level).map some ++ ((prettyChars level item).map some ++
              (some ',' :: ((prettyItems level true (next :: more)).map some ++
                ((newline last).map some ++ some ']' :: rest)))) := by
        rw [prettyItems, prettyItems_false_cons]
        simp
      have comma (behind : Text) : skipSpace (some ',' :: behind) = some ',' :: behind :=
        skipSpace_visible (by decide) behind
      rw [prettyItems_false_cons, List.length_cons] at enough
      have others := readItems_prettyItems (next :: more) (List.cons_ne_nil next more)
        (fun n member => legible n (.inr member)) level fuel (by omega) last rest
      rw [text, readItems, read (endsNumber_comma _)]
      simp only [Option.bind_eq_bind, Option.bind_some, comma, others]
      rfl

/-- Printed members are read as their forms, up to the closing brace. -/
theorem readMembers_prettyMembers (members : List (String × Json)) (filled : members ≠ [])
    (legible : ∀ n ∈ memberNumbers members, n.Legible) (level fuel : Nat)
    (enough : 2 * (prettyMembers level true members).length ≤ fuel) (last : Nat) (rest : Text) :
    readMembers fuel ((prettyMembers level true members).map some ++
      ((newline last).map some ++ some '\x7d' :: rest)) = some (memberForms members, rest) := by
  match members with
  | [] => exact absurd rfl filled
  | (name, value) :: others =>
    simp only [memberNumbers, List.mem_append] at legible
    simp only [prettyMembers, if_true, List.nil_append, List.length_append, newline,
      List.length_cons] at enough
    obtain ⟨fuel, rfl⟩ := Nat.exists_eq_succ_of_ne_zero (n := fuel) (by omega)
    have colon (behind : Text) : skipSpace (some ':' :: behind) = some ':' :: behind :=
      skipSpace_visible (by decide) behind
    -- The value itself, with whatever stands behind it.
    have read {behind : Text} (ends : EndsNumber behind) :
        readForm fuel (some ' ' :: ((prettyChars level value).map some ++ behind)) =
          some (toForm value, behind) := by
      rw [← readForm_skipSpace, skipSpace, if_pos (by decide), readForm_skipSpace]
      exact readForm_prettyChars value (fun n member => legible n (.inl member)) level fuel
        (by omega) ends
    rw [readMembers, skipSpace_prettyMembers]
    simp only [readString_quoted, Option.bind_eq_bind, Option.bind_some, colon]
    match others with
    | [] =>
      have closed : skipSpace (some '\x7d' :: rest) = some '\x7d' :: rest :=
        skipSpace_visible (by decide) rest
      rw [prettyMembers, List.map_nil, List.nil_append, read (endsNumber_newline _ _)]
      simp only [Option.bind_some, skipSpace_newline, closed]
      rfl
    | next :: more =>
      have comma (behind : Text) : skipSpace (some ',' :: behind) = some ',' :: behind :=
        skipSpace_visible (by decide) behind
      rw [prettyMembers_false_cons, List.length_cons] at enough
      have others := readMembers_prettyMembers (next :: more) (List.cons_ne_nil next more)
        (fun n member => legible n (.inr member)) level fuel (by omega) last rest
      rw [prettyMembers_false_cons, List.map_cons, List.cons_append, read (endsNumber_comma _)]
      simp only [Option.bind_some, comma, others]
      rfl

end

/-- A printed value with nothing but white space behind it is read as its form. -/
theorem Form.ofText?_pretty_append {value : Json} (legible : ∀ n ∈ value.numbers, n.Legible)
    {rest : Text} (ends : EndsNumber rest) (blank : skipSpace rest = []) :
    Form.ofText? (value.pretty.toList.map some ++ rest) = some (toForm value) := by
  have read := readForm_prettyChars value legible 0
    (2 * ((prettyChars 0 value).map some ++ rest).length + 2)
    (by rw [List.length_append, List.length_map]; omega) ends
  rw [pretty, String.toList_ofList, Form.ofText?, read]
  simp [blank]

/-- **A printed value is read back as a whole.** -/
theorem Form.ofText?_pretty {value : Json} (legible : ∀ n ∈ value.numbers, n.Legible) :
    Form.ofText? (value.pretty.toList.map some) = some (toForm value) := by
  have whole := ofText?_pretty_append legible endsNumber_nil rfl
  rwa [List.append_nil] at whole

end Orthography.Json
