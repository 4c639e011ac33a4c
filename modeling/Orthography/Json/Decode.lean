import Orthography.Json.Form
import Orthography.Json.Number

/-!
# Values from forms

The second step of reading a JSON text: the value of a form.  Here strings have to be made of
characters, numbers may not be too large, and arrays and objects may be nested only so deep.
-/

namespace Orthography.Json

set_option autoImplicit false

/-- How many arrays and objects may be open at once. -/
def depthLimit : Nat := 127

mutual

/-- The value of a form, with room for so many arrays and objects inside each other. -/
def ofForm? (room : Nat) : Form → Option Json
  | .null => some .null
  | .bool value => some (.bool value)
  | .number spelling => (Number.ofSpelling? spelling).map .number
  | .string content => content.map fun chars => .string (String.ofList chars)
  | .array items =>
    if room = 0 then none else (ofItems? (room - 1) items).map .array
  | .object members =>
    if room = 0 then none else (ofFormMembers? (room - 1) members).map ofMembers

/-- The values of the items of an array. -/
def ofItems? (room : Nat) : List Form → Option (List Json)
  | [] => some []
  | form :: rest => do return (← ofForm? room form) :: (← ofItems? room rest)

/-- The values of the members of an object, in the order of the text. -/
def ofFormMembers? (room : Nat) :
    List (Option (List Char) × Form) → Option (List (String × Json))
  | [] => some []
  | (name, form) :: rest => do
    let member := (String.ofList (← name), ← ofForm? room form)
    return member :: (← ofFormMembers? room rest)

end

/-- The value of a JSON text. -/
def ofText? (text : String) : Option Json := do
  ofForm? depthLimit (← Form.ofText? (text.toList.map some))

end Orthography.Json
