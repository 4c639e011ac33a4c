import Orthography.Number.Binary64

/-!
# JSON values

A number without a fraction is kept exactly when it fits 64 bits, with or without a sign; any other
number is a binary fraction.  The members of an object that was read stand in ascending order of
their names; those of an object that is made for printing stand in the order in which they are given.
-/

namespace Orthography

set_option autoImplicit false

/-- A number as JSON has it. -/
inductive Json.Number where
  /-- A whole number that is not negative. -/
  | natural (n : Nat)
  /-- The negative of a positive whole number. -/
  | negative (n : Nat)
  | fraction (x : Binary64)
deriving DecidableEq, Repr

/-- A JSON value. -/
inductive Json where
  | null
  | bool (value : Bool)
  | number (value : Json.Number)
  | string (value : String)
  | array (items : List Json)
  | object (members : List (String × Json))
deriving Repr

namespace Json

/-- Members with one more, at the place of its name; a member of the same name is replaced. -/
def insertMember (name : String) (value : Json) : List (String × Json) → List (String × Json)
  | [] => [(name, value)]
  | (other, held) :: rest =>
    if name < other then (name, value) :: (other, held) :: rest
    else if name = other then (name, value) :: rest
    else (other, held) :: insertMember name value rest

/-- The object with some members; of two with the same name the last one counts. -/
def ofMembers (members : List (String × Json)) : Json :=
  .object (members.foldl (fun sorted (name, value) => insertMember name value sorted) [])

/-- A natural number. -/
def nat (n : Nat) : Json :=
  .number (.natural n)

/-- A list of texts. -/
def strings (texts : List String) : Json :=
  .array (texts.map .string)

/-- A text, or nothing. -/
def optional : Option String → Json
  | some text => .string text
  | none => .null

/-- The member of an object with a name. -/
def get? (value : Json) (name : String) : Option Json :=
  match value with
  | .object members => members.lookup name
  | _ => none

end Json

end Orthography
