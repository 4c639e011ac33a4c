import Orthography.Json.Decode
import Orthography.Json.Printer
import Orthography.Lexicon.Entry

/-!
# Entries in files

A file of a lexicon is a JSON object with a list of entries.  What is left out takes its usual
value; an entry without an identifier gets a new one.  Members that are not known are skipped
without a look at what they hold.  The members of an object may also be given in their order, as an
array.
-/

namespace Orthography

set_option autoImplicit false

namespace Entry

/-! ## Writing -/

/-- Identifiers as texts. -/
def identifiers (ids : List Identifier) : Json :=
  .strings (ids.map Identifier.text)

/-- An entry as a JSON value. -/
def json (entry : Entry) : Json :=
  .object
    [("headWord", .string entry.headWord),
      ("level", .string entry.level.name),
      ("id", .string entry.id.text),
      ("definition", .optional entry.definition),
      ("translationEquivalents", .strings entry.equivalents),
      ("links", identifiers entry.links),
      ("linkedEntries", identifiers entry.linkedEntries),
      ("metadata", .object [("extra", .object entry.metadata)]),
      ("notes", .strings entry.notes),
      ("extra", .object entry.extra)]

/-- The text of a file with some entries. -/
def fileText (entries : List Entry) : String :=
  (Json.object [("entries", .array (entries.map json))]).pretty

/-! ## Reading

Each reader takes the room that is left for arrays and objects inside each other. -/

open Json (Form)

/-- The forms of the members with the given names, in the order of the names: of an object, by name,
no name twice; of an array, by position. -/
def members? (room : Nat) (names : List String) (form : Form) : Option (List (Option Form)) :=
  if room = 0 then none
  else
    match form with
    | .object members => do
      let named ← members.mapM fun (name, value) => do
        return (String.ofList (← name), value)
      names.mapM fun name =>
        match named.filter fun member => member.1 = name with
        | [] => some none
        | [member] => some (some member.2)
        | _ => none
    | .array items =>
      if names.length < items.length then none
      else
        some (items.map some ++ List.replicate (names.length - items.length) none)
    | _ => none

/-- A text. -/
def string? : Form → Option String
  | .string content => content.map String.ofList
  | _ => none

/-- The items of an array, each read in the room that is left inside it. -/
def list? {α : Type} (item : Nat → Form → Option α) (room : Nat) : Form → Option (List α)
  | .array items => if room = 0 then none else items.mapM (item (room - 1))
  | _ => none

/-- A list of texts. -/
def strings? (room : Nat) (form : Form) : Option (List String) :=
  list? (fun _ => string?) room form

/-- An identifier. -/
def identifier? (form : Form) : Option Identifier := do
  Identifier.ofChars? (← string? form).toList

/-- A list of identifiers. -/
def identifiers? (room : Nat) (form : Form) : Option (List Identifier) :=
  list? (fun _ => identifier?) room form

/-- A level: its name, or an object with its name and nothing under it. -/
def level? (room : Nat) : Form → Option Level
  | .string content => do Level.named? (String.ofList (← content))
  | .object [(name, .null)] => if room = 0 then none else do Level.named? (String.ofList (← name))
  | _ => none

/-- A text, or nothing. -/
def optionalString? : Form → Option (Option String)
  | .null => some none
  | form => (string? form).map some

/-- The free members of an object, in ascending order of their names. -/
def freeMembers? (room : Nat) (form : Form) : Option (List (String × Json)) :=
  match form with
  | .object _ =>
    match Json.ofForm? room form with
    | some (.object members) => some members
    | _ => none
  | _ => none

/-- The metadata of an entry. -/
def metadata? (room : Nat) (form : Form) : Option (List (String × Json)) := do
  match ← members? room ["extra"] form with
  | [some extra] => freeMembers? (room - 1) extra
  | _ => return []

/-- What is read from a member, or a usual value where there is none. -/
def orElse {α : Type} (read : Form → Option α) (usual : α) : Option Form → Option α
  | some form => read form
  | none => some usual

/-- The members of an entry, in their order. -/
def memberNames : List String :=
  ["headWord", "level", "id", "definition", "translationEquivalents", "links", "linkedEntries",
    "metadata", "notes", "extra"]

/-- The entry that a form stands for, and the identifiers left after it. -/
def ofForm? (room : Nat) (form : Form) (supply : Supply) : Option (Entry × Supply) := do
  match ← members? room memberNames form with
  | [headWord, level, id, definition, equivalents, links, linkedEntries, metadata,
      notes, extra] =>
    let room := room - 1
    let (id, supply) ←
      match id with
      | some form => (identifier? form).map fun id => (id, supply)
      | none => some supply.draw
    let entry : Entry :=
      { headWord := ← string? (← headWord)
        level := ← orElse (level? room) .unverified level
        id := id
        definition := ← orElse optionalString? none definition
        equivalents := ← orElse (strings? room) [] equivalents
        links := sortLinks (← orElse (identifiers? room) [] links)
        linkedEntries := ← orElse (identifiers? room) [] linkedEntries
        metadata := ← orElse (metadata? room) [] metadata
        notes := ← orElse (strings? room) [] notes
        extra := ← orElse (freeMembers? room) [] extra }
    return (entry, supply)
  | _ => none

/-- The entries that some forms stand for, and the identifiers left after them. -/
def ofForms? (room : Nat) : List Form → Supply → Option (List Entry × Supply)
  | [], supply => some ([], supply)
  | form :: rest, supply => do
    let (entry, supply) ← ofForm? room form supply
    let (entries, supply) ← ofForms? room rest supply
    return (entry :: entries, supply)

/-- The entries of a file, and the identifiers left after them. -/
def ofFile? (bytes : ByteArray) (supply : Supply) : Option (List Entry × Supply) := do
  match ← members? Json.depthLimit ["entries"] (← Form.ofBytes? bytes) with
  | [some (.array forms)] => ofForms? (Json.depthLimit - 2) forms supply
  | [none] => return ([], supply)
  | _ => none

end Entry

end Orthography
