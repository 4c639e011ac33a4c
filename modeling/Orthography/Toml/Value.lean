import Orthography.Number.Binary64

/-!
# TOML documents

A TOML document is a table.  Tables are put together from headers and dotted keys, and how a table
came about decides what may be added to it later.
-/

namespace Orthography.Toml

set_option autoImplicit false

/-- How a table came about. -/
inductive TableKind where
  /-- By a header of its own, or as the document. -/
  | header
  /-- By a header of a table inside it. -/
  | implied
  /-- By a dotted key. -/
  | dotted
  /-- In braces; nothing can be added to it. -/
  | inline
deriving DecidableEq, Repr

/-- A TOML value. -/
inductive Value where
  | string (text : String)
  | integer (n : Int)
  | float (x : Binary64)
  | boolean (value : Bool)
  /-- A date, a time of day, or both. -/
  | moment
  | array (items : List Value)
  | table (kind : TableKind) (entries : List (String × Value))
  /-- The tables that double headers of one name add up to. -/
  | tables (items : List (List (String × Value)))
deriving Repr

/-- The keys of a table with their values, in the order in which they came. -/
abbrev Entries := List (String × Value)

/-- Entries with the value of a key replaced. -/
def setEntry (key : String) (value : Value) : Entries → Entries
  | [] => []
  | (other, held) :: rest =>
    if other = key then (key, value) :: rest else (other, held) :: setEntry key value rest

/-- Changes the table that a path of keys leads to.  Tables that are missing on the way are made.  A
path leads through the last one of several tables with a double header.  A dotted key leads into no
table that has a header of its own, and nothing leads into other values. -/
def within {α : Type} (dotted : Bool) (change : TableKind → Entries → Option (Entries × α)) :
    List String → TableKind → Entries → Option (Entries × α)
  | [], kind, entries => change kind entries
  | key :: rest, _, entries =>
    match entries.lookup key with
    | none => do
      let made := if dotted then TableKind.dotted else TableKind.implied
      let (inner, result) ← within dotted change rest made []
      return (entries ++ [(key, .table made inner)], result)
    | some (.table kind inner) =>
      if kind = .inline || (dotted && kind = .header) then none
      else do
        let (inner, result) ← within dotted change rest kind inner
        return (setEntry key (.table kind inner) entries, result)
    | some (.tables items) => do
      let (inner, result) ← within dotted change rest .header (items.getLast?.getD [])
      return (setEntry key (.tables (items.dropLast ++ [inner])) entries, result)
    | some _ => none

/-- Adds a key to a table.  A table of dotted keys takes only dotted keys, and no key comes
twice. -/
def addKey (dotted : Bool) (key : String) (value : Value) (kind : TableKind) (entries : Entries) :
    Option (Entries × Unit) :=
  if (kind = .dotted) ≠ dotted || (entries.lookup key).isSome then none
  else some (entries ++ [(key, value)], ())

/-- Adds a value under a dotted key to a table. -/
def insertKey (path : List String) (key : String) (value : Value) (kind : TableKind)
    (entries : Entries) : Option Entries :=
  (within true (addKey (!path.isEmpty) key value) path kind entries).map Prod.fst

/-- A document that is being read: all tables that are complete, and the current one with its
path. -/
structure Draft where
  root : Entries := []
  path : List String := []
  double : Bool := false
  current : Entries := []

namespace Draft

/-- The draft with one more key in the current table. -/
def add (draft : Draft) (path : List String) (key : String) (value : Value) : Option Draft := do
  return { draft with current := ← insertKey path key value .header draft.current }

/-- Puts a table in its place. -/
def placeTable (table : Entries) (key : String) (_ : TableKind) (entries : Entries) :
    Option (Entries × Unit) :=
  match entries.lookup key with
  | none => some (entries ++ [(key, .table .header table)], ())
  | some (.table .implied _) | some (.table .dotted _) =>
    some (setEntry key (.table .header table) entries, ())
  | some _ => none

/-- Adds a table to those with a double header. -/
def placeDouble (table : Entries) (key : String) (_ : TableKind) (entries : Entries) :
    Option (Entries × Unit) :=
  match entries.lookup key with
  | none => some (entries ++ [(key, .tables [table])], ())
  | some (.tables items) => some (setEntry key (.tables (items ++ [table])) entries, ())
  | some _ => none

/-- The whole document, with the current table put in its place. -/
def complete (draft : Draft) : Option Entries :=
  match draft.path.getLast? with
  | none => some draft.current
  | some key =>
    let place :=
      if draft.double then placeDouble draft.current key else placeTable draft.current key
    (within false place draft.path.dropLast .header draft.root).map Prod.fst

/-- Takes the table that a header opens out of its place: one that is implied by another header, or
a new one. -/
def openTable (key : String) (_ : TableKind) (entries : Entries) : Option (Entries × Entries) :=
  match entries.lookup key with
  | none => some (entries, [])
  | some (.table .implied inner) => some (entries.filter fun entry => entry.1 ≠ key, inner)
  | some _ => none

/-- Checks that a double header may stand for a table here. -/
def openDouble (key : String) (_ : TableKind) (entries : Entries) : Option (Entries × Entries) :=
  match entries.lookup key with
  | none => some (entries, [])
  | some (.tables _) => some (entries, [])
  | some _ => none

/-- The draft after a header. -/
def startTable (draft : Draft) (double : Bool) (path : List String) : Option Draft := do
  let root ← draft.complete
  let key ← path.getLast?
  let start := if double then openDouble key else openTable key
  let (root, current) ← within false start path.dropLast .header root
  return { root := root, path := path, double := double, current := current }

end Draft

end Orthography.Toml
