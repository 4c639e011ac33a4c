/-!
# Menus

A menu is worked with keys.  The first item is selected at first; keys move the selection, with the
last item next to the first, or choose the selected item, or leave the menu.
-/

namespace Orthography.Menu

set_option autoImplicit false

/-- What a key does. -/
inductive Key where
  | down
  | up
  | choose
  | leave
  | other
deriving DecidableEq, Repr

/-- The key at the front of what was typed, and the rest.  Arrow keys send an escape sequence, and
an unknown escape sequence is one key. -/
def readKey : List Char → Option (Key × List Char)
  | [] => none
  | '\x1b' :: '[' :: 'A' :: rest => some (.up, rest)
  | '\x1b' :: '[' :: 'B' :: rest => some (.down, rest)
  | '\x1b' :: '[' :: 'Z' :: rest => some (.up, rest)
  | '\x1b' :: '[' :: c :: rest =>
    if ['C', 'D', 'F', 'H'].contains c then some (.other, rest) else some (.other, rest.drop 1)
  | '\x1b' :: _ :: rest => some (.other, rest)
  | ['\x1b'] => some (.leave, [])
  | c :: rest =>
    if c = 'j' || c = '\t' then some (.down, rest)
    else if c = 'k' then some (.up, rest)
    else if c = ' ' || c = '\r' || c = '\n' then some (.choose, rest)
    else if c = 'q' then some (.leave, rest)
    else some (.other, rest)

/-- Works a menu of some items: the number of the chosen item, or nothing if the menu was left, and
the keys that were not used.  Every key takes at least one character, so the number of characters is
fuel enough.  When no key comes any more, the menu is left. -/
def run (items : Nat) : Nat → Nat → List Char → Option Nat × List Char
  | 0, _, keys => (none, keys)
  | fuel + 1, selected, keys =>
    match readKey keys with
    | none => (none, [])
    | some (.down, rest) => run items fuel ((selected + 1) % items) rest
    | some (.up, rest) => run items fuel ((selected + items - 1) % items) rest
    | some (.choose, rest) => (some selected, rest)
    | some (.leave, rest) => (none, rest)
    | some (.other, rest) => run items fuel selected rest

/-- Works a menu of some items, the first of which is selected. -/
def choose (items : Nat) (keys : List Char) : Option Nat × List Char :=
  run items (keys.length + 1) 0 keys

end Orthography.Menu
