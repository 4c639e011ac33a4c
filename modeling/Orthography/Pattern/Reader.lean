import Orthography.Pattern.Brackets
import Orthography.Pattern.Search
import Orthography.Unicode.Alphabetic
import Orthography.Unicode.Numeric

/-!
# Reading a pattern

A pattern is read from left to right.  Groups that are still open stand on a stack, each with the
parts and the alternatives that came before it.  Reading refuses what has no meaning (a repetition
of nothing, an unclosed group, an unknown escape) as well as patterns that are nested too deeply or
would grow too large when their repetitions are written out.  Look-around and back references do
not exist.
-/

namespace Orthography.Pattern

set_option autoImplicit false

/-- A part of a pattern that has been read. -/
structure Part where
  expr : Expr
  /-- How deeply it is nested. -/
  depth : Nat := 0
  /-- How much room it takes, roughly in bytes, when repetitions are written out. -/
  room : Nat := 0
  /-- It can match nothing but the empty text. -/
  blank : Bool := false
  /-- It can be repeated; a setting of flags cannot. -/
  repeatable : Bool := true
deriving Repr

namespace Part

/-- The room that a class takes. -/
def roomOf : CharSet → Nat
  | .runs codes => codes.foldl (fun room run => room + if run.last ≤ 0x7F then 32 else 64) 0
  | .union first second => roomOf first + roomOf second
  | .inter first second => roomOf first + roomOf second
  | .compl body => roomOf body + 64
  | .folded body => 2 * roomOf body
  | .foldedAscii body => 2 * roomOf body

/-- One character of a class. -/
def ofSet (set : CharSet) : Part :=
  { expr := .one set, room := roomOf set }

/-- A place. -/
def ofPlace (place : Place) : Part :=
  { expr := .at place, room := 32, blank := true }

/-- A setting of flags. -/
def ofFlags : Part :=
  { expr := .empty, blank := true, repeatable := false }

/-- Parts one after the other, given last first.  Two or more of them are one level deeper. -/
def ofSequence : List Part → Part
  | [] => { expr := .empty, blank := true, repeatable := false }
  | [part] => part
  | parts =>
    { expr := Expr.all (parts.reverse.map Part.expr)
      depth := (parts.map Part.depth).foldl max 0 + 1
      room := (parts.map Part.room).foldl Nat.add 0
      blank := parts.all Part.blank }

/-- A choice between parts, given last first; the last one is given on its own. -/
def ofChoice (last : Part) (before : List Part) : Part :=
  if before.isEmpty then last
  else
    { expr := before.foldl (fun choice part => .alt part.expr choice) last.expr
      depth := ((last :: before).map Part.depth).foldl max 0 + 1
      room := ((last :: before).map Part.room).foldl Nat.add 0 + 32
      blank := (last :: before).all Part.blank }

/-- A group. -/
def group (part : Part) : Part :=
  { part with depth := part.depth + 1, repeatable := true }

/-- The largest room that a pattern may take. -/
def roomLimit : Nat := 10 * 1024 * 1024

/-- A part at least `low` times and, if `high` is given, at most `high` times.  More than one
repetition of the empty text is the same as one. -/
def times (part : Part) (low : Nat) (high : Option Nat) : Option Part :=
  if !part.repeatable then none
  else
    let low := if part.blank then min low 1 else low
    let high := if part.blank then some (min (high.getD 1) 1) else high
    let copies := max low (high.getD (low + 1))
    let room := part.room * copies + 32
    if roomLimit < room then none
    else
      let first := part.expr.times low
      let rest :=
        match high with
        | some high => part.expr.upTo (high - low)
        | none => .star part.expr
      some
        { expr := .seq first rest
          depth := part.depth + 1
          room := room
          blank := part.blank || high = some 0 }

end Part

/-- What stands before a group that is still open. -/
structure Frame where
  parts : List Part
  choices : List Part
  flags : Flags
deriving Repr

/-- A pattern that is being read: the parts of the current alternative and the alternatives before
it, both last first, the open groups, the flags and the names that groups were given. -/
structure Reading where
  parts : List Part := []
  choices : List Part := []
  frames : List Frame := []
  flags : Flags := {}
  names : List (List Char) := []

/-- The digits at the front of a text and the rest.  Where a pattern is verbose, blanks between and
after digits do not count. -/
def takeDigits (verbose : Bool) (inComment : Bool) : List Char → List Char × List Char
  | [] => ([], [])
  | c :: rest =>
    if inComment then takeDigits verbose (c != '\n') rest
    else if verbose && Unicode.isWhiteSpace c then takeDigits verbose false rest
    else if verbose && c = '#' then takeDigits verbose true rest
    else if c.isDigit then
      let (digits, after) := takeDigits verbose false rest
      (c :: digits, after)
    else ([], c :: rest)

/-- A decimal number of at most 32 bits, with white space around it. -/
def readDecimal (flags : Flags) (text : List Char) : Option (Nat × List Char) :=
  let (digits, rest) := takeDigits flags.verbose false (text.dropWhile Unicode.isWhiteSpace)
  let value := digits.foldl (fun value c => value * 10 + (c.toNat - 0x30)) 0
  if digits.isEmpty || 0xFFFFFFFF < value then none
  else some (value, skipBlank flags.verbose false (rest.dropWhile Unicode.isWhiteSpace))

/-- The bounds of a repetition, read after its opening brace. -/
def readBounds (flags : Flags) (text : List Char) : Option (Nat × Option Nat × List Char) := do
  let (low, rest) ← readDecimal flags (skipBlank flags.verbose false text)
  let (high, rest) ←
    match rest with
    | ',' :: more =>
      match skipBlank flags.verbose false more with
      | '\x7d' :: after => some (none, '\x7d' :: after)
      | bound => (readDecimal flags bound).map fun (high, after) => (some high, after)
    | _ => some (some low, rest)
  match rest with
  | '\x7d' :: after =>
    if low ≤ high.getD low then
      match skipBlank flags.verbose false after with
      | '?' :: lazy => return (low, high, lazy)
      | greedy => return (low, high, greedy)
    else none
  | _ => none

/-- A character, class or place as a part of a pattern. -/
def Atom.part (flags : Flags) : Atom → Option Part
  | .char c byte =>
    if byte && !flags.unicode && 0x7F < c.toNat then none
    else some (Part.ofSet (flags.fold (.single c)))
  | .set named => some (Part.ofSet named)
  | .place named => some (Part.ofPlace named)

/-- Whether a text can name a group. -/
def isGroupName : List Char → Bool
  | [] => false
  | first :: rest =>
    (first = '_' || Unicode.isAlphabetic first) &&
      rest.all fun c =>
        ['_', '.', '[', ']'].contains c || Unicode.isAlphabetic c || Unicode.isNumeric c

/-- The flags that a row of letters sets; those after a hyphen are cleared.  No letter and no
hyphen may come twice, and a hyphen may not come last. -/
def readFlags (flags : Flags) (letters : List Char) : Option Flags :=
  let known := letters.all fun c => c = '-' || "imsUuRx".toList.contains c
  if !known || letters.eraseDups.length ≠ letters.length || letters.getLast? = some '-' then none
  else
    let setting := letters.takeWhile (· != '-')
    let clearing := (letters.dropWhile (· != '-')).drop 1
    some (clearing.foldl (fun flags c => flags.set c false)
      (setting.foldl (fun flags c => flags.set c true) flags))

/-- How a group starts, read after its opening parenthesis: with a name, with flags for the group,
or as a setting of flags up to the end of the group around it. -/
inductive Opening where
  | plain
  | named (name : List Char)
  | flags (flags : Flags)
  | setting (flags : Flags)

/-- The start of a group and the rest of the text. -/
def readOpening (flags : Flags) (text : List Char) : Option (Opening × List Char) :=
  let named (rest : List Char) : Option (Opening × List Char) :=
    let name := rest.takeWhile (· != '>')
    match rest.dropWhile (· != '>') with
    | _ :: after => if isGroupName name then some (.named name, after) else none
    | [] => none
  match skipBlank flags.verbose false text with
  | '?' :: '=' :: _ | '?' :: '!' :: _ | '?' :: '<' :: '=' :: _ | '?' :: '<' :: '!' :: _ => none
  | '?' :: 'P' :: '<' :: rest => named rest
  | '?' :: '<' :: rest => named rest
  | '?' :: rest =>
    let letters := rest.takeWhile fun c => c != ':' && c != ')'
    match rest.dropWhile fun c => c != ':' && c != ')' with
    | ':' :: after => (readFlags flags letters).map fun inner => (.flags inner, after)
    | ')' :: after =>
      if letters.isEmpty then none
      else (readFlags flags letters).map fun outer => (.setting outer, after)
    | _ => none
  | rest => some (.plain, rest)

namespace Reading

/-- The reading with one more part. -/
def add (reading : Reading) (part : Part) : Reading :=
  { reading with parts := part :: reading.parts }

/-- The reading with its last part repeated. -/
def repeatLast (reading : Reading) (low : Nat) (high : Option Nat) : Option Reading :=
  match reading.parts with
  | [] => none
  | part :: before =>
    (part.times low high).map fun repeated => { reading with parts := repeated :: before }

/-- What has been read since the innermost open group started. -/
def finish (reading : Reading) : Part :=
  Part.ofChoice (Part.ofSequence reading.parts) reading.choices

/-- The reading with a group opened. -/
def openGroup (reading : Reading) (inner : Flags) : Reading :=
  { reading with
    parts := []
    choices := []
    frames := ⟨reading.parts, reading.choices, reading.flags⟩ :: reading.frames
    flags := inner }

/-- The reading with its innermost group closed. -/
def closeGroup (reading : Reading) : Option Reading :=
  match reading.frames with
  | [] => none
  | frame :: frames =>
    some
      { reading with
        parts := reading.finish.group :: frame.parts
        choices := frame.choices
        frames := frames
        flags := frame.flags }

end Reading

/-- The deepest nesting of a pattern. -/
def depthLimit : Nat := 250

/-- A text without a mark of lazy repetition at its front. -/
def skipLazy : List Char → List Char
  | '?' :: rest => rest
  | text => text

/-- Reads on; every round takes at least one character off the text, so the number of characters is
fuel enough. -/
def readParts : Nat → Reading → List Char → Option Expr
  | 0, _, _ => none
  | fuel + 1, reading, text =>
    match skipBlank reading.flags.verbose false text with
    | [] =>
      let whole := reading.finish
      if reading.frames.isEmpty && whole.depth ≤ depthLimit && whole.room ≤ Part.roomLimit then
        some whole.expr
      else none
    | '(' :: rest => do
      let (opening, rest) ← readOpening reading.flags rest
      match opening with
      | .plain => readParts fuel (reading.openGroup reading.flags) rest
      | .flags inner => readParts fuel (reading.openGroup inner) rest
      | .named name =>
        if reading.names.contains name then none
        else
          readParts fuel
            ({ reading with names := name :: reading.names }.openGroup reading.flags) rest
      | .setting outer => readParts fuel ({ reading with flags := outer }.add Part.ofFlags) rest
    | ')' :: rest => do readParts fuel (← reading.closeGroup) rest
    | '|' :: rest =>
      readParts fuel
        { reading with
          parts := []
          choices := Part.ofSequence reading.parts :: reading.choices } rest
    | '[' :: rest => do
      let (member, rest) ← readBrackets reading.flags rest
      readParts fuel (reading.add { Part.ofSet member.set with depth := member.depth }) rest
    | '?' :: rest => do readParts fuel (← reading.repeatLast 0 (some 1)) (skipLazy rest)
    | '*' :: rest => do readParts fuel (← reading.repeatLast 0 none) (skipLazy rest)
    | '+' :: rest => do readParts fuel (← reading.repeatLast 1 none) (skipLazy rest)
    | '\x7b' :: rest => do
      let (low, high, rest) ← readBounds reading.flags rest
      readParts fuel (← reading.repeatLast low high) rest
    | '\\' :: rest => do
      let (atom, rest) ← readEscape reading.flags rest
      readParts fuel (reading.add (← atom.part reading.flags)) rest
    | '.' :: rest => do
      readParts fuel (reading.add (Part.ofSet (← reading.flags.dot))) rest
    | '^' :: rest => readParts fuel (reading.add (Part.ofPlace reading.flags.start)) rest
    | '$' :: rest => readParts fuel (reading.add (Part.ofPlace reading.flags.stop)) rest
    | c :: rest => do
      readParts fuel (reading.add (← (Atom.char c false).part reading.flags)) rest

end Orthography.Pattern

namespace Orthography

/-- A pattern together with the text that it was read from. -/
structure Pattern where
  source : String
  expr : Pattern.Expr
deriving DecidableEq, Repr

namespace Pattern

set_option autoImplicit false

/-- The pattern that a text stands for, if it stands for one. -/
def ofString? (source : String) : Option Pattern :=
  (readParts (source.length + 1) {} source.toList).map fun expr => ⟨source, expr⟩

/-- Whether a pattern matches some part of a text. -/
def isIn (pattern : Pattern) (text : String) : Bool :=
  pattern.expr.occursIn text.toList

end Pattern

end Orthography
