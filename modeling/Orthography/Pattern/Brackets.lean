import Orthography.Pattern.Escape

/-!
# Classes in brackets

A class in brackets is a union of characters, ranges, named classes and further classes in
brackets, or an intersection, difference or symmetric difference of such unions.  Reading keeps a
stack of what is still open.
-/

namespace Orthography.Pattern

set_option autoImplicit false

/-- A class that has been read, with the depth to which it is nested. -/
structure Nested where
  set : CharSet
  depth : Nat
deriving Repr

/-- A union that is being read. -/
structure Union where
  set : CharSet := .none
  count : Nat := 0
  depth : Nat := 0
deriving Repr

namespace Union

/-- The union with one more member. -/
def add (union : Union) (member : Nested) : Union :=
  { set := .union union.set member.set
    count := union.count + 1
    depth := max union.depth member.depth }

/-- The union as a class.  A union of several members is one level deeper than they are. -/
def close (union : Union) : Nested :=
  { set := union.set
    depth := if union.count ≤ 1 then union.depth else union.depth + 1 }

end Union

/-- The ways to combine two classes. -/
inductive SetOp where
  | inter
  | diff
  | symmDiff
deriving DecidableEq, Repr

/-- What is still open around a union that is being read. -/
inductive SetFrame where
  /-- A bracket, and the union that it stands in. -/
  | bracket (outer : Union) (negated : Bool)
  /-- An operation and its first class. -/
  | op (op : SetOp) (first : Nested)
deriving Repr

/-- Two classes combined. -/
def SetOp.apply (op : SetOp) (flags : Flags) (first second : Nested) : Nested :=
  let left := flags.fold first.set
  let right := flags.fold second.set
  { set :=
      match op with
      | .inter => .inter left right
      | .diff => .diff left right
      | .symmDiff => .symmDiff left right
    depth := max first.depth second.depth + 1 }

/-- Finishes an operation that waits for its second class. -/
def finishOp (flags : Flags) (stack : List SetFrame) (second : Nested) :
    Nested × List SetFrame :=
  match stack with
  | .op op first :: rest => (op.apply flags first second, rest)
  | _ => (second, stack)

/-- The ASCII classes that have a name of their own inside brackets. -/
def asciiClass? : String → Option CharSet
  | "alnum" => some (.runs [⟨0x30, 0x39, 1⟩, ⟨0x41, 0x5A, 1⟩, ⟨0x61, 0x7A, 1⟩])
  | "alpha" => some (.runs [⟨0x41, 0x5A, 1⟩, ⟨0x61, 0x7A, 1⟩])
  | "ascii" => some (.span 0 0x7F)
  | "blank" => some (.runs [⟨0x09, 0x09, 1⟩, ⟨0x20, 0x20, 1⟩])
  | "cntrl" => some (.runs [⟨0x00, 0x1F, 1⟩, ⟨0x7F, 0x7F, 1⟩])
  | "digit" => some .asciiDigit
  | "graph" => some (.span 0x21 0x7E)
  | "lower" => some (.span 0x61 0x7A)
  | "print" => some (.span 0x20 0x7E)
  | "punct" =>
    some (.runs [⟨0x21, 0x2F, 1⟩, ⟨0x3A, 0x40, 1⟩, ⟨0x5B, 0x60, 1⟩, ⟨0x7B, 0x7E, 1⟩])
  | "space" => some .asciiSpace
  | "upper" => some (.span 0x41 0x5A)
  | "word" => some .asciiWord
  | "xdigit" => some (.runs [⟨0x30, 0x39, 1⟩, ⟨0x41, 0x46, 1⟩, ⟨0x61, 0x66, 1⟩])
  | _ => none

/-- A named ASCII class such as `[:alpha:]`, if one stands at the front of a text: whether it is
negated, the class, and the rest. -/
def readAsciiClass? (text : List Char) : Option (Bool × CharSet × List Char) :=
  match text with
  | '[' :: ':' :: rest =>
    let (negated, rest) :=
      match rest with
      | '^' :: more => (true, more)
      | _ => (false, rest)
    let name := rest.takeWhile (· != ':')
    match rest.dropWhile (· != ':') with
    | ':' :: ']' :: after =>
      (asciiClass? (String.ofList name)).map fun set => (negated, set, after)
    | _ => none
  | _ => none

/-- The first character after a hyphen, when blanks do not count. -/
def afterHyphen (flags : Flags) (rest : List Char) : Option Char :=
  if flags.verbose then
    match rest.dropWhile Unicode.isWhiteSpace with
    | '#' :: more => (more.dropWhile Unicode.isWhiteSpace).head?
    | other => other.head?
  else rest.head?

/-- One member of a union: a character, or a class after a backslash. -/
def readSetAtom (flags : Flags) : List Char → Option (Atom × List Char)
  | [] => none
  | '\\' :: rest => readEscape flags rest
  | c :: rest => some (.char c false, rest)

/-- A character or class as a member of a union. -/
def Atom.member (flags : Flags) : Atom → Option Nested
  | .char c _ => (flags.member c).map (⟨·, 0⟩)
  | .set named => some ⟨named, 0⟩
  | .place _ => none

/-- A character, a class or a range of characters. -/
def readMember (flags : Flags) (text : List Char) : Option (Nested × List Char) := do
  let (first, rest) ← readSetAtom flags text
  match skipBlank flags.verbose false rest with
  | [] => none
  | '-' :: after =>
    if afterHyphen flags after = some ']' || afterHyphen flags after = some '-' then
      return (← first.member flags, '-' :: after)
    else
      let (second, rest) ← readSetAtom flags (skipBlank flags.verbose false after)
      match first, second with
      | .char low _, .char high _ =>
        let _ ← flags.member low
        let _ ← flags.member high
        if low ≤ high then return (⟨.span low.toNat high.toNat, 0⟩, rest) else none
      | _, _ => none
  | other => return (← first.member flags, other)

/-- The hyphens that stand for themselves at the front of a class. -/
def readHyphens (flags : Flags) (union : Union) (inComment : Bool) :
    List Char → Option (Union × List Char)
  | [] => none
  | c :: rest =>
    if inComment then readHyphens flags union (c != '\n') rest
    else if flags.verbose && Unicode.isWhiteSpace c then readHyphens flags union false rest
    else if flags.verbose && c = '#' then readHyphens flags union true rest
    else if c = '-' then readHyphens flags (union.add ⟨.single '-', 0⟩) false rest
    else some (union, c :: rest)

/-- What stands right after an opening bracket: a sign of negation, hyphens, and a closing bracket
that stands for itself because nothing came before it. -/
def openBracket (flags : Flags) (text : List Char) : Option (Bool × Union × List Char) := do
  let rest := skipBlank flags.verbose false text
  let (negated, rest) :=
    match rest with
    | '^' :: more => (true, more)
    | _ => (false, rest)
  let (union, rest) ← readHyphens flags {} false rest
  match rest with
  | ']' :: more =>
    if union.count = 0 then
      match skipBlank flags.verbose false more with
      | [] => none
      | after => return (negated, union.add ⟨.single ']', 0⟩, after)
    else return (negated, union, rest)
  | _ => return (negated, union, rest)

/-- The operation at the front of a text. -/
def readSetOp? : List Char → Option (SetOp × List Char)
  | '&' :: '&' :: rest => some (.inter, rest)
  | '-' :: '-' :: rest => some (.diff, rest)
  | '~' :: '~' :: rest => some (.symmDiff, rest)
  | _ => none

/-- Reads on inside brackets; every round takes at least one character off the text, so the number
of characters is fuel enough. -/
def readSet (flags : Flags) :
    Nat → List SetFrame → Union → List Char → Option (Nested × List Char)
  | 0, _, _, _ => none
  | fuel + 1, stack, union, text =>
    let text := skipBlank flags.verbose false text
    match readSetOp? text with
    | some (op, rest) =>
      let (first, stack) := finishOp flags stack union.close
      readSet flags fuel (.op op first :: stack) {} rest
    | none =>
      match text with
      | [] => none
      | '[' :: rest =>
        match readAsciiClass? text with
        | some (negated, set, after) => do
          let set ← flags.finish negated set
          readSet flags fuel stack (union.add ⟨set, 0⟩) after
        | none => do
          let (negated, inner, rest) ← openBracket flags rest
          readSet flags fuel (.bracket union negated :: stack) inner rest
      | ']' :: rest =>
        let (result, stack) := finishOp flags stack union.close
        match stack with
        | .bracket outer negated :: stack => do
          let member : Nested := ⟨← flags.finish negated result.set, result.depth + 1⟩
          if stack.isEmpty then return (member, rest)
          else readSet flags fuel stack (outer.add member) rest
        | _ => none
      | _ => do
        let (member, rest) ← readMember flags text
        readSet flags fuel stack (union.add member) rest

/-- A class in brackets, read after its opening bracket. -/
def readBrackets (flags : Flags) (text : List Char) : Option (Nested × List Char) := do
  let (negated, union, rest) ← openBracket flags text
  readSet flags (rest.length + 1) [.bracket {} negated] union rest

end Orthography.Pattern
