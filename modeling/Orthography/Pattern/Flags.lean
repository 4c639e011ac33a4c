import Orthography.Pattern.Property

/-!
# Flags of a pattern

Flags such as `(?i)` change how the rest of a group is read: whether case counts, whether `.` takes
line breaks, what the places `^` and `$` mean, and whether the classes are those of Unicode or of
ASCII.  Classes of ASCII may not be negated, because the characters outside ASCII take several bytes
each and such a class would hold some of those bytes.
-/

namespace Orthography.Pattern

set_option autoImplicit false

/-- The flags in force at a point of a pattern. -/
structure Flags where
  /-- Letters that differ by case only are the same. -/
  caseless : Bool := false
  /-- `^` and `$` stand for the start and end of lines. -/
  multiline : Bool := false
  /-- `.` takes line breaks too. -/
  dotAll : Bool := false
  /-- Classes are those of Unicode. -/
  unicode : Bool := true
  /-- White space and comments in the pattern do not count. -/
  verbose : Bool := false
  /-- Lines end in a carriage return, a line feed or both. -/
  carriageReturns : Bool := false
deriving DecidableEq, Repr

namespace Flags

/-- Sets one flag by its letter.  `U`, which swaps greedy and lazy repetition, makes no difference
to whether a pattern occurs. -/
def set (flags : Flags) (letter : Char) (value : Bool) : Flags :=
  match letter with
  | 'i' => { flags with caseless := value }
  | 'm' => { flags with multiline := value }
  | 's' => { flags with dotAll := value }
  | 'u' => { flags with unicode := value }
  | 'x' => { flags with verbose := value }
  | 'R' => { flags with carriageReturns := value }
  | _ => flags

/-- The class with all letters of the other case added, when case does not count. -/
def fold (flags : Flags) (set : CharSet) : CharSet :=
  if flags.caseless then
    if flags.unicode then .folded set else .foldedAscii set
  else set

/-- Whether a class of bytes holds none that belong to a character outside ASCII. -/
def isAscii (set : CharSet) : Bool :=
  (List.range 0x80).all fun n => !set.contains (0x80 + n)

/-- A class, folded and then negated as the flags and the pattern say. -/
def finish (flags : Flags) (negated : Bool) (set : CharSet) : Option CharSet :=
  let folded := flags.fold set
  let result := if negated then .compl folded else folded
  if flags.unicode || isAscii result then some result else none

/-- A class of a letter such as `\d`, negated for a capital letter. -/
def shorthand (flags : Flags) (negated : Bool) (unicode ascii : CharSet) : Option CharSet :=
  let set := if flags.unicode then unicode else ascii
  if negated then
    if flags.unicode then some (.compl set) else none
  else some set

/-- The class of a character that stands for itself inside brackets. -/
def member (flags : Flags) (c : Char) : Option CharSet :=
  if flags.unicode || c.toNat ≤ 0x7F then some (.single c) else none

/-- What `.` stands for. -/
def dot (flags : Flags) : Option CharSet :=
  if !flags.unicode then none
  else if flags.dotAll then some .any
  else if flags.carriageReturns then some (.diff .any (.union (.single '\n') (.single '\r')))
  else some (.diff .any (.single '\n'))

/-- What `^` stands for. -/
def start (flags : Flags) : Place :=
  if flags.multiline then
    if flags.carriageReturns then .lineStartAny else .lineStart
  else .textStart

/-- What `$` stands for. -/
def stop (flags : Flags) : Place :=
  if flags.multiline then
    if flags.carriageReturns then .lineEndAny else .lineEnd
  else .textEnd

/-- The characters that words are made of. -/
def word (flags : Flags) : CharSet :=
  if flags.unicode then .word else .asciiWord

end Flags

end Orthography.Pattern
