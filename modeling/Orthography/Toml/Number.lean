import Orthography.Number.Decimal
import Orthography.Toml.Value

/-!
# Numbers and moments of a TOML document

Numbers may have underscores between their digits.  Whole numbers fit 64 bits with a sign, and may
be written to the bases 16, 8 and 2.  A moment is a date, a time of day or both; of moments only the
form is checked.
-/

namespace Orthography.Toml

set_option autoImplicit false

/-! ## Digits -/

/-- The digits that go on a number, and the rest; an underscore may stand only before a digit. -/
def moreDigits (accepts : Char → Bool) : List Char → Option (List Char × List Char)
  | '_' :: c :: rest =>
    if accepts c then (moreDigits accepts rest).map fun (digits, after) => (c :: digits, after)
    else none
  | c :: rest =>
    if accepts c then (moreDigits accepts rest).map fun (digits, after) => (c :: digits, after)
    else if c = '_' then none
    else some ([], c :: rest)
  | [] => some ([], [])

/-- The digits of a number, at least one, and the rest. -/
def readDigits (accepts : Char → Bool) : List Char → Option (List Char × List Char)
  | c :: rest =>
    if accepts c then (moreDigits accepts rest).map fun (digits, after) => (c :: digits, after)
    else none
  | [] => none

/-- The whole part of a number: a zero, or digits that do not start with one. -/
def readWhole : List Char → Option (List Char × List Char)
  | '0' :: rest => some (['0'], rest)
  | text => readDigits Char.isDigit text

/-- The sign at the front of a number: whether it is negative, and whether there is one. -/
def readSign : List Char → Bool × Bool × List Char
  | '+' :: rest => (false, true, rest)
  | '-' :: rest => (true, true, rest)
  | text => (false, false, text)

/-! ## Numbers -/

/-- A whole number, if it fits 64 bits. -/
def integer? (negative : Bool) (magnitude : Nat) : Option Value :=
  if negative then
    if magnitude ≤ Nat.pow 2 63 then some (.integer (-Int.ofNat magnitude)) else none
  else if magnitude < Nat.pow 2 63 then some (.integer (Int.ofNat magnitude))
  else none

/-- The value of a digit to a base of at most 16. -/
def digitValue (c : Char) : Nat :=
  if c ≤ '9' then c.toNat - 0x30
  else if c ≤ 'F' then c.toNat - 0x41 + 10
  else c.toNat - 0x61 + 10

/-- Whether a character is a digit to a base of at most 16. -/
def isDigitTo (base : Nat) (c : Char) : Bool :=
  (c.isDigit || ('A' ≤ c && c ≤ 'F') || ('a' ≤ c && c ≤ 'f')) && digitValue c < base

/-- A whole number to a base, and the rest. -/
def readBased (base : Nat) (text : List Char) : Option (Value × List Char) := do
  let (digits, rest) ← readDigits (isDigitTo base) text
  let value ← integer? false (digits.foldl (fun value c => value * base + digitValue c) 0)
  return (value, rest)

/-- The exponent at the front of a text, if it has one. -/
def readExponent : List Char → Option (Option Int × List Char)
  | c :: rest =>
    if c = 'e' || c = 'E' then do
      let (negative, _, rest) := readSign rest
      let (digits, rest) ← readDigits Char.isDigit rest
      let size := Int.ofNat (Decimal.value digits)
      return (some (if negative then -size else size), rest)
    else some (none, c :: rest)
  | [] => some (none, [])

/-- The digits after the point at the front of a text, if it has one. -/
def readFraction : List Char → Option (Option (List Char) × List Char)
  | '.' :: rest => do
    let (digits, rest) ← readDigits Char.isDigit rest
    return (some digits, rest)
  | text => some (none, text)

/-- A number in decimal digits after its sign, and the rest.  A number with a point or an exponent
is a binary fraction, and may be too small for one but not too large. -/
def readDecimal (negative : Bool) (text : List Char) : Option (Value × List Char) := do
  let (whole, rest) ← readWhole text
  let (fraction, rest) ← readFraction rest
  let (exponent, rest) ← readExponent rest
  if fraction.isNone && exponent.isNone then
    return (← integer? negative (Decimal.value whole), rest)
  else
    let digits := fraction.getD []
    let value := Binary64.ofDecimal negative (Decimal.value (whole ++ digits))
      (exponent.getD 0 - Int.ofNat digits.length)
    if value = Binary64.infinity then none else return (.float value, rest)

/-- The undefined number. -/
def undefinedNumber : Binary64 :=
  Binary64.ofMagnitude false (Binary64.infiniteMagnitude + Nat.pow 2 51)

/-- A number, and the rest.  Only numbers without a sign have another base. -/
def readNumber (text : List Char) : Option (Value × List Char) :=
  let (negative, signed, rest) := readSign text
  let withSign (x : Binary64) : Value := .float (if negative then x.negate else x)
  match rest with
  | 'i' :: 'n' :: 'f' :: after => some (withSign Binary64.infinity, after)
  | 'n' :: 'a' :: 'n' :: after => some (withSign undefinedNumber, after)
  | '0' :: 'x' :: digits => if signed then none else readBased 16 digits
  | '0' :: 'o' :: digits => if signed then none else readBased 8 digits
  | '0' :: 'b' :: digits => if signed then none else readBased 2 digits
  | _ => readDecimal negative rest

/-! ## Moments -/

/-- A number of two digits within bounds, and the rest. -/
def readPair (low high : Nat) : List Char → Option (Nat × List Char)
  | a :: b :: rest =>
    let value := Decimal.value [a, b]
    if a.isDigit && b.isDigit && low ≤ value && value ≤ high then some (value, rest) else none
  | _ => none

/-- The text after a given character at its front. -/
def expect? (c : Char) : List Char → Option (List Char)
  | first :: rest => if first = c then some rest else none
  | [] => none

/-- How many days a month has. -/
def daysOf (year month : Nat) : Nat :=
  if month = 2 then
    if year % 4 = 0 && (year % 100 ≠ 0 || year % 400 = 0) then 29 else 28
  else if [4, 6, 9, 11].contains month then 30
  else 31

/-- The text after a date. -/
def skipDate? (text : List Char) : Option (List Char) := do
  let year := text.take 4
  if year.length = 4 && year.all Char.isDigit then
    let rest ← expect? '-' (text.drop 4)
    let (month, rest) ← readPair 1 12 rest
    let (_, rest) ← readPair 1 (daysOf (Decimal.value year) month) (← expect? '-' rest)
    return rest
  else none

/-- The text after a time of day. -/
def skipTime? (text : List Char) : Option (List Char) := do
  let (_, rest) ← readPair 0 23 text
  let (_, rest) ← readPair 0 59 (← expect? ':' rest)
  let (_, rest) ← readPair 0 60 (← expect? ':' rest)
  match rest with
  | '.' :: fraction =>
    if (fraction.takeWhile Char.isDigit).isEmpty then none
    else return fraction.dropWhile Char.isDigit
  | _ => return rest

/-- The text after the offset of a time from that of the zero meridian, if it has one. -/
def skipOffset? : List Char → Option (List Char)
  | c :: rest =>
    if c = 'Z' || c = 'z' then some rest
    else if c = '+' || c = '-' then do
      let (_, rest) ← readPair 0 23 rest
      let (_, rest) ← readPair 0 59 (← expect? ':' rest)
      return rest
    else some (c :: rest)
  | [] => some []

/-- The text after a moment: a date, a date with a time of day, or a time of day. -/
def skipMoment? (text : List Char) : Option (List Char) :=
  match skipDate? text with
  | none => skipTime? text
  | some rest =>
    match rest with
    | [] => some []
    | c :: time =>
      if c = 'T' || c = 't' || c = ' ' then
        match skipTime? time with
        | some after => skipOffset? after
        | none => some rest
      else some rest

end Orthography.Toml
