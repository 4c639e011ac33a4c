import Orthography.Json.Value
import Orthography.Number.Decimal

/-!
# Numbers of a JSON text

The value of a number as it is spelled.  Whole numbers that fit 64 bits are exact.  Any other number
is a binary fraction, found in one multiplication or division: the digits are collected into a
natural number of 64 bits, further digits are dropped, and the result is scaled by a power of ten.
It may be off by a little, and it is refused when it is too large.
-/

namespace Orthography.Json

set_option autoImplicit false

/-- The largest number of 64 bits without a sign. -/
def naturalLimit : Nat := Nat.pow 2 64 - 1

/-- Digits appended to a number as long as the result does not pass a limit: the number, how many
digits went into it, and how many did not. -/
def collect (limit : Nat) : Nat → List Char → Nat × Nat × Nat
  | start, [] => (start, 0, 0)
  | start, c :: rest =>
    let longer := start * 10 + Decimal.digitValue c
    if limit < longer then (start, 0, rest.length + 1)
    else
      let (result, used, dropped) := collect limit longer rest
      (result, used + 1, dropped)

/-- A power of ten as a binary fraction. -/
def powerOfTen (exponent : Nat) : Binary64 :=
  Binary64.ofDecimal false 1 exponent

/-- A number times a power of ten; nothing if it is too large.  Three rounds bring any number of 64
bits down to zero. -/
def scale : Nat → Binary64 → Int → Option Binary64
  | 0, x, _ => some x
  | rounds + 1, x, exponent =>
    if exponent.natAbs ≤ 308 then
      if 0 ≤ exponent then
        let product := x.mul (powerOfTen exponent.natAbs)
        if product.isFinite then some product else none
      else some (x.div (powerOfTen exponent.natAbs))
    else if x.isZero then some x
    else if 0 ≤ exponent then none
    else scale rounds (x.div (powerOfTen 308)) (exponent + 308)

/-- A binary fraction with a sign put in front. -/
def withSign (negative : Bool) (x : Binary64) : Binary64 :=
  if negative then x.negate else x

/-- The parts of a number as it is spelled. -/
structure Spelling where
  negative : Bool
  whole : List Char
  /-- The digits after the point, if there is a point. -/
  fraction : Option (List Char)
  /-- The sign and the digits of the exponent, if there is one. -/
  exponent : Option (Bool × List Char)
deriving Repr

/-- The parts of a number as it is spelled. -/
def Spelling.ofChars (spelling : List Char) : Spelling :=
  let (negative, rest) :=
    match spelling with
    | '-' :: rest => (true, rest)
    | _ => (false, spelling)
  let whole := rest.takeWhile Char.isDigit
  let (fraction, rest) :=
    match rest.dropWhile Char.isDigit with
    | '.' :: rest => (some (rest.takeWhile Char.isDigit), rest.dropWhile Char.isDigit)
    | rest => (none, rest)
  let exponent :=
    match rest with
    | _ :: '-' :: digits => some (true, digits)
    | _ :: '+' :: digits => some (false, digits)
    | _ :: digits => some (false, digits)
    | [] => none
  ⟨negative, whole, fraction, exponent⟩

/-- The value of a number that has a fraction or an exponent, or is too large to be exact. -/
def Spelling.approximate (spelling : Spelling) : Option Binary64 :=
  let (significand, _, before) := collect naturalLimit 0 spelling.whole
  let (significand, used, _) := collect naturalLimit significand (spelling.fraction.getD [])
  let point : Int := Int.ofNat before - Int.ofNat used
  match spelling.exponent with
  | none => (scale 4 (Binary64.ofNat significand) point).map (withSign spelling.negative)
  | some (down, digits) =>
    let exponent := Decimal.value digits
    if Nat.pow 2 31 - 1 < exponent then
      if significand ≠ 0 && !down then none
      else some (withSign spelling.negative (Binary64.ofNat 0))
    else
      let power := if down then point - Int.ofNat exponent else point + Int.ofNat exponent
      (scale 4 (Binary64.ofNat significand) power).map (withSign spelling.negative)

/-- The value of a number as it is spelled; nothing if it is too large. -/
def Number.ofSpelling? (spelling : List Char) : Option Number :=
  let parts := Spelling.ofChars spelling
  let (whole, _, dropped) := collect naturalLimit 0 parts.whole
  if parts.fraction.isSome || parts.exponent.isSome || 0 < dropped then
    parts.approximate.map .fraction
  else if !parts.negative then some (.natural whole)
  else if 1 ≤ whole && whole ≤ Nat.pow 2 63 then some (.negative whole)
  else some (.fraction (Binary64.ofNat whole).negate)

end Orthography.Json
