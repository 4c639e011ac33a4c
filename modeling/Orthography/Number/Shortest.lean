import Orthography.Number.Binary64
import Orthography.Number.Decimal

/-!
# The shortest decimal that reads back

A binary fraction is printed with the fewest decimal digits that are rounded to it when they are
read back; of the decimals with that many digits, the nearest one is taken, and of two that are
equally near the one with an even last digit.

The decimals that are rounded to a fraction lie in an interval around it.  Its ends are half-way to
the neighbours and belong to it when the significand is even.  For one digit, two digits and so on,
up to the seventeen that always suffice, the two decimals next to the fraction are tried.
-/

namespace Orthography.Binary64

set_option autoImplicit false

/-- A positive decimal number: digits and the exponent of ten of the last one. -/
structure Shortest where
  digits : Nat
  exponent : Int
deriving DecidableEq, Repr

/-- The interval of what is rounded to a positive number, in units of a quarter of its last bit:
the numerators of the lower end, the number itself and the upper end.  The gap below a power of two
is half as wide as the one above. -/
def interval (x : Binary64) : Nat × Nat × Nat :=
  let (significand, exponent) := x.scaled
  let below := if significand = Nat.pow 2 52 && -1074 < exponent then 1 else 2
  (4 * significand - below, 4 * significand, 4 * significand + 2)

/-- The largest exponent `k` of ten with `Nat.pow 10 k ≤ n / d`, found from below. -/
def decimalExponent (n d : Nat) : Int :=
  let guess : Int := (Int.ofNat (Nat.log2 n) - Int.ofNat (Nat.log2 d) - 1) * 30103 / 100000 - 1
  let atLeast (k : Int) : Bool :=
    if 0 ≤ k then d * Nat.pow 10 k.toNat ≤ n else d ≤ n * Nat.pow 10 (-k).toNat
  if atLeast (guess + 2) then guess + 2
  else if atLeast (guess + 1) then guess + 1
  else guess

/-- Tries decimals of a number of digits, and of more digits when none reads back. -/
def tryDigits (x : Binary64) (top : Int) : Nat → Nat → Shortest
  | 0, _ => ⟨0, 0⟩
  | fuel + 1, count =>
    let (low, middle, high) := x.interval
    let (significand, two) := x.scaled
    let step : Int := top - Int.ofNat count + 1
    -- Everything over one denominator: `n / d` is the number in units of the last digit.
    let quarter : Int := two - 2
    let scaleUp := (if 0 ≤ quarter then Nat.pow 2 quarter.toNat else 1) *
      (if step < 0 then Nat.pow 10 (-step).toNat else 1)
    let d := (if quarter < 0 then Nat.pow 2 (-quarter).toNat else 1) *
      (if 0 ≤ step then Nat.pow 10 step.toNat else 1)
    let inside (digits : Nat) : Bool :=
      if significand % 2 = 0 then low * scaleUp ≤ digits * d && digits * d ≤ high * scaleUp
      else low * scaleUp < digits * d && digits * d < high * scaleUp
    let n := middle * scaleUp
    let floor := n / d
    let nearest := roundedQuotient n d
    let other := if nearest = floor then floor + 1 else floor
    if inside nearest then ⟨nearest, step⟩
    else if inside other then ⟨other, step⟩
    else tryDigits x top fuel (count + 1)

/-- A decimal without zeros at its end; the fuel is a bound on their number. -/
def Shortest.trim : Nat → Shortest → Shortest
  | 0, decimal => decimal
  | fuel + 1, decimal =>
    if decimal.digits ≠ 0 && decimal.digits % 10 = 0 then
      Shortest.trim fuel ⟨decimal.digits / 10, decimal.exponent + 1⟩
    else decimal

/-- The shortest decimal that reads back as a positive finite number. -/
def shortest (x : Binary64) : Shortest :=
  let (n, d) := x.ratio
  Shortest.trim 20 (tryDigits x (decimalExponent n d) 17 1)

/-- Digits with a point: no exponent and no more zeros than it takes. -/
def Shortest.positional (decimal : Shortest) : List Char :=
  let digits := Decimal.digits decimal.digits
  if 0 ≤ decimal.exponent then digits ++ List.replicate decimal.exponent.toNat '0'
  else
    let places := (-decimal.exponent).toNat
    if digits.length ≤ places then
      '0' :: '.' :: List.replicate (places - digits.length) '0' ++ digits
    else digits.take (digits.length - places) ++ '.' :: digits.drop (digits.length - places)

/-- A number in plain positional digits, as messages show it. -/
def plain (x : Binary64) : String :=
  if x.isUndefined then "NaN"
  else
    let sign := if x.signed then ['-'] else []
    let body :=
      if !x.isFinite then "inf".toList
      else if x.isZero then ['0']
      else x.shortest.positional
    String.ofList (sign ++ body)

/-- A finite number as a JSON number that shows it is a fraction: positional from `1e-5` up to, but
not including, `1e16`, and otherwise with an exponent, which always has a sign. -/
def literal (x : Binary64) : List Char :=
  let sign := if x.signed then ['-'] else []
  if x.isZero then sign ++ "0.0".toList
  else
    let decimal := x.shortest
    let digits := Decimal.digits decimal.digits
    let point : Int := Int.ofNat digits.length + decimal.exponent
    if -5 < point && point ≤ 16 then
      let body := decimal.positional
      sign ++ if decimal.exponent < 0 then body else body ++ ".0".toList
    else
      let mantissa :=
        match digits with
        | [] | [_] => digits
        | first :: rest => first :: '.' :: rest
      let power := point - 1
      let exponent :=
        if power < 0 then '-' :: Decimal.digits (-power).toNat
        else '+' :: Decimal.digits power.toNat
      sign ++ mantissa ++ 'e' :: exponent

end Orthography.Binary64
