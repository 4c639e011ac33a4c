/-!
# Binary fractions of 64 bits

Relative distances are compared as binary fractions in the 64-bit format of IEEE 754.  A fraction is
kept as its bits, and arithmetic is exact arithmetic on natural numbers followed by one rounding to
the nearest fraction, to the one with an even last bit when two are equally near.
-/

namespace Orthography

set_option autoImplicit false

/-- A number in the 64-bit binary format: sign, eleven bits of exponent, 52 bits of significand. -/
structure Binary64 where
  bits : UInt64
deriving DecidableEq, Repr

namespace Binary64

/-- The bits without the sign. -/
def magnitude (x : Binary64) : Nat :=
  x.bits.toNat % Nat.pow 2 63

/-- Whether the sign is negative; zero has two signs. -/
def signed (x : Binary64) : Bool :=
  Nat.pow 2 63 ≤ x.bits.toNat

/-- The magnitude of infinity; larger ones are not numbers. -/
def infiniteMagnitude : Nat :=
  0x7FF * Nat.pow 2 52

/-- Neither infinite nor undefined. -/
def isFinite (x : Binary64) : Bool :=
  x.magnitude < infiniteMagnitude

/-- The result of an undefined operation. -/
def isUndefined (x : Binary64) : Bool :=
  infiniteMagnitude < x.magnitude

/-- Below zero; a zero with a negative sign is not. -/
def isNegative (x : Binary64) : Bool :=
  x.signed && 0 < x.magnitude && !x.isUndefined

/-- Zero, whatever its sign. -/
def isZero (x : Binary64) : Bool :=
  x.magnitude = 0

/-- The number with the given magnitude and sign. -/
def ofMagnitude (negative : Bool) (magnitude : Nat) : Binary64 :=
  ⟨UInt64.ofNat ((if negative then Nat.pow 2 63 else 0) + magnitude % Nat.pow 2 63)⟩

/-- The number with the other sign. -/
def negate (x : Binary64) : Binary64 :=
  ofMagnitude (!x.signed) x.magnitude

/-- Infinity. -/
def infinity : Binary64 :=
  ofMagnitude false infiniteMagnitude

/-- A quotient rounded to the nearest whole number, a half to the even one. -/
def roundedQuotient (n d : Nat) : Nat :=
  let quotient := n / d
  let twice := 2 * (n % d)
  if twice < d then quotient
  else if d < twice then quotient + 1
  else quotient + quotient % 2

/-- The exponent of the last bit of `n / d` when it is written with 53 significant bits, or the
smallest exponent there is. -/
def lastExponent (n d : Nat) : Int :=
  let guess : Int := Int.ofNat (Nat.log2 n) - Int.ofNat (Nat.log2 d) - 52
  let belowGuess : Bool :=
    if 0 ≤ guess then n < d * Nat.pow 2 (52 + guess.toNat)
    else n * Nat.pow 2 (-guess).toNat < d * Nat.pow 2 52
  max (if belowGuess then guess - 1 else guess) (-1074)

/-- The magnitude nearest to a ratio.  A carry out of the significand moves the exponent up, and
numbers past the largest are infinite. -/
def magnitudeOfRatio (n d : Nat) : Nat :=
  if n = 0 then 0
  else
    let exponent := lastExponent n d
    let significand :=
      if 0 ≤ exponent then roundedQuotient n (d * Nat.pow 2 exponent.toNat)
      else roundedQuotient (n * Nat.pow 2 (-exponent).toNat) d
    let magnitude :=
      if significand < Nat.pow 2 52 then significand
      else (exponent + 1075).toNat * Nat.pow 2 52 + (significand - Nat.pow 2 52)
    min magnitude infiniteMagnitude

/-- The number nearest to a ratio of natural numbers, the second of them positive. -/
def ofRatio (n d : Nat) : Binary64 :=
  ofMagnitude false (magnitudeOfRatio n d)

/-- The number nearest to a natural number. -/
def ofNat (n : Nat) : Binary64 :=
  ofRatio n 1

/-- The exact value of a finite magnitude, as a significand and the exponent of two. -/
def scaled (x : Binary64) : Nat × Int :=
  let exponent := x.magnitude / Nat.pow 2 52
  let fraction := x.magnitude % Nat.pow 2 52
  if exponent = 0 then (fraction, -1074)
  else (Nat.pow 2 52 + fraction, Int.ofNat exponent - 1075)

/-- The exact value of a finite magnitude, as a numerator and a denominator. -/
def ratio (x : Binary64) : Nat × Nat :=
  let (significand, exponent) := x.scaled
  if 0 ≤ exponent then (significand * Nat.pow 2 exponent.toNat, 1)
  else (significand, Nat.pow 2 (-exponent).toNat)

/-- The product of two finite numbers that are not negative. -/
def mul (x y : Binary64) : Binary64 :=
  let (xn, xd) := x.ratio
  let (yn, yd) := y.ratio
  ofRatio (xn * yn) (xd * yd)

/-- The quotient of two finite numbers, the first not negative and the second positive. -/
def div (x y : Binary64) : Binary64 :=
  let (xn, xd) := x.ratio
  let (yn, yd) := y.ratio
  ofRatio (xn * yd) (xd * yn)

/-- Comparison of numbers that are not negative; both zeros are the same. -/
def le (x y : Binary64) : Bool :=
  x.magnitude ≤ y.magnitude

/-- The number nearest to a decimal number, which is given by its digits and the exponent of ten of
the last one.  Exponents so large or small that the result is infinite or zero are not worked
out. -/
def ofDecimal (negative : Bool) (digits : Nat) (exponent : Int) : Binary64 :=
  let size : Int := Int.ofNat (Nat.log2 digits)
  let magnitude :=
    if digits = 0 then 0
    else if 400 < exponent then infiniteMagnitude
    else if size + exponent * 3 < -1200 then 0
    else if 0 ≤ exponent then magnitudeOfRatio (digits * Nat.pow 10 exponent.toNat) 1
    else magnitudeOfRatio digits (Nat.pow 10 (-exponent).toNat)
  ofMagnitude negative magnitude

/-- The sixteen hexadecimal digits of the bits. -/
def hex (x : Binary64) : String :=
  let digits := Nat.toDigits 16 x.bits.toNat
  String.ofList (List.replicate (16 - digits.length) '0' ++ digits)

end Binary64

end Orthography
