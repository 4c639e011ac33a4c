/-!
# Decimal digits

Natural and whole numbers written in decimal digits, most significant digit first.
-/

namespace Orthography.Decimal

set_option autoImplicit false

/-- The character of a digit. -/
def digitChar (n : Nat) : Char :=
  Char.ofNat (0x30 + n)

/-- The value of a digit. -/
def digitValue (c : Char) : Nat :=
  c.toNat - 0x30

/-- The digits of a number. -/
def digits (n : Nat) : List Char :=
  if n < 10 then [digitChar n]
  else digits (n / 10) ++ [digitChar (n % 10)]
termination_by n
decreasing_by omega

/-- The number that a row of digits stands for. -/
def value (row : List Char) : Nat :=
  row.foldl (fun value c => value * 10 + digitValue c) 0

/-- A number as text. -/
def ofNat (n : Nat) : String :=
  String.ofList (digits n)

end Orthography.Decimal
