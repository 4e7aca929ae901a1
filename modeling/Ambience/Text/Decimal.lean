import Ambience.Scalar

/-!
# Decimal numbers

A decimal number is a significand of decimal digits and a power of ten. Its value is the nearest
number of the carrier; beyond the range of the carrier it is an infinity.
-/

namespace Ambience.Text

/-- A decimal number as it is written, `digits * 10 ^ exponent` with a sign. -/
structure Decimal where
  negative : Bool
  digits : Nat
  exponent : Int
  deriving DecidableEq, Repr

namespace Decimal

variable {α : Type} [Scalar α]

/-- The number of decimal digits of a positive number. -/
def length (n : Nat) : Nat := (Nat.toDigits 10 n).length

/-- Powers of ten above this one are out of range, and those below its negative are zero. -/
def range : Int := 400

/-- The absolute value. Far exponents are settled without computing the power of ten. -/
def magnitude (number : Decimal) : α :=
  let order : Int := length number.digits + number.exponent
  if number.digits = 0 ∨ order < -range then 0.0
  else if range < order then 1.0 / 0.0
  else OfScientific.ofScientific number.digits (number.exponent < 0) number.exponent.natAbs

/-- The value. -/
def value (number : Decimal) : α :=
  let size : α := number.magnitude
  if number.negative then -size else size

/-- The value of a digit. -/
def digitValue (c : Char) : Nat := c.toNat - '0'.toNat

/-- The number that digits stand for. -/
def ofDigits (digits : List Char) : Nat :=
  digits.foldl (fun n c => n * 10 + digitValue c) 0

/-- The number of digits before and after a point, scaled by a power of ten. -/
def ofParts (negative : Bool) (whole fraction : List Char) (exponent : Int) : Decimal where
  negative
  digits := ofDigits (whole ++ fraction)
  exponent := exponent - fraction.length

end Decimal

end Ambience.Text
