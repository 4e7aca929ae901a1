import Ambience.Scalar

/-!
# Binary floating-point numbers as scene numbers

The running program computes with `Float`. Arithmetic, order, rounding and the elementary
functions are the machine's; the whole part and the remainder are computed exactly from the binary
form of the operands, since neither is among the machine's primitives.
-/

namespace Ambience.Scalar.Double

/-! ## The binary form of a number -/

/-- The leading bit of a normal number, which is not stored. -/
def leadingBit : Nat := 0x10000000000000

/-- The significand of a finite number: its 52 stored bits, with the leading bit of a normal
number put back. -/
def significand (x : Float) : Nat :=
  let bits := x.toBits.toNat
  let stored := bits % leadingBit
  if bits / leadingBit % 2048 = 0 then stored else stored + leadingBit

/-- The power of two that a significand is scaled by, shifted up by 1074 to be a count. -/
def scale (x : Float) : Nat := max (x.toBits.toNat / leadingBit % 2048) 1 - 1

/-- Whether the sign bit is set. -/
def isSigned (x : Float) : Bool := x.toBits.toNat.testBit 63

/-- The distance from zero of a finite number in units of `2 ^ (-1074)`, the least positive one. -/
def units (x : Float) : Nat := significand x <<< scale x

/-- The number whose distance from zero is `n` units; exact when some number is. -/
def ofUnits (negative : Bool) (n : Nat) : Float :=
  let shift := n.log2 - 52
  let value := Float.scaleB (Float.ofNat (n >>> shift)) ((shift : Int) - 1074)
  if negative then -value else value

/-! ## Whole part and remainder -/

/-- The whole part toward zero. An infinity counts as `2 ^ 1024`, beyond every finite number. -/
def wholePart (x : Float) : Int :=
  if x.isNaN then 0
  else if x.abs < 4611686018427387904.0 then x.toInt64.toInt
  else
    let size : Nat := if x.isInf then 1 <<< 1024 else units x >>> 1074
    if isSigned x then -(size : Int) else size

/-- The remainder of a division toward zero, which carries the sign of the dividend. It is exact,
so it is computed on whole multiples of the least positive number. -/
def remainder (x y : Float) : Float :=
  if x.isNaN || y.isNaN || x.isInf || y == 0.0 then 0.0 / 0.0
  else if x.abs < y.abs then x
  else ofUnits (isSigned x) (units x % units y)

/-- The number nearest to a whole number. -/
def ofWhole (n : Int) : Float :=
  if -9223372036854775808 ≤ n ∧ n ≤ 9223372036854775807 then (Int64.ofInt n).toFloat
  else Float.ofInt n

end Ambience.Scalar.Double

namespace Ambience

/-- Scene rules over the machine's binary floating-point numbers. -/
instance : Scalar Float where
  decLt a b := inferInstanceAs (Decidable (a < b))
  decLe a b := inferInstanceAs (Decidable (a ≤ b))
  ofInt := Scalar.Double.ofWhole
  toInt := Scalar.Double.wholePart
  floor := Float.floor
  ceil := Float.ceil
  round := Float.round
  sqrt := Float.sqrt
  sin := Float.sin
  cos := Float.cos
  power := Float.pow
  remainder := Scalar.Double.remainder

end Ambience
