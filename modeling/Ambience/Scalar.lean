/-!
# The numbers of a scene

Positions, speeds, opacities and covered areas are computed with one set of rules, written over
any type with the operations of `Scalar`. The running program takes binary floating-point numbers
(`Ambience.Scalar.Double`); a law about exact arithmetic takes an ordered field. The comparisons
are those of the carrier: a value that is not a number compares false with everything, and the
derived operations below say what then becomes of it.
-/

namespace Ambience

/-- Arithmetic, order, rounding and the elementary functions that scene rules use. -/
class Scalar (α : Type) extends Add α, Sub α, Mul α, Div α, Neg α, LT α, LE α, OfScientific α where
  /-- The order is decided by the carrier. -/
  decLt : ∀ a b : α, Decidable (a < b)
  /-- The weak order is decided by the carrier. -/
  decLe : ∀ a b : α, Decidable (a ≤ b)
  /-- The value nearest to a whole number. -/
  ofInt : Int → α
  /-- The whole part, toward zero; what is not a number has whole part zero, and an infinity has
  one beyond every machine word. -/
  toInt : α → Int
  /-- The largest whole value not above. -/
  floor : α → α
  /-- The smallest whole value not below. -/
  ceil : α → α
  /-- The nearest whole value, a half going away from zero. -/
  round : α → α
  /-- The square root. -/
  sqrt : α → α
  /-- The sine of an angle in radians. -/
  sin : α → α
  /-- The cosine of an angle in radians. -/
  cos : α → α
  /-- A base raised to a real exponent. -/
  power : α → α → α
  /-- What is left of a dividend after the largest whole multiple of the divisor, toward zero. -/
  remainder : α → α → α

namespace Scalar

variable {α : Type} [Scalar α]

instance (priority := low) (a b : α) : Decidable (a < b) := decLt a b

instance (priority := low) (a b : α) : Decidable (a ≤ b) := decLe a b

/-! ## Constants -/

/-- Half a turn in radians. -/
def pi : α := 3.141592653589793

/-- A full turn in radians. -/
def tau : α := 6.283185307179586

/-- A quarter turn in radians. -/
def quarterTurn : α := 1.5707963267948966

/-- The distance from one to the next larger binary floating-point number, `2 ^ (-52)`. -/
def epsilon : α := 1.0 / 4503599627370496.0

/-! ## Numbers and non-numbers -/

/-- Whether a value compares with itself, which every number does. -/
def isNumber (x : α) : Bool := decide (x ≤ x)

/-- Whether a value is a number and not an infinity: its difference with itself is a number. -/
def isFinite (x : α) : Bool := decide (x - x ≤ x - x)

/-- Whether two values are equal as numbers. -/
def same (x y : α) : Bool := decide (x ≤ y) && decide (y ≤ x)

/-! ## Bounds -/

/-- The smaller of two values, or the one that is a number. Of equal values, such as the two zeros,
it is the second. -/
def least (x y : α) : α := if y ≤ x then y else if x ≤ x then x else y

/-- The larger of two values, or the one that is a number. Of equal values, such as the two zeros,
it is the second. -/
def greatest (x y : α) : α := if x ≤ y then y else if x ≤ x then x else y

/-- The value of `[low, high]` nearest to `x`; what is not a number stays. -/
def clamp (x low high : α) : α :=
  let raised := if x < low then low else x
  if high < raised then high else raised

/-- The square. -/
def square (x : α) : α := x * x

/-- The distance from zero. -/
def magnitude (x : α) : α := if x < 0.0 then -x else x

/-! ## Whole numbers -/

/-- The largest count a machine word holds. -/
def maxCount : Nat := UInt64.size - 1

/-- The value of a count. -/
def ofNat (n : Nat) : α := ofInt (n : Int)

/-- The whole part as a count: negative values give zero and large ones the largest count. -/
def count (x : α) : Nat := min (toInt x).toNat maxCount

/-- The whole part as a signed machine word, clamped to its range. -/
def signedWord (x : α) : Int :=
  max Int64.minValue.toInt (min (toInt x) Int64.maxValue.toInt)

/-- The whole part as a byte, clamped to its range. -/
def byte (x : α) : UInt8 := UInt8.ofNat (min (toInt x).toNat 255)

end Scalar

end Ambience
