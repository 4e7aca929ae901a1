import Ambience.Scalar
import Mathlib.Data.Rat.Floor

/-!
# Rational numbers as scene numbers

Over the rationals arithmetic, order and rounding are exact and can be carried out. Square roots are
exact where they are rational, sine and cosine are given by the first two terms of their series, and
powers by the whole part of the exponent.
-/

namespace Ambience

namespace Scalar.Rational

/-- The whole part toward zero. -/
def wholePart (x : ℚ) : Int := if x < 0 then ⌈x⌉ else ⌊x⌋

/-- The nearest whole number, a half going away from zero. -/
def nearest (x : ℚ) : Int := if x < 0 then ⌈x - 1 / 2⌉ else ⌊x + 1 / 2⌋

end Scalar.Rational

/-- Scene rules over the rational numbers. -/
instance : Scalar ℚ where
  decLt a b := inferInstanceAs (Decidable (a < b))
  decLe a b := inferInstanceAs (Decidable (a ≤ b))
  ofInt n := n
  toInt := Scalar.Rational.wholePart
  floor x := ⌊x⌋
  ceil x := ⌈x⌉
  round x := Scalar.Rational.nearest x
  sqrt x := (x.num.toNat * x.den).sqrt / x.den
  sin x := x - x * x * x / 6
  cos x := 1 - x * x / 2
  power x y := x ^ ⌊y⌋
  remainder x y := x - y * Scalar.Rational.wholePart (x / y)

end Ambience
