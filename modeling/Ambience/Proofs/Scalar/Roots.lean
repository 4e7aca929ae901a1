import Mathlib.Analysis.SpecialFunctions.Pow.Real
import Mathlib.Analysis.SpecialFunctions.Trigonometric.Basic
import Mathlib.Analysis.Real.Sqrt
import Ambience.Proofs.Scalar.Rounding

/-!
# Exact roots

Distances are roots, which no field of rationals has all of. Over the real numbers every operation of
the scene rules is the one it is named for.
-/

namespace Ambience

/-- The root of what is not negative is its root in the field. -/
class ExactRoot (α : Type) [ExactScalar α] : Prop where
  sqrt_exact : ∀ x : α, 0 ≤ x → 0 ≤ Scalar.sqrt x ∧ Scalar.sqrt x * Scalar.sqrt x = x

/-! ## Real numbers -/

/-- The whole part of a real number toward zero. -/
noncomputable def Scalar.Real.wholePart (x : ℝ) : Int := if x < 0 then ⌈x⌉ else ⌊x⌋

/-- The whole number nearest to a real number, a half going away from zero. -/
noncomputable def Scalar.Real.nearest (x : ℝ) : Int := if x < 0 then ⌈x - 1 / 2⌉ else ⌊x + 1 / 2⌋

theorem Scalar.Real.ofScientific_eq (digits places : Nat) :
    (OfScientific.ofScientific digits true places : ℝ) = digits / 10 ^ places := by
  have rational : (OfScientific.ofScientific digits true places : ℚ) = digits / 10 ^ places :=
    ExactScalar.literal_exact digits places
  have real := Rat.cast_ofScientific (K := ℝ) digits true places
  rw [rational] at real
  push_cast at real
  exact real.symm

/-- Scene rules over the real numbers. -/
noncomputable instance : ExactScalar ℝ where
  decLt a b := inferInstanceAs (Decidable (a < b))
  decLe a b := inferInstanceAs (Decidable (a ≤ b))
  ofInt n := n
  toInt := Scalar.Real.wholePart
  floor x := ⌊x⌋
  ceil x := ⌈x⌉
  round x := Scalar.Real.nearest x
  sqrt := Real.sqrt
  sin := Real.sin
  cos := Real.cos
  power x y := x ^ y
  remainder x y := x - y * Scalar.Real.wholePart (x / y)
  literal_exact := Scalar.Real.ofScientific_eq
  whole_exact _ := rfl

instance : ExactRounding ℝ where
  floor_exact _ := rfl
  ceil_exact _ := rfl
  whole_part_exact n := by
    show (if (n : ℝ) < 0 then ⌈(n : ℝ)⌉ else ⌊(n : ℝ)⌋) = n
    rw [Int.ceil_intCast, Int.floor_intCast, ite_self]

instance : ExactRemainder ℝ where
  remainder_exact _ _ := rfl

instance : ExactRoot ℝ where
  sqrt_exact x nonneg := ⟨Real.sqrt_nonneg x, Real.mul_self_sqrt nonneg⟩

end Ambience
