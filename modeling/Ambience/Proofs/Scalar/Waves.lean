import Mathlib.Algebra.Order.AbsoluteValue.Basic
import Mathlib.Algebra.Order.Floor.Ring
import Mathlib.Tactic.Linarith
import Ambience.Proofs.Scalar.Rounding

/-!
# Waves in exact arithmetic

Where bodies are over time depends on sines, cosines and powers, of which the laws of motion need no
more than their ranges: a wave stays within one of zero, and what is left of a speed after a while is
a part of it. The clipped rationals have such waves and can be computed with.
-/

namespace Ambience

/-- Waves and decay that have the ranges of the true ones. -/
class ExactWaves (α : Type) [ExactScalar α] : Prop where
  abs_sin_le : ∀ x : α, |Scalar.sin x| ≤ 1
  abs_cos_le : ∀ x : α, |Scalar.cos x| ≤ 1
  /-- The share of a speed that is left after some nominal frames. -/
  power_mem : ∀ step : α, 0 ≤ step → 0 < Scalar.power 0.997 step ∧ Scalar.power 0.997 step ≤ 1

/-! ## Clipped rationals -/

/-- Rational numbers whose waves are clipped at one. -/
def Clipped : Type := ℚ

namespace Clipped

instance : Field Clipped := inferInstanceAs (Field ℚ)

instance : LinearOrder Clipped := inferInstanceAs (LinearOrder ℚ)

instance : IsStrictOrderedRing Clipped := inferInstanceAs (IsStrictOrderedRing ℚ)

instance : FloorRing Clipped := inferInstanceAs (FloorRing ℚ)

/-- A value brought within one of zero. -/
def clip (x : ℚ) : ℚ := max (-1) (min x 1)

instance : ExactScalar Clipped where
  toOfScientific := inferInstanceAs (OfScientific ℚ)
  decLt := Scalar.decLt (α := ℚ)
  decLe := Scalar.decLe (α := ℚ)
  ofInt := Scalar.ofInt (α := ℚ)
  toInt := Scalar.toInt (α := ℚ)
  floor := Scalar.floor (α := ℚ)
  ceil := Scalar.ceil (α := ℚ)
  round := Scalar.round (α := ℚ)
  sqrt := Scalar.sqrt (α := ℚ)
  sin x := clip (Scalar.sin (α := ℚ) x)
  cos x := clip (Scalar.cos (α := ℚ) x)
  power := Scalar.power (α := ℚ)
  remainder := Scalar.remainder (α := ℚ)
  literal_exact := ExactScalar.literal_exact (α := ℚ)
  whole_exact := ExactScalar.whole_exact (α := ℚ)

instance : ExactRounding Clipped where
  floor_exact := ExactRounding.floor_exact (α := ℚ)
  ceil_exact := ExactRounding.ceil_exact (α := ℚ)
  whole_part_exact := ExactRounding.whole_part_exact (α := ℚ)

instance : ExactRemainder Clipped where
  remainder_exact := ExactRemainder.remainder_exact (α := ℚ)

theorem abs_clip_le (x : ℚ) : |clip x| ≤ 1 :=
  abs_le.2 ⟨le_max_left _ _, max_le (by norm_num) (min_le_right _ _)⟩

instance : ExactWaves Clipped where
  abs_sin_le x := abs_clip_le _
  abs_cos_le x := abs_clip_le _
  power_mem step nonneg := by
    have frames : 0 ≤ ⌊(step : ℚ)⌋ := Int.floor_nonneg.2 nonneg
    have base : (Scalar.toOfScientific.ofScientific 997 true 3 : ℚ) = 997 / 1000 := by
      rw [ExactScalar.literal_eq]
      norm_num
    show 0 < (Scalar.toOfScientific.ofScientific 997 true 3 : ℚ) ^ ⌊(step : ℚ)⌋ ∧
      (Scalar.toOfScientific.ofScientific 997 true 3 : ℚ) ^ ⌊(step : ℚ)⌋ ≤ 1
    rw [base]
    exact ⟨zpow_pos (by norm_num) _, zpow_le_one₀ (by norm_num) (by norm_num) frames⟩

end Clipped

end Ambience
