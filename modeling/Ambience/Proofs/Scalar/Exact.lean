import Mathlib.Algebra.Order.AbsoluteValue.Basic
import Mathlib.Algebra.Order.Field.Basic
import Mathlib.Tactic.NormNum
import Mathlib.Tactic.Ring
import Ambience.Geometry
import Ambience.Scalar.Rational

/-!
# Exact arithmetic

Laws of the scene rules that hold up to rounding are stated over an ordered field, in which whole
numbers and decimal literals have the values that they are written as.
-/

namespace Ambience

/-- An ordered field whose order and operations are those of the scene rules. -/
class ExactScalar (α : Type) extends Field α, LinearOrder α, IsStrictOrderedRing α, Scalar α where
  literal_exact : ∀ digits places : Nat, ofScientific digits true places = (digits / 10 ^ places : α)
  whole_exact : ∀ n : Int, ofInt n = (n : α)

instance : ExactScalar ℚ where
  literal_exact digits places := by
    show Rat.ofScientific digits true places = _
    rw [Rat.ofScientific_true_def, Rat.mkRat_eq_div]
    push_cast
    rfl
  whole_exact _ := rfl

namespace ExactScalar

variable {α : Type} [ExactScalar α]

/-- A decimal literal of the scene rules has the value that it is written as. -/
theorem literal_eq (digits places : Nat) :
    (Scalar.toOfScientific.ofScientific digits true places : α) = digits / 10 ^ places :=
  literal_exact digits places

/-- A whole number (`Scalar.ofNat`) is the value nearest to itself. -/
theorem ofNat_eq (n : Nat) : (Scalar.ofNat n : α) = n :=
  (whole_exact (n : Int)).trans (Int.cast_natCast n)

theorem zero_literal : (Scalar.toOfScientific.ofScientific 0 true 1 : α) = 0 := by
  rw [literal_eq]
  norm_num

theorem one_literal : (Scalar.toOfScientific.ofScientific 10 true 1 : α) = 1 := by
  rw [literal_eq]
  norm_num

/-- Every exact value is a number and finite. -/
theorem isFinite_eq (x : α) : Scalar.isFinite x = true := by
  simp only [Scalar.isFinite, le_refl, decide_true]

/-- The larger of two values, `Scalar.greatest`, is their maximum. -/
theorem greatest_eq (x y : α) : Scalar.greatest x y = max x y := by
  unfold Scalar.greatest
  split
  · rename_i le
    exact (max_eq_right le).symm
  · rename_i lt
    rw [if_pos (le_refl x)]
    exact (max_eq_left (le_of_not_ge lt)).symm

/-- The smaller of two values, `Scalar.least`, is their minimum. -/
theorem least_eq (x y : α) : Scalar.least x y = min x y := by
  unfold Scalar.least
  split
  · rename_i le
    exact (min_eq_right le).symm
  · rename_i lt
    rw [if_pos (le_refl x)]
    exact (min_eq_left (le_of_not_ge lt)).symm

theorem magnitude_eq (x : α) : Scalar.magnitude x = |x| := by
  unfold Scalar.magnitude
  rw [zero_literal]
  split
  · rename_i negative
    exact (abs_of_neg negative).symm
  · rename_i nonneg
    exact (abs_of_nonneg (le_of_not_gt nonneg)).symm

/-- A value is raised to the lower bound, and then lowered to the upper one. -/
theorem clamp_eq (x low high : α) : Scalar.clamp x low high = min (max x low) high := by
  have lowered (y : α) [Decidable (high < y)] : (if high < y then high else y) = min y high := by
    split
    · rename_i lt
      exact (min_eq_right (le_of_lt lt)).symm
    · rename_i le
      exact (min_eq_left (le_of_not_gt le)).symm
  rw [Scalar.clamp]
  by_cases lt : x < low
  · rw [if_pos lt, lowered, max_eq_right (le_of_lt lt)]
  · rw [if_neg lt, lowered, max_eq_left (le_of_not_gt lt)]

theorem clamp_mono {x y : α} (le : x ≤ y) (low high : α) :
    Scalar.clamp x low high ≤ Scalar.clamp y low high := by
  rw [clamp_eq, clamp_eq]
  exact min_le_min_right high (max_le_max_right low le)

theorem clamp_le (x low high : α) : Scalar.clamp x low high ≤ high := by
  rw [clamp_eq]
  exact min_le_right _ high

theorem clamp_unit_eq (x : α) : Scalar.clamp x 0.0 1.0 = min (max x 0) 1 := by
  rw [clamp_eq, zero_literal, one_literal]

theorem clamp_unit_mem (x : α) : 0 ≤ Scalar.clamp x 0.0 1.0 ∧ Scalar.clamp x 0.0 1.0 ≤ 1 := by
  rw [clamp_unit_eq]
  exact ⟨le_min (le_max_right x 0) zero_le_one, min_le_right _ 1⟩

/-- A length of a view is cut off at zero (`Bounds.restrict`). -/
theorem restrict_eq (x : α) : Bounds.restrict x = max x 0 := by
  rw [Bounds.restrict, isFinite_eq, if_pos rfl, greatest_eq, zero_literal]

/-- A length that is not negative is one of a view as it is. -/
theorem restrict_of_nonneg {x : α} (nonneg : 0 ≤ x) : Bounds.restrict x = x := by
  rw [restrict_eq]
  exact max_eq_left nonneg

end ExactScalar

end Ambience
