import Mathlib.Algebra.Order.Floor.Ring
import Ambience.Proofs.Scalar.Exact

/-!
# Exact rounding

Over an ordered field with floors the scene rules round to the whole numbers of the field. A count
is taken from a whole value, and is that value as long as it fits a machine word.
-/

namespace Ambience

/-- The rounding of the scene rules is that of the field. -/
class ExactRounding (α : Type) [ExactScalar α] [FloorRing α] : Prop where
  floor_exact : ∀ x : α, Scalar.floor x = (⌊x⌋ : α)
  ceil_exact : ∀ x : α, Scalar.ceil x = (⌈x⌉ : α)
  whole_part_exact : ∀ n : Int, Scalar.toInt (n : α) = n

instance : ExactRounding ℚ where
  floor_exact _ := rfl
  ceil_exact _ := rfl
  whole_part_exact n := by
    show (if (n : ℚ) < 0 then ⌈(n : ℚ)⌉ else ⌊(n : ℚ)⌋) = n
    rw [Int.ceil_intCast, Int.floor_intCast, ite_self]

/-- The remainder of the scene rules is that of the division toward zero. -/
class ExactRemainder (α : Type) [ExactScalar α] [FloorRing α] : Prop where
  remainder_exact :
    ∀ x y : α, Scalar.remainder x y = x - y * (if x / y < 0 then ⌈x / y⌉ else ⌊x / y⌋ : Int)

instance : ExactRemainder ℚ where
  remainder_exact _ _ := rfl

namespace ExactRounding

variable {α : Type} [ExactScalar α] [FloorRing α] [ExactRounding α]

/-- A value that is rounded down and counted is its floor, brought into the range of a count
(`Scalar.maxCount`). -/
theorem count_floor (x : α) : Scalar.count (Scalar.floor x) = min ⌊x⌋.toNat Scalar.maxCount := by
  rw [Scalar.count, floor_exact, whole_part_exact]

/-- A value that is rounded up and counted is its ceiling, brought into the range of a count. -/
theorem count_ceil (x : α) : Scalar.count (Scalar.ceil x) = min ⌈x⌉.toNat Scalar.maxCount := by
  rw [Scalar.count, ceil_exact, whole_part_exact]

/-- A whole number is brought into the range of a signed machine word (`Scalar.signedWord`). -/
theorem signedWord_eq (n : Int) :
    Scalar.signedWord (n : α) = max (-2 ^ 63) (min n (2 ^ 63 - 1)) := by
  rw [Scalar.signedWord, whole_part_exact]
  rfl

/-- What is counted was at least one. -/
theorem one_le_of_count_floor {x : α} (counted : 0 < Scalar.count (Scalar.floor x)) : 1 ≤ x := by
  rw [count_floor] at counted
  have whole : 1 ≤ ⌊x⌋ := by omega
  have cast := Int.le_floor.1 whole
  rwa [Int.cast_one] at cast

/-- A count that is not the largest is exact. -/
theorem count_ceil_eq {x : α} (nonneg : 0 ≤ x)
    (fits : Scalar.count (Scalar.ceil x) < Scalar.maxCount) :
    (Scalar.count (Scalar.ceil x) : Int) = ⌈x⌉ := by
  have whole : 0 ≤ ⌈x⌉ := Int.ceil_nonneg nonneg
  rw [count_ceil] at fits ⊢
  omega

end ExactRounding

end Ambience
