import Mathlib.Algebra.Order.Round
import Mathlib.Tactic.Linarith
import Mathlib.Tactic.NormNum
import Ambience.Color
import Ambience.Proofs.Motion
import Ambience.Proofs.Scalar.Roots

/-!
# Mixed colours

In exact arithmetic a mixed colour lies between the two that it is mixed of: a channel is rounded to
the nearest byte, and a value between two bytes is rounded to one that is still between them.
-/

namespace Ambience

variable {α : Type} [ExactScalar α] [FloorRing α]

/-! ## Rounding to the nearest -/

/-- What is not negative is rounded to the nearest whole number, a half going up. -/
class ExactNearest (α : Type) [ExactScalar α] [FloorRing α] : Prop where
  round_exact : ∀ x : α, 0 ≤ x → Scalar.round x = (⌊x + 1 / 2⌋ : α)

instance : ExactNearest ℚ where
  round_exact x nonneg := by
    show (Scalar.Rational.nearest x : ℚ) = _
    rw [Scalar.Rational.nearest, if_neg (not_lt.2 nonneg)]

instance : ExactNearest ℝ where
  round_exact x nonneg := by
    show (Scalar.Real.nearest x : ℝ) = _
    rw [Scalar.Real.nearest, if_neg (not_lt.2 nonneg)]

variable [ExactRounding α] [ExactNearest α]

/-- A value of the range of a byte is rounded to the nearest one. -/
theorem Scalar.toNat_byte_round {x : α} (nonneg : 0 ≤ x) (byte : x ≤ 255) :
    ((Scalar.byte (Scalar.round x)).toNat : Int) = ⌊x + 1 / 2⌋ := by
  have rounded : Scalar.toInt (Scalar.round x) = ⌊x + 1 / 2⌋ := by
    rw [ExactNearest.round_exact x nonneg, ExactRounding.whole_part_exact]
  have above : 0 ≤ ⌊x + 1 / 2⌋ := Int.floor_nonneg.2 (by linarith)
  have below : ⌊x + 1 / 2⌋ < 256 := by
    apply Int.floor_lt.2
    push_cast
    linarith
  rw [Scalar.byte, rounded, UInt8.toNat_ofNat']
  omega

/-- A value between two whole numbers is rounded to a byte between them, if the larger is one. -/
theorem Scalar.byte_round_mem {low high : Nat} {x : α} (byte : high < 256) (low_le : (low : α) ≤ x)
    (le_high : x ≤ high) :
    low ≤ (Scalar.byte (Scalar.round x)).toNat ∧ (Scalar.byte (Scalar.round x)).toNat ≤ high := by
  have most : (high : α) ≤ 255 := by exact_mod_cast Nat.le_of_lt_succ byte
  have rounded := toNat_byte_round (le_trans (Nat.cast_nonneg low) low_le) (le_high.trans most)
  have above : (low : Int) ≤ ⌊x + 1 / 2⌋ := by
    apply Int.le_floor.2
    push_cast
    linarith
  have below : ⌊x + 1 / 2⌋ < (high : Int) + 1 := by
    apply Int.floor_lt.2
    push_cast
    linarith
  omega

/-! ## Between two colours -/

namespace Rgb

/-- A colour each of whose channels lies between those of two colours. -/
structure Between (a b mixed : Rgb) : Prop where
  red : min a.red.toNat b.red.toNat ≤ mixed.red.toNat ∧
    mixed.red.toNat ≤ max a.red.toNat b.red.toNat
  green : min a.green.toNat b.green.toNat ≤ mixed.green.toNat ∧
    mixed.green.toNat ≤ max a.green.toNat b.green.toNat
  blue : min a.blue.toNat b.blue.toNat ≤ mixed.blue.toNat ∧
    mixed.blue.toNat ≤ max a.blue.toNat b.blue.toNat

/-- A mixed channel does not overshoot either of its ends. -/
theorem mixChannel_mem (a b : UInt8) {t : α} (nonneg : 0 ≤ t) (le_one : t ≤ 1) :
    min a.toNat b.toNat ≤ (mixChannel a b t).toNat ∧
      (mixChannel a b t).toNat ≤ max a.toNat b.toNat := by
  have bytes : max a.toNat b.toNat < 256 := max_lt a.toNat_lt b.toNat_lt
  have between := Motion.ease_mem nonneg le_one
    ⟨min_le_left (a.toNat : α) b.toNat, le_max_left (a.toNat : α) b.toNat⟩
    ⟨min_le_right (a.toNat : α) b.toNat, le_max_right (a.toNat : α) b.toNat⟩
  rw [← Nat.cast_min, ← Nat.cast_max] at between
  rw [mixChannel, ExactScalar.ofNat_eq, ExactScalar.ofNat_eq]
  exact Scalar.byte_round_mem bytes between.1 between.2

/-- A mixed channel is the whole number nearest to the value in its share between both ends. -/
theorem mixChannel_eq_round (a b : UInt8) {t : α} (nonneg : 0 ≤ t) (le_one : t ≤ 1) :
    ((mixChannel a b t).toNat : Int) =
      round ((a.toNat : α) + ((b.toNat : α) - (a.toNat : α)) * t) := by
  have byte : ∀ c : UInt8, 0 ≤ (c.toNat : α) ∧ (c.toNat : α) ≤ 255 := fun c =>
    ⟨Nat.cast_nonneg _, by exact_mod_cast Nat.le_of_lt_succ c.toNat_lt⟩
  obtain ⟨low, high⟩ := Motion.ease_mem nonneg le_one (byte a) (byte b)
  rw [mixChannel, ExactScalar.ofNat_eq, ExactScalar.ofNat_eq, round_eq]
  exact Scalar.toNat_byte_round low high

/-- A channel goes from one end to the other without turning back. -/
theorem mixChannel_mono {a b : UInt8} {s t : α} (nonneg : 0 ≤ s) (le : s ≤ t) (le_one : t ≤ 1) :
    (a.toNat ≤ b.toNat → (mixChannel a b s).toNat ≤ (mixChannel a b t).toNat) ∧
      (b.toNat ≤ a.toNat → (mixChannel a b t).toNat ≤ (mixChannel a b s).toNat) := by
  have first := mixChannel_eq_round a b nonneg (le.trans le_one)
  have second := mixChannel_eq_round a b (nonneg.trans le) le_one
  rw [round_eq] at first second
  constructor
  · intro rises
    have gap : 0 ≤ (b.toNat : α) - a.toNat := sub_nonneg.2 (Nat.cast_le.2 rises)
    have values := add_le_add_right (mul_le_mul_of_nonneg_left le gap) (a.toNat : α)
    have floors := Int.floor_le_floor (add_le_add_left values (1 / 2))
    omega
  · intro falls
    have gap : (b.toNat : α) - a.toNat ≤ 0 := sub_nonpos.2 (Nat.cast_le.2 falls)
    have values := add_le_add_right (mul_le_mul_of_nonpos_left le gap) (a.toNat : α)
    have floors := Int.floor_le_floor (add_le_add_left values (1 / 2))
    omega

/-- Whatever the share, a mixed colour lies `Between` the two that it is mixed of. -/
theorem between_mix (a b : Rgb) (t : α) : Between a b (a.mix b t) := by
  obtain ⟨nonneg, le_one⟩ := ExactScalar.clamp_unit_mem t
  exact ⟨mixChannel_mem a.red b.red nonneg le_one, mixChannel_mem a.green b.green nonneg le_one,
    mixChannel_mem a.blue b.blue nonneg le_one⟩

theorem mixChannel_zero (a b : UInt8) : mixChannel a b (0 : α) = a := by
  have none := mixChannel_eq_round a b (le_refl (0 : α)) zero_le_one
  rw [mul_zero, add_zero, round_natCast] at none
  apply UInt8.toNat_inj.1
  omega

theorem mixChannel_one (a b : UInt8) : mixChannel a b (1 : α) = b := by
  have whole := mixChannel_eq_round a b zero_le_one (le_refl (1 : α))
  rw [mul_one, add_sub_cancel, round_natCast] at whole
  apply UInt8.toNat_inj.1
  omega

/-- Nothing of another colour leaves a colour as it is. -/
theorem mix_zero (a b : Rgb) : a.mix b (0 : α) = a := by
  have zero : Scalar.clamp (0 : α) 0.0 1.0 = 0 := by
    rw [ExactScalar.clamp_unit_eq, max_self]
    exact min_eq_left zero_le_one
  simp only [mix, zero, mixChannel_zero]

/-- The whole of another colour is that colour. -/
theorem mix_one (a b : Rgb) : a.mix b (1 : α) = b := by
  have one : Scalar.clamp (1 : α) 0.0 1.0 = 1 := by
    rw [ExactScalar.clamp_unit_eq, max_eq_left zero_le_one, min_self]
  simp only [mix, one, mixChannel_one]

end Rgb

end Ambience
