import Mathlib.Algebra.Order.AbsoluteValue.Basic
import Mathlib.Algebra.Order.Floor.Ring
import Mathlib.Tactic.Linarith
import Ambience.Proofs.Scalar.Waves
import Ambience.Motion
import Ambience.Oscillator

/-!
# Motion in exact arithmetic

One update covers at most four nominal frames, and none when time does not pass forward. How far
something is moved in it is bounded by its speed, and something that is near a view and is moved
little is still near it.
-/

namespace Ambience

variable {α : Type} [ExactScalar α]

/-- Bounds of two factors give one of their product. -/
theorem abs_mul_le {a b x y : α} (first : |a| ≤ x) (second : |b| ≤ y) : |a * b| ≤ x * y := by
  rw [abs_mul]
  exact mul_le_mul first second (abs_nonneg b) ((abs_nonneg a).trans first)

theorem abs_add_le_add {a b x y : α} (first : |a| ≤ x) (second : |b| ≤ y) : |a + b| ≤ x + y :=
  (abs_add_le a b).trans (add_le_add first second)

namespace Motion

/-! ## Steps -/

/-- An update covers four nominal frames at most, however many seconds have passed. -/
theorem stepOf_mem (seconds : α) : 0 ≤ stepOf seconds ∧ stepOf seconds ≤ 4 := by
  unfold stepOf
  split
  · rw [ExactScalar.zero_literal]
    exact ⟨le_refl 0, by norm_num⟩
  · rename_i passes
    have forward : 0 < seconds := by
      simp only [Bool.or_eq_true, Bool.not_eq_true', decide_eq_true_eq, not_or] at passes
      have positive := not_le.1 passes.2
      rwa [ExactScalar.zero_literal] at positive
    have frame : (0 : α) < nominalFrame := by
      norm_num [nominalFrame, ExactScalar.literal_eq]
    have longest : (maxStep : α) = 4 := by
      norm_num [maxStep, ExactScalar.literal_eq]
    rw [ExactScalar.least_eq, longest]
    exact ⟨le_min (div_pos forward frame).le (by norm_num), min_le_right _ _⟩

/-- Whatever the numbers are computed with, time that does not pass forward does not pass: `stepOf`
is zero. -/
theorem stepOf_of_still {β : Type} [Scalar β] {seconds : β}
    (still : Scalar.isFinite seconds = false ∨ seconds ≤ 0.0) : stepOf seconds = 0.0 := by
  unfold stepOf
  refine if_pos ?_
  rcases still with infinite | backward
  · rw [infinite]
    rfl
  · rw [decide_eq_true backward, Bool.or_true]

/-! ## Smoothing -/

/-- Smoothing stays between a value and its target. -/
theorem ease_mem {low high value target rate : α} (nonneg : 0 ≤ rate) (le_one : rate ≤ 1)
    (value_mem : low ≤ value ∧ value ≤ high) (target_mem : low ≤ target ∧ target ≤ high) :
    low ≤ ease value target rate ∧ ease value target rate ≤ high := by
  have mixed : ease value target rate = (1 - rate) * value + rate * target := by
    unfold ease
    ring
  have rest : 0 ≤ 1 - rate := sub_nonneg.2 le_one
  rw [mixed]
  constructor
  · have least := add_le_add (mul_le_mul_of_nonneg_left value_mem.1 rest)
      (mul_le_mul_of_nonneg_left target_mem.1 nonneg)
    linarith
  · have most := add_le_add (mul_le_mul_of_nonneg_left value_mem.2 rest)
      (mul_le_mul_of_nonneg_left target_mem.2 nonneg)
    linarith

/-- Smoothing at a low rate changes a value by little. -/
theorem abs_ease_le {value target rate x y r : α} (value_le : |value| ≤ x) (target_le : |target| ≤ y)
    (rate_le : |rate| ≤ r) : |ease value target rate| ≤ x + (y + x) * r := by
  unfold ease
  have gap : |target - value| ≤ y + x := (abs_sub target value).trans (add_le_add target_le value_le)
  exact abs_add_le_add value_le (abs_mul_le gap rate_le)

/-- The rate of a step is limited by that of the longest one. -/
theorem rate_mem {share step : α} (share_nonneg : 0 ≤ share) (step_mem : 0 ≤ step ∧ step ≤ 4) :
    0 ≤ Scalar.least (share * step) 1.0 ∧ Scalar.least (share * step) 1.0 ≤ min 1 (share * 4) := by
  rw [ExactScalar.least_eq, ExactScalar.one_literal]
  have longest : share * step ≤ share * 4 := mul_le_mul_of_nonneg_left step_mem.2 share_nonneg
  exact ⟨le_min (mul_nonneg share_nonneg step_mem.1) zero_le_one,
    le_min (min_le_right _ _) ((min_le_left _ _).trans longest)⟩

theorem abs_rate_le {share step r : α} (share_nonneg : 0 ≤ share) (step_mem : 0 ≤ step ∧ step ≤ 4)
    (low : share * 4 ≤ r) : |Scalar.least (share * step) 1.0| ≤ r := by
  obtain ⟨nonneg, le⟩ := rate_mem share_nonneg step_mem
  rw [abs_of_nonneg nonneg]
  exact le.trans ((min_le_right _ _).trans low)

/-- Distance slows a body down: near ones have six fifths of their speed at most. -/
theorem abs_parallaxSpeed_le {base z b : α} (base_le : |base| ≤ b) (z_mem : 0 ≤ z ∧ z ≤ 1) :
    |parallaxSpeed base z| ≤ b * (6 / 5) := by
  refine abs_mul_le base_le (abs_le.2 ?_)
  norm_num [ExactScalar.literal_eq]
  exact ⟨by linarith [z_mem.1], by linarith [z_mem.2]⟩

/-! ## Points around a view -/

/-- A point that is at most `margin` outside a view. -/
def Within (x y width height margin : α) : Prop :=
  -margin ≤ x ∧ x ≤ width + margin ∧ -margin ≤ y ∧ y ≤ height + margin

/-- What is not outside by a margin is `Within` it. -/
theorem isOutside_eq_false_iff {x y width height margin : α} :
    isOutside x y width height margin = false ↔ Within x y width height margin := by
  simp only [isOutside, Within, Bool.or_eq_false_iff, decide_eq_false_iff_not, not_lt, and_assoc]

/-- What is moved by no more than `d` in either direction is within a margin that is wider by
`d`. -/
theorem Within.shift {x y width height margin dx dy d : α} (within : Within x y width height margin)
    (dx_le : |dx| ≤ d) (dy_le : |dy| ≤ d) :
    Within (x + dx) (y + dy) width height (margin + d) := by
  obtain ⟨left, right, top, bottom⟩ := within
  obtain ⟨dx_low, dx_high⟩ := abs_le.1 dx_le
  obtain ⟨dy_low, dy_high⟩ := abs_le.1 dy_le
  exact ⟨by linarith, by linarith, by linarith, by linarith⟩

theorem Within.widen {x y width height margin margin' : α} (within : Within x y width height margin)
    (le : margin ≤ margin') : Within x y width height margin' := by
  obtain ⟨left, right, top, bottom⟩ := within
  exact ⟨by linarith, by linarith, by linarith, by linarith⟩

end Motion

/-- A deflection is at most the amplitude. -/
theorem Oscillator.abs_value_le [ExactWaves α] {o : Oscillator α} {a : α} (amplitude : |o.amplitude| ≤ a) :
    |o.value| ≤ a := by
  have product := abs_mul_le (ExactWaves.abs_sin_le o.phase) amplitude
  rwa [one_mul] at product

end Ambience
