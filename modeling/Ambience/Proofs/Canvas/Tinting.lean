import Mathlib.Tactic.Linarith
import Mathlib.Tactic.NormNum
import Ambience.Proofs.Canvas.Clipping
import Ambience.Proofs.Color.Mixing

/-!
# Tints

The share of a pixel that a shape covers is between nothing and all of it, for every shape and at
every pixel. So the weight of a call is at most the alpha of its paint, and since no pixel is tinted
twice, a call moves every pixel some part of the way toward its paint and none of them past it.
-/

namespace Ambience

variable {α : Type} [ExactScalar α]

open ExactScalar

/-! ## Covered shares -/

namespace Coverage

theorem inside_mem (depth : α) : 0 ≤ inside depth ∧ inside depth ≤ 1 := clamp_unit_mem _

theorem dot_mem (radius : α) : 0 ≤ dot radius ∧ dot radius ≤ 1 := by
  have area : 0 ≤ Scalar.pi * radius * radius / (Canvas.pixelSide * Canvas.pixelSide) := by
    have half_turn : (0 : α) ≤ Scalar.pi := by
      norm_num [Scalar.pi, literal_eq]
    rw [mul_assoc]
    exact div_nonneg (mul_nonneg half_turn (mul_self_nonneg radius)) (mul_self_nonneg _)
  rw [dot, least_eq, one_literal]
  exact ⟨le_min area zero_le_one, min_le_right _ 1⟩

/-- A line covers a share of every pixel, since its width is not zero. -/
theorem line_mem (fromX fromY toX toY : α) {width : α} (positive : 0 < width) (i j : Nat) :
    0 ≤ line fromX fromY toX toY width i j ∧ line fromX fromY toX toY width i j ≤ 1 := by
  have thin : 0 ≤ Scalar.least (width / Canvas.pixelSide) 1.0 ∧
      Scalar.least (width / Canvas.pixelSide) 1.0 ≤ 1 := by
    rw [least_eq, one_literal, pixelSide_eq]
    exact ⟨le_min (div_nonneg positive.le (by norm_num)) zero_le_one, min_le_right _ 1⟩
  obtain ⟨nonneg, le_one⟩ := inside_mem
    (reach width - segmentDistance (center i) (center j) fromX fromY toX toY)
  exact ⟨mul_nonneg nonneg thin.1, mul_le_one₀ le_one thin.1 thin.2⟩

theorem overlap_mem (low length : α) (place : Nat) :
    0 ≤ overlap low length place ∧ overlap low length place ≤ 1 := by
  rw [overlap, pixelSide_eq, least_eq, greatest_eq, greatest_eq, zero_literal]
  have within : min (low + length) (edge place + 8) - max low (edge place) ≤ 8 := by
    linarith [min_le_right (low + length) (edge place + 8), le_max_right low (edge place)]
  constructor
  · exact div_nonneg (le_max_right _ 0) (by norm_num)
  · exact div_le_one_of_le₀ (max_le within (by norm_num)) (by norm_num)

theorem below_mem (top : α) (j : Nat) : 0 ≤ below top j ∧ below top j ≤ 1 := clamp_unit_mem _

end Coverage

/-! ## Weights -/

/-- A paint can be seen if it covers more than a thousandth. -/
theorem Paint.isVisible_iff_lt {paint : Paint α} :
    paint.isVisible = true ↔ 1 / 1000 < paint.alpha := by
  norm_num [isVisible, literal_eq]

/-- A share of a paint covers no more than the paint. -/
theorem share_mem {alpha share : α} (nonneg : 0 ≤ alpha) (mem : 0 ≤ share ∧ share ≤ 1) :
    0 ≤ alpha * share ∧ alpha * share ≤ alpha :=
  ⟨mul_nonneg nonneg mem.1, mul_le_of_le_one_right nonneg mem.2⟩

namespace DrawCall

open Coverage

/-- A call that has no extent to paint: a size of it is zero or less, or its profile is empty. -/
def IsFlat : DrawCall α → Prop
  | clear _ => False
  | disc _ _ radius _ => radius ≤ 0
  | glow _ _ radius _ => radius ≤ 0
  | line _ _ _ _ width _ => width ≤ 0
  | rect _ _ width height _ => width ≤ 0 ∨ height ≤ 0
  | below tops step _ => tops = #[] ∨ step ≤ 0

/-- A call can change something if its paint can be seen and it has an extent (`IsFlat`). -/
theorem isEffective_iff {call : DrawCall α} {paint : Paint α} (painted : call.paint? = some paint) :
    call.isEffective = true ↔ paint.isVisible = true ∧ ¬call.IsFlat := by
  cases call <;> cases painted <;>
    simp [isEffective, IsFlat, zero_literal, and_assoc]

variable [ExactRoot α]

/-- A glow lays at most its paint on a pixel, however close the pixel is to the middle. -/
theorem glow_weight_mem {x y radius : α} {paint : Paint α} (positive : 0 < radius)
    (nonneg : 0 ≤ paint.alpha) (i j : Nat) :
    0 ≤ (glow x y radius paint).weight i j ∧ (glow x y radius paint).weight i j ≤ paint.alpha := by
  have away : 0 ≤ distance (center i) (center j) x y / radius := by
    refine div_nonneg ?_ positive.le
    exact (abs_nonneg _).trans (abs_sub_le_distance (center i) (center j) x y).1
  rw [weight, one_literal, zero_literal]
  split
  · rename_i near
    have share : 0 ≤ 1 - distance (center i) (center j) x y / radius ∧
        1 - distance (center i) (center j) x y / radius ≤ 1 := by
      constructor <;> linarith
    rw [mul_assoc]
    exact share_mem nonneg ⟨mul_nonneg share.1 share.1, mul_le_one₀ share.2 share.1 share.2⟩
  · exact ⟨le_refl 0, nonneg⟩

/-- At every pixel the `weight` of a call is between nothing and the alpha of its paint. -/
theorem weight_mem {call : DrawCall α} {paint : Paint α} (painted : call.paint? = some paint)
    (effective : call.isEffective = true) (i j : Nat) :
    0 ≤ call.weight i j ∧ call.weight i j ≤ paint.alpha := by
  obtain ⟨visible, extent⟩ := (isEffective_iff painted).1 effective
  have nonneg : 0 ≤ paint.alpha := le_trans (by norm_num) (Paint.isVisible_iff_lt.1 visible).le
  cases call with
  | clear => cases painted
  | disc x y radius =>
    cases painted
    rw [weight]
    split
    · exact share_mem nonneg (dot_mem radius)
    · exact share_mem nonneg (inside_mem _)
  | glow x y radius =>
    cases painted
    exact glow_weight_mem (not_le.1 extent) nonneg i j
  | line fromX fromY toX toY width =>
    cases painted
    exact share_mem nonneg (line_mem fromX fromY toX toY (not_le.1 extent) i j)
  | rect x y width height =>
    cases painted
    obtain ⟨across, across_le⟩ := overlap_mem x width i
    obtain ⟨along, along_le⟩ := overlap_mem y height j
    rw [weight, mul_assoc]
    exact share_mem nonneg ⟨mul_nonneg across along, mul_le_one₀ across_le along along_le⟩
  | below tops step =>
    cases painted
    exact share_mem nonneg (below_mem _ j)

end DrawCall

/-! ## Tinted pixels -/

namespace Canvas

variable [FloorRing α] [ExactRounding α] [ExactNearest α]

/-- A `tint` of a weight in the unit interval is a `mix` of this share. -/
theorem tint_eq_mix (pixel color : Rgb) {weight : α} (nonneg : 0 ≤ weight) (le_one : weight ≤ 1) :
    tint pixel color weight = pixel.mix color weight := by
  rw [tint, zero_literal, one_literal, least_eq, min_eq_left le_one]
  split
  · rename_i nonpos
    rw [le_antisymm nonpos nonneg, Rgb.mix_zero]
  · rfl

/-- A `visit` of different places mixes every pixel with the paint once, or leaves it. -/
theorem exists_mix_of_visit {canvas : Canvas} {weight : Nat → Nat → α} {places : List (Nat × Nat)}
    {alpha : α} (distinct : places.Nodup) (alpha_nonneg : 0 ≤ alpha) (le_one : alpha ≤ 1)
    (weights : ∀ i j, 0 ≤ weight i j ∧ weight i j ≤ alpha) (color : Rgb) {k : Nat} {pixel : Rgb}
    (found : canvas.pixels[k]? = some pixel) :
    ∃ share, 0 ≤ share ∧ share ≤ alpha ∧
      (canvas.visit color weight places).pixels[k]? = some (pixel.mix color share) := by
  by_cases visited : ∃ place ∈ places, canvas.offset? place.1 place.2 = some k
  · obtain ⟨⟨i, j⟩, member, kept⟩ := visited
    obtain ⟨nonneg, le_alpha⟩ := weights i j
    refine ⟨weight i j, nonneg, le_alpha, ?_⟩
    rw [getElem?_visit distinct kept, if_pos member, found, Option.map_some,
      tint_eq_mix pixel color nonneg (le_alpha.trans le_one)]
  · have elsewhere : ∀ place ∈ places, canvas.offset? place.1 place.2 ≠ some k :=
      fun place member kept => visited ⟨place, member, kept⟩
    refine ⟨0, le_refl 0, alpha_nonneg, ?_⟩
    rw [getElem?_visit_of_forall_ne color weight elsewhere, found, Rgb.mix_zero]

variable [ExactRoot α]

/-- A call moves pixels toward its paint and never past it. Every pixel is mixed with the paint
(`Rgb.mix`), by a share that is at most the alpha of the paint, so that each channel ends between
its old value and the one of the paint (`Rgb.Between`). A call that is too faint or has no extent
(`IsFlat`) changes nothing, and no call with paint changes anything of a canvas but its pixels. -/
theorem draw_toward_paint (canvas : Canvas) {call : DrawCall α} {paint : Paint α}
    (painted : call.paint? = some paint) (nonneg : 0 ≤ paint.alpha) (le_one : paint.alpha ≤ 1) :
    (∀ (k : Nat) (pixel : Rgb), canvas.pixels[k]? = some pixel →
      ∃ share, 0 ≤ share ∧ share ≤ paint.alpha ∧
        (canvas.draw call).pixels[k]? = some (pixel.mix paint.color share) ∧
        pixel.Between paint.color (pixel.mix paint.color share)) ∧
      (paint.alpha ≤ 1 / 1000 ∨ call.IsFlat → canvas.draw call = canvas) ∧
      canvas.draw call = { canvas with pixels := (canvas.draw call).pixels } ∧
      (canvas.draw call).pixels.size = canvas.pixels.size := by
  have drawn := draw_eq_ite painted canvas
  refine ⟨?_, ?_, ?_, (sameRaster_draw canvas call).size_eq⟩
  · intro k pixel found
    suffices mixed : ∃ share, 0 ≤ share ∧ share ≤ paint.alpha ∧
        (canvas.draw call).pixels[k]? = some (pixel.mix paint.color share) by
      obtain ⟨share, low, high, after⟩ := mixed
      exact ⟨share, low, high, after, Rgb.between_mix _ _ _⟩
    rw [drawn]
    split
    · rename_i effective
      rw [paint_eq_visit]
      exact exists_mix_of_visit (call.nodup_places _ _) nonneg le_one
        (DrawCall.weight_mem painted effective) paint.color found
    · refine ⟨0, le_refl 0, nonneg, ?_⟩
      rw [found, Rgb.mix_zero]
  · intro idle
    have idle' : ¬(paint.isVisible = true ∧ ¬call.IsFlat) := by
      rw [Paint.isVisible_iff_lt, not_and_or, not_lt, not_not]
      exact idle
    rw [drawn, if_neg (mt (DrawCall.isEffective_iff painted).1 idle')]
  · rw [drawn]
    split
    · rw [paint_eq_visit]
      exact visit_eq ..
    · rfl

/-- A glow about the corner of a small black raster, with paint that covers a half. -/
theorem draw_toward_paint_glow :
    ∃ call : DrawCall ℝ, call.paint? = some ⟨⟨200, 40, 0⟩, 1 / 2⟩ ∧ (0 : ℝ) ≤ 1 / 2 ∧ (1 / 2 : ℝ) ≤ 1 ∧
      (blank 3 2 .trueColor 1).pixels[11]? = some ⟨0, 0, 0⟩ ∧
      ∃ share : ℝ, 0 ≤ share ∧ share ≤ 1 / 2 ∧
        ((blank 3 2 .trueColor 1).draw call).pixels[11]? =
          some (Rgb.mix ⟨0, 0, 0⟩ ⟨200, 40, 0⟩ share) ∧
        Rgb.Between ⟨0, 0, 0⟩ ⟨200, 40, 0⟩ (Rgb.mix ⟨0, 0, 0⟩ ⟨200, 40, 0⟩ share) := by
  have half : (0 : ℝ) ≤ 1 / 2 ∧ (1 / 2 : ℝ) ≤ 1 := by norm_num
  have painted : (DrawCall.glow (24 : ℝ) 32 20 ⟨⟨200, 40, 0⟩, 1 / 2⟩).paint? =
      some ⟨⟨200, 40, 0⟩, 1 / 2⟩ := rfl
  refine ⟨_, painted, half.1, half.2, rfl, ?_⟩
  exact (draw_toward_paint (blank 3 2 .trueColor 1) painted half.1 half.2).1 11 ⟨0, 0, 0⟩ rfl

end Canvas

end Ambience
