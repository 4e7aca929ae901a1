import Mathlib
import Ambience.Proofs.Canvas.Tinting

/-!
# Covered areas

A rectangle lays on a pixel the share of it that it covers, so that the weights of all pixels add up to
the area that the rectangle has in common with the view, however it lies on the raster. In one
direction the lengths covered of the places of a line telescope to the length covered of the line; an
area is the product of two lengths.
-/

namespace Ambience

/-! ## Rectangles -/

/-- A rectangle along the axes, empty if a side lies behind the opposite one. -/
structure Rect (α : Type) where
  left : α
  right : α
  top : α
  bottom : α

section Exact

variable {α : Type} [ExactScalar α]

open ExactScalar

namespace Rect

/-- The rectangle of a corner and two sides. -/
def of (x y width height : α) : Rect α := ⟨x, x + width, y, y + height⟩

/-- What two rectangles have in common. -/
def meet (a b : Rect α) : Rect α :=
  ⟨max a.left b.left, min a.right b.right, max a.top b.top, min a.bottom b.bottom⟩

/-- The area, which is none if a side lies behind the opposite one. -/
def area (rect : Rect α) : α := max (rect.right - rect.left) 0 * max (rect.bottom - rect.top) 0

end Rect

/-! ## Lengths -/

/-- The length that two intervals have in common. -/
def commonLength (low high low' high' : α) : α := max (min high high' - max low low') 0

/-- What an interval has in common with another one lies between the images of its ends under the
map that brings every value into the other one. The `commonLength` is thus a difference, which
telescopes. -/
theorem commonLength_eq {low high low' high' : α} (le : low ≤ high) (le' : low' ≤ high') :
    commonLength low high low' high' = min (max high' low) high - min (max low' low) high := by
  unfold commonLength
  rcases le_total high' low with before | reaches
  · rw [max_eq_right before, max_eq_right (le'.trans before), sub_self]
    apply max_eq_right
    linarith [min_le_right high high', le_max_left low low']
  rcases le_total high low' with behind | starts
  · rw [min_eq_right (behind.trans (le_max_left low' low)),
      min_eq_right ((behind.trans le').trans (le_max_left high' low)), sub_self]
    apply max_eq_right
    linarith [min_le_left high high', le_max_right low low']
  · rw [max_eq_left reaches, min_eq_left (max_le starts le), min_comm high', max_comm low']
    apply max_eq_left
    exact sub_nonneg.2 (max_le (le_min le reaches) (le_min starts le'))

/-- The area that two rectangles have in common is the product of two `commonLength`s. -/
theorem Rect.area_meet_of (x y width height x' y' width' height' : α) :
    ((of x y width height).meet (of x' y' width' height')).area =
      commonLength x (x + width) x' (x' + width') * commonLength y (y + height) y' (y' + height') :=
  rfl

namespace Coverage

/-- The `overlap` of an interval with a place is what the two have in common, in pixels. -/
theorem overlap_eq (low length : α) (place : Nat) :
    overlap low length place =
      commonLength low (low + length) (edge place) (edge place + 8) / 8 := by
  rw [overlap, pixelSide_eq, least_eq, greatest_eq, greatest_eq, zero_literal, commonLength]

theorem edge_succ (place : Nat) : (edge (place + 1) : α) = edge place + 8 := by
  rw [edge_eq, edge_eq]
  push_cast
  ring

/-- The shares that an interval covers of the places of a line add up to what it covers of the
line. -/
theorem sum_overlap {low length : α} (nonneg : 0 ≤ length) (count : Nat) :
    ∑ place ∈ Finset.range count, overlap low length place =
      commonLength low (low + length) 0 (count * 8) / 8 := by
  have ordered : low ≤ low + length := le_add_of_nonneg_right nonneg
  have line : (edge 0 : α) ≤ edge count := by
    rw [edge_eq, edge_eq]
    exact mul_le_mul_of_nonneg_right (Nat.cast_le.2 (Nat.zero_le count)) (by norm_num)
  -- A place covers what its edges differ in when they are brought into the interval.
  let reached (place : Nat) : α := min (max (edge place) low) (low + length)
  have each (place : Nat) : overlap low length place = (reached (place + 1) - reached place) / 8 := by
    rw [overlap_eq, commonLength_eq ordered (by linarith)]
    simp only [reached, edge_succ]
  calc ∑ place ∈ Finset.range count, overlap low length place
      = (∑ place ∈ Finset.range count, (reached (place + 1) - reached place)) / 8 := by
        rw [Finset.sum_div]
        exact Finset.sum_congr rfl fun place _ => each place
    _ = (reached count - reached 0) / 8 := by rw [Finset.sum_range_sub]
    _ = commonLength low (low + length) (edge 0) (edge count) / 8 := by
        rw [commonLength_eq ordered line]
    _ = commonLength low (low + length) 0 (count * 8) / 8 := by
        rw [edge_eq, edge_eq, Nat.cast_zero, zero_mul]

end Coverage

/-! ## Laid weights -/

namespace Canvas

variable {canvas : Canvas} {cols rows : Nat}

/-- What painting lays on a pixel is what it is tinted with (`laid`). -/
theorem Sized.pixel_draw (sized : canvas.Sized cols rows) {call : DrawCall α} {paint : Paint α}
    (painted : call.paint? = some paint) (effective : call.isEffective = true) {i j : Nat}
    (column : i < cols) (row : j < rows * 2) :
    (canvas.draw call).pixel i j =
      tint (canvas.pixel i j) paint.color (call.laid cols (rows * 2) i j) := by
  rw [draw_eq_ite painted, if_pos effective, paint_eq_visit,
    sized.pixel_visit (call.nodup_places _ _) column row, sized.width_eq, sized.height_eq,
    DrawCall.laid]
  split
  · rfl
  · exact (if_pos (le_refl _)).symm

end Canvas

namespace DrawCall

/-- Where a call that `Clips` to its box is not visited it has no weight. -/
theorem Clips.laid_eq {call : DrawCall α} {width height i j : Nat} (clips : call.Clips width height)
    (nonneg : 0 ≤ call.weight i j) (column : i < width) (row : j < height) :
    call.laid width height i j = call.weight i j := by
  rw [laid]
  split
  · rfl
  · rename_i outside
    rw [mem_places, not_and_or] at outside
    have nothing : call.weight i j ≤ 0.0 := by
      rcases outside with outside | outside
      · exact clips.column column row outside
      · exact clips.row column row outside
    rw [zero_literal] at nothing ⊢
    exact le_antisymm nonneg nothing

end DrawCall

namespace Canvas

open Coverage

/-- The rectangle of a pixel. -/
def pixelRect (i j : Nat) : Rect α := Rect.of (edge i) (edge j) pixelSide pixelSide

variable [FloorRing α] [ExactRounding α]

/-- A rectangle has the weight of the share of a pixel that it covers. -/
theorem laid_rect {width height i j : Nat} (small : width * height < 2 ^ 63) (column : i < width)
    (row : j < height) {x y breadth tall : α} {paint : Paint α} (nonneg : 0 ≤ paint.alpha) :
    (DrawCall.rect x y breadth tall paint).laid width height i j =
      paint.alpha * (overlap x breadth i * overlap y tall j) := by
  have product : (DrawCall.rect x y breadth tall paint).weight i j =
      paint.alpha * (overlap x breadth i * overlap y tall j) := mul_assoc _ _ _
  have weight_nonneg : 0 ≤ (DrawCall.rect x y breadth tall paint).weight i j := by
    rw [product]
    exact mul_nonneg nonneg (mul_nonneg (overlap_mem x breadth i).1 (overlap_mem y tall j).1)
  rw [(DrawCall.clips_rect small).laid_eq weight_nonneg column row, product]

/-- A rectangle covers by exact area. On every pixel it lays its paint by the share of the pixel
that it covers, and all that it lays (`laid`) adds up to the area that it has in common with the
view (`Rect.meet`), measured in pixels. A raster has fewer pixels than a signed word can count. -/
theorem sum_laid_rect {canvas : Canvas} {cols rows : Nat} (sized : canvas.Sized cols rows)
    (small : cols * (rows * 2) < 2 ^ 63) {x y breadth tall : α} {paint : Paint α}
    (visible : paint.isVisible = true) (wide : 0 < breadth) (high : 0 < tall) :
    (∀ i < cols, ∀ j < rows * 2,
      (canvas.draw (.rect x y breadth tall paint)).pixel i j =
          tint (canvas.pixel i j) paint.color
            ((DrawCall.rect x y breadth tall paint).laid cols (rows * 2) i j) ∧
        (DrawCall.rect x y breadth tall paint).laid cols (rows * 2) i j =
          paint.alpha * (((Rect.of x y breadth tall).meet (pixelRect i j)).area / 64)) ∧
      ∑ i ∈ Finset.range cols, ∑ j ∈ Finset.range (rows * 2),
          (DrawCall.rect x y breadth tall paint).laid cols (rows * 2) i j =
        paint.alpha *
          ((Rect.of x y breadth tall).meet (Rect.of 0 0 (cols * 8) (rows * 2 * 8))).area / 64 := by
  have effective : (DrawCall.rect x y breadth tall paint).isEffective = true := by
    refine (DrawCall.isEffective_iff rfl).2 ⟨visible, ?_⟩
    exact not_or.2 ⟨not_le.2 wide, not_le.2 high⟩
  have nonneg : 0 ≤ paint.alpha := le_trans (by norm_num) (Paint.isVisible_iff_lt.1 visible).le
  constructor
  · intro i column j row
    refine ⟨sized.pixel_draw rfl effective column row, ?_⟩
    rw [laid_rect small column row nonneg, pixelRect, pixelSide_eq, Rect.area_meet_of, overlap_eq,
      overlap_eq]
    ring
  · calc ∑ i ∈ Finset.range cols, ∑ j ∈ Finset.range (rows * 2),
          (DrawCall.rect x y breadth tall paint).laid cols (rows * 2) i j
        = ∑ i ∈ Finset.range cols, ∑ j ∈ Finset.range (rows * 2),
            paint.alpha * (overlap x breadth i * overlap y tall j) := by
          refine Finset.sum_congr rfl fun i column => Finset.sum_congr rfl fun j row => ?_
          exact laid_rect small (Finset.mem_range.1 column) (Finset.mem_range.1 row) nonneg
      _ = paint.alpha * ((∑ i ∈ Finset.range cols, overlap x breadth i) *
            ∑ j ∈ Finset.range (rows * 2), overlap y tall j) := by
          rw [Finset.sum_mul_sum, Finset.mul_sum]
          exact Finset.sum_congr rfl fun i _ => (Finset.mul_sum _ _ _).symm
      _ = paint.alpha * (commonLength x (x + breadth) 0 (cols * 8) / 8 *
            (commonLength y (y + tall) 0 ((rows * 2 : Nat) * 8) / 8)) := by
          rw [sum_overlap wide.le, sum_overlap high.le]
      _ = paint.alpha *
            ((Rect.of x y breadth tall).meet (Rect.of 0 0 (cols * 8) (rows * 2 * 8))).area / 64 := by
          rw [Rect.area_meet_of, zero_add, zero_add]
          push_cast
          ring

/-- A rectangle that hangs over the left edge of a raster of two by two pixels. What is in view of
it is eleven wide and six high, and its paint covers a half. -/
theorem sum_laid_rect_edge :
    ∃ call : DrawCall ℚ, call = .rect (-3) 5 14 6 ⟨⟨200, 40, 0⟩, 1 / 2⟩ ∧
      (blank 2 1 .trueColor 1).Sized 2 1 ∧ (0 : ℚ) < 14 ∧ (0 : ℚ) < 6 ∧
      ∑ i ∈ Finset.range 2, ∑ j ∈ Finset.range 2, call.laid 2 2 i j = 1 / 2 * (11 * 6) / 64 := by
  have visible : (⟨⟨200, 40, 0⟩, 1 / 2⟩ : Paint ℚ).isVisible = true := by
    norm_num [Paint.isVisible_iff_lt]
  refine ⟨_, rfl, sized_blank 2 1 .trueColor 1, by norm_num, by norm_num, ?_⟩
  have laid := (sum_laid_rect (sized_blank 2 1 .trueColor 1) (by norm_num) (x := -3) (y := 5)
    visible (by norm_num : (0 : ℚ) < 14) (by norm_num : (0 : ℚ) < 6)).2
  rw [Rect.area_meet_of] at laid
  norm_num [commonLength] at laid ⊢
  exact laid

end Canvas

end Exact

end Ambience
