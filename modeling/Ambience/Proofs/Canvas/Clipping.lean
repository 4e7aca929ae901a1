import Mathlib.Data.List.ProdSigma
import Mathlib.Tactic.Linarith
import Mathlib.Tactic.NormNum
import Ambience.Proofs.Canvas.Visits
import Ambience.Proofs.Motion
import Ambience.Proofs.Scalar.Roots

/-!
# Clipping

A call is painted in a box around its shape, cut off at the edges of the raster. In exact arithmetic
its weight is zero at every pixel outside of the box, so that the picture is the one that a sweep over
the whole raster gives, in which every pixel is tinted once with the weight that the call has there.
-/

namespace Ambience

variable {α : Type}

/-! ## Sweeps -/

section Sweeps

variable [Scalar α]

/-- The canvas after a call has been painted at every pixel of the raster, column by column. -/
def Canvas.sweep (canvas : Canvas) (call : DrawCall α) (color : Rgb) : Canvas :=
  let height := canvas.height
  (List.range canvas.width).foldl
    (fun canvas x => (List.range height).foldl
      (fun canvas y => canvas.blend color (call.weight x y) x y) canvas)
    canvas

/-- A fold whose steps change nothing changes nothing. -/
theorem foldl_idle {β ι : Type} {step : β → ι → β} {items : List ι}
    (idle : ∀ item ∈ items, ∀ state, step state item = state) (state : β) :
    items.foldl step state = state := by
  induction items generalizing state with
  | nil => rfl
  | cons item later ih =>
    rw [List.foldl_cons, idle item List.mem_cons_self]
    exact ih (fun other member => idle other (List.mem_cons_of_mem _ member)) state

/-- The places before a span, in it and behind it. -/
theorem Span.range_eq {span : Span} {limit : Nat} (le : span.first ≤ span.stop)
    (stop_le : span.stop ≤ limit) :
    List.range limit =
      List.range span.first ++ (span.places ++ List.range' span.stop (limit - span.stop)) := by
  obtain ⟨first, stop⟩ := span
  dsimp only at le stop_le
  obtain ⟨length, rfl⟩ := Nat.exists_eq_add_of_le le
  obtain ⟨rest, rfl⟩ := Nat.exists_eq_add_of_le stop_le
  have inner := @List.range'_append_1 first length rest
  have outer := @List.range'_append_1 0 first (length + rest)
  rw [Nat.zero_add, ← Nat.add_assoc] at outer
  rw [places, Nat.add_sub_cancel_left, Nat.add_sub_cancel_left, List.range_eq_range',
    List.range_eq_range', inner, outer]

/-- A fold over the first places may leave out those outside of a span, if they change nothing. -/
theorem Span.foldl_places {β : Type} {step : β → Nat → β} {span : Span} {limit : Nat}
    (stop_le : span.stop ≤ limit)
    (idle : ∀ place < limit, ¬span.Holds place → ∀ state, step state place = state) (state : β) :
    span.places.foldl step state = (List.range limit).foldl step state := by
  rcases Nat.le_or_le span.first span.stop with le | reversed
  · have before : ∀ place ∈ List.range span.first, ∀ state, step state place = state := by
      intro place member
      have low := List.mem_range.1 member
      exact idle place (by omega) fun holds => absurd holds.1 (by omega)
    have behind : ∀ place ∈ List.range' span.stop (limit - span.stop), ∀ state,
        step state place = state := by
      intro place member
      have bounds := List.mem_range'_1.1 member
      exact idle place (by omega) fun holds => absurd holds.2 (by omega)
    rw [range_eq le stop_le, List.foldl_append, List.foldl_append, foldl_idle before,
      foldl_idle behind]
  · have empty : span.places = [] := by
      rw [places, Nat.sub_eq_zero_of_le reversed]
      rfl
    have all : ∀ place ∈ List.range limit, ∀ state, step state place = state := by
      intro place member
      refine idle place (List.mem_range.1 member) fun holds => ?_
      exact absurd (Nat.lt_of_le_of_lt holds.1 holds.2) (by omega)
    rw [empty, foldl_idle all]
    rfl

/-- What a call leaves out of its box it would not have changed. -/
structure DrawCall.Clips (call : DrawCall α) (width height : Nat) : Prop where
  columns_le : (call.columns width).stop ≤ width
  rows_le (i : Nat) : (call.rows height i).stop ≤ height
  column {i j : Nat} : i < width → j < height → ¬(call.columns width).Holds i →
    call.weight i j ≤ 0.0
  row {i j : Nat} : i < width → j < height → ¬(call.rows height i).Holds j → call.weight i j ≤ 0.0

/-- A call that `Clips` to its box paints what the `sweep` over the whole raster does. -/
theorem Canvas.paint_eq_sweep {call : DrawCall α} {canvas : Canvas}
    (clips : call.Clips canvas.width canvas.height) (color : Rgb) :
    canvas.paint call color = canvas.sweep call color := by
  -- Each column of the box is painted from top to bottom first, then the other columns are added.
  have whole : canvas.paint call color =
      (call.columns canvas.width).places.foldl
        (fun painted i => (List.range canvas.height).foldl
          (fun painted j => painted.blend color (call.weight i j) i j) painted) canvas := by
    refine List.foldl_ext _ _ canvas fun painted i member => ?_
    have inBox := List.mem_range'_1.1 member
    have inRaster : i < canvas.width := Nat.lt_of_lt_of_le (by omega) clips.columns_le
    refine Span.foldl_places (clips.rows_le i) (fun j inColumn outside painted => ?_) painted
    exact blend_of_nonpos (clips.row inRaster inColumn outside) painted color i j
  rw [whole]
  refine Span.foldl_places clips.columns_le (fun i inRaster outside painted => ?_) canvas
  refine foldl_idle (fun j member painted => ?_) painted
  exact blend_of_nonpos (clips.column inRaster (List.mem_range.1 member) outside) painted color i j

/-! ## Pixel by pixel -/

namespace Canvas

variable {canvas : Canvas} {cols rows : Nat}

/-- A `sweep` is a `visit` of all places, column by column. -/
theorem sweep_eq_visit (canvas : Canvas) (call : DrawCall α) (color : Rgb) :
    canvas.sweep call color =
      canvas.visit color call.weight ((List.range canvas.width).product (List.range canvas.height)) := by
  simp only [visit, List.product, List.foldl_flatMap, List.foldl_map]
  rfl

/-- A `sweep` tints every pixel of the raster once, with the weight that the call has there. -/
theorem pixel_sweep {i j : Nat} (sized : canvas.Sized cols rows) (call : DrawCall α) (color : Rgb)
    (column : i < cols) (row : j < rows * 2) :
    (canvas.sweep call color).pixel i j = tint (canvas.pixel i j) color (call.weight i j) := by
  have distinct : ((List.range canvas.width).product (List.range canvas.height)).Nodup :=
    List.nodup_range.product List.nodup_range
  have visited : (i, j) ∈ (List.range canvas.width).product (List.range canvas.height) := by
    rw [List.pair_mem_product, List.mem_range, List.mem_range, sized.width_eq, sized.height_eq]
    exact ⟨column, row⟩
  rw [sweep_eq_visit, sized.pixel_visit distinct column row, if_pos visited]

end Canvas

end Sweeps

/-! ## Boxes -/

section Exact

variable [ExactScalar α]

open ExactScalar

namespace Coverage

theorem pixelSide_eq : (Canvas.pixelSide : α) = 8 := by
  norm_num [Canvas.pixelSide, literal_eq]

theorem edge_eq (place : Nat) : (edge place : α) = place * 8 := by
  rw [edge, ofNat_eq, pixelSide_eq]

theorem center_eq (place : Nat) : (center place : α) = edge place + 4 := by
  rw [center, edge, ofNat_eq, pixelSide_eq]
  norm_num [literal_eq]
  ring

omit [ExactScalar α] in
theorem touched_stop_le [Scalar α] (low high : α) (limit : Nat) :
    (touched low high limit).stop ≤ limit := by
  unfold touched
  dsimp only
  omega

variable [FloorRing α] [ExactRounding α]

/-- The places that an interval touches, with the rounding and the saturation of words written
out. -/
theorem touched_eq (low high : α) (limit : Nat) :
    touched low high limit =
      ⟨(max (-2 ^ 63) (min (max ⌊low / 8⌋ 0) (2 ^ 63 - 1))).toNat,
        (min (max (-2 ^ 63) (min ⌈high / 8⌉ (2 ^ 63 - 1))) limit).toNat⟩ := by
  rw [touched, pixelSide_eq, ExactRounding.floor_exact, ExactRounding.ceil_exact, greatest_eq,
    zero_literal, ← Int.cast_zero, ← Int.cast_max, ExactRounding.signedWord_eq,
    ExactRounding.signedWord_eq]

/-- A pixel that an interval does not touch lies on one side of it. -/
theorem beside_of_not_touched {low high : α} {limit place : Nat} (fits : limit < 2 ^ 63)
    (inRaster : place < limit) (outside : ¬(touched low high limit).Holds place) :
    edge place + 8 ≤ low ∨ high ≤ edge place := by
  rw [touched_eq, Span.Holds, not_and_or, not_le, not_lt] at outside
  dsimp only at outside
  rw [edge_eq]
  rcases outside with before | behind
  · have below : (place : Int) + 1 ≤ ⌊low / 8⌋ := by omega
    have cast := Int.le_floor.1 below
    push_cast at cast
    exact .inl (by linarith)
  · have above : ⌈high / 8⌉ ≤ (place : Int) := by omega
    have cast := Int.ceil_le.1 above
    push_cast at cast
    exact .inr (by linarith)

omit [FloorRing α] [ExactRounding α] in
/-- A pixel beside the neighbourhood of a point is farther from the point by half a pixel. -/
theorem far_of_beside {middle radius : α} {place : Nat}
    (beside : edge place + 8 ≤ middle - radius ∨ middle + radius ≤ edge place) :
    radius + 4 ≤ |center place - middle| := by
  rw [center_eq]
  rcases beside with before | behind
  · rw [abs_sub_comm]
    exact le_trans (by linarith) (le_abs_self _)
  · exact le_trans (by linarith) (le_abs_self _)

end Coverage

/-! ## Weights outside of a box -/

namespace Coverage

/-- Half a pixel outside of a shape nothing is covered. -/
theorem inside_of_far {depth : α} (far : depth ≤ -4) : inside depth = 0 := by
  rw [inside, pixelSide_eq, clamp_unit_eq]
  have outside : depth / 8 + Scalar.toOfScientific.ofScientific 5 true 1 ≤ 0 := by
    norm_num [literal_eq]
    linarith
  rw [max_eq_right outside]
  exact min_eq_left zero_le_one

theorem overlap_of_beside {low length : α} {place : Nat}
    (beside : edge place + 8 ≤ low ∨ low + length ≤ edge place) : overlap low length place = 0 := by
  rw [overlap, pixelSide_eq, least_eq, greatest_eq, greatest_eq, zero_literal]
  have apart : min (low + length) (edge place + 8) - max low (edge place) ≤ 0 := by
    rcases beside with before | behind
    · linarith [min_le_right (low + length) (edge place + 8), le_max_left low (edge place)]
    · linarith [min_le_left (low + length) (edge place + 8), le_max_right low (edge place)]
  rw [max_eq_right apart, zero_div]

theorem below_of_above {top : α} {place : Nat} (above : edge place + 8 ≤ top) :
    below top place = 0 := by
  rw [below, pixelSide_eq, clamp_unit_eq]
  have outside : (edge place + 8 - top) / 8 ≤ 0 := by linarith
  rw [max_eq_right outside]
  exact min_eq_left zero_le_one

variable [ExactRoot α]

/-- Two points are at least as far from each other as their coordinates are. -/
theorem abs_sub_le_distance (x y toX toY : α) :
    |x - toX| ≤ distance x y toX toY ∧ |y - toY| ≤ distance x y toX toY := by
  have squares : 0 ≤ Scalar.square (x - toX) + Scalar.square (y - toY) :=
    add_nonneg (mul_self_nonneg _) (mul_self_nonneg _)
  obtain ⟨nonneg, root⟩ := ExactRoot.sqrt_exact _ squares
  constructor
  · refine abs_le_of_sq_le_sq ?_ nonneg
    rw [sq, sq, distance, root]
    exact le_add_of_nonneg_right (mul_self_nonneg _)
  · refine abs_le_of_sq_le_sq ?_ nonneg
    rw [sq, sq, distance, root]
    exact le_add_of_nonneg_left (mul_self_nonneg _)

omit [ExactRoot α] in
/-- The distance from a segment is that from one of its points. -/
theorem exists_segmentDistance_eq (x y fromX fromY toX toY : α) :
    ∃ nearX nearY, segmentDistance x y fromX fromY toX toY = distance x y nearX nearY ∧
      (min fromX toX ≤ nearX ∧ nearX ≤ max fromX toX) ∧
      min fromY toY ≤ nearY ∧ nearY ≤ max fromY toY := by
  unfold segmentDistance
  extract_lets dx dy length share
  have mem : 0 ≤ share ∧ share ≤ 1 := by
    dsimp only [share]
    split
    · exact clamp_unit_mem _
    · rw [zero_literal]
      exact ⟨le_refl 0, zero_le_one⟩
  refine ⟨_, _, rfl, ?_, ?_⟩
  · exact Motion.ease_mem mem.1 mem.2 ⟨min_le_left _ _, le_max_left _ _⟩
      ⟨min_le_right _ _, le_max_right _ _⟩
  · exact Motion.ease_mem mem.1 mem.2 ⟨min_le_left _ _, le_max_left _ _⟩
      ⟨min_le_right _ _, le_max_right _ _⟩

/-- Half a pixel outside of a disc, in one direction at least, it covers nothing. -/
theorem disc_of_far {x y radius : α} {i j : Nat}
    (far : radius + 4 ≤ |center i - x| ∨ radius + 4 ≤ |center j - y|) : disc x y radius i j = 0 := by
  obtain ⟨across, along⟩ := abs_sub_le_distance (center i) (center j) x y
  refine inside_of_far ?_
  rcases far with far | far <;> linarith

/-- Half a pixel outside of the box of a line, it covers nothing. -/
theorem line_of_far {fromX fromY toX toY width : α} {i j : Nat}
    (far : (center i + (reach width + 4) ≤ min fromX toX ∨
        max fromX toX + (reach width + 4) ≤ center i) ∨
      (center j + (reach width + 4) ≤ min fromY toY ∨
        max fromY toY + (reach width + 4) ≤ center j)) :
    line fromX fromY toX toY width i j = 0 := by
  obtain ⟨nearX, nearY, near, xMem, yMem⟩ :=
    exists_segmentDistance_eq (center i) (center j) fromX fromY toX toY
  obtain ⟨across, along⟩ := abs_sub_le_distance (center i) (center j) nearX nearY
  obtain ⟨left, right⟩ := abs_le.1 across
  obtain ⟨up, down⟩ := abs_le.1 along
  rw [line, near, inside_of_far, zero_mul]
  rcases far with (far | far) | (far | far) <;> linarith

end Coverage

namespace DrawCall

open Coverage

variable [FloorRing α] [ExactRounding α] {width height : Nat} {paint : Paint α}

/-- A call that is painted in a box `Clips` to it, if it has no weight beside the box. -/
theorem clips_of_box {call : DrawCall α} {left right top bottom : α}
    (small : width * height < 2 ^ 63) (columns_eq : call.columns width = touched left right width)
    (rows_eq : ∀ i, call.rows height i = touched top bottom height)
    (beside : ∀ i j : Nat, (edge i + 8 ≤ left ∨ right ≤ edge i) ∨ (edge j + 8 ≤ top ∨ bottom ≤ edge j) →
      call.weight i j ≤ 0.0) :
    call.Clips width height where
  columns_le := by
    rw [columns_eq]
    exact touched_stop_le ..
  rows_le i := by
    rw [rows_eq]
    exact touched_stop_le ..
  column inColumns inRows outside := by
    rw [columns_eq] at outside
    have wide := (Canvas.sides_lt small inColumns inRows).1
    exact beside _ _ (.inl (beside_of_not_touched wide inColumns outside))
  row inColumns inRows outside := by
    rw [rows_eq] at outside
    have high := (Canvas.sides_lt small inColumns inRows).2
    exact beside _ _ (.inr (beside_of_not_touched high inRows outside))

/-- Rectangles clip to their box. -/
theorem clips_rect {x y breadth tall : α} (small : width * height < 2 ^ 63) :
    (rect x y breadth tall paint).Clips width height := by
  refine clips_of_box small rfl (fun _ => rfl) fun i j beside => ?_
  rcases beside with beside | beside
  · rw [weight, overlap_of_beside beside, mul_zero, zero_mul, zero_literal]
  · rw [weight, overlap_of_beside beside, mul_zero, zero_literal]

/-- Profiles clip to the columns below their tops. -/
theorem clips_below {tops : Array α} {step : α} (small : width * height < 2 ^ 63) :
    (below tops step paint).Clips width height where
  columns_le := le_refl width
  rows_le _ := touched_stop_le _ _ _
  column inColumns _ outside := (outside ⟨Nat.zero_le _, inColumns⟩).elim
  row := by
    intro i j inColumns inRows outside
    have high := (Canvas.sides_lt small inColumns inRows).2
    have inView : (edge j : α) < edge height := by
      rw [edge_eq, edge_eq]
      have below : (j : α) < height := Nat.cast_lt.2 inRows
      linarith
    rcases beside_of_not_touched high inRows outside with above | behind
    · rw [weight, below_of_above above, mul_zero, zero_literal]
    · exact absurd inView (not_lt.2 behind)

variable [ExactRoot α]

/-- Discs of half a pixel at least clip to their box: a smaller one has weight beside it. -/
theorem clips_disc {x y radius : α} (small : width * height < 2 ^ 63) (large : 4 ≤ radius) :
    (disc x y radius paint).Clips width height := by
  have soft : isDot radius = false := by
    rw [isDot, pixelSide_eq, decide_eq_false_iff_not]
    norm_num [literal_eq]
    linarith
  have columns_eq : (disc x y radius paint).columns width =
      touched (x - radius) (x + radius) width := by
    simp only [columns, soft, Bool.false_eq_true, if_false]
  have rows_eq (i : Nat) : (disc x y radius paint).rows height i =
      touched (y - radius) (y + radius) height := by
    simp only [rows, soft, Bool.false_eq_true, if_false]
  have weight_eq (i j : Nat) :
      (disc x y radius paint).weight i j = paint.alpha * Coverage.disc x y radius i j := by
    simp only [weight, soft, Bool.false_eq_true, if_false]
  refine clips_of_box small columns_eq rows_eq fun i j beside => ?_
  rw [weight_eq, disc_of_far (beside.imp far_of_beside far_of_beside), mul_zero, zero_literal]

/-- Glows clip to their box, since they fade out within their radius. -/
theorem clips_glow {x y radius : α} (small : width * height < 2 ^ 63) (positive : 0 < radius) :
    (glow x y radius paint).Clips width height := by
  refine clips_of_box small rfl (fun _ => rfl) fun i j beside => ?_
  obtain ⟨across, along⟩ := abs_sub_le_distance (center i) (center j) x y
  have away : radius ≤ distance (center i) (center j) x y := by
    rcases beside.imp far_of_beside far_of_beside with far | far <;> linarith
  have past : ¬distance (center i) (center j) x y / radius <
      Scalar.toOfScientific.ofScientific 10 true 1 := by
    rw [one_literal, not_lt, one_le_div positive]
    exact away
  rw [weight, if_neg past]

/-- Lines clip to the box around their ends, widened by what they reach. -/
theorem clips_line {fromX fromY toX toY breadth : α} (small : width * height < 2 ^ 63) :
    (line fromX fromY toX toY breadth paint).Clips width height := by
  refine clips_of_box small rfl (fun _ => rfl) fun i j beside => ?_
  rw [least_eq, greatest_eq, least_eq, greatest_eq] at beside
  rw [weight, line_of_far, mul_zero, zero_literal]
  rw [center_eq, center_eq]
  rcases beside with (far | far) | (far | far)
  · exact .inl (.inl (by linarith))
  · exact .inl (.inr (by linarith))
  · exact .inr (.inl (by linarith))
  · exact .inr (.inr (by linarith))

/-- Every call that can change anything `Clips` to its box, but for the discs that are smaller than
a pixel. -/
theorem clips_of_isEffective {call : DrawCall α} (small : width * height < 2 ^ 63)
    (painted : call.paint? = some paint) (effective : call.isEffective = true)
    (large : ∀ x y radius, call = .disc x y radius paint → 4 ≤ radius) :
    call.Clips width height := by
  cases call with
  | clear => cases painted
  | disc =>
    cases painted
    exact clips_disc small (large _ _ _ rfl)
  | glow x y radius =>
    refine clips_glow small ?_
    simp only [isEffective, Bool.and_eq_true, Bool.not_eq_true', decide_eq_false_iff_not] at effective
    have positive := not_le.1 effective.2
    rwa [zero_literal] at positive
  | line => exact clips_line small
  | rect => exact clips_rect small
  | below => exact clips_below small

end DrawCall

/-! ## Whole rasters -/

namespace Canvas

/-- A call that can change anything leaves the picture of the `sweep` over the whole raster, in
which every pixel is tinted once: its box cuts off nothing. The discs that are smaller than a pixel
are left out, and a raster has fewer pixels than a signed word can count. -/
theorem draw_eq_sweep [FloorRing α] [ExactRounding α] [ExactRoot α] {canvas : Canvas}
    {cols rows : Nat} {call : DrawCall α} {paint : Paint α} (sized : canvas.Sized cols rows)
    (small : cols * (rows * 2) < 2 ^ 63) (painted : call.paint? = some paint)
    (effective : call.isEffective = true)
    (large : ∀ x y radius, call = .disc x y radius paint → 4 ≤ radius) :
    canvas.draw call = canvas.sweep call paint.color ∧
      ∀ i < cols, ∀ j < rows * 2,
        (canvas.draw call).pixel i j = tint (canvas.pixel i j) paint.color (call.weight i j) := by
  have clips : call.Clips canvas.width canvas.height := by
    rw [sized.width_eq, sized.height_eq]
    exact DrawCall.clips_of_isEffective small painted effective large
  rw [draw_eq_ite painted, if_pos effective, paint_eq_sweep clips]
  exact ⟨rfl, fun i column j row => pixel_sweep sized call paint.color column row⟩

/-- A disc about the corner of a small raster, most of it out of view. -/
theorem draw_eq_sweep_corner :
    ∃ (paint : Paint ℝ) (call : DrawCall ℝ),
      call = .disc 0 0 12 paint ∧ call.isEffective = true ∧
      (blank 3 2 .trueColor 1).draw call = (blank 3 2 .trueColor 1).sweep call paint.color ∧
      ∀ i < 3, ∀ j < 4, ((blank 3 2 .trueColor 1).draw call).pixel i j =
        tint ((blank 3 2 .trueColor 1).pixel i j) paint.color (call.weight i j) := by
  have effective : (DrawCall.disc (0 : ℝ) 0 12 ⟨⟨200, 40, 0⟩, 1⟩).isEffective = true := by
    norm_num [DrawCall.isEffective, Paint.isVisible, literal_eq]
  refine ⟨⟨⟨200, 40, 0⟩, 1⟩, _, rfl, effective, ?_⟩
  refine draw_eq_sweep (sized_blank 3 2 .trueColor 1) (by norm_num) rfl effective ?_
  intro x y radius same
  rw [← (DrawCall.disc.inj same).2.2.1]
  norm_num

end Canvas

end Exact

end Ambience
