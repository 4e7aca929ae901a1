import Mathlib.Data.List.Nodup
import Ambience.Proofs.Canvas.Sizes

/-!
# Visits

A call is painted place by place. The places that it visits are all different, and paint on one of
them leaves the pixels of the others alone, so that no pixel is tinted twice: a visited pixel is
tinted with the weight that the call has there, and the other pixels keep their colours.
-/

namespace Ambience

variable {α : Type} [Scalar α]

/-! ## Places of a raster -/

namespace Canvas

variable {canvas after : Canvas} {cols rows : Nat}

/-- A place of the raster is kept at its `offset`, and nowhere else. -/
theorem offset?_eq_some_iff {x y k : Nat} :
    canvas.offset? x y = some k ↔ (x < canvas.width ∧ y < canvas.height) ∧ canvas.offset x y = k := by
  unfold offset?
  split <;> simp [*]

theorem offset?_of_lt {x y : Nat} (column : x < canvas.width) (row : y < canvas.height) :
    canvas.offset? x y = some (canvas.offset x y) :=
  offset?_eq_some_iff.2 ⟨⟨column, row⟩, rfl⟩

/-- Pixels of different places are kept apart. -/
theorem eq_of_offset? {x y i j k : Nat} (found : canvas.offset? x y = some k)
    (found' : canvas.offset? i j = some k) : x = i ∧ y = j := by
  obtain ⟨⟨column, -⟩, rfl⟩ := offset?_eq_some_iff.1 found
  obtain ⟨⟨column', -⟩, same⟩ := offset?_eq_some_iff.1 found'
  rw [offset, offset, Nat.mul_comm j, Nat.mul_comm y] at same
  have line := congrArg (· / canvas.width) same
  have place := congrArg (· % canvas.width) same
  simp only [Nat.mul_add_div (Nat.zero_lt_of_lt column), Nat.mul_add_mod, Nat.div_eq_of_lt column,
    Nat.div_eq_of_lt column', Nat.mod_eq_of_lt column, Nat.mod_eq_of_lt column'] at line place
  omega

theorem SameRaster.offset?_eq (same : SameRaster canvas after) (x y : Nat) :
    after.offset? x y = canvas.offset? x y := by
  unfold offset? offset width height
  rw [same.cols_eq, same.rows_eq]

/-- The sides of a raster with a pixel are as small as its area. -/
theorem sides_lt {width height limit i j : Nat} (small : width * height < limit) (column : i < width)
    (row : j < height) : width < limit ∧ height < limit :=
  ⟨Nat.lt_of_le_of_lt (Nat.le_mul_of_pos_right width (by omega)) small,
    Nat.lt_of_le_of_lt (Nat.le_mul_of_pos_left height (by omega)) small⟩

/-- Every pixel of a raster has its place among the pixels that are kept. -/
theorem Sized.offset_lt {x y : Nat} (sized : canvas.Sized cols rows) (column : x < cols)
    (row : y < rows * 2) : canvas.offset x y < canvas.pixels.size := by
  rw [offset, sized.width_eq, sized.size_eq]
  calc y * cols + x < y * cols + cols := Nat.add_lt_add_left column _
    _ = (y + 1) * cols := (Nat.succ_mul y cols).symm
    _ ≤ rows * 2 * cols := Nat.mul_le_mul_right cols row
    _ = cols * (rows * 2) := Nat.mul_comm _ _

theorem Sized.offset?_eq {x y : Nat} (sized : canvas.Sized cols rows) (column : x < cols)
    (row : y < rows * 2) : canvas.offset? x y = some (canvas.offset x y) := by
  apply offset?_of_lt
  · rwa [sized.width_eq]
  · rwa [sized.height_eq]

/-- Whatever place is found is one among the pixels that are kept. -/
theorem Sized.lt_of_offset? {x y k : Nat} (sized : canvas.Sized cols rows)
    (found : canvas.offset? x y = some k) : k < canvas.pixels.size := by
  obtain ⟨⟨column, row⟩, rfl⟩ := offset?_eq_some_iff.1 found
  rw [sized.width_eq] at column
  rw [sized.height_eq] at row
  exact sized.offset_lt column row

end Canvas

/-! ## Paint on one place after another -/

namespace Canvas

variable {canvas : Canvas} {cols rows : Nat}

/-- The canvas after paint on some places in turn, each with a weight of its own. -/
def visit (canvas : Canvas) (color : Rgb) (weight : Nat → Nat → α) (places : List (Nat × Nat)) :
    Canvas :=
  places.foldl (fun painted place => painted.blend color (weight place.1 place.2) place.1 place.2)
    canvas

theorem sameRaster_visit (canvas : Canvas) (color : Rgb) (weight : Nat → Nat → α)
    (places : List (Nat × Nat)) : SameRaster canvas (canvas.visit color weight places) :=
  SameRaster.foldl (fun painted _ => sameRaster_blend painted color _ _ _) canvas places

/-- Paint changes pixels and nothing else. -/
theorem visit_eq (canvas : Canvas) (color : Rgb) (weight : Nat → Nat → α)
    (places : List (Nat × Nat)) :
    canvas.visit color weight places =
      { canvas with pixels := (canvas.visit color weight places).pixels } := by
  induction places generalizing canvas with
  | nil => rfl
  | cons place later ih =>
    have first : canvas.blend color (weight place.1 place.2) place.1 place.2 =
        { canvas with
          pixels := (canvas.blend color (weight place.1 place.2) place.1 place.2).pixels } := by
      unfold blend
      split <;> rfl
    rw [visit, List.foldl_cons]
    refine (ih _).trans ?_
    rw [first]
    rfl

/-- Paint on one place tints the pixel that is kept for it, if there is one, and no other. -/
theorem getElem?_blend (canvas : Canvas) (color : Rgb) (weight : α) (x y k : Nat) :
    (canvas.blend color weight x y).pixels[k]? =
      if canvas.offset? x y = some k then canvas.pixels[k]?.map fun pixel => tint pixel color weight
      else canvas.pixels[k]? := by
  unfold blend
  split
  · rename_i missing
    simp [missing]
  · rename_i found
    rw [found, Array.getElem?_modify]
    simp only [Option.some.injEq]

/-- Paint without a weight leaves a canvas as it is. -/
theorem blend_of_nonpos {weight : α} (nothing : weight ≤ 0.0) (canvas : Canvas)
    (color : Rgb) (x y : Nat) : canvas.blend color weight x y = canvas := by
  have idle : (fun pixel => tint pixel color weight) = id := by
    funext pixel
    exact if_pos nothing
  unfold blend
  split
  · rfl
  · rename_i k _
    have same : canvas.pixels.modify k id = canvas.pixels := by
      refine Array.ext_getElem? fun place => ?_
      rw [Array.getElem?_modify, Option.map_id_fun, id, ite_self]
    rw [idle, same]

/-- A pixel that no visited place has keeps its colour. -/
theorem getElem?_visit_of_forall_ne {places : List (Nat × Nat)} {k : Nat} (color : Rgb)
    (weight : Nat → Nat → α)
    (elsewhere : ∀ place ∈ places, canvas.offset? place.1 place.2 ≠ some k) :
    (canvas.visit color weight places).pixels[k]? = canvas.pixels[k]? := by
  induction places generalizing canvas with
  | nil => rfl
  | cons place later ih =>
    have same := sameRaster_blend canvas color (weight place.1 place.2) place.1 place.2
    have rest := @ih (canvas.blend color (weight place.1 place.2) place.1 place.2) <| by
      intro other member
      rw [same.offset?_eq]
      exact elsewhere other (List.mem_cons_of_mem _ member)
    rw [visit, List.foldl_cons]
    refine rest.trans ?_
    rw [getElem?_blend, if_neg (elsewhere place List.mem_cons_self)]

/-- If no place is visited twice, a pixel is tinted once, with the weight of its place. -/
theorem getElem?_visit {places : List (Nat × Nat)} {i j k : Nat} (distinct : places.Nodup)
    (found : canvas.offset? i j = some k) (color : Rgb) (weight : Nat → Nat → α) :
    (canvas.visit color weight places).pixels[k]? =
      if (i, j) ∈ places then canvas.pixels[k]?.map fun pixel => tint pixel color (weight i j)
      else canvas.pixels[k]? := by
  -- After the visit of its own place the pixel is left alone, since that place does not come again.
  induction places generalizing canvas with
  | nil => simp [visit]
  | cons place later ih =>
    obtain ⟨fresh, distinct⟩ := List.nodup_cons.1 distinct
    have same := sameRaster_blend canvas color (weight place.1 place.2) place.1 place.2
    have rest := @ih (canvas.blend color (weight place.1 place.2) place.1 place.2) distinct
      ((same.offset?_eq i j).trans found)
    rw [visit, List.foldl_cons]
    refine rest.trans ?_
    rw [getElem?_blend]
    by_cases here : place = (i, j)
    · subst here
      simp [fresh, found]
    · have apart : canvas.offset? place.1 place.2 ≠ some k := by
        intro at_k
        obtain ⟨column, row⟩ := eq_of_offset? at_k found
        exact here (Prod.ext column row)
      simp [apart, Ne.symm here]

/-- The same for the pixels of a `Sized` canvas, by their column and row. -/
theorem Sized.pixel_visit {places : List (Nat × Nat)} {i j : Nat} (sized : canvas.Sized cols rows)
    (distinct : places.Nodup) (column : i < cols) (row : j < rows * 2) (color : Rgb)
    (weight : Nat → Nat → α) :
    (canvas.visit color weight places).pixel i j =
      if (i, j) ∈ places then tint (canvas.pixel i j) color (weight i j) else canvas.pixel i j := by
  have same := sameRaster_visit canvas color weight places
  have place : (canvas.visit color weight places).offset i j = canvas.offset i j := by
    rw [offset, offset, width, width, same.cols_eq]
  have visited := getElem?_visit distinct (sized.offset?_eq column row) color weight
  have kept := Array.getElem?_eq_getElem (sized.offset_lt column row)
  rw [pixel, pixel, place, Array.getD_eq_getD_getElem?, Array.getD_eq_getD_getElem?, visited, kept]
  split <;> rfl

end Canvas

/-! ## The places of a call -/

/-- A place of a span. -/
def Span.Holds (span : Span) (place : Nat) : Prop := span.first ≤ place ∧ place < span.stop

theorem Span.mem_places {span : Span} {place : Nat} : place ∈ span.places ↔ span.Holds place := by
  rw [places, List.mem_range'_1, Holds]
  omega

/-- The places that painting a call visits on a raster, in order. -/
def DrawCall.places (call : DrawCall α) (width height : Nat) : List (Nat × Nat) :=
  (call.columns width).places.flatMap fun i => (call.rows height i).places.map fun j => (i, j)

/-- A call visits the rows of each of its columns (`Span.Holds`). -/
theorem DrawCall.mem_places {call : DrawCall α} {width height i j : Nat} :
    (i, j) ∈ call.places width height ↔
      (call.columns width).Holds i ∧ (call.rows height i).Holds j := by
  simp only [places, List.mem_flatMap, List.mem_map, Span.mem_places, Prod.mk.injEq]
  constructor
  · rintro ⟨column, inColumns, row, inRows, rfl, rfl⟩
    exact ⟨inColumns, inRows⟩
  · rintro ⟨inColumns, inRows⟩
    exact ⟨i, inColumns, j, inRows, rfl, rfl⟩

/-- No place is visited twice. -/
theorem DrawCall.nodup_places (call : DrawCall α) (width height : Nat) :
    (call.places width height).Nodup := by
  apply List.nodup_flatMap.2
  constructor
  · intro i _
    have distinct : (call.rows height i).places.Nodup := List.nodup_range'
    exact distinct.map fun j j' same => (Prod.mk.inj same).2
  · have distinct : (call.columns width).places.Nodup := List.nodup_range'
    apply distinct.imp
    intro i i' ne place inFirst inSecond
    obtain ⟨_, -, rfl⟩ := List.mem_map.1 inFirst
    obtain ⟨_, -, same⟩ := List.mem_map.1 inSecond
    exact ne (Prod.mk.inj same).1.symm

/-- The weight that painting a call lays on a place: that of the call where it is visited, and none
elsewhere. -/
def DrawCall.laid (call : DrawCall α) (width height i j : Nat) : α :=
  if (i, j) ∈ call.places width height then call.weight i j else 0.0

/-- Painting a call is a `visit` of its `places`. -/
theorem Canvas.paint_eq_visit (canvas : Canvas) (call : DrawCall α) (color : Rgb) :
    canvas.paint call color =
      canvas.visit color call.weight (call.places canvas.width canvas.height) := by
  simp only [visit, DrawCall.places, List.foldl_flatMap, List.foldl_map]
  rfl

/-- A call with paint is painted if it can change anything. -/
theorem Canvas.draw_eq_ite {call : DrawCall α} {paint : Paint α} (painted : call.paint? = some paint)
    (canvas : Canvas) :
    canvas.draw call = if call.isEffective then canvas.paint call paint.color else canvas := by
  unfold draw
  split
  · cases painted
  · rw [painted]

end Ambience
