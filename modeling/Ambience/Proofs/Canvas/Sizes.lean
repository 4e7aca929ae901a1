import Ambience.Canvas.Raster

/-!
# The size of a raster

Drawing changes the colours of a canvas and nothing else of it: the raster keeps its cells, one pixel
for each column and two for each row, and is shown in the same way.
-/

namespace Ambience.Canvas

variable {canvas middle after : Canvas} {cols rows : Nat}

/-! ## The same raster -/

/-- The same raster in other colours: as many cells and pixels, shown in the same way. -/
structure SameRaster (canvas after : Canvas) : Prop where
  cols_eq : after.cols = canvas.cols
  rows_eq : after.rows = canvas.rows
  size_eq : after.pixels.size = canvas.pixels.size
  mode_eq : after.mode = canvas.mode
  quantum_eq : after.quantum = canvas.quantum

namespace SameRaster

theorem refl (canvas : Canvas) : SameRaster canvas canvas := ⟨rfl, rfl, rfl, rfl, rfl⟩

theorem trans (first : SameRaster canvas middle) (later : SameRaster middle after) :
    SameRaster canvas after where
  cols_eq := later.cols_eq.trans first.cols_eq
  rows_eq := later.rows_eq.trans first.rows_eq
  size_eq := later.size_eq.trans first.size_eq
  mode_eq := later.mode_eq.trans first.mode_eq
  quantum_eq := later.quantum_eq.trans first.quantum_eq

/-- What each step of a fold leaves the same, the whole fold does. -/
theorem foldl {β : Type} {step : Canvas → β → Canvas}
    (keeps : ∀ canvas item, SameRaster canvas (step canvas item)) (canvas : Canvas)
    (items : List β) : SameRaster canvas (items.foldl step canvas) :=
  List.foldlRecOn (motive := SameRaster canvas) items step (refl canvas)
    fun painted same item _ => same.trans (keeps painted item)

end SameRaster

/-- A canvas that is covered with a colour keeps its raster, and nothing of its colours is left. -/
theorem sameRaster_clear (canvas : Canvas) (color : Rgb) : SameRaster canvas (canvas.clear color) :=
  ⟨rfl, rfl, Array.size_replicate, rfl, rfl⟩

section Drawing

variable {α : Type} [Scalar α]

theorem sameRaster_blend (canvas : Canvas) (color : Rgb) (weight : α) (x y : Nat) :
    SameRaster canvas (canvas.blend color weight x y) := by
  unfold blend
  split
  · exact .refl canvas
  · exact ⟨rfl, rfl, Array.size_modify, rfl, rfl⟩

theorem sameRaster_paint (canvas : Canvas) (call : DrawCall α) (color : Rgb) :
    SameRaster canvas (canvas.paint call color) := by
  refine SameRaster.foldl (fun column x => ?_) canvas _
  exact SameRaster.foldl (fun painted y => sameRaster_blend painted color _ x y) column _

theorem sameRaster_draw (canvas : Canvas) (call : DrawCall α) :
    SameRaster canvas (canvas.draw call) := by
  unfold draw
  split
  · exact sameRaster_clear canvas _
  split
  · split
    · exact sameRaster_paint canvas call _
    · exact .refl canvas
  · exact .refl canvas

/-- Any list of calls leaves a canvas of the `SameRaster`. -/
theorem sameRaster_drawAll (canvas : Canvas) (calls : List (DrawCall α)) :
    SameRaster canvas (Surface.drawAll canvas calls) :=
  SameRaster.foldl sameRaster_draw canvas calls

end Drawing

/-! ## Sizes -/

/-- A canvas of some cells, with a pixel for each place of its raster. -/
structure Sized (canvas : Canvas) (cols rows : Nat) : Prop where
  cols_eq : canvas.cols = cols
  rows_eq : canvas.rows = rows
  size_eq : canvas.pixels.size = cols * (rows * 2)

theorem Sized.width_eq (sized : canvas.Sized cols rows) : canvas.width = cols := sized.cols_eq

theorem Sized.height_eq (sized : canvas.Sized cols rows) : canvas.height = rows * 2 := by
  rw [height, sized.rows_eq]

theorem sized_blank (cols rows : Nat) (mode : ColorMode) (quantum : UInt8) :
    (blank cols rows mode quantum).Sized cols rows :=
  ⟨rfl, rfl, Array.size_replicate⟩

/-- A resize covers the canvas anew, whatever its size was. -/
theorem sized_resize (canvas : Canvas) (cols rows : Nat) : (canvas.resize cols rows).Sized cols rows :=
  ⟨rfl, rfl, Array.size_replicate⟩

/-- A canvas of the `SameRaster` is `Sized` for the same cells. -/
theorem Sized.of_sameRaster (sized : canvas.Sized cols rows) (same : SameRaster canvas after) :
    after.Sized cols rows :=
  ⟨same.cols_eq.trans sized.cols_eq, same.rows_eq.trans sized.rows_eq,
    same.size_eq.trans sized.size_eq⟩

end Ambience.Canvas
