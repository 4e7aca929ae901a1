import Ambience.Canvas.Coverage
import Ambience.Surface

/-!
# Drawing on a canvas

A call blends its paint into every pixel of its box, each exactly once, with the weight of the call
at that pixel.
-/

namespace Ambience

/-- The places of a span, in order. -/
def Span.places (span : Span) : List Nat := List.range' span.first (span.stop - span.first)

namespace Canvas

variable {α : Type} [Scalar α]

/-- A pixel after paint of a weight. Weights of zero and less leave it; a weight that is not a
number counts as one. -/
def tint (pixel color : Rgb) (weight : α) : Rgb :=
  if weight ≤ 0.0 then pixel else pixel.mix color (Scalar.least weight 1.0)

/-- Where the pixel of a column and a line is kept, if the raster has it. -/
def offset? (canvas : Canvas) (x y : Nat) : Option Nat :=
  if x < canvas.width ∧ y < canvas.height then some (canvas.offset x y) else none

/-- The canvas after paint of a weight on one pixel. -/
def blend (canvas : Canvas) (color : Rgb) (weight : α) (x y : Nat) : Canvas :=
  match canvas.offset? x y with
  | none => canvas
  | some i => { canvas with pixels := canvas.pixels.modify i fun pixel => tint pixel color weight }

/-- The canvas after a call has been painted in its box with a colour. -/
def paint (canvas : Canvas) (call : DrawCall α) (color : Rgb) : Canvas :=
  let height := canvas.height
  (call.columns canvas.width).places.foldl
    (fun canvas x => (call.rows height x).places.foldl
      (fun canvas y => canvas.blend color (call.weight x y) x y) canvas)
    canvas

/-- The canvas after a call. -/
def draw (canvas : Canvas) (call : DrawCall α) : Canvas :=
  match call with
  | .clear color => canvas.clear color
  | _ =>
    match call.paint? with
    | some paint => if call.isEffective then canvas.paint call paint.color else canvas
    | none => canvas

instance : Surface Canvas α where
  size := size
  draw := draw

end Canvas

end Ambience
