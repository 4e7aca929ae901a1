import Ambience.Canvas.Basic
import Ambience.Drawing

/-!
# Coverage

How much of a pixel a drawing call covers. The weight of a call at a pixel is the alpha of its
paint times the covered share; it is defined for every pixel and is zero away from the shape. A
call also has a box outside of which its weight is zero.
-/

namespace Ambience

/-- The places from `first` up to and without `stop`. -/
structure Span where
  first : Nat
  stop : Nat
  deriving DecidableEq, Repr

namespace Coverage

variable {α : Type} [Scalar α]

/-! ## Distances -/

/-- The distance of two points. -/
def distance (x y toX toY : α) : α :=
  Scalar.sqrt (Scalar.square (x - toX) + Scalar.square (y - toY))

/-- The distance of a point from a segment. -/
def segmentDistance (x y fromX fromY toX toY : α) : α :=
  let dx := toX - fromX
  let dy := toY - fromY
  let length := dx * dx + dy * dy
  let share :=
    if 0.0 < length then
      Scalar.clamp (((x - fromX) * dx + (y - fromY) * dy) / length) 0.0 1.0
    else 0.0
  distance x y (fromX + dx * share) (fromY + dy * share)

/-- The logical coordinate of the middle of a pixel. -/
def center (place : Nat) : α := (Scalar.ofNat place + 0.5) * Canvas.pixelSide

/-- The logical coordinate at which a pixel begins. -/
def edge (place : Nat) : α := Scalar.ofNat place * Canvas.pixelSide

/-! ## Shares -/

/-- The share of a pixel at `depth` inside a soft edge, which is one pixel wide. -/
def inside (depth : α) : α := Scalar.clamp (depth / Canvas.pixelSide + 0.5) 0.0 1.0

/-- The share of a pixel that a disc smaller than the pixel covers, by area. -/
def dot (radius : α) : α :=
  Scalar.least (Scalar.pi * radius * radius / (Canvas.pixelSide * Canvas.pixelSide)) 1.0

/-- The share of a pixel inside a disc. -/
def disc (x y radius : α) (i j : Nat) : α :=
  inside (radius - distance (center i) (center j) x y)

/-- Half the width of a line, which is at least a pixel wide. -/
def reach (width : α) : α := Scalar.greatest (width * 0.5) (Canvas.pixelSide * 0.5)

/-- The share of a pixel on a line; a line thinner than a pixel fades instead. -/
def line (fromX fromY toX toY width : α) (i j : Nat) : α :=
  inside (reach width - segmentDistance (center i) (center j) fromX fromY toX toY) *
    Scalar.least (width / Canvas.pixelSide) 1.0

/-- The share of the pixels at a place that an interval covers. -/
def overlap (low length : α) (place : Nat) : α :=
  let start := edge place
  Scalar.greatest
    (Scalar.least (low + length) (start + Canvas.pixelSide) - Scalar.greatest low start) 0.0 /
    Canvas.pixelSide

/-- The height of a profile sampled every `step` from the left edge, in the middle of a column. -/
def crest (tops : Array α) (step : α) (i : Nat) : α :=
  let place := center i / step
  let before := min (Scalar.count (Scalar.floor place)) (tops.size - 1)
  let after := min (before + 1) (tops.size - 1)
  let low := tops.getD before 0.0
  let high := tops.getD after 0.0
  low + (high - low) * Scalar.clamp (place - Scalar.ofNat before) 0.0 1.0

/-- The share of a pixel below the height `top`. -/
def below (top : α) (j : Nat) : α :=
  Scalar.clamp ((edge j + Canvas.pixelSide - top) / Canvas.pixelSide) 0.0 1.0

/-! ## Boxes -/

/-- The pixels of the first `limit` that an interval of logical coordinates touches. -/
def touched (low high : α) (limit : Nat) : Span where
  first := (Scalar.signedWord
    (Scalar.greatest (Scalar.floor (low / Canvas.pixelSide)) 0.0)).toNat
  stop := (min (Scalar.signedWord (Scalar.ceil (high / Canvas.pixelSide))) limit).toNat

/-- The pixel that holds a logical coordinate, as a span; no pixel holds a coordinate left of the
first. -/
def holding (coordinate : α) : Span :=
  let place := Scalar.signedWord (Scalar.floor (coordinate / Canvas.pixelSide))
  if place < 0 then ⟨0, 0⟩ else ⟨place.toNat, place.toNat + 1⟩

end Coverage

namespace DrawCall

variable {α : Type} [Scalar α]

open Coverage

/-- Whether a disc is too small to have a soft edge. -/
def isDot (radius : α) : Bool := decide (radius < Canvas.pixelSide * 0.5)

/-- Whether a call can change anything: its paint is visible and its sizes are not zero or
less. -/
def isEffective : DrawCall α → Bool
  | clear _ => true
  | disc _ _ radius paint => paint.isVisible && !decide (radius ≤ 0.0)
  | glow _ _ radius paint => paint.isVisible && !decide (radius ≤ 0.0)
  | line _ _ _ _ width paint => paint.isVisible && !decide (width ≤ 0.0)
  | rect _ _ width height paint =>
    paint.isVisible && !decide (width ≤ 0.0) && !decide (height ≤ 0.0)
  | below tops step paint => paint.isVisible && !tops.isEmpty && !decide (step ≤ 0.0)

/-- The weight of a call's paint at a pixel. A dot has the same weight everywhere: it is drawn at
one pixel alone. -/
def weight : DrawCall α → Nat → Nat → α
  | clear _, _, _ => 0.0
  | disc x y radius paint, i, j =>
    paint.alpha * (if isDot radius then dot radius else Coverage.disc x y radius i j)
  | glow x y radius paint, i, j =>
    let away := distance (center i) (center j) x y / radius
    if away < 1.0 then paint.alpha * (1.0 - away) * (1.0 - away) else 0.0
  | line fromX fromY toX toY width paint, i, j =>
    paint.alpha * Coverage.line fromX fromY toX toY width i j
  | rect x y width height paint, i, j => paint.alpha * overlap x width i * overlap y height j
  | below tops step paint, i, j => paint.alpha * Coverage.below (crest tops step i) j

/-- The columns of a raster of some width that a call can touch. -/
def columns (call : DrawCall α) (width : Nat) : Span :=
  match call with
  | clear _ => ⟨0, 0⟩
  | disc x _ radius _ =>
    if isDot radius then holding x else touched (x - radius) (x + radius) width
  | glow x _ radius _ => touched (x - radius) (x + radius) width
  | line fromX _ toX _ breadth _ =>
    touched (Scalar.least fromX toX - reach breadth) (Scalar.greatest fromX toX + reach breadth)
      width
  | rect x _ breadth _ _ => touched x (x + breadth) width
  | below _ _ _ => ⟨0, width⟩

/-- The pixels of a column of some height that a call can touch. -/
def rows (call : DrawCall α) (height : Nat) (i : Nat) : Span :=
  match call with
  | clear _ => ⟨0, 0⟩
  | disc _ y radius _ =>
    if isDot radius then holding y else touched (y - radius) (y + radius) height
  | glow _ y radius _ => touched (y - radius) (y + radius) height
  | line _ fromY _ toY breadth _ =>
    touched (Scalar.least fromY toY - reach breadth) (Scalar.greatest fromY toY + reach breadth)
      height
  | rect _ y _ tall _ => touched y (y + tall) height
  | below tops step _ => touched (crest tops step i) (edge height) height

end DrawCall

end Ambience
