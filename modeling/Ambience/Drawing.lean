import Ambience.Color.Palette
import Ambience.Geometry
import Ambience.Opacity

/-!
# Drawing

Bodies are drawn by giving a list of calls on a surface, in logical pixels. What a pen knows decides
the colours and opacities of the calls; only the surface decides what becomes of them.
-/

namespace Ambience

variable {α : Type} [Scalar α]

/-! ## Paint -/

/-- A colour and how much of it covers what is below. -/
structure Paint (α : Type) where
  color : Rgb
  alpha : α
  deriving Repr

namespace Paint

/-- A paint whose coverage is brought into the unit interval. -/
def of (color : Rgb) (alpha : α) : Paint α := ⟨color, Scalar.clamp alpha 0.0 1.0⟩

/-- Whether the paint covers enough to be seen. -/
def isVisible (paint : Paint α) : Bool := decide (0.001 < paint.alpha)

end Paint

/-! ## Calls -/

/-- One call on a drawing surface. -/
inductive DrawCall (α : Type) where
  /-- Cover everything, so that nothing of an earlier frame is left. -/
  | clear (color : Rgb)
  | disc (x y radius : α) (paint : Paint α)
  /-- A disc that fades from its paint at the centre to nothing at its edge. -/
  | glow (x y radius : α) (paint : Paint α)
  | line (fromX fromY toX toY width : α) (paint : Paint α)
  | rect (x y width height : α) (paint : Paint α)
  /-- Everything below a profile sampled every `step` from the left edge. -/
  | below (tops : Array α) (step : α) (paint : Paint α)
  deriving Repr

namespace DrawCall

/-- The paint of a call that has one. -/
def paint? : DrawCall α → Option (Paint α)
  | clear _ => none
  | disc _ _ _ paint => some paint
  | glow _ _ _ paint => some paint
  | line _ _ _ _ _ paint => some paint
  | rect _ _ _ _ paint => some paint
  | below _ _ paint => some paint

/-- How many chords approximate a circle. -/
def ringSegments (radius : α) : Nat := min (max (Scalar.count (Scalar.ceil (radius * 0.8))) 12) 96

/-- The end of the `i`-th chord of a circle, counted from the point on the right. -/
def ringPoint (x y radius : α) (segments : Nat) : Nat → α × α
  | 0 => (x + radius, y)
  | i + 1 =>
    let angle := Scalar.ofNat (i + 1) / Scalar.ofNat segments * Scalar.tau
    (x + Scalar.cos angle * radius, y + Scalar.sin angle * radius)

/-- The outline of a circle, as a closed chain of chords. -/
def ring (x y radius width : α) (paint : Paint α) : List (DrawCall α) :=
  let segments := ringSegments radius
  (List.range segments).map fun i =>
    let start := ringPoint x y radius segments i
    let stop := ringPoint x y radius segments (i + 1)
    line start.1 start.2 stop.1 stop.2 width paint

end DrawCall

/-! ## Pens -/

/-- What a body is drawn with. -/
structure Pen (α : Type) where
  palette : Palette α
  /-- The setting of the opacity knob. -/
  opacity : α
  /-- Simulated seconds since the scene was built. -/
  time : α
  wind : α
  /-- The extent of the surface. -/
  bounds : Bounds α
  geometry : Geometry α

namespace Pen

/-- Paint of a colour, for a body of opacity `base` at a momentary fade. -/
def paint (pen : Pen α) (color : Rgb) (base fade : α) : Paint α :=
  Paint.of color (Opacity.effective base pen.opacity fade)

/-- Paint of a numbered palette colour. -/
def shade (pen : Pen α) (index : Nat) (base fade : α) : Paint α :=
  pen.paint (pen.palette.color index) base fade

end Pen

end Ambience
