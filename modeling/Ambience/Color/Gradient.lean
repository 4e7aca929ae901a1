import Ambience.Color

/-!
# Colour gradients

A gradient is a list of colours at positions of the unit interval, in order of position, and is
linear in between.
-/

namespace Ambience

/-- A colour at a position of a gradient. -/
structure ColorStop (α : Type) where
  position : α
  color : Rgb
  deriving Repr

/-- The stops of a gradient, in order of position. -/
abbrev Gradient (α : Type) := List (ColorStop α)

namespace Gradient

variable {α : Type} [Scalar α]

/-- The colour at `t` on the first segment that ends at or after it, each segment running from one
stop to the next; past all of them, the colour of the last stop. -/
def sampleFrom (stop : ColorStop α) (t : α) : List (ColorStop α) → Rgb
  | [] => stop.color
  | next :: later =>
    if t ≤ next.position then
      let width := Scalar.greatest (next.position - stop.position) Scalar.epsilon
      stop.color.mix next.color ((t - stop.position) / width)
    else sampleFrom next t later

/-- The colour of a gradient at `t`, which is first brought into the unit interval. A gradient
without stops is white. -/
def sample (gradient : Gradient α) (t : α) : Rgb :=
  match gradient with
  | [] => ⟨255, 255, 255⟩
  | first :: later =>
    let t := Scalar.clamp t 0.0 1.0
    if t ≤ first.position then first.color else sampleFrom first t later

end Gradient

end Ambience
