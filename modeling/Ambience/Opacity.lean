import Ambience.Scalar

/-!
# The opacity rule

One knob from 0 to 100 scales the opacity of everything that is drawn; at 50 it changes nothing.
-/

namespace Ambience.Opacity

variable {α : Type} [Scalar α]

/-- The setting that leaves every body as designed. -/
def neutral : α := 50.0

/-- A setting brought into the range of the knob; what is not a number is neutral. -/
def restrict (setting : α) : α :=
  if Scalar.isNumber setting then Scalar.clamp setting 0.0 100.0 else neutral

/-- The opacity of a body of opacity `base` under a setting and a momentary fade, between 0 and 1.
A product that is not finite draws nothing. -/
def effective (base setting fade : α) : α :=
  let alpha := Scalar.greatest base 0.0 * (restrict setting / neutral) * Scalar.clamp fade 0.0 1.0
  if Scalar.isFinite alpha then Scalar.clamp alpha 0.0 1.0 else 0.0

end Ambience.Opacity
