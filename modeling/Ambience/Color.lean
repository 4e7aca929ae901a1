import Ambience.Scalar

/-!
# Colours

Opaque 24-bit colours and their linear blend.
-/

namespace Ambience

/-- An opaque colour of three byte channels. -/
structure Rgb where
  red : UInt8
  green : UInt8
  blue : UInt8
  deriving DecidableEq, Inhabited, Repr

namespace Rgb

variable {α : Type} [Scalar α]

/-- The channel value `t` of the way from `a` to `b`, a half going away from zero. -/
def mixChannel (a b : UInt8) (t : α) : UInt8 :=
  let low : α := Scalar.ofNat a.toNat
  let high : α := Scalar.ofNat b.toNat
  Scalar.byte (Scalar.round (low + (high - low) * t))

/-- The colour `t` of the way from one colour to another; shares outside the unit interval count
as its nearer end. -/
def mix (a b : Rgb) (t : α) : Rgb :=
  let t := Scalar.clamp t 0.0 1.0
  ⟨mixChannel a.red b.red t, mixChannel a.green b.green t, mixChannel a.blue b.blue t⟩

end Rgb

end Ambience
