import Ambience.Opacity

/-!
# Controls

What a viewer can change while an animation runs. The opacity knob of controls that are built here
is always within its range.
-/

namespace Ambience

/-- The settings of a running animation. -/
structure Controls (α : Type) where
  /-- Whether the dark palette is shown, else the light one. -/
  dark : Bool
  /-- The setting of the opacity knob. -/
  opacity : α
  /-- Whether the animation runs at all. -/
  active : Bool
  deriving Repr

namespace Controls

variable {α : Type} [Scalar α]

/-- Controls with the knob brought into its range. -/
def of (dark : Bool) (opacity : α) (active : Bool) : Controls α :=
  { dark, opacity := Opacity.restrict opacity, active }

/-- The controls with another setting of the knob. -/
def withOpacity (controls : Controls α) (opacity : α) : Controls α :=
  { controls with opacity := Opacity.restrict opacity }

/-- Dark, neutral and running. -/
def initial : Controls α := of true Opacity.neutral true

/-- Whether two controls agree, knobs being compared as numbers. -/
def agree (a b : Controls α) : Bool :=
  a.dark == b.dark && Scalar.same a.opacity b.opacity && a.active == b.active

end Controls

end Ambience
