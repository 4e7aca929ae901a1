import Ambience.Geometry

/-!
# How many bodies a layer holds

The population of a lasting layer follows from the view when the scene is built. A transient layer
starts empty, gains bodies at a rate, and never holds more than its cap: the rate is turned into
whole bodies by an emitter, which carries the fraction that is left to the next frame.
-/

namespace Ambience

variable {α β : Type} [Scalar α]

/-- How the population of a layer is determined. -/
inductive Density (α : Type) where
  /-- One body for each `divisor` of area, and no fewer than `floor`. -/
  | area (divisor : α) (floor : Nat)
  /-- One body for each `divisor` of width, and no fewer than `floor`. -/
  | width (divisor : α) (floor : Nat)
  /-- One body for each `divisor` of height, and no fewer than `floor`. -/
  | height (divisor : α) (floor : Nat)
  /-- A fixed number of bodies. -/
  | fixed (population : Nat)
  /-- None to begin with; `rate` new ones per nominal frame, and at most `cap` at any time. -/
  | spawned (rate : α) (cap : Nat)
  deriving Repr

namespace Density

/-- One body for each `divisor` of a measure, times the scale, and no fewer than `floor`. -/
def scaled (scale measure divisor : α) (floor : Nat) : Nat :=
  if divisor ≤ 0.0 then floor
  else max (Scalar.count (Scalar.floor (measure / divisor * scale))) floor

/-- The population of a layer when its scene is built. -/
def population (bounds : Bounds α) (scale : α) : Density α → Nat
  | .area divisor floor => scaled scale bounds.area divisor floor
  | .width divisor floor => scaled scale bounds.width divisor floor
  | .height divisor floor => scaled scale bounds.height divisor floor
  | .fixed population => population
  | .spawned _ _ => 0

/-- Whether bodies of the layer come and go. -/
def isTransient : Density α → Bool
  | .spawned _ _ => true
  | _ => false

end Density

/-- The fraction of a body that is still owed. -/
structure Emitter (α : Type) where
  carry : α
  deriving Repr

namespace Emitter

/-- Nothing is owed. -/
def idle : Emitter α := ⟨0.0⟩

/-- The whole bodies due after `step` nominal frames at `rate`, and the emitter that carries the
rest. -/
def due (emitter : Emitter α) (rate step : α) : Nat × Emitter α :=
  let owed := emitter.carry + Scalar.greatest (rate * step) 0.0
  let whole := Scalar.floor owed
  (Scalar.count whole, ⟨owed - whole⟩)

end Emitter

/-- How many items are above a cap. -/
def excess (items : List β) (cap : Nat) : Nat := items.length - cap

/-- The newest `cap` of the items, which are in order of age, oldest first. -/
def newest (items : List β) (cap : Nat) : List β := items.drop (excess items cap)

end Ambience
