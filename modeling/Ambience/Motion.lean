import Ambience.Scalar

/-!
# Motion rules

Time is counted in nominal frames of a sixtieth of a second, and speeds are per nominal frame.
-/

namespace Ambience.Motion

variable {α : Type} [Scalar α]

/-- The duration of a nominal frame in seconds. -/
def nominalFrame : α := 1.0 / 60.0

/-- The most nominal frames that one update may cover, so that a pause does not make bodies
jump. -/
def maxStep : α := 4.0

/-- Elapsed seconds in nominal frames. Time that does not pass forward, or is not finite, does not
pass. -/
def stepOf (seconds : α) : α :=
  if !Scalar.isFinite seconds || decide (seconds ≤ 0.0) then 0.0
  else Scalar.least (seconds / nominalFrame) maxStep

/-- Exponential smoothing: the value after closing the share `rate` of the gap to its target. -/
def ease (value target rate : α) : α := value + (target - value) * rate

/-- The apparent size of a body at depth `z`, 0 being far and 1 near. -/
def parallaxSize (base z : α) : α := base * (0.3 + z * 1.5)

/-- The apparent speed of a body at depth `z`, 0 being far and 1 near. -/
def parallaxSpeed (base z : α) : α := base * (0.6 + z * 0.6)

/-- Whether a point is more than `margin` outside a view. -/
def isOutside (x y width height margin : α) : Bool :=
  decide (x < -margin) || decide (width + margin < x) ||
    decide (y < -margin) || decide (height + margin < y)

/-- The fade of a body with `life` frames of `maxLife` left: in over the first share `window` of
its life, out over the last. -/
def lifeFade (life maxLife window : α) : α :=
  if maxLife ≤ 0.0 then 0.0
  else
    let remaining := Scalar.clamp (life / maxLife) 0.0 1.0
    let age := 1.0 - remaining
    let window := Scalar.clamp window 0.000001 0.5
    Scalar.clamp (Scalar.least (age / window) (remaining / window)) 0.0 1.0

end Ambience.Motion
