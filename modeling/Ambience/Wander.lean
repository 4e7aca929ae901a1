import Ambience.Motion
import Ambience.Random.Draw

/-!
# Wandering

A wandering body turns at a rate that eases toward a target, and the target is chosen anew in
fixed intervals.
-/

namespace Ambience

/-- The turning of a wandering body. -/
structure Wander (α : Type) where
  /-- The present turn, in radians per nominal frame. -/
  turn : α
  target : α
  /-- The bound on targets, to either side. -/
  maxTurn : α
  /-- The share of the gap to the target that a frame closes. -/
  rate : α
  /-- The frames between two choices of a target. -/
  interval : Nat
  /-- The frames until the next choice. -/
  countdown : Nat
  deriving Repr

namespace Wander

variable {σ α : Type} [Scalar α] [Words σ] [Units σ α]

/-- A target within the bound. -/
def chooseTarget (maxTurn : α) : Draw σ α := Draw.uniformClosed (-maxTurn) maxTurn

/-- A turning that starts straight, at a random point of its first interval. -/
def start (maxTurn rate : α) (interval : Nat) : Draw σ (Wander α) := do
  let interval := max interval 1
  let target ← chooseTarget maxTurn
  let countdown ← Draw.integer 0 interval
  return { turn := 0.0, target, maxTurn, rate, interval, countdown }

/-- The turning a frame later: a new target when the countdown has run out, and the turn eased
toward the target. -/
def advance (w : Wander α) : Draw σ (Wander α) := do
  let w ←
    match w.countdown with
    | 0 => do
      let target ← chooseTarget w.maxTurn
      pure { w with target, countdown := w.interval }
    | remaining + 1 => pure { w with countdown := remaining }
  return { w with turn := Motion.ease w.turn w.target w.rate }

end Wander

end Ambience
