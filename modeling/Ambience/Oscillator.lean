import Ambience.Random.Draw

/-!
# Oscillators

Sway, flutter, twinkle and pulse are sine waves, each with a phase of its own.
-/

namespace Ambience

/-- A sine wave: its phase in radians, the radians it gains in a nominal frame, its amplitude. -/
structure Oscillator (α : Type) where
  phase : α
  speed : α
  amplitude : α
  deriving Repr

namespace Oscillator

variable {σ α : Type} [Scalar α] [Words σ] [Units σ α]

/-- An oscillator of random phase, with speed and amplitude from the given ranges. -/
def random (slow fast small large : α) : Draw σ (Oscillator α) := do
  let phase ← Draw.uniform 0.0 Scalar.tau
  let speed ← Draw.uniform slow fast
  let amplitude ← Draw.uniform small large
  return { phase, speed, amplitude }

/-- The oscillator after `step` nominal frames. -/
def advance (o : Oscillator α) (step : α) : Oscillator α :=
  { o with phase := Scalar.remainder (o.phase + o.speed * step) Scalar.tau }

/-- The deflection. -/
def value (o : Oscillator α) : α := Scalar.sin o.phase * o.amplitude

/-- The deflection mapped to the unit interval, whatever the amplitude. -/
def unit (o : Oscillator α) : α := 0.5 + 0.5 * Scalar.sin o.phase

end Oscillator

end Ambience
