import Ambience.Body.Basic
import Ambience.Drawing

/-!
# Wandering bodies

Fireflies and koi steer on their own. They enter from a random edge, heading roughly inward, and
are gone once they are out of view.
-/

namespace Ambience

variable {σ α : Type} [Scalar α] [Words σ] [Units σ α]

/-- The position and heading of a wandering body: anywhere with any heading, or `outside` pixels
past a random edge, inward up to a random angle within `spread`. -/
def wanderEntry (site : Site α) (outside spread : α) : Draw σ (α × α × α) := do
  let width := site.bounds.width
  let height := site.bounds.height
  match site.origin with
  | .scatter =>
    let x ← Draw.span 0.0 width
    let y ← Draw.span 0.0 height
    let heading ← Draw.uniform 0.0 Scalar.tau
    return (x, y, heading)
  | .enter =>
    let jitter ← Draw.uniform (-spread) spread
    match ← Draw.integer 0 4 with
    | 0 => do
      let y ← Draw.span 0.0 height
      return (0.0 - outside, y, jitter)
    | 1 => do
      let y ← Draw.span 0.0 height
      return (width + outside, y, Scalar.pi + jitter)
    | 2 => do
      let x ← Draw.span 0.0 width
      return (x, 0.0 - outside, Scalar.quarterTurn + jitter)
    | _ => do
      let x ← Draw.span 0.0 width
      return (x, height + outside, -Scalar.quarterTurn + jitter)

/-! ## Fireflies -/

namespace Firefly

/-- How far outside the view a firefly still counts as part of it. -/
def margin : α := 30.0

/-- A new firefly: anywhere, or on an edge. -/
def spawn (site : Site α) : Draw σ (Firefly α) := do
  let (x, y, heading) ← wanderEntry site 0.0 0.6
  let speed ← Draw.uniform 0.25 0.7
  let radius ← Draw.uniform 1.5 3.0
  let opacity ← Draw.uniform 0.35 0.5
  let wander ← Wander.start 0.05 0.08 45
  let phase ← Draw.uniform 0.0 Scalar.tau
  let blinking ← Draw.uniform 0.015 0.05
  return { x, y, heading, speed, radius, opacity, wander,
           blink := { phase, speed := blinking, amplitude := 1.0 } }

/-- A firefly turns, blinks and moves along its heading. -/
def step (f : Firefly α) (tick : Tick α) : Draw σ (Firefly α × Fate) := do
  let wander ← f.wander.advance
  let heading := Scalar.remainder (f.heading + wander.turn * tick.step) Scalar.tau
  let blink := f.blink.advance tick.step
  let x := f.x + Scalar.cos heading * f.speed * tick.step
  let y := f.y + Scalar.sin heading * f.speed * tick.step
  return ({ f with x, y, heading, wander, blink },
    .expiredIf (Motion.isOutside x y tick.bounds.width tick.bounds.height margin))

/-- The brightness of a blink: long dark stretches and short bright pulses. -/
def brightness (f : Firefly α) : α :=
  let unit := f.blink.unit
  unit * unit * unit

/-- A halo with a bright core. -/
def draw (f : Firefly α) (pen : Pen α) : List (DrawCall α) :=
  let fade := f.brightness
  let halo := pen.shade 1 (f.opacity * 0.6) fade
  if halo.isVisible then
    [.glow f.x f.y (f.radius * 5.0) halo, .disc f.x f.y f.radius (pen.shade 0 f.opacity fade)]
  else []

end Firefly

/-! ## Koi -/

namespace Koi

/-- The discs that the body of a koi is drawn with. -/
def segments : Nat := 7

/-- A new koi: anywhere, or a body length past an edge. -/
def spawn (site : Site α) : Draw σ (Koi α) := do
  let length ← Draw.uniform 26.0 44.0
  let (x, y, heading) ← wanderEntry site length 0.5
  let speed ← Draw.uniform 0.5 1.1
  let opacity ← Draw.uniform 0.35 0.5
  let variant ← Draw.integer 0 3
  let wander ← Wander.start 0.03 0.05 90
  let tail ← Oscillator.random 0.12 0.22 0.3 0.45
  return { x, y, heading, speed, length, opacity, variant, wander, tail }

/-- A koi turns and swims along its heading; each stroke of the tail gives a little push. It is
gone two body lengths outside the view. -/
def step (k : Koi α) (tick : Tick α) : Draw σ (Koi α × Fate) := do
  let wander ← k.wander.advance
  let heading := Scalar.remainder (k.heading + wander.turn * tick.step) Scalar.tau
  let tail := k.tail.advance tick.step
  let thrust := 1.0 + 0.25 * Scalar.magnitude tail.value
  let x := k.x + Scalar.cos heading * k.speed * thrust * tick.step
  let y := k.y + Scalar.sin heading * k.speed * thrust * tick.step
  return ({ k with x, y, heading, wander, tail },
    .expiredIf
      (Motion.isOutside x y tick.bounds.width tick.bounds.height (k.length * 2.0)))

/-- The disc of the `i`-th segment from the head: its centre, bent sideways by the tail, and its
radius, which tapers. -/
def spine (k : Koi α) (i : Nat) : α × α × α :=
  let c := Scalar.cos k.heading
  let s := Scalar.sin k.heading
  let t := Scalar.ofNat i / Scalar.ofNat (segments - 1)
  let back := t * k.length
  let bend := Scalar.sin (k.tail.phase - t * 2.2) * k.tail.amplitude * t * k.length * 0.3
  (k.x - c * back - s * bend, k.y - s * back + c * bend, k.length * 0.17 * (1.0 - t * 0.75))

/-- The two sides of a body. -/
def sides : List α := [-1.0, 1.0]

/-- A fin just behind the head, on one side. -/
def pectoralFin (k : Koi α) (paint : Paint α) (side : α) : DrawCall α :=
  let c := Scalar.cos k.heading
  let s := Scalar.sin k.heading
  let (x, y, radius) := k.spine 1
  let flap := 1.0 + 0.3 * k.tail.value
  let tipX := x - s * side * radius * 1.6 * flap
  let tipY := y + c * side * radius * 1.6 * flap
  .line x y (tipX - c * radius) (tipY - s * radius) (radius * 0.5) paint

/-- One half of the tail fin. -/
def tailFin (k : Koi α) (paint : Paint α) (side : α) : DrawCall α :=
  let (x, y, _) := k.spine (segments - 1)
  let spread := k.length * 0.18
  let angle := k.heading + Scalar.pi + side * 0.5 + k.tail.value
  .line x y (x + Scalar.cos angle * spread) (y + Scalar.sin angle * spread) (spread * 0.3) paint

/-- A shadow, the body over it, and the fins. -/
def draw (k : Koi α) (pen : Pen α) : List (DrawCall α) :=
  let body := pen.shade k.variant k.opacity 1.0
  if body.isVisible then
    let shadow := pen.shade 4 (k.opacity * 0.4) 1.0
    let fin := pen.shade 3 (k.opacity * 0.8) 1.0
    let points := (List.range segments).map k.spine
    points.map (fun (x, y, radius) => .disc (x + 3.0) (y + 4.0) radius shadow) ++
      points.map (fun (x, y, radius) => .disc x y radius body) ++
      sides.map (k.pectoralFin fin) ++ sides.map (k.tailFin fin)
  else []

end Koi

end Ambience
