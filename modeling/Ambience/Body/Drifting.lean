import Ambience.Body.Basic
import Ambience.Drawing

/-!
# Drifting bodies

Flakes, petals, leaves and stars cross the view and leave it by an edge. A new one enters at the
edge that its kind comes from, inside the margin past which it would be taken for gone.
-/

namespace Ambience

variable {σ α : Type} [Scalar α] [Words σ] [Units σ α]

/-! ## Flakes -/

namespace Flake

/-- How far outside the view a flake still counts as part of it. -/
def margin : α := 12.0

/-- A new flake: anywhere, or just above the top edge. -/
def spawn (site : Site α) : Draw σ (Flake α) := do
  let y ←
    match site.origin with
    | .scatter => Draw.span 0.0 site.bounds.height
    | .enter => do pure (-(← Draw.uniform 2.0 margin))
  let x ← Draw.span 0.0 site.bounds.width
  let z ← Draw.uniformClosed 0.05 1.0
  let speed ← Draw.uniform 0.4 1.2
  let size ← Draw.uniform 1.2 2.6
  let opacity ← Draw.uniform 0.3 0.5
  let sway ← Oscillator.random 0.01 0.04 0.2 0.8
  return { x, y, z, speed, size, opacity, sway }

/-- A horizontal position brought back to the other side when it has left the view sideways. -/
def wrap (x width : α) : α :=
  if 0.0 < width then
    if x < -margin then x + (width + 2.0 * margin)
    else if width + margin < x then x - (width + 2.0 * margin)
    else x
  else x

/-- A flake falls and sways, near flakes faster and more with the wind. Sideways it wraps; it is
gone once it has fallen out at the bottom. -/
def step (f : Flake α) (tick : Tick α) : Flake α × Fate :=
  let width := tick.bounds.width
  let height := tick.bounds.height
  let sway := f.sway.advance tick.step
  let y := f.y + Motion.parallaxSpeed f.speed f.z * tick.step
  let x := wrap (f.x + (sway.value + tick.wind * (0.4 + f.z * 0.6)) * tick.step) width
  ({ f with x, y, sway },
    .expiredIf (decide (height + margin < y) || Motion.isOutside x y width height (margin * 4.0)))

/-- A disc, smaller and dimmer with distance; near flakes have a halo. -/
def draw (f : Flake α) (pen : Pen α) : List (DrawCall α) :=
  let radius := Motion.parallaxSize f.size f.z
  let fade := 0.35 + 0.65 * f.z
  let paint := pen.shade 0 f.opacity fade
  if paint.isVisible then
    DrawCall.disc f.x f.y radius paint ::
      if 0.75 < f.z then [.glow f.x f.y (radius * 2.5) (pen.shade 1 (f.opacity * 0.3) fade)] else []
  else []

end Flake

/-! ## Petals and leaves -/

namespace Tumbler

/-- How far outside the view a petal or a leaf still counts as part of it. -/
def margin : α := 24.0

/-- The share of entering bodies that blow in from the side the wind comes from. -/
def sideShare : α := 0.3

/-- Where a new body appears: anywhere, or just above the top edge or, in wind, past the upwind
edge. -/
def entry (site : Site α) : Draw σ (α × α) := do
  let width := site.bounds.width
  let height := site.bounds.height
  let fromTop : Draw σ (α × α) := do
    let x ← Draw.span 0.0 width
    let above ← Draw.uniform 4.0 (margin * 0.5)
    return (x, -above)
  match site.origin with
  | .scatter =>
    let x ← Draw.span 0.0 width
    let y ← Draw.span 0.0 height
    return (x, y)
  | .enter =>
    if Scalar.same site.wind 0.0 then fromTop
    else
      let lot : α ← Draw.uniform 0.0 1.0
      if lot < sideShare then
        let x := if 0.0 < site.wind then -margin * 0.5 else width + margin * 0.5
        let y ← Draw.span 0.0 height
        return (x, y)
      else fromTop

/-- What a new petal or leaf is drawn from: of each range the least value and the one that it stays
below. -/
structure Ranges (α : Type) where
  vx : α × α
  vy : α × α
  spin : α × α
  size : α × α
  opacity : α × α
  shade : Nat × Nat
  flutterSpeed : α × α
  flutterAmplitude : α × α

/-- A new body with everything but its place and its rotation from the given ranges. -/
def spawn (ranges : Ranges α) (site : Site α) : Draw σ (Tumbler α) := do
  let (x, y) ← entry site
  let vx ← Draw.uniform ranges.vx.1 ranges.vx.2
  let vy ← Draw.uniform ranges.vy.1 ranges.vy.2
  let rotation ← Draw.uniform 0.0 Scalar.tau
  let spin ← Draw.uniform ranges.spin.1 ranges.spin.2
  let size ← Draw.uniform ranges.size.1 ranges.size.2
  let opacity ← Draw.uniform ranges.opacity.1 ranges.opacity.2
  let shade ← Draw.integer ranges.shade.1 ranges.shade.2
  let flutter ← Oscillator.random ranges.flutterSpeed.1 ranges.flutterSpeed.2
    ranges.flutterAmplitude.1 ranges.flutterAmplitude.2
  return { x, y, vx, vy, rotation, spin, size, opacity, shade, flutter }

def petalRanges : Ranges α where
  vx := (-0.5, 0.5)
  vy := (0.5, 1.1)
  spin := (-0.06, 0.06)
  size := (3.0, 6.0)
  opacity := (0.3, 0.5)
  shade := (0, 4)
  flutterSpeed := (0.04, 0.1)
  flutterAmplitude := (0.3, 1.0)

def leafRanges : Ranges α where
  vx := (-0.3, 0.3)
  vy := (0.3, 0.7)
  spin := (-0.04, 0.04)
  size := (5.0, 10.0)
  opacity := (0.25, 0.45)
  shade := (3, 5)
  flutterSpeed := (0.02, 0.06)
  flutterAmplitude := (0.5, 1.4)

/-- A new petal. -/
def spawnPetal (site : Site α) : Draw σ (Tumbler α) := spawn petalRanges site

/-- A new leaf. -/
def spawnLeaf (site : Site α) : Draw σ (Tumbler α) := spawn leafRanges site

/-- A body moved by its velocity, which is gone once it is outside the view by the margin. -/
def drift (t : Tumbler α) (tick : Tick α) : Tumbler α × Fate :=
  let x := t.x + t.vx * tick.step
  let y := t.y + t.vy * tick.step
  ({ t with x, y },
    .expiredIf (Motion.isOutside x y tick.bounds.width tick.bounds.height margin))

/-- A petal drifts with the wind, and falls more slowly while it is broadside to its motion. -/
def stepPetal (t : Tumbler α) (tick : Tick α) : Tumbler α × Fate :=
  let flutter := t.flutter.advance tick.step
  let rotation := t.rotation + t.spin * tick.step
  let rate := Scalar.least (0.05 * tick.step) 1.0
  let vx := Motion.ease t.vx (tick.wind + flutter.value) rate
  let fall := 0.6 + 0.4 * Scalar.magnitude (Scalar.cos flutter.phase)
  let vy := Motion.ease t.vy fall (rate * 0.5)
  drift { t with flutter, rotation, vx, vy } tick

/-- A leaf drifts with most of the wind and rocks as it falls. -/
def stepLeaf (t : Tumbler α) (tick : Tick α) : Tumbler α × Fate :=
  let flutter := t.flutter.advance tick.step
  let rotation := t.rotation + (t.spin + flutter.value * 0.01) * tick.step
  let rate := Scalar.least (0.03 * tick.step) 1.0
  let vx := Motion.ease t.vx (tick.wind * 0.8 + flutter.value) rate
  let vy := Motion.ease t.vy 0.45 rate
  drift { t with flutter, rotation, vx, vy } tick

/-- A petal is two discs, which shrink and dim as it turns its edge. -/
def drawPetal (t : Tumbler α) (pen : Pen α) : List (DrawCall α) :=
  let face := Scalar.magnitude (Scalar.cos t.rotation)
  let paint := pen.shade t.shade t.opacity (0.55 + 0.45 * face)
  if paint.isVisible then
    let radius := t.size * (0.45 + 0.55 * face)
    let dx := Scalar.cos t.rotation * radius * 0.6
    let dy := Scalar.sin t.rotation * radius * 0.6
    [.disc (t.x - dx * 0.5) (t.y - dy * 0.5) (radius * 0.7) paint,
      .disc (t.x + dx * 0.5) (t.y + dy * 0.5) (radius * 0.5) paint]
  else []

/-- A leaf is a short thick line along its rotation. -/
def drawLeaf (t : Tumbler α) (pen : Pen α) : List (DrawCall α) :=
  let paint := pen.shade t.shade t.opacity 1.0
  if paint.isVisible then
    let c := Scalar.cos t.rotation
    let s := Scalar.sin t.rotation
    let half := t.size * 0.5
    [.line (t.x - c * half) (t.y - s * half) (t.x + c * half) (t.y + s * half) (t.size * 0.35) paint]
  else []

end Tumbler

/-! ## Stars -/

namespace Star

/-- How far past the right edge a star still counts as part of the view. -/
def margin : α := 6.0

/-- A new star: anywhere, or just past the left edge. Depths are skewed toward the far field, so
that most stars are small and slow. -/
def spawn (site : Site α) : Draw σ (Star α) := do
  let x ←
    match site.origin with
    | .scatter => Draw.span 0.0 site.bounds.width
    | .enter => do pure (-(← Draw.uniform 0.0 margin))
  let y ← Draw.span 0.0 site.bounds.height
  let nearness ← Draw.uniform 0.0 1.0
  let speed ← Draw.uniform 0.05 0.2
  let size ← Draw.uniform 0.8 1.6
  let opacity ← Draw.uniform 0.25 0.5
  let twinkle ← Oscillator.random 0.02 0.08 1.0 1.5
  return { x, y, z := Scalar.square nearness, speed, size, opacity, twinkle }

/-- A star drifts to the right and is gone past the right edge. -/
def step (s : Star α) (tick : Tick α) : Star α × Fate :=
  let twinkle := s.twinkle.advance tick.step
  let x := s.x + Motion.parallaxSpeed s.speed s.z * tick.step
  ({ s with x, twinkle }, .expiredIf (decide (tick.bounds.width + margin < x)))

/-- A twinkling disc; the nearest stars have spikes while they are brightest. -/
def draw (s : Star α) (pen : Pen α) : List (DrawCall α) :=
  let glitter := 0.45 + 0.55 * s.twinkle.unit
  let paint := pen.shade (if 0.6 < s.z then 1 else 0) s.opacity glitter
  if paint.isVisible then
    let radius := Motion.parallaxSize s.size s.z
    DrawCall.disc s.x s.y radius paint ::
      if 0.8 < s.z ∧ 0.9 < glitter then
        let arm := radius * 4.0
        let spike := pen.shade 1 (s.opacity * 0.5) glitter
        [.line (s.x - arm) s.y (s.x + arm) s.y 0.5 spike,
          .line s.x (s.y - arm) s.x (s.y + arm) 0.5 spike]
      else []
  else []

end Star

end Ambience
