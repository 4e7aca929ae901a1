import Ambience.Body.Basic
import Ambience.Drawing

/-!
# Fleeting bodies

Ripples grow until they have reached their size; embers and grains of sand live for a limited
number of nominal frames.
-/

namespace Ambience

variable {σ α : Type} [Scalar α] [Words σ] [Units σ α]

/-! ## Ripples -/

namespace Ripple

/-- A new ripple, somewhere in the view. In a new scene ripples have grown to different sizes, so
that they do not pulse together. -/
def spawn (site : Site α) : Draw σ (Ripple α) := do
  let maxRadius ← Draw.uniform 30.0 80.0
  let radius ←
    match site.origin with
    | .scatter => Draw.uniform 0.0 (maxRadius * 0.9)
    | .enter => pure 0.0
  let x ← Draw.span 0.0 site.bounds.width
  let y ← Draw.span 0.0 site.bounds.height
  let growth ← Draw.uniform 0.15 0.4
  let opacity ← Draw.uniform 0.2 0.35
  return { x, y, radius, maxRadius, growth, opacity }

/-- A ripple grows, and is gone at its full size. -/
def step (r : Ripple α) (tick : Tick α) : Ripple α × Fate :=
  let radius := r.radius + r.growth * tick.step
  ({ r with radius }, .expiredIf (decide (r.maxRadius ≤ radius)))

/-- A circle that fades as it grows, with a fainter one inside once it is large enough. -/
def draw (r : Ripple α) (pen : Pen α) : List (DrawCall α) :=
  let fade := 1.0 - Scalar.clamp (r.radius / r.maxRadius) 0.0 1.0
  let paint := pen.shade 5 r.opacity fade
  if paint.isVisible then
    DrawCall.ring r.x r.y r.radius 1.0 paint ++
      if 12.0 < r.radius then
        DrawCall.ring r.x r.y (r.radius - 8.0) 1.0 (pen.shade 5 (r.opacity * 0.5) fade)
      else []
  else []

end Ripple

/-! ## Embers -/

namespace Mote

/-- How far outside the view an ember still counts as part of it. -/
def emberMargin : α := 20.0

/-- A new ember, nearer to the middle than to the sides: anywhere in height and age, or just below
the bottom edge with its whole life ahead. -/
def spawnEmber (site : Site α) : Draw σ (Mote α) := do
  let width := site.bounds.width
  let height := site.bounds.height
  let left ← Draw.span 0.0 width
  let right ← Draw.span 0.0 width
  let maxLife ← Draw.uniform 90.0 240.0
  let (y, life) ←
    match site.origin with
    | .scatter => do
      let y ← Draw.span 0.0 height
      let life ← Draw.uniform 1.0 maxLife
      pure (y, life)
    | .enter => do
      let below ← Draw.uniform 0.0 6.0
      pure (height + below, maxLife)
  let vx ← Draw.uniform (-0.3) 0.3
  let rise ← Draw.uniform 0.8 2.4
  let size ← Draw.uniform 0.8 2.2
  let opacity ← Draw.uniform 0.35 0.5
  let wobble ← Oscillator.random 0.1 0.3 0.2 0.6
  return { x := (left + right) * 0.5, y, vx, vy := -rise, size, opacity, life, maxLife, wobble }

/-- An ember is pushed by wind and flicker and slows down as it rises. It is gone when its life is
over or it is out of view. -/
def stepEmber (e : Mote α) (tick : Tick α) : Mote α × Fate :=
  let wobble := e.wobble.advance tick.step
  let vx := e.vx + (tick.wind * 0.02 + wobble.value * 0.04) * tick.step
  let vy := e.vy * Scalar.power 0.997 tick.step
  let x := e.x + vx * tick.step
  let y := e.y + vy * tick.step
  let life := e.life - tick.step
  ({ e with x, y, vx, vy, life, wobble },
    .expiredIf (decide (life ≤ 0.0) ||
      Motion.isOutside x y tick.bounds.width tick.bounds.height emberMargin))

/-- A disc whose colour is that of its age; in the first half of its life it has a halo. -/
def drawEmber (e : Mote α) (pen : Pen α) : List (DrawCall α) :=
  let age := 1.0 - Scalar.clamp (e.life / e.maxLife) 0.0 1.0
  let fade := Motion.lifeFade e.life e.maxLife 0.12 * (0.75 + 0.25 * e.wobble.unit)
  let color := pen.palette.ramp.sample age
  let paint := pen.paint color e.opacity fade
  if paint.isVisible then
    DrawCall.disc e.x e.y e.size paint ::
      if age < 0.5 then [.glow e.x e.y (e.size * 4.0) (pen.paint color (e.opacity * 0.35) fade)]
      else []
  else []

/-! ## Grains of sand -/

/-- How far outside the view a grain still counts as part of it. -/
def grainMargin : α := 16.0

/-- A new grain, in the lower half: anywhere and of any age, or just past the edge that the wind
comes from. -/
def spawnGrain (site : Site α) : Draw σ (Mote α) := do
  let width := site.bounds.width
  let height := site.bounds.height
  let maxLife ← Draw.uniform 120.0 300.0
  let x ←
    match site.origin with
    | .scatter => Draw.span 0.0 width
    | .enter => do
      let past ← Draw.uniform 0.0 (grainMargin * 0.5)
      pure (if 0.0 ≤ site.wind then -past else width + past)
  let life ←
    match site.origin with
    | .scatter => Draw.uniform 1.0 maxLife
    | .enter => pure maxLife
  let y ← Draw.span (height * 0.45) height
  let speed ← Draw.uniform 0.8 2.4
  let vy ← Draw.uniform (-0.15) 0.1
  let size ← Draw.uniform 0.6 1.4
  let opacity ← Draw.uniform 0.3 0.5
  let wobble ← Oscillator.random 0.05 0.15 0.2 0.6
  let downwind : α := if 0.0 ≤ site.wind then 1.0 else -1.0
  return { x, y, vx := downwind * speed, vy, size, opacity, life, maxLife, wobble }

/-- A grain flies with the wind and bobs. It is gone when its life is over or it is out of view. -/
def stepGrain (g : Mote α) (tick : Tick α) : Mote α × Fate :=
  let wobble := g.wobble.advance tick.step
  let x := g.x + (g.vx + tick.wind * 0.5) * tick.step
  let y := g.y + (g.vy + wobble.value * 0.3) * tick.step
  let life := g.life - tick.step
  ({ g with x, y, life, wobble },
    .expiredIf (decide (life ≤ 0.0) ||
      Motion.isOutside x y tick.bounds.width tick.bounds.height grainMargin))

/-- A disc that fades in and out. -/
def drawGrain (g : Mote α) (pen : Pen α) : List (DrawCall α) :=
  let paint := pen.shade 3 g.opacity (Motion.lifeFade g.life g.maxLife 0.15)
  if paint.isVisible then [.disc g.x g.y g.size paint] else []

end Mote

end Ambience
