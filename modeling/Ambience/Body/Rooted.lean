import Ambience.Body.Basic
import Ambience.Drawing
import Ambience.Noise.Gradient

/-!
# Rooted bodies

Stalks, stones, rake lines, the glow of a fire, ridges and cacti stay where they are for as long as
their scene lasts. Stones and cacti are placed clear of one another and leave a zone behind that
later ones keep out of; the ridge in front becomes the terrain that cacti stand on.
-/

namespace Ambience

variable {σ α : Type} [Scalar α] [Words σ] [Units σ α]

/-- The proposals tried before a body that needs a clear place is given up. -/
def placementAttempts : Nat := 50

/-! ## Bamboo stalks -/

namespace Stalk

/-- The depth of the layer in front, which is nearest. -/
def frontDepth : α := 3.0

/-- The nearness of a layer depth. -/
def nearness (depth : Nat) : α := Scalar.clamp (Scalar.ofNat depth / frontDepth) 0.1 1.0

/-- A new stalk. Every slot of the layer has an equal strip of the view, and the stalk stands
somewhere in the middle of its strip, so that stalks neither clump nor line up. -/
def spawn (site : Site α) : Draw σ (Stalk α) := do
  let width := site.bounds.width
  let height := site.bounds.height
  let z := nearness site.depth
  let strip := width / Scalar.ofNat (max site.population 1)
  let jitter ← Draw.uniform 0.15 0.85
  let x := (Scalar.ofNat site.slot + jitter) * strip
  let sunk ← Draw.span 0.0 12.0
  let share ← Draw.uniform 0.55 1.15
  let girth ← Draw.uniform 3.0 6.0
  let nodes ← Draw.integer 4 9
  let opacity ← Draw.uniform 0.3 0.45
  let sway ← Oscillator.random 0.008 0.02 0.01 0.035
  return { x := Scalar.clamp x 0.0 width, base := height + sunk
           height := height * share * (0.6 + 0.4 * z), width := Motion.parallaxSize girth z, z
           nodes, opacity, shade := min (site.depth - 1) 2, sway }

/-- A stalk sways. -/
def step (s : Stalk α) (tick : Tick α) : Stalk α × Fate :=
  ({ s with sway := s.sway.advance tick.step }, .alive)

/-- The joints above one at `(x, y)`, `remaining` of them, when `i` lie below: each stands a
segment away, at an angle that grows toward the tip. -/
def jointsAbove (lean segment : α) (nodes : Nat) : Nat → Nat → α → α → List (α × α)
  | 0, _, _, _ => []
  | remaining + 1, i, x, y =>
    let t := Scalar.ofNat (i + 1) / Scalar.ofNat nodes
    let angle := lean * Scalar.power t 1.5
    let x := x + Scalar.sin angle * segment
    let y := y - Scalar.cos angle * segment
    (x, y) :: jointsAbove lean segment nodes remaining (i + 1) x y

/-- The joints from the base to the tip, bent by sway and wind. -/
def joints (s : Stalk α) (wind : α) : List (α × α) :=
  let lean := s.sway.value + wind * 0.04 * (0.5 + s.z)
  let nodes := max s.nodes 1
  (s.x, s.base) :: jointsAbove lean (s.height / Scalar.ofNat nodes) nodes nodes 0 s.x s.base

/-- The lines between neighbouring points. -/
def chain (width : α) (paint : Paint α) (points : List (α × α)) : List (DrawCall α) :=
  (points.zip points.tail).map fun (a, b) => .line a.1 a.2 b.1 b.2 width paint

/-- The leaf at the `i`-th joint, which hangs a little and flutters with time; leaves grow on
alternating sides. -/
def leaf (s : Stalk α) (time : α) (paint : Paint α) (i : Nat) (joint : α × α) : DrawCall α :=
  let reach := s.width * 5.0
  let side : α := if i % 2 = 0 then 1.0 else -1.0
  let droop := 0.35 + 0.15 * Scalar.sin (time * 1.5 + Scalar.ofNat i)
  let tipX := joint.1 + side * Scalar.cos droop * reach
  let tipY := joint.2 + Scalar.sin droop * reach
  .line joint.1 joint.2 tipX tipY (s.width * 0.6) paint

/-- The stem, a collar at each inner joint, and leaves on the upper half. -/
def draw (s : Stalk α) (pen : Pen α) : List (DrawCall α) :=
  let fade := 0.55 + 0.45 * s.z
  let stem := pen.shade s.shade s.opacity fade
  if stem.isVisible then
    let points := s.joints pen.wind
    let collar := pen.shade 5 s.opacity fade
    let foliage := pen.shade 3 s.opacity fade
    let half := points.length / 2
    chain s.width stem points ++
      (points.tail.dropLast.map fun (x, y) =>
        .rect (x - s.width * 0.6) (y - 1.0) (s.width * 1.2) 2.0 collar) ++
      (points.drop half).mapIdx fun i joint => s.leaf pen.time foliage (half + i) joint
  else []

end Stalk

/-! ## Stones -/

namespace Stone

/-- The width of the raked rings around a stone. -/
def ringBand : α := 26.0

/-- The distance between two rings. -/
def ringSpacing : α := 8.0

/-- The least distance between the rings of neighbouring stones. -/
def gap : α := 10.0

/-- A new stone and its zone, clear of the rings of every earlier stone; `none` when the garden is
too crowded. -/
def spawn (site : Site α) (geometry : Geometry α) : Draw σ (Option (Stone α × Zone α)) := do
  let radius ← Draw.uniform 16.0 38.0
  let edge := radius + ringBand * 0.5
  let propose : Draw σ (α × α) := do
    let x ← Draw.span edge (site.bounds.width - edge)
    let y ← Draw.span edge (site.bounds.height - edge)
    return (x, y)
  match ← geometry.placeClear (radius + ringBand + gap) propose placementAttempts with
  | none => return none
  | some (x, y) =>
    let opacity ← Draw.uniform 0.4 0.5
    let shade ← Draw.integer 0 3
    return some ({ x, y, radius, opacity, shade }, { x, y, radius := radius + ringBand })

/-- The radii of the rings from `radius` on, `remaining` at most, up to `limit`. -/
def ringRadii (limit : α) : Nat → α → List α
  | 0, _ => []
  | remaining + 1, radius =>
    if radius ≤ limit then radius :: ringRadii limit remaining (radius + ringSpacing) else []

/-- The rings, a shadow, the stone and a highlight. -/
def draw (s : Stone α) (pen : Pen α) : List (DrawCall α) :=
  let body := pen.shade s.shade s.opacity 1.0
  if body.isVisible then
    let groove := pen.shade 3 (s.opacity * 0.6) 1.0
    let shadow := pen.shade 4 (s.opacity * 0.5) 1.0
    let highlight := pen.shade 5 (s.opacity * 0.5) 1.0
    ((ringRadii (s.radius + ringBand) 4 (s.radius + ringSpacing)).flatMap fun radius =>
        DrawCall.ring s.x s.y radius 1.0 groove) ++
      [.disc (s.x + s.radius * 0.15) (s.y + s.radius * 0.2) s.radius shadow,
        .disc s.x s.y s.radius body,
        .disc (s.x - s.radius * 0.3) (s.y - s.radius * 0.35) (s.radius * 0.35) highlight]
  else []

end Stone

/-! ## Rake lines -/

namespace Rake

/-- The length of the pieces that a rake line is drawn in. -/
def pieceLength : α := 6.0

/-- A new rake line, in the middle of the strip of its slot. -/
def spawn (site : Site α) : Draw σ (Rake α) := do
  let spacing := site.bounds.height / Scalar.ofNat (max site.population 1)
  let opacity ← Draw.uniform 0.3 0.4
  let wave ← Oscillator.random 0.003 0.008 1.5 3.0
  return { y := (Scalar.ofNat site.slot + 0.5) * spacing, opacity, wave }

/-- The wave of a rake line travels. -/
def step (r : Rake α) (tick : Tick α) : Rake α × Fate :=
  ({ r with wave := r.wave.advance tick.step }, .alive)

/-- The height of the groove at `x`. -/
def grooveAt (r : Rake α) (x : α) : α :=
  r.y + Scalar.sin (x * 0.015 + r.wave.phase) * r.wave.amplitude

/-- The pieces from `x` to the right edge, `remaining` at most: each starts where the one before
ends, and the last one ends at the edge. -/
def pieces (width : α) : Nat → α → List (α × α)
  | 0, _ => []
  | remaining + 1, x =>
    if x < width then
      let stop := Scalar.least (x + pieceLength) width
      (x, stop) :: pieces width remaining stop
    else []

/-- How many pieces are enough for a width. -/
def pieceCount (width : α) : Nat := (Scalar.toInt (Scalar.ceil (width / pieceLength))).toNat + 1

/-- The pieces whose middle lies in no zone. -/
def draw (r : Rake α) (pen : Pen α) : List (DrawCall α) :=
  let paint := pen.shade 3 r.opacity 1.0
  if paint.isVisible then
    let width := pen.bounds.width
    (pieces width (pieceCount width) 0.0).filterMap fun (start, stop) =>
      let startY := r.grooveAt start
      let stopY := r.grooveAt stop
      if pen.geometry.isClear ((start + stop) * 0.5) ((startY + stopY) * 0.5) 0.0 then
        some (.line start startY stop stopY 1.0 paint)
      else none
  else []

end Rake

/-! ## The glow of a fire -/

namespace Glow

/-- A new glow, at the middle of the bottom edge. -/
def spawn (site : Site α) : Draw σ (Glow α) := do
  let width := site.bounds.width
  let height := site.bounds.height
  let pulse ← Oscillator.random 0.02 0.04 0.06 0.12
  return { x := width * 0.5, y := height
           radius := Scalar.greatest (Scalar.greatest width height * 0.45) 1.0
           opacity := 0.35, pulse }

/-- A glow pulses. -/
def step (g : Glow α) (tick : Tick α) : Glow α × Fate :=
  ({ g with pulse := g.pulse.advance tick.step }, .alive)

/-- A fading disc that widens and narrows with the pulse, and dims while it is narrow. -/
def draw (g : Glow α) (pen : Pen α) : List (DrawCall α) :=
  let paint := pen.shade 0 g.opacity (1.0 + Scalar.least g.pulse.value 0.0)
  [.glow g.x g.y (g.radius * (1.0 + g.pulse.value)) paint]

end Glow

/-! ## Ridges -/

namespace Ridge

/-- The distance between two samples of a new profile. -/
def sampleSpacing : α := 8.0

/-- The mean height of a ridge as a share of the view, from the back to the front. -/
def baseline : Nat → α
  | 0 => 0.55
  | 1 => 0.68
  | _ => 0.8

/-- The swing of a ridge as a share of the view, from the back to the front. -/
def swing : Nat → α
  | 0 => 0.09
  | 1 => 0.07
  | _ => 0.05

/-- The band of a slot: slots past the third share the one in front. -/
def band (slot : Nat) : Nat := min slot 2

/-- The height of a profile at `x`: two octaves of noise around the baseline. -/
def profileAt (noise : Noise.Permutation) (band : Nat) (height x : α) : α :=
  let row : α := Scalar.ofNat band
  let frequency := 0.004 + 0.002 * row
  let swell := Noise.sample noise (x * frequency) (row * 7.3) +
    0.5 * Noise.sample noise (x * frequency * 2.3) (row * 3.1)
  height * (baseline band + swing band * swell / 1.5)

/-- How many samples span a width, with one past each end of the last full step. -/
def sampleCount (width : α) : Nat := Scalar.count (Scalar.ceil (width / sampleSpacing)) + 2

/-- The profile of a slot. -/
def profileOf (noiseSeed : UInt32) (slot : Nat) (bounds : Bounds α) : Array α :=
  let noise := Noise.Permutation.ofSeed (noiseSeed + UInt32.ofNat slot)
  Array.ofFn fun i : Fin (sampleCount bounds.width) =>
    profileAt noise (band slot) bounds.height (Scalar.ofNat i.val * sampleSpacing)

/-- A new ridge, and the geometry with it: the ridge of the last slot is the terrain. There is none
for a view so wide that the samples cannot be counted in a machine word. -/
def spawn (site : Site α) (geometry : Geometry α) : Draw σ (Ridge α × Geometry α) := do
  if Scalar.maxCount < sampleCount site.bounds.width then throw .overflow
  let profile := profileOf geometry.noiseSeed site.slot site.bounds
  let geometry :=
    if site.slot + 1 = site.population then
      { geometry with horizon := profile, horizonStep := sampleSpacing }
    else geometry
  let shade := band site.slot
  let shimmer ← Oscillator.random 0.01 0.02 0.5 1.0
  return ({ profile, spacing := sampleSpacing, opacity := 0.45 + 0.05 * Scalar.ofNat shade, shade
            shimmer }, geometry)

/-- The light on a ridge shimmers. -/
def step (r : Ridge α) (tick : Tick α) : Ridge α × Fate :=
  ({ r with shimmer := r.shimmer.advance tick.step }, .alive)

/-- The line along the crest, from each sample of a profile to the next. -/
def crest (profile : Array α) (spacing : α) (paint : Paint α) : List (DrawCall α) :=
  (profile.toList.zip profile.toList.tail).mapIdx fun i (left, right) =>
    let x := Scalar.ofNat i * spacing
    .line x left (x + spacing) right 1.0 paint

/-- The sand below the profile, and light on its crest. -/
def draw (r : Ridge α) (pen : Pen α) : List (DrawCall α) :=
  let body := pen.shade r.shade r.opacity 1.0
  if body.isVisible then
    let light := pen.shade 5 (r.opacity * 0.4) (0.6 + 0.4 * r.shimmer.unit)
    .below r.profile r.spacing body :: crest r.profile r.spacing light
  else []

end Ridge

/-! ## Cacti -/

namespace Cactus

/-- The least distance between a cactus and the zone of an earlier one. -/
def gap : α := 30.0

/-- The distance that cacti keep from the sides of the view. -/
def inset : α := 12.0

/-- How deep the foot of a cactus stands in the sand. -/
def depth : α := 2.0

/-- A new cactus and its zone, on the terrain and clear of earlier cacti; `none` when there is no
room. -/
def spawn (site : Site α) (geometry : Geometry α) : Draw σ (Option (Cactus α × Zone α)) := do
  let height ← Draw.uniform 28.0 64.0
  let propose : Draw σ (α × α) := do
    let x ← Draw.span inset (site.bounds.width - inset)
    return (x, (geometry.groundAt x).getD (site.bounds.height * Ridge.baseline 2))
  match ← geometry.placeClear gap propose placementAttempts with
  | none => return none
  | some (x, ground) =>
    let arms ← Draw.integer 0 3
    let opacity ← Draw.uniform 0.4 0.5
    return some ({ x, base := ground + depth, height, arms, opacity },
      { x, y := ground, radius := height * 0.5 })

/-- The `i`-th arm: out from the trunk, then up. The first arm is on the left. -/
def arm (c : Cactus α) (trunk : α) (paint : Paint α) (i : Nat) : List (DrawCall α) :=
  let side : α := if i = 0 then -1.0 else 1.0
  let elbow := c.base - c.height * (0.45 + 0.15 * Scalar.ofNat i)
  let reach := c.x + side * c.height * 0.28
  let width := trunk * 0.7
  [.line c.x elbow reach elbow width paint,
    .line reach elbow reach (elbow - c.height * 0.3) width paint,
    .disc reach (elbow - c.height * 0.3) (width * 0.5) paint]

/-- A rounded trunk with its arms. -/
def draw (c : Cactus α) (pen : Pen α) : List (DrawCall α) :=
  let paint := pen.shade 4 c.opacity 1.0
  if paint.isVisible then
    let trunk := Scalar.greatest (c.height * 0.16) 2.0
    let top := c.base - c.height
    [.line c.x c.base c.x (top + trunk * 0.5) trunk paint,
      .disc c.x (top + trunk * 0.5) (trunk * 0.5) paint] ++
      (List.range c.arms).flatMap (c.arm trunk paint)
  else []

end Cactus

end Ambience
