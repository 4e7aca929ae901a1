import Ambience.Random.Draw

/-!
# The geometry of a scene

The view a scene is laid out for, the discs that placed bodies keep free around themselves, and
the terrain that bodies can stand on.
-/

namespace Ambience

variable {σ α : Type} [Scalar α]

/-! ## The view -/

/-- The size of a view in logical pixels. -/
structure Bounds (α : Type) where
  width : α
  height : α
  deriving Repr

namespace Bounds

/-- A length that is finite and not negative; any other counts as zero. -/
def restrict (length : α) : α :=
  if Scalar.isFinite length then Scalar.greatest length 0.0 else 0.0

/-- The view of a width and a height. -/
def of (width height : α) : Bounds α := ⟨restrict width, restrict height⟩

/-- The area of a view. -/
def area (b : Bounds α) : α := b.width * b.height

end Bounds

/-! ## Exclusion zones -/

/-- A disc that later bodies keep out of. -/
structure Zone (α : Type) where
  x : α
  y : α
  radius : α
  deriving Repr

/-- Whether a point is within `pad` of the disc. -/
def Zone.contains (zone : Zone α) (x y pad : α) : Bool :=
  let reach := zone.radius + pad
  decide (Scalar.square (x - zone.x) + Scalar.square (y - zone.y) < reach * reach)

/-! ## Terrain profiles -/

/-- The height of a profile at a position counted in samples, linear between samples and level
after the last one. -/
def profileHeight (samples : Array α) (position : α) : α :=
  let last := samples.size - 1
  let i := min (Scalar.count (Scalar.floor position)) last
  let j := min (i + 1) last
  let here := samples.getD i 0.0
  let there := samples.getD j 0.0
  here + (there - here) * Scalar.clamp (position - Scalar.ofNat i) 0.0 1.0

/-- What the bodies of a scene share. -/
structure Geometry (α : Type) where
  /-- The discs around the bodies placed so far. -/
  zones : List (Zone α)
  /-- The terrain in front: the height of its surface at regular distances from the left. -/
  horizon : Array α
  /-- The distance between two samples of the terrain. -/
  horizonStep : α
  /-- The seed of the terrain noise. -/
  noiseSeed : UInt32
  deriving Repr

namespace Geometry

/-- The geometry of a scene before its first body. -/
def empty (noiseSeed : UInt32) : Geometry α := ⟨[], #[], 0.0, noiseSeed⟩

/-- The height of the terrain at `x`, if there is terrain. -/
def groundAt (g : Geometry α) (x : α) : Option α :=
  if g.horizon.isEmpty || decide (g.horizonStep ≤ 0.0) then none
  else some (profileHeight g.horizon (Scalar.greatest (x / g.horizonStep) 0.0))

/-- Whether a point is more than `pad` away from every zone. -/
def isClear (g : Geometry α) (x y pad : α) : Bool := g.zones.all fun zone => !zone.contains x y pad

/-- Tries `attempts` proposals in turn, and gives the first that is clear of all zones. -/
def placeClear (g : Geometry α) (pad : α) (propose : Draw σ (α × α)) :
    Nat → Draw σ (Option (α × α))
  | 0 => return none
  | attempts + 1 => do
    let point ← propose
    if g.isClear point.1 point.2 pad then return some point
    placeClear g pad propose attempts

end Geometry

end Ambience
