import Ambience.Noise.Permutation
import Ambience.Scalar

/-!
# Gradient noise over the plane

Each lattice point has one of four diagonal directions, chosen through a permutation. The noise at
a point blends the slopes of the four surrounding lattice points with a curve that is flat at both
ends, and is scaled to the range from -1 to 1.
-/

namespace Ambience.Noise

variable {α : Type} [Scalar α]

open Scalar

/-- The lattice line at or before a coordinate. Up to zero it is the one before the whole part, so
a whole coordinate that is not positive lies at distance one from its line. -/
def corner (x : α) : Int := if x ≤ 0.0 then toInt x - 1 else toInt x

/-- The slope of a lattice direction at an offset from its point. -/
def slope (direction : UInt8) (x y : α) : α :=
  match (direction &&& 3).toNat with
  | 0 => x + y
  | 1 => -x + y
  | 2 => x - y
  | _ => -x - y

/-- The direction of a lattice point. -/
def direction (p : Permutation) (column row : Int) : UInt8 :=
  p.image (p.image (UInt8.ofNat (column % 256).toNat) ^^^ UInt8.ofNat (row % 256).toNat)

/-- The blending curve: from 0 to 1 with vanishing slope and curvature at both ends. -/
def blend (t : α) : α :=
  let t := clamp t 0.0 1.0
  t * t * t * (t * (t * 6.0 - 15.0) + 10.0)

/-- The point `t` of the way from `a` to `b`. -/
def along (a b t : α) : α := b * t + a * (1.0 - t)

/-- The noise of a permutation at a point. -/
def sample (p : Permutation) (x y : α) : α :=
  let column := corner x
  let row := corner y
  let dx := x - ofInt column
  let dy := y - ofInt row
  let slopeAt (right below : Int) : α :=
    slope (direction p (column + right) (row + below)) (dx - ofInt right) (dy - ofInt below)
  let left := along (slopeAt 0 0) (slopeAt 0 1) (blend dy)
  let right := along (slopeAt 1 0) (slopeAt 1 1) (blend dy)
  clamp (along left right (blend dx) * (2.0 / sqrt 2.0)) (-1.0) 1.0

end Ambience.Noise
