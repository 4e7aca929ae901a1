import Ambience.Geometry
import Ambience.Oscillator
import Ambience.Wander

/-!
# Bodies

A scene is made of bodies of fifteen kinds. A body is a plain record; its rules stand in the
modules named for how bodies come and go: `Drifting`, `Wandering`, `Rooted` and `Fleeting`.
-/

namespace Ambience

/-- The kinds of bodies. -/
inductive Kind where
  | flake | petal | firefly | star | koi | ripple | stone | rake | glow | ember | stalk | leaf
  | ridge | cactus | grain
  deriving DecidableEq, Repr

/-! ## Records -/

/-- A snowflake. Depth `z` is 1 for the nearest. -/
structure Flake (α : Type) where
  x : α
  y : α
  z : α
  speed : α
  size : α
  opacity : α
  sway : Oscillator α
  deriving Repr

/-- A flat thing that turns over as it falls: a petal or a leaf. -/
structure Tumbler (α : Type) where
  x : α
  y : α
  vx : α
  vy : α
  rotation : α
  spin : α
  size : α
  opacity : α
  shade : Nat
  flutter : Oscillator α
  deriving Repr

/-- A firefly. -/
structure Firefly (α : Type) where
  x : α
  y : α
  heading : α
  speed : α
  radius : α
  opacity : α
  wander : Wander α
  blink : Oscillator α
  deriving Repr

/-- A star. -/
structure Star (α : Type) where
  x : α
  y : α
  z : α
  speed : α
  size : α
  opacity : α
  twinkle : Oscillator α
  deriving Repr

/-- A koi. -/
structure Koi (α : Type) where
  x : α
  y : α
  heading : α
  speed : α
  length : α
  opacity : α
  variant : Nat
  wander : Wander α
  tail : Oscillator α
  deriving Repr

/-- A ripple on water. -/
structure Ripple (α : Type) where
  x : α
  y : α
  radius : α
  maxRadius : α
  growth : α
  opacity : α
  deriving Repr

/-- A garden stone. -/
structure Stone (α : Type) where
  x : α
  y : α
  radius : α
  opacity : α
  shade : Nat
  deriving Repr

/-- A raked groove across the sand. -/
structure Rake (α : Type) where
  y : α
  opacity : α
  wave : Oscillator α
  deriving Repr

/-- The glow of a fire. -/
structure Glow (α : Type) where
  x : α
  y : α
  radius : α
  opacity : α
  pulse : Oscillator α
  deriving Repr

/-- A particle with a limited life: an ember or a grain of sand. -/
structure Mote (α : Type) where
  x : α
  y : α
  vx : α
  vy : α
  size : α
  opacity : α
  /-- The nominal frames left. -/
  life : α
  maxLife : α
  wobble : Oscillator α
  deriving Repr

/-- A bamboo stalk. -/
structure Stalk (α : Type) where
  x : α
  base : α
  height : α
  width : α
  z : α
  nodes : Nat
  opacity : α
  shade : Nat
  sway : Oscillator α
  deriving Repr

/-- A sand ridge: the heights of its surface, in regular distances from the left edge. -/
structure Ridge (α : Type) where
  profile : Array α
  /-- The distance between two samples of the profile. -/
  spacing : α
  opacity : α
  shade : Nat
  shimmer : Oscillator α
  deriving Repr

/-- A cactus. -/
structure Cactus (α : Type) where
  x : α
  base : α
  height : α
  arms : Nat
  opacity : α
  deriving Repr

/-- A body of any kind. -/
inductive Body (α : Type) where
  | flake (record : Flake α)
  | petal (record : Tumbler α)
  | firefly (record : Firefly α)
  | star (record : Star α)
  | koi (record : Koi α)
  | ripple (record : Ripple α)
  | stone (record : Stone α)
  | rake (record : Rake α)
  | glow (record : Glow α)
  | ember (record : Mote α)
  | stalk (record : Stalk α)
  | leaf (record : Tumbler α)
  | ridge (record : Ridge α)
  | cactus (record : Cactus α)
  | grain (record : Mote α)
  deriving Repr

/-- The kind of a body. -/
def Body.kind {α : Type} : Body α → Kind
  | flake _ => .flake
  | petal _ => .petal
  | firefly _ => .firefly
  | star _ => .star
  | koi _ => .koi
  | ripple _ => .ripple
  | stone _ => .stone
  | rake _ => .rake
  | glow _ => .glow
  | ember _ => .ember
  | stalk _ => .stalk
  | leaf _ => .leaf
  | ridge _ => .ridge
  | cactus _ => .cactus
  | grain _ => .grain

/-- The point that a body is anchored at, for the kinds that have one. -/
def Body.position? {α : Type} : Body α → Option (α × α)
  | flake e => some (e.x, e.y)
  | petal e => some (e.x, e.y)
  | firefly e => some (e.x, e.y)
  | star e => some (e.x, e.y)
  | koi e => some (e.x, e.y)
  | ripple e => some (e.x, e.y)
  | stone e => some (e.x, e.y)
  | rake _ => none
  | glow e => some (e.x, e.y)
  | ember e => some (e.x, e.y)
  | stalk e => some (e.x, e.base)
  | leaf e => some (e.x, e.y)
  | ridge _ => none
  | cactus e => some (e.x, e.base)
  | grain e => some (e.x, e.y)

/-! ## Birth and step -/

/-- Where a new body appears. -/
inductive Origin where
  /-- Anywhere in the view or just around it, when a scene is built. -/
  | scatter
  /-- At the edge that its kind enters from, later on. -/
  | enter
  deriving DecidableEq, Repr

/-- What a new body is fitted to. -/
structure Site (α : Type) where
  bounds : Bounds α
  origin : Origin
  /-- The place of the body within its layer, from 0. -/
  slot : Nat
  /-- How many places the layer has. -/
  population : Nat
  /-- The depth of the layer. -/
  depth : Nat
  wind : α

/-- What a body meets in one update. -/
structure Tick (α : Type) where
  /-- Nominal frames that pass. -/
  step : α
  bounds : Bounds α
  wind : α

/-- What an update leaves of a body. -/
inductive Fate where
  | alive
  /-- It left the view, ran out of life or outgrew its size. -/
  | expired
  deriving DecidableEq, Repr

/-- Expired if a condition holds, alive otherwise. -/
def Fate.expiredIf (condition : Bool) : Fate := if condition then .expired else .alive

end Ambience
