import Ambience.Body.Drifting
import Ambience.Body.Fleeting
import Ambience.Body.Rooted
import Ambience.Body.Wandering

/-!
# The rules of a body

Birth, step and drawing of a body of any kind.
-/

namespace Ambience

variable {σ α : Type} [Scalar α] [Words σ] [Units σ α]

/-- A placed body with its zone entered into the geometry, or nothing and the geometry as it
was. -/
def Geometry.enter {β : Type} (geometry : Geometry α) (body : β → Body α) :
    Option (β × Zone α) → Option (Body α) × Geometry α
  | none => (none, geometry)
  | some (record, zone) =>
    (some (body record), { geometry with zones := geometry.zones ++ [zone] })

/-- A new body of a kind, and the geometry with it. Only the kinds that are placed clear of others
can fail to find room. -/
def Kind.spawn (kind : Kind) (site : Site α) (geometry : Geometry α) :
    Draw σ (Option (Body α) × Geometry α) :=
  let free {β : Type} (body : β → Body α) (birth : Draw σ β) :
      Draw σ (Option (Body α) × Geometry α) := do return (some (body (← birth)), geometry)
  match kind with
  | .flake => free .flake (Flake.spawn site)
  | .petal => free .petal (Tumbler.spawnPetal site)
  | .leaf => free .leaf (Tumbler.spawnLeaf site)
  | .firefly => free .firefly (Firefly.spawn site)
  | .star => free .star (Star.spawn site)
  | .koi => free .koi (Koi.spawn site)
  | .ripple => free .ripple (Ripple.spawn site)
  | .stone => do return geometry.enter .stone (← Stone.spawn site geometry)
  | .rake => free .rake (Rake.spawn site)
  | .glow => free .glow (Glow.spawn site)
  | .ember => free .ember (Mote.spawnEmber site)
  | .stalk => free .stalk (Stalk.spawn site)
  | .ridge => do
    let (born, geometry) ← Ridge.spawn site geometry
    return (some (.ridge born), geometry)
  | .cactus => do return geometry.enter .cactus (← Cactus.spawn site geometry)
  | .grain => free .grain (Mote.spawnGrain site)

namespace Body

/-- A body after one update, and what has become of it. -/
def step (body : Body α) (tick : Tick α) : Draw σ (Body α × Fate) :=
  let settled {β : Type} (wrap : β → Body α) (outcome : β × Fate) : Draw σ (Body α × Fate) :=
    return (wrap outcome.1, outcome.2)
  match body with
  | .flake e => settled .flake (e.step tick)
  | .petal e => settled .petal (e.stepPetal tick)
  | .leaf e => settled .leaf (e.stepLeaf tick)
  | .firefly e => do settled .firefly (← e.step tick)
  | .star e => settled .star (e.step tick)
  | .koi e => do settled .koi (← e.step tick)
  | .ripple e => settled .ripple (e.step tick)
  | .stone e => return (.stone e, .alive)
  | .rake e => settled .rake (e.step tick)
  | .glow e => settled .glow (e.step tick)
  | .ember e => settled .ember (e.stepEmber tick)
  | .stalk e => settled .stalk (e.step tick)
  | .ridge e => settled .ridge (e.step tick)
  | .cactus e => return (.cactus e, .alive)
  | .grain e => settled .grain (e.stepGrain tick)

/-- The calls that draw a body. -/
def draw (body : Body α) (pen : Pen α) : List (DrawCall α) :=
  match body with
  | .flake e => e.draw pen
  | .petal e => e.drawPetal pen
  | .leaf e => e.drawLeaf pen
  | .firefly e => e.draw pen
  | .star e => e.draw pen
  | .koi e => e.draw pen
  | .ripple e => e.draw pen
  | .stone e => e.draw pen
  | .rake e => e.draw pen
  | .glow e => e.draw pen
  | .ember e => e.drawEmber pen
  | .stalk e => e.draw pen
  | .ridge e => e.draw pen
  | .cactus e => e.draw pen
  | .grain e => e.drawGrain pen

end Body

end Ambience
