import Ambience.Body
import Ambience.Event
import Ambience.Scene

/-!
# The engine

An engine runs one theme: it builds a scene for the size of a view and advances it. Bodies are born
in a nursery, which keeps what births share and change: the source of randomness, the geometry of
the scene and the next identity.
-/

namespace Ambience

variable {α σ : Type} [Scalar α] [Words σ] [Units σ α]

/-! ## Births -/

/-- What births share. -/
structure Nursery (α σ : Type) where
  source : σ
  geometry : Geometry α
  nextId : Nat

/-- A computation in which bodies are born. -/
abbrev Nursing (α σ : Type) := StateT (Nursery α σ) (Except Fault)

namespace Nursery

/-- The birth of a body, which gets the next identity; a body without a place gets none. -/
def bear (kind : Kind) (site : Site α) : Nursing α σ (Option (Entity α)) := fun nursery => do
  let ((body, geometry), source) ← (kind.spawn site nursery.geometry).run nursery.source
  match body with
  | none => return (none, { nursery with source, geometry })
  | some body =>
    return (some ⟨nursery.nextId, body⟩, { source, geometry, nextId := nursery.nextId + 1 })

/-- A draw that is not a birth. -/
def draw {β : Type} (computation : Draw σ β) : Nursing α σ β := fun nursery => do
  let (result, source) ← computation.run nursery.source
  return (result, { nursery with source })

/-- The births of the slots from `slot` on, `remaining` of them, in order: the bodies that found a
place and the slots that did not. -/
def fill (kind : Kind) (site : Nat → Site α) :
    Nat → Nat → Nursing α σ (List (Entity α) × List Nat)
  | 0, _ => return ([], [])
  | remaining + 1, slot => do
    let born ← bear kind (site slot)
    let (entities, missing) ← fill kind site remaining (slot + 1)
    match born with
    | some entity => return (entity :: entities, missing)
    | none => return (entities, slot :: missing)

end Nursery

/-! ## Layers -/

namespace Layer

/-- The site of a slot of a layer. -/
def site (spec : LayerSpec α) (bounds : Bounds α) (wind : α) (origin : Origin) (population : Nat)
    (slot : Nat) : Site α :=
  { bounds, origin, slot, population, depth := spec.depth, wind }

/-- A new layer, and the slots that found no place. -/
def build (spec : LayerSpec α) (bounds : Bounds α) (wind scale : α) :
    Nursing α σ (Layer α × List Nat) := do
  let population := spec.density.population bounds scale
  let (entities, missing) ←
    Nursery.fill spec.kind (site spec bounds wind .scatter population) population 0
  return ({ spec, entities, emitter := .idle }, missing)

/-- Each body after a step, with its fate. -/
def stepAll (tick : Tick α) : List (Entity α) → Draw σ (List (Entity α × Fate))
  | [] => return []
  | entity :: later => do
    let (body, fate) ← entity.body.step tick
    let stepped ← stepAll tick later
    return (({ entity with body }, fate) :: stepped)

/-- Puts a new body in the place of each expired one, in order from place `i` on. A place whose new
body finds no room is given up. -/
def renew (kind : Kind) (site : Nat → Site α) :
    Nat → List (Entity α × Fate) → Nursing α σ (List (Entity α))
  | _, [] => return []
  | i, (entity, fate) :: later => do
    let kept ←
      match fate with
      | .alive => pure [entity]
      | .expired => do pure (← Nursery.bear kind (site i)).toList
    let renewed ← renew kind site (i + 1) later
    return kept ++ renewed

/-- The bodies that are still alive. -/
def alive (stepped : List (Entity α × Fate)) : List (Entity α) :=
  stepped.filterMap fun (entity, fate) => if fate = .alive then some entity else none

/-- A layer after one update, and how many bodies were dropped over its cap. Expired bodies of a
lasting layer are replaced; those of a transient layer are removed, and new ones are emitted. -/
def advance (layer : Layer α) (tick : Tick α) : Nursing α σ (Layer α × Nat) := do
  let spec := layer.spec
  let stepped ← Nursery.draw (stepAll tick layer.entities)
  match spec.density with
  | .spawned rate cap =>
    let (due, emitter) := layer.emitter.due rate tick.step
    let (born, _) ← Nursery.fill spec.kind (site spec tick.bounds tick.wind .enter due) due 0
    let entities := alive stepped ++ born
    return ({ layer with entities := newest entities cap, emitter }, excess entities cap)
  | _ =>
    let population := stepped.length
    let entities ← renew spec.kind (site spec tick.bounds tick.wind .enter population) 0 stepped
    return ({ layer with entities }, 0)

/-- The new layers of a theme, in order. -/
def buildAll (bounds : Bounds α) (wind scale : α) :
    List (LayerSpec α) → Nursing α σ (List (Layer α × List Nat))
  | [] => return []
  | spec :: later => do
    let first ← build spec bounds wind scale
    let rest ← buildAll bounds wind scale later
    return first :: rest

/-- All layers after one update, in order. -/
def advanceAll (tick : Tick α) : List (Layer α) → Nursing α σ (List (Layer α × Nat))
  | [] => return []
  | layer :: later => do
    let first ← layer.advance tick
    let rest ← advanceAll tick later
    return first :: rest

end Layer

/-! ## Engines -/

/-- Tuning that is not part of a theme. -/
structure Tuning (α : Type) where
  /-- The factor of populations, from a half to two. -/
  scale : α
  /-- The seed of all randomness. Where none is given the surroundings choose one. -/
  seed : Option UInt64

/-- The tuning that changes nothing. -/
def Tuning.neutral : Tuning α := ⟨1.0, none⟩

/-- One running theme. -/
structure Engine (α σ : Type) where
  theme : Theme α
  scale : α
  source : σ
  scene : Scene α

namespace Engine

/-- The updates between two choices of the wind. -/
def windPeriod : Nat := 180

/-- The wind of a new scene: the middle of its range. -/
def meanWind (theme : Theme α) : α := (theme.windLow + theme.windHigh) * 0.5

/-- The engine with a new scene for a view. Nothing of the old scene is kept, save that identities
go on from where they were. -/
def rebuild (engine : Engine α σ) (width height : α) : Except Fault (Engine α σ × List (Event α)) := do
  let bounds := Bounds.of width height
  let (noiseSeed, source) := Words.word engine.source
  let wind := meanWind engine.theme
  let nextId := max 1 engine.scene.nextId
  let (built, nursery) ← (Layer.buildAll bounds wind engine.scale engine.theme.layers).run
    { source, geometry := .empty noiseSeed, nextId }
  let layers := built.map Prod.fst
  let scene : Scene α :=
    { bounds, time := 0.0, frame := 0, wind, windTarget := wind, layers
      geometry := nursery.geometry, nextId := nursery.nextId }
  let missing := built.flatMap fun (layer, slots) => slots.map (.placeMissing layer.spec.kind)
  let finished := .sceneBuilt engine.theme.name bounds.width bounds.height scene.entityCount
  return ({ engine with source := nursery.source, scene }, missing ++ [finished])

/-- An engine with its first scene, at the start of the random stream of a seed. -/
def start (theme : Theme α) (scale : α) (seed : UInt64) (width height : α) :
    Except Fault (Engine α σ × List (Event α)) :=
  rebuild
    { theme, scale := Scalar.clamp scale 0.5 2.0, source := Words.ofSeed seed
      scene := .empty (Bounds.of width height) }
    width height

/-- What the wind eases toward in the given frame: a new choice in the first frame of each
period. -/
def nextWindTarget (theme : Theme α) (scene : Scene α) (frame : Nat) : Draw σ α :=
  if frame % windPeriod = 1 then Draw.span theme.windLow theme.windHigh
  else return scene.windTarget

/-- The engine after the given seconds. -/
def update (engine : Engine α σ) (seconds : α) :
    Except Fault (Engine α σ × List (Event α)) := do
  let scene := engine.scene
  let step := Motion.stepOf seconds
  let time := scene.time + step * Motion.nominalFrame
  let frame := scene.frame + 1
  let (windTarget, source) ← (nextWindTarget engine.theme scene frame).run engine.source
  let wind := Motion.ease scene.wind windTarget (Scalar.least (0.01 * step) 1.0)
  let (advanced, nursery) ← (Layer.advanceAll ⟨step, scene.bounds, wind⟩ scene.layers).run
    { source, geometry := scene.geometry, nextId := scene.nextId }
  let layers := advanced.map Prod.fst
  let scene : Scene α :=
    { scene with
      time, frame, wind, windTarget, layers
      geometry := nursery.geometry, nextId := nursery.nextId }
  let events := advanced.filterMap fun (layer, dropped) =>
    if 0 < dropped then some (.overCap layer.spec.kind dropped) else none
  return ({ engine with source := nursery.source, scene }, events)

end Engine

end Ambience
