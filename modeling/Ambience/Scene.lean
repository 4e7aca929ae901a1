import Ambience.Theme

/-!
# Scenes

The state of everything that one animation simulates: the bodies of each layer, what they share,
and the clock and wind of the scene.
-/

namespace Ambience

/-- A body with its identity, which no other body of the same engine ever has. -/
structure Entity (α : Type) where
  id : Nat
  body : Body α
  deriving Repr

/-- One layer with the bodies it holds now. -/
structure Layer (α : Type) where
  spec : LayerSpec α
  entities : List (Entity α)
  emitter : Emitter α
  deriving Repr

/-- Everything an animation simulates. -/
structure Scene (α : Type) where
  bounds : Bounds α
  /-- Simulated seconds since the scene was built. -/
  time : α
  /-- Updates since the scene was built. -/
  frame : Nat
  /-- The wind that drifting bodies share, in pixels per nominal frame. -/
  wind : α
  /-- What the wind eases toward. -/
  windTarget : α
  /-- In the order in which they were built. -/
  layers : List (Layer α)
  geometry : Geometry α
  /-- The identity of the next new body. -/
  nextId : Nat
  deriving Repr

namespace Scene

variable {α : Type} [Scalar α]

/-- A scene without layers. -/
def empty (bounds : Bounds α) : Scene α where
  bounds
  time := 0.0
  frame := 0
  wind := 0.0
  windTarget := 0.0
  layers := []
  geometry := .empty 0
  nextId := 1

/-- How many bodies the scene holds. -/
def entityCount (scene : Scene α) : Nat :=
  (scene.layers.flatMap fun layer => layer.entities).length

/-- The depth of the `i`-th layer. -/
def depthAt (scene : Scene α) (i : Nat) : Nat :=
  (scene.layers[i]?.map fun layer => layer.spec.depth).getD 0

/-- The places of the layers in the order of drawing: by depth, and as built for equal depths. -/
def drawOrder (scene : Scene α) : List Nat :=
  (List.range scene.layers.length).mergeSort fun i j => decide (scene.depthAt i ≤ scene.depthAt j)

end Scene

end Ambience
