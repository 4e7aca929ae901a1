import Ambience.Body
import Ambience.Controls
import Ambience.Engine

/-!
# Pictures

The picture of a scene is the list of calls that draw it: everything is covered with the background
first, then the bodies follow from the back to the front.
-/

namespace Ambience

variable {α σ : Type} [Scalar α]

/-- The calls that draw the bodies of a layer, each body's calls in one piece. -/
def Layer.draw (layer : Layer α) (pen : Pen α) : List (DrawCall α) :=
  layer.entities.flatMap fun entity => entity.body.draw pen

/-- The calls that draw all bodies of a scene, back to front. -/
def Scene.draw (scene : Scene α) (pen : Pen α) : List (DrawCall α) :=
  scene.drawOrder.flatMap fun i => (scene.layers[i]?.map fun layer => layer.draw pen).getD []

/-- The pen that draws a scene on a surface of an extent. -/
def Scene.pen (scene : Scene α) (palette : Palette α) (opacity width height : α) : Pen α where
  palette
  opacity
  time := scene.time
  wind := scene.wind
  bounds := Bounds.of width height
  geometry := scene.geometry

/-- The picture of the engine's scene on a surface of an extent. -/
def Engine.picture (engine : Engine α σ) (controls : Controls α) (width height : α) :
    List (DrawCall α) :=
  let palette := engine.theme.palettes.pick controls.dark
  .clear palette.background ::
    engine.scene.draw (engine.scene.pen palette controls.opacity width height)

end Ambience
