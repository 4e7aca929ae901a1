import Ambience.Body.Basic
import Ambience.Color.Palette
import Ambience.Density

/-!
# Themes

A theme is pure data: two palettes, the range of the wind, and the layers that its scenes are built
from.
-/

namespace Ambience

/-- The description of one layer: all its bodies are of one kind. -/
structure LayerSpec (α : Type) where
  kind : Kind
  /-- Layers are drawn in order of depth, the lowest first. -/
  depth : Nat
  density : Density α
  deriving Repr

/-- A kind of scenery. -/
structure Theme (α : Type) where
  name : String
  description : String
  palettes : Palettes α
  /-- The lower end of the range that wind is chosen from, in pixels per nominal frame. -/
  windLow : α
  /-- The upper end of that range. -/
  windHigh : α
  /-- In the order in which a scene is built. -/
  layers : List (LayerSpec α)

/-- Why a theme could not be chosen. -/
inductive ThemeError where
  /-- No theme has the name. -/
  | unknown (name : String)
  deriving DecidableEq, Repr

/-- The wording of an error. -/
def ThemeError.message : ThemeError → String
  | .unknown name => s!"unknown theme '{name}' (try --list)"

end Ambience
