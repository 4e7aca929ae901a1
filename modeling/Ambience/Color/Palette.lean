import Ambience.Color.Gradient

/-!
# Palettes

A palette is the complete colour scheme of one side of a theme, dark or light.
-/

namespace Ambience

/-- A colour scheme. -/
structure Palette (α : Type) where
  background : Rgb
  /-- The colours that bodies refer to by number. -/
  colors : Array Rgb
  /-- The colour of a short-lived body over its life, 0 at birth and 1 at death. -/
  ramp : Gradient α

/-- The colour of a number, counting round and round; a palette without colours gives its
background. -/
def Palette.color {α : Type} (palette : Palette α) (index : Nat) : Rgb :=
  palette.colors.getD (index % palette.colors.size) palette.background

/-- The two schemes of a theme. -/
structure Palettes (α : Type) where
  dark : Palette α
  light : Palette α

/-- The scheme of a side, whole and never blended. -/
def Palettes.pick {α : Type} (palettes : Palettes α) (dark : Bool) : Palette α :=
  if dark then palettes.dark else palettes.light

end Ambience
