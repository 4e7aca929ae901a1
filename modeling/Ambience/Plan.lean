import Ambience.CommandLine
import Ambience.Config
import Ambience.Controls
import Ambience.Engine
import Ambience.Theme.Catalog

/-!
# Plans

A plan is everything that a session is played with. What the command line says goes before what the
settings file says, and both go before the defaults.
-/

namespace Ambience

/-- Everything that a session is played with. -/
structure Plan (α : Type) where
  theme : Theme α
  dark : Bool
  opacity : α
  mode : ColorMode
  quantum : UInt8
  /-- The most frames in a second. -/
  fps : Nat
  /-- After how many seconds the theme changes by itself; never, if this is zero. -/
  cycle : Nat
  /-- Whether the status bar is hidden at first. -/
  clean : Bool
  tuning : Tuning α

namespace Plan

variable {α : Type} [Scalar α]

/-- The name of the theme that is wanted. -/
def themeName (line : CommandLine α) (config : Config α) : String :=
  (line.theme <|> config.theme).getD "snowfall"

/-- A frame rate brought into the range from 1 to 120. -/
def clampFps (fps : Nat) : Nat := min (max fps 1) 120

/-- The plan of a command line and a settings file, if the theme exists. -/
def resolve (line : CommandLine α) (config : Config α) : Except ThemeError (Plan α) := do
  let theme ← Theme.find (themeName line config)
  return {
    theme
    dark := !(line.light || config.light.getD false)
    opacity := (line.opacity <|> config.opacity).getD Opacity.neutral
    mode := (line.color <|> config.color).getD .trueColor
    quantum := (line.colorQuant <|> config.colorQuant).getD 0
    fps := clampFps ((line.fps <|> config.fps).getD 30).toNat
    cycle := ((line.cycle <|> config.cycle).getD 0).toNat
    clean := line.clean || config.clean.getD false
    tuning := {
      scale := Scalar.clamp ((line.scale <|> config.scale).getD 1.0) 0.5 2.0
      seed := line.seed <|> config.seed } }

/-- The controls that a session starts with. -/
def controls (plan : Plan α) : Controls α := Controls.of plan.dark plan.opacity true

end Plan

end Ambience
