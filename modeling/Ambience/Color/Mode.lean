/-!
# Colour modes

How many colours a terminal is asked to show.
-/

namespace Ambience

/-- A way of showing colours. -/
inductive ColorMode where
  /-- No colours: shapes stand out from the background by their glyphs. -/
  | mono
  /-- The sixteen named colours. -/
  | ansi16
  /-- The 256 numbered colours. -/
  | ansi256
  /-- Any 24-bit colour. -/
  | trueColor
  deriving DecidableEq, Repr

namespace ColorMode

/-- The name of a mode, as it is written in settings. -/
def name : ColorMode → String
  | mono => "mono"
  | ansi16 => "ansi16"
  | ansi256 => "ansi256"
  | trueColor => "true-color"

/-- All modes, from the poorest to the richest. -/
def all : List ColorMode := [mono, ansi16, ansi256, trueColor]

/-- The mode of exactly this name. -/
def ofName? (name : String) : Option ColorMode := all.find? fun mode => mode.name == name

/-- The next poorer mode; after the poorest comes the richest. -/
def next : ColorMode → ColorMode
  | trueColor => ansi256
  | ansi256 => ansi16
  | ansi16 => mono
  | mono => trueColor

end ColorMode

end Ambience
