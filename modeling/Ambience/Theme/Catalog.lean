import Ambience.Text.Blank
import Ambience.Theme

/-!
# The catalogue of themes

The nine themes in their order, choosing one by name, and stepping through them in a circle.
-/

namespace Ambience.Theme

variable {α : Type} [Scalar α]

/-! ## Ramps -/

/-- The ramp of themes whose bodies do not change colour with age. -/
def fade : Gradient α := [⟨0.0, ⟨255, 255, 255⟩⟩, ⟨1.0, ⟨160, 160, 160⟩⟩]

/-- White-hot to dull red, on a dark background. -/
def emberDark : Gradient α :=
  [⟨0.0, ⟨255, 250, 200⟩⟩, ⟨0.3, ⟨255, 190, 60⟩⟩, ⟨0.7, ⟨230, 80, 20⟩⟩, ⟨1.0, ⟨90, 20, 10⟩⟩]

/-- White-hot to dull red, on a light background. -/
def emberLight : Gradient α :=
  [⟨0.0, ⟨250, 170, 60⟩⟩, ⟨0.5, ⟨220, 90, 30⟩⟩, ⟨1.0, ⟨120, 50, 40⟩⟩]

/-! ## The themes -/

/-- Snow drifting down with depth parallax. -/
def snowfall : Theme α where
  name := "snowfall"
  description := "Snow drifting down with depth parallax"
  palettes :=
    { dark :=
        { background := ⟨8, 12, 24⟩
          colors := #[⟨235, 242, 255⟩, ⟨170, 200, 255⟩, ⟨200, 215, 240⟩,
            ⟨120, 140, 170⟩, ⟨20, 28, 48⟩, ⟨255, 255, 255⟩]
          ramp := fade }
      light :=
        { background := ⟨226, 234, 244⟩
          colors := #[⟨120, 140, 170⟩, ⟨90, 120, 170⟩, ⟨150, 165, 190⟩,
            ⟨80, 95, 120⟩, ⟨200, 210, 225⟩, ⟨60, 70, 90⟩]
          ramp := fade } }
  windLow := -0.4
  windHigh := 0.6
  layers := [⟨.flake, 0, .area 15000.0 0⟩]

/-- Cherry blossom petals tumbling in gusts. -/
def sakura : Theme α where
  name := "sakura"
  description := "Cherry blossom petals tumbling in gusts"
  palettes :=
    { dark :=
        { background := ⟨24, 14, 28⟩
          colors := #[⟨255, 183, 197⟩, ⟨255, 160, 180⟩, ⟨250, 210, 220⟩,
            ⟨230, 130, 160⟩, ⟨110, 70, 90⟩, ⟨255, 235, 240⟩]
          ramp := fade }
      light :=
        { background := ⟨252, 240, 243⟩
          colors := #[⟨230, 120, 150⟩, ⟨214, 96, 130⟩, ⟨240, 160, 180⟩,
            ⟨200, 80, 120⟩, ⟨170, 120, 135⟩, ⟨255, 200, 215⟩]
          ramp := fade } }
  windLow := 0.2
  windHigh := 1.4
  layers := [⟨.petal, 0, .area 22000.0 12⟩]

/-- Fireflies wandering and blinking at dusk. -/
def fireflies : Theme α where
  name := "fireflies"
  description := "Fireflies wandering and blinking at dusk"
  palettes :=
    { dark :=
        { background := ⟨6, 12, 10⟩
          colors := #[⟨230, 255, 140⟩, ⟨180, 230, 90⟩, ⟨255, 240, 170⟩,
            ⟨90, 120, 60⟩, ⟨10, 20, 14⟩, ⟨255, 255, 210⟩]
          ramp := fade }
      light :=
        { background := ⟨232, 240, 222⟩
          colors := #[⟨150, 170, 40⟩, ⟨190, 200, 80⟩, ⟨130, 150, 30⟩,
            ⟨90, 110, 50⟩, ⟨200, 210, 190⟩, ⟨110, 130, 20⟩]
          ramp := fade } }
  windLow := 0.0
  windHigh := 0.0
  layers := [⟨.firefly, 0, .area 40000.0 12⟩]

/-- Twinkling stars drifting past at different depths. -/
def starfield : Theme α where
  name := "starfield"
  description := "Twinkling stars drifting past at different depths"
  palettes :=
    { dark :=
        { background := ⟨2, 3, 10⟩
          colors := #[⟨200, 210, 255⟩, ⟨255, 255, 255⟩, ⟨255, 220, 180⟩,
            ⟨140, 150, 200⟩, ⟨10, 10, 30⟩, ⟨230, 235, 255⟩]
          ramp := fade }
      light :=
        { background := ⟨236, 238, 246⟩
          colors := #[⟨110, 120, 170⟩, ⟨60, 70, 130⟩, ⟨150, 120, 90⟩,
            ⟨130, 140, 180⟩, ⟨210, 214, 230⟩, ⟨80, 90, 140⟩]
          ramp := fade } }
  windLow := 0.0
  windHigh := 0.0
  layers := [⟨.star, 0, .area 6000.0 40⟩]

/-- Koi gliding through a pond with spreading ripples. -/
def koi : Theme α where
  name := "koi"
  description := "Koi gliding through a pond with spreading ripples"
  palettes :=
    { dark :=
        { background := ⟨6, 24, 32⟩
          colors := #[⟨255, 120, 40⟩, ⟨245, 245, 240⟩, ⟨230, 60, 40⟩,
            ⟨255, 200, 150⟩, ⟨2, 10, 14⟩, ⟨120, 180, 200⟩]
          ramp := fade }
      light :=
        { background := ⟨200, 228, 232⟩
          colors := #[⟨235, 100, 30⟩, ⟨250, 250, 245⟩, ⟨200, 40, 30⟩,
            ⟨240, 170, 120⟩, ⟨120, 160, 170⟩, ⟨90, 150, 170⟩]
          ramp := fade } }
  windLow := 0.0
  windHigh := 0.0
  layers := [⟨.ripple, 0, .width 300.0 3⟩,
    ⟨.koi, 1, .width 260.0 3⟩]

/-- Raked sand garden flowing around placed stones. -/
def zen : Theme α where
  name := "zen"
  description := "Raked sand garden flowing around placed stones"
  palettes :=
    { dark :=
        { background := ⟨22, 20, 18⟩
          colors := #[⟨110, 108, 104⟩, ⟨90, 86, 80⟩, ⟨130, 124, 116⟩,
            ⟨70, 66, 60⟩, ⟨8, 8, 6⟩, ⟨170, 165, 155⟩]
          ramp := fade }
      light :=
        { background := ⟨232, 224, 206⟩
          colors := #[⟨120, 116, 108⟩, ⟨96, 92, 86⟩, ⟨140, 134, 124⟩,
            ⟨196, 186, 164⟩, ⟨150, 142, 126⟩, ⟨210, 205, 195⟩]
          ramp := fade } }
  windLow := 0.0
  windHigh := 0.0
  layers := [⟨.stone, 1, .area 120000.0 3⟩,
    ⟨.rake, 0, .height 28.0 0⟩]

/-- Embers rising from a banked fire. -/
def embers : Theme α where
  name := "embers"
  description := "Embers rising from a banked fire"
  palettes :=
    { dark :=
        { background := ⟨14, 6, 4⟩
          colors := #[⟨255, 110, 30⟩, ⟨255, 180, 60⟩, ⟨200, 60, 20⟩,
            ⟨120, 40, 10⟩, ⟨6, 2, 0⟩, ⟨255, 230, 160⟩]
          ramp := emberDark }
      light :=
        { background := ⟨246, 232, 220⟩
          colors := #[⟨240, 130, 60⟩, ⟨230, 150, 70⟩, ⟨200, 80, 40⟩,
            ⟨160, 70, 40⟩, ⟨220, 200, 190⟩, ⟨250, 180, 100⟩]
          ramp := emberLight } }
  windLow := -0.3
  windHigh := 0.3
  layers := [⟨.glow, 0, .fixed 1⟩,
    ⟨.ember, 1, .spawned 1.2 200⟩]

/-- Layered bamboo grove swaying with falling leaves. -/
def bamboo : Theme α where
  name := "bamboo"
  description := "Layered bamboo grove swaying with falling leaves"
  palettes :=
    { dark :=
        { background := ⟨8, 16, 10⟩
          colors := #[⟨30, 60, 36⟩, ⟨50, 96, 52⟩, ⟨80, 140, 70⟩,
            ⟨110, 170, 80⟩, ⟨140, 190, 100⟩, ⟨150, 180, 120⟩]
          ramp := fade }
      light :=
        { background := ⟨230, 240, 224⟩
          colors := #[⟨170, 200, 160⟩, ⟨120, 170, 110⟩, ⟨70, 130, 60⟩,
            ⟨90, 150, 60⟩, ⟨120, 170, 70⟩, ⟨60, 100, 50⟩]
          ramp := fade } }
  windLow := -1.0
  windHigh := 1.0
  layers := [⟨.stalk, 1, .width 90.0 0⟩,
    ⟨.stalk, 2, .width 70.0 0⟩,
    ⟨.stalk, 3, .width 55.0 0⟩,
    ⟨.leaf, 4, .area 50000.0 8⟩]

/-- Desert ridges with cacti and blowing sand. -/
def dunes : Theme α where
  name := "dunes"
  description := "Desert ridges with cacti and blowing sand"
  palettes :=
    { dark :=
        { background := ⟨16, 12, 24⟩
          colors := #[⟨70, 50, 60⟩, ⟨110, 76, 64⟩, ⟨150, 104, 70⟩,
            ⟨220, 180, 120⟩, ⟨40, 60, 40⟩, ⟨230, 190, 140⟩]
          ramp := fade }
      light :=
        { background := ⟨250, 226, 190⟩
          colors := #[⟨226, 186, 140⟩, ⟨214, 164, 110⟩, ⟨196, 140, 86⟩,
            ⟨170, 120, 70⟩, ⟨70, 110, 60⟩, ⟨255, 240, 210⟩]
          ramp := fade } }
  windLow := 0.6
  windHigh := 1.8
  layers := [⟨.ridge, 0, .fixed 3⟩,
    ⟨.cactus, 1, .width 240.0 0⟩,
    ⟨.grain, 2, .spawned 0.8 150⟩]

/-! ## Choosing a theme -/

/-- All themes, in order. -/
def all : List (Theme α) :=
  [snowfall, sakura, fireflies, starfield, koi, zen, embers, bamboo, dunes]

/-- The names of all themes, in order. -/
def names : List String := (all : List (Theme α)).map name

/-- The theme of a name; blanks around the name and the case of its letters do not count. -/
def find (wanted : String) : Except ThemeError (Theme α) :=
  match all.find? fun theme : Theme α => Text.sameLetters theme.name (Text.trim wanted) with
  | some theme => .ok theme
  | none => .error (.unknown wanted)

/-- The place of a theme of exactly this name; a name that no theme has counts as the first. -/
def place (current : String) : Nat :=
  ((all : List (Theme α)).findIdx? fun theme => theme.name == current).getD 0

/-- The theme `offset` places after that of a name, round and round. -/
def after (current : String) (offset : Int) : Theme α :=
  let count := (all : List (Theme α)).length
  all.getD (((place (α := α) current : Int) + offset) % count).toNat snowfall

/-- The theme `offset` places after that of a name, if the place reached is a machine word. -/
def cycle (current : String) (offset : Int) : Except Fault (Theme α) :=
  let reached := (place (α := α) current : Int) + offset
  if Int64.minValue.toInt ≤ reached ∧ reached ≤ Int64.maxValue.toInt then .ok (after current offset)
  else .error .overflow

end Ambience.Theme
