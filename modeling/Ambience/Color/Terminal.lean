import Ambience.Color
import Ambience.Color.Mode

/-!
# Terminal colours

The colours that a terminal can be told to use, the parameters of the control sequences that select
them, and the choice of one for a 24-bit colour in each colour mode.
-/

namespace Ambience

/-- A colour that a terminal can be told to use. -/
inductive TerminalColor where
  | reset
  | black
  | darkGrey
  | red
  | darkRed
  | green
  | darkGreen
  | yellow
  | darkYellow
  | blue
  | darkBlue
  | magenta
  | darkMagenta
  | cyan
  | darkCyan
  | white
  | grey
  /-- A colour of the 256 numbered ones. -/
  | indexed (index : UInt8)
  /-- A 24-bit colour. -/
  | direct (color : Rgb)
  deriving DecidableEq, Repr

namespace TerminalColor

/-- The parameters that make a colour the foreground. Frames use nine of the named colours; any
other counts as grey. -/
def foreground : TerminalColor → List Nat
  | direct color => [38, 2, color.red.toNat, color.green.toNat, color.blue.toNat]
  | indexed index => [38, 5, index.toNat]
  | black => [30]
  | darkRed => [31]
  | darkGreen => [32]
  | darkBlue => [34]
  | red => [91]
  | green => [92]
  | blue => [94]
  | white => [97]
  | _ => [37]

/-- The parameters that make a colour the background. Frames use nine of the named colours; any
other counts as black. -/
def background : TerminalColor → List Nat
  | direct color => [48, 2, color.red.toNat, color.green.toNat, color.blue.toNat]
  | indexed index => [48, 5, index.toNat]
  | darkRed => [41]
  | darkGreen => [42]
  | darkBlue => [44]
  | grey => [47]
  | red => [101]
  | green => [102]
  | blue => [104]
  | white => [107]
  | _ => [40]

/-- Parameters as they are written in a control sequence. -/
def parameters (codes : List Nat) : String := ";".intercalate (codes.map toString)

/-- The numbered colour nearest below a 24-bit colour in the cube of six shades per channel. -/
def ofCube (color : Rgb) : TerminalColor :=
  indexed (UInt8.ofNat
    (16 + 36 * (color.red.toNat / 51) + 6 * (color.green.toNat / 51) + color.blue.toNat / 51))

/-- The named colour of a 24-bit colour: black below a brightness of 64, else by the one strongest
channel, bright above 180; without a strongest channel white or grey. -/
def ofBrightness (color : Rgb) : TerminalColor :=
  let r := color.red.toNat
  let g := color.green.toNat
  let b := color.blue.toNat
  let brightness := (r + g + b) / 3
  let bright := 180 < brightness
  if brightness < 64 then black
  else if g < r ∧ b < r then if bright then red else darkRed
  else if r < g ∧ b < g then if bright then green else darkGreen
  else if r < b ∧ g < b then if bright then blue else darkBlue
  else if bright then white
  else grey

end TerminalColor

/-- The multiple of `step` nearest to a channel value, a half going up, and at most 255. Steps of
zero and one change nothing. -/
def Rgb.quantizeChannel (step value : UInt8) : UInt8 :=
  if step ≤ 1 then value
  else
    let q := step.toNat
    UInt8.ofNat (min ((value.toNat + q / 2) / q * q) 255)

/-- A colour with its channels rounded to multiples of a step. -/
def Rgb.quantize (color : Rgb) (step : UInt8) : Rgb :=
  ⟨quantizeChannel step color.red, quantizeChannel step color.green,
    quantizeChannel step color.blue⟩

/-- The terminal colour that shows a colour. -/
def ColorMode.show (mode : ColorMode) (color : Rgb) : TerminalColor :=
  match mode with
  | mono => .white
  | ansi16 => .ofBrightness color
  | ansi256 => .ofCube color
  | trueColor => .direct color

end Ambience
