import Ambience.Canvas.Basic
import Ambience.Mark

/-!
# Frames

A canvas is shown as text, one glyph per cell with the upper of its two pixels as foreground and
the lower as background. The text is written for a cursor that stands at the first cell. Each row
but the last ends with a move to the next one, and rows with colours end with the default colours;
within a row a colour is selected only where it changes.
-/

namespace Ambience

namespace Canvas

/-! ## Rows without colours -/

/-- The sum of channel differences above which a pixel is lit. -/
def litThreshold : Nat := 24

/-- How far apart two channel values are. -/
def channelGap (a b : UInt8) : Nat := max a.toNat b.toNat - min a.toNat b.toNat

/-- Whether a pixel stands out from the background. -/
def isLit (canvas : Canvas) (pixel : Rgb) : Bool :=
  litThreshold <
    channelGap pixel.red canvas.background.red + channelGap pixel.green canvas.background.green +
      channelGap pixel.blue canvas.background.blue

/-- The glyph whose inked half-cells are those that are lit. -/
def block : Bool → Bool → Char
  | true, true => '█'
  | true, false => '▀'
  | false, true => '▄'
  | false, false => ' '

/-! ## Rows with colours -/

/-- The colours selected so far in a row. -/
structure Ink where
  foreground : Option TerminalColor
  background : Option TerminalColor
  deriving DecidableEq, Repr

/-- The marks that show a cell, and the colours selected after them. A cell of one colour needs
no foreground. -/
def cell (canvas : Canvas) (ink : Ink) (top bottom : Rgb) : List Mark × Ink :=
  let behind := canvas.shown bottom
  let select := if ink.background = some behind then [] else [.background behind]
  let ink := { ink with background := some behind }
  if top = bottom then (select ++ [.glyph ' '], ink)
  else
    let front := canvas.shown top
    if ink.foreground = some front then (select ++ [.glyph '▀'], ink)
    else (select ++ [.foreground front, .glyph '▀'], { ink with foreground := some front })

/-- The marks that show cells from left to right. -/
def cells (canvas : Canvas) : Ink → List (Rgb × Rgb) → List Mark
  | _, [] => []
  | ink, (top, bottom) :: later =>
    let (marks, ink) := canvas.cell ink top bottom
    marks ++ cells canvas ink later

/-! ## Whole frames -/

/-- The upper and lower pixels of the cells of a row, counted from zero. -/
def pairs (canvas : Canvas) (row : Nat) : List (Rgb × Rgb) :=
  (List.range canvas.cols).map fun col =>
    (canvas.pixel col (row * 2), canvas.pixel col (row * 2 + 1))

/-- The marks of a row. -/
def rowMarks (canvas : Canvas) (row : Nat) : List Mark :=
  match canvas.mode with
  | .mono => (canvas.pairs row).map fun (top, bottom) =>
      .glyph (block (canvas.isLit top) (canvas.isLit bottom))
  | _ => canvas.cells ⟨none, none⟩ (canvas.pairs row) ++ [.plain]

/-- The marks of a frame. -/
def marks (canvas : Canvas) : List Mark :=
  (List.range canvas.rows).flatMap fun row =>
    canvas.rowMarks row ++ (if row + 1 < canvas.rows then [.row (row + 2)] else [])

/-- The text of a frame. -/
def encode (canvas : Canvas) : String := Mark.textOf canvas.marks

end Canvas

end Ambience
