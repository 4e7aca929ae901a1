import Ambience.Color.Terminal

/-!
# Canvases

A canvas is the raster that a terminal shows: one pixel per column and two per row, each a square
of eight by eight logical pixels. Pixels are kept row by row.
-/

namespace Ambience

/-- A raster of opaque pixels. -/
structure Canvas where
  cols : Nat
  rows : Nat
  /-- The pixels from left to right and from top to bottom. -/
  pixels : Array Rgb
  /-- The colour that last covered everything. -/
  background : Rgb
  mode : ColorMode
  /-- The step to which shown colours are rounded. -/
  quantum : UInt8
  deriving Repr

namespace Canvas

variable {α : Type} [Scalar α]

/-- The number of pixels in a line. -/
def width (canvas : Canvas) : Nat := canvas.cols

/-- The number of lines of pixels. -/
def height (canvas : Canvas) : Nat := canvas.rows * 2

/-- A black canvas for a terminal of some cells. -/
def blank (cols rows : Nat) (mode : ColorMode) (quantum : UInt8) : Canvas where
  cols
  rows
  pixels := Array.replicate (cols * (rows * 2)) ⟨0, 0, 0⟩
  background := ⟨0, 0, 0⟩
  mode
  quantum

/-- The canvas for another number of cells, covered with its background. -/
def resize (canvas : Canvas) (cols rows : Nat) : Canvas :=
  { canvas with cols, rows, pixels := Array.replicate (cols * (rows * 2)) canvas.background }

/-- The canvas with every pixel of a colour, which it then has for its background. -/
def clear (canvas : Canvas) (color : Rgb) : Canvas :=
  { canvas with background := color, pixels := Array.replicate canvas.pixels.size color }

/-- The side of a pixel in logical pixels. -/
def pixelSide : α := 8.0

/-- The extent in logical pixels. -/
def size (canvas : Canvas) : α × α :=
  (Scalar.ofNat canvas.width * pixelSide, Scalar.ofNat canvas.height * pixelSide)

/-- Where a pixel is kept. -/
def offset (canvas : Canvas) (x y : Nat) : Nat := y * canvas.width + x

/-- The colour of a pixel. -/
def pixel (canvas : Canvas) (x y : Nat) : Rgb :=
  canvas.pixels.getD (canvas.offset x y) canvas.background

/-- The terminal colour that shows a colour on this canvas. -/
def shown (canvas : Canvas) (color : Rgb) : TerminalColor :=
  canvas.mode.show (color.quantize canvas.quantum)

end Canvas

end Ambience
