import Ambience.Color.Terminal

/-!
# Marks

What is written to a terminal is a list of marks: glyphs, and control sequences that select colours
and move the cursor.
-/

namespace Ambience

/-- One thing written to a terminal. -/
inductive Mark where
  /-- A glyph in the cell under the cursor, which moves right. -/
  | glyph (c : Char)
  /-- The colour of later glyphs. -/
  | foreground (color : TerminalColor)
  /-- The colour behind later glyphs. -/
  | background (color : TerminalColor)
  /-- Later glyphs have their colours exchanged. -/
  | inverse
  /-- Default colours again. -/
  | plain
  /-- The cursor goes to the first cell. -/
  | home
  /-- The cursor goes to the first cell of a row, counted from one. -/
  | row (number : Nat)
  /-- All cells are emptied. -/
  | wipe
  deriving DecidableEq, Repr

namespace Mark

/-- The text of a mark: a glyph, or a control sequence. -/
def text : Mark → String
  | glyph c => String.singleton c
  | foreground color => "\x1b[" ++ TerminalColor.parameters color.foreground ++ "m"
  | background color => "\x1b[" ++ TerminalColor.parameters color.background ++ "m"
  | inverse => "\x1b[7m"
  | plain => "\x1b[0m"
  | home => "\x1b[H"
  | row number => "\x1b[" ++ toString number ++ ";1H"
  | wipe => "\x1b[2J"

/-- The text of marks in order. -/
def textOf (marks : List Mark) : String := String.join (marks.map text)

/-- The glyphs of a text. -/
def glyphs (text : List Char) : List Mark := text.map glyph

end Mark

end Ambience
