import Ambience.Canvas.Frame
import Ambience.Proofs.Screen.Writing

/-!
# A frame shows its canvas

The text of a canvas, read by a screen that is large enough, writes each cell of the canvas once and
no other cell. Within a row colours are selected only where they change: what carries the proof is
that the colours selected so far (`Canvas.Ink`) are those of the screen (`Canvas.Agrees`).
-/

namespace Ambience

/-! ## Colours -/

namespace TerminalColor

/-- The colour that a terminal displays, unless it is the default one. -/
def hue? : TerminalColor → Option Hue
  | reset => none
  | black => some (.numbered 0)
  | darkRed => some (.numbered 1)
  | darkGreen => some (.numbered 2)
  | darkYellow => some (.numbered 3)
  | darkBlue => some (.numbered 4)
  | darkMagenta => some (.numbered 5)
  | darkCyan => some (.numbered 6)
  | grey => some (.numbered 7)
  | darkGrey => some (.numbered 8)
  | red => some (.numbered 9)
  | green => some (.numbered 10)
  | yellow => some (.numbered 11)
  | blue => some (.numbered 12)
  | magenta => some (.numbered 13)
  | cyan => some (.numbered 14)
  | white => some (.numbered 15)
  | indexed index => some (.numbered index.toNat)
  | direct color => some (.direct color.red.toNat color.green.toNat color.blue.toNat)

/-- Both sequences that select a colour select the one that is displayed. -/
structure Denotes (color : TerminalColor) (hue : Hue) : Prop where
  hue_eq : color.hue? = some hue
  foreground : ∀ screen : Screen,
    screen.select color.foreground = some { screen with front := hue }
  background : ∀ screen : Screen,
    screen.select color.background = some { screen with behind := hue }

/-- The named colour of a 24-bit colour (`TerminalColor.ofBrightness`) is one that a terminal
displays. -/
theorem denotes_ofBrightness (color : Rgb) : ∃ hue, (ofBrightness color).Denotes hue := by
  unfold ofBrightness
  dsimp only
  repeat' split
  all_goals exact ⟨_, rfl, fun _ => rfl, fun _ => rfl⟩

end TerminalColor

/-- What a frame selects is displayed as one colour (`TerminalColor.Denotes`), whether it is
selected for glyphs or behind them. -/
theorem Canvas.denotes_shown (canvas : Canvas) (color : Rgb) :
    ∃ hue, (canvas.shown color).Denotes hue := by
  unfold Canvas.shown ColorMode.show
  cases canvas.mode with
  | ansi16 => exact TerminalColor.denotes_ofBrightness _
  | mono | ansi256 | trueColor => exact ⟨_, rfl, fun _ => rfl, fun _ => rfl⟩

namespace Canvas

variable {canvas : Canvas} {ink : Ink} {screen : Screen}

/-- A half-cell of a colour displays a pixel. With colours it has the one that the pixel is shown
as; without, it is inked where the pixel is lit and has the colour behind glyphs elsewhere. -/
def Displays (canvas : Canvas) (pixel : Rgb) (hue : Hue) : Prop :=
  match canvas.mode with
  | .mono => hue = if canvas.isLit pixel then .ink else .paper
  | _ => (canvas.shown pixel).hue? = some hue

/-- What the cell of an upper and a lower pixel has to look like: a block whose halves display the
pixels and, without colours, one in the default colours. -/
structure Shows (canvas : Canvas) (cell : Cell) (pair : Rgb × Rgb) : Prop where
  halves :
    ∃ upper lower, canvas.Displays pair.1 upper ∧ canvas.Displays pair.2 lower ∧
      cell.halves = some (upper, lower)
  uncolored : canvas.mode = .mono → cell.front = .ink ∧ cell.behind = .paper

/-- With colours, a pixel `Displays` what its selection denotes. -/
theorem displays_of_denotes {pixel : Rgb} {hue : Hue} (colored : canvas.mode ≠ .mono)
    (denotes : (canvas.shown pixel).Denotes hue) : canvas.Displays pixel hue := by
  unfold Displays
  cases mode : canvas.mode with
  | mono => exact absurd mode colored
  | _ => exact denotes.hue_eq

/-- With colours, a cell `Shows` two pixels if its halves have the colours that those denote. -/
theorem shows_of_halves {cell : Cell} {pair : Rgb × Rgb} {upper lower : Hue}
    (colored : canvas.mode ≠ .mono) (upperHue : (canvas.shown pair.1).Denotes upper)
    (lowerHue : (canvas.shown pair.2).Denotes lower) (halves : cell.halves = some (upper, lower)) :
    canvas.Shows cell pair :=
  ⟨⟨upper, lower, displays_of_denotes colored upperHue, displays_of_denotes colored lowerHue,
    halves⟩, fun mono => absurd mono colored⟩

/-- The two default colours differ, so that the halves of a cell in them give its glyph. -/
theorem halves_eq_iff_block {glyph : Char} {upper lower : Bool} :
    Cell.halves ⟨glyph, .ink, .paper⟩ =
        some (if upper then .ink else .paper, if lower then .ink else .paper) ↔
      glyph = block upper lower := by
  constructor
  · intro halves
    unfold Cell.halves at halves
    split at halves <;> cases upper <;> cases lower <;> first | assumption | cases halves
  · rintro rfl
    cases upper <;> cases lower <;> rfl

/-- Without colours, a cell `Shows` two pixels exactly if it is the `block` of the lit ones in the
default colours. -/
theorem shows_iff_block {cell : Cell} {pair : Rgb × Rgb} (mono : canvas.mode = .mono) :
    canvas.Shows cell pair ↔
      cell = ⟨block (canvas.isLit pair.1) (canvas.isLit pair.2), .ink, .paper⟩ := by
  have displays : ∀ pixel hue, canvas.Displays pixel hue ↔
      hue = if canvas.isLit pixel then .ink else .paper := by
    intro pixel hue
    simp only [Displays, mono]
  constructor
  · rintro ⟨⟨upper, lower, upperHue, lowerHue, halves⟩, uncolored⟩
    obtain ⟨glyph, front, behind⟩ := cell
    obtain ⟨rfl, rfl⟩ := uncolored mono
    rw [(displays _ _).1 upperHue, (displays _ _).1 lowerHue, halves_eq_iff_block] at halves
    rw [halves]
  · rintro rfl
    exact ⟨⟨_, _, (displays _ _).2 rfl, (displays _ _).2 rfl, halves_eq_iff_block.2 rfl⟩,
      fun _ => ⟨rfl, rfl⟩⟩

/-! ## Rows -/

/-- The colours selected so far in a row are those of the screen. -/
structure Agrees (ink : Ink) (screen : Screen) : Prop where
  upright : screen.inverse = false
  foreground : ∀ color, ink.foreground = some color → color.Denotes screen.front
  background : ∀ color, ink.background = some color → color.Denotes screen.behind

/-- Selecting a colour behind glyphs where it changes leaves the screen with that colour. -/
theorem Agrees.select_background {behind : TerminalColor} {hue : Hue} (agrees : Agrees ink screen)
    (denotes : behind.Denotes hue) :
    screen.takeAll (if ink.background = some behind then [] else [.background behind]) =
      some { screen with behind := hue } := by
  split
  · rename_i same
    have displayed := (agrees.background behind same).hue_eq.symm.trans denotes.hue_eq
    rw [← Option.some.inj displayed]
    rfl
  · rw [Screen.takeAll, Screen.take, denotes.background]
    rfl

/-- A glyph is written in the colours that were selected for it, and shows what a cell of these
colours `Shows`. -/
theorem take_glyph {glyph : Char} {pair : Rgb × Rgb} {front behind : Hue}
    (upright : screen.inverse = false)
    (inside : screen.col < screen.width ∧ screen.row < screen.height)
    (displays : canvas.Shows ⟨glyph, front, behind⟩ pair) :
    ∃ after, ({ screen with front, behind } : Screen).takeAll [.glyph glyph] = some after ∧
      Screen.Writes canvas.Shows screen after [pair] ∧ after.front = front ∧
      after.behind = behind ∧ after.inverse = false := by
  have cell : ({ screen with front, behind } : Screen).cell glyph = ⟨glyph, front, behind⟩ := by
    simp only [Screen.cell, upright, Bool.false_eq_true, if_false]
  obtain ⟨after, written⟩ : ∃ after, ({ screen with front, behind } : Screen).put glyph = some after := by
    rw [Screen.put, if_pos inside]
    exact ⟨_, rfl⟩
  have writes := Screen.Writes.of_put written (by rw [cell]; exact displays)
  obtain ⟨-, -, rfl⟩ := Screen.of_put written
  refine ⟨_, ?_, writes.recolored, rfl, rfl, upright⟩
  rw [Screen.takeAll, Screen.take, written]
  rfl

/-- The marks of a cell write it, and the colours selected so far are again those of the screen. -/
theorem take_cell (colored : canvas.mode ≠ .mono) (agrees : Agrees ink screen)
    (inside : screen.col < screen.width ∧ screen.row < screen.height) (top bottom : Rgb) :
    ∃ after, screen.takeAll (canvas.cell ink top bottom).1 = some after ∧
      Screen.Writes canvas.Shows screen after [(top, bottom)] ∧
      Agrees (canvas.cell ink top bottom).2 after := by
  obtain ⟨upper, upperHue⟩ := canvas.denotes_shown top
  obtain ⟨lower, lowerHue⟩ := canvas.denotes_shown bottom
  have selected := agrees.select_background lowerHue
  -- The background is that of the cell once it is selected, in each of the three kinds of cells.
  have behindAgrees : ∀ color, some (canvas.shown bottom) = some color → color.Denotes lower := by
    rintro _ ⟨⟩
    exact lowerHue
  unfold cell
  dsimp only
  split
  · rename_i uniform
    have displays : canvas.Shows ⟨' ', screen.front, lower⟩ (top, bottom) := by
      rw [uniform]
      exact shows_of_halves colored lowerHue lowerHue rfl
    obtain ⟨after, taken, writes, front, behind, upright⟩ :=
      take_glyph agrees.upright inside displays
    refine ⟨after, ?_, writes, upright, ?_, ?_⟩
    · rw [Screen.takeAll_append, selected]
      exact taken
    · rw [front]
      exact agrees.foreground
    · rw [behind]
      exact behindAgrees
  have displays : canvas.Shows ⟨'▀', upper, lower⟩ (top, bottom) :=
    shows_of_halves colored upperHue lowerHue rfl
  obtain ⟨after, taken, writes, front, behind, upright⟩ :=
    take_glyph agrees.upright inside displays
  split
  · rename_i same
    have displayed := (agrees.foreground _ same).hue_eq.symm.trans upperHue.hue_eq
    rw [← Option.some.inj displayed] at taken front
    refine ⟨after, ?_, writes, upright, ?_, ?_⟩
    · rw [Screen.takeAll_append, selected]
      exact taken
    · rw [front]
      exact agrees.foreground
    · rw [behind]
      exact behindAgrees
  · refine ⟨after, ?_, writes, upright, ?_, ?_⟩
    · rw [Screen.takeAll_append, selected, Option.bind_some, Screen.takeAll, Screen.take,
        upperHue.foreground]
      exact taken
    · rintro _ ⟨⟩
      rw [front]
      exact upperHue
    · rw [behind]
      exact behindAgrees

/-- The marks of cells write them from left to right, one selection of a colour serving all cells up
to the next. -/
theorem take_cells (colored : canvas.mode ≠ .mono) (agrees : Agrees ink screen)
    {pairs : List (Rgb × Rgb)} (fits : screen.col + pairs.length ≤ screen.width)
    (inside : screen.row < screen.height) :
    ∃ after, screen.takeAll (canvas.cells ink pairs) = some after ∧
      Screen.Writes canvas.Shows screen after pairs := by
  induction pairs generalizing ink screen with
  | nil => exact ⟨screen, rfl, .refl screen⟩
  | cons pair later ih =>
    obtain ⟨top, bottom⟩ := pair
    rw [List.length_cons] at fits
    obtain ⟨middle, taken, writes, middleAgrees⟩ :=
      take_cell colored agrees ⟨by omega, inside⟩ top bottom
    have width := writes.width_eq
    have col := writes.col_eq
    rw [List.length_singleton] at col
    obtain ⟨after, laterTaken, laterWrites⟩ := ih middleAgrees (by omega)
      (by rw [writes.row_eq, writes.height_eq]; exact inside)
    refine ⟨after, ?_, writes.append laterWrites⟩
    rw [cells, Screen.takeAll_append, taken]
    exact laterTaken

/-- The colours of the next glyph are the default ones. -/
def Plain (screen : Screen) : Prop :=
  screen.front = .ink ∧ screen.behind = .paper ∧ screen.inverse = false

/-- The marks of a row (`Canvas.rowMarks`) write its cells and end with the default colours. -/
theorem take_rowMarks (row : Nat) (plain : Plain screen)
    (fits : screen.col + canvas.cols ≤ screen.width) (inside : screen.row < screen.height) :
    ∃ after, screen.takeAll (canvas.rowMarks row) = some after ∧
      Screen.Writes canvas.Shows screen after (canvas.pairs row) ∧ Plain after := by
  obtain ⟨front, behind, upright⟩ := plain
  have length : (canvas.pairs row).length = canvas.cols := by
    rw [pairs, List.length_map, List.length_range]
  rw [← length] at fits
  unfold rowMarks
  split
  · rename_i mono
    have showAll : ∀ pair : Rgb × Rgb,
        canvas.Shows (screen.cell (block (canvas.isLit pair.1) (canvas.isLit pair.2))) pair := by
      intro pair
      rw [shows_iff_block mono, Screen.cell, if_neg (by rw [upright]; decide), front, behind]
    obtain ⟨after, taken, writes, front', behind', upright'⟩ :=
      Screen.takeAll_glyphs canvas.Shows
        (fun pair => block (canvas.isLit pair.1) (canvas.isLit pair.2)) showAll fits inside
    exact ⟨after, taken, writes, front'.trans front, behind'.trans behind,
      upright'.trans upright⟩
  · rename_i colored
    have agrees : Agrees ⟨none, none⟩ screen :=
      ⟨upright, by rintro _ ⟨⟩, by rintro _ ⟨⟩⟩
    obtain ⟨after, taken, writes⟩ := take_cells colored agrees fits inside
    refine ⟨{ after with front := .ink, behind := .paper, inverse := false }, ?_, writes.recolor,
      rfl, rfl, rfl⟩
    rw [Screen.takeAll_append, taken]
    rfl

/-! ## Frames -/

/-- The screen after some rows of a frame: their cells were written once each, and no others. -/
structure Progress (canvas : Canvas) (before : Screen) (rows : Nat) (after : Screen) : Prop where
  width_eq : after.width = before.width
  height_eq : after.height = before.height
  plain : Plain after
  /-- The cursor stands at the next row, if there is one. -/
  cursor : rows < canvas.rows → after.col = 0 ∧ after.row = rows
  shown :
    ∀ col row, col < canvas.cols → row < rows →
      ∃ cell, after.cells col row = cell :: before.cells col row ∧
        canvas.Shows cell (canvas.pixel col (row * 2), canvas.pixel col (row * 2 + 1))
  kept :
    ∀ col row, ¬ (col < canvas.cols ∧ row < rows) → after.cells col row = before.cells col row

/-- One more row of a frame makes `Progress`. -/
theorem Progress.row {before : Screen} {row : Nat} (progress : Progress canvas before row screen)
    (present : row < canvas.rows) (wide : canvas.cols ≤ before.width)
    (high : canvas.rows ≤ before.height) :
    ∃ after, screen.takeAll
        (canvas.rowMarks row ++ if row + 1 < canvas.rows then [.row (row + 2)] else []) =
          some after ∧ Progress canvas before (row + 1) after := by
  obtain ⟨atFirst, atRow⟩ := progress.cursor present
  have width := progress.width_eq
  have height := progress.height_eq
  have fits : screen.col + canvas.cols ≤ screen.width := by omega
  obtain ⟨written, taken, writes, plain⟩ := take_rowMarks row progress.plain fits (by omega)
  have length : (canvas.pairs row).length = canvas.cols := by
    rw [pairs, List.length_map, List.length_range]
  have shown : ∀ col row', col < canvas.cols → row' < row + 1 →
      ∃ cell, written.cells col row' = cell :: before.cells col row' ∧
        canvas.Shows cell (canvas.pixel col (row' * 2), canvas.pixel col (row' * 2 + 1)) := by
    intro col row' inCols inRows
    by_cases early : row' < row
    · obtain ⟨cell, cellAt, displays⟩ := progress.shown col row' inCols early
      refine ⟨cell, ?_, displays⟩
      rw [writes.kept col row' (by omega)]
      exact cellAt
    · have same : row' = row := by omega
      subst same
      have pairAt : (canvas.pairs row')[col]? =
          some (canvas.pixel col (row' * 2), canvas.pixel col (row' * 2 + 1)) := by
        rw [pairs, List.getElem?_map, List.getElem?_range inCols]
        rfl
      obtain ⟨cell, cellAt, displays⟩ := writes.shown col _ pairAt
      rw [atFirst, atRow, Nat.zero_add] at cellAt
      refine ⟨cell, ?_, displays⟩
      rw [cellAt, progress.kept col row' (by omega)]
  have kept : ∀ col row', ¬ (col < canvas.cols ∧ row' < row + 1) →
      written.cells col row' = before.cells col row' := by
    intro col row' outside
    rw [writes.kept col row' (by rw [length]; omega), progress.kept col row' (by omega)]
  have widthNow := writes.width_eq.trans width
  have heightNow := writes.height_eq.trans height
  split
  · refine ⟨written.move (row + 2) 1, ?_, widthNow, heightNow, plain, fun _ => ⟨rfl, rfl⟩, shown,
      kept⟩
    rw [Screen.takeAll_append, taken]
    rfl
  · rename_i lastRow
    refine ⟨written, ?_, widthNow, heightNow, plain, fun more => absurd more lastRow, shown, kept⟩
    rw [List.append_nil]
    exact taken

/-- Any number of first rows of a frame make as much `Progress`. -/
theorem progress_of_rows {before : Screen} {rows : Nat} (plain : Plain before)
    (home : before.col = 0 ∧ before.row = 0) (few : rows ≤ canvas.rows)
    (wide : canvas.cols ≤ before.width) (high : canvas.rows ≤ before.height) :
    ∃ after, before.takeAll ((List.range rows).flatMap fun row =>
        canvas.rowMarks row ++ if row + 1 < canvas.rows then [.row (row + 2)] else []) =
          some after ∧ Progress canvas before rows after := by
  induction rows with
  | zero =>
    refine ⟨before, rfl, rfl, rfl, plain, fun _ => home, ?_, fun _ _ _ => rfl⟩
    rintro _ _ _ ⟨⟩
  | succ rows ih =>
    obtain ⟨middle, taken, progress⟩ := ih (by omega)
    obtain ⟨after, rowTaken, further⟩ := progress.row few wide high
    refine ⟨after, ?_, further⟩
    rw [List.range_succ, List.flatMap_append, Screen.takeAll_append, taken, Option.bind_some,
      List.flatMap_singleton]
    exact rowTaken

theorem narrow_of_mem_cell {top bottom : Rgb} {mark : Mark}
    (member : mark ∈ (canvas.cell ink top bottom).1) : mark.isNarrow = true := by
  have selects : ∀ color, mark ∈ (if ink.background = some color then []
      else [Mark.background color]) → mark.isNarrow = true := by
    intro color member
    split at member
    · cases member
    · cases List.mem_singleton.1 member
      rfl
  unfold cell at member
  dsimp only at member
  split at member
  · rcases List.mem_append.1 member with member | member
    · exact selects _ member
    · cases List.mem_singleton.1 member
      rfl
  split at member
  · rcases List.mem_append.1 member with member | member
    · exact selects _ member
    · cases List.mem_singleton.1 member
      rfl
  · rcases List.mem_append.1 member with member | member
    · exact selects _ member
    · rcases List.mem_cons.1 member with rfl | member
      · rfl
      · cases List.mem_singleton.1 member
        rfl

theorem narrow_of_mem_cells {pairs : List (Rgb × Rgb)} {mark : Mark}
    (member : mark ∈ canvas.cells ink pairs) : mark.isNarrow = true := by
  induction pairs generalizing ink with
  | nil => cases member
  | cons pair later ih =>
    rcases List.mem_append.1 member with member | member
    · exact narrow_of_mem_cell member
    · exact ih member

/-- A `block` takes up one cell of a screen. -/
theorem isNarrow_block (upper lower : Bool) : Screen.isNarrow (block upper lower) = true := by
  cases upper <;> cases lower <;> rfl

/-- A frame writes nothing but blocks and blanks. -/
theorem narrow_of_mem_marks {mark : Mark} (member : mark ∈ canvas.marks) :
    mark.isNarrow = true := by
  obtain ⟨row, -, member⟩ := List.mem_flatMap.1 member
  rcases List.mem_append.1 member with member | member
  · unfold rowMarks at member
    split at member
    · obtain ⟨⟨top, bottom⟩, -, rfl⟩ := List.mem_map.1 member
      exact isNarrow_block _ _
    · rcases List.mem_append.1 member with member | member
      · exact narrow_of_mem_cells member
      · cases List.mem_singleton.1 member
        rfl
  · split at member
    · cases List.mem_singleton.1 member
      rfl
    · cases member

/-- The text that `Canvas.encode` gives, read by a `Screen` with room for its cells, shows the
canvas. Each cell of the canvas is written exactly once and `Shows` its two pixels, no other cell is
written, and the colours are the default ones again. What is selected for glyphs is displayed as
what is selected behind them. -/
theorem encode_shows (canvas : Canvas) {width height : Nat} (wide : canvas.cols ≤ width)
    (high : canvas.rows ≤ height) :
    (∃ after, (Screen.blank width height).read canvas.encode.toList = some after ∧
      (∀ col row, col < canvas.cols → row < canvas.rows →
        ∃ cell, after.cells col row = [cell] ∧
          canvas.Shows cell (canvas.pixel col (row * 2), canvas.pixel col (row * 2 + 1))) ∧
      (∀ col row, ¬ (col < canvas.cols ∧ row < canvas.rows) → after.cells col row = []) ∧
      Plain after ∧ after.reading = .ready) ∧
    ∀ color, ∃ hue, (canvas.shown color).Denotes hue := by
  refine ⟨?_, canvas.denotes_shown⟩
  have plain : Plain (.blank width height) := ⟨rfl, rfl, rfl⟩
  obtain ⟨after, taken, progress⟩ :=
    progress_of_rows plain ⟨rfl, rfl⟩ (Nat.le_refl canvas.rows) wide high
  refine ⟨after, ?_, progress.shown, progress.kept, progress.plain,
    Screen.reading_of_takeAll taken⟩
  have legible : ∀ mark ∈ canvas.marks, mark.isLegible = true :=
    fun _ member => Mark.isLegible_of_isNarrow (narrow_of_mem_marks member)
  rw [encode, Screen.read_textOf rfl legible]
  exact taken

/-- Two cells of white over black are shown with one selection of their colours, and a cell of one
colour without a selection for its glyph. Without colours, the four blocks of a row are shown by
their lit halves. -/
theorem encode_shows_elided :
    (∃ after, (Screen.blank 3 1).read "\x1b[40m\x1b[97m▀▀\x1b[107m \x1b[0m".toList = some after ∧
      ∃ first second third, after.cells 0 0 = [first] ∧ after.cells 1 0 = [second] ∧
        after.cells 2 0 = [third] ∧ first.halves = some (.numbered 15, .numbered 0) ∧
        second.halves = some (.numbered 15, .numbered 0) ∧
        third.halves = some (.numbered 15, .numbered 15)) ∧
    ∃ after, (Screen.blank 4 1).read "█▀▄ ".toList = some after ∧
      after.cells 0 0 = [⟨'█', .ink, .paper⟩] ∧ after.cells 1 0 = [⟨'▀', .ink, .paper⟩] ∧
      after.cells 2 0 = [⟨'▄', .ink, .paper⟩] ∧ after.cells 3 0 = [⟨' ', .ink, .paper⟩] := by
  constructor
  · obtain ⟨⟨after, taken, shown, -⟩, -⟩ :=
      encode_shows ⟨3, 1, #[⟨255, 255, 255⟩, ⟨255, 255, 255⟩, ⟨255, 255, 255⟩, ⟨0, 0, 0⟩, ⟨0, 0, 0⟩,
        ⟨255, 255, 255⟩], ⟨0, 0, 0⟩, .ansi16, 0⟩ (Nat.le_refl 3) (Nat.le_refl 1)
    obtain ⟨first, firstAt, ⟨_, _, firstUpper, firstLower, firstHalves⟩, -⟩ :=
      shown 0 0 (show 0 < 3 by decide) (show 0 < 1 by decide)
    obtain ⟨second, secondAt, ⟨_, _, secondUpper, secondLower, secondHalves⟩, -⟩ :=
      shown 1 0 (show 1 < 3 by decide) (show 0 < 1 by decide)
    obtain ⟨third, thirdAt, ⟨_, _, thirdUpper, thirdLower, thirdHalves⟩, -⟩ :=
      shown 2 0 (show 2 < 3 by decide) (show 0 < 1 by decide)
    cases firstUpper
    cases firstLower
    cases secondUpper
    cases secondLower
    cases thirdUpper
    cases thirdLower
    refine ⟨after, ?_, first, second, third, firstAt, secondAt, thirdAt, firstHalves, secondHalves,
      thirdHalves⟩
    rw [← taken]
    exact congrArg _ (by decide +kernel)
  · obtain ⟨⟨after, taken, shown, -⟩, -⟩ :=
      encode_shows ⟨4, 1, #[⟨255, 255, 255⟩, ⟨255, 255, 255⟩, ⟨0, 0, 0⟩, ⟨0, 0, 0⟩, ⟨255, 255, 255⟩,
        ⟨0, 0, 0⟩, ⟨255, 255, 255⟩, ⟨0, 0, 0⟩], ⟨0, 0, 0⟩, .mono, 0⟩ (Nat.le_refl 4) (Nat.le_refl 1)
    obtain ⟨_, firstAt, first⟩ := shown 0 0 (show 0 < 4 by decide) (show 0 < 1 by decide)
    obtain ⟨_, secondAt, second⟩ := shown 1 0 (show 1 < 4 by decide) (show 0 < 1 by decide)
    obtain ⟨_, thirdAt, third⟩ := shown 2 0 (show 2 < 4 by decide) (show 0 < 1 by decide)
    obtain ⟨_, fourthAt, fourth⟩ := shown 3 0 (show 3 < 4 by decide) (show 0 < 1 by decide)
    rw [(shows_iff_block rfl).1 first] at firstAt
    rw [(shows_iff_block rfl).1 second] at secondAt
    rw [(shows_iff_block rfl).1 third] at thirdAt
    rw [(shows_iff_block rfl).1 fourth] at fourthAt
    refine ⟨after, ?_, firstAt, secondAt, thirdAt, fourthAt⟩
    rw [← taken]
    exact congrArg _ (by decide +kernel)

end Canvas

end Ambience
