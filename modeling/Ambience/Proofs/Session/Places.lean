import Ambience.Proofs.Screen.Frame
import Ambience.Proofs.Session.Proper
import Ambience.Proofs.Session.Status

/-!
# What a turn writes stays in its place

A turn writes a frame to the rows that are left for it and the status bar to the last row. On a screen
of the size that the session knows neither leaves the screen or touches the other: the canvas fits the
rows that are left, and the status bar is as long as a row is wide. Every part begins and ends with the
default colours, whatever colours the frame has.
-/

namespace Ambience

/-! ## Regions of a screen -/

namespace Screen

variable {before after : Screen}

/-- Each cell of a region was written once, and no other cell was written. -/
structure Fills (before after : Screen) (region : Nat → Nat → Prop) : Prop where
  width_eq : after.width = before.width
  height_eq : after.height = before.height
  once : ∀ col row, region col row →
    ∃ cell, after.cells col row = cell :: before.cells col row
  kept : ∀ col row, ¬ region col row → after.cells col row = before.cells col row

/-- A screen to which nothing was written, with no region to write to. -/
theorem fills_self (screen : Screen) {region : Nat → Nat → Prop}
    (none : ∀ col row, ¬ region col row) : Fills screen screen region where
  width_eq := rfl
  height_eq := rfl
  once col row member := absurd member (none col row)
  kept _ _ _ := rfl

theorem Fills.congr {region region' : Nat → Nat → Prop} (fills : Fills before after region)
    (same : ∀ col row, region col row ↔ region' col row) : Fills before after region' where
  width_eq := fills.width_eq
  height_eq := fills.height_eq
  once col row member := fills.once col row ((same col row).2 member)
  kept col row outside := fills.kept col row fun member => outside ((same col row).1 member)

/-- A frame `Fills` the cells of its canvas. -/
theorem takeAll_frame (canvas : Canvas) (plain : Canvas.Plain before)
    (wide : canvas.cols ≤ before.width) (high : canvas.rows ≤ before.height) :
    ∃ after, before.takeAll (.home :: canvas.marks) = some after ∧ Canvas.Plain after ∧
      Fills before after fun col row => col < canvas.cols ∧ row < canvas.rows := by
  have atHome : Canvas.Plain (before.move 1 1) := plain
  obtain ⟨after, taken, progress⟩ :=
    Canvas.progress_of_rows atHome ⟨rfl, rfl⟩ (Nat.le_refl canvas.rows) wide high
  refine ⟨after, taken, progress.plain, progress.width_eq, progress.height_eq, ?_, progress.kept⟩
  rintro col row ⟨inCols, inRows⟩
  obtain ⟨cell, cellAt, -⟩ := progress.shown col row inCols inRows
  exact ⟨cell, cellAt⟩

/-- A text that is as long as a row is wide `Fills` the row, in exchanged colours. -/
theorem takeAll_bar {text : List Char} (plain : Canvas.Plain before)
    (long : text.length = before.width) (present : 1 ≤ before.height) :
    ∃ after, before.takeAll ([.row before.height, .inverse] ++ Mark.glyphs text ++ [.plain]) =
        some after ∧ Canvas.Plain after ∧
      (Fills before after fun col row => col < before.width ∧ row + 1 = before.height) ∧
      ∀ col c, text[col]? = some c →
        ∃ earlier, after.cells col (before.height - 1) = ⟨c, .paper, .ink⟩ :: earlier := by
  obtain ⟨front, behind, -⟩ := plain
  have exchanged : ∀ c : Char,
      ({ before.move before.height 1 with inverse := true } : Screen).cell c =
        ⟨c, .paper, .ink⟩ := by
    intro c
    simp only [cell, move, if_true, front, behind]
  have fits : ({ before.move before.height 1 with inverse := true } : Screen).col + text.length ≤
      before.width := by
    show 1 - 1 + text.length ≤ _
    omega
  have inside : ({ before.move before.height 1 with inverse := true } : Screen).row <
      before.height := Nat.sub_lt present Nat.one_pos
  obtain ⟨written, taken, writes, -, -, -⟩ :=
    takeAll_glyphs (fun cell c => cell = ⟨c, .paper, .ink⟩) id exchanged fits inside
  have atRow : ∀ {col row : Nat}, col < before.width ∧ row + 1 = before.height ↔
      row = before.height - 1 ∧ 0 ≤ col ∧ col < 0 + text.length := by
    intro col row
    omega
  have shown : ∀ col c, text[col]? = some c →
      written.cells col (before.height - 1) =
        ⟨c, .paper, .ink⟩ :: before.cells col (before.height - 1) := by
    intro col c found
    obtain ⟨cell, cellAt, rfl⟩ := writes.shown col c found
    have start : ({ before.move before.height 1 with inverse := true } : Screen).col + col = col :=
      Nat.zero_add col
    rw [start] at cellAt
    exact cellAt
  refine ⟨{ written with front := .ink, behind := .paper, inverse := false }, ?_, ⟨rfl, rfl, rfl⟩,
    ⟨writes.width_eq, writes.height_eq, ?_, ?_⟩, fun col c found => ⟨_, shown col c found⟩⟩
  · rw [takeAll_append, takeAll_append]
    show (Option.bind (takeAll _ (text.map fun c => .glyph (id c))) _) = _
    rw [taken]
    rfl
  · rintro col row ⟨inCols, lastRow⟩
    have found : text[col]? = some text[col] := List.getElem?_eq_getElem (by omega)
    obtain rfl : row = before.height - 1 := by omega
    exact ⟨_, shown col _ found⟩
  · intro col row outside
    exact writes.kept col row fun member => outside (atRow.2 member)

end Screen

/-! ## Turns -/

variable {α σ : Type} [Scalar α]

namespace Session

namespace Outcome

/-- What a turn writes of a frame. -/
def frameMarks (outcome : Outcome α σ) : List Mark :=
  if outcome.drew then .home :: (outcome.session.stage.surface.map Canvas.marks).getD [] else []

/-- What a turn writes of the status bar. -/
def barMarks (outcome : Outcome α σ) (fps : α) : List Mark :=
  if outcome.quit then [] else outcome.session.statusMarks fps

/-- Whether a turn shows the status bar. -/
def showsBar (outcome : Outcome α σ) : Bool := !outcome.quit && !outcome.session.hidden

/-- How a turn is written to a screen: after the screen was emptied, if it had to be, the frame fills
the rows that are left for it and the status bar fills the last row, if they are shown at all. -/
structure InPlace (outcome : Outcome α σ) (fps : α) (before emptied framed after : Screen) :
    Prop where
  clear : ∃ cleared, (cleared = [] ∨ cleared = clearing) ∧
    outcome.marks = cleared ++ outcome.frameMarks ++ outcome.barMarks fps ∧
    before.read (Mark.textOf cleared).toList = some emptied
  emptied_cells : emptied.cells = before.cells ∨ emptied.cells = fun _ _ => []
  frame : emptied.read (Mark.textOf outcome.frameMarks).toList = some framed
  frame_fills : emptied.Fills framed fun col row =>
    outcome.drew = true ∧ col < outcome.session.cols ∧
      row < displayRows outcome.session.rows outcome.session.hidden
  bar : framed.read (Mark.textOf (outcome.barMarks fps)).toList = some after
  bar_fills : framed.Fills after fun col row =>
    outcome.showsBar = true ∧ col < outcome.session.cols ∧ row + 1 = outcome.session.rows
  /-- The bar shows its text with exchanged colours. -/
  bar_text : outcome.showsBar = true → (outcome.session.statusBar fps).length = outcome.session.cols ∧
    ∀ col c, (outcome.session.statusBar fps)[col]? = some c →
      ∃ earlier, after.cells col (outcome.session.rows - 1) = ⟨c, .paper, .ink⟩ :: earlier
  /-- The rows of the frame end above the bar. -/
  apart : outcome.showsBar = true →
    displayRows outcome.session.rows outcome.session.hidden + 1 = outcome.session.rows
  whole : before.read (Mark.textOf outcome.marks).toList = some after
  plain : Canvas.Plain after
  ready : after.reading = .ready
  /-- Whatever is written takes up one cell for each glyph. -/
  narrow : ∀ mark ∈ outcome.marks, mark.isNarrow = true

variable {outcome : Outcome α σ} {fps : α} {mark : Mark}

omit [Scalar α] in
theorem narrow_of_mem_frameMarks (member : mark ∈ outcome.frameMarks) : mark.isNarrow = true := by
  unfold frameMarks at member
  split at member
  · rcases List.mem_cons.1 member with rfl | member
    · rfl
    cases surfaceAt : outcome.session.stage.surface with
    | none =>
      rw [surfaceAt] at member
      cases member
    | some canvas =>
      rw [surfaceAt] at member
      exact Canvas.narrow_of_mem_marks member
  · cases member

theorem narrow_of_mem_barMarks (proper : outcome.session.Proper)
    (member : mark ∈ outcome.barMarks fps) : mark.isNarrow = true := by
  unfold barMarks at member
  split at member
  · cases member
  unfold statusMarks at member
  split at member
  · cases member
  rcases List.mem_append.1 member with member | member
  · rcases List.mem_append.1 member with member | member
    · rcases List.mem_pair.1 member with rfl | rfl <;> rfl
    · obtain ⟨c, written, rfl⟩ := List.mem_map.1 member
      exact narrow_of_mem_statusBar proper.catalogued written
  · cases List.mem_singleton.1 member
    rfl

variable {before : Screen}

/-- A turn that draws fills the rows of its display, and one that does not writes no frame. -/
theorem takeAll_frameMarks (fits : outcome.session.Fits) (plain : Canvas.Plain before)
    (width : before.width = outcome.session.cols) (height : before.height = outcome.session.rows) :
    ∃ after, before.takeAll outcome.frameMarks = some after ∧ Canvas.Plain after ∧
      before.Fills after fun col row =>
        outcome.drew = true ∧ col < outcome.session.cols ∧
          row < displayRows outcome.session.rows outcome.session.hidden := by
  obtain ⟨canvas, surfaceAt, sized⟩ := fits.fitted.canvas
  rw [frameMarks, surfaceAt]
  cases drew : outcome.drew with
  | false => exact ⟨before, rfl, plain, before.fills_self fun _ _ member => nomatch member.1⟩
  | true =>
    have high : displayRows outcome.session.rows outcome.session.hidden ≤ outcome.session.rows := by
      unfold displayRows
      split <;> omega
    obtain ⟨after, taken, plainAfter, fills⟩ := Screen.takeAll_frame canvas plain
      (by rw [sized.cols_eq, width]) (by rw [sized.rows_eq, height]; exact high)
    refine ⟨after, taken, plainAfter, fills.congr fun col row => ?_⟩
    rw [sized.cols_eq, sized.rows_eq]
    exact ⟨fun inside => ⟨rfl, inside⟩, And.right⟩

/-- A turn that shows its bar fills the last row with the status. -/
theorem takeAll_barMarks (fps : α) (proper : outcome.session.Proper)
    (plain : Canvas.Plain before) (width : before.width = outcome.session.cols)
    (height : before.height = outcome.session.rows) :
    ∃ after, before.takeAll (outcome.barMarks fps) = some after ∧ Canvas.Plain after ∧
      (before.Fills after fun col row =>
        outcome.showsBar = true ∧ col < outcome.session.cols ∧ row + 1 = outcome.session.rows) ∧
      (outcome.showsBar = true → ∀ col c, (outcome.session.statusBar fps)[col]? = some c →
        ∃ earlier, after.cells col (outcome.session.rows - 1) = ⟨c, .paper, .ink⟩ :: earlier) := by
  have absent : outcome.showsBar = false → outcome.barMarks fps = [] := by
    unfold showsBar barMarks statusMarks
    cases outcome.quit <;> cases outcome.session.hidden <;> intro hides <;> first | rfl | cases hides
  cases shows : outcome.showsBar with
  | false =>
    rw [absent shows]
    exact ⟨before, rfl, plain, before.fills_self (fun _ _ member => nomatch member.1), nofun⟩
  | true =>
    obtain ⟨goesOn, shown⟩ : outcome.quit = false ∧ outcome.session.hidden = false := by
      simpa [showsBar] using shows
    have marks : outcome.barMarks fps = [.row before.height, .inverse] ++
        Mark.glyphs (outcome.session.statusBar fps) ++ [.plain] := by
      rw [barMarks, goesOn, statusMarks, shown, height]
      rfl
    obtain ⟨after, taken, plainAfter, fills, text⟩ := Screen.takeAll_bar plain
      ((length_statusBar outcome.session fps).trans width.symm)
      (by rw [height]; exact proper.rows_pos)
    rw [← marks] at taken
    rw [width, height] at fills
    rw [height] at text
    refine ⟨after, taken, plainAfter, fills.congr fun col row => ?_, fun _ => text⟩
    exact ⟨fun inside => ⟨rfl, inside⟩, And.right⟩

/-- A turn that writes a frame and a bar, after emptying the screen or not, stays `InPlace`. -/
theorem inPlace_of_parts {cleared : List Mark} (fits : outcome.session.Fits)
    (proper : outcome.session.Proper) (clears : cleared = [] ∨ cleared = clearing)
    (parts : outcome.marks = cleared ++ outcome.frameMarks ++ outcome.barMarks fps)
    (ready : before.reading = .ready) (plain : Canvas.Plain before)
    (width : before.width = outcome.session.cols) (height : before.height = outcome.session.rows) :
    ∃ emptied framed after, outcome.InPlace fps before emptied framed after := by
  obtain ⟨emptied, clearTaken, emptiedPlain, width', height', cells⟩ :
      ∃ emptied, before.takeAll cleared = some emptied ∧ Canvas.Plain emptied ∧
        emptied.width = before.width ∧ emptied.height = before.height ∧
        (emptied.cells = before.cells ∨ emptied.cells = fun _ _ => []) := by
    rcases clears with rfl | rfl
    · exact ⟨before, rfl, plain, rfl, rfl, .inl rfl⟩
    · exact ⟨_, rfl, ⟨rfl, rfl, rfl⟩, rfl, rfl, .inr rfl⟩
  obtain ⟨framed, frameTaken, framedPlain, frameFills⟩ :=
    takeAll_frameMarks fits emptiedPlain (width'.trans width) (height'.trans height)
  obtain ⟨after, barTaken, plainAfter, barFills, text⟩ := takeAll_barMarks fps proper
    framedPlain (frameFills.width_eq.trans (width'.trans width))
    (frameFills.height_eq.trans (height'.trans height))
  have narrowCleared : ∀ mark ∈ cleared, mark.isNarrow = true := by
    rcases clears with rfl | rfl
    · nofun
    · decide
  have narrow : ∀ mark ∈ outcome.marks, mark.isNarrow = true := by
    intro mark member
    rw [parts] at member
    rcases List.mem_append.1 member with member | member
    · rcases List.mem_append.1 member with member | member
      · exact narrowCleared mark member
      · exact narrow_of_mem_frameMarks member
    · exact narrow_of_mem_barMarks proper member
  have readTaken : ∀ {screen screen' : Screen} {marks : List Mark}, screen.reading = .ready →
      (∀ mark ∈ marks, mark.isNarrow = true) → screen.takeAll marks = some screen' →
      screen.read (Mark.textOf marks).toList = some screen' := by
    intro screen screen' marks ready narrow taken
    rw [Screen.read_textOf ready fun mark member => Mark.isLegible_of_isNarrow (narrow mark member)]
    exact taken
  have emptiedReady := (Screen.reading_of_takeAll clearTaken).trans ready
  have framedReady := (Screen.reading_of_takeAll frameTaken).trans emptiedReady
  have wholeTaken : before.takeAll outcome.marks = some after := by
    rw [parts, Screen.takeAll_append, Screen.takeAll_append, clearTaken, Option.bind_some,
      frameTaken, Option.bind_some, barTaken]
  refine ⟨emptied, framed, after, ?_⟩
  exact {
    clear := ⟨cleared, clears, parts, readTaken ready narrowCleared clearTaken⟩
    emptied_cells := cells
    frame := readTaken emptiedReady (fun _ => narrow_of_mem_frameMarks) frameTaken
    frame_fills := frameFills
    bar := readTaken framedReady (fun _ => narrow_of_mem_barMarks proper) barTaken
    bar_fills := barFills
    bar_text := fun shows => ⟨length_statusBar outcome.session fps, text shows⟩
    apart := by
      intro shows
      obtain ⟨-, shown⟩ : outcome.quit = false ∧ outcome.session.hidden = false := by
        simpa [showsBar] using shows
      rw [shown]
      exact Nat.sub_add_cancel proper.rows_pos
    whole := readTaken ready narrow wholeTaken
    plain := plainAfter
    ready := (Screen.reading_of_takeAll barTaken).trans framedReady
    narrow := narrow }

end Outcome

variable [Words σ] [Units σ α] {session : Session α σ} {outcome : Outcome α σ}
  {events events' : List (Event α)}

/-- What is written on drawing is an empty screen if the session asks for one, the frame and the
bar. -/
theorem marks_of_draw {seconds fps : α} {switched : Bool}
    (run : Runs (session.draw seconds fps switched) events outcome events') :
    outcome.marks = (if session.stale then clearing else []) ++ outcome.frameMarks ++
      outcome.barMarks fps := by
  unfold draw at run
  obtain ⟨⟨stage, drew⟩, _, deliverRun, run⟩ := Runs.of_bind run
  cases (Runs.of_pure run).1
  rfl

/-- Whatever its inputs, a turn writes a frame and a bar, either of which may be empty. -/
theorem marks_of_turn {around : Surroundings α}
    (run : Runs (session.turn around) events outcome events') :
    ∃ cleared, (cleared = [] ∨ cleared = clearing) ∧
      outcome.marks = cleared ++ outcome.frameMarks ++ outcome.barMarks around.fps := by
  cases of_turn run with
  | ended => exact ⟨[], .inl rfl, rfl⟩
  | @drawn _ _ _ themed _ _ _ _ _ _ _ _ _ _ _ _ _ drawRun =>
    refine ⟨_, ?_, marks_of_draw drawRun⟩
    cases themed.stale with
    | false => exact .inl rfl
    | true => exact .inr rfl

/-- However a session got there (`Session.Reached`), what a turn of it writes stays in its place on
a `Screen` of the size that the session then knows, whatever the screen shows: the frame fills the
rows that are left for it (`displayRows`), the status bar fills the last row, no glyph is written
elsewhere, and the screen ends with the default colours. -/
theorem inPlace_of_turn {plan : Plan α} {cols rows : Nat} {entropy : UInt64}
    {around : Surroundings α} (before : Screen) (catalogued : plan.theme ∈ Theme.all)
    (wide : 1 ≤ cols) (high : 1 ≤ rows) (reached : Reached plan cols rows entropy session)
    (run : Runs (session.turn around) events outcome events')
    (ready : before.reading = .ready) (plain : Canvas.Plain before)
    (width : before.width = outcome.session.cols) (height : before.height = outcome.session.rows) :
    ∃ emptied framed after, outcome.InPlace around.fps before emptied framed after := by
  obtain ⟨cleared, clears, parts⟩ := marks_of_turn run
  have proper := (Proper.of_reached catalogued wide high reached).of_turn run
  exact Outcome.inPlace_of_parts (fits_of_turn reached.fits run) proper clears parts ready plain
    width height

/-- The first turn of a session in a terminal of forty columns and four rows. -/
def firstTurn : Reporting ℚ (Outcome ℚ Random.Stream) := do
  let session ← start ⟨.snowfall, true, 100, .mono, 0, 30, 0, false, ⟨1.0, some 7⟩⟩ 40 4 3
  session.turn ⟨[], [], false, 0.02, 30⟩

/-- The first turn draws a frame in three rows and shows the status bar in the fourth. -/
theorem inPlace_of_firstTurn :
    ∃ (outcome : Outcome ℚ Random.Stream) (emptied framed after : Screen),
      outcome.drew = true ∧ outcome.showsBar = true ∧
      displayRows outcome.session.rows outcome.session.hidden = 3 ∧
      outcome.InPlace 30 (.blank 40 4) emptied framed after := by
  have shows : (firstTurn.run []).toOption.any (fun ⟨outcome, _⟩ =>
      outcome.drew && outcome.showsBar && outcome.session.cols == 40 && outcome.session.rows == 4 &&
        displayRows outcome.session.rows outcome.session.hidden == 3) = true := by decide +kernel
  obtain ⟨⟨outcome, _⟩, run, checked⟩ := of_any_toOption shows
  obtain ⟨session, _, startRun, turnRun⟩ := Runs.of_bind run
  simp only [Bool.and_eq_true, beq_iff_eq] at checked
  obtain ⟨⟨⟨⟨drew, bar⟩, cols⟩, rows⟩, left⟩ := checked
  have started : Reached _ 40 4 3 session := .started startRun
  obtain ⟨emptied, framed, after, inPlace⟩ := inPlace_of_turn (.blank 40 4) List.mem_cons_self
    (by decide) (by decide) started turnRun rfl ⟨rfl, rfl, rfl⟩ cols.symm rows.symm
  exact ⟨outcome, emptied, framed, after, drew, bar, left, inPlace⟩

end Session

end Ambience
