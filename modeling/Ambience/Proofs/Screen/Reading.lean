import Ambience.Proofs.Screen.Basic

/-!
# Reading the text of marks

A screen that reads the text of a mark does what the mark does: the digits of a parameter give back
the number, and the last character of a sequence carries it out with all its parameters.
-/

namespace Ambience.Screen

variable {screen : Screen}

/-- A text is read piece by piece, as long as none of it is unknown to the screen. -/
theorem read_append (first later : List Char) :
    screen.read (first ++ later) = (screen.read first).bind fun screen => screen.read later := by
  induction first generalizing screen with
  | nil => rfl
  | cons c first ih =>
    simp only [List.cons_append, read]
    cases screen.receive c with
    | none => rfl
    | some next => exact ih

theorem takeAll_append (first later : List Mark) :
    screen.takeAll (first ++ later) =
      (screen.takeAll first).bind fun screen => screen.takeAll later := by
  induction first generalizing screen with
  | nil => rfl
  | cons mark first ih =>
    simp only [List.cons_append, takeAll]
    cases screen.take mark with
    | none => rfl
    | some next => exact ih

/-! ## Parameters -/

/-- Digits continue the last parameter of a sequence. -/
theorem read_digits {digits : List Char} (allDigits : ∀ c ∈ digits, c.isDigit = true)
    (earlier : List Nat) (last : Nat) :
    { screen with reading := .sequence earlier last }.read digits =
      some { screen with reading := .sequence earlier (Nat.ofDigitChars 10 digits last) } := by
  induction digits generalizing last with
  | nil => rfl
  | cons c digits ih =>
    have digit := allDigits c List.mem_cons_self
    have rest := ih (fun c member => allDigits c (List.mem_cons_of_mem _ member))
      (10 * last + (c.toNat - '0'.toNat))
    rw [Nat.ofDigitChars_cons, ← rest]
    simp only [read, receive, digit, if_true, Option.bind_some]

theorem read_number (earlier : List Nat) (n : Nat) :
    { screen with reading := .sequence earlier 0 }.read (toString n).toList =
      some { screen with reading := .sequence earlier n } := by
  rw [Nat.toString_eq_repr, Nat.toList_repr,
    read_digits fun c member => Nat.isDigit_of_mem_toDigits (by decide) (by decide) member,
    Nat.ofDigitChars_ten_toDigits]

/-- Parameters are read one after another, the last of them being kept apart. -/
theorem read_parameters (earlier front : List Nat) (last : Nat) :
    { screen with reading := .sequence earlier 0 }.read
        (TerminalColor.parameters (front ++ [last])).toList =
      some { screen with reading := .sequence (earlier ++ front) last } := by
  induction front generalizing earlier with
  | nil =>
    rw [List.append_nil]
    exact read_number earlier last
  | cons n front ih =>
    obtain ⟨next, later, more⟩ : ∃ next later, front ++ [last] = next :: later := by
      cases front with
      | nil => exact ⟨_, _, rfl⟩
      | cons next front => exact ⟨_, _, rfl⟩
    have split : (TerminalColor.parameters (n :: front ++ [last])).toList =
        (toString n).toList ++ ';' :: (TerminalColor.parameters (front ++ [last])).toList := by
      rw [List.cons_append, more]
      simp only [TerminalColor.parameters, List.map_cons, String.intercalate_cons_cons,
        String.toList_append]
      rw [List.append_assoc]
      rfl
    rw [split, read_append, read_number]
    show ({ screen with reading := .sequence earlier n } : Screen).read _ = _
    have rest := ih (earlier ++ [n])
    rw [List.append_assoc] at rest
    exact rest

/-! ## Control sequences -/

/-- The text of a control sequence. -/
def sequenceText (codes : List Nat) (final : Char) : List Char :=
  '\x1b' :: '[' :: ((TerminalColor.parameters codes).toList ++ [final])

/-- A sequence is carried out by its last character (`Screen.control`), and the screen is then
between characters again. -/
theorem read_sequence (ready : screen.reading = .ready) {codes : List Nat} (present : codes ≠ [])
    {final : Char} (notDigit : final.isDigit = false) (notBreak : final ≠ ';') :
    screen.read (sequenceText codes final) = screen.control codes final := by
  have opened : ∀ later, screen.read ('\x1b' :: '[' :: later) =
      { screen with reading := .sequence [] 0 }.read later := by
    intro later
    simp only [read, receive, ready, if_true, Option.bind_some]
  have ended : ({ screen with reading := .ready } : Screen) = screen := by
    rw [← ready]
  obtain ⟨front, last, rfl⟩ : ∃ front last, codes = front ++ [last] :=
    ⟨_, _, (List.dropLast_concat_getLast present).symm⟩
  rw [sequenceText, opened, read_append, read_parameters, List.nil_append, Option.bind_some]
  simp only [read, receive, notDigit, if_neg notBreak, Bool.false_eq_true, if_false, ended,
    Option.bind_fun_some]

/-! ## Marks -/

theorem toList_foreground (color : TerminalColor) :
    (Mark.foreground color).text.toList = sequenceText color.foreground 'm' := by
  rw [Mark.text, String.toList_append, String.toList_append]
  rfl

theorem toList_background (color : TerminalColor) :
    (Mark.background color).text.toList = sequenceText color.background 'm' := by
  rw [Mark.text, String.toList_append, String.toList_append]
  rfl

theorem toList_row (number : Nat) :
    (Mark.row number).text.toList = sequenceText [number, 1] 'H' := by
  rw [Mark.text, String.toList_append, String.toList_append, sequenceText,
    TerminalColor.parameters, List.map_cons, List.map_cons, List.map_nil,
    String.intercalate_cons_cons, String.intercalate_singleton, String.toList_append,
    String.toList_append]
  simp only [List.append_assoc]
  rfl

theorem foreground_ne_nil (color : TerminalColor) : color.foreground ≠ [] := by
  cases color <;> exact List.cons_ne_nil _ _

theorem background_ne_nil (color : TerminalColor) : color.background ≠ [] := by
  cases color <;> exact List.cons_ne_nil _ _

/-- Reading the text of a mark, by `Screen.read`, does what the mark does, by `Screen.take`. -/
theorem read_text (ready : screen.reading = .ready) {mark : Mark} (legible : mark.isLegible = true) :
    screen.read mark.text.toList = screen.take mark := by
  cases mark with
  | glyph c =>
    have notEscape : c ≠ '\x1b' := by
      rintro rfl
      cases legible
    have glyph : isGlyph c = true := legible
    simp only [Mark.text, String.toList_singleton, read, receive, ready, if_neg notEscape, glyph,
      if_true, Option.bind_fun_some, take]
  | foreground color =>
    rw [toList_foreground]
    exact read_sequence ready (foreground_ne_nil color) rfl (by decide)
  | background color =>
    rw [toList_background]
    exact read_sequence ready (background_ne_nil color) rfl (by decide)
  | row number =>
    rw [toList_row]
    exact read_sequence ready (List.cons_ne_nil number [1]) rfl (by decide)
  | inverse =>
    have text : Mark.inverse.text.toList = sequenceText [7] 'm' := by decide
    rw [text]
    exact read_sequence ready (List.cons_ne_nil 7 []) rfl (by decide)
  | plain =>
    have text : Mark.plain.text.toList = sequenceText [0] 'm' := by decide
    rw [text]
    exact read_sequence ready (List.cons_ne_nil 0 []) rfl (by decide)
  | wipe =>
    have text : Mark.wipe.text.toList = sequenceText [2] 'J' := by decide
    rw [text]
    exact read_sequence ready (List.cons_ne_nil 2 []) rfl (by decide)
  | home =>
    have text : Mark.home.text.toList = ['\x1b', '[', 'H'] := by decide
    rw [text]
    have ended : ({ screen with reading := .ready } : Screen) = screen := by
      rw [← ready]
    have notDigit : 'H'.isDigit = false := rfl
    have notBreak : 'H' ≠ ';' := by decide
    simp only [read, receive, ready, if_true, notDigit, if_neg notBreak, Bool.false_eq_true,
      if_false, ended, Option.bind_some, Option.bind_fun_some]
    rfl

/-! ## Texts of marks -/

variable {after : Screen}

/-- A glyph is written under the cursor, inside the grid, and the cursor moves on by one cell. -/
theorem of_put {glyph : Char} (written : screen.put glyph = some after) :
    screen.col < screen.width ∧ screen.row < screen.height ∧
      after =
        { screen with
          col := screen.col + 1
          cells := fun col row =>
            if col = screen.col ∧ row = screen.row then screen.cell glyph :: screen.cells col row
            else screen.cells col row } := by
  unfold put at written
  split at written
  · rename_i inside
    exact ⟨inside.1, inside.2, (Option.some.inj written).symm⟩
  · cases written

theorem of_selectNamed {code : Nat} (selected : screen.selectNamed code = some after) :
    ∃ front behind, after = { screen with front, behind } := by
  unfold selectNamed at selected
  split at selected
  · exact ⟨_, screen.behind, (Option.some.inj selected).symm⟩
  split at selected
  · exact ⟨screen.front, _, (Option.some.inj selected).symm⟩
  split at selected
  · exact ⟨_, screen.behind, (Option.some.inj selected).symm⟩
  split at selected
  · exact ⟨screen.front, _, (Option.some.inj selected).symm⟩
  · cases selected

/-- A selection changes nothing but the colours of the next glyph. -/
theorem of_select {codes : List Nat} (selected : screen.select codes = some after) :
    ∃ front behind inverse, after = { screen with front, behind, inverse } := by
  fun_induction select screen codes with
  | case1 screen => exact ⟨_, _, _, (Option.some.inj selected).symm⟩
  | case8 screen code later _ _ _ _ _ _ ih =>
    obtain ⟨named, namedAt, selected⟩ := Option.bind_eq_some_iff.1 selected
    obtain ⟨front, behind, rfl⟩ := of_selectNamed namedAt
    obtain ⟨front, behind, inverse, rfl⟩ := ih _ selected
    exact ⟨front, behind, inverse, rfl⟩
  | _ =>
    rename_i ih
    obtain ⟨front, behind, inverse, rfl⟩ := ih selected
    exact ⟨front, behind, inverse, rfl⟩

/-- Marks leave a screen between characters. -/
theorem reading_of_take {mark : Mark} (taken : screen.take mark = some after) :
    after.reading = screen.reading := by
  cases mark with
  | glyph c =>
    obtain ⟨-, -, rfl⟩ := of_put taken
    rfl
  | foreground | background | inverse | plain =>
    obtain ⟨_, _, _, rfl⟩ := of_select taken
    rfl
  | home | row | wipe =>
    cases taken
    rfl

theorem reading_of_takeAll {marks : List Mark} (taken : screen.takeAll marks = some after) :
    after.reading = screen.reading := by
  induction marks generalizing screen with
  | nil =>
    cases taken
    rfl
  | cons mark later ih =>
    obtain ⟨middle, markTaken, laterTaken⟩ := Option.bind_eq_some_iff.1 taken
    exact (ih laterTaken).trans (reading_of_take markTaken)

/-- Reading the text of marks (`Mark.textOf`) does what the marks do, one after another. -/
theorem read_textOf (ready : screen.reading = .ready) {marks : List Mark}
    (legible : ∀ mark ∈ marks, mark.isLegible = true) :
    screen.read (Mark.textOf marks).toList = screen.takeAll marks := by
  rw [Mark.textOf, String.toList_join]
  induction marks generalizing screen with
  | nil => rfl
  | cons mark later ih =>
    rw [List.map_cons, List.flatMap_cons, read_append,
      read_text ready (legible mark List.mem_cons_self), takeAll]
    cases taken : screen.take mark with
    | none => rfl
    | some next =>
      have nextReady : next.reading = .ready := (reading_of_take taken).trans ready
      exact ih nextReady fun mark member => legible mark (List.mem_cons_of_mem _ member)

end Ambience.Screen
