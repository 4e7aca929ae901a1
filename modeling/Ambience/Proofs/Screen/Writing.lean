import Ambience.Proofs.Screen.Reading

/-!
# Writing along a row

`Writes` says that a screen was written to from the cursor on, one cell after another, each exactly
once, and nowhere else. What a written cell has to look like is a parameter: the cells of a picture
are given by what they are to show.
-/

namespace Ambience.Screen

variable {β : Type} {shows : Cell → β → Prop} {before middle after : Screen}

/-- From the cursor on, cells were written that show what is wanted, and nothing else changed but
the colours of the next glyph. -/
structure Writes (shows : Cell → β → Prop) (before after : Screen) (wanted : List β) : Prop where
  width_eq : after.width = before.width
  height_eq : after.height = before.height
  row_eq : after.row = before.row
  col_eq : after.col = before.col + wanted.length
  shown :
    ∀ (i : Nat) (b : β), wanted[i]? = some b →
      ∃ cell, after.cells (before.col + i) before.row =
        cell :: before.cells (before.col + i) before.row ∧ shows cell b
  kept :
    ∀ col row, ¬ (row = before.row ∧ before.col ≤ col ∧ col < before.col + wanted.length) →
      after.cells col row = before.cells col row

namespace Writes

theorem refl (screen : Screen) : Writes shows screen screen [] where
  width_eq := rfl
  height_eq := rfl
  row_eq := rfl
  col_eq := rfl
  shown := by rintro _ _ ⟨⟩
  kept _ _ _ := rfl

/-- The colours of the next glyph do not matter before the first cell is written. -/
theorem recolored {wanted : List β} {front behind : Hue} {inverse : Bool}
    (writes : Writes shows { before with front, behind, inverse } after wanted) :
    Writes shows before after wanted where
  width_eq := writes.width_eq
  height_eq := writes.height_eq
  row_eq := writes.row_eq
  col_eq := writes.col_eq
  shown := writes.shown
  kept := writes.kept

/-- Nor do they matter after the last one. -/
theorem recolor {wanted : List β} {front behind : Hue} {inverse : Bool}
    (writes : Writes shows before after wanted) :
    Writes shows before { after with front, behind, inverse } wanted where
  width_eq := writes.width_eq
  height_eq := writes.height_eq
  row_eq := writes.row_eq
  col_eq := writes.col_eq
  shown := writes.shown
  kept := writes.kept

/-- A glyph that shows what is wanted writes it (`Screen.put`). -/
theorem of_put {glyph : Char} {b : β} (written : before.put glyph = some after)
    (displays : shows (before.cell glyph) b) : Writes shows before after [b] := by
  obtain ⟨-, -, rfl⟩ := Screen.of_put written
  refine ⟨rfl, rfl, rfl, rfl, ?_, ?_⟩
  · intro i b' found
    cases i with
    | zero =>
      cases found
      exact ⟨before.cell glyph, if_pos ⟨rfl, rfl⟩, displays⟩
    | succ i => cases found
  · intro col row outside
    refine if_neg ?_
    rintro ⟨rfl, rfl⟩
    exact outside ⟨rfl, Nat.le_refl _, Nat.lt_succ_self _⟩

theorem append {first later : List β} (firstWrites : Writes shows before middle first)
    (laterWrites : Writes shows middle after later) :
    Writes shows before after (first ++ later) := by
  have middleCol := firstWrites.col_eq
  have middleRow := firstWrites.row_eq
  refine ⟨laterWrites.width_eq.trans firstWrites.width_eq,
    laterWrites.height_eq.trans firstWrites.height_eq,
    laterWrites.row_eq.trans middleRow, ?_, ?_, ?_⟩
  · rw [laterWrites.col_eq, middleCol, List.length_append, Nat.add_assoc]
  · intro i b found
    by_cases early : i < first.length
    · rw [List.getElem?_append_left early] at found
      obtain ⟨cell, cellAt, shown⟩ := firstWrites.shown i b found
      refine ⟨cell, ?_, shown⟩
      rw [laterWrites.kept _ _ (by omega)]
      exact cellAt
    · rw [List.getElem?_append_right (by omega)] at found
      obtain ⟨cell, cellAt, shown⟩ := laterWrites.shown _ b found
      refine ⟨cell, ?_, shown⟩
      have place : middle.col + (i - first.length) = before.col + i := by omega
      rw [place, middleRow] at cellAt
      rw [cellAt, firstWrites.kept _ _ (by omega)]
  · intro col row outside
    rw [List.length_append] at outside
    rw [laterWrites.kept col row (by omega), firstWrites.kept col row (by omega)]

end Writes

variable (shows) in
/-- Glyphs are written one after another in the same colours, if there is room for them on the
row. -/
theorem takeAll_glyphs {wanted : List β} (glyph : β → Char)
    (showAll : ∀ b, shows (before.cell (glyph b)) b)
    (fits : before.col + wanted.length ≤ before.width) (inside : before.row < before.height) :
    ∃ after, before.takeAll (wanted.map fun b => .glyph (glyph b)) = some after ∧
      Writes shows before after wanted ∧ after.front = before.front ∧
      after.behind = before.behind ∧ after.inverse = before.inverse := by
  induction wanted generalizing before with
  | nil => exact ⟨before, rfl, .refl before, rfl, rfl, rfl⟩
  | cons b later ih =>
    rw [List.length_cons] at fits
    obtain ⟨next, written⟩ : ∃ next, before.put (glyph b) = some next := by
      rw [put, if_pos ⟨by omega, inside⟩]
      exact ⟨_, rfl⟩
    have first := Writes.of_put written (showAll b)
    have width := first.width_eq
    have col := first.col_eq
    rw [List.length_singleton] at col
    obtain ⟨-, -, next_eq⟩ := Screen.of_put written
    have sameCell : ∀ c, next.cell c = before.cell c := by
      intro c
      rw [next_eq]
      rfl
    obtain ⟨after, taken, writes, front, behind, inverse⟩ := ih
      (fun b => by rw [sameCell]; exact showAll b) (by omega)
      (by rw [first.row_eq, first.height_eq]; exact inside)
    rw [next_eq] at front behind inverse
    refine ⟨after, ?_, first.append writes, front, behind, inverse⟩
    rw [List.map_cons, takeAll, take, written]
    exact taken

end Ambience.Screen
