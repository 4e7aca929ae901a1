import Ambience.Proofs.Screen.Writing
import Ambience.Proofs.Theme.Order
import Ambience.Session

/-!
# The status bar

The status bar is cut or padded to the width of its terminal. Its text is made of the name of a theme,
of numbers and of fixed pieces, all of whose characters take up one cell each, so that it fills the
row that it is written to and leaves every other row alone.
-/

namespace Ambience

/-! ## Characters -/

namespace Text

/-- Whether each character of a text takes up one cell. -/
def isNarrow (text : String) : Bool := text.toList.all Screen.isNarrow

@[simp] theorem isNarrow_append (first later : String) :
    isNarrow (first ++ later) = (isNarrow first && isNarrow later) := by
  rw [isNarrow, String.toList_append, List.all_append]
  rfl

/-- A count is written in digits. -/
theorem isNarrow_repr (n : Nat) : isNarrow n.repr = true := by
  rw [isNarrow, Nat.toList_repr, List.all_eq_true]
  intro c member
  have digit := Nat.isDigit_of_mem_toDigits (by decide) (by decide) member
  simp only [Char.isDigit, Bool.and_eq_true, decide_eq_true_eq, UInt32.le_iff_toNat_le] at digit
  have low : 48 ≤ c.toNat := digit.1
  have high : c.toNat ≤ 57 := digit.2
  simp only [Screen.isNarrow, Bool.or_eq_true, Bool.and_eq_true, decide_eq_true_eq]
  omega

theorem isNarrow_whole {α : Type} [Scalar α] (x : α) : isNarrow (whole x) = true := by
  unfold whole
  split
  · decide
  have size : isNarrow (if Scalar.isFinite x then toString (nearestEven (Scalar.magnitude x))
      else "inf") = true := by
    split
    · exact isNarrow_repr _
    · decide
  dsimp only
  split
  · rw [isNarrow_append, size]
    rfl
  · exact size

end Text

variable {α σ : Type} [Scalar α]

theorem Theme.isNarrow_name {theme : Theme α} (member : theme ∈ all) :
    Text.isNarrow theme.name = true := by
  have named : theme.name ∈ names (α := α) := List.mem_map_of_mem member
  have listed : names (α := α) = ["snowfall", "sakura", "fireflies", "starfield", "koi", "zen",
      "embers", "bamboo", "dunes"] := rfl
  have narrow : ∀ name ∈ ["snowfall", "sakura", "fireflies", "starfield", "koi", "zen",
      "embers", "bamboo", "dunes"], Text.isNarrow name = true := by decide
  rw [listed] at named
  exact narrow _ named

namespace Session

variable {session : Session α σ}

/-- The status of a session that shows a theme of the catalog is narrow. -/
theorem isNarrow_status (catalogued : session.stage.theme ∈ Theme.all) (fps : α) :
    Text.isNarrow (session.status fps) = true := by
  have side : Text.isNarrow (if session.stage.controls.dark then "dark" else "light") = true := by
    split <;> decide
  have state : Text.isNarrow (if session.stage.isRunning then "" else " [paused]") = true := by
    split <;> decide
  simp only [status, toString, Text.isNarrow_append, Theme.isNarrow_name catalogued, side, state,
    Text.isNarrow_whole, Text.isNarrow_repr, Bool.and_true]
  -- what is left are the fixed pieces
  decide

/-- Each character of the bar (`Session.statusBar`) takes up one cell. -/
theorem narrow_of_mem_statusBar (catalogued : session.stage.theme ∈ Theme.all) {fps : α} {c : Char}
    (member : c ∈ session.statusBar fps) : Screen.isNarrow c = true := by
  rcases List.mem_append.1 member with shown | blank
  · have narrow := isNarrow_status catalogued fps
    rw [Text.isNarrow, List.all_eq_true] at narrow
    exact narrow c (List.mem_of_mem_take shown)
  · rw [List.eq_of_mem_replicate blank]
    decide

/-- The bar is as long as the terminal is wide, by blanks at its end or by leaving out what has no
room. -/
theorem length_statusBar (session : Session α σ) (fps : α) :
    (session.statusBar fps).length = session.cols := by
  rw [statusBar, List.length_append, List.length_replicate, List.length_take]
  omega

end Session

end Ambience
