import Mathlib.Order.Monotone.Basic
import Mathlib.Tactic.Linarith
import Ambience.Motion
import Ambience.Proofs.Scalar.Exact

/-!
# Fading in and out

How visible something is that lives for a limited time depends on nothing but how far its life is from
the nearer of its two ends, as a share of the whole: the fade climbs evenly from zero at the end to one at
the share it is given, and stays there. So it is the same from both ends, grows toward the middle of a
life, and there is nothing to be seen outside of it.
-/

namespace Ambience.Motion

variable {α : Type} [ExactScalar α] {life life' maxLife window : α}

/-! ## Shares of a life -/

/-- The share of a life that a fade takes: what was asked for, brought between a millionth and a half. -/
def fadeShare (window : α) : α := Scalar.clamp window 0.000001 0.5

/-- The `fadeShare` of a window is the window, brought between a millionth and a half. -/
theorem fadeShare_eq (window : α) : fadeShare window = min (max window (1 / 1000000)) (1 / 2) := by
  rw [fadeShare, ExactScalar.clamp_eq, ExactScalar.literal_eq, ExactScalar.literal_eq]
  norm_num

theorem fadeShare_pos (window : α) : 0 < fadeShare window := by
  rw [fadeShare_eq]
  exact lt_min (lt_max_of_lt_right (by norm_num)) (by norm_num)

/-- How far a life is from its nearer end, as a share of the whole; it is negative outside of the life. -/
def nearerEnd (life maxLife : α) : α := min (1 - life / maxLife) (life / maxLife)

/-- The distance from the nearer end of a life is the same from both ends. -/
theorem nearerEnd_mirror (positive : 0 < maxLife) :
    nearerEnd (maxLife - life) maxLife = nearerEnd life maxLife := by
  have mirrored : (maxLife - life) / maxLife = 1 - life / maxLife := by
    rw [sub_div, div_self positive.ne']
  rw [nearerEnd, mirrored, sub_sub_cancel, min_comm, nearerEnd]

/-- It is positive inside of the life and nowhere else. -/
theorem nearerEnd_pos_iff (positive : 0 < maxLife) :
    0 < nearerEnd life maxLife ↔ 0 < life ∧ life < maxLife := by
  rw [nearerEnd, lt_min_iff, sub_pos, div_lt_one positive, div_pos_iff_of_pos_right positive, and_comm]

/-- In the half of a life that is nearer to its end, the share that is left is the distance. -/
theorem nearerEnd_of_le_half (positive : 0 < maxLife) (late : life ≤ maxLife / 2) :
    nearerEnd life maxLife = life / maxLife := by
  have share : life / maxLife ≤ 1 / 2 := by
    rw [div_le_iff₀ positive]
    linarith
  exact min_eq_right (by linarith)

/-- Toward the middle of a life the nearer end is farther away. -/
theorem nearerEnd_mono (positive : 0 < maxLife) (le : life ≤ life') (late : life' ≤ maxLife / 2) :
    nearerEnd life maxLife ≤ nearerEnd life' maxLife := by
  rw [nearerEnd_of_le_half positive (le.trans late), nearerEnd_of_le_half positive late]
  exact div_le_div_of_nonneg_right le positive.le

/-! ## The fade -/

/-- Bringing a share between zero and one before its distance from the ends is taken changes the
distance only where it is negative. -/
theorem max_nearer_confined (share : α) :
    max (min (1 - min (max share 0) 1) (min (max share 0) 1)) 0 = max (min (1 - share) share) 0 := by
  rcases le_total share 0 with before | after
  · rw [max_eq_right before, min_eq_left zero_le_one, sub_zero, min_eq_right zero_le_one, max_self,
      max_eq_right ((min_le_right _ _).trans before)]
  · rw [max_eq_left after]
    rcases le_total share 1 with within | past
    · rw [min_eq_left within]
    · rw [min_eq_right past, sub_self, min_eq_left zero_le_one, max_self,
        max_eq_right ((min_le_left _ _).trans (sub_nonpos.2 past))]

/-- The `lifeFade` climbs from zero at an end of a life to one at the distance `fadeShare` from
it. -/
theorem lifeFade_eq (positive : 0 < maxLife) (life window : α) :
    lifeFade life maxLife window = min (max (nearerEnd life maxLife) 0 / fadeShare window) 1 := by
  have lives : ¬ maxLife ≤ 0.0 := by
    rw [ExactScalar.zero_literal]
    exact not_le.2 positive
  have share := (fadeShare_pos window).le
  rw [lifeFade, if_neg lives]
  simp only [ExactScalar.clamp_unit_eq, ExactScalar.least_eq]
  rw [← fadeShare, ExactScalar.one_literal, min_div_div_right share, nearerEnd, ← max_nearer_confined,
    ← max_div_div_right share, zero_div]

theorem lifeFade_mem (positive : 0 < maxLife) (life window : α) :
    0 ≤ lifeFade life maxLife window ∧ lifeFade life maxLife window ≤ 1 := by
  rw [lifeFade_eq positive]
  exact ⟨le_min (div_nonneg (le_max_right _ 0) (fadeShare_pos window).le) zero_le_one, min_le_right _ 1⟩

/-- What is nearer to an end is fainter. -/
theorem lifeFade_le_of_nearer (positive : 0 < maxLife) (window : α)
    (nearer : nearerEnd life maxLife ≤ nearerEnd life' maxLife) :
    lifeFade life maxLife window ≤ lifeFade life' maxLife window := by
  rw [lifeFade_eq positive, lifeFade_eq positive]
  exact min_le_min_right 1
    (div_le_div_of_nonneg_right (max_le_max_right 0 nearer) (fadeShare_pos window).le)

/-- Something can be seen inside of its life and nowhere else. -/
theorem lifeFade_pos_iff (positive : 0 < maxLife) (life window : α) :
    0 < lifeFade life maxLife window ↔ 0 < life ∧ life < maxLife := by
  rw [lifeFade_eq positive, lt_min_iff, div_pos_iff_of_pos_right (fadeShare_pos window), lt_max_iff,
    ← nearerEnd_pos_iff positive]
  simp

theorem lifeFade_eq_zero_iff (positive : 0 < maxLife) (life window : α) :
    lifeFade life maxLife window = 0 ↔ life ≤ 0 ∨ maxLife ≤ life := by
  have nonneg := (lifeFade_mem positive life window).1
  rw [← nonneg.not_lt_iff_eq', lifeFade_pos_iff positive, not_and_or, not_lt, not_lt]

/-- A life is at its brightest exactly where both ends are at least the `fadeShare` away. -/
theorem lifeFade_eq_one_iff (positive : 0 < maxLife) (life window : α) :
    lifeFade life maxLife window = 1 ↔
      fadeShare window ≤ 1 - life / maxLife ∧ fadeShare window ≤ life / maxLife := by
  have share := fadeShare_pos window
  rw [lifeFade_eq positive, min_eq_right_iff, one_le_div share, le_max_iff, nearerEnd, le_min_iff]
  simp [share]

/-- It fades out at the end of a life as it fades in at the beginning. -/
theorem lifeFade_mirror (positive : 0 < maxLife) (life window : α) :
    lifeFade (maxLife - life) maxLife window = lifeFade life maxLife window := by
  rw [lifeFade_eq positive, lifeFade_eq positive, nearerEnd_mirror positive]

/-- In the second half of a life it gets fainter as the life runs down. -/
theorem lifeFade_monotoneOn (positive : 0 < maxLife) (window : α) :
    MonotoneOn (fun life => lifeFade life maxLife window) (Set.Iic (maxLife / 2)) :=
  fun _ _ _ late le => lifeFade_le_of_nearer positive window (nearerEnd_mono positive le late)

/-- In the first half it gets brighter. -/
theorem lifeFade_antitoneOn (positive : 0 < maxLife) (window : α) :
    AntitoneOn (fun life => lifeFade life maxLife window) (Set.Ici (maxLife / 2)) := by
  intro life early life' _ le
  -- The first half of a life is the mirror image of the second.
  have late : maxLife - life ≤ maxLife / 2 := by linarith [Set.mem_Ici.1 early]
  have nearer := nearerEnd_mono positive (sub_le_sub_left le maxLife) late
  rw [nearerEnd_mirror positive, nearerEnd_mirror positive] at nearer
  exact lifeFade_le_of_nearer positive window nearer

/-- The `lifeFade` is a window that is the same from both ends of a life. It is between zero and
one; it is zero before the life begins and after it is over, and nowhere else; and it is one exactly
where both the share of the life that has passed and the share that is left are at least the
`fadeShare`. As the life runs down, it never falls in the first half and never climbs in the
second. -/
theorem lifeFade_window (positive : 0 < maxLife) (window : α) :
    (∀ life, 0 ≤ lifeFade life maxLife window ∧ lifeFade life maxLife window ≤ 1) ∧
    (∀ life, lifeFade life maxLife window = 0 ↔ life ≤ 0 ∨ maxLife ≤ life) ∧
    (∀ life, lifeFade life maxLife window = 1 ↔
      fadeShare window ≤ 1 - life / maxLife ∧ fadeShare window ≤ life / maxLife) ∧
    (∀ life, lifeFade life maxLife window = lifeFade (maxLife - life) maxLife window) ∧
    AntitoneOn (fun life => lifeFade life maxLife window) (Set.Ici (maxLife / 2)) ∧
    MonotoneOn (fun life => lifeFade life maxLife window) (Set.Iic (maxLife / 2)) :=
  ⟨fun life => lifeFade_mem positive life window, fun life => lifeFade_eq_zero_iff positive life window,
    fun life => lifeFade_eq_one_iff positive life window,
    fun life => (lifeFade_mirror positive life window).symm, lifeFade_antitoneOn positive window,
    lifeFade_monotoneOn positive window⟩

/-- A fade over three twentieths of a life of two hundred frames: it is dark in the first frame, as
bright after ten of them as ten before the last, and at its brightest from thirty after the first to
thirty before the last, but not yet, or no longer, one frame further out. -/
theorem lifeFade_window_twoHundred :
    (0 : ℚ) < 200 ∧ lifeFade (200 : ℚ) 200 (3 / 20) = 0 ∧
      lifeFade (190 : ℚ) 200 (3 / 20) = lifeFade (10 : ℚ) 200 (3 / 20) ∧
      lifeFade (170 : ℚ) 200 (3 / 20) = 1 ∧ lifeFade (30 : ℚ) 200 (3 / 20) = 1 ∧
      lifeFade (171 : ℚ) 200 (3 / 20) < 1 ∧ lifeFade (29 : ℚ) 200 (3 / 20) < 1 := by
  have positive : (0 : ℚ) < 200 := by norm_num
  have share : fadeShare (3 / 20 : ℚ) = 3 / 20 := by norm_num [fadeShare_eq]
  obtain ⟨within, dark, bright, mirror, -, -⟩ := lifeFade_window positive (3 / 20 : ℚ)
  rw [share] at bright
  have ends := mirror 190
  norm_num at ends
  refine ⟨positive, (dark 200).2 (.inr le_rfl), ends, (bright 170).2 ?_, (bright 30).2 ?_,
    (within 171).2.lt_of_ne fun full => ?_, (within 29).2.lt_of_ne fun full => ?_⟩
  · norm_num
  · norm_num
  · have reached := (bright 171).1 full
    norm_num at reached
  · have reached := (bright 29).1 full
    norm_num at reached

end Ambience.Motion
