import Ambience.Scalar.Rational
import Ambience.Proofs.Theme.Order
import Mathlib.Data.Int.ModEq
import Mathlib.Data.List.Perm.Subperm

/-!
# Going round the themes

Going on from a theme by an offset is an action of the whole numbers on the ring of themes, as long as
the places that are added up are machine words. Only whole rounds lead back to a theme. An offset that
has no factor in common with the number of themes, taken again and again, therefore goes through all of
them before it returns; one place forward and one place back are such offsets.
-/

namespace Ambience.Theme

variable {α : Type} [Scalar α] {theme : Theme α} {current : String} {offset step : Int}

/-! ## One move -/

/-- A whole number that a machine word holds. -/
def IsWord (n : Int) : Prop := Int64.minValue.toInt ≤ n ∧ n ≤ Int64.maxValue.toInt

/-- A move to a place that a machine word holds leads to `Theme.after`. -/
theorem cycle_eq (word : IsWord (place (α := α) current + offset)) :
    cycle current offset = .ok (after current offset : Theme α) :=
  if_pos word

/-- A move is possible exactly if a machine word holds the place that it leads to (`IsWord`). -/
theorem exists_cycle_iff :
    (∃ reached : Theme α, cycle current offset = .ok reached) ↔
      IsWord (place (α := α) current + offset) := by
  constructor
  · rintro ⟨reached, moved⟩
    by_contra past
    have faulty : cycle (α := α) current offset = .error .overflow := if_neg past
    rw [faulty] at moved
    cases moved
  · intro word
    exact ⟨after current offset, cycle_eq word⟩

theorem place_lt (member : theme ∈ all) : place (α := α) theme.name < 9 := by
  obtain ⟨i, found⟩ := List.getElem?_of_mem member
  rw [place_eq found]
  exact (List.getElem?_eq_some_iff.1 found).1

/-- Only whole rounds lead back to a theme. -/
theorem after_eq_self_iff (member : theme ∈ all) : after theme.name offset = theme ↔ 9 ∣ offset := by
  have whole := after_eq_after member offset 0
  rw [after_zero member] at whole
  rw [whole]
  omega

theorem name_after_iff (member : theme ∈ all) :
    (after theme.name offset : Theme α).name = theme.name ↔ 9 ∣ offset := by
  rw [← after_eq_self_iff member]
  exact ⟨eq_of_name (after_mem member offset) member, congrArg name⟩

/-- The three sums that are made when two moves, one after the other, are compared with a single one are
machine words. -/
structure SumsFit (α : Type) [Scalar α] (current : String) (first second : Int) : Prop where
  first_word : IsWord (place (α := α) current + first)
  second_word : IsWord (place (α := α) (after (α := α) current first).name + second)
  both_word : IsWord (place (α := α) current + (first + second))

/-! ## Repeated moves -/

/-- The themes that are reached by moving on by `step` again and again, each time from the name of the
theme reached before. -/
def tour (step : Int) (current : String) : Nat → Except Fault (List (Theme α))
  | 0 => .ok []
  | moves + 1 => do
    let next ← cycle current step
    let rest ← tour step next.name moves
    return next :: rest

/-- The theme that the move after `moves` others leads to. -/
def landing (step : Int) (theme : Theme α) (moves : Nat) : Theme α :=
  after theme.name (step * (moves + 1))

theorem landing_mem (member : theme ∈ all) (moves : Nat) : landing step theme moves ∈ all :=
  after_mem member _

/-- Where a move of a tour leads (`landing`) is where the move before it leads if the tour starts
one theme later. -/
theorem landing_after (member : theme ∈ all) (moves : Nat) :
    landing step (after theme.name step) moves = landing step theme (moves + 1) := by
  have total : step + step * (moves + 1) = step * ((moves + 1 : Nat) + 1) := by
    push_cast
    ring
  rw [landing, landing, after_after member, total]

/-- A `tour` whose moves are all possible lands on multiples of its step. -/
theorem tour_eq (member : theme ∈ all) (words : ∀ i : Nat, i < 9 → IsWord (i + step)) (moves : Nat) :
    tour step theme.name moves = .ok ((List.range moves).map (landing step theme)) := by
  induction moves generalizing theme with
  | zero => rfl
  | succ moves ih =>
    have moved : cycle theme.name step = .ok (after theme.name step : Theme α) :=
      cycle_eq (words _ (place_lt member))
    have first : landing step theme 0 = after theme.name step := by simp [landing]
    have shifted : (List.range moves).map (landing step (after theme.name step)) =
        (List.range moves).map (landing step theme ∘ Nat.succ) :=
      List.map_congr_left fun k _ => landing_after member k
    rw [tour, moved]
    show (tour step (after theme.name step : Theme α).name moves).bind _ = _
    rw [ih (after_mem member step), shifted, List.range_succ_eq_map, List.map_cons, List.map_map, first]
    rfl

/-- As many moves as there are themes do not lead to one theme twice, if the step has no factor in common
with that number. -/
theorem nodup_landing (member : theme ∈ all) (coprime : Int.gcd 9 step = 1) :
    ((List.range 9).map (landing step theme)).Nodup := by
  refine List.nodup_range.map_on fun i inRange j inRange' same => ?_
  have i_lt := List.mem_range.1 inRange
  have j_lt := List.mem_range.1 inRange'
  have apart : (9 : Int) ∣ step * (i - j) := by
    have congruent : step * (i + 1) ≡ step * (j + 1) [ZMOD 9] := (after_eq_after member _ _).1 same
    have whole := congruent.symm.dvd
    rwa [← mul_sub, add_sub_add_right_eq_sub] at whole
  have whole := Int.dvd_of_dvd_mul_right_of_gcd_one apart coprime
  omega

/-- A `tour` of nine moves by a step without a factor in common with nine visits every other theme
once, and ends where it began. -/
theorem tour_of_coprime (member : theme ∈ all) (words : ∀ i : Nat, i < 9 → IsWord (i + step))
    (coprime : Int.gcd 9 step = 1) :
    ∃ others : List (Theme α), (theme :: others).Perm all ∧
      tour step theme.name 9 = .ok (others ++ [theme]) := by
  have returns : landing step theme 8 = theme :=
    (after_eq_self_iff member).2 (Dvd.intro_left step rfl)
  have listed : (List.range 9).map (landing step theme) ⊆ all := by
    intro other visited
    obtain ⟨k, -, rfl⟩ := List.mem_map.1 visited
    exact landing_mem member k
  have visitsAll : ((List.range 9).map (landing step theme)).Perm all :=
    ((nodup_landing member coprime).subperm listed).perm_of_length_le (Nat.le_refl 9)
  have toured := tour_eq member words 9
  rw [List.range_succ, List.map_append, List.map_singleton, returns] at visitsAll toured
  exact ⟨_, (List.perm_append_singleton _ _).symm.trans visitsAll, toured⟩

/-! ## The ring -/

/-- The themes form a ring under `Theme.cycle`. A move is possible exactly if the place that it
leads to is a machine word (`IsWord`). Two moves lead where a single one by both offsets leads, a
move leads back exactly if it goes over whole rounds, and going on by one place, or back by one
place, leads to each of the other themes once and then back (`tour`). -/
theorem cycle_turns_ring (listed : current ∈ names (α := α)) :
    (∀ first second, SumsFit α current first second →
      ∃ middle last : Theme α, cycle current first = .ok middle ∧
        cycle middle.name second = .ok last ∧ cycle current (first + second) = .ok last) ∧
    (∀ offset, (∃ reached : Theme α, cycle current offset = .ok reached) ↔
      IsWord (place (α := α) current + offset)) ∧
    (∀ offset (reached : Theme α), cycle current offset = .ok reached →
      (reached.name = current ↔ ((all (α := α)).length : Int) ∣ offset)) ∧
    ∀ step ∈ [1, -1], ∃ (start : Theme α) (others : List (Theme α)), start.name = current ∧
      (start :: others).Perm all ∧ tour step current (all (α := α)).length = .ok (others ++ [start]) := by
  obtain ⟨theme, member, rfl⟩ := List.mem_map.1 listed
  refine ⟨fun first second fit => ?_, fun offset => exists_cycle_iff, fun offset reached moved => ?_,
    fun step single => ?_⟩
  · refine ⟨_, _, cycle_eq fit.first_word, cycle_eq fit.second_word, ?_⟩
    rw [cycle_eq fit.both_word, after_after member]
  · rw [cycle_eq (exists_cycle_iff.1 ⟨reached, moved⟩)] at moved
    cases moved
    exact name_after_iff member
  · have bounds : Int64.minValue.toInt = -9223372036854775808 ∧
        Int64.maxValue.toInt = 9223372036854775807 := by decide
    have cases : step = 1 ∨ step = -1 := by simpa using single
    have words : ∀ i : Nat, i < 9 → IsWord (i + step) := by
      intro i inRange
      unfold IsWord
      omega
    have coprime : Int.gcd 9 step = 1 := by
      rcases cases with rfl | rfl <;> rfl
    obtain ⟨others, visitsAll, toured⟩ := tour_of_coprime member words coprime
    exact ⟨theme, others, rfl, visitsAll, toured⟩

/-- The theme in fifth place can go on by as much as still leads to a machine word, and then back by as
much as a machine word holds. In all that is five places back. -/
theorem cycle_turns_ring_koi :
    "koi" ∈ names (α := ℚ) ∧ SumsFit ℚ "koi" 9223372036854775803 (-9223372036854775808) ∧
      ∃ middle : Theme ℚ, cycle "koi" 9223372036854775803 = .ok middle ∧
        cycle middle.name (-9223372036854775808) = .ok (dunes (α := ℚ)) ∧
        cycle "koi" (-5) = .ok (dunes (α := ℚ)) := by
  have listed : "koi" ∈ names (α := ℚ) := by decide
  have fifth : (all (α := ℚ))[4]? = some koi := rfl
  have eighth : (all (α := ℚ))[7]? = some bamboo := rfl
  have ninth : (all (α := ℚ))[8]? = some dunes := rfl
  have middle : after "koi" 9223372036854775803 = bamboo (α := ℚ) :=
    Option.some.inj ((getElem?_after fifth 9223372036854775803).symm.trans eighth)
  have last : after "koi" (-5) = dunes (α := ℚ) :=
    Option.some.inj ((getElem?_after fifth (-5)).symm.trans ninth)
  have start : place (α := ℚ) "koi" = 4 := place_eq fifth
  have turn : place (α := ℚ) (after (α := ℚ) "koi" 9223372036854775803).name = 7 := by
    rw [middle]
    exact place_eq eighth
  have fit : SumsFit ℚ "koi" 9223372036854775803 (-9223372036854775808) := by
    constructor
    · rw [start]
      exact ⟨by decide, by decide⟩
    · rw [turn]
      exact ⟨by decide, by decide⟩
    · rw [start]
      exact ⟨by decide, by decide⟩
  obtain ⟨reached, landed, first, second, both⟩ := (cycle_turns_ring listed).1 _ _ fit
  have total : (9223372036854775803 + -9223372036854775808 : Int) = -5 := rfl
  have direct := cycle_eq fit.both_word
  rw [total, last] at direct
  rw [total, direct] at both
  cases both
  exact ⟨listed, fit, reached, first, second, direct⟩

end Ambience.Theme
