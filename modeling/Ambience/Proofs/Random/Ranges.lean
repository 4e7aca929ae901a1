import Mathlib.Algebra.Order.AbsoluteValue.Basic
import Mathlib.Tactic.Linarith
import Ambience.Proofs.Runs
import Ambience.Proofs.Scalar.Exact

/-!
# Ranges of random values

A source whose numbers are of the unit interval gives values of the ranges that are asked of it,
the upper end excluded. Of a range of whole numbers any source of words gives one.
-/

namespace Ambience

/-- The numbers of a source are of the unit interval, one excluded. -/
class UnitRange (σ α : Type) [ExactScalar α] [Units σ α] : Prop where
  unit_mem : ∀ source : σ, 0 ≤ (Units.unit source : α × σ).1 ∧ (Units.unit source : α × σ).1 < 1

/-- The high 52 bits of a long word are a fraction of `2 ^ 52`. -/
instance {α : Type} [ExactScalar α] : UnitRange Random.Stream α where
  unit_mem source := by
    have high : (source.longWord.1 >>> 12).toNat < 4503599627370496 := by
      have word := source.longWord.1.toNat_lt
      rw [UInt64.toNat_shiftRight, Nat.shiftRight_eq_div_pow]
      have places : (12 : UInt64).toNat % 64 = 12 := rfl
      rw [places]
      omega
    have fraction : (Units.unit source : α × Random.Stream).1 =
        ((source.longWord.1 >>> 12).toNat : α) / 4503599627370496 := by
      show Scalar.ofNat (source.longWord.1 >>> 12).toNat / _ = _
      rw [ExactScalar.ofNat_eq, ExactScalar.literal_eq]
      norm_num
    rw [fraction]
    constructor
    · positivity
    · rw [div_lt_one (by norm_num)]
      exact_mod_cast high

namespace Draw

variable {σ α : Type} [ExactScalar α] [Units σ α] [UnitRange σ α] {low high x : α}
  {source after : σ}

/-- A fraction of the unit range is at least zero and below one. -/
theorem of_unit {middle : σ} (run : Runs (unit : Draw σ α) source x middle) : 0 ≤ x ∧ x < 1 := by
  have drawn : Units.unit source = (x, middle) := Except.ok.inj run
  have mem : 0 ≤ (Units.unit source : α × σ).1 ∧ (Units.unit source : α × σ).1 < 1 :=
    UnitRange.unit_mem source
  rwa [drawn] at mem

omit [UnitRange σ α] in
/-- No range is unbounded in exact arithmetic. -/
theorem between_eq (low high : α) :
    (between low high : Draw σ α) = do return (← unit) * (high - low) + low := by
  have bounded : (!(Scalar.isFinite low && Scalar.isFinite high && Scalar.isFinite (high - low))) =
      false := by
    rw [ExactScalar.isFinite_eq, ExactScalar.isFinite_eq, ExactScalar.isFinite_eq]
    rfl
  unfold between
  rw [bounded]
  rfl

/-- What is drawn between two ends is at a fraction of the way between them. -/
theorem of_between (run : Runs (between low high) source x after) :
    ∃ fraction : α, 0 ≤ fraction ∧ fraction < 1 ∧ x = fraction * (high - low) + low := by
  rw [between_eq] at run
  obtain ⟨fraction, _, unitRun, run⟩ := Runs.of_bind run
  obtain ⟨rfl, -⟩ := Runs.of_pure run
  obtain ⟨nonneg, lt_one⟩ := of_unit unitRun
  exact ⟨fraction, nonneg, lt_one, rfl⟩

/-- A range (`uniform`) gives one of its numbers, the upper end left out. -/
theorem of_uniform (run : Runs (uniform low high) source x after) : low ≤ x ∧ x < high := by
  unfold uniform at run
  split at run
  · rename_i lt
    obtain ⟨fraction, nonneg, lt_one, rfl⟩ := of_between run
    have width : 0 < high - low := sub_pos.2 lt
    have share : fraction * (high - low) < 1 * (high - low) := mul_lt_mul_of_pos_right lt_one width
    constructor
    · exact le_add_of_nonneg_left (mul_nonneg nonneg width.le)
    · linarith
  · cases run

/-- A range within the same distance of zero on both sides gives a number within that distance. -/
theorem abs_le_of_uniform {a : α} (range : -a ≤ low ∧ high ≤ a)
    (run : Runs (uniform low high) source x after) : |x| ≤ a := by
  obtain ⟨low_le, lt_high⟩ := of_uniform run
  exact abs_le.2 ⟨range.1.trans low_le, lt_high.le.trans range.2⟩

/-- A closed range (`uniformClosed`) may give its upper end as well. -/
theorem of_uniformClosed (run : Runs (uniformClosed low high) source x after) :
    low ≤ x ∧ x ≤ high := by
  unfold uniformClosed at run
  split at run
  · rename_i le
    obtain ⟨fraction, nonneg, lt_one, rfl⟩ := of_between run
    have width : 0 ≤ high - low := sub_nonneg.2 le
    have share : fraction * (high - low) ≤ 1 * (high - low) :=
      mul_le_mul_of_nonneg_right lt_one.le width
    constructor
    · exact le_add_of_nonneg_left (mul_nonneg nonneg width)
    · linarith
  · cases run

/-- A `span` that holds a number gives one of its numbers. -/
theorem of_span (lt : low < high) (run : Runs (span low high) source x after) :
    low ≤ x ∧ x < high := by
  unfold span at run
  rw [if_pos lt] at run
  exact of_uniform run

/-- A `span` that is not reversed gives a number between its ends. -/
theorem mem_of_span (le : low ≤ high) (run : Runs (span low high) source x after) :
    low ≤ x ∧ x ≤ high := by
  unfold span at run
  split at run
  · obtain ⟨low_le, lt_high⟩ := of_uniform run
    exact ⟨low_le, lt_high.le⟩
  · obtain ⟨rfl, -⟩ := Runs.of_pure run
    exact ⟨le_refl x, le⟩

omit [UnitRange σ α] in
theorem runs_between (low high : α) (source : σ) :
    ∃ x after, Runs (between low high) source x after := by
  rw [between_eq]
  exact ⟨_, _, rfl⟩

omit [UnitRange σ α] in
/-- A range that may be a single point always gives a number. -/
theorem runs_uniformClosed (le : low ≤ high) (source : σ) :
    ∃ x after, Runs (uniformClosed low high) source x after := by
  unfold uniformClosed
  rw [if_pos le]
  exact runs_between low high source

omit [UnitRange σ α] in
/-- Every `span` gives a number, or its lower end. -/
theorem runs_span (low high : α) (source : σ) :
    ∃ x after, Runs (span low high) source x after := by
  unfold span
  split
  · rename_i lt
    unfold uniform
    rw [if_pos lt]
    exact runs_between low high source
  · exact ⟨_, _, rfl⟩

/-! ## Whole numbers -/

section Whole

variable {σ : Type} {word word' size : Nat}

/-- A word that is scaled to the size of a range. -/
theorem scaled_lt (isWord : word < UInt32.size) (some : 0 < size) :
    word * size / UInt32.size < size :=
  Nat.div_lt_of_lt_mul (Nat.mul_lt_mul_of_pos_right isWord some)

/-- The carry of a second word leads to no number beyond the range. -/
theorem carried_lt (isWord : word < UInt32.size) (isWord' : word' < UInt32.size) (some : 0 < size)
    (full : UInt32.size ≤ word * size % UInt32.size + word' * size / UInt32.size) :
    word * size / UInt32.size + 1 < size := by
  have carry := scaled_lt isWord' some
  have parts := Nat.div_add_mod (word * size) UInt32.size
  refine Nat.lt_of_mul_lt_mul_left (a := UInt32.size) ?_
  calc UInt32.size * (word * size / UInt32.size + 1)
      = UInt32.size * (word * size / UInt32.size) + UInt32.size := Nat.mul_succ _ _
    _ < word * size + size := by omega
    _ = (word + 1) * size := (Nat.succ_mul _ _).symm
    _ ≤ UInt32.size * size := Nat.mul_le_mul_right size isWord

/-- A range of whole numbers (`integer`) gives one of them. -/
theorem of_integer [Words σ] {low high n : Nat} {source after : σ}
    (run : Runs (integer low high) source n after) : low ≤ n ∧ n < high := by
  unfold integer at run
  extract_lets size draws at run
  split at run
  · cases run
  · rename_i holds
    have some : 0 < size := Nat.sub_pos_of_lt (not_le.1 holds)
    have range : low + size = high := Nat.add_sub_cancel' (not_le.1 holds).le
    rw [← range]
    obtain ⟨first, _, -, run⟩ := Runs.of_bind run
    have quotient := scaled_lt first.toNat_lt some
    dsimp only at run
    split at run
    · obtain ⟨rfl, -⟩ := Runs.of_pure run
      exact ⟨Nat.le_add_right _ _, Nat.add_lt_add_left quotient low⟩
    · obtain ⟨second, _, -, run⟩ := Runs.of_bind run
      obtain ⟨rfl, -⟩ := Runs.of_pure run
      split
      · exact ⟨Nat.le_add_right _ _, Nat.add_lt_add_left quotient low⟩
      · rename_i full
        have carried := carried_lt first.toNat_lt second.toNat_lt some (not_lt.1 full)
        exact ⟨Nat.le_add_right _ _, Nat.add_lt_add_left carried low⟩

end Whole

end Draw

end Ambience
