import Mathlib.Algebra.Order.Floor.Ring
import Mathlib.Tactic.Linarith
import Mathlib.Tactic.Ring
import Ambience.Body.Rooted
import Ambience.Canvas.Coverage
import Ambience.Proofs.Scalar.Rounding

/-!
# Terrain profiles

A profile is read in three places: cacti stand on the ground that it gives, the sand is filled in below
it, and the light on its crest is a chain of lines from sample to sample. In exact arithmetic the three
are one height, everywhere from the left edge on.
-/

namespace Ambience

variable {α : Type}

/-- Where there are samples at some distance from each other there is ground. -/
theorem Geometry.groundAt_eq [Scalar α] {geometry : Geometry α} (samples : 0 < geometry.horizon.size)
    (step : ¬geometry.horizonStep ≤ 0.0) (x : α) :
    geometry.groundAt x =
      some (profileHeight geometry.horizon (Scalar.greatest (x / geometry.horizonStep) 0.0)) := by
  have filled : geometry.horizon.isEmpty = false := by
    rw [Array.isEmpty_eq_false_iff_exists_mem]
    exact ⟨geometry.horizon[0], Array.getElem_mem samples⟩
  rw [groundAt, filled, Bool.false_or, if_neg]
  rw [decide_eq_true_eq]
  exact step

/-- The sand is filled in below the height that its profile has in the middle of a column
(`profileHeight`). -/
theorem Coverage.crest_eq_profileHeight [Scalar α] (tops : Array α) (step : α) (i : Nat) :
    crest tops step i = profileHeight tops (center i / step) := rfl

section Exact

variable [ExactScalar α]

open ExactScalar

/-! ## Points on lines -/

/-- A line whose segment holds a point. -/
def DrawCall.Meets (x y : α) : DrawCall α → Prop
  | line fromX fromY toX toY _ _ =>
    ∃ share, 0 ≤ share ∧ share ≤ 1 ∧
      x = fromX + (toX - fromX) * share ∧ y = fromY + (toY - fromY) * share
  | _ => False

/-- The lines of a `crest` join the neighbouring samples of the profile. -/
theorem Ridge.mem_crest_iff {profile : Array α} {spacing : α} {paint : Paint α} {call : DrawCall α} :
    call ∈ crest profile spacing paint ↔
      ∃ (k : Nat) (left right : α), profile[k]? = some left ∧ profile[k + 1]? = some right ∧
        call = .line (k * spacing) left (k * spacing + spacing) right 1.0 paint := by
  have pair (k : Nat) (ends : α × α) : (profile.toList.zip profile.toList.tail)[k]? = some ends ↔
      profile[k]? = some ends.1 ∧ profile[k + 1]? = some ends.2 := by
    rw [List.getElem?_zip_eq_some, List.getElem?_tail, Array.getElem?_toList, Array.getElem?_toList]
  simp only [List.mem_iff_getElem?, crest, List.getElem?_mapIdx, Option.map_eq_some_iff, pair, ofNat_eq]
  constructor
  · rintro ⟨k, ⟨left, right⟩, ⟨before, after⟩, rfl⟩
    exact ⟨k, left, right, before, after, rfl⟩
  · rintro ⟨k, left, right, before, after, rfl⟩
    exact ⟨k, (left, right), ⟨before, after⟩, rfl⟩

/-- A line of a crest `Meets` the points that divide its samples in the ratio of their distances. -/
theorem DrawCall.meets_crest_iff {k spacing left right width x y : α} {paint : Paint α}
    (positive : 0 < spacing) :
    (line (k * spacing) left (k * spacing + spacing) right width paint).Meets x y ↔
      (k ≤ x / spacing ∧ x / spacing ≤ k + 1) ∧ y = left + (right - left) * (x / spacing - k) := by
  constructor
  · rintro ⟨share, nonneg, le_one, rfl, rfl⟩
    have position : (k * spacing + (k * spacing + spacing - k * spacing) * share) / spacing =
        k + share := by
      field_simp
      ring
    rw [position]
    exact ⟨⟨by linarith, by linarith⟩, by ring⟩
  · rintro ⟨⟨from_k, to_next⟩, height⟩
    refine ⟨x / spacing - k, by linarith, by linarith, ?_, height⟩
    field_simp
    ring

/-! ## Heights between samples -/

section Heights

variable [FloorRing α] [ExactRounding α] {samples : Array α} {position : α}

/-- The height at a position after a sample, if the samples are counted in a machine word. -/
theorem profileHeight_eq (countable : samples.size ≤ UInt64.size) {k : Nat}
    (sample : min ⌊position⌋.toNat (samples.size - 1) = k) :
    profileHeight samples position =
      samples.getD k 0.0 +
        (samples.getD (min (k + 1) (samples.size - 1)) 0.0 - samples.getD k 0.0) *
          min (max (position - k) 0) 1 := by
  have counted : min (Scalar.count (Scalar.floor position)) (samples.size - 1) = k := by
    rw [ExactRounding.count_floor, Scalar.maxCount]
    omega
  rw [profileHeight, counted, clamp_unit_eq, ofNat_eq]

/-- Between two samples the height divides them in the ratio of their distances. -/
theorem profileHeight_of_between (countable : samples.size ≤ UInt64.size) {k : Nat} {left right : α}
    (before : samples[k]? = some left) (after : samples[k + 1]? = some right)
    (from_k : k ≤ position) (to_next : position ≤ k + 1) :
    profileHeight samples position = left + (right - left) * (position - k) := by
  have inside : k + 1 < samples.size := (Array.getElem?_eq_some_iff.1 after).1
  rcases lt_or_eq_of_le to_next with inner | rfl
  · have whole : ⌊position⌋ = k := Int.floor_eq_iff.2 ⟨by exact_mod_cast from_k, by exact_mod_cast inner⟩
    have share : 0 ≤ position - k ∧ position - k ≤ 1 := ⟨by linarith, by linarith⟩
    rw [profileHeight_eq countable (by omega : _ = k), Nat.min_eq_left (by omega),
      Array.getD_eq_getD_getElem?, Array.getD_eq_getD_getElem?, before, after, Option.getD_some,
      Option.getD_some, max_eq_left share.1, min_eq_left share.2]
  · -- The next sample is the one before its own position, and counts alone.
    have whole : ⌊(k + 1 : α)⌋ = (k + 1 : Nat) := by
      rw [← Nat.cast_succ, Int.floor_natCast]
    have share : (k + 1 : α) - (k + 1 : Nat) = 0 := by
      push_cast
      ring
    rw [profileHeight_eq countable (by omega : _ = k + 1), Array.getD_eq_getD_getElem? (i := k + 1),
      after, Option.getD_some, share, max_self, min_eq_left zero_le_one]
    ring

/-- From the last sample on the height is that of the last sample. -/
theorem profileHeight_of_past (countable : samples.size ≤ UInt64.size) {last : α}
    (back : samples.back? = some last) (past : ((samples.size - 1 : Nat) : α) ≤ position) :
    profileHeight samples position = last := by
  have whole : ((samples.size - 1 : Nat) : Int) ≤ ⌊position⌋ := Int.le_floor.2 (by exact_mod_cast past)
  rw [Array.back?_eq_getElem?] at back
  rw [profileHeight_eq countable (by omega : _ = samples.size - 1), Nat.min_eq_right (by omega),
    Array.getD_eq_getD_getElem?, back, Option.getD_some, sub_self, zero_mul, add_zero]

omit [ExactRounding α] in
/-- Up to the last sample a position is between two neighbouring ones. -/
theorem exists_samples_around (several : 1 < samples.size) (nonneg : 0 ≤ position)
    (before_last : position ≤ (samples.size - 1 : Nat)) :
    ∃ (k : Nat) (left right : α), samples[k]? = some left ∧ samples[k + 1]? = some right ∧
      k ≤ position ∧ position ≤ k + 1 := by
  suffices between : ∃ k : Nat, k + 1 < samples.size ∧ k ≤ position ∧ position ≤ k + 1 by
    obtain ⟨k, inside, from_k, to_next⟩ := between
    exact ⟨k, samples[k], samples[k + 1], Array.getElem?_eq_getElem (by omega),
      Array.getElem?_eq_getElem inside, from_k, to_next⟩
  rcases lt_or_eq_of_le before_last with inner | rfl
  · have whole : ((⌊position⌋.toNat : Nat) : Int) = ⌊position⌋ :=
      Int.toNat_of_nonneg (Int.floor_nonneg.2 nonneg)
    have small : ⌊position⌋ < (samples.size - 1 : Nat) := Int.floor_lt.2 (by exact_mod_cast inner)
    have cast : ((⌊position⌋.toNat : Nat) : α) = (⌊position⌋ : α) := by
      rw [← Int.cast_natCast, whole]
    refine ⟨⌊position⌋.toNat, by omega, ?_, ?_⟩
    · rw [cast]
      exact Int.floor_le position
    · rw [cast]
      exact (Int.lt_floor_add_one position).le
  · refine ⟨samples.size - 2, by omega, Nat.cast_le.2 (by omega), ?_⟩
    exact_mod_cast (by omega : samples.size - 1 ≤ samples.size - 2 + 1)

end Heights

/-! ## Three readings -/

theorem Coverage.center_nonneg (i : Nat) : (0 : α) ≤ center i := by
  have half : (0 : α) ≤ Scalar.toOfScientific.ofScientific 5 true 1 := by norm_num [literal_eq]
  have side : (0 : α) ≤ Canvas.pixelSide := by norm_num [Canvas.pixelSide, literal_eq]
  rw [center, ofNat_eq]
  exact mul_nonneg (add_nonneg (Nat.cast_nonneg i) half) side

namespace Geometry

variable {geometry : Geometry α} {x : α}

/-- In the view the ground is the height of the profile (`profileHeight`). -/
theorem groundAt_of_nonneg (samples : 0 < geometry.horizon.size) (positive : 0 < geometry.horizonStep)
    (nonneg : 0 ≤ x) :
    geometry.groundAt x = some (profileHeight geometry.horizon (x / geometry.horizonStep)) := by
  have step : ¬geometry.horizonStep ≤ 0.0 := by
    rw [zero_literal]
    exact not_le.2 positive
  rw [groundAt_eq samples step, greatest_eq, zero_literal, max_eq_left (div_nonneg nonneg positive.le)]

variable [FloorRing α] [ExactRounding α]

/-- The chain of lines along a crest is at the height of the profile (`profileHeight`), and at no
other. -/
theorem exists_meets_crest_iff (countable : geometry.horizon.size ≤ UInt64.size)
    (positive : 0 < geometry.horizonStep) (nonneg : 0 ≤ x)
    (before_last : x ≤ (geometry.horizon.size - 1 : Nat) * geometry.horizonStep) (paint : Paint α)
    (y : α) :
    (∃ call ∈ Ridge.crest geometry.horizon geometry.horizonStep paint, call.Meets x y) ↔
      1 < geometry.horizon.size ∧
        y = profileHeight geometry.horizon (x / geometry.horizonStep) := by
  constructor
  · rintro ⟨call, member, meets⟩
    obtain ⟨k, left, right, before, after, rfl⟩ := Ridge.mem_crest_iff.1 member
    obtain ⟨⟨from_k, to_next⟩, height⟩ := (DrawCall.meets_crest_iff positive).1 meets
    have inside : k + 1 < geometry.horizon.size := (Array.getElem?_eq_some_iff.1 after).1
    refine ⟨by omega, ?_⟩
    rw [profileHeight_of_between countable before after from_k to_next, height]
  · rintro ⟨several, rfl⟩
    obtain ⟨k, left, right, before, after, from_k, to_next⟩ := exists_samples_around several
      (div_nonneg nonneg positive.le) ((div_le_iff₀ positive).2 before_last)
    refine ⟨_, Ridge.mem_crest_iff.2 ⟨k, left, right, before, after, rfl⟩, ?_⟩
    apply (DrawCall.meets_crest_iff positive).2
    exact ⟨⟨from_k, to_next⟩, profileHeight_of_between countable before after from_k to_next⟩

/-- The three readings of a terrain profile agree. In the middle of every column the sand is filled
in below the ground (`Coverage.crest`, `Geometry.groundAt`); from the left edge to the last sample
the ground is the height of the lines along `Ridge.crest`, of which there are none for a single
sample; and from the last sample on both the ground and the sand stay at its height. The samples are
counted in a machine word. -/
theorem ground_readings (samples : 0 < geometry.horizon.size)
    (countable : geometry.horizon.size ≤ UInt64.size) (positive : 0 < geometry.horizonStep) :
    (∀ i, geometry.groundAt (Coverage.center i) =
        some (Coverage.crest geometry.horizon geometry.horizonStep i)) ∧
      (∀ x, 0 ≤ x → x ≤ (geometry.horizon.size - 1 : Nat) * geometry.horizonStep →
        ∃ ground, geometry.groundAt x = some ground ∧
          ∀ (paint : Paint α) (y : α),
            (∃ call ∈ Ridge.crest geometry.horizon geometry.horizonStep paint, call.Meets x y) ↔
              1 < geometry.horizon.size ∧ y = ground) ∧
      (∀ x, (geometry.horizon.size - 1 : Nat) * geometry.horizonStep ≤ x →
        geometry.groundAt x = geometry.horizon.back?) ∧
      ∀ i, (geometry.horizon.size - 1 : Nat) * geometry.horizonStep ≤ Coverage.center i →
        some (Coverage.crest geometry.horizon geometry.horizonStep i) = geometry.horizon.back? := by
  have sand (i : Nat) : geometry.groundAt (Coverage.center i) =
      some (Coverage.crest geometry.horizon geometry.horizonStep i) := by
    rw [Coverage.crest_eq_profileHeight]
    exact groundAt_of_nonneg samples positive (Coverage.center_nonneg i)
  have level (x : α) (past : (geometry.horizon.size - 1 : Nat) * geometry.horizonStep ≤ x) :
      geometry.groundAt x = geometry.horizon.back? := by
    have nonneg : 0 ≤ x := (mul_nonneg (Nat.cast_nonneg _) positive.le).trans past
    obtain ⟨last, back⟩ : ∃ last, geometry.horizon.back? = some last := by
      rw [Array.back?_eq_getElem?]
      exact ⟨_, Array.getElem?_eq_getElem (by omega)⟩
    rw [groundAt_of_nonneg samples positive nonneg, back,
      profileHeight_of_past countable back ((le_div_iff₀ positive).2 past)]
  refine ⟨sand, fun x nonneg before_last => ?_, level, fun i past => ?_⟩
  · exact ⟨_, groundAt_of_nonneg samples positive nonneg,
      exists_meets_crest_iff countable positive nonneg before_last⟩
  · rw [← sand i]
    exact level _ past

/-- A hill of three samples. In the middle of the second column, at twelve, the ground, the sand and the
crest are at the height of 96/5, and behind the hill the ground is at that of the last sample. -/
theorem ground_readings_hill :
    ∃ geometry : Geometry ℚ, geometry.horizon = #[10, 20, 16] ∧ geometry.horizonStep = 10 ∧
      geometry.groundAt 12 = some (96 / 5) ∧
      some (96 / 5) = some (Coverage.crest geometry.horizon geometry.horizonStep 1) ∧
      (∀ (paint : Paint ℚ) (y : ℚ),
        (∃ call ∈ Ridge.crest geometry.horizon geometry.horizonStep paint, call.Meets 12 y) ↔
          y = 96 / 5) ∧
      geometry.groundAt 35 = some 16 := by
  let hill : Geometry ℚ := ⟨[], #[10, 20, 16], 10, 0⟩
  have samples : 0 < hill.horizon.size := by decide
  have countable : hill.horizon.size ≤ UInt64.size := by decide
  have positive : (0 : ℚ) < hill.horizonStep := by decide +kernel
  obtain ⟨sand, crest, level, -⟩ := ground_readings samples countable positive
  have middle : (Coverage.center 1 : ℚ) = 12 := by decide +kernel
  have height : hill.groundAt 12 = some (96 / 5) := by decide +kernel
  obtain ⟨ground, found, meets⟩ := crest 12 (by norm_num) (by decide +kernel)
  obtain rfl : 96 / 5 = ground := Option.some.inj (height.symm.trans found)
  refine ⟨hill, rfl, rfl, height, ?_, fun paint y => ?_, ?_⟩
  · rw [← sand 1, middle, height]
  · rw [meets paint y]
    exact and_iff_right (by decide)
  · exact level 35 (by decide +kernel)

end Geometry

end Exact

end Ambience
