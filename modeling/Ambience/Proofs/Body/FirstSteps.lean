import Mathlib.Tactic.Linarith
import Ambience.Proofs.Body.Newborn

/-!
# The first step of a body

A newborn body is not gone, and it is not gone after its first step either, however long that takes
and whichever way the wind blows: what it may be moved by is less than what is left of its margin, of
its life or of its growth.
-/

namespace Ambience

/-- By how much a flake is moved sideways in an update. -/
def Flake.shift {α : Type} [Scalar α] (f : Flake α) (tick : Tick α) : α :=
  ((f.sway.advance tick.step).value + tick.wind * (0.4 + f.z * 0.6)) * tick.step

variable {α σ : Type} [ExactScalar α] {bounds : Bounds α} {tick : Tick α}

/-- An update that is as short and whose wind is as weak as any is. -/
structure Tick.Mild (tick : Tick α) : Prop where
  step_mem : 0 ≤ tick.step ∧ tick.step ≤ 4
  wind_le : |tick.wind| ≤ 9 / 5

/-- No `Tick.Mild` takes more than four nominal frames. -/
theorem Tick.Mild.abs_step_le (mild : tick.Mild) : |tick.step| ≤ 4 := by
  rw [abs_of_nonneg mild.step_mem.1]
  exact mild.step_mem.2

/-- What moves at a velocity of some range around zero covers four times the range at most. -/
theorem Tick.Mild.mul_step_mem (mild : tick.Mild) {v : α} (low high : α) (low_le : low ≤ 0)
    (le_high : 0 ≤ high) (v_mem : low ≤ v ∧ v ≤ high) :
    low * 4 ≤ v * tick.step ∧ v * tick.step ≤ high * 4 := by
  obtain ⟨nonneg, le⟩ := mild.step_mem
  constructor
  · exact (mul_le_mul_of_nonpos_left le low_le).trans (mul_le_mul_of_nonneg_right v_mem.1 nonneg)
  · exact (mul_le_mul_of_nonneg_right v_mem.2 nonneg).trans (mul_le_mul_of_nonneg_left le le_high)

namespace Flake

variable {f : Flake α}

/-- The sway and the wind of a `Tick.Mild` move a `Measured` flake sideways by less than its
margin. -/
theorem abs_shift_le [ExactWaves α] (measured : f.Measured) (mild : tick.Mild) :
    |f.shift tick| ≤ 52 / 5 := by
  have sway : |(f.sway.advance tick.step).value| ≤ 4 / 5 := Oscillator.abs_value_le measured.sway_le
  have moved : |f.shift tick| ≤ (4 / 5 + 9 / 5 * 1) * 4 := by
    refine abs_mul_le (abs_add_le_add sway (abs_mul_le mild.wind_le (abs_le.2 ?_))) mild.abs_step_le
    norm_num [ExactScalar.literal_eq]
    exact ⟨by linarith [measured.z_mem.1], by linarith [measured.z_mem.2]⟩
  exact moved.trans (by norm_num)

/-- Where a flake is put by `wrap` is no farther from the view than it was. -/
theorem wrap_within {x width reach : α} (wide : 0 ≤ width) (large : 12 ≤ reach)
    (near : -reach ≤ x ∧ x ≤ width + reach) :
    -reach ≤ wrap x width ∧ wrap x width ≤ width + reach := by
  obtain ⟨left, right⟩ := near
  have beyond : 0 ≤ width + (reach - 12) := add_nonneg wide (sub_nonneg.2 large)
  unfold wrap
  norm_num [margin, ExactScalar.literal_eq]
  split
  · split
    · exact ⟨by linarith, by linarith⟩
    split
    · exact ⟨by linarith, by linarith⟩
    · exact ⟨left, right⟩
  · exact ⟨left, right⟩

/-- A flake that was moved by less than the view and both margins is put back into them by
`wrap`. -/
theorem wrap_mem {x width : α} (wide : 0 < width) (near : -36 ≤ x ∧ x ≤ width + 36) :
    -12 ≤ wrap x width ∧ wrap x width ≤ width + 12 := by
  obtain ⟨left, right⟩ := near
  unfold wrap
  norm_num [margin, ExactScalar.literal_eq, wide]
  split
  · exact ⟨by linarith, by linarith⟩
  split
  · exact ⟨by linarith, by linarith⟩
  · exact ⟨by linarith, by linarith⟩

theorem wrap_of_mem {x width : α} (near : 0 < width → -12 ≤ x ∧ x ≤ width + 12) :
    wrap x width = x := by
  unfold wrap
  norm_num [margin, ExactScalar.literal_eq]
  intro wide
  obtain ⟨left, right⟩ := near wide
  rw [if_neg (not_lt.2 left), if_neg (not_lt.2 right)]

/-- A newborn flake is not gone after its first step. -/
theorem survives [ExactWaves α] (wide : 0 ≤ tick.bounds.width) (newborn : f.Newborn tick.bounds)
    (mild : tick.Mild) : (Body.flake (f.step tick).1).isGone tick.bounds = false := by
  obtain ⟨left, right⟩ := abs_le.1 (abs_shift_le newborn.toMeasured mild)
  have fall : |Motion.parallaxSpeed f.speed f.z * tick.step| ≤ 6 / 5 * (6 / 5) * 4 :=
    abs_mul_le (Motion.abs_parallaxSpeed_le newborn.speed_le newborn.z_mem) mild.abs_step_le
  obtain ⟨up, down⟩ := abs_le.1 (fall.trans (by norm_num : (6 / 5 * (6 / 5) * 4 : α) ≤ 6))
  obtain ⟨x_nonneg, x_le⟩ := newborn.x_mem
  have moved : -48 ≤ f.x + f.shift tick ∧ f.x + f.shift tick ≤ tick.bounds.width + 48 :=
    ⟨by linarith, by linarith⟩
  obtain ⟨left, right⟩ := wrap_within wide (by norm_num) moved
  simp only [Body.isGone, Bool.or_eq_false_iff, decide_eq_false_iff_not, not_lt,
    Motion.isOutside_eq_false_iff]
  norm_num [Motion.Within, margin, ExactScalar.literal_eq]
  refine ⟨?_, left, right, ?_, ?_⟩
  · show f.y + Motion.parallaxSpeed f.speed f.z * tick.step ≤ _
    linarith [newborn.bottom]
  · show _ ≤ f.y + Motion.parallaxSpeed f.speed f.z * tick.step
    linarith [newborn.within.2.2.1]
  · show f.y + Motion.parallaxSpeed f.speed f.z * tick.step ≤ _
    linarith [newborn.bottom]

end Flake

/-! ## Petals and leaves -/

namespace Tumbler

variable {t : Tumbler α}

/-- What drifts slowly from the edge of a view is not gone: three pixels a frame do not lead out of
the `margin` in one `Tick.Mild`. -/
theorem drift_stays (within : Motion.Within t.x t.y tick.bounds.width tick.bounds.height 12)
    (vx_le : |t.vx| ≤ 3) (vy_le : |t.vy| ≤ 3) (mild : tick.Mild) :
    Motion.isOutside (t.drift tick).1.x (t.drift tick).1.y tick.bounds.width tick.bounds.height
      margin = false := by
  have sideways := abs_mul_le vx_le mild.abs_step_le
  have down := abs_mul_le vy_le mild.abs_step_le
  refine Motion.isOutside_eq_false_iff.2 ((within.shift sideways down).widen ?_)
  norm_num [margin, ExactScalar.literal_eq]

variable [ExactWaves α]

/-- A newborn petal is not gone after its first step, since wind and flutter only ease into its
velocity. -/
theorem petal_survives (newborn : t.Newborn tick.bounds) (mild : tick.Mild) :
    (Body.petal (t.stepPetal tick).1).isGone tick.bounds = false := by
  have rate : |Scalar.least (0.05 * tick.step) 1.0| ≤ 1 / 5 :=
    Motion.abs_rate_le (by norm_num [ExactScalar.literal_eq]) mild.step_mem
      (by norm_num [ExactScalar.literal_eq])
  have blown : |tick.wind + (t.flutter.advance tick.step).value| ≤ 9 / 5 + 7 / 5 :=
    abs_add_le_add mild.wind_le (Oscillator.abs_value_le newborn.flutter_le)
  have falls : |0.6 + 0.4 * Scalar.magnitude (Scalar.cos (t.flutter.advance tick.step).phase)| ≤
      1 := by
    have face := ExactWaves.abs_cos_le (t.flutter.advance tick.step).phase
    rw [ExactScalar.magnitude_eq, abs_le]
    norm_num [ExactScalar.literal_eq]
    exact ⟨by linarith [abs_nonneg (Scalar.cos (t.flutter.advance tick.step).phase)], by linarith⟩
  have half : |(0.5 : α)| ≤ 1 / 2 := by norm_num [ExactScalar.literal_eq, abs_le]
  have sideways := Motion.abs_ease_le newborn.vx_le blown rate
  have down := Motion.abs_ease_le newborn.vy_le falls (abs_mul_le rate half)
  exact drift_stays (t := ⟨t.x, t.y, _, _, _, t.spin, t.size, t.opacity, t.shade, _⟩) newborn.within
    (sideways.trans (by norm_num)) (down.trans (by norm_num)) mild

theorem leaf_survives (newborn : t.Newborn tick.bounds) (mild : tick.Mild) :
    (Body.leaf (t.stepLeaf tick).1).isGone tick.bounds = false := by
  have rate : |Scalar.least (0.03 * tick.step) 1.0| ≤ 1 / 5 :=
    Motion.abs_rate_le (by norm_num [ExactScalar.literal_eq]) mild.step_mem
      (by norm_num [ExactScalar.literal_eq])
  have most : |(0.8 : α)| ≤ 1 := by norm_num [ExactScalar.literal_eq, abs_le]
  have blown : |tick.wind * 0.8 + (t.flutter.advance tick.step).value| ≤ 9 / 5 * 1 + 7 / 5 :=
    abs_add_le_add (abs_mul_le mild.wind_le most) (Oscillator.abs_value_le newborn.flutter_le)
  have falls : |(0.45 : α)| ≤ 1 := by norm_num [ExactScalar.literal_eq, abs_le]
  have sideways := Motion.abs_ease_le newborn.vx_le blown rate
  have down := Motion.abs_ease_le newborn.vy_le falls rate
  exact drift_stays (t := ⟨t.x, t.y, _, _, _, t.spin, t.size, t.opacity, t.shade, _⟩) newborn.within
    (sideways.trans (by norm_num)) (down.trans (by norm_num)) mild

end Tumbler

/-! ## Stars and ripples -/

/-- A newborn star is not past the right edge after its first step. -/
theorem Star.survives {s : Star α} (newborn : s.Newborn tick.bounds) (mild : tick.Mild) :
    (Body.star (s.step tick).1).isGone tick.bounds = false := by
  have speed : |s.speed| ≤ 1 / 5 := abs_le.2 ⟨by linarith [newborn.speed_mem.1], newborn.speed_mem.2⟩
  obtain ⟨-, drift⟩ := abs_le.1
    (abs_mul_le (Motion.abs_parallaxSpeed_le speed newborn.z_mem) mild.abs_step_le)
  simp only [Body.isGone, decide_eq_false_iff_not, not_lt]
  show s.x + Motion.parallaxSpeed s.speed s.z * tick.step ≤ _
  norm_num [margin, ExactScalar.literal_eq]
  linarith [newborn.right]

/-- A newborn ripple has not grown to its full size after its first step. -/
theorem Ripple.survives {r : Ripple α} (newborn : r.Newborn) (mild : tick.Mild) :
    (Body.ripple (r.step tick).1).isGone tick.bounds = false := by
  have growth : r.growth * tick.step ≤ 2 / 5 * tick.step :=
    mul_le_mul_of_nonneg_right newborn.growth_le mild.step_mem.1
  simp only [Body.isGone, decide_eq_false_iff_not, not_le]
  show r.radius + r.growth * tick.step < r.maxRadius
  linarith [newborn.radius_le, newborn.maxRadius_ge, mild.step_mem.2]

/-! ## Embers and grains -/

namespace Mote

/-- A life of ninety frames is longer than any `Tick.Mild`. -/
theorem outlives {life : α} (mild : tick.Mild) (long : 90 ≤ life) : ¬life - tick.step ≤ 0.0 := by
  rw [ExactScalar.zero_literal, not_le]
  linarith [mild.step_mem.2]

variable [ExactWaves α]

/-- A newborn ember has neither burnt out nor left the view after its first step. -/
theorem ember_survives {e : Mote α} (newborn : e.NewEmber tick.bounds) (mild : tick.Mild) :
    (Body.ember (e.stepEmber tick).1).isGone tick.bounds = false := by
  have little : |(0.02 : α)| ≤ 1 / 50 := by norm_num [ExactScalar.literal_eq, abs_le]
  have more : |(0.04 : α)| ≤ 1 / 25 := by norm_num [ExactScalar.literal_eq, abs_le]
  have wobble : |(e.wobble.advance tick.step).value| ≤ 3 / 5 :=
    Oscillator.abs_value_le newborn.wobble_le
  have push := abs_mul_le
    (abs_add_le_add (abs_mul_le mild.wind_le little) (abs_mul_le wobble more)) mild.abs_step_le
  have sideways := abs_mul_le (abs_add_le_add newborn.vx_le push) mild.abs_step_le
  obtain ⟨left_pos, left_le⟩ := ExactWaves.power_mem tick.step mild.step_mem.1
  have left := abs_le.2 ⟨by linarith, left_le⟩
  have rise := abs_mul_le (abs_mul_le newborn.vy_le left) mild.abs_step_le
  have within := newborn.within.shift (d := 48 / 5) (sideways.trans (by norm_num))
    (rise.trans (by norm_num))
  simp only [Body.isGone, Bool.or_eq_false_iff, decide_eq_false_iff_not]
  refine ⟨outlives mild newborn.life_ge, Motion.isOutside_eq_false_iff.2 (within.widen ?_)⟩
  norm_num [emberMargin, ExactScalar.literal_eq]

omit [ExactWaves α] in
/-- A `NewGrain` is within reach of either side of the view. -/
theorem NewGrain.within {g : Mote α} (newborn : g.NewGrain bounds) (wide : 0 ≤ bounds.width) :
    Motion.Within g.x g.y bounds.width bounds.height 8 := by
  obtain ⟨top, bottom⟩ := newborn.y_mem
  rcases newborn.side with ⟨left, right, -, -⟩ | ⟨left, right, -, -⟩
  · exact ⟨left, by linarith, by linarith, by linarith⟩
  · exact ⟨by linarith, right, by linarith, by linarith⟩

/-- A newborn grain has neither run out of life nor left the view after its first step. -/
theorem grain_survives {g : Mote α} (wide : 0 ≤ tick.bounds.width)
    (newborn : g.NewGrain tick.bounds) (mild : tick.Mild) :
    (Body.grain (g.stepGrain tick).1).isGone tick.bounds = false := by
  have third : |(0.3 : α)| ≤ 3 / 10 := by norm_num [ExactScalar.literal_eq, abs_le]
  have bob := abs_mul_le (abs_add_le_add newborn.vy_le
    (abs_mul_le (Oscillator.abs_value_le (o := g.wobble.advance tick.step) newborn.wobble_le) third))
    mild.abs_step_le
  obtain ⟨up, down⟩ := abs_le.1 (bob.trans (by norm_num : _ ≤ (2 : α)))
  obtain ⟨top, bottom⟩ := newborn.y_mem
  have half : (0.5 : α) = 1 / 2 := by norm_num [ExactScalar.literal_eq]
  -- A grain is blown into the view, or back over the edge by less than the margin.
  have sideways : -16 ≤ g.x + (g.vx + tick.wind * 0.5) * tick.step ∧
      g.x + (g.vx + tick.wind * 0.5) * tick.step ≤ tick.bounds.width + 16 := by
    obtain ⟨weak, strong⟩ := abs_le.1 mild.wind_le
    rw [half]
    rcases newborn.side with ⟨left, right, slow, fast⟩ | ⟨left, right, fast, slow⟩
    · obtain ⟨back, forth⟩ := mild.mul_step_mem (v := g.vx + tick.wind * (1 / 2)) (-(1 / 10)) (33 / 10)
        (by norm_num) (by norm_num) ⟨by linarith, by linarith⟩
      exact ⟨by linarith, by linarith⟩
    · obtain ⟨back, forth⟩ := mild.mul_step_mem (v := g.vx + tick.wind * (1 / 2)) (-(33 / 10)) (1 / 10)
        (by norm_num) (by norm_num) ⟨by linarith, by linarith⟩
      exact ⟨by linarith, by linarith⟩
  simp only [Body.isGone, Bool.or_eq_false_iff, decide_eq_false_iff_not]
  refine ⟨outlives mild (by linarith [newborn.life_ge]), Motion.isOutside_eq_false_iff.2 ?_⟩
  norm_num [Motion.Within, grainMargin, ExactScalar.literal_eq]
  refine ⟨sideways.1, sideways.2, ?_, ?_⟩
  · show _ ≤ g.y + (g.vy + (g.wobble.advance tick.step).value * 0.3) * tick.step
    linarith
  · show g.y + (g.vy + (g.wobble.advance tick.step).value * 0.3) * tick.step ≤ _
    linarith

end Mote

/-! ## Wandering bodies -/

section Wandering

variable [ExactWaves α]

/-- A newborn firefly is still in reach of the view after its first step, wherever it turns. -/
theorem Firefly.survives [Units σ α] {f after : Firefly α} {fate : Fate} {source source' : σ}
    (newborn : f.Newborn tick.bounds) (mild : tick.Mild)
    (run : Runs (f.step tick) source (after, fate) source') :
    (Body.firefly after).isGone tick.bounds = false := by
  obtain ⟨wander, _, _, run⟩ := Runs.of_bind run
  cases (Runs.of_pure run).1
  have moved : ∀ {direction : α}, |direction| ≤ 1 →
      |direction * f.speed * tick.step| ≤ 1 * (7 / 10) * 4 := fun small =>
    abs_mul_le (abs_mul_le small newborn.speed_le) mild.abs_step_le
  refine Motion.isOutside_eq_false_iff.2 ((newborn.within.shift
    (moved (ExactWaves.abs_cos_le _)) (moved (ExactWaves.abs_sin_le _))).widen ?_)
  norm_num [margin, ExactScalar.literal_eq]

/-- A newborn koi is still in reach of the view after its first step, wherever it turns. -/
theorem Koi.survives [Units σ α] {k after : Koi α} {fate : Fate} {source source' : σ}
    (newborn : k.Newborn tick.bounds) (mild : tick.Mild)
    (run : Runs (k.step tick) source (after, fate) source') :
    (Body.koi after).isGone tick.bounds = false := by
  obtain ⟨wander, _, _, run⟩ := Runs.of_bind run
  cases (Runs.of_pure run).1
  have tail : |(k.tail.advance tick.step).value| ≤ 9 / 20 :=
    Oscillator.abs_value_le newborn.tail_le
  have thrust : |1.0 + 0.25 * Scalar.magnitude (k.tail.advance tick.step).value| ≤ 2 := by
    have stroke := abs_nonneg (k.tail.advance tick.step).value
    rw [ExactScalar.magnitude_eq, abs_le]
    norm_num [ExactScalar.literal_eq]
    exact ⟨by linarith, by linarith⟩
  have moved : ∀ {direction : α}, |direction| ≤ 1 →
      |direction * k.speed * (1.0 + 0.25 * Scalar.magnitude (k.tail.advance tick.step).value) *
        tick.step| ≤ 1 * (11 / 10) * 2 * 4 := fun small =>
    abs_mul_le (abs_mul_le (abs_mul_le small newborn.speed_le) thrust) mild.abs_step_le
  refine Motion.isOutside_eq_false_iff.2 ((newborn.within.shift
    (moved (ExactWaves.abs_cos_le _)) (moved (ExactWaves.abs_sin_le _))).widen ?_)
  norm_num [ExactScalar.literal_eq]
  linarith [newborn.length_ge]

end Wandering

/-! ## All kinds -/

namespace Body

/-- A body that is `Body.Newborn` in a view is not gone from it. -/
theorem isGone_of_newborn {body : Body α} (wide : 0 ≤ bounds.width) (newborn : body.Newborn bounds) :
    body.isGone bounds = false := by
  cases body with
  | flake f =>
    have wider : (12 : α) ≤ Flake.margin * 4.0 := by
      norm_num [Flake.margin, ExactScalar.literal_eq]
    simp only [isGone, Bool.or_eq_false_iff, decide_eq_false_iff_not, not_lt]
    refine ⟨newborn.bottom.trans ?_, Motion.isOutside_eq_false_iff.2 (newborn.within.widen wider)⟩
    norm_num [Flake.margin, ExactScalar.literal_eq]
  | petal | leaf =>
    refine Motion.isOutside_eq_false_iff.2 (newborn.within.widen ?_)
    norm_num [Tumbler.margin, ExactScalar.literal_eq]
  | firefly =>
    refine Motion.isOutside_eq_false_iff.2 (newborn.within.widen ?_)
    norm_num [Firefly.margin, ExactScalar.literal_eq]
  | star s =>
    simp only [isGone, decide_eq_false_iff_not, not_lt]
    refine newborn.right.trans ?_
    norm_num [Star.margin, ExactScalar.literal_eq]
  | koi =>
    refine Motion.isOutside_eq_false_iff.2 (newborn.within.widen ?_)
    norm_num [ExactScalar.literal_eq]
    linarith [newborn.length_ge]
  | ripple r =>
    simp only [isGone, decide_eq_false_iff_not, not_le]
    linarith [newborn.radius_le, newborn.maxRadius_ge]
  | ember =>
    simp only [isGone, Bool.or_eq_false_iff, decide_eq_false_iff_not, not_le]
    refine ⟨?_, Motion.isOutside_eq_false_iff.2 (newborn.within.widen ?_)⟩
    · rw [ExactScalar.zero_literal]
      linarith [newborn.life_ge]
    · norm_num [Mote.emberMargin, ExactScalar.literal_eq]
  | grain =>
    simp only [isGone, Bool.or_eq_false_iff, decide_eq_false_iff_not, not_le]
    refine ⟨?_, Motion.isOutside_eq_false_iff.2 ((newborn.within wide).widen ?_)⟩
    · rw [ExactScalar.zero_literal]
      linarith [newborn.life_ge]
    · norm_num [Mote.grainMargin, ExactScalar.literal_eq]
  | _ => rfl

variable [ExactWaves α] [Units σ α]

/-- No body is gone after its first step: a `Body.Newborn` that takes a `Tick.Mild` is `alive`. -/
theorem survives {body after : Body α} {source source' : σ} {fate : Fate}
    (wide : 0 ≤ tick.bounds.width) (newborn : body.Newborn tick.bounds) (mild : tick.Mild)
    (run : Runs (body.step tick) source (after, fate) source') : fate = .alive := by
  have fate_eq := fate_of_step run
  rw [fate_eq, Fate.expiredIf_eq_alive_iff]
  cases body with
  | firefly =>
    obtain ⟨⟨_, _⟩, _, stepRun, run⟩ := Runs.of_bind run
    cases (Runs.of_pure run).1
    exact Firefly.survives newborn mild stepRun
  | koi =>
    obtain ⟨⟨_, _⟩, _, stepRun, run⟩ := Runs.of_bind run
    cases (Runs.of_pure run).1
    exact Koi.survives newborn mild stepRun
  | flake =>
    cases (Runs.of_pure run).1
    exact Flake.survives wide newborn mild
  | petal =>
    cases (Runs.of_pure run).1
    exact Tumbler.petal_survives newborn mild
  | leaf =>
    cases (Runs.of_pure run).1
    exact Tumbler.leaf_survives newborn mild
  | star =>
    cases (Runs.of_pure run).1
    exact Star.survives newborn mild
  | ripple =>
    cases (Runs.of_pure run).1
    exact Ripple.survives newborn mild
  | ember =>
    cases (Runs.of_pure run).1
    exact Mote.ember_survives newborn mild
  | grain =>
    cases (Runs.of_pure run).1
    exact Mote.grain_survives wide newborn mild
  | _ =>
    cases (Runs.of_pure run).1
    rfl

end Body

end Ambience
