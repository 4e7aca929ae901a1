import Mathlib.Tactic.Linarith
import Ambience.Proofs.Body.FirstSteps
import Ambience.Proofs.Engine.Terrain

/-!
# The winds of a scene

A new scene has the wind in the middle of the range of its theme. An update chooses a target of that
range in the first frame of each period, and the wind eases toward it without passing it. So the wind
never leaves a range that holds that of the theme. No theme of the catalogue has a strong wind, and
whatever an engine went through, the bodies of its scene meet a mild tick in the next update.
-/

namespace Ambience

variable {α σ : Type} [ExactScalar α]

/-! ## Gentle themes -/

/-- A theme without strong winds, whose bodies that run out of life are emitted. -/
structure Theme.Gentle (theme : Theme α) : Prop where
  low_le : |theme.windLow| ≤ 9 / 5
  high_le : |theme.windHigh| ≤ 9 / 5
  transient :
    ∀ spec ∈ theme.layers, spec.kind.isMortal = true → spec.density.isTransient = true

/-- Every theme of the catalogue is `Gentle`. -/
theorem Theme.gentle_of_mem_all {theme : Theme α} (listed : theme ∈ all) : theme.Gentle := by
  have winds : ∀ theme ∈ (all : List (Theme α)),
      |theme.windLow| ≤ 9 / 5 ∧ |theme.windHigh| ≤ 9 / 5 := by
    simp only [all, snowfall, sakura, fireflies, starfield, koi, zen, embers, bamboo, dunes,
      List.forall_mem_cons, List.not_mem_nil, IsEmpty.forall_iff, implies_true, and_true]
    norm_num [ExactScalar.literal_eq, abs_le]
  have layers : ∀ theme ∈ (all : List (Theme α)), ∀ spec ∈ theme.layers,
      spec.kind.isMortal = true → spec.density.isTransient = true := by
    simp [all, snowfall, sakura, fireflies, starfield, koi, zen, embers, bamboo, dunes,
      Kind.isMortal, Density.isTransient]
  exact ⟨(winds theme listed).1, (winds theme listed).2, layers theme listed⟩

/-! ## Ranges of winds -/

/-- A range that holds every wind that a theme may choose. -/
structure Theme.BlowsWithin (theme : Theme α) (low high : α) : Prop where
  low_mem : low ≤ theme.windLow ∧ theme.windLow ≤ high
  high_mem : low ≤ theme.windHigh ∧ theme.windHigh ≤ high

/-- The wind of a theme whose range is in order `BlowsWithin` it. -/
theorem Theme.blowsWithin_of_le {theme : Theme α} (ordered : theme.windLow ≤ theme.windHigh) :
    theme.BlowsWithin theme.windLow theme.windHigh :=
  ⟨⟨le_refl _, ordered⟩, ⟨ordered, le_refl _⟩⟩

/-- The wind of a `Gentle` theme never exceeds nine fifths of a pixel in a frame. -/
theorem Theme.Gentle.blowsWithin {theme : Theme α} (gentle : theme.Gentle) :
    theme.BlowsWithin (-(9 / 5)) (9 / 5) :=
  ⟨abs_le.1 gentle.low_le, abs_le.1 gentle.high_le⟩

/-- The wind of a scene is in a range, and so is what it eases toward. -/
structure Scene.Blows (low high : α) (scene : Scene α) : Prop where
  wind_mem : low ≤ scene.wind ∧ scene.wind ≤ high
  target_mem : low ≤ scene.windTarget ∧ scene.windTarget ≤ high

/-- Neither the wind of a scene is strong nor what it eases toward. -/
structure Scene.Calm (scene : Scene α) : Prop where
  wind_le : |scene.wind| ≤ 9 / 5
  target_le : |scene.windTarget| ≤ 9 / 5

/-- A scene is `Calm` if its wind is within the range of the gentle themes. -/
theorem Scene.calm_iff_blows {scene : Scene α} : scene.Calm ↔ scene.Blows (-(9 / 5)) (9 / 5) :=
  ⟨fun calm => ⟨abs_le.1 calm.wind_le, abs_le.1 calm.target_le⟩,
    fun blows => ⟨abs_le.2 blows.wind_mem, abs_le.2 blows.target_mem⟩⟩

namespace Engine

variable {theme : Theme α} {engine after : Engine α σ} {events : List (Event α)} {low high : α}

/-- The middle of a range that the wind keeps to is in the range. -/
theorem meanWind_mem (within : theme.BlowsWithin low high) :
    low ≤ meanWind theme ∧ meanWind theme ≤ high := by
  obtain ⟨⟨lowest, _⟩, ⟨_, highest⟩⟩ := within
  unfold meanWind
  norm_num [ExactScalar.literal_eq]
  exact ⟨by linarith, by linarith⟩

variable [Units σ α]

/-- The target of the wind stays as it is, save in the first frame of a period. -/
theorem nextWindTarget_eq {scene : Scene α} {frame : Nat} {target : α} {source source' : σ}
    (later : frame % windPeriod ≠ 1) (run : Runs (nextWindTarget theme scene frame) source target source') :
    target = scene.windTarget := by
  unfold nextWindTarget at run
  rw [if_neg later] at run
  exact (Runs.of_pure run).1

/-- How an update eases the wind that all bodies meet in it (`Motion.ease`). -/
theorem wind_of_outset {seconds : α} {tick : Tick α} {nursery : Nursery α σ}
    (begins : engine.outset seconds = .ok (tick, nursery)) :
    ∃ (target : α) (source : σ),
      Runs (nextWindTarget engine.theme engine.scene (engine.scene.frame + 1)) engine.source target
        source ∧
      tick = ⟨Motion.stepOf seconds, engine.scene.bounds,
        Motion.ease engine.scene.wind target (Scalar.least (0.01 * Motion.stepOf seconds) 1.0)⟩ := by
  obtain ⟨⟨target, source⟩, targetRun, begins⟩ := of_bind_eq_ok begins
  cases of_pure_eq_ok begins
  exact ⟨target, source, targetRun, rfl⟩

/-- What an update leaves of the wind, and what it eases it toward. -/
theorem wind_of_update [Words σ] {seconds : α}
    (run : engine.update seconds = .ok (after, events)) :
    (∃ source : σ,
      Runs (nextWindTarget engine.theme engine.scene (engine.scene.frame + 1)) engine.source
        after.scene.windTarget source) ∧
    after.scene.wind = Motion.ease engine.scene.wind after.scene.windTarget
      (Scalar.least (0.01 * Motion.stepOf seconds) 1.0) := by
  obtain ⟨⟨target, source⟩, targetRun, run⟩ := of_bind_eq_ok run
  obtain ⟨⟨advanced, ended⟩, _, run⟩ := of_bind_eq_ok run
  cases of_pure_eq_ok run
  exact ⟨⟨source, targetRun⟩, rfl⟩

variable [UnitRange σ α]

/-- What the wind eases toward is in the range of the theme, chosen anew or not. -/
theorem nextWindTarget_mem {scene : Scene α} {frame : Nat} {target : α} {source source' : σ}
    (within : theme.BlowsWithin low high) (blows : scene.Blows low high)
    (run : Runs (nextWindTarget theme scene frame) source target source') :
    low ≤ target ∧ target ≤ high := by
  by_cases first : frame % windPeriod = 1
  · unfold nextWindTarget at run
    rw [if_pos first] at run
    rcases lt_or_ge theme.windLow theme.windHigh with lt | ge
    · obtain ⟨above, below⟩ := Draw.of_span lt run
      exact ⟨within.low_mem.1.trans above, below.le.trans within.high_mem.2⟩
    · unfold Draw.span at run
      rw [if_neg (not_lt.2 ge)] at run
      obtain ⟨rfl, -⟩ := Runs.of_pure run
      exact within.low_mem
  · rw [nextWindTarget_eq first run]
    exact blows.target_mem

omit [Units σ α] [UnitRange σ α] in
/-- The share of the gap to its target that the wind closes in an update. -/
theorem windRate_mem (seconds : α) :
    0 ≤ Scalar.least (0.01 * Motion.stepOf seconds) 1.0 ∧
      Scalar.least (0.01 * Motion.stepOf seconds) 1.0 ≤ 1 := by
  have share : (0 : α) ≤ 0.01 := by norm_num [ExactScalar.literal_eq]
  obtain ⟨nonneg, le⟩ := Motion.rate_mem share (Motion.stepOf_mem seconds)
  exact ⟨nonneg, le.trans (min_le_left _ _)⟩

omit [Units σ α] [UnitRange σ α] in
theorem windRate_pos {seconds : α} (passes : 0 < Motion.stepOf seconds) :
    0 < Scalar.least (0.01 * Motion.stepOf seconds) 1.0 := by
  have share : (0 : α) < 0.01 := by norm_num [ExactScalar.literal_eq]
  rw [ExactScalar.least_eq, ExactScalar.one_literal]
  exact lt_min (mul_pos share passes) zero_lt_one

/-- What all bodies of a `Calm` scene meet in an update is `Tick.Mild`. -/
theorem mild_of_outset {seconds : α} {tick : Tick α} {nursery : Nursery α σ}
    (gentle : engine.theme.Gentle) (calm : engine.scene.Calm)
    (begins : engine.outset seconds = .ok (tick, nursery)) :
    tick.Mild ∧ tick.bounds = engine.scene.bounds := by
  obtain ⟨target, source, targetRun, rfl⟩ := wind_of_outset begins
  have blows := Scene.calm_iff_blows.1 calm
  have target_mem := nextWindTarget_mem gentle.blowsWithin blows targetRun
  obtain ⟨nonneg, le_one⟩ := windRate_mem seconds
  exact ⟨⟨Motion.stepOf_mem seconds,
    abs_le.2 (Motion.ease_mem nonneg le_one blows.wind_mem target_mem)⟩, rfl⟩

variable [Words σ]

omit [UnitRange σ α] in
/-- A new scene begins with the wind in the middle of the range, and at its target. -/
theorem wind_of_rebuild {width height : α}
    (run : engine.rebuild width height = .ok (after, events)) :
    after.scene.wind = meanWind engine.theme ∧ after.scene.windTarget = meanWind engine.theme := by
  obtain ⟨_, _, _, _, _, rfl⟩ := of_rebuild run
  exact ⟨rfl, rfl⟩

omit [UnitRange σ α] in
theorem blows_of_rebuild {width height : α} (within : engine.theme.BlowsWithin low high)
    (run : engine.rebuild width height = .ok (after, events)) : after.scene.Blows low high := by
  obtain ⟨wind, target⟩ := wind_of_rebuild run
  have mean_mem := meanWind_mem within
  exact ⟨wind ▸ mean_mem, target ▸ mean_mem⟩

/-- An update leaves the wind and its target in the range. -/
theorem blows_of_update {seconds : α} (within : engine.theme.BlowsWithin low high)
    (blows : engine.scene.Blows low high) (run : engine.update seconds = .ok (after, events)) :
    after.scene.Blows low high := by
  obtain ⟨⟨source, targetRun⟩, wind⟩ := wind_of_update run
  have target_mem := nextWindTarget_mem within blows targetRun
  obtain ⟨nonneg, le_one⟩ := windRate_mem seconds
  exact ⟨wind ▸ Motion.ease_mem nonneg le_one blows.wind_mem target_mem, target_mem⟩

/-- The wind of an engine and its target are in the range of the theme at any time. -/
theorem Lived.blows {scale width height : α} {seed : UInt64} {past : List (Engine α σ)}
    (lived : Lived theme scale seed width height past engine)
    (within : theme.BlowsWithin low high) : engine.scene.Blows low high := by
  induction lived with
  | started run => exact blows_of_rebuild within run
  | rebuilt lived run => exact blows_of_rebuild (lived.sound.theme_eq ▸ within) run
  | updated lived run ih => exact blows_of_update (lived.sound.theme_eq ▸ within) ih run

theorem Lived.calm {scale width height : α} {seed : UInt64} {past : List (Engine α σ)}
    (lived : Lived theme scale seed width height past engine) (gentle : theme.Gentle) :
    engine.scene.Calm :=
  Scene.calm_iff_blows.2 (lived.blows gentle.blowsWithin)

/-! ## The wind over a life -/

omit [UnitRange σ α] in
/-- The wind of an update is between the wind before it and its target, and if time passes in the
update it is other than before, unless the target is reached. -/
theorem eases_of_update {seconds : α} (run : engine.update seconds = .ok (after, events)) :
    (engine.scene.wind ≤ after.scene.windTarget →
      engine.scene.wind ≤ after.scene.wind ∧ after.scene.wind ≤ after.scene.windTarget) ∧
    (after.scene.windTarget ≤ engine.scene.wind →
      after.scene.windTarget ≤ after.scene.wind ∧ after.scene.wind ≤ engine.scene.wind) ∧
    (0 < Motion.stepOf seconds → engine.scene.wind ≠ after.scene.windTarget →
      after.scene.wind ≠ engine.scene.wind) := by
  obtain ⟨-, wind⟩ := wind_of_update run
  obtain ⟨nonneg, le_one⟩ := windRate_mem seconds
  rw [wind]
  refine ⟨fun le => ?_, fun le => ?_, fun passes apart stays => ?_⟩
  · exact Motion.ease_mem nonneg le_one ⟨le_refl _, le⟩ ⟨le, le_refl _⟩
  · exact Motion.ease_mem nonneg le_one ⟨le, le_refl _⟩ ⟨le_refl _, le⟩
  · have closed : (after.scene.windTarget - engine.scene.wind) *
        Scalar.least (0.01 * Motion.stepOf seconds) 1.0 = 0 := by
      unfold Motion.ease at stays
      linarith
    rcases mul_eq_zero.1 closed with gap | rate
    · exact apart (sub_eq_zero.1 gap).symm
    · exact (windRate_pos passes).ne' rate

/-- The wind stays in the range of its theme. Over the life of an engine both the wind of its scene
and what it eases toward (`windTarget`) are in that range. Frames are counted from the start and
from each new scene on, which begins with the wind in the middle of the range. An update chooses
another target only in the first frame of a period of 180, and it moves the wind toward the target
and never past it. -/
theorem wind_of_lived {scale width height : α} {seed : UInt64} {past : List (Engine α σ)}
    (ordered : theme.windLow ≤ theme.windHigh)
    (lived : Lived theme scale seed width height past engine) :
    (theme.windLow ≤ engine.scene.wind ∧ engine.scene.wind ≤ theme.windHigh) ∧
    (theme.windLow ≤ engine.scene.windTarget ∧ engine.scene.windTarget ≤ theme.windHigh) ∧
    (past = [] → engine.scene.frame = 0) ∧
    (∀ (width' height' : α) (after : Engine α σ) (events : List (Event α)),
      engine.rebuild width' height' = .ok (after, events) →
      after.scene.frame = 0 ∧ after.scene.wind = meanWind theme ∧
        after.scene.windTarget = meanWind theme) ∧
    ∀ (seconds : α) (after : Engine α σ) (events : List (Event α)),
      engine.update seconds = .ok (after, events) →
      after.scene.frame = engine.scene.frame + 1 ∧
      (after.scene.frame % 180 ≠ 1 → after.scene.windTarget = engine.scene.windTarget) ∧
      (engine.scene.wind ≤ after.scene.windTarget →
        engine.scene.wind ≤ after.scene.wind ∧ after.scene.wind ≤ after.scene.windTarget) ∧
      (after.scene.windTarget ≤ engine.scene.wind →
        after.scene.windTarget ≤ after.scene.wind ∧ after.scene.wind ≤ engine.scene.wind) ∧
      (0 < Motion.stepOf seconds → engine.scene.wind ≠ after.scene.windTarget →
        after.scene.wind ≠ engine.scene.wind) := by
  have blows := lived.blows (Theme.blowsWithin_of_le ordered)
  refine ⟨blows.wind_mem, blows.target_mem, ?_, ?_, ?_⟩
  · rintro rfl
    cases lived with
    | started run => exact frame_of_start run
  · intro width' height' after events run
    have winds := wind_of_rebuild run
    rw [lived.sound.theme_eq] at winds
    exact ⟨frame_of_rebuild run, winds⟩
  · intro seconds after events run
    have frame := frame_of_update run
    refine ⟨frame, fun later => ?_, eases_of_update run⟩
    obtain ⟨⟨source, targetRun⟩, -⟩ := wind_of_update run
    exact nextWindTarget_eq (frame ▸ later) targetRun

/-- A snowfall of no extent at its start, after a tenth of a second and after another. -/
def emptySnow :
    Except Fault (Engine ℚ Random.Stream × Engine ℚ Random.Stream × Engine ℚ Random.Stream) := do
  let (first, _) ← start Theme.snowfall 1 3 0 0
  let (second, _) ← first.update 0.1
  let (third, _) ← second.update 0.1
  return (first, second, third)

/-- The first frame of a snowfall chooses a stronger wind than the one it began with, and the second
frame still eases toward it. -/
theorem wind_of_emptySnow :
    ∃ first second third : Engine ℚ Random.Stream,
      (Theme.snowfall : Theme ℚ).windLow ≤ (Theme.snowfall : Theme ℚ).windHigh ∧
      Lived Theme.snowfall 1 3 0 0 [first] second ∧ Lived Theme.snowfall 1 3 0 0 [second, first] third ∧
      first.scene.windTarget < second.scene.windTarget ∧
      third.scene.windTarget = second.scene.windTarget ∧
      second.scene.wind ≤ third.scene.wind ∧ third.scene.wind ≠ second.scene.wind ∧
      third.scene.wind ≤ third.scene.windTarget ∧
      second.scene.windTarget ≤ (Theme.snowfall : Theme ℚ).windHigh := by
  have ends : emptySnow.toOption.any (fun snow =>
      decide (snow.1.scene.windTarget < snow.2.1.scene.windTarget) && snow.2.1.scene.frame == 1 &&
      decide (snow.2.1.scene.wind < snow.2.2.scene.windTarget)) = true := by
    decide +kernel
  obtain ⟨⟨first, second, third⟩, run, checked⟩ := of_any_toOption ends
  obtain ⟨⟨_, _⟩, firstRun, run⟩ := of_bind_eq_ok run
  obtain ⟨⟨_, _⟩, secondRun, run⟩ := of_bind_eq_ok run
  obtain ⟨⟨_, reported⟩, thirdRun, run⟩ := of_bind_eq_ok run
  cases of_pure_eq_ok run
  simp only [Bool.and_eq_true, beq_iff_eq, decide_eq_true_eq] at checked
  obtain ⟨⟨chosen, frame⟩, below⟩ := checked
  have lived : Lived Theme.snowfall 1 3 0 0 [first] second := (Lived.started firstRun).updated secondRun
  have ordered : (Theme.snowfall : Theme ℚ).windLow ≤ (Theme.snowfall : Theme ℚ).windHigh := by
    decide +kernel
  obtain ⟨-, target_mem, -, -, onUpdate⟩ := wind_of_lived ordered lived
  obtain ⟨counted, kept, rises, -, moves⟩ := onUpdate 0.1 third reported thirdRun
  have same : third.scene.windTarget = second.scene.windTarget := by
    refine kept ?_
    rw [counted, frame]
    decide
  obtain ⟨up, within⟩ := rises below.le
  have passes : 0 < Motion.stepOf (0.1 : ℚ) := by decide +kernel
  exact ⟨first, second, third, ordered, lived, lived.updated thirdRun, chosen, same, up,
    moves passes below.ne, within, target_mem.2⟩

end Engine

end Ambience
