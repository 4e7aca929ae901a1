import Mathlib.Tactic.Linarith
import Ambience.Proofs.Body.Standstill

/-!
# Steering

The turn of a wandering body eases toward targets that are drawn within a bound, so that it never
leaves the bound itself. A step adds the turn to the heading, of which the remainder takes whole turns
off and nothing else, and moves the body along the heading. So a step turns a body by little, and it
carries it no further along either axis than the body goes at its speed.
-/

namespace Ambience

variable {α σ : Type} [ExactScalar α]

/-! ## Turnings -/

namespace Wander

/-- A turning within its bound, whose next choice of a target is no further off than an interval. -/
structure Bounded (w : Wander α) : Prop where
  countdown_le : w.countdown ≤ w.interval
  target_le : |w.target| ≤ w.maxTurn
  turn_le : |w.turn| ≤ w.maxTurn
  rate_mem : 0 ≤ w.rate ∧ w.rate ≤ 1

variable [Units σ α] [UnitRange σ α] {w after : Wander α} {maxTurn rate target : α}
  {source source' : σ}

/-- A target of `chooseTarget` is within the bound of the turning, to either side. -/
theorem abs_le_of_chooseTarget (run : Runs (chooseTarget maxTurn) source target source') :
    |target| ≤ maxTurn :=
  abs_le.2 (Draw.of_uniformClosed run)

/-- A turning starts `Bounded`. -/
theorem bounded_of_start [Words σ] {interval : Nat} (rate_mem : 0 ≤ rate ∧ rate ≤ 1)
    (run : Runs (start maxTurn rate interval) source w source') : w.Bounded := by
  obtain ⟨target, _, targetRun, run⟩ := Runs.of_bind run
  obtain ⟨countdown, _, countdownRun, run⟩ := Runs.of_bind run
  cases (Runs.of_pure run).1
  have target_le := abs_le_of_chooseTarget targetRun
  refine ⟨(Draw.of_integer countdownRun).2.le, target_le, ?_, rate_mem⟩
  rw [ExactScalar.zero_literal, abs_zero]
  exact (abs_nonneg target).trans target_le

/-- The turn eases between bounds that it shares with its targets. -/
theorem Bounded.advance (bounded : w.Bounded) (run : Runs w.advance source after source') :
    after.Bounded := by
  have eased : ∀ {target : α}, |target| ≤ w.maxTurn →
      |Motion.ease w.turn target w.rate| ≤ w.maxTurn := fun target_le =>
    abs_le.2 (Motion.ease_mem bounded.rate_mem.1 bounded.rate_mem.2 (abs_le.1 bounded.turn_le)
      (abs_le.1 target_le))
  cases of_advance run with
  | chooses _ targetRun =>
    have target_le := abs_le_of_chooseTarget targetRun
    exact ⟨le_refl _, target_le, eased target_le, bounded.rate_mem⟩
  | @waits remaining countdown =>
    have small : remaining ≤ w.interval := by
      have countdown_le := bounded.countdown_le
      omega
    exact ⟨small, bounded.target_le, eased bounded.target_le, bounded.rate_mem⟩

/-- A `Bounded` turning can always go on, and what a step turns by is within its bound. -/
theorem Bounded.turns (bounded : w.Bounded) (source : σ) :
    ∃ after source', Runs w.advance source after source' ∧ |after.turn| ≤ w.maxTurn := by
  have nonneg : 0 ≤ w.maxTurn := (abs_nonneg _).trans bounded.turn_le
  obtain ⟨after, source', run⟩ := runs_advance nonneg source
  have turn_le := (bounded.advance run).turn_le
  rw [maxTurn_of_advance run] at turn_le
  exact ⟨after, source', run, turn_le⟩

end Wander

/-! ## Moves -/

/-- Where a body is and where it is heading. -/
structure Pose (α : Type) where
  x : α
  y : α
  heading : α

namespace Pose

/-- A pose from which another is reached by a turn of at most `turn`, whole turns aside, and by moving
at most `reach` along each axis. -/
structure Steers (turn reach : α) (pose pose' : Pose α) : Prop where
  heading_le : ∃ n : Int, |pose'.heading - pose.heading - n * Scalar.tau| ≤ turn
  x_le : |pose'.x - pose.x| ≤ reach
  y_le : |pose'.y - pose.y| ≤ reach

/-- The pose after some nominal frames at a turn and a speed. -/
def moved (pose : Pose α) (turn speed step : α) : Pose α :=
  let heading := Scalar.remainder (pose.heading + turn * step) Scalar.tau
  ⟨pose.x + Scalar.cos heading * speed * step, pose.y + Scalar.sin heading * speed * step, heading⟩

/-- A pose that was `moved` by a bounded turn at a bounded speed `Steers` within both bounds, whole
turns aside. -/
theorem steers_moved [FloorRing α] [ExactRemainder α] [ExactWaves α] (pose : Pose α)
    {turn speed step most reach : α} (forward : 0 ≤ step) (turn_le : |turn| ≤ most)
    (speed_le : |speed| ≤ reach) :
    pose.Steers (most * step) (reach * step) (pose.moved turn speed step) := by
  have elapsed : |step| ≤ step := (abs_of_nonneg forward).le
  have along : ∀ wave : α, |wave| ≤ 1 → |wave * speed * step| ≤ reach * step := by
    intro wave wave_le
    have driven := abs_mul_le wave_le speed_le
    rw [one_mul] at driven
    exact abs_mul_le driven elapsed
  refine ⟨?_, ?_, ?_⟩
  · obtain ⟨n, whole⟩ : ∃ n : Int, (pose.moved turn speed step).heading =
        pose.heading + turn * step - Scalar.tau * n := ⟨_, ExactRemainder.remainder_exact _ _⟩
    refine ⟨-n, ?_⟩
    have turned : (pose.moved turn speed step).heading - pose.heading - (-n : Int) * Scalar.tau =
        turn * step := by
      rw [whole]
      push_cast
      ring
    rw [turned]
    exact abs_mul_le turn_le elapsed
  · rw [moved, add_sub_cancel_left]
    exact along _ (ExactWaves.abs_cos_le _)
  · rw [moved, add_sub_cancel_left]
    exact along _ (ExactWaves.abs_sin_le _)

end Pose

section Steps

variable [Units σ α] [UnitRange σ α] {tick : Tick α} {fate : Fate} {source source' : σ}

/-! ## Fireflies -/

namespace Firefly

variable {f after : Firefly α}

def pose (f : Firefly α) : Pose α := ⟨f.x, f.y, f.heading⟩

/-- A firefly that turns within its bound and does not fly backward. -/
structure Tame (f : Firefly α) : Prop where
  wander : f.wander.Bounded
  speed_nonneg : 0 ≤ f.speed

/-- Fireflies are born `Tame`. -/
theorem tame_of_spawn [Words σ] {site : Site α} (run : Runs (spawn site) source f source') :
    f.Tame := by
  obtain ⟨⟨x, y, heading⟩, _, _, run⟩ := Runs.of_bind run
  obtain ⟨speed, _, speedRun, run⟩ := Runs.of_bind run
  obtain ⟨radius, _, _, run⟩ := Runs.of_bind run
  obtain ⟨opacity, _, _, run⟩ := Runs.of_bind run
  obtain ⟨wander, _, wanderRun, run⟩ := Runs.of_bind run
  obtain ⟨phase, _, _, run⟩ := Runs.of_bind run
  obtain ⟨blinking, _, _, run⟩ := Runs.of_bind run
  cases (Runs.of_pure run).1
  have slow := (Draw.of_uniform speedRun).1
  norm_num [ExactScalar.literal_eq] at slow
  exact ⟨Wander.bounded_of_start (by norm_num [ExactScalar.literal_eq]) wanderRun, by linarith⟩

/-- A step leaves a firefly `Tame`. -/
theorem Tame.step (tame : f.Tame) (run : Runs (f.step tick) source (after, fate) source') :
    after.Tame := by
  obtain ⟨wander, _, wanderRun, run⟩ := Runs.of_bind run
  cases (Runs.of_pure run).1
  exact ⟨tame.wander.advance wanderRun, tame.speed_nonneg⟩

/-- A `Tame` firefly can always step, and turns and moves within the bounds of its own record. -/
theorem Tame.steers [FloorRing α] [ExactRemainder α] [ExactWaves α] (tame : f.Tame)
    (forward : 0 ≤ tick.step) (source : σ) :
    ∃ after fate source', Runs (f.step tick) source (after, fate) source' ∧
      f.pose.Steers (f.wander.maxTurn * tick.step) (f.speed * tick.step) after.pose := by
  obtain ⟨wander, source', wanderRun, turn_le⟩ := tame.wander.turns source
  refine ⟨_, _, source', .bind wanderRun rfl, ?_⟩
  exact f.pose.steers_moved forward turn_le (abs_of_nonneg tame.speed_nonneg).le

end Firefly

/-! ## Koi -/

namespace Koi

variable {k after : Koi α}

def pose (k : Koi α) : Pose α := ⟨k.x, k.y, k.heading⟩

/-- A koi that turns within its bound and does not swim backward. -/
structure Tame (k : Koi α) : Prop where
  wander : k.wander.Bounded
  speed_nonneg : 0 ≤ k.speed
  amplitude_nonneg : 0 ≤ k.tail.amplitude

/-- Koi are born `Tame`. -/
theorem tame_of_spawn [Words σ] {site : Site α} (run : Runs (spawn site) source k source') :
    k.Tame := by
  obtain ⟨length, _, _, run⟩ := Runs.of_bind run
  obtain ⟨⟨x, y, heading⟩, _, _, run⟩ := Runs.of_bind run
  obtain ⟨speed, _, speedRun, run⟩ := Runs.of_bind run
  obtain ⟨opacity, _, _, run⟩ := Runs.of_bind run
  obtain ⟨variant, _, _, run⟩ := Runs.of_bind run
  obtain ⟨wander, _, wanderRun, run⟩ := Runs.of_bind run
  obtain ⟨tail, _, tailRun, run⟩ := Runs.of_bind run
  cases (Runs.of_pure run).1
  have slow := (Draw.of_uniform speedRun).1
  have small := (Oscillator.amplitude_mem tailRun).1
  norm_num [ExactScalar.literal_eq] at slow small
  have strokes : 0 ≤ tail.amplitude := by linarith
  exact ⟨Wander.bounded_of_start (by norm_num [ExactScalar.literal_eq]) wanderRun, by linarith,
    strokes⟩

/-- A step leaves a koi `Tame`. -/
theorem Tame.step (tame : k.Tame) (run : Runs (k.step tick) source (after, fate) source') :
    after.Tame := by
  obtain ⟨wander, _, wanderRun, run⟩ := Runs.of_bind run
  cases (Runs.of_pure run).1
  exact ⟨tame.wander.advance wanderRun, tame.speed_nonneg, tame.amplitude_nonneg⟩

/-- A `Tame` koi can always step, and its tail quickens it by no more than a quarter of its
amplitude. -/
theorem Tame.steers [FloorRing α] [ExactRemainder α] [ExactWaves α] (tame : k.Tame)
    (forward : 0 ≤ tick.step) (source : σ) :
    ∃ after fate source', Runs (k.step tick) source (after, fate) source' ∧
      k.pose.Steers (k.wander.maxTurn * tick.step)
        (k.speed * (1 + 1 / 4 * k.tail.amplitude) * tick.step) after.pose := by
  obtain ⟨wander, source', wanderRun, turn_le⟩ := tame.wander.turns source
  -- The push of a stroke is at its strongest where the deflection of the tail is.
  have stroke : |(k.tail.advance tick.step).value| ≤ k.tail.amplitude :=
    Oscillator.abs_value_le (abs_of_nonneg tame.amplitude_nonneg).le
  have push_le : |1.0 + 0.25 * Scalar.magnitude (k.tail.advance tick.step).value| ≤
      1 + 1 / 4 * k.tail.amplitude := by
    rw [ExactScalar.magnitude_eq, ExactScalar.one_literal, ExactScalar.literal_eq, abs_of_nonneg]
    · norm_num
      exact stroke
    · positivity
  refine ⟨_, _, source', .bind wanderRun rfl, ?_⟩
  have moves := k.pose.steers_moved forward turn_le
    (abs_mul_le (abs_of_nonneg tame.speed_nonneg).le push_le)
  -- The step takes the products of a move from the left.
  rw [Pose.moved] at moves
  simp only [← mul_assoc] at moves
  exact moves

end Koi

/-! ## All bodies -/

/-- A body that is tame if it wanders. -/
def Body.Tame : Body α → Prop
  | firefly f => f.Tame
  | koi k => k.Tame
  | _ => True

/-- Every body is born `Body.Tame`. -/
theorem Kind.tame_of_spawn [Words σ] {kind : Kind} {site : Site α}
    {geometry geometry' : Geometry α} {body : Body α}
    (run : Runs (kind.spawn site geometry) source (some body, geometry') source') :
    body.Tame := by
  cases of_spawn run with
  | found same =>
    subst same
    cases body with
    | firefly f =>
      obtain ⟨_, bornRun, same⟩ := of_free run
      cases same
      exact Firefly.tame_of_spawn bornRun
    | koi k =>
      obtain ⟨_, bornRun, same⟩ := of_free run
      cases same
      exact Koi.tame_of_spawn bornRun
    | _ => trivial

/-- Every step leaves a body `Body.Tame`. -/
theorem Body.Tame.step {body body' : Body α} (tame : body.Tame)
    (run : Runs (body.step tick) source (body', fate) source') : body'.Tame := by
  cases body with
  | firefly f =>
    obtain ⟨_, _, stepRun, run⟩ := Runs.of_bind run
    cases (Runs.of_pure run).1
    exact Firefly.Tame.step tame stepRun
  | koi k =>
    obtain ⟨_, _, stepRun, run⟩ := Runs.of_bind run
    cases (Runs.of_pure run).1
    exact Koi.Tame.step tame stepRun
  | _ =>
    cases (Runs.of_pure run).1
    trivial

end Steps

end Ambience
