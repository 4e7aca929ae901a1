import Mathlib.Tactic.Linarith
import Ambience.Proofs.Body.FirstSteps
import Ambience.Proofs.Body.Wandering
import Ambience.Proofs.Engine.Rooted

/-!
# Bodies at a standstill

When no time passes a body still takes its step: waves and headings are computed anew, wandering bodies
choose targets, and positions are wrapped. Bodies that are in order come through it where they are and
as they are, and bodies are in order from their birth on.
-/

namespace Ambience

variable {α σ : Type}

/-! ## Rest -/

/-- A body that has not moved, aged or grown: nothing but its waves and its course are other than they
were. -/
inductive Body.Rests : Body α → Body α → Prop
  | flake {f : Flake α} {sway : Oscillator α} : Rests (.flake f) (.flake { f with sway })
  | petal {t : Tumbler α} {vx vy rotation : α} {flutter : Oscillator α} :
    Rests (.petal t) (.petal { t with vx, vy, rotation, flutter })
  | leaf {t : Tumbler α} {vx vy rotation : α} {flutter : Oscillator α} :
    Rests (.leaf t) (.leaf { t with vx, vy, rotation, flutter })
  | firefly {f : Firefly α} {heading : α} {wander : Wander α} {blink : Oscillator α} :
    Rests (.firefly f) (.firefly { f with heading, wander, blink })
  | star {s : Star α} {twinkle : Oscillator α} : Rests (.star s) (.star { s with twinkle })
  | koi {k : Koi α} {heading : α} {wander : Wander α} {tail : Oscillator α} :
    Rests (.koi k) (.koi { k with heading, wander, tail })
  | ripple {r : Ripple α} : Rests (.ripple r) (.ripple r)
  | ember {e : Mote α} {vx vy : α} {wobble : Oscillator α} :
    Rests (.ember e) (.ember { e with vx, vy, wobble })
  | grain {g : Mote α} {wobble : Oscillator α} : Rests (.grain g) (.grain { g with wobble })
  | rooted {body body' : Body α} : body.Stays body' → Rests body body'

namespace Body.Rests

variable {body body' : Body α}

theorem position_eq (rests : body.Rests body') : body'.position? = body.position? := by
  cases rests with
  | rooted stays => cases stays <;> rfl
  | _ => rfl

theorem kind_eq (rests : body.Rests body') : body'.kind = body.kind := by
  cases rests with
  | rooted stays => cases stays <;> rfl
  | _ => rfl

theorem life_eq (rests : body.Rests body') : body'.life? = body.life? := by
  cases rests with
  | rooted stays => cases stays <;> rfl
  | _ => rfl

theorem radius_eq (rests : body.Rests body') : body'.radius? = body.radius? := by
  cases rests with
  | rooted stays => cases stays <;> rfl
  | _ => rfl

/-- A body at rest is gone exactly if it was, since `Body.isGone` only reads what `Body.Rests`
keeps. -/
theorem isGone_eq [Scalar α] (rests : body.Rests body') (bounds : Bounds α) :
    body'.isGone bounds = body.isGone bounds := by
  cases rests with
  | rooted stays => cases stays <;> rfl
  | _ => rfl

end Body.Rests

/-! ## Order -/

variable [ExactScalar α] {bounds : Bounds α} {tick : Tick α}

/-- A flake that does not have to be wrapped. -/
structure Flake.Wrapped (bounds : Bounds α) (f : Flake α) : Prop extends Flake.Measured f where
  x_mem : 0 < bounds.width → -12 ≤ f.x ∧ f.x ≤ bounds.width + 12

/-- A body whose step can be taken, and does not wrap it unless it is moved. -/
def Body.Orderly (bounds : Bounds α) : Body α → Prop
  | flake f => f.Wrapped bounds
  | firefly f => 0 ≤ f.wander.maxTurn
  | koi k => 0 ≤ k.wander.maxTurn
  | _ => True

theorem Body.orderly_of_newborn {body : Body α} (newborn : body.Newborn bounds) :
    body.Orderly bounds := by
  cases body with
  | flake f =>
    obtain ⟨left, right⟩ := newborn.x_mem
    exact ⟨newborn.toMeasured, fun _ => ⟨by linarith, by linarith⟩⟩
  | firefly | koi => exact newborn.maxTurn_nonneg
  | _ => trivial

namespace Wander

variable [Units σ α] {w after : Wander α} {source source' : σ}

/-- No call of `Wander.advance` changes how far a body may turn. -/
theorem maxTurn_of_advance (run : Runs w.advance source after source') :
    after.maxTurn = w.maxTurn := by
  cases of_advance run with
  | chooses | waits => rfl

theorem runs_advance (nonneg : 0 ≤ w.maxTurn) (source : σ) :
    ∃ after source', Runs w.advance source after source' := by
  obtain ⟨target, source', targetRun⟩ :=
    Draw.runs_uniformClosed (neg_le_self nonneg) source
  unfold advance
  split
  · exact ⟨_, source', .bind targetRun (.bind rfl rfl)⟩
  · exact ⟨_, source, .bind rfl rfl⟩

end Wander

/-- A step leaves a body `Orderly`. -/
theorem Body.orderly_of_step [ExactWaves α] [Units σ α] {body after : Body α} {source source' : σ}
    {fate : Fate} (mild : tick.Mild) (orderly : body.Orderly tick.bounds)
    (run : Runs (body.step tick) source (after, fate) source') : after.Orderly tick.bounds := by
  cases body with
  | flake f =>
    cases (Runs.of_pure run).1
    refine ⟨⟨orderly.z_mem, orderly.sway_le⟩, fun wide => ?_⟩
    obtain ⟨back, forth⟩ := abs_le.1 (Flake.abs_shift_le orderly.toMeasured mild)
    obtain ⟨left, right⟩ := orderly.x_mem wide
    exact Flake.wrap_mem (x := f.x + f.shift tick) wide ⟨by linarith, by linarith⟩
  | firefly f =>
    obtain ⟨_, _, stepRun, run⟩ := Runs.of_bind run
    obtain ⟨_, _, wanderRun, stepRun⟩ := Runs.of_bind stepRun
    cases (Runs.of_pure stepRun).1
    cases (Runs.of_pure run).1
    exact orderly.trans_eq (Wander.maxTurn_of_advance wanderRun).symm
  | koi k =>
    obtain ⟨_, _, stepRun, run⟩ := Runs.of_bind run
    obtain ⟨_, _, wanderRun, stepRun⟩ := Runs.of_bind stepRun
    cases (Runs.of_pure stepRun).1
    cases (Runs.of_pure run).1
    exact orderly.trans_eq (Wander.maxTurn_of_advance wanderRun).symm
  | _ =>
    cases (Runs.of_pure run).1
    trivial

/-! ## Standing still -/

section Still

variable (still : tick.step = 0)

include still

/-- A flake within both margins is left at rest by a step in which no time passes. -/
theorem Flake.rests {f : Flake α} (wrapped : f.Wrapped tick.bounds) :
    (Body.flake f).Rests (.flake (f.step tick).1) := by
  have rest : (f.step tick).1 = { f with sway := f.sway.advance tick.step } := by
    simp only [step, still, mul_zero, add_zero, wrap_of_mem wrapped.x_mem]
  rw [rest]
  exact .flake

/-- A `drift` in which no time passes moves nothing. -/
theorem Tumbler.drift_still (t : Tumbler α) : (t.drift tick).1 = t := by
  simp only [drift, still, mul_zero, add_zero]

theorem Star.rests (s : Star α) : (Body.star s).Rests (.star (s.step tick).1) := by
  have rest : (s.step tick).1 = { s with twinkle := s.twinkle.advance tick.step } := by
    simp only [step, still, mul_zero, add_zero]
  rw [rest]
  exact .star

theorem Ripple.rests (r : Ripple α) : (Body.ripple r).Rests (.ripple (r.step tick).1) := by
  have rest : (r.step tick).1 = r := by
    simp only [step, still, mul_zero, add_zero]
  rw [rest]
  exact .ripple

theorem Mote.ember_rests (e : Mote α) : (Body.ember e).Rests (.ember (e.stepEmber tick).1) := by
  have rest : (e.stepEmber tick).1 =
      { e with
        vy := e.vy * Scalar.power 0.997 tick.step
        wobble := e.wobble.advance tick.step } := by
    simp only [stepEmber, still, mul_zero, add_zero, sub_zero]
  rw [rest]
  exact .ember

theorem Mote.grain_rests (g : Mote α) : (Body.grain g).Rests (.grain (g.stepGrain tick).1) := by
  have rest : (g.stepGrain tick).1 = { g with wobble := g.wobble.advance tick.step } := by
    simp only [stepGrain, still, mul_zero, add_zero, sub_zero]
  rw [rest]
  exact .grain

variable [Units σ α]

/-- When no time passes the step of an `Orderly` body can be taken, and leaves the body at rest. -/
theorem Body.runs_still {body : Body α} (orderly : body.Orderly tick.bounds) (source : σ) :
    ∃ after fate source', Runs (body.step tick) source (after, fate) source' ∧ body.Rests after := by
  cases body with
  | flake f => exact ⟨_, _, source, rfl, f.rests still orderly⟩
  | petal t =>
    refine ⟨_, _, source, rfl, ?_⟩
    rw [Tumbler.stepPetal, Tumbler.drift_still still]
    exact .petal
  | leaf t =>
    refine ⟨_, _, source, rfl, ?_⟩
    rw [Tumbler.stepLeaf, Tumbler.drift_still still]
    exact .leaf
  | star s => exact ⟨_, _, source, rfl, s.rests still⟩
  | ripple r => exact ⟨_, _, source, rfl, r.rests still⟩
  | ember e => exact ⟨_, _, source, rfl, e.ember_rests still⟩
  | grain g => exact ⟨_, _, source, rfl, g.grain_rests still⟩
  | firefly f =>
    obtain ⟨wander, source', wanderRun⟩ := Wander.runs_advance orderly source
    refine ⟨_, _, source', .bind (.bind wanderRun rfl) rfl, ?_⟩
    simp only [still, mul_zero, add_zero]
    exact .firefly
  | koi k =>
    obtain ⟨wander, source', wanderRun⟩ := Wander.runs_advance orderly source
    refine ⟨_, _, source', .bind (.bind wanderRun rfl) rfl, ?_⟩
    simp only [still, mul_zero, add_zero]
    exact .koi
  | stone | rake | glow | stalk | ridge | cactus =>
    exact ⟨_, _, source, rfl, .rooted (by constructor)⟩

/-- What a step in which no time passes leaves of an `Orderly` body is the body at rest. -/
theorem Body.rests_of_step {body after : Body α} {source source' : σ} {fate : Fate}
    (orderly : body.Orderly tick.bounds)
    (run : Runs (body.step tick) source (after, fate) source') : body.Rests after := by
  obtain ⟨_, _, _, stillRun, rests⟩ := runs_still still orderly source
  cases Except.ok.inj (run.symm.trans stillRun)
  exact rests

end Still

end Ambience
