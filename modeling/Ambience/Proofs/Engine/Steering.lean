import Ambience.Proofs.Body.Steering
import Ambience.Proofs.Engine.Newcomers

/-!
# Steering in a scene

Fireflies and koi are born tame and every step leaves them so, whichever theme they are in. So at any
time of the life of an engine their turns are within their bounds, and a step turns and moves them by
little.
-/

namespace Ambience.Engine

variable {α σ : Type} [ExactScalar α] [Words σ] [Units σ α] [UnitRange σ α] {engine : Engine α σ}
  {theme : Theme α} {scale width height : α} {seed : UInt64} {past : List (Engine α σ)}

/-- Every body of an engine is `Body.Tame` at any time of its life. -/
theorem Lived.tame (lived : Lived theme scale seed width height past engine) :
    ∀ entity ∈ engine.scene.entities, entity.body.Tame :=
  lived.each Body.Tame (fun _ run => Kind.tame_of_spawn run) fun _ tame run => tame.step run

/-- Turning is bounded. The countdown of every firefly and koi of a scene is at most its interval,
and neither its turn nor its target ever exceeds the bound on them (`Wander.Bounded`). In a step of
some nominal frames its heading changes by no more than that bound for each of them, whole turns
aside, and along either axis it moves by no more than its speed for each (`Pose.Steers`): for a koi
its speed at the strongest stroke of its tail. -/
theorem turning_of_lived [FloorRing α] [ExactRemainder α] [ExactWaves α]
    (lived : Lived theme scale seed width height past engine) :
    (∀ id f, ⟨id, .firefly f⟩ ∈ engine.scene.entities →
      f.wander.Bounded ∧
      ∀ (tick : Tick α) (source : σ), 0 ≤ tick.step →
        ∃ after fate source', Runs (f.step tick) source (after, fate) source' ∧
          f.pose.Steers (f.wander.maxTurn * tick.step) (f.speed * tick.step) after.pose) ∧
    ∀ id k, ⟨id, .koi k⟩ ∈ engine.scene.entities →
      k.wander.Bounded ∧
      ∀ (tick : Tick α) (source : σ), 0 ≤ tick.step →
        ∃ after fate source', Runs (k.step tick) source (after, fate) source' ∧
          k.pose.Steers (k.wander.maxTurn * tick.step)
            (k.speed * (1 + 1 / 4 * k.tail.amplitude) * tick.step) after.pose := by
  constructor
  · intro id f member
    have tame : f.Tame := lived.tame _ member
    exact ⟨tame.wander, fun tick source forward => tame.steers forward source⟩
  · intro id k member
    have tame : k.Tame := lived.tame _ member
    exact ⟨tame.wander, fun tick source forward => tame.steers forward source⟩

/-- A firefly over a pond with one koi. -/
def nightPond : Theme Clipped :=
  { Theme.koi with layers := [⟨.koi, 0, .fixed 1⟩, ⟨.firefly, 1, .fixed 1⟩] }

/-- A pond at night, at its start and a tenth of a second later. -/
def dusk : Except Fault (Engine Clipped Random.Stream × Engine Clipped Random.Stream) := do
  let (engine, _) ← start nightPond 1 7 40 30
  let (later, _) ← engine.update 0.1
  return (engine, later)

/-- The koi and the firefly of a pond at night turn within their bounds after an update, and two
more nominal frames carry them no further than they go at their speeds. -/
theorem turning_of_nightPond :
    ∃ (engine later : Engine Clipped Random.Stream) (k k' : Koi Clipped) (f f' : Firefly Clipped)
      (fate fate' : Fate) (rest rest' : Random.Stream),
      Lived nightPond 1 7 40 30 [engine] later ∧
      ⟨1, .koi k⟩ ∈ later.scene.entities ∧ ⟨2, .firefly f⟩ ∈ later.scene.entities ∧
      |k.wander.turn| ≤ k.wander.maxTurn ∧ |f.wander.turn| ≤ f.wander.maxTurn ∧
      Runs (k.step ⟨2, later.scene.bounds, 0⟩) later.source (k', fate) rest ∧
      k.pose.Steers (k.wander.maxTurn * 2) (k.speed * (1 + 1 / 4 * k.tail.amplitude) * 2) k'.pose ∧
      Runs (f.step ⟨2, later.scene.bounds, 0⟩) later.source (f', fate') rest' ∧
      f.pose.Steers (f.wander.maxTurn * 2) (f.speed * 2) f'.pose := by
  have ends : dusk.toOption.any (fun (_, later) =>
      later.scene.entities.map (fun entity => (entity.id, entity.body.kind)) ==
        [(1, .koi), (2, .firefly)]) = true := by
    decide +kernel
  obtain ⟨⟨engine, later⟩, run, checked⟩ := of_any_toOption ends
  obtain ⟨⟨_, _⟩, startRun, run⟩ := of_bind_eq_ok run
  obtain ⟨⟨_, _⟩, updateRun, run⟩ := of_bind_eq_ok run
  cases of_pure_eq_ok run
  rw [beq_iff_eq] at checked
  have lived : Lived nightPond 1 7 40 30 [engine] later :=
    (Lived.started startRun).updated updateRun
  obtain ⟨koi, koiAt, isKoi⟩ := Scene.exists_of_kinds checked 1 .koi (by decide)
  obtain ⟨firefly, fireflyAt, isFirefly⟩ := Scene.exists_of_kinds checked 2 .firefly (by decide)
  cases koi with
  | koi k =>
    cases firefly with
    | firefly f =>
      obtain ⟨fireflies, carp⟩ := turning_of_lived lived
      obtain ⟨kBounded, kSteps⟩ := carp 1 k koiAt
      obtain ⟨fBounded, fSteps⟩ := fireflies 2 f fireflyAt
      have forward : (0 : Clipped) ≤ 2 := by norm_num
      obtain ⟨k', fate, rest, kRun, kSteers⟩ :=
        kSteps ⟨2, later.scene.bounds, 0⟩ later.source forward
      obtain ⟨f', fate', rest', fRun, fSteers⟩ :=
        fSteps ⟨2, later.scene.bounds, 0⟩ later.source forward
      exact ⟨engine, later, k, k', f, f', fate, fate', rest, rest', lived, koiAt, fireflyAt,
        kBounded.turn_le, fBounded.turn_le, kRun, kSteers, fRun, fSteers⟩
    | _ => cases isFirefly
  | _ => cases isKoi

end Ambience.Engine
