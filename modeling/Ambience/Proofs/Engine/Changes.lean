import Ambience.Proofs.Engine.Layers

/-!
# What changes an engine

An engine is built for a view, built anew for another one, and updated. What each of these leaves is
taken from a successful run: the scene that it sets up and the layers that were built or advanced for
it.
-/

namespace Ambience.Engine

variable {α σ : Type} [Scalar α] [Words σ] [Units σ α] {engine after : Engine α σ}
  {events : List (Event α)}

/-- What all layers meet in the update after some seconds, and the nursery of the first of them. -/
def outset (engine : Engine α σ) (seconds : α) : Except Fault (Tick α × Nursery α σ) := do
  let scene := engine.scene
  let step := Motion.stepOf seconds
  let (windTarget, source) ←
    (nextWindTarget engine.theme scene (scene.frame + 1)).run engine.source
  let wind := Motion.ease scene.wind windTarget (Scalar.least (0.01 * step) 1.0)
  return (⟨step, scene.bounds, wind⟩,
    { source, geometry := scene.geometry, nextId := scene.nextId })

omit [Words σ] in
/-- An update sets out with the step of its seconds, in the view and with the geometry of the
scene. -/
theorem of_outset {seconds : α} {tick : Tick α} {nursery : Nursery α σ}
    (begins : engine.outset seconds = .ok (tick, nursery)) :
    tick.step = Motion.stepOf seconds ∧ tick.bounds = engine.scene.bounds ∧
      nursery.geometry = engine.scene.geometry := by
  obtain ⟨_, _, begins⟩ := of_bind_eq_ok begins
  cases of_pure_eq_ok begins
  exact ⟨rfl, rfl, rfl⟩

/-- The bodies of a layer after the steps that they take in the update after some seconds, each with
its fate. -/
def outcomes (engine : Engine α σ) (seconds : α) (k : Nat) :
    Except Fault (List (Entity α × Fate)) := do
  let (tick, nursery) ← engine.outset seconds
  let (_, nursery) ← (Layer.advanceAll tick (engine.scene.layers.take k)).run nursery
  let entities := (engine.scene.layers[k]?.map Layer.entities).getD []
  let (stepped, _) ← (Layer.stepAll tick entities).run nursery.source
  return stepped

/-- The `outcomes` of a layer are the steps of its bodies, taken with what the layers before it left
of the randomness. -/
theorem outcomes_eq {seconds : α} {tick : Tick α} {nursery middle : Nursery α σ} {k : Nat}
    {layer : Layer α} {firsts : List (Layer α × Nat)} {stepped : List (Entity α × Fate)}
    {source : σ} (begins : engine.outset seconds = .ok (tick, nursery))
    (found : engine.scene.layers[k]? = some layer)
    (firstsRun : Runs (Layer.advanceAll tick (engine.scene.layers.take k)) nursery firsts middle)
    (stepRun : Runs (Layer.stepAll tick layer.entities) middle.source stepped source) :
    engine.outcomes seconds k = .ok stepped := by
  unfold Runs at firstsRun stepRun
  unfold outcomes
  rw [begins, found]
  show (Layer.advanceAll tick (engine.scene.layers.take k)).run nursery >>= _ = _
  rw [firstsRun]
  show (Layer.stepAll tick layer.entities).run middle.source >>= _ = _
  rw [stepRun]
  rfl

/-- Where there is no layer nothing takes a step. -/
theorem outcomes_eq_nil {seconds : α} {k : Nat} {outcomes : List (Entity α × Fate)}
    (missing : engine.scene.layers[k]? = none) (run : engine.outcomes seconds k = .ok outcomes) :
    outcomes = [] := by
  obtain ⟨_, _, run⟩ := of_bind_eq_ok run
  obtain ⟨_, _, run⟩ := of_bind_eq_ok run
  obtain ⟨_, stepRun, run⟩ := of_bind_eq_ok run
  cases of_pure_eq_ok run
  rw [missing] at stepRun
  exact (Runs.of_pure stepRun).1

/-- What a rebuild comes to: a scene of layers that were all built in one nursery, whose identities
go on from those of the old scene. -/
theorem of_rebuild {width height : α} (run : engine.rebuild width height = .ok (after, events)) :
    ∃ (nursery ended : Nursery α σ) (built : List (Layer α × List Nat)),
      nursery.nextId = max 1 engine.scene.nextId ∧
      Runs (Layer.buildAll (Bounds.of width height) (meanWind engine.theme) engine.scale
        engine.theme.layers) nursery built ended ∧
      after =
        { engine with
          source := ended.source
          scene :=
            { bounds := Bounds.of width height
              time := 0.0
              frame := 0
              wind := meanWind engine.theme
              windTarget := meanWind engine.theme
              layers := built.map Prod.fst
              geometry := ended.geometry
              nextId := ended.nextId } } := by
  obtain ⟨⟨built, ended⟩, buildRun, run⟩ := of_bind_eq_ok run
  cases of_pure_eq_ok run
  exact ⟨_, ended, built, rfl, buildRun, rfl⟩

/-- What an update comes to: a scene of layers that all advanced by one tick, in one nursery. -/
theorem of_update {seconds : α} (run : engine.update seconds = .ok (after, events)) :
    ∃ (tick : Tick α) (nursery ended : Nursery α σ) (advanced : List (Layer α × Nat))
      (time windTarget : α),
      engine.outset seconds = .ok (tick, nursery) ∧
      nursery.nextId = engine.scene.nextId ∧
      Runs (Layer.advanceAll tick engine.scene.layers) nursery advanced ended ∧
      after =
        { engine with
          source := ended.source
          scene :=
            { engine.scene with
              time
              frame := engine.scene.frame + 1
              wind := tick.wind
              windTarget
              layers := advanced.map Prod.fst
              geometry := ended.geometry
              nextId := ended.nextId } } := by
  obtain ⟨⟨windTarget, source⟩, windRun, run⟩ := of_bind_eq_ok run
  obtain ⟨⟨advanced, ended⟩, advanceRun, run⟩ := of_bind_eq_ok run
  cases of_pure_eq_ok run
  refine ⟨_, _, ended, advanced, _, windTarget, ?_, rfl, advanceRun, rfl⟩
  dsimp only [outset]
  rw [windRun]
  rfl

/-! ## The view -/

theorem bounds_of_rebuild {width height : α}
    (run : engine.rebuild width height = .ok (after, events)) :
    after.scene.bounds = Bounds.of width height := by
  obtain ⟨_, _, _, _, _, rfl⟩ := of_rebuild run
  rfl

theorem bounds_of_start {theme : Theme α} {scale width height : α} {seed : UInt64}
    (run : start theme scale seed width height = .ok (after, events)) :
    after.scene.bounds = Bounds.of width height :=
  bounds_of_rebuild run

theorem bounds_of_update {seconds : α} (run : engine.update seconds = .ok (after, events)) :
    after.scene.bounds = engine.scene.bounds := by
  obtain ⟨_, _, _, _, _, _, _, _, _, rfl⟩ := of_update run
  rfl

/-! ## The count of updates -/

theorem frame_of_rebuild {width height : α}
    (run : engine.rebuild width height = .ok (after, events)) : after.scene.frame = 0 := by
  obtain ⟨_, _, _, _, _, rfl⟩ := of_rebuild run
  rfl

theorem frame_of_start {theme : Theme α} {scale width height : α} {seed : UInt64}
    (run : start theme scale seed width height = .ok (after, events)) : after.scene.frame = 0 :=
  frame_of_rebuild run

theorem frame_of_update {seconds : α} (run : engine.update seconds = .ok (after, events)) :
    after.scene.frame = engine.scene.frame + 1 := by
  obtain ⟨_, _, _, _, _, _, _, _, _, rfl⟩ := of_update run
  rfl

end Ambience.Engine
