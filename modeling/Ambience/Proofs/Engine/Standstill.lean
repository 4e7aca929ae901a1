import Mathlib.Algebra.Order.Floor.Ring
import Ambience.Proofs.Body.Standstill
import Ambience.Proofs.Engine.Emission
import Ambience.Proofs.Engine.Newcomers

/-!
# A stalled clock freezes the picture

Over the life of an engine the bodies of its scene stay inside the margins of their kinds and in
order, and its emitters owe less than a whole body. So an update in which no time passes, for the
elapsed seconds are zero, negative or not finite, is carried out to the end and changes nothing that
is seen: every body stays where it is, none is gone, none is born and none is dropped.
-/

namespace Ambience

variable {α σ : Type} [ExactScalar α]

/-! ## Emitters -/

/-- Less than a whole body is owed. -/
structure Emitter.Settled (emitter : Emitter α) : Prop where
  nonneg : 0 ≤ emitter.carry
  lt_one : emitter.carry < 1

namespace Emitter

theorem settled_idle : (idle : Emitter α).Settled := by
  constructor
  · exact ExactScalar.zero_literal.ge
  · exact ExactScalar.zero_literal.trans_lt zero_lt_one

variable [FloorRing α] [ExactRounding α] {emitter : Emitter α}

/-- Whole bodies are emitted, and the rest is carried over. -/
theorem carry_of_due (emitter : Emitter α) (rate step : α) :
    (emitter.due rate step).2.carry = Int.fract (emitter.carry + max (rate * step) 0) := by
  rw [due, ExactScalar.greatest_eq, ExactScalar.zero_literal, ExactRounding.floor_exact]
  rfl

/-- Whatever was carried, a call leaves an emitter `Settled`. -/
theorem settled_of_due (rate step : α) : (emitter.due rate step).2.Settled := by
  constructor
  · exact carry_of_due emitter rate step ▸ Int.fract_nonneg _
  · exact carry_of_due emitter rate step ▸ Int.fract_lt_one _

/-- When no time passes nothing falls due. -/
theorem Settled.due_still (settled : emitter.Settled) (rate : α) : emitter.due rate 0 = (0, emitter) := by
  have owed : emitter.carry + Scalar.greatest (rate * 0) 0.0 = emitter.carry := by
    rw [ExactScalar.greatest_eq, ExactScalar.zero_literal, mul_zero, max_self, add_zero]
  have none : ⌊emitter.carry⌋ = 0 := Int.floor_eq_zero_iff.2 ⟨settled.nonneg, settled.lt_one⟩
  rw [due, owed]
  refine Prod.ext ?_ ?_
  · show Scalar.count (Scalar.floor emitter.carry) = 0
    rw [ExactRounding.count_floor, none]
    rfl
  · show (⟨emitter.carry - Scalar.floor emitter.carry⟩ : Emitter α) = emitter
    rw [ExactRounding.floor_exact, none, Int.cast_zero, sub_zero]

end Emitter

/-! ## Layers -/

/-- A body that keeps its identity and is at rest. -/
structure Entity.Rests (entity entity' : Entity α) : Prop where
  id_eq : entity'.id = entity.id
  body : entity.body.Rests entity'.body

/-- A body that is where it was, with the life and the size that it had. -/
structure Entity.Unmoved (entity entity' : Entity α) : Prop where
  id_eq : entity'.id = entity.id
  kind_eq : entity'.body.kind = entity.body.kind
  position_eq : entity'.body.position? = entity.body.position?
  life_eq : entity'.body.life? = entity.body.life?
  radius_eq : entity'.body.radius? = entity.body.radius?

omit [ExactScalar α] in
theorem Entity.Rests.unmoved {entity entity' : Entity α} (rests : entity.Rests entity') :
    entity.Unmoved entity' :=
  ⟨rests.id_eq, rests.body.kind_eq, rests.body.position_eq, rests.body.life_eq,
    rests.body.radius_eq⟩

/-- A layer that keeps all its bodies, each at rest in its place. -/
structure Layer.Rests (layer layer' : Layer α) : Prop where
  spec_eq : layer'.spec = layer.spec
  emitter_eq : layer'.emitter = layer.emitter
  entities : List.Forall₂ Entity.Rests layer.entities layer'.entities

/-- A layer of bodies in order none of which is gone, and which is not above its cap. -/
structure Layer.Steady (bounds : Bounds α) (layer : Layer α) : Prop where
  alive : ∀ entity ∈ layer.entities, entity.body.isGone bounds = false
  orderly : ∀ entity ∈ layer.entities, entity.body.Orderly bounds
  emitter : layer.emitter.Settled
  length_le :
    ∀ (rate : α) (cap : Nat), layer.spec.density = .spawned rate cap → layer.entities.length ≤ cap

namespace Layer

variable [Units σ α] {tick : Tick α}

omit [Units σ α] in
/-- A new layer owes nothing. -/
theorem idle_of_buildAll [Words σ] [Units σ α] {nursery after : Nursery α σ} {bounds : Bounds α}
    {wind scale : α} {specs : List (LayerSpec α)} {built : List (Layer α × List Nat)}
    (run : Runs (buildAll bounds wind scale specs) nursery built after) :
    ∀ layer ∈ built.map Prod.fst, layer.emitter = .idle := by
  intro layer member
  obtain ⟨result, resultAt, rfl⟩ := List.mem_map.1 member
  obtain ⟨spec, -, before, next, buildRun⟩ := build_of_buildAll run result resultAt
  obtain ⟨filled, _, fillRun, buildRun⟩ := Runs.of_bind buildRun
  obtain ⟨rfl, -⟩ := Runs.of_pure buildRun
  rfl

/-- When no time passes all bodies of a layer can step, and all are alive and at rest after it. -/
theorem runs_stepAll_still (still : tick.step = 0) {entities : List (Entity α)}
    (alive : ∀ entity ∈ entities, entity.body.isGone tick.bounds = false)
    (orderly : ∀ entity ∈ entities, entity.body.Orderly tick.bounds) (source : σ) :
    ∃ stepped source', Runs (stepAll tick entities) source stepped source' ∧
      (∀ outcome ∈ stepped, outcome.2 = .alive) ∧
      List.Forall₂ Entity.Rests entities (stepped.map Prod.fst) := by
  induction entities generalizing source with
  | nil => exact ⟨[], source, rfl, by rintro _ ⟨⟩, .nil⟩
  | cons entity later ih =>
    obtain ⟨body, fate, middle, stepRun, rests⟩ :=
      Body.runs_still still (orderly entity List.mem_cons_self) source
    obtain ⟨stepped, source', restRun, restAlive, restRests⟩ :=
      ih (fun other member => alive other (List.mem_cons_of_mem _ member))
        (fun other member => orderly other (List.mem_cons_of_mem _ member)) middle
    have fate_alive : fate = .alive := by
      rw [Body.fate_of_step stepRun, Fate.expiredIf_eq_alive_iff, rests.isGone_eq]
      exact alive entity List.mem_cons_self
    refine ⟨(⟨entity.id, body⟩, fate) :: stepped, source', .bind stepRun (.bind restRun rfl), ?_,
      .cons ⟨rfl, rests⟩ restRests⟩
    intro outcome member
    rcases List.mem_cons.1 member with rfl | member
    · exact fate_alive
    · exact restAlive outcome member

variable [Words σ]

/-- A layer in which nothing is gone can be renewed, and is left as it is. -/
theorem runs_renew_alive {kind : Kind} {site : Nat → Site α} {i : Nat}
    {stepped : List (Entity α × Fate)} (alive : ∀ outcome ∈ stepped, outcome.2 = .alive)
    (nursery : Nursery α σ) :
    Runs (renew kind site i stepped) nursery (stepped.map Prod.fst) nursery := by
  induction stepped generalizing i with
  | nil => rfl
  | cons outcome later ih =>
    obtain ⟨entity, fate⟩ := outcome
    obtain rfl : fate = .alive := alive _ List.mem_cons_self
    exact .bind rfl (.bind (ih fun outcome member => alive outcome (List.mem_cons_of_mem _ member))
      rfl)

omit [ExactScalar α] [Units σ α] [Words σ] in
theorem alive_eq_map {stepped : List (Entity α × Fate)}
    (allAlive : ∀ outcome ∈ stepped, outcome.2 = .alive) : alive stepped = stepped.map Prod.fst := by
  induction stepped with
  | nil => rfl
  | cons outcome later ih =>
    obtain ⟨entity, fate⟩ := outcome
    obtain rfl : fate = .alive := allAlive _ List.mem_cons_self
    exact congrArg (entity :: ·)
      (ih fun outcome member => allAlive outcome (List.mem_cons_of_mem _ member))

variable [FloorRing α] [ExactRounding α]

/-- When no time passes a `Steady` layer advances to itself, with the body of each place at rest. -/
theorem runs_advance_still (still : tick.step = 0) {layer : Layer α}
    (steady : layer.Steady tick.bounds) (nursery : Nursery α σ) :
    ∃ result source, Runs (layer.advance tick) nursery (result, 0) { nursery with source } ∧
      layer.Rests result := by
  obtain ⟨stepped, source, stepRun, allAlive, rests⟩ :=
    runs_stepAll_still still steady.alive steady.orderly nursery.source
  have renewRun : ∀ site, Runs (renew layer.spec.kind site 0 stepped) { nursery with source }
      (stepped.map Prod.fst) { nursery with source } :=
    fun site => runs_renew_alive allAlive { nursery with source }
  cases density : layer.spec.density with
  | spawned rate cap =>
    have few : excess (stepped.map Prod.fst) cap = 0 :=
      Nat.sub_eq_zero_of_le (rests.length_eq ▸ steady.length_le rate cap density)
    have due := steady.emitter.due_still rate
    refine ⟨{ layer with entities := stepped.map Prod.fst }, source,
      .bind (Nursery.draw_runs stepRun) ?_, rfl, rfl, rests⟩
    dsimp only
    rw [density, still]
    dsimp only
    rw [due]
    refine .bind rfl ?_
    dsimp only
    rw [alive_eq_map allAlive, List.append_nil, newest, few, List.drop_zero]
    rfl
  | area | width | height | fixed =>
    refine ⟨{ layer with entities := stepped.map Prod.fst }, source,
      .bind (Nursery.draw_runs stepRun) ?_, rfl, rfl, rests⟩
    dsimp only
    rw [density]
    exact .bind (renewRun _) rfl

theorem runs_advanceAll_still (still : tick.step = 0) {layers : List (Layer α)}
    (steady : ∀ layer ∈ layers, layer.Steady tick.bounds) (nursery : Nursery α σ) :
    ∃ advanced source, Runs (advanceAll tick layers) nursery advanced { nursery with source } ∧
      (∀ result ∈ advanced, result.2 = 0) ∧
      List.Forall₂ Layer.Rests layers (advanced.map Prod.fst) := by
  induction layers generalizing nursery with
  | nil => exact ⟨[], nursery.source, rfl, by rintro _ ⟨⟩, .nil⟩
  | cons layer later ih =>
    obtain ⟨result, middle, firstRun, first⟩ :=
      runs_advance_still still (steady layer List.mem_cons_self) nursery
    obtain ⟨advanced, source, restRun, dropped, rest⟩ :=
      ih (fun other member => steady other (List.mem_cons_of_mem _ member))
        { nursery with source := middle }
    refine ⟨(result, 0) :: advanced, source, .bind firstRun (.bind restRun rfl), ?_,
      .cons first rest⟩
    intro outcome member
    rcases List.mem_cons.1 member with rfl | member
    · rfl
    · exact dropped outcome member

end Layer

/-! ## Lives -/

namespace Engine

variable [Words σ] [Units σ α] {theme : Theme α} {scale width height : α} {seed : UInt64}
  {engine after : Engine α σ} {past : List (Engine α σ)} {events : List (Event α)}

/-- The bodies of a scene are in order, and none is gone. -/
structure Whole (scene : Scene α) : Prop where
  alive : ∀ entity ∈ scene.entities, entity.body.isGone scene.bounds = false
  orderly : ∀ entity ∈ scene.entities, entity.body.Orderly scene.bounds

section Bodies

variable [UnitRange σ α]

/-- A new scene of a `Gentle` theme is `Whole`: its bodies are alive and in order. -/
theorem whole_of_rebuild (gentle : engine.theme.Gentle)
    (run : engine.rebuild width height = .ok (after, events)) : Whole after.scene := by
  have newborn := newborn_of_rebuild gentle run
  have wide : 0 ≤ after.scene.bounds.width := by
    rw [bounds_of_rebuild run]
    exact Bounds.width_nonneg width height
  exact ⟨fun entity member => Body.isGone_of_newborn wide (newborn entity member),
    fun entity member => Body.orderly_of_newborn (newborn entity member)⟩

/-- An update leaves a scene `Whole`. -/
theorem whole_of_update [ExactWaves α] {seconds : α}
    (lived : Lived theme scale seed width height past engine) (gentle : theme.Gentle)
    (whole : Whole engine.scene) (run : engine.update seconds = .ok (after, events)) :
    Whole after.scene := by
  have wide : 0 ≤ engine.scene.bounds.width := by
    rw [lived.sound.populated.bounds_eq]
    exact Bounds.width_nonneg width height
  have each : ∀ entity ∈ after.scene.entities, entity.body.isGone engine.scene.bounds = false ∧
      entity.body.Orderly engine.scene.bounds := by
    intro entity member
    obtain ⟨tick, mild, bounds, descends⟩ := descends_of_update lived gentle run member
    cases descends with
    | survivor formerAt _ stepRun =>
      have alive := Fate.expiredIf_eq_alive_iff.1 (Body.fate_of_step stepRun).symm
      have orderly := Body.orderly_of_step mild (bounds ▸ whole.orderly _ formerAt) stepRun
      rw [← bounds]
      exact ⟨alive, orderly⟩
    | newcomer newborn =>
      exact ⟨Body.isGone_of_newborn wide newborn, Body.orderly_of_newborn newborn⟩
  have bounds := bounds_of_update run
  exact ⟨fun entity member => bounds ▸ (each entity member).1,
    fun entity member => bounds ▸ (each entity member).2⟩

/-- The scene of an engine is `Whole` at any time of its life. -/
theorem Lived.whole [ExactWaves α] (lived : Lived theme scale seed width height past engine)
    (gentle : theme.Gentle) : Whole engine.scene := by
  induction lived with
  | started run => exact whole_of_rebuild gentle run
  | rebuilt lived run => exact whole_of_rebuild (lived.sound.theme_eq ▸ gentle) run
  | updated lived run ih => exact whole_of_update lived gentle ih run

end Bodies

variable [FloorRing α] [ExactRounding α]

omit [FloorRing α] [ExactRounding α] in
theorem settled_of_rebuild (run : engine.rebuild width height = .ok (after, events)) :
    ∀ layer ∈ after.scene.layers, layer.emitter.Settled := by
  obtain ⟨nursery, ended, built, -, buildRun, rfl⟩ := of_rebuild run
  intro layer member
  rw [Layer.idle_of_buildAll buildRun layer member]
  exact Emitter.settled_idle

/-- An update leaves every emitter `Settled`. -/
theorem settled_of_update {seconds : α} (lived : Lived theme scale seed width height past engine)
    (settled : ∀ layer ∈ engine.scene.layers, layer.emitter.Settled)
    (run : engine.update seconds = .ok (after, events)) :
    ∀ layer ∈ after.scene.layers, layer.emitter.Settled := by
  intro result member
  obtain ⟨layer, layerAt, _, _, _, _, _, _, advances⟩ := advances_to_of_update lived run member
  cases advances with
  | transient => exact Emitter.settled_of_due _ _
  | lasting => exact settled layer layerAt

theorem Lived.settled (lived : Lived theme scale seed width height past engine) :
    ∀ layer ∈ engine.scene.layers, layer.emitter.Settled := by
  induction lived with
  | started run => exact settled_of_rebuild run
  | rebuilt _ run => exact settled_of_rebuild run
  | updated lived run ih => exact settled_of_update lived ih run

/-- Every layer of an engine is `Steady`, so that it may be stopped at any time. -/
theorem Lived.steady [UnitRange σ α] [ExactWaves α]
    (lived : Lived theme scale seed width height past engine) (gentle : theme.Gentle) :
    ∀ layer ∈ engine.scene.layers, layer.Steady engine.scene.bounds := by
  have whole := lived.whole gentle
  intro layer layerAt
  have inScene : ∀ entity ∈ layer.entities, entity ∈ engine.scene.entities :=
    fun entity member => List.mem_flatMap.2 ⟨layer, layerAt, member⟩
  exact {
    alive := fun entity member => whole.alive entity (inScene entity member)
    orderly := fun entity member => whole.orderly entity (inScene entity member)
    emitter := lived.settled layer layerAt
    length_le := fun rate cap spawned => (lived.bounded layer layerAt rate cap spawned).1 }

/-! ## Stalled updates -/

omit [Words σ] [FloorRing α] [ExactRounding α] in
/-- There is always a wind to choose. -/
theorem runs_nextWindTarget (theme : Theme α) (scene : Scene α) (frame : Nat) (source : σ) :
    ∃ target source', Runs (nextWindTarget theme scene frame) source target source' := by
  unfold nextWindTarget
  split
  · exact Draw.runs_span theme.windLow theme.windHigh source
  · exact ⟨_, _, rfl⟩

omit [Words σ] [FloorRing α] [ExactRounding α] in
/-- There is always something for the layers to meet: `outset` never fails. -/
theorem exists_outset (engine : Engine α σ) (seconds : α) :
    ∃ tick nursery, engine.outset seconds = .ok (tick, nursery) := by
  obtain ⟨target, source, targetRun⟩ :=
    runs_nextWindTarget engine.theme engine.scene (engine.scene.frame + 1) engine.source
  unfold Runs at targetRun
  unfold outset
  dsimp only
  rw [targetRun]
  exact ⟨_, _, rfl⟩

/-- An update in which no time passes ends, and leaves a `Steady` scene at rest. -/
theorem update_still {seconds : α} (still : Motion.stepOf seconds = 0)
    (steady : ∀ layer ∈ engine.scene.layers, layer.Steady engine.scene.bounds) :
    ∃ after, engine.update seconds = .ok (after, []) ∧
      after.scene.time = engine.scene.time ∧ after.scene.nextId = engine.scene.nextId ∧
      List.Forall₂ Layer.Rests engine.scene.layers after.scene.layers := by
  obtain ⟨target, source, targetRun⟩ :=
    runs_nextWindTarget engine.theme engine.scene (engine.scene.frame + 1) engine.source
  generalize tickEq : (⟨Motion.stepOf seconds, engine.scene.bounds,
    Motion.ease engine.scene.wind target (Scalar.least (0.01 * Motion.stepOf seconds) 1.0)⟩ :
    Tick α) = tick
  have noTime : tick.step = 0 := tickEq ▸ still
  have sameBounds : tick.bounds = engine.scene.bounds := tickEq ▸ rfl
  obtain ⟨advanced, ended, advanceRun, dropped, rests⟩ :=
    Layer.runs_advanceAll_still noTime (sameBounds ▸ steady)
      { source, geometry := engine.scene.geometry, nextId := engine.scene.nextId }
  have quiet : (advanced.filterMap fun result =>
      if 0 < result.2 then some (Event.overCap (α := α) result.1.spec.kind result.2) else none) =
      [] := by
    refine List.filterMap_eq_nil_iff.2 fun result member => ?_
    rw [dropped result member]
    rfl
  have run : engine.update seconds = .ok
      ({ engine with
          source := ended
          scene :=
            { engine.scene with
              time := engine.scene.time + Motion.stepOf seconds * Motion.nominalFrame
              frame := engine.scene.frame + 1
              wind := tick.wind
              windTarget := target
              layers := advanced.map Prod.fst } }, []) := by
    subst tickEq
    unfold Runs at targetRun advanceRun
    unfold update
    dsimp only
    rw [targetRun]
    show (Layer.advanceAll _ engine.scene.layers).run _ >>= _ = _
    rw [advanceRun, ← quiet]
    rfl
  refine ⟨_, run, ?_, rfl, rests⟩
  show engine.scene.time + Motion.stepOf seconds * Motion.nominalFrame = engine.scene.time
  rw [still, zero_mul, add_zero]

/-- An update that changes nothing that is seen: no body is gone, born or dropped, and no body has
moved, aged or grown. -/
structure Freezes (engine : Engine α σ) (seconds : α) (after : Engine α σ) : Prop where
  /-- No layer reports bodies over its cap. -/
  update_eq : engine.update seconds = .ok (after, [])
  births_eq : engine.births seconds = .ok []
  alive :
    ∀ (k : Nat) (layer : Layer α), engine.scene.layers[k]? = some layer →
      ∃ stepped, engine.outcomes seconds k = .ok stepped ∧ ∀ outcome ∈ stepped, outcome.2 = .alive
  time_eq : after.scene.time = engine.scene.time
  layers :
    List.Forall₂ (fun layer layer' => layer'.spec = layer.spec ∧
        List.Forall₂ Entity.Unmoved layer.entities layer'.entities)
      engine.scene.layers after.scene.layers

omit [FloorRing α] [ExactRounding α] in
/-- No body of a `Steady` scene is gone after a step that takes no time. -/
theorem alive_of_outcomes {seconds : α} {k : Nat} {layer : Layer α}
    {stepped : List (Entity α × Fate)} (still : Motion.stepOf seconds = 0)
    (steady : layer.Steady engine.scene.bounds) (found : engine.scene.layers[k]? = some layer)
    (run : engine.outcomes seconds k = .ok stepped) : ∀ outcome ∈ stepped, outcome.2 = .alive := by
  obtain ⟨tick, nursery, begins, steps⟩ := of_outcomes found run
  obtain ⟨_, _, begins⟩ := of_bind_eq_ok begins
  cases of_pure_eq_ok begins
  intro outcome member
  obtain ⟨entity, entityAt, -, source, source', stepRun⟩ :=
    exists_mem_of_forall₂ steps outcome member
  have rests := Body.rests_of_step still (steady.orderly entity entityAt) stepRun
  rw [Body.fate_of_step stepRun, Fate.expiredIf_eq_alive_iff, rests.isGone_eq]
  exact steady.alive entity entityAt

/-- An update in which no time passes `Freezes` an engine whose layers are all `Steady`. -/
theorem freezes_of_steady {seconds : α} (still : Motion.stepOf seconds = 0)
    (steady : ∀ layer ∈ engine.scene.layers, layer.Steady engine.scene.bounds) :
    ∃ after, Freezes engine seconds after := by
  obtain ⟨after, run, time, nextId, rests⟩ := update_still still steady
  obtain ⟨_, born, turned⟩ := turnover_of_update run
  have none : born = [] := by
    have count := turned.nextId
    rw [nextId] at count
    exact List.length_eq_zero_iff.1 (by omega)
  refine ⟨after, run, none ▸ turned.births, ?_, time, ?_⟩
  · intro k layer found
    obtain ⟨outcomes, -, outcomesRun⟩ := turned.outcomes k layer found
    exact ⟨outcomes, outcomesRun,
      alive_of_outcomes still (steady layer (List.mem_of_getElem? found)) found outcomesRun⟩
  · exact rests.imp fun _ _ layer => ⟨layer.spec_eq, layer.entities.imp fun _ _ rests => rests.unmoved⟩

/-- A stalled clock freezes the picture. A step reports a body as gone exactly if the body that it
leaves is past the margin of its kind, has no life left or has grown to its full size
(`Body.isGone`), and of no body of a scene this is true. No time passes in seconds that are zero,
negative or not finite (`Motion.stepOf`), whatever the numbers are computed with, and an update in
which no time passes leaves all bodies as they are (`Freezes`). -/
theorem freezes_of_lived [UnitRange σ α] [ExactWaves α] (listed : theme ∈ Theme.all)
    (lived : Lived theme scale seed width height past engine) :
    (∀ (body after : Body α) (tick : Tick α) (source source' : σ) (fate : Fate),
      Runs (body.step tick) source (after, fate) source' →
      (fate = .expired ↔ after.isGone tick.bounds = true)) ∧
    (∀ entity ∈ engine.scene.entities, entity.body.isGone engine.scene.bounds = false) ∧
    (∀ (β : Type) [Scalar β] (seconds : β),
      Scalar.isFinite seconds = false ∨ seconds ≤ 0.0 → Motion.stepOf seconds = 0.0) ∧
    ∀ seconds : α, Motion.stepOf seconds = 0.0 → ∃ after, Freezes engine seconds after := by
  have gentle := Theme.gentle_of_mem_all listed
  refine ⟨?_, (lived.whole gentle).alive, fun _ _ _ => Motion.stepOf_of_still, ?_⟩
  · intro body after tick source source' fate run
    rw [Body.fate_of_step run]
    exact Fate.expiredIf_eq_expired_iff
  · intro seconds still
    rw [ExactScalar.zero_literal] at still
    exact freezes_of_steady still (lived.steady gentle)

/-- A small fire at its start, a tenth of a second later, and after a second that ran backward. -/
def smallFire :
    Except Fault (Engine Clipped Random.Stream × Engine Clipped Random.Stream ×
      Engine Clipped Random.Stream) := do
  let (lit, _) ← start Theme.embers 1 9 8 8
  let (burning, _) ← lit.update 0.1
  let (later, _) ← burning.update (-1)
  return (lit, burning, later)

/-- The four embers of a small fire stay as they are while a second runs backward. -/
theorem freezes_of_smallFire :
    ∃ lit burning later : Engine Clipped Random.Stream,
      Lived Theme.embers 1 9 8 8 [lit] burning ∧ Freezes burning (-1) later ∧
      burning.scene.layers.map (fun layer => layer.entities.map Entity.id) = [[1], [2, 3, 4, 5]] ∧
      later.scene.layers.map (fun layer => layer.entities.map Entity.id) = [[1], [2, 3, 4, 5]] := by
  have ends : smallFire.toOption.any (fun ⟨_, burning, later⟩ =>
      burning.scene.layers.map (fun layer => layer.entities.map Entity.id) == [[1], [2, 3, 4, 5]] &&
      later.scene.layers.map (fun layer => layer.entities.map Entity.id) == [[1], [2, 3, 4, 5]]) =
      true := by
    decide +kernel
  obtain ⟨⟨lit, burning, later⟩, run, checked⟩ := of_any_toOption ends
  obtain ⟨⟨_, _⟩, litRun, run⟩ := of_bind_eq_ok run
  obtain ⟨⟨_, _⟩, burningRun, run⟩ := of_bind_eq_ok run
  obtain ⟨⟨_, _⟩, laterRun, run⟩ := of_bind_eq_ok run
  cases of_pure_eq_ok run
  rw [Bool.and_eq_true, beq_iff_eq, beq_iff_eq] at checked
  have lived : Lived Theme.embers 1 9 8 8 [lit] burning := (Lived.started litRun).updated burningRun
  have listed : (Theme.embers : Theme Clipped) ∈ Theme.all := by
    simp only [Theme.all, List.mem_cons, true_or, or_true]
  obtain ⟨-, -, stalls, freezes⟩ := freezes_of_lived listed lived
  have still : Motion.stepOf (-1 : Clipped) = 0.0 := by
    refine stalls Clipped (-1) (.inr ?_)
    rw [ExactScalar.zero_literal]
    norm_num
  obtain ⟨after, frozen⟩ := freezes (-1) still
  cases Except.ok.inj (frozen.update_eq.symm.trans laterRun)
  exact ⟨lit, burning, later, lived, frozen, checked.1, checked.2⟩

end Engine

end Ambience
