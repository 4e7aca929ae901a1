import Mathlib.Tactic.Linarith
import Ambience.Proofs.Engine.Descent
import Ambience.Proofs.Engine.Winds

/-!
# Newcomers survive

A body of a scene is either what a step left of one that was there before, or it was born: for a new
scene, in the place of one that was gone, or by an emitter. In exact arithmetic no body is gone after
the first step that it takes, whatever its theme, its view and its wind are and however long the step
is. So no layer replaces its bodies over and over.
-/

namespace Ambience

variable {α σ : Type} [ExactScalar α] [Words σ] [Units σ α] [UnitRange σ α]

/-! ## Newcomers -/

/-- A body that is born in a nursery is `Body.Newborn` in the view. -/
theorem Nursery.newborn_of_bear {kind : Kind} {site : Site α} {nursery after : Nursery α σ}
    {entity : Entity α} (wide : 0 ≤ site.bounds.width) (high : 0 ≤ site.bounds.height)
    (enters : kind.isMortal = true → site.origin = .enter)
    (run : Runs (bear kind site) nursery (some entity) after) :
    entity.body.Newborn site.bounds := by
  obtain ⟨_, _, spawnRun, -, -⟩ := spawn_of_bear run
  exact Kind.newborn_of_spawn wide high enters spawnRun

omit [Words σ] [Units σ α] [UnitRange σ α] in
/-- What runs out of life is never strewn over a new scene of a `Gentle` theme. -/
theorem Theme.Gentle.population_eq_zero {theme : Theme α} (gentle : theme.Gentle) {spec : LayerSpec α}
    (specAt : spec ∈ theme.layers) (mortal : spec.kind.isMortal = true) (bounds : Bounds α)
    (scale : α) : spec.density.population bounds scale = 0 := by
  have transient := gentle.transient spec specAt mortal
  cases density : spec.density with
  | spawned rate cap => rfl
  | _ =>
    rw [density] at transient
    cases transient

namespace Engine

variable {theme : Theme α} {scale width height : α} {seed : UInt64} {engine after : Engine α σ}
  {past : List (Engine α σ)} {events : List (Event α)}

/-- All bodies of a new scene are `Body.Newborn`. -/
theorem newborn_of_rebuild (gentle : engine.theme.Gentle)
    (run : engine.rebuild width height = .ok (after, events)) :
    ∀ entity ∈ after.scene.entities, entity.body.Newborn after.scene.bounds := by
  intro entity member
  obtain ⟨spec, specAt, slot, before, next, places, bearRun⟩ := scatters_of_rebuild run entity member
  rw [bounds_of_rebuild run]
  refine Nursery.newborn_of_bear (Bounds.width_nonneg _ _) (Bounds.height_nonneg _ _) ?_ bearRun
  intro mortal
  rw [gentle.population_eq_zero specAt mortal] at places
  cases places

/-- What a body of a scene is after an update. -/
inductive Descends (engine : Engine α σ) (tick : Tick α) : Entity α → Prop
  /-- A body that was in the scene before, and that is alive after its step. -/
  | survivor {former entity : Entity α} {source source' : σ} :
    former ∈ engine.scene.entities → former.id = entity.id →
    Runs (former.body.step tick) source (entity.body, .alive) source' →
    Descends engine tick entity
  | newcomer {entity : Entity α} :
    entity.body.Newborn engine.scene.bounds → Descends engine tick entity

omit [UnitRange σ α] in
/-- Every layer after an update is what one of the layers before it became (`Layer.Advances`). -/
theorem advances_to_of_update {seconds : α}
    (lived : Lived theme scale seed width height past engine)
    (run : engine.update seconds = .ok (after, events)) {result : Layer α}
    (member : result ∈ after.scene.layers) :
    ∃ layer ∈ engine.scene.layers, ∃ (tick : Tick α) (nursery middle next : Nursery α σ)
      (dropped : Nat),
      engine.outset seconds = .ok (tick, nursery) ∧
      Layer.Advances layer tick middle next result dropped := by
  have sound := lived.sound
  have homogeneous := sound.populated.homogeneous
  have issued := sound.issued engine List.mem_cons_self
  obtain ⟨k, found⟩ := List.getElem?_of_mem member
  obtain ⟨layer, layerFound, -⟩ :=
    getElem?_of_forall₂ (advanced_of_update homogeneous issued run).2.flip found
  obtain ⟨tick, nursery, _, middle, next, other, dropped, begins, -, -, -, advances, otherAt⟩ :=
    advances_of_update homogeneous issued run layerFound
  cases found.symm.trans otherAt
  exact ⟨layer, List.mem_of_getElem? layerFound, tick, nursery, middle, next, dropped, begins,
    advances⟩

/-- What is born in an update is newborn. -/
theorem Lived.newborn_of_enters (lived : Lived theme scale seed width height past engine)
    {tick : Tick α} (bounds : tick.bounds = engine.scene.bounds) {layer : Layer α}
    {entity : Entity α} (enters : layer.Enters σ tick entity) :
    entity.body.Newborn engine.scene.bounds := by
  obtain ⟨population, slot, before, next, bearRun⟩ := enters
  have wide : 0 ≤ tick.bounds.width := by
    rw [bounds, lived.sound.populated.bounds_eq]
    exact Bounds.width_nonneg width height
  have high : 0 ≤ tick.bounds.height := by
    rw [bounds, lived.sound.populated.bounds_eq]
    exact Bounds.height_nonneg width height
  rw [← bounds]
  exact Nursery.newborn_of_bear wide high (fun _ => rfl) bearRun

/-- Every body after an update `Descends` from one before it or from none, by a tick that is
`Mild`. -/
theorem descends_of_update {seconds : α} (lived : Lived theme scale seed width height past engine)
    (gentle : theme.Gentle) (run : engine.update seconds = .ok (after, events)) {entity : Entity α}
    (member : entity ∈ after.scene.entities) :
    ∃ tick : Tick α, tick.Mild ∧ tick.bounds = engine.scene.bounds ∧
      Descends engine tick entity := by
  have sound := lived.sound
  obtain ⟨tick, nursery, begins, leaves⟩ := leaves_of_update run
  obtain ⟨mild, sameBounds⟩ :=
    mild_of_outset (sound.theme_eq ▸ gentle) (lived.calm gentle) begins
  refine ⟨tick, mild, sameBounds, ?_⟩
  cases leaves entity member with
  | survivor formerAt sameId stepRun => exact .survivor formerAt sameId stepRun
  | newcomer _ _ _ enters => exact .newcomer (lived.newborn_of_enters sameBounds enters)

/-- No scene of the past had a body of an identity. -/
def Unseen (past : List (Engine α σ)) (id : Nat) : Prop :=
  ∀ earlier ∈ past, ∀ former ∈ earlier.scene.entities, former.id ≠ id

/-- A body that no scene of the past had (`Unseen`) is newborn. -/
theorem Lived.newborn (lived : Lived theme scale seed width height past engine)
    (gentle : theme.Gentle) :
    ∀ entity ∈ engine.scene.entities, Unseen past entity.id →
      entity.body.Newborn engine.scene.bounds := by
  cases lived with
  | started run => exact fun entity member _ => newborn_of_rebuild gentle run entity member
  | rebuilt lived run =>
    exact fun entity member _ =>
      newborn_of_rebuild (lived.sound.theme_eq ▸ gentle) run entity member
  | updated lived run =>
    intro entity member unseen
    obtain ⟨tick, -, -, descends⟩ := descends_of_update lived gentle run member
    cases descends with
    | survivor formerAt sameId => exact (unseen _ List.mem_cons_self _ formerAt sameId).elim
    | newcomer newborn =>
      rw [bounds_of_update run]
      exact newborn

/-- No body is gone after the first step that it takes. In an update each body of a layer takes a
step (`outcomes`), and those that no scene of the past had (`Unseen`) are alive after it: those of a
new scene, those that took the place of others and those that were emitted, however long the update
is. -/
theorem alive_of_firstStep [ExactWaves α] (listed : theme ∈ Theme.all)
    (lived : Lived theme scale seed width height past engine) (seconds : α) {k : Nat}
    {layer : Layer α} (found : engine.scene.layers[k]? = some layer) :
    (∀ stepped, engine.outcomes seconds k = .ok stepped →
      (stepped.map Prod.fst).map Entity.id = layer.entities.map Entity.id ∧
      ∀ outcome ∈ stepped, Unseen past outcome.1.id → outcome.2 = .alive) ∧
    ∀ after events, engine.update seconds = .ok (after, events) →
      ∃ stepped, engine.outcomes seconds k = .ok stepped := by
  have sound := lived.sound
  have gentle := Theme.gentle_of_mem_all listed
  constructor
  · intro stepped run
    obtain ⟨tick, nursery, begins, steps⟩ := of_outcomes found run
    obtain ⟨mild, bounds⟩ := mild_of_outset (sound.theme_eq ▸ gentle) (lived.calm gentle) begins
    refine ⟨Layer.ids_of_steps (steps.imp fun _ _ step => step.1), ?_⟩
    intro outcome outcomeAt unseen
    obtain ⟨entity, entityAt, sameId, source, source', stepRun⟩ :=
      exists_mem_of_forall₂ steps outcome outcomeAt
    have inScene : entity ∈ engine.scene.entities :=
      List.mem_flatMap.2 ⟨layer, List.mem_of_getElem? found, entityAt⟩
    have newborn := lived.newborn gentle entity inScene (sameId ▸ unseen)
    rw [← bounds] at newborn
    have wide : 0 ≤ tick.bounds.width := by
      rw [bounds, sound.populated.bounds_eq]
      exact Bounds.width_nonneg width height
    exact Body.survives wide newborn mild stepRun
  · intro after events run
    obtain ⟨_, _, turned⟩ := turnover_of_update run
    obtain ⟨outcomes, -, outcomesRun⟩ := turned.outcomes k layer found
    exact ⟨outcomes, outcomesRun⟩

/-- A pond without a size, at its start and after each of three tenths of a second. -/
def smallPond :
    Except Fault (Engine Clipped Random.Stream × Engine Clipped Random.Stream ×
      Engine Clipped Random.Stream × Engine Clipped Random.Stream) := do
  let (first, _) ← start Theme.koi 1 316 0 0
  let (second, _) ← first.update 0.1
  let (third, _) ← second.update 0.1
  let (fourth, _) ← third.update 0.1
  return (first, second, third, fourth)

/-- In a pond without a size a ripple has outgrown its size after three tenths of a second, and the
one in its place is alive a tenth of a second later. -/
theorem alive_of_smallPond :
    ∃ (first second third fourth : Engine Clipped Random.Stream)
      (stepped : List (Entity Clipped × Fate)) (outcome : Entity Clipped × Fate),
      Lived Theme.koi 1 316 0 0 [third, second, first] fourth ∧
      third.scene.entities.map Entity.id = [1, 2, 3, 4, 5, 6] ∧
      fourth.scene.entities.map Entity.id = [7, 2, 3, 4, 5, 6] ∧
      fourth.outcomes 0.1 0 = .ok stepped ∧ outcome ∈ stepped ∧ outcome.1.id = 7 ∧
      outcome.2 = .alive := by
  have ends : smallPond.toOption.any (fun ⟨first, second, third, fourth⟩ =>
      [third, second, first].all
        (fun earlier => earlier.scene.entities.map Entity.id == [1, 2, 3, 4, 5, 6]) &&
      fourth.scene.entities.map Entity.id == [7, 2, 3, 4, 5, 6] &&
      (fourth.outcomes 0.1 0).toOption.any (List.any · fun outcome => outcome.1.id == 7)) =
      true := by
    decide +kernel
  obtain ⟨⟨first, second, third, fourth⟩, run, checked⟩ := of_any_toOption ends
  obtain ⟨⟨_, _⟩, firstRun, run⟩ := of_bind_eq_ok run
  obtain ⟨⟨_, _⟩, secondRun, run⟩ := of_bind_eq_ok run
  obtain ⟨⟨_, _⟩, thirdRun, run⟩ := of_bind_eq_ok run
  obtain ⟨⟨_, _⟩, fourthRun, run⟩ := of_bind_eq_ok run
  cases of_pure_eq_ok run
  simp only [Bool.and_eq_true, beq_iff_eq, List.all_eq_true] at checked
  obtain ⟨⟨pastIds, ids⟩, fresh⟩ := checked
  obtain ⟨stepped, steppedRun, fresh⟩ := of_any_toOption fresh
  obtain ⟨outcome, outcomeAt, fresh⟩ := List.any_eq_true.1 fresh
  have id_eq : outcome.1.id = 7 := beq_iff_eq.1 fresh
  have lived : Lived Theme.koi 1 316 0 0 [third, second, first] fourth :=
    (((Lived.started firstRun).updated secondRun).updated thirdRun).updated fourthRun
  have unseen : Unseen [third, second, first] outcome.1.id := by
    intro earlier earlierAt former formerAt sameId
    have listed : former.id ∈ [1, 2, 3, 4, 5, 6] :=
      pastIds earlier earlierAt ▸ List.mem_map_of_mem formerAt
    rw [sameId, id_eq] at listed
    revert listed
    decide
  have listed : (Theme.koi : Theme Clipped) ∈ Theme.all := by
    simp only [Theme.all, List.mem_cons, true_or, or_true]
  have ripples : 0 < fourth.scene.layers.length := by
    have layers := congrArg List.length lived.sound.populated.specs
    rw [List.length_map] at layers
    rw [layers]
    exact Nat.zero_lt_two
  have found := List.getElem?_eq_getElem ripples
  have alive := ((alive_of_firstStep listed lived 0.1 found).1 stepped steppedRun).2 outcome
    outcomeAt unseen
  exact ⟨first, second, third, fourth, stepped, outcome, lived, pastIds third List.mem_cons_self,
    ids, steppedRun, outcomeAt, id_eq, alive⟩

end Engine

end Ambience
