import Ambience.Proofs.Engine.Identities
import Ambience.Proofs.Engine.Placement

/-!
# Where the bodies of a scene come from

A body that stands in a scene after an update was in the scene before and is alive after its step, or
it was born in the update, at the edge that its kind enters from (`Engine.Leaves`). What holds of all
bodies over the life of an engine is shown by these two cases, and by the births of new scenes.
-/

namespace Ambience

variable {α σ : Type} [Scalar α] [Words σ] [Units σ α]

/-! ## Births at an edge -/

section Entering

variable {nursery after : Nursery α σ} {tick : Tick α}

/-- A body that is born in a layer in an update. -/
def Layer.Enters (σ : Type) [Words σ] [Units σ α] (layer : Layer α) (tick : Tick α)
    (entity : Entity α) : Prop :=
  ∃ (population slot : Nat) (nursery after : Nursery α σ),
    Runs (Nursery.bear layer.spec.kind
      (site layer.spec tick.bounds tick.wind .enter population slot)) nursery (some entity) after

theorem Nursery.born_of_fill {kind : Kind} {site : Nat → Site α} {remaining slot : Nat}
    {filled : List (Entity α) × List Nat}
    (run : Runs (fill kind site remaining slot) nursery filled after) :
    ∀ entity ∈ filled.1, ∃ (slot : Nat) (before next : Nursery α σ),
      Runs (bear kind (site slot)) before (some entity) next := by
  refine (of_fill_each (fun _ => True) _ run trivial ?_).2
  rintro slot before next born - - - bearRun
  refine ⟨trivial, ?_⟩
  rintro entity rfl
  exact ⟨slot, before, next, bearRun⟩

namespace Layer

/-- What takes the place of bodies that are gone was born in one of their slots. -/
theorem born_of_replacements {kind : Kind} {site : Nat → Site α} {i : Nat}
    {stepped : List (Entity α × Fate)} {born : List (Entity α)}
    (run : Runs (replacements kind site i stepped) nursery born after) :
    ∀ entity ∈ born, ∃ (slot : Nat) (before next : Nursery α σ),
      Runs (Nursery.bear kind (site slot)) before (some entity) next := by
  induction stepped generalizing i nursery born with
  | nil =>
    obtain ⟨rfl, rfl⟩ := Runs.of_pure run
    rintro _ ⟨⟩
  | cons outcome later ih =>
    obtain ⟨former, fate⟩ := outcome
    cases fate with
    | alive =>
      obtain ⟨first, _, firstRun, run⟩ := Runs.of_bind run
      obtain ⟨rest, _, restRun, run⟩ := Runs.of_bind run
      obtain ⟨rfl, rfl⟩ := Runs.of_pure run
      obtain ⟨rfl, rfl⟩ := Runs.of_pure firstRun
      exact ih restRun
    | expired =>
      obtain ⟨newcomer, middle, bearRun, run⟩ := Runs.of_bind run
      obtain ⟨first, _, firstRun, run⟩ := Runs.of_bind run
      obtain ⟨rest, _, restRun, run⟩ := Runs.of_bind run
      obtain ⟨rfl, rfl⟩ := Runs.of_pure run
      obtain ⟨rfl, rfl⟩ := Runs.of_pure firstRun
      intro entity member
      rcases List.mem_append.1 member with isFirst | member
      · obtain rfl := Option.mem_toList.1 isFirst
        exact ⟨i, nursery, _, bearRun⟩
      · exact ih restRun entity member

/-- What is born in a layer during an update `Enters` it. -/
theorem enters_of_births {layer : Layer α} {born : List (Entity α)}
    (run : Runs (layer.births tick) nursery born after) :
    ∀ entity ∈ born, layer.Enters σ tick entity := by
  obtain ⟨stepped, middle, _, run⟩ := Runs.of_bind run
  dsimp only at run
  split at run
  · obtain ⟨filled, _, fillRun, run⟩ := Runs.of_bind run
    obtain ⟨rfl, rfl⟩ := Runs.of_pure run
    exact fun entity member => ⟨_, Nursery.born_of_fill fillRun entity member⟩
  · exact fun entity member => ⟨_, born_of_replacements run entity member⟩

theorem enters_of_birthsAll {layers : List (Layer α)} {born : List (Entity α)}
    (run : Runs (birthsAll tick layers) nursery born after) :
    ∀ entity ∈ born, ∃ layer ∈ layers, layer.Enters σ tick entity := by
  induction layers generalizing nursery born with
  | nil =>
    obtain ⟨rfl, rfl⟩ := Runs.of_pure run
    rintro _ ⟨⟩
  | cons layer later ih =>
    obtain ⟨first, middle, firstRun, run⟩ := Runs.of_bind run
    obtain ⟨rest, _, restRun, run⟩ := Runs.of_bind run
    obtain ⟨rfl, rfl⟩ := Runs.of_pure run
    intro entity member
    rcases List.mem_append.1 member with member | member
    · exact ⟨layer, List.mem_cons_self, enters_of_births firstRun entity member⟩
    · obtain ⟨other, otherAt, enters⟩ := ih restRun entity member
      exact ⟨other, List.mem_cons_of_mem _ otherAt, enters⟩

end Layer

end Entering

/-! ## Births for a new scene -/

/-- A body that is born for a layer of a new scene. -/
def LayerSpec.Scatters (σ : Type) [Words σ] [Units σ α] (spec : LayerSpec α) (bounds : Bounds α)
    (wind scale : α) (entity : Entity α) : Prop :=
  ∃ (slot : Nat) (nursery after : Nursery α σ), slot < spec.density.population bounds scale ∧
    Runs (Nursery.bear spec.kind
      (Layer.site spec bounds wind .scatter (spec.density.population bounds scale) slot))
      nursery (some entity) after

namespace Engine

variable {engine after : Engine α σ} {events : List (Event α)} {seconds : α}

/-- All bodies of a new scene are born for it (`LayerSpec.Scatters`). -/
theorem scatters_of_rebuild {width height : α}
    (run : engine.rebuild width height = .ok (after, events)) :
    ∀ entity ∈ after.scene.entities, ∃ spec ∈ engine.theme.layers,
      spec.Scatters σ (Bounds.of width height) (meanWind engine.theme) engine.scale entity := by
  obtain ⟨nursery, ended, built, -, buildRun, rfl⟩ := of_rebuild run
  obtain ⟨-, each⟩ := Layer.of_buildAll_each (fun _ => True)
    (fun entity => ∃ spec ∈ engine.theme.layers,
      spec.Scatters σ (Bounds.of width height) (meanWind engine.theme) engine.scale entity)
    buildRun trivial (by
      rintro spec specAt slot before next born places - bearRun
      refine ⟨trivial, ?_⟩
      rintro entity rfl
      exact ⟨spec, specAt, slot, before, next, places, bearRun⟩)
  intro entity member
  obtain ⟨layer, layerAt, member⟩ := List.mem_flatMap.1 member
  exact each layer layerAt entity member

/-! ## What an update leaves -/

/-- What becomes of the bodies of a layer is what their steps in the update make of them. -/
theorem of_outcomes {k : Nat} {layer : Layer α} {stepped : List (Entity α × Fate)}
    (found : engine.scene.layers[k]? = some layer)
    (run : engine.outcomes seconds k = .ok stepped) :
    ∃ (tick : Tick α) (nursery : Nursery α σ), engine.outset seconds = .ok (tick, nursery) ∧
      List.Forall₂ (Entity.StepsTo σ tick) layer.entities stepped := by
  obtain ⟨⟨tick, nursery⟩, begins, run⟩ := of_bind_eq_ok run
  obtain ⟨⟨_, middle⟩, _, run⟩ := of_bind_eq_ok run
  obtain ⟨⟨_, source⟩, stepRun, run⟩ := of_bind_eq_ok run
  cases of_pure_eq_ok run
  rw [found] at stepRun
  exact ⟨tick, nursery, begins, Layer.of_stepAll stepRun⟩

theorem enters_of_births {newborn : List (Entity α)} (run : engine.births seconds = .ok newborn) :
    ∃ (tick : Tick α) (nursery : Nursery α σ), engine.outset seconds = .ok (tick, nursery) ∧
      ∀ entity ∈ newborn, ∃ layer ∈ engine.scene.layers, layer.Enters σ tick entity := by
  obtain ⟨⟨tick, nursery⟩, begins, run⟩ := of_bind_eq_ok run
  obtain ⟨⟨born, ended⟩, bornRun, run⟩ := of_bind_eq_ok run
  cases of_pure_eq_ok run
  exact ⟨tick, nursery, begins, Layer.enters_of_birthsAll bornRun⟩

/-- What a body of a scene is after an update in which all bodies meet a tick. -/
inductive Leaves (engine : Engine α σ) (seconds : α) (tick : Tick α) : Entity α → Prop
  /-- A body that was in the scene before, and that is alive after its step. -/
  | survivor {former entity : Entity α} {source source' : σ} :
    former ∈ engine.scene.entities → former.id = entity.id →
    Runs (former.body.step tick) source (entity.body, .alive) source' →
    Leaves engine seconds tick entity
  /-- A body that was born in the update. -/
  | newcomer {newborn : List (Entity α)} {layer : Layer α} {entity : Entity α} :
    engine.births seconds = .ok newborn → entity ∈ newborn → layer ∈ engine.scene.layers →
    layer.Enters σ tick entity → Leaves engine seconds tick entity

/-- Every body of a scene after an update is a survivor or a newcomer (`Leaves`), and all met the
same tick. -/
theorem leaves_of_update (run : engine.update seconds = .ok (after, events)) :
    ∃ (tick : Tick α) (nursery : Nursery α σ), engine.outset seconds = .ok (tick, nursery) ∧
      ∀ entity ∈ after.scene.entities, Leaves engine seconds tick entity := by
  obtain ⟨stepped, newborn, turned⟩ := turnover_of_update run
  obtain ⟨tick, nursery, begins, enters⟩ := enters_of_births turned.births
  refine ⟨tick, nursery, begins, fun entity member => ?_⟩
  rcases turned.stepped_or_newborn member with ⟨k, outcomes, outcomesRun, survives⟩ | isNew
  · cases layerAt : engine.scene.layers[k]? with
    | none =>
      rw [outcomes_eq_nil layerAt outcomesRun] at survives
      cases survives
    | some layer =>
      obtain ⟨tick', nursery', begins', steps⟩ := of_outcomes layerAt outcomesRun
      cases begins.symm.trans begins'
      obtain ⟨former, formerAt, sameId, source, source', stepRun⟩ :=
        exists_mem_of_forall₂ steps _ survives
      exact .survivor (List.mem_flatMap.2 ⟨layer, List.mem_of_getElem? layerAt, formerAt⟩)
        sameId.symm stepRun
  · obtain ⟨layer, layerAt, entered⟩ := enters entity isNew
    exact .newcomer turned.births isNew layerAt entered

/-! ## What holds of all bodies -/

/-- What every birth in a view gives a body, and what no step of an update takes from it, holds of
all bodies of a scene. -/
theorem Lived.each {theme : Theme α} {scale width height : α} {seed : UInt64}
    {past : List (Engine α σ)} (holds : Body α → Prop)
    (born : ∀ {kind : Kind} {site : Site α} {geometry geometry' : Geometry α} {source source' : σ}
      {body : Body α}, (∃ width height, site.bounds = Bounds.of width height) →
      Runs (kind.spawn site geometry) source (some body, geometry') source' → holds body)
    (stepped : ∀ {body body' : Body α} {tick : Tick α} {fate : Fate} {source source' : σ},
      (∃ seconds, tick.step = Motion.stepOf seconds) → holds body →
      Runs (body.step tick) source (body', fate) source' → holds body')
    (lived : Lived theme scale seed width height past engine) :
    ∀ entity ∈ engine.scene.entities, holds entity.body := by
  have rebuilt : ∀ {width height : α} {engine after : Engine α σ} {events : List (Event α)},
      engine.rebuild width height = .ok (after, events) →
      ∀ entity ∈ after.scene.entities, holds entity.body := by
    intro width height engine after events run entity member
    obtain ⟨spec, -, slot, before, next, -, bearRun⟩ := scatters_of_rebuild run entity member
    obtain ⟨_, _, spawnRun, -, -⟩ := Nursery.spawn_of_bear bearRun
    exact born ⟨width, height, rfl⟩ spawnRun
  induction lived with
  | started run => exact rebuilt run
  | rebuilt _ run => exact rebuilt run
  | updated lived run ih =>
    obtain ⟨tick, nursery, begins, leaves⟩ := leaves_of_update run
    obtain ⟨step, bounds, -⟩ := of_outset begins
    intro entity member
    cases leaves entity member with
    | survivor formerAt _ stepRun => exact stepped ⟨_, step⟩ (ih _ formerAt) stepRun
    | newcomer _ _ _ enters =>
      obtain ⟨population, slot, before, next, bearRun⟩ := enters
      obtain ⟨_, _, spawnRun, -, -⟩ := Nursery.spawn_of_bear bearRun
      exact born ⟨_, _, bounds.trans lived.sound.populated.bounds_eq⟩ spawnRun

end Engine

end Ambience
