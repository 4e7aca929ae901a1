import Ambience.Proofs.Engine.Changes
import Mathlib.Data.List.Perm.Subperm

/-!
# The turnover of an update

An update renews the bodies of a scene: each takes a step, those that are gone leave, and others are
born. `Layer.births` carries an update out once more and keeps the bodies that are born in it, those
included that a cap drops at once. What stands in a layer afterwards are bodies that are still alive
and bodies that were born, each once (`Layer.Advances.turnover`), and `Engine.Turnover` says this of
all layers together: whatever their order and their caps make of it, nothing else is in the scene.
-/

namespace Ambience

variable {α σ : Type}

/-- The bodies of a scene, layer by layer. -/
def Scene.entities (scene : Scene α) : List (Entity α) := scene.layers.flatMap Layer.entities

/-! ## Identities -/

/-- The nursery bore some bodies in order, under the identities from its next one on. -/
structure Nursery.Bore (nursery : Nursery α σ) (born : List (Entity α)) (after : Nursery α σ) :
    Prop where
  ids : born.map Entity.id = List.range' nursery.nextId born.length
  nextId : after.nextId = nursery.nextId + born.length

section Births

variable [Scalar α] [Words σ] [Units σ α] {nursery after : Nursery α σ} {kind : Kind}

/-- Identities go on from birth to birth, whatever is born (`Bore`). -/
theorem Nursery.law_bore : Law (fun _ => True) (Bore : Nursery α σ → _ → _ → Prop) where
  nil nursery := ⟨rfl, rfl⟩
  append := by
    intro nursery middle after born later first rest
    constructor
    · rw [List.map_append, first.ids, rest.ids, first.nextId, List.length_append,
        List.range'_append_1]
    · rw [rest.nextId, first.nextId, List.length_append, Nat.add_assoc]
  draw bore := ⟨bore.ids, bore.nextId⟩
  bear := by
    intro kind site nursery after born _ run
    cases of_bear run with
    | crowded _ same => exact ⟨rfl, same⟩
    | found _ nextId => exact ⟨rfl, nextId⟩

omit [Scalar α] [Words σ] [Units σ α] in
theorem Nursery.draw_runs {β : Type} {computation : Draw σ β} {result : β} {source : σ}
    (run : Runs computation nursery.source result source) :
    Runs (draw computation) nursery result { nursery with source } := by
  unfold Runs at *
  show computation.run nursery.source >>= _ = _
  rw [run]
  rfl

/-! ## The births of an update -/

namespace Layer

/-- The bodies born in the places of expired ones, in order from place `i` on. -/
def replacements (kind : Kind) (site : Nat → Site α) :
    Nat → List (Entity α × Fate) → Nursing α σ (List (Entity α))
  | _, [] => return []
  | i, (_, fate) :: later => do
    let born ←
      match fate with
      | .alive => pure []
      | .expired => do pure (← Nursery.bear kind (site i)).toList
    let rest ← replacements kind site (i + 1) later
    return born ++ rest

/-- The bodies born in a layer in an update. -/
def births (layer : Layer α) (tick : Tick α) : Nursing α σ (List (Entity α)) := do
  let spec := layer.spec
  let stepped ← Nursery.draw (stepAll tick layer.entities)
  match spec.density with
  | .spawned rate _ =>
    let due := (layer.emitter.due rate tick.step).1
    return (← Nursery.fill spec.kind (site spec tick.bounds tick.wind .enter due) due 0).1
  | _ => replacements spec.kind (site spec tick.bounds tick.wind .enter stepped.length) 0 stepped

/-- The bodies born in an update, layer by layer. -/
def birthsAll (tick : Tick α) : List (Layer α) → Nursing α σ (List (Entity α))
  | [] => return []
  | layer :: later => do
    let first ← layer.births tick
    let rest ← birthsAll tick later
    return first ++ rest

end Layer

namespace Nursery.Law

variable {kinds : Kind → Prop} {law : Nursery α σ → List (Entity α) → Nursery α σ → Prop}
  {tick : Tick α} {born : List (Entity α)}

/-- A `Law` of single births holds of all that take the place of bodies that are gone. -/
theorem replacements (holds : Law kinds law) (allowed : kinds kind) {site : Nat → Site α} {i : Nat}
    {stepped : List (Entity α × Fate)}
    (run : Runs (Layer.replacements kind site i stepped) nursery born after) :
    law nursery born after := by
  induction stepped generalizing i nursery born with
  | nil =>
    obtain ⟨rfl, rfl⟩ := Runs.of_pure run
    exact holds.nil _
  | cons outcome later ih =>
    obtain ⟨entity, fate⟩ := outcome
    cases fate with
    | alive =>
      obtain ⟨first, _, firstRun, run⟩ := Runs.of_bind run
      obtain ⟨rest, _, restRun, run⟩ := Runs.of_bind run
      obtain ⟨rfl, rfl⟩ := Runs.of_pure run
      obtain ⟨rfl, rfl⟩ := Runs.of_pure firstRun
      exact ih restRun
    | expired =>
      obtain ⟨newcomer, _, bearRun, run⟩ := Runs.of_bind run
      obtain ⟨first, _, firstRun, run⟩ := Runs.of_bind run
      obtain ⟨rest, _, restRun, run⟩ := Runs.of_bind run
      obtain ⟨rfl, rfl⟩ := Runs.of_pure run
      obtain ⟨rfl, rfl⟩ := Runs.of_pure firstRun
      exact holds.append (holds.bear allowed bearRun) (ih restRun)

/-- A `Law` of single births holds of all that are born in a layer during an update. -/
theorem births (holds : Law kinds law) {layer : Layer α} (allowed : kinds layer.spec.kind)
    (run : Runs (layer.births tick) nursery born after) : law nursery born after := by
  obtain ⟨stepped, middle, drawRun, run⟩ := Runs.of_bind run
  obtain ⟨source, -, rfl⟩ := of_draw drawRun
  dsimp only at run
  split at run
  · obtain ⟨filled, _, fillRun, run⟩ := Runs.of_bind run
    obtain ⟨rfl, rfl⟩ := Runs.of_pure run
    exact holds.draw (holds.fill allowed fillRun)
  · exact holds.draw (holds.replacements allowed run)

/-- A `Law` of single births holds of all that are born in an update. -/
theorem birthsAll (holds : Law kinds law) {layers : List (Layer α)}
    (allowed : ∀ layer ∈ layers, kinds layer.spec.kind)
    (run : Runs (Layer.birthsAll tick layers) nursery born after) : law nursery born after := by
  induction layers generalizing nursery born with
  | nil =>
    obtain ⟨rfl, rfl⟩ := Runs.of_pure run
    exact holds.nil _
  | cons layer later ih =>
    obtain ⟨first, middle, firstRun, run⟩ := Runs.of_bind run
    obtain ⟨rest, _, restRun, run⟩ := Runs.of_bind run
    obtain ⟨rfl, rfl⟩ := Runs.of_pure run
    have head := holds.births (allowed layer List.mem_cons_self) firstRun
    exact holds.append head
      (ih (fun other member => allowed other (List.mem_cons_of_mem _ member)) restRun)

end Nursery.Law

namespace Layer

variable {tick : Tick α} {layer : Layer α}

omit [Scalar α] in
theorem alive_append (stepped later : List (Entity α × Fate)) :
    alive (stepped ++ later) = alive stepped ++ alive later :=
  List.filterMap_append

omit [Scalar α] in
theorem alive_sublist (stepped : List (Entity α × Fate)) :
    (alive stepped).Sublist (stepped.map Prod.fst) := by
  induction stepped with
  | nil => exact .slnil
  | cons outcome later ih =>
    obtain ⟨entity, fate⟩ := outcome
    cases fate with
    | alive => exact ih.cons_cons entity
    | expired => exact ih.cons entity

omit [Scalar α] in
/-- Steps that keep the identity of each body keep the identities of all, in order. -/
theorem ids_of_steps {entities : List (Entity α)} {stepped : List (Entity α × Fate)}
    (steps : List.Forall₂ (fun entity outcome => outcome.1.id = entity.id) entities stepped) :
    (stepped.map Prod.fst).map Entity.id = entities.map Entity.id := by
  rw [← List.forall₂_eq_eq_eq, List.forall₂_map_left_iff, List.forall₂_map_left_iff,
    List.forall₂_map_right_iff]
  exact steps.flip

/-- A renewed layer holds the bodies that are alive and the `replacements`, each in some place. -/
theorem replacements_of_renew {site : Nat → Site α} {i : Nat}
    {stepped : List (Entity α × Fate)} {entities : List (Entity α)}
    (run : Runs (renew kind site i stepped) nursery entities after) :
    ∃ born, Runs (replacements kind site i stepped) nursery born after ∧
      entities.Perm (alive stepped ++ born) := by
  induction stepped generalizing i nursery entities with
  | nil =>
    obtain ⟨rfl, rfl⟩ := Runs.of_pure run
    exact ⟨[], rfl, .nil⟩
  | cons outcome later ih =>
    obtain ⟨entity, fate⟩ := outcome
    cases fate with
    | alive =>
      obtain ⟨kept, _, keepRun, run⟩ := Runs.of_bind run
      obtain ⟨rest, _, restRun, run⟩ := Runs.of_bind run
      obtain ⟨rfl, rfl⟩ := Runs.of_pure run
      obtain ⟨rfl, rfl⟩ := Runs.of_pure keepRun
      obtain ⟨born, bornRun, perm⟩ := ih restRun
      exact ⟨born, .bind rfl (.bind bornRun rfl), perm.cons entity⟩
    | expired =>
      obtain ⟨newcomer, _, bearRun, run⟩ := Runs.of_bind run
      obtain ⟨kept, _, keepRun, run⟩ := Runs.of_bind run
      obtain ⟨rest, _, restRun, run⟩ := Runs.of_bind run
      obtain ⟨rfl, rfl⟩ := Runs.of_pure run
      obtain ⟨rfl, rfl⟩ := Runs.of_pure keepRun
      obtain ⟨born, bornRun, perm⟩ := ih restRun
      refine ⟨newcomer.toList ++ born, .bind bearRun (.bind rfl (.bind bornRun rfl)), ?_⟩
      exact (perm.append_left _).trans (List.perm_append_comm_assoc ..)

/-- What stands in a layer after an update are bodies that are still alive and bodies that were
born. -/
theorem Advances.turnover {result : Layer α} {dropped : Nat}
    (advances : Advances layer tick nursery after result dropped) :
    ∃ (stepped : List (Entity α × Fate)) (source : σ) (born : List (Entity α)),
      Runs (stepAll tick layer.entities) nursery.source stepped source ∧
      Runs (births layer tick) nursery born after ∧
      result.entities.Subperm (alive stepped ++ born) := by
  cases advances with
  | @transient rate cap stepped source born missing spawned stepRun fillRun =>
    refine ⟨stepped, source, born, stepRun, ?_, (List.drop_sublist _ _).subperm⟩
    refine .bind (Nursery.draw_runs stepRun) ?_
    dsimp only
    rw [spawned]
    exact .bind fillRun rfl
  | @lasting stepped source entities lasts stepRun renewRun =>
    obtain ⟨born, bornRun, perm⟩ := replacements_of_renew renewRun
    refine ⟨stepped, source, born, stepRun, .bind (Nursery.draw_runs stepRun) ?_, perm.subperm⟩
    dsimp only
    split
    · rename_i spawned
      rw [spawned] at lasts
      cases lasts
    · exact bornRun

/-- How some layers turn over in an update, from the nursery that the first of them meets: the
outcomes of the steps in each layer, the bodies born in all of them, and what the layers are then. -/
structure Turnover (tick : Tick α) (layers : List (Layer α)) (nursery after : Nursery α σ)
    (stepped : List (List (Entity α × Fate))) (born : List (Entity α)) (results : List (Layer α)) :
    Prop where
  births : Runs (birthsAll tick layers) nursery born after
  length_eq : stepped.length = layers.length
  steps : List.Forall₂ (Entity.StepsTo σ tick) (layers.flatMap Layer.entities) stepped.flatten
  entities : (results.flatMap Layer.entities).Subperm (alive stepped.flatten ++ born)
  /-- The outcomes of a layer are those of the steps that follow the update of the layers before. -/
  outcomes :
    ∀ (k : Nat) (layer : Layer α), layers[k]? = some layer →
      ∃ (outcomes : List (Entity α × Fate)) (firsts : List (Layer α × Nat)) (middle : Nursery α σ)
        (source : σ),
        stepped[k]? = some outcomes ∧ Runs (advanceAll tick (layers.take k)) nursery firsts middle ∧
        Runs (stepAll tick layer.entities) middle.source outcomes source

/-- The layers of a scene step, bear and lose bodies one after another (`Turnover`). -/
theorem turnover_of_advanceAll {layers : List (Layer α)} {advanced : List (Layer α × Nat)}
    (run : Runs (advanceAll tick layers) nursery advanced after) :
    ∃ stepped born, Turnover tick layers nursery after stepped born (advanced.map Prod.fst) := by
  induction layers generalizing nursery advanced with
  | nil =>
    obtain ⟨rfl, rfl⟩ := Runs.of_pure run
    exact ⟨[], [], rfl, rfl, .nil, .refl _, by rintro k layer ⟨⟩⟩
  | cons layer later ih =>
    obtain ⟨first, middle, firstRun, run⟩ := Runs.of_bind run
    obtain ⟨rest, _, restRun, run⟩ := Runs.of_bind run
    obtain ⟨rfl, rfl⟩ := Runs.of_pure run
    obtain ⟨outcomes, source, born, stepRun, bornRun, entities⟩ := (of_advance firstRun).turnover
    obtain ⟨stepped, bornLater, turned⟩ := ih restRun
    refine ⟨outcomes :: stepped, born ++ bornLater, ?_, ?_, ?_, ?_, ?_⟩
    · exact .bind bornRun (.bind turned.births rfl)
    · rw [List.length_cons, List.length_cons, turned.length_eq]
    · exact List.rel_append (of_stepAll stepRun) turned.steps
    · rw [List.flatten_cons, alive_append]
      refine (entities.append turned.entities).trans (List.Perm.subperm ?_)
      rw [List.append_assoc, List.append_assoc]
      exact (List.perm_append_comm_assoc ..).append_left _
    · intro k layer' found
      cases k with
      | zero =>
        cases found
        exact ⟨outcomes, [], nursery, source, rfl, rfl, stepRun⟩
      | succ k =>
        obtain ⟨outcomes', firsts, middle', source', outcomesAt, firstsRun, stepRun'⟩ :=
          turned.outcomes k layer' found
        exact ⟨outcomes', first :: firsts, middle', source', outcomesAt,
          .bind firstRun (.bind firstsRun rfl), stepRun'⟩

end Layer

end Births

/-! ## The turnover of a scene -/

namespace Engine

variable [Scalar α] [Words σ] [Units σ α] {engine after : Engine α σ} {events : List (Event α)}

/-- The bodies born in the update after some seconds, in order. -/
def births (engine : Engine α σ) (seconds : α) : Except Fault (List (Entity α)) := do
  let (tick, nursery) ← engine.outset seconds
  let (born, _) ← (Layer.birthsAll tick engine.scene.layers).run nursery
  return born

/-- How a scene turns over in the update after some seconds: the outcomes of the steps in each layer,
and the bodies born in all of them. -/
structure Turnover (engine : Engine α σ) (seconds : α) (after : Engine α σ)
    (stepped : List (List (Entity α × Fate))) (born : List (Entity α)) : Prop where
  births : engine.births seconds = .ok born
  length_eq : stepped.length = engine.scene.layers.length
  outcomes :
    ∀ (k : Nat) (layer : Layer α), engine.scene.layers[k]? = some layer →
      ∃ outcomes, stepped[k]? = some outcomes ∧ engine.outcomes seconds k = .ok outcomes
  /-- Identities are handed out in order. -/
  ids_born : born.map Entity.id = List.range' engine.scene.nextId born.length
  nextId : after.scene.nextId = engine.scene.nextId + born.length
  /-- A step keeps the identity of a body and its kind. -/
  steps :
    List.Forall₂ (fun entity outcome =>
        outcome.1.id = entity.id ∧ outcome.1.body.kind = entity.body.kind)
      engine.scene.entities stepped.flatten
  /-- Nothing is in the scene but bodies that are alive and bodies that were born, each once. -/
  entities : after.scene.entities.Subperm (Layer.alive stepped.flatten ++ born)

/-- All bodies of a new scene are born for it, under identities from the next one on. -/
theorem bore_of_rebuild {width height : α} (run : engine.rebuild width height = .ok (after, events)) :
    after.scene.entities.map Entity.id =
        List.range' (max 1 engine.scene.nextId) after.scene.entities.length ∧
      after.scene.nextId = max 1 engine.scene.nextId + after.scene.entities.length := by
  obtain ⟨nursery, ended, built, nextId, buildRun, rfl⟩ := of_rebuild run
  have bore := Nursery.law_bore.buildAll (fun _ _ => trivial) buildRun
  rw [← nextId]
  exact ⟨bore.ids, bore.nextId⟩

/-- No body of a new scene has an identity that was handed out before. -/
theorem le_of_rebuild {width height : α} (run : engine.rebuild width height = .ok (after, events))
    {entity : Entity α} (member : entity ∈ after.scene.entities) :
    engine.scene.nextId ≤ entity.id := by
  have issued : entity.id ∈ List.range' (max 1 engine.scene.nextId)
      after.scene.entities.length := by
    rw [← (bore_of_rebuild run).1]
    exact List.mem_map_of_mem member
  exact Nat.le_trans (Nat.le_max_right _ _) (List.mem_range'_1.1 issued).1

/-- Every update is a `Turnover` of the bodies that stepped and those that were born. -/
theorem turnover_of_update {seconds : α} (run : engine.update seconds = .ok (after, events)) :
    ∃ stepped born, Turnover engine seconds after stepped born := by
  obtain ⟨tick, nursery, ended, advanced, _, _, begins, nextId, advanceRun, rfl⟩ := of_update run
  obtain ⟨stepped, born, turned⟩ := Layer.turnover_of_advanceAll advanceRun
  have bore := Nursery.law_bore.birthsAll (fun _ _ => trivial) turned.births
  refine ⟨stepped, born, ?_, turned.length_eq, ?_, ?_, ?_, ?_, turned.entities⟩
  · have bornRun := turned.births
    unfold Runs at bornRun
    unfold births
    rw [begins]
    show (Layer.birthsAll tick engine.scene.layers).run nursery >>= _ = _
    rw [bornRun]
    rfl
  · intro k layer found
    obtain ⟨outcomes, firsts, middle, source, outcomesAt, firstsRun, stepRun⟩ :=
      turned.outcomes k layer found
    exact ⟨outcomes, outcomesAt, outcomes_eq begins found firstsRun stepRun⟩
  · rw [← nextId]
    exact bore.ids
  · rw [← nextId]
    exact bore.nextId
  · refine turned.steps.imp ?_
    rintro entity outcome ⟨sameId, source, source', stepRun⟩
    exact ⟨sameId, (Body.of_step stepRun).1⟩

end Engine

end Ambience
