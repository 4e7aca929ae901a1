import Ambience.Proofs.Engine.Population
import Ambience.Proofs.Engine.Turnover
import Mathlib.Data.List.ReduceOption

/-!
# Transient layers lose nothing but what is gone or over the cap

In an update a transient layer keeps the bodies that are alive after their steps, in their order, and
behind them one body is born in each slot that is due and finds a place. Of all these the newest
stay, as many as the cap of the layer allows. So the bodies of a transient layer always stand in the
order of their age, and the cap drops none of them before an older one.
-/

namespace Ambience

variable {α σ : Type} [Scalar α] [Words σ] [Units σ α]

/-- What fills slots is what is born in one of them after another. -/
theorem Nursery.slots_of_fill {nursery after : Nursery α σ} {kind : Kind} {site : Nat → Site α}
    {remaining slot : Nat} {filled : List (Entity α) × List Nat}
    (run : Runs (fill kind site remaining slot) nursery filled after) :
    ∃ slots, Runs ((List.range' slot remaining).mapM fun slot => bear kind (site slot)) nursery slots
        after ∧
      slots.length = remaining ∧ slots.reduceOption = filled.1 := by
  induction remaining generalizing nursery after slot filled with
  | zero =>
    obtain ⟨rfl, rfl⟩ := Runs.of_pure run
    exact ⟨[], rfl, rfl, rfl⟩
  | succ remaining ih =>
    obtain ⟨born, middle, bearRun, run⟩ := Runs.of_bind run
    obtain ⟨rest, final, fillRun, run⟩ := Runs.of_bind run
    obtain ⟨slots, slotsRun, length, same⟩ := ih fillRun
    have slotsRun : Runs ((List.range' slot (remaining + 1)).mapM fun slot => bear kind (site slot))
        nursery (born :: slots) final := by
      rw [List.range'_succ, List.mapM_cons]
      exact .bind bearRun (.bind slotsRun rfl)
    refine ⟨born :: slots, ?_, congrArg Nat.succ length, ?_⟩
    · cases born with
      | none | some =>
        obtain ⟨rfl, rfl⟩ := Runs.of_pure run
        exact slotsRun
    · cases born with
      | none =>
        obtain ⟨rfl, rfl⟩ := Runs.of_pure run
        exact same
      | some entity =>
        obtain ⟨rfl, rfl⟩ := Runs.of_pure run
        exact congrArg (entity :: ·) same

namespace Layer

/-! ## One layer -/

/-- How many bodies are due in a layer after a step. -/
def due (layer : Layer α) (step : α) : Nat :=
  match layer.spec.density with
  | .spawned rate _ => (layer.emitter.due rate step).1
  | _ => 0

/-- The births in the slots that are due in a layer, slot by slot, after the steps of its bodies. -/
def emissions (layer : Layer α) (tick : Tick α) : Nursing α σ (List (Option (Entity α))) := do
  let _ ← Nursery.draw (stepAll tick layer.entities)
  let due := layer.due tick.step
  (List.range due).mapM fun slot =>
    Nursery.bear layer.spec.kind (site layer.spec tick.bounds tick.wind .enter due slot)

/-- The bodies of a layer stand in the order of their age. -/
def Ordered (layer : Layer α) : Prop := (layer.entities.map Entity.id).Pairwise (· < ·)

/-- How a layer keeps its newest bodies: behind those that are alive after their steps come those
that were born in the slots, and the last of them stay, as many as the cap allows. -/
structure KeepsNewest (layer : Layer α) (cap : Nat) (stepped : List (Entity α × Fate))
    (slots : List (Option (Entity α))) (result : Layer α) : Prop where
  stepped_ids : (stepped.map Prod.fst).map Entity.id = layer.entities.map Entity.id
  suffix : result.entities <:+ alive stepped ++ slots.reduceOption
  length_eq : result.entities.length = min cap (alive stepped ++ slots.reduceOption).length
  ordered : result.Ordered
  /-- What is dropped is older than all that stay. -/
  older :
    ∀ dropped ∈ alive stepped ++ slots.reduceOption, dropped ∉ result.entities →
      ∀ kept ∈ result.entities, dropped.id < kept.id

variable {layer result : Layer α} {tick : Tick α} {nursery after : Nursery α σ}

omit [Words σ] [Units σ α] in
theorem due_of_spawned {rate step : α} {cap : Nat}
    (spawned : layer.spec.density = .spawned rate cap) :
    layer.due step = (layer.emitter.due rate step).1 := by
  unfold due
  rw [spawned]

omit [Scalar α] [Words σ] [Units σ α] in
/-- What an emitting layer gets comes behind what it has in the order of identities, since
identities are handed out upwards. -/
theorem ordered_append {stepped : List (Entity α × Fate)} {born : List (Entity α)}
    {missing : List Nat} {places : Nat}
    (filled : Nursery.Filled layer.spec.kind nursery places born missing after)
    (ordered : layer.Ordered) (issued : layer.IssuedBelow nursery.nextId)
    (sameIds : (stepped.map Prod.fst).map Entity.id = layer.entities.map Entity.id) :
    (alive stepped ++ born).Pairwise fun older newer => older.id < newer.id := by
  have survivors : ((alive stepped).map Entity.id).Sublist (layer.entities.map Entity.id) := by
    rw [← sameIds]
    exact (alive_sublist stepped).map Entity.id
  refine List.pairwise_append.2 ⟨?_, ?_, fun old oldAt newcomer newcomerAt => ?_⟩
  · exact List.pairwise_map.1 (ordered.sublist survivors)
  · refine List.pairwise_map.1 ?_
    rw [filled.ids]
    exact List.pairwise_lt_range'
  · obtain ⟨former, formerAt, sameId⟩ :=
      List.mem_map.1 (survivors.subset (List.mem_map_of_mem oldAt))
    have below := issued former formerAt
    have above := (filled.issued newcomer newcomerAt).1
    omega

omit [Scalar α] in
/-- A layer whose bodies are in the order of their identities keeps the newest of them by keeping
the last (`newest`). -/
theorem KeepsNewest.of_ordered {cap : Nat} {stepped : List (Entity α × Fate)}
    {slots : List (Option (Entity α))} {emitter : Emitter α}
    (sameIds : (stepped.map Prod.fst).map Entity.id = layer.entities.map Entity.id)
    (inOrder : (alive stepped ++ slots.reduceOption).Pairwise fun older newer => older.id < newer.id) :
    KeepsNewest layer cap stepped slots
      { layer with entities := newest (alive stepped ++ slots.reduceOption) cap, emitter } := by
  refine ⟨sameIds, List.drop_suffix _ _, ?_, ?_, ?_⟩
  · simp only [newest, excess, List.length_drop]
    omega
  · exact List.pairwise_map.2 (inOrder.sublist (List.drop_sublist _ _))
  · intro dropped inAll isDropped kept isKept
    generalize alive stepped ++ slots.reduceOption = entities at *
    rw [← List.take_append_drop (excess entities cap) entities] at inAll inOrder
    have inFront := (List.mem_append.1 inAll).resolve_right isDropped
    exact (List.pairwise_append.1 inOrder).2.2 dropped inFront kept isKept

/-- An emitting layer advances by stepping its bodies, filling as many slots as its emitter has due
and keeping the newest. -/
theorem Advances.keepsNewest {rate : α} {cap dropped : Nat}
    (advances : Advances layer tick nursery after result dropped)
    (spawned : layer.spec.density = .spawned rate cap) (ordered : layer.Ordered)
    (issued : layer.IssuedBelow nursery.nextId) :
    ∃ stepped source slots, Runs (stepAll tick layer.entities) nursery.source stepped source ∧
      Runs (layer.emissions tick) nursery slots after ∧
      slots.length = (layer.emitter.due rate tick.step).1 ∧
      result.emitter = (layer.emitter.due rate tick.step).2 ∧
      KeepsNewest layer cap stepped slots result := by
  cases advances with
  | @transient rate' cap' stepped source born missing spawned' stepRun fillRun =>
    cases spawned.symm.trans spawned'
    obtain ⟨slots, slotsRun, length, bornSlots⟩ := Nursery.slots_of_fill fillRun
    have sameIds := ids_of_steps ((of_stepAll stepRun).imp fun _ _ step => step.1)
    have inOrder := ordered_append (Nursery.of_fill fillRun) ordered issued sameIds
    refine ⟨stepped, source, slots, stepRun, ?_, length, rfl, ?_⟩
    · refine .bind (Nursery.draw_runs stepRun) ?_
      dsimp only
      rw [due_of_spawned spawned, List.range_eq_range']
      exact slotsRun
    · cases bornSlots
      exact .of_ordered sameIds inOrder
  | lasting lasts =>
    rw [spawned] at lasts
    cases lasts

end Layer

/-! ## Whole scenes -/

namespace Engine

variable {engine after : Engine α σ} {theme : Theme α} {scale : α} {events : List (Event α)}

/-- The births in the slots that are due in a layer in the update after some seconds, slot by
slot. -/
def emissions (engine : Engine α σ) (seconds : α) (k : Nat) :
    Except Fault (List (Option (Entity α))) := do
  let (tick, nursery) ← engine.outset seconds
  let (_, nursery) ← (Layer.advanceAll tick (engine.scene.layers.take k)).run nursery
  match engine.scene.layers[k]? with
  | none => return []
  | some layer => return (← (layer.emissions tick).run nursery).1

/-- Every transient layer of an engine keeps its newest bodies in an update. -/
def KeepsNewest (engine : Engine α σ) (seconds : α) (after : Engine α σ) : Prop :=
  ∀ (k : Nat) (layer : Layer α) (rate : α) (cap : Nat), engine.scene.layers[k]? = some layer →
    layer.spec.density = .spawned rate cap →
    ∃ stepped slots layer', engine.outcomes seconds k = .ok stepped ∧
      engine.emissions seconds k = .ok slots ∧ after.scene.layers[k]? = some layer' ∧
      slots.length = (layer.emitter.due rate (Motion.stepOf seconds)).1 ∧
      layer'.emitter = (layer.emitter.due rate (Motion.stepOf seconds)).2 ∧
      layer.KeepsNewest cap stepped slots layer'

/-- The `emissions` of a layer are the births in its slots, in the nursery that the layers before it
left. -/
theorem emissions_eq {seconds : α} {tick : Tick α} {nursery middle next : Nursery α σ} {k : Nat}
    {layer : Layer α} {firsts : List (Layer α × Nat)} {slots : List (Option (Entity α))}
    (begins : engine.outset seconds = .ok (tick, nursery))
    (found : engine.scene.layers[k]? = some layer)
    (firstsRun : Runs (Layer.advanceAll tick (engine.scene.layers.take k)) nursery firsts middle)
    (slotsRun : Runs (layer.emissions tick) middle slots next) :
    engine.emissions seconds k = .ok slots := by
  unfold Runs at firstsRun slotsRun
  unfold emissions
  rw [begins, found]
  show (Layer.advanceAll tick (engine.scene.layers.take k)).run nursery >>= _ = _
  rw [firstsRun]
  show (layer.emissions tick).run middle >>= _ = _
  rw [slotsRun]
  rfl

/-- A transient layer is never above its cap, and its bodies stand in the order of their age. -/
def Bounded (engine : Engine α σ) : Prop :=
  ∀ layer ∈ engine.scene.layers, ∀ (rate : α) (cap : Nat), layer.spec.density = .spawned rate cap →
    layer.entities.length ≤ cap ∧ layer.Ordered

/-- A transient layer of a new scene is empty, and so `Bounded`. -/
theorem bounded_of_rebuild {width height : α}
    (run : engine.rebuild width height = .ok (after, events)) : Bounded after := by
  obtain ⟨nursery, ended, built, nextId, buildRun, rfl⟩ := of_rebuild run
  intro layer member rate cap spawned
  obtain ⟨spec, _, filled⟩ := exists_mem_of_forall₂ (Layer.of_buildAll buildRun).2 layer member
  have length := filled.length_le
  rw [← filled.spec_eq, spawned] at length
  have empty : layer.entities = [] := List.length_eq_zero_iff.1 (Nat.le_zero.1 length)
  rw [Layer.Ordered, empty]
  exact ⟨Nat.zero_le _, .nil⟩

/-- In an update of a `Bounded` scene each emitting layer keeps its newest bodies. -/
theorem keepsNewest_of_update {seconds : α}
    (homogeneous : ∀ layer ∈ engine.scene.layers, layer.Homogeneous)
    (issued : engine.IssuedBelow engine.scene.nextId) (bounded : Bounded engine)
    (run : engine.update seconds = .ok (after, events)) : KeepsNewest engine seconds after := by
  intro k layer rate cap found spawned
  obtain ⟨tick, nursery, firsts, middle, next, layer', dropped, begins, firstsRun, -, issuedLater,
    advances, layerAt⟩ := advances_of_update homogeneous issued run found
  have ordered := (bounded layer (List.mem_of_getElem? found) rate cap spawned).2
  obtain ⟨stepped, source, slots, stepRun, slotsRun, length, emitter, keeps⟩ :=
    advances.keepsNewest spawned ordered issuedLater
  rw [(of_outset begins).1] at length emitter
  exact ⟨stepped, slots, layer', outcomes_eq begins found firstsRun stepRun,
    emissions_eq begins found firstsRun slotsRun, layerAt, length, emitter, keeps⟩

/-- An update leaves every emitting layer at its cap or below it, in order. -/
theorem bounded_of_update {seconds : α}
    (homogeneous : ∀ layer ∈ engine.scene.layers, layer.Homogeneous)
    (issued : engine.IssuedBelow engine.scene.nextId) (bounded : Bounded engine)
    (run : engine.update seconds = .ok (after, events)) : Bounded after := by
  have keepsNewest := keepsNewest_of_update homogeneous issued bounded run
  obtain ⟨-, layers⟩ := advanced_of_update homogeneous issued run
  intro layer' member rate cap spawned
  obtain ⟨k, found'⟩ := List.getElem?_of_mem member
  obtain ⟨layer, found, same⟩ := getElem?_of_forall₂ layers.flip found'
  rw [same.spec_eq] at spawned
  obtain ⟨_, _, other, _, _, otherAt, _, _, keeps⟩ := keepsNewest k layer rate cap found spawned
  cases found'.symm.trans otherAt
  refine ⟨?_, keeps.ordered⟩
  rw [keeps.length_eq]
  exact Nat.min_le_left _ _

/-- The emitting layers of an engine are `Bounded` at any time of its life. -/
theorem Lived.bounded {seed : UInt64} {width height : α} {past : List (Engine α σ)}
    (lived : Lived theme scale seed width height past engine) : Bounded engine := by
  induction lived with
  | started run => exact bounded_of_rebuild run
  | rebuilt _ run => exact bounded_of_rebuild run
  | updated lived run ih =>
    have sound := lived.sound
    exact bounded_of_update sound.populated.homogeneous (sound.issued _ List.mem_cons_self) ih run

/-- A transient layer loses nothing but what is gone or over its cap. It is never above its cap, and
its bodies stand in the order of their age (`Bounded`). After an update it holds the newest of the
bodies that are alive after their steps, in their order, and of those that were born behind them in
the slots that were due (`KeepsNewest`): all of them up to the cap, and of more than the cap the
last ones. -/
theorem newest_of_lived {seed : UInt64} {width height : α} {past : List (Engine α σ)}
    (lived : Lived theme scale seed width height past engine) :
    Bounded engine ∧
      ∀ (seconds : α) (after : Engine α σ) (events : List (Event α)),
        engine.update seconds = .ok (after, events) → KeepsNewest engine seconds after := by
  have sound := lived.sound
  refine ⟨lived.bounded, fun seconds after events run => ?_⟩
  exact keepsNewest_of_update sound.populated.homogeneous (sound.issued engine List.mem_cons_self)
    lived.bounded run

/-- A wind that carries three grains of sand. -/
def drift : Theme ℚ := { Theme.dunes with layers := [⟨.grain, 1, .spawned 0.75 3⟩] }

/-- A drift after a tenth of a second and after half of that. -/
def drifts : Except Fault (Engine ℚ Random.Stream × Engine ℚ Random.Stream) := do
  let (engine, _) ← start drift 1 43 8 0
  let (blown, _) ← engine.update 0.1
  let (later, _) ← blown.update 0.05
  return (blown, later)

/-- Of three grains the second leaves the view, two new ones are due, and of the four that are left
the cap drops the oldest. -/
theorem newest_of_drift :
    ∃ engine blown later : Engine ℚ Random.Stream,
      Lived drift 1 43 8 0 [engine] blown ∧ Bounded blown ∧ KeepsNewest blown 0.05 later ∧
      blown.scene.layers.map (fun layer => layer.entities.map Entity.id) = [[1, 2, 3]] ∧
      (∃ stepped, blown.outcomes 0.05 0 = .ok stepped ∧
        stepped.map (fun outcome => (outcome.1.id, outcome.2)) =
          [(1, .alive), (2, .expired), (3, .alive)]) ∧
      later.scene.layers.map (fun layer => layer.entities.map Entity.id) = [[3, 4, 5]] := by
  have ends : drifts.toOption.any (fun ⟨blown, later⟩ =>
      blown.scene.layers.map (fun layer => layer.entities.map Entity.id) == [[1, 2, 3]] &&
      (blown.outcomes 0.05 0).toOption.any (fun stepped =>
        stepped.map (fun outcome => (outcome.1.id, outcome.2)) ==
          [(1, .alive), (2, .expired), (3, .alive)]) &&
      later.scene.layers.map (fun layer => layer.entities.map Entity.id) == [[3, 4, 5]]) =
      true := by
    decide +kernel
  obtain ⟨⟨blown, later⟩, run, checked⟩ := of_any_toOption ends
  obtain ⟨⟨engine, _⟩, startRun, run⟩ := of_bind_eq_ok run
  obtain ⟨⟨_, _⟩, blownRun, run⟩ := of_bind_eq_ok run
  obtain ⟨⟨_, reported⟩, laterRun, run⟩ := of_bind_eq_ok run
  cases of_pure_eq_ok run
  simp only [Bool.and_eq_true, beq_iff_eq] at checked
  obtain ⟨⟨blownIds, fates⟩, laterIds⟩ := checked
  obtain ⟨stepped, steppedRun, fates⟩ := of_any_toOption fates
  have lived : Lived drift 1 43 8 0 [engine] blown := (Lived.started startRun).updated blownRun
  obtain ⟨bounded, onUpdate⟩ := newest_of_lived lived
  exact ⟨engine, blown, later, lived, bounded, onUpdate 0.05 later reported laterRun, blownIds,
    ⟨stepped, steppedRun, beq_iff_eq.1 fates⟩, laterIds⟩

end Engine

end Ambience
