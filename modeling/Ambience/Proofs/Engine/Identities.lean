import Ambience.Proofs.Engine.Population
import Ambience.Proofs.Engine.Turnover
import Mathlib.Data.List.Nodup
import Mathlib.Logic.Relation

/-!
# Identities are never used again

`Chronicle` follows the life of an engine and keeps every body that was ever born in it: those of
each new scene, those that took the place of others, and those that were emitted, even if a cap
dropped them at once. Their identities are 1, 2, 3 and so on, without a gap and without a
repetition. A scene never holds two bodies of one identity, and once a body is gone its identity is
in no scene that comes later.
-/

namespace Ambience.Engine

variable {α σ : Type} [Scalar α] [Words σ] [Units σ α] {engine after : Engine α σ}
  {theme : Theme α} {scale : α} {seed : UInt64} {events : List (Event α)}

/-! ## What was born and what is left -/

/-- The life of an engine with the bodies that were born in it so far, in order. -/
inductive Chronicle (theme : Theme α) (scale : α) (seed : UInt64) :
    List (Entity α) → Engine α σ → Prop
  | started {width height : α} {engine : Engine α σ} {events : List (Event α)} :
    start theme scale seed width height = .ok (engine, events) →
    Chronicle theme scale seed engine.scene.entities engine
  | rebuilt {width height : α} {born : List (Entity α)} {engine after : Engine α σ}
      {events : List (Event α)} :
    Chronicle theme scale seed born engine →
    engine.rebuild width height = .ok (after, events) →
    Chronicle theme scale seed (born ++ after.scene.entities) after
  | updated {seconds : α} {born newborn : List (Entity α)} {engine after : Engine α σ}
      {events : List (Event α)} :
    Chronicle theme scale seed born engine →
    engine.births seconds = .ok newborn → engine.update seconds = .ok (after, events) →
    Chronicle theme scale seed (born ++ newborn) after

/-- Every engine has, at any time of its life, a `Chronicle` of all bodies that it ever bore. -/
theorem Lived.chronicle {width height : α} {past : List (Engine α σ)}
    (lived : Lived theme scale seed width height past engine) :
    ∃ born, Chronicle theme scale seed born engine := by
  induction lived with
  | started run => exact ⟨_, .started run⟩
  | rebuilt _ run ih =>
    obtain ⟨born, chronicle⟩ := ih
    exact ⟨_, chronicle.rebuilt run⟩
  | updated _ run ih =>
    obtain ⟨born, chronicle⟩ := ih
    obtain ⟨_, newborn, turned⟩ := turnover_of_update run
    exact ⟨_, chronicle.updated turned.births run⟩

/-- The bodies that were born have the identities from 1 up to the next one, each exactly once. Those
of the scene are among them, grown older, and no two have one identity. -/
structure Numbered (born : List (Entity α)) (engine : Engine α σ) : Prop where
  nextId_eq : engine.scene.nextId = born.length + 1
  ids : born.map Entity.id = List.range' 1 born.length
  distinct : (engine.scene.entities.map Entity.id).Nodup
  stems :
    ∀ entity ∈ engine.scene.entities,
      ∃ ancestor ∈ born, ancestor.id = entity.id ∧ ancestor.body.kind = entity.body.kind

namespace Numbered

variable {born newborn : List (Entity α)}

omit [Scalar α] [Words σ] [Units σ α] in
/-- No body that was ever born has the next identity or a later one. -/
theorem id_lt (numbered : Numbered born engine) {former : Entity α} (member : former ∈ born) :
    former.id < engine.scene.nextId := by
  have issued : former.id ∈ List.range' 1 born.length := by
    rw [← numbered.ids]
    exact List.mem_map_of_mem member
  have bounds := List.mem_range'_1.1 issued
  rw [numbered.nextId_eq]
  omega

omit [Scalar α] [Words σ] [Units σ α] in
/-- Nor has one of the scene, which are all among those that were born. -/
theorem live_lt (numbered : Numbered born engine) {entity : Entity α}
    (member : entity ∈ engine.scene.entities) : entity.id < engine.scene.nextId := by
  obtain ⟨ancestor, ancestorAt, sameId, -⟩ := numbered.stems entity member
  rw [← sameId]
  exact numbered.id_lt ancestorAt

omit [Scalar α] [Words σ] [Units σ α] in
/-- Bodies with the next identities go on with the count of those that were born. -/
theorem ids_append (numbered : Numbered born engine) {entities : List (Entity α)}
    (ids : entities.map Entity.id = List.range' engine.scene.nextId entities.length) :
    (born ++ entities).map Entity.id = List.range' 1 (born ++ entities).length := by
  have nextId : engine.scene.nextId = 1 + born.length := by
    rw [numbered.nextId_eq, Nat.add_comm]
  rw [List.map_append, numbered.ids, ids, nextId, List.range'_append_1, List.length_append]

theorem of_start {width height : α}
    (run : start theme scale seed width height = .ok (engine, events)) :
    Numbered engine.scene.entities engine := by
  obtain ⟨ids, nextId⟩ := bore_of_rebuild run
  have first : max 1 (Scene.empty (Bounds.of width height)).nextId = 1 := rfl
  rw [first] at ids nextId
  refine ⟨nextId.trans (Nat.add_comm _ _), ids, ?_, fun entity member => ?_⟩
  · rw [ids]
    exact List.nodup_range'
  · exact ⟨entity, member, rfl, rfl⟩

/-- A new scene goes on with the count of all that were born before. -/
theorem of_rebuild {width height : α} (numbered : Numbered born engine)
    (run : engine.rebuild width height = .ok (after, events)) :
    Numbered (born ++ after.scene.entities) after := by
  obtain ⟨ids, nextId⟩ := bore_of_rebuild run
  have positive : max 1 engine.scene.nextId = engine.scene.nextId := by
    have nextId_eq := numbered.nextId_eq
    omega
  rw [positive] at ids nextId
  refine ⟨?_, numbered.ids_append ids, ?_, fun entity member => ?_⟩
  · rw [nextId, numbered.nextId_eq, List.length_append]
    omega
  · rw [ids]
    exact List.nodup_range'
  · exact ⟨entity, List.mem_append_right _ member, rfl, rfl⟩

end Numbered

/-! ## One update -/

namespace Turnover

variable {seconds : α} {stepped : List (List (Entity α × Fate))} {born newborn : List (Entity α)}

/-- Steps keep identities, layer by layer. -/
theorem ids_stepped (turned : Turnover engine seconds after stepped newborn) :
    (stepped.flatten.map Prod.fst).map Entity.id = engine.scene.entities.map Entity.id :=
  Layer.ids_of_steps (turned.steps.imp fun _ _ same => same.1)

/-- What is born in an update has one of the identities that were next. -/
theorem le_of_newborn (turned : Turnover engine seconds after stepped newborn) {entity : Entity α}
    (member : entity ∈ newborn) : engine.scene.nextId ≤ entity.id := by
  have issued : entity.id ∈ List.range' engine.scene.nextId newborn.length := by
    rw [← turned.ids_born]
    exact List.mem_map_of_mem member
  exact (List.mem_range'_1.1 issued).1

/-- What takes a step in an update has one of the identities that were handed out before. -/
theorem lt_of_stepped (turned : Turnover engine seconds after stepped newborn)
    (numbered : Numbered born engine) {entity : Entity α} {fate : Fate}
    (member : (entity, fate) ∈ stepped.flatten) : entity.id < engine.scene.nextId := by
  obtain ⟨former, formerAt, sameId, -⟩ := exists_mem_of_forall₂ turned.steps _ member
  have below := numbered.live_lt formerAt
  rw [← sameId] at below
  exact below

/-- What is in the scene afterwards was born or is what a step left of a body of the scene. -/
theorem stepped_or_newborn (turned : Turnover engine seconds after stepped newborn)
    {entity : Entity α} (member : entity ∈ after.scene.entities) :
    (∃ k outcomes, engine.outcomes seconds k = .ok outcomes ∧ (entity, .alive) ∈ outcomes) ∨
      entity ∈ newborn := by
  rcases List.mem_append.1 (turned.entities.subset member) with survives | isNew
  · obtain ⟨outcomes, outcomesAt, inOutcomes⟩ :=
      List.mem_flatten.1 (Layer.mem_of_mem_alive survives)
    obtain ⟨k, inRange, rfl⟩ := List.getElem_of_mem outcomesAt
    have layerAt := List.getElem?_eq_getElem (turned.length_eq ▸ inRange)
    obtain ⟨found, foundAt, foundRun⟩ := turned.outcomes k _ layerAt
    rw [List.getElem?_eq_getElem inRange] at foundAt
    cases foundAt
    exact .inl ⟨k, _, foundRun, inOutcomes⟩
  · exact .inr isNew

/-- What is in the scene afterwards was born or has the identity and the kind of a body of the
scene. -/
theorem origin (turned : Turnover engine seconds after stepped newborn) {entity : Entity α}
    (member : entity ∈ after.scene.entities) :
    (∃ former ∈ engine.scene.entities,
        entity.id = former.id ∧ entity.body.kind = former.body.kind) ∨ entity ∈ newborn := by
  rcases List.mem_append.1 (turned.entities.subset member) with survives | isNew
  · have outcomeAt := Layer.mem_of_mem_alive survives
    exact .inl (exists_mem_of_forall₂ turned.steps _ outcomeAt)
  · exact .inr isNew

/-- An update goes on with the count of all that were born before (`Numbered`). -/
theorem numbered (turned : Turnover engine seconds after stepped newborn)
    (numbered : Numbered born engine) : Numbered (born ++ newborn) after := by
  refine ⟨?_, numbered.ids_append turned.ids_born, ?_, fun entity member => ?_⟩
  · rw [turned.nextId, numbered.nextId_eq, List.length_append]
    omega
  · -- The survivors and the newborn have different identities, and the scene holds each once.
    have survivors : ((Layer.alive stepped.flatten).map Entity.id).Sublist
        (engine.scene.entities.map Entity.id) := by
      rw [← turned.ids_stepped]
      exact (Layer.alive_sublist _).map _
    have apart : ((Layer.alive stepped.flatten ++ newborn).map Entity.id).Nodup := by
      rw [List.map_append]
      refine List.Nodup.append (survivors.nodup numbered.distinct) ?_ ?_
      · rw [turned.ids_born]
        exact List.nodup_range'
      · intro id old new
        obtain ⟨entity, entityAt, rfl⟩ := List.mem_map.1 (survivors.subset old)
        obtain ⟨newcomer, newcomerAt, sameId⟩ := List.mem_map.1 new
        have below := numbered.live_lt entityAt
        have above := turned.le_of_newborn newcomerAt
        omega
    obtain ⟨listed, perm, sublist⟩ := turned.entities
    exact (perm.map Entity.id).nodup_iff.1 ((sublist.map Entity.id).nodup apart)
  · rcases turned.origin member with ⟨former, formerAt, sameId, sameKind⟩ | isNew
    · obtain ⟨ancestor, ancestorAt, id, kind⟩ := numbered.stems former formerAt
      exact ⟨ancestor, List.mem_append_left _ ancestorAt, id.trans sameId.symm,
        kind.trans sameKind.symm⟩
    · exact ⟨entity, List.mem_append_right _ isNew, rfl, rfl⟩

/-- The identity of a body that is gone after its step is not in the scene that the update
leaves. -/
theorem ne_of_expired (turned : Turnover engine seconds after stepped newborn)
    (numbered : Numbered born engine) {gone : Entity α} (expired : (gone, .expired) ∈ stepped.flatten)
    {entity : Entity α} (member : entity ∈ after.scene.entities) : entity.id ≠ gone.id := by
  intro sameId
  rcases List.mem_append.1 (turned.entities.subset member) with survives | isNew
  · have distinct : (stepped.flatten.map fun outcome => outcome.1.id).Nodup := by
      have ids := turned.ids_stepped
      rw [List.map_map] at ids
      exact ids ▸ numbered.distinct
    have same : (entity, Fate.alive) = (gone, Fate.expired) :=
      List.inj_on_of_nodup_map distinct (Layer.mem_of_mem_alive survives) expired sameId
    cases same
  · have below := turned.lt_of_stepped numbered expired
    have above := turned.le_of_newborn isNew
    omega

end Turnover

/-! ## Whole lives -/

/-- All that is in a `Chronicle` has the identities from 1 on, in order. -/
theorem Chronicle.numbered {born : List (Entity α)}
    (chronicle : Chronicle theme scale seed born engine) : Numbered born engine := by
  induction chronicle with
  | started run => exact .of_start run
  | rebuilt _ run ih => exact ih.of_rebuild run
  | updated _ bornRun run ih =>
    obtain ⟨stepped, newborn, turned⟩ := turnover_of_update run
    cases turned.births.symm.trans bornRun
    exact turned.numbered ih

/-- What an engine can become next. -/
inductive Becomes (engine : Engine α σ) : Engine α σ → Prop
  | rebuilt {width height : α} {after : Engine α σ} {events : List (Event α)} :
    engine.rebuild width height = .ok (after, events) → Becomes engine after
  | updated {seconds : α} {after : Engine α σ} {events : List (Event α)} :
    engine.update seconds = .ok (after, events) → Becomes engine after

/-- An identity that was handed out and that no body of the scene has. -/
structure Retired (id : Nat) (engine : Engine α σ) : Prop where
  old : id < engine.scene.nextId
  absent : ∀ entity ∈ engine.scene.entities, entity.id ≠ id

/-- An identity that is `Retired` stays so in the next scene. -/
theorem Retired.of_becomes {id : Nat} (retired : Retired id engine)
    (becomes : Becomes engine after) : Retired id after := by
  have old := retired.old
  cases becomes with
  | rebuilt run =>
    obtain ⟨-, nextId⟩ := bore_of_rebuild run
    refine ⟨by omega, fun entity member => ?_⟩
    have above := le_of_rebuild run member
    omega
  | updated run =>
    obtain ⟨stepped, newborn, turned⟩ := turnover_of_update run
    have nextId := turned.nextId
    refine ⟨by omega, fun entity member => ?_⟩
    rcases turned.origin member with ⟨former, formerAt, sameId, -⟩ | isNew
    · rw [sameId]
      exact retired.absent former formerAt
    · have above := turned.le_of_newborn isNew
      omega

/-- An identity that is `Retired` stays so in all scenes that come later. -/
theorem Retired.of_leads {id : Nat} {later : Engine α σ} (retired : Retired id engine)
    (leads : Relation.ReflTransGen Becomes engine later) : Retired id later := by
  induction leads with
  | refl => exact retired
  | tail _ becomes ih => exact ih.of_becomes becomes

/-- The identity of a body that is gone after its step is `Retired` by the update. -/
theorem retired_of_expired {seconds : α} {k : Nat} {outcomes : List (Entity α × Fate)}
    {gone : Entity α} {born : List (Entity α)} (numbered : Numbered born engine)
    (run : engine.update seconds = .ok (after, events))
    (outcomesRun : engine.outcomes seconds k = .ok outcomes) (expired : (gone, .expired) ∈ outcomes) :
    Retired gone.id after := by
  obtain ⟨stepped, newborn, turned⟩ := turnover_of_update run
  have inScene : (gone, Fate.expired) ∈ stepped.flatten := by
    cases layerAt : engine.scene.layers[k]? with
    | none =>
      rw [outcomes_eq_nil layerAt outcomesRun] at expired
      cases expired
    | some layer =>
      obtain ⟨found, foundAt, foundRun⟩ := turned.outcomes k layer layerAt
      cases foundRun.symm.trans outcomesRun
      exact List.mem_flatten.2 ⟨outcomes, List.mem_of_getElem? foundAt, expired⟩
  refine ⟨?_, fun entity member => turned.ne_of_expired numbered inScene member⟩
  have below := turned.lt_of_stepped numbered inScene
  have nextId := turned.nextId
  omega

/-- Identities are never used again. The bodies that an engine ever bore (`Chronicle`) have the
identities from 1 on, each exactly once, and the scene holds some of them, each at most once. A new
scene has bodies with larger identities than all that were born before. In an update an identity
that was handed out before stays with what the step left of its body, and one whose body is gone
after its step is in no scene that comes later (`Becomes`). -/
theorem identities_of_lived {width height : α} {past : List (Engine α σ)}
    (lived : Lived theme scale seed width height past engine) :
    ∃ born : List (Entity α), Chronicle theme scale seed born engine ∧
      born.map Entity.id = List.range' 1 (engine.scene.nextId - 1) ∧
      (engine.scene.entities.map Entity.id).Nodup ∧
      (∀ entity ∈ engine.scene.entities, entity.id < engine.scene.nextId ∧
        ∃ ancestor ∈ born, ancestor.id = entity.id ∧ ancestor.body.kind = entity.body.kind) ∧
      (∀ (width' height' : α) (after : Engine α σ) (events : List (Event α)),
        engine.rebuild width' height' = .ok (after, events) →
        ∀ newcomer ∈ after.scene.entities, ∀ former ∈ born, former.id < newcomer.id) ∧
      (∀ (seconds : α) (after : Engine α σ) (events : List (Event α)),
        engine.update seconds = .ok (after, events) →
        (∀ entity ∈ after.scene.entities, entity.id < engine.scene.nextId →
          ∃ k outcomes, engine.outcomes seconds k = .ok outcomes ∧ (entity, .alive) ∈ outcomes) ∧
        (∀ (k : Nat) (outcomes : List (Entity α × Fate)) (gone : Entity α),
          engine.outcomes seconds k = .ok outcomes → (gone, .expired) ∈ outcomes →
          ∀ later, Relation.ReflTransGen Becomes after later →
          ∀ entity ∈ later.scene.entities, entity.id ≠ gone.id)) := by
  obtain ⟨born, chronicle⟩ := lived.chronicle
  have numbered := chronicle.numbered
  refine ⟨born, chronicle, ?_, numbered.distinct, ?_, ?_, ?_⟩
  · rw [numbered.nextId_eq, Nat.add_sub_cancel]
    exact numbered.ids
  · exact fun entity member => ⟨numbered.live_lt member, numbered.stems entity member⟩
  · intro width' height' after events run newcomer newcomerAt former formerAt
    have above := le_of_rebuild run newcomerAt
    have below := numbered.id_lt formerAt
    omega
  · intro seconds after events run
    constructor
    · obtain ⟨stepped, newborn, turned⟩ := turnover_of_update run
      intro entity member old
      refine (turned.stepped_or_newborn member).resolve_right fun isNew => ?_
      have above := turned.le_of_newborn isNew
      omega
    · intro k outcomes gone outcomesRun expired later leads
      exact ((retired_of_expired numbered run outcomesRun expired).of_leads leads).absent

/-- Two embers in a wind that carries two grains of sand. -/
def sandyFire : Theme ℚ :=
  { Theme.embers with layers := [⟨.ember, 1, .fixed 2⟩, ⟨.grain, 1, .spawned 0.5 2⟩] }

/-- A sandy fire after one tenth of a second, after another, and with a new scene. -/
def sandyFires :
    Except Fault (Engine ℚ Random.Stream × Engine ℚ Random.Stream × Engine ℚ Random.Stream) := do
  let (engine, _) ← start sandyFire 1 24 8 0
  let (blown, _) ← engine.update 0.1
  let (refilled, _) ← blown.update 0.1
  let (later, _) ← refilled.rebuild 40 40
  return (blown, refilled, later)

/-- Ember 2 goes out while newer grains crowd out both that were there, and none of the three is in
the scene that is built next. -/
theorem identities_of_sandyFire :
    ∃ engine blown refilled later : Engine ℚ Random.Stream,
      Lived sandyFire 1 24 8 0 [engine] blown ∧
      blown.scene.layers.map (fun layer => layer.entities.map Entity.id) = [[1, 2], [3, 4]] ∧
      refilled.scene.layers.map (fun layer => layer.entities.map Entity.id) = [[1, 5], [6, 7]] ∧
      later.scene.layers.map (fun layer => layer.entities.map Entity.id) = [[8, 9], []] ∧
      (∃ outcomes gone, blown.outcomes 0.1 0 = .ok outcomes ∧ (gone, .expired) ∈ outcomes ∧
        gone.id = 2 ∧ Relation.ReflTransGen Becomes refilled later ∧
        ∀ entity ∈ later.scene.entities, entity.id ≠ 2) := by
  have ends : sandyFires.toOption.any (fun ⟨blown, refilled, later⟩ =>
      blown.scene.layers.map (fun layer => layer.entities.map Entity.id) == [[1, 2], [3, 4]] &&
      refilled.scene.layers.map (fun layer => layer.entities.map Entity.id) == [[1, 5], [6, 7]] &&
      later.scene.layers.map (fun layer => layer.entities.map Entity.id) == [[8, 9], []] &&
      (blown.outcomes 0.1 0).toOption.any (List.any · fun outcome =>
        outcome.1.id == 2 && outcome.2 == .expired)) = true := by
    decide +kernel
  obtain ⟨⟨blown, refilled, later⟩, run, checked⟩ := of_any_toOption ends
  obtain ⟨⟨engine, _⟩, startRun, run⟩ := of_bind_eq_ok run
  obtain ⟨⟨_, _⟩, blownRun, run⟩ := of_bind_eq_ok run
  obtain ⟨⟨_, reported⟩, refilledRun, run⟩ := of_bind_eq_ok run
  obtain ⟨⟨_, _⟩, laterRun, run⟩ := of_bind_eq_ok run
  cases of_pure_eq_ok run
  simp only [Bool.and_eq_true, beq_iff_eq] at checked
  obtain ⟨⟨⟨blownIds, refilledIds⟩, laterIds⟩, goneOut⟩ := checked
  obtain ⟨outcomes, outcomesRun, goneOut⟩ := of_any_toOption goneOut
  obtain ⟨⟨gone, fate⟩, outcomeAt, goneOut⟩ := List.any_eq_true.1 goneOut
  simp only [Bool.and_eq_true, beq_iff_eq] at goneOut
  obtain ⟨goneId, rfl⟩ := goneOut
  have lived : Lived sandyFire 1 24 8 0 [engine] blown := (Lived.started startRun).updated blownRun
  have leads : Relation.ReflTransGen Becomes refilled later := .single (.rebuilt laterRun)
  obtain ⟨_, _, _, _, _, _, onUpdate⟩ := identities_of_lived lived
  have absent := (onUpdate 0.1 refilled reported refilledRun).2 0 outcomes gone outcomesRun
    outcomeAt later leads
  rw [goneId] at absent
  exact ⟨engine, blown, refilled, later, lived, blownIds, refilledIds, laterIds, outcomes, gone,
    outcomesRun, outcomeAt, goneId, leads, absent⟩

end Ambience.Engine
