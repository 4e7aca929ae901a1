import Ambience.Proofs.Engine.Changes
import Ambience.Scalar.Rational
import Ambience.Theme.Catalog

/-!
# The population law

A scene is populated as its view and the scale of its engine ask, and it stays so: an update never
shrinks a lasting layer, since a body can only be gone where its kind always finds a place for
another. `Populated` says how a scene is populated, `Renews` what an update does to each place of a
lasting layer, and `Lived` collects the engines that any sizes and updates lead to, with what they
were before.
-/

namespace Ambience.Engine

variable {α σ : Type} [Scalar α] [Words σ] [Units σ α]

/-! ## Populations -/

/-- A scene of a theme that is populated for a view. -/
structure Populated (theme : Theme α) (scale : α) (bounds : Bounds α) (scene : Scene α) : Prop where
  bounds_eq : scene.bounds = bounds
  specs : scene.layers.map Layer.spec = theme.layers
  homogeneous : ∀ layer ∈ scene.layers, layer.Homogeneous
  length_eq :
    ∀ layer ∈ scene.layers, layer.spec.density.isTransient = false →
      layer.spec.kind.isPlaced = false →
      layer.entities.length = layer.spec.density.population bounds scale
  /-- Bodies that are placed clear of others may have found no room. -/
  length_le :
    ∀ layer ∈ scene.layers, layer.spec.density.isTransient = false →
      layer.entities.length ≤ layer.spec.density.population bounds scale

omit [Words σ] [Units σ α] in
/-- What holds of all layers of a theme holds of the layers of a scene that is `Populated` for
it. -/
theorem Populated.forall_spec {theme : Theme α} {scale : α} {bounds : Bounds α} {scene : Scene α}
    {holds : LayerSpec α → Prop} (populated : Populated theme scale bounds scene)
    (all : ∀ spec ∈ theme.layers, holds spec) : ∀ layer ∈ scene.layers, holds layer.spec := by
  intro layer member
  refine all layer.spec ?_
  rw [← populated.specs]
  exact List.mem_map_of_mem member

/-- Every identity in a scene was handed out before `nextId`. -/
def IssuedBelow (engine : Engine α σ) (nextId : Nat) : Prop :=
  ∀ layer ∈ engine.scene.layers, layer.IssuedBelow nextId

/-- A lasting layer after its bodies took a step, place by place: a body that is alive keeps its
place, and where one is gone there is a new one of the same kind, with an identity that is handed
out from `nextId` on. -/
structure Follows (nextId : Nat) (stepped : List (Entity α × Fate)) (layer layer' : Layer α) :
    Prop where
  spec_eq : layer'.spec = layer.spec
  length_eq : layer'.entities.length = layer.entities.length
  places :
    ∀ (i : Nat) (entity : Entity α), layer.entities[i]? = some entity →
      ∃ (body : Body α) (fate : Fate) (entity' : Entity α),
        stepped[i]? = some (⟨entity.id, body⟩, fate) ∧ layer'.entities[i]? = some entity' ∧
        (fate = .alive → entity' = ⟨entity.id, body⟩) ∧
        (fate = .expired → entity'.body.kind = layer.spec.kind ∧ nextId ≤ entity'.id)

/-- Every lasting layer of an engine follows the steps of its bodies in an update. -/
def Renews (engine : Engine α σ) (seconds : α) (after : Engine α σ) : Prop :=
  ∀ (k : Nat) (layer : Layer α), engine.scene.layers[k]? = some layer →
    layer.spec.density.isTransient = false →
    ∃ (stepped : List (Entity α × Fate)) (layer' : Layer α),
      engine.outcomes seconds k = .ok stepped ∧ after.scene.layers[k]? = some layer' ∧
      Follows engine.scene.nextId stepped layer layer'

/-! ## One change -/

variable {engine after : Engine α σ} {theme : Theme α} {scale : α} {bounds : Bounds α}
  {events : List (Event α)}

/-- A new scene is `Populated` for its view, with identities from the next one on. -/
theorem populated_of_rebuild {width height : α}
    (run : engine.rebuild width height = .ok (after, events)) :
    Populated engine.theme engine.scale (Bounds.of width height) after.scene ∧
      after.IssuedBelow after.scene.nextId ∧ engine.scene.nextId ≤ after.scene.nextId := by
  obtain ⟨nursery, ended, built, nextId, buildRun, rfl⟩ := of_rebuild run
  obtain ⟨low, layers⟩ := Layer.of_buildAll buildRun
  have specs : (built.map Prod.fst).map Layer.spec = engine.theme.layers := by
    have same := layers.imp fun _ _ built => built.spec_eq.symm
    rw [← List.forall₂_eq_eq_eq, List.forall₂_map_left_iff]
    exact (same.imp fun _ _ same => same.symm).flip
  refine ⟨⟨rfl, specs, ?_, ?_, ?_⟩, ?_, ?_⟩
  · intro layer member
    obtain ⟨_, _, built⟩ := exists_mem_of_forall₂ layers layer member
    exact built.homogeneous
  · intro layer member _ free
    obtain ⟨_, _, built⟩ := exists_mem_of_forall₂ layers layer member
    rw [built.spec_eq] at free ⊢
    exact built.length_eq free
  · intro layer member _
    obtain ⟨_, _, built⟩ := exists_mem_of_forall₂ layers layer member
    rw [built.spec_eq]
    exact built.length_le
  · intro layer member
    obtain ⟨_, _, built⟩ := exists_mem_of_forall₂ layers layer member
    exact built.issued
  · rw [nextId] at low
    exact Nat.le_trans (Nat.le_max_right _ _) low

/-- Every layer of a scene is kept in an update, in its place. -/
theorem advanced_of_update {seconds : α}
    (homogeneous : ∀ layer ∈ engine.scene.layers, layer.Homogeneous)
    (issued : engine.IssuedBelow engine.scene.nextId)
    (run : engine.update seconds = .ok (after, events)) :
    engine.scene.nextId ≤ after.scene.nextId ∧
      List.Forall₂
        (fun layer => Layer.Advanced layer engine.scene.nextId after.scene.nextId)
        engine.scene.layers after.scene.layers := by
  obtain ⟨tick, nursery, ended, advanced, _, _, begins, nextId, advanceRun, rfl⟩ := of_update run
  rw [IssuedBelow, ← nextId] at issued
  rw [← nextId]
  exact Layer.of_advanceAll advanceRun homogeneous issued

/-- In an update each layer advances in the nursery that the layers before it left. -/
theorem advances_of_update {seconds : α}
    (homogeneous : ∀ layer ∈ engine.scene.layers, layer.Homogeneous)
    (issued : engine.IssuedBelow engine.scene.nextId)
    (run : engine.update seconds = .ok (after, events)) {k : Nat} {layer : Layer α}
    (found : engine.scene.layers[k]? = some layer) :
    ∃ tick nursery firsts middle next layer' dropped,
      engine.outset seconds = .ok (tick, nursery) ∧
      Runs (Layer.advanceAll tick (engine.scene.layers.take k)) nursery firsts middle ∧
      engine.scene.nextId ≤ middle.nextId ∧ layer.IssuedBelow middle.nextId ∧
      Layer.Advances layer tick middle next layer' dropped ∧
      after.scene.layers[k]? = some layer' := by
  obtain ⟨tick, nursery, ended, advanced, _, _, begins, nextId, advanceRun, rfl⟩ := of_update run
  have member := List.mem_of_getElem? found
  obtain ⟨firsts, middle, ⟨layer', dropped⟩, next, firstsRun, layerRun, resultAt⟩ :=
    Layer.advanceAll_at advanceRun found
  have inFront : ∀ {layer}, layer ∈ engine.scene.layers.take k → layer ∈ engine.scene.layers :=
    fun member => List.mem_of_mem_take member
  have low := (Layer.of_advanceAll firstsRun (fun layer member => homogeneous layer (inFront member))
    (fun layer member => by rw [nextId]; exact issued layer (inFront member))).1
  rw [nextId] at low
  have issuedLater : layer.IssuedBelow middle.nextId :=
    fun entity entityAt => Nat.lt_of_lt_of_le (issued layer member entity entityAt) low
  have layerAt : (advanced.map Prod.fst)[k]? = some layer' := by
    rw [List.getElem?_map, resultAt]
    rfl
  exact ⟨tick, nursery, firsts, middle, next, layer', dropped, begins, firstsRun, low, issuedLater,
    Layer.of_advance layerRun, layerAt⟩

/-- An update renews the lasting layers of a scene whose layers are each of one kind (`Renews`). -/
theorem renews_of_update {seconds : α}
    (homogeneous : ∀ layer ∈ engine.scene.layers, layer.Homogeneous)
    (issued : engine.IssuedBelow engine.scene.nextId)
    (run : engine.update seconds = .ok (after, events)) : Renews engine seconds after := by
  intro k layer found lasts
  have member := List.mem_of_getElem? found
  obtain ⟨tick, nursery, firsts, middle, next, layer', dropped, begins, firstsRun, low, issuedLater,
    advances, layerAt⟩ := advances_of_update homogeneous issued run found
  cases advances with
  | transient spawned =>
    rw [spawned] at lasts
    cases lasts
  | @lasting stepped source entities _ stepRun renewRun =>
    have steps := Layer.of_stepAll stepRun
    have left := Layer.of_stepsTo (homogeneous layer member) issuedLater steps
    obtain ⟨_, renewed⟩ := Layer.of_renew renewRun fun outcome member => (left outcome member).2.2
    refine ⟨stepped, _, outcomes_eq begins found firstsRun stepRun, layerAt, rfl, ?_, ?_⟩
    · exact renewed.length_eq.symm.trans steps.length_eq.symm
    · intro i entity entityAt
      obtain ⟨⟨⟨id, body⟩, fate⟩, outcomeAt, sameId, -⟩ := getElem?_of_forall₂ steps entityAt
      obtain ⟨entity', entityAt', renewal⟩ := getElem?_of_forall₂ renewed outcomeAt
      cases sameId
      refine ⟨body, fate, entity', outcomeAt, entityAt', ?_, ?_⟩
      · rintro rfl
        cases renewal
        rfl
      · rintro rfl
        cases renewal with
        | replaced same above => exact ⟨same, Nat.le_trans low above⟩

/-- An update keeps the population of a scene and hands out further identities. -/
theorem populated_of_update {seconds : α} (populated : Populated theme scale bounds engine.scene)
    (issued : engine.IssuedBelow engine.scene.nextId)
    (run : engine.update seconds = .ok (after, events)) :
    Populated theme scale bounds after.scene ∧ after.IssuedBelow after.scene.nextId ∧
      engine.scene.nextId ≤ after.scene.nextId := by
  have renews := renews_of_update populated.homogeneous issued run
  have sameBounds := bounds_of_update run
  obtain ⟨low, layers⟩ := advanced_of_update populated.homogeneous issued run
  have sameSpecs : after.scene.layers.map Layer.spec = engine.scene.layers.map Layer.spec := by
    rw [← List.forall₂_eq_eq_eq, List.forall₂_map_left_iff, List.forall₂_map_right_iff]
    exact (layers.imp fun _ _ advanced => advanced.spec_eq).flip
  -- A lasting layer is found at the place where it was, and it is as long as it was there.
  have sameLength : ∀ layer' ∈ after.scene.layers, layer'.spec.density.isTransient = false →
      ∃ layer ∈ engine.scene.layers, layer'.spec = layer.spec ∧
        layer'.entities.length = layer.entities.length := by
    intro layer' member lasts
    obtain ⟨k, found'⟩ := List.getElem?_of_mem member
    obtain ⟨layer, found, same⟩ := getElem?_of_forall₂ layers.flip found'
    rw [same.spec_eq] at lasts
    obtain ⟨_, other, _, otherAt, follows⟩ := renews k layer found lasts
    cases found'.symm.trans otherAt
    exact ⟨layer, List.mem_of_getElem? found, follows.spec_eq, follows.length_eq⟩
  refine ⟨⟨sameBounds.trans populated.bounds_eq, sameSpecs.trans populated.specs, ?_, ?_, ?_⟩, ?_,
    low⟩
  · intro layer' member
    obtain ⟨_, _, same⟩ := exists_mem_of_forall₂ layers layer' member
    exact same.homogeneous
  · intro layer' member lasts free
    obtain ⟨layer, layerAt, sameSpec, length⟩ := sameLength layer' member lasts
    rw [sameSpec] at lasts free ⊢
    rw [length]
    exact populated.length_eq layer layerAt lasts free
  · intro layer' member lasts
    obtain ⟨layer, layerAt, sameSpec, length⟩ := sameLength layer' member lasts
    rw [sameSpec] at lasts ⊢
    rw [length]
    exact populated.length_le layer layerAt lasts
  · intro layer' member
    obtain ⟨_, _, same⟩ := exists_mem_of_forall₂ layers layer' member
    exact same.issued

/-! ## Lives -/

/-- The engines that a theme, a scale and a seed lead to, each with the size that it was last built
for and the engines that it was before. -/
inductive Lived (theme : Theme α) (scale : α) (seed : UInt64) :
    α → α → List (Engine α σ) → Engine α σ → Prop
  | started {width height : α} {engine : Engine α σ} {events : List (Event α)} :
    start theme scale seed width height = .ok (engine, events) →
    Lived theme scale seed width height [] engine
  | rebuilt {width height width' height' : α} {past : List (Engine α σ)} {engine after : Engine α σ}
      {events : List (Event α)} :
    Lived theme scale seed width height past engine →
    engine.rebuild width' height' = .ok (after, events) →
    Lived theme scale seed width' height' (engine :: past) after
  | updated {width height seconds : α} {past : List (Engine α σ)} {engine after : Engine α σ}
      {events : List (Event α)} :
    Lived theme scale seed width height past engine →
    engine.update seconds = .ok (after, events) →
    Lived theme scale seed width height (engine :: past) after

/-- What an engine keeps over its life. -/
structure Sound (theme : Theme α) (scale : α) (bounds : Bounds α) (past : List (Engine α σ))
    (engine : Engine α σ) : Prop where
  theme_eq : engine.theme = theme
  scale_eq : engine.scale = scale
  populated : Populated theme scale bounds engine.scene
  /-- No identity that was ever handed out comes again. -/
  issued : ∀ earlier ∈ engine :: past, earlier.IssuedBelow engine.scene.nextId

omit [Scalar α] [Words σ] [Units σ α] in
theorem IssuedBelow.widen {nextId nextId' : Nat} (issued : engine.IssuedBelow nextId)
    (higher : nextId ≤ nextId') : engine.IssuedBelow nextId' :=
  fun layer layerAt entity entityAt =>
    Nat.lt_of_lt_of_le (issued layer layerAt entity entityAt) higher

omit [Scalar α] [Words σ] [Units σ α] in
/-- A change that hands out further identities leaves those of the past alone. -/
theorem issued_of_le {past : List (Engine α σ)} {nextId : Nat}
    (issued : ∀ earlier ∈ past, earlier.IssuedBelow nextId) (higher : nextId ≤ after.scene.nextId)
    (present : after.IssuedBelow after.scene.nextId) :
    ∀ earlier ∈ after :: past, earlier.IssuedBelow after.scene.nextId := by
  intro earlier member
  rcases List.mem_cons.1 member with rfl | member
  · exact present
  · exact (issued earlier member).widen higher

/-- What holds of an engine at any time of its life: it keeps its theme, its scale and its view, and
its scene is `Populated`. -/
theorem Lived.sound {seed : UInt64} {width height : α} {past : List (Engine α σ)}
    (lived : Lived theme scale seed width height past engine) :
    Sound theme (Scalar.clamp scale 0.5 2.0) (Bounds.of width height) past engine := by
  induction lived with
  | started run =>
    obtain ⟨populated, present, low⟩ := populated_of_rebuild run
    obtain ⟨_, _, _, _, _, rfl⟩ := of_rebuild run
    exact ⟨rfl, rfl, populated, issued_of_le (by rintro _ ⟨⟩) low present⟩
  | rebuilt _ run sound =>
    obtain ⟨populated, present, low⟩ := populated_of_rebuild run
    rw [sound.theme_eq, sound.scale_eq] at populated
    have past := issued_of_le sound.issued low present
    obtain ⟨_, _, _, _, _, rfl⟩ := of_rebuild run
    exact ⟨sound.theme_eq, sound.scale_eq, populated, past⟩
  | updated _ run sound =>
    obtain ⟨populated, present, low⟩ :=
      populated_of_update sound.populated (sound.issued _ List.mem_cons_self) run
    obtain ⟨_, _, _, _, _, _, _, _, _, rfl⟩ := of_update run
    exact ⟨sound.theme_eq, sound.scale_eq, populated, issued_of_le sound.issued low present⟩

/-- The population law. An engine at any time of its life has a scene that is `Populated` for the
view that it was last built for. It never handed out an identity beyond the next one
(`IssuedBelow`), and an update `Renews` each lasting layer place by place, with identities from the
next one on. -/
theorem population_of_lived {seed : UInt64} {width height : α} {past : List (Engine α σ)}
    (lived : Lived theme scale seed width height past engine) :
    Populated theme (Scalar.clamp scale 0.5 2.0) (Bounds.of width height) engine.scene ∧
      (∀ earlier ∈ engine :: past, earlier.IssuedBelow engine.scene.nextId) ∧
      ∀ (seconds : α) (after : Engine α σ) (events : List (Event α)),
        engine.update seconds = .ok (after, events) → Renews engine seconds after := by
  have sound := lived.sound
  refine ⟨sound.populated, sound.issued, ?_⟩
  intro seconds after events run
  exact renews_of_update sound.populated.homogeneous (sound.issued engine List.mem_cons_self) run

/-- A stone beside two embers. -/
def lowFire : Theme ℚ :=
  { Theme.embers with layers := [⟨.stone, 0, .fixed 1⟩, ⟨.ember, 1, .fixed 2⟩] }

/-- The engine of a low fire, and what it is a tenth of a second later. -/
def tenth : Except Fault (Engine ℚ Random.Stream × Engine ℚ Random.Stream) := do
  let (engine, _) ← start lowFire 1 9 80 80
  let (after, _) ← engine.update 0.1
  return (engine, after)

/-- The first ember of a low fire goes out within a tenth of a second, and another takes its place
under the next identity. -/
theorem population_of_lowFire :
    ∃ engine after : Engine ℚ Random.Stream,
      Lived lowFire 1 9 80 80 [engine] after ∧ Renews engine 0.1 after ∧
      engine.scene.layers.map (fun layer => layer.entities.map Entity.id) = [[1], [2, 3]] ∧
      after.scene.layers.map (fun layer => layer.entities.map Entity.id) = [[1], [4, 3]] := by
  have ends : tenth.toOption.any (fun ⟨engine, after⟩ =>
      engine.scene.layers.map (fun layer => layer.entities.map Entity.id) == [[1], [2, 3]] &&
      after.scene.layers.map (fun layer => layer.entities.map Entity.id) == [[1], [4, 3]]) =
      true := by
    decide +kernel
  obtain ⟨⟨engine, after⟩, run, checked⟩ := of_any_toOption ends
  obtain ⟨⟨_, built⟩, startRun, run⟩ := of_bind_eq_ok run
  obtain ⟨⟨_, reported⟩, updateRun, run⟩ := of_bind_eq_ok run
  cases of_pure_eq_ok run
  rw [Bool.and_eq_true, beq_iff_eq, beq_iff_eq] at checked
  have lived : Lived lowFire 1 9 80 80 [] engine := .started startRun
  exact ⟨engine, after, lived.updated updateRun,
    (population_of_lived lived).2.2 0.1 after reported updateRun, checked.1, checked.2⟩

end Ambience.Engine
