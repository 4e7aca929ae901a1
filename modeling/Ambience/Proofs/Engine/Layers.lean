import Ambience.Proofs.Engine.Births
import Mathlib.Data.List.Forall2

/-!
# Layers in an update

A new layer is filled for its view. In an update each body of a layer takes a step, and then a
lasting layer puts a new body in the place of each one that is gone, while a transient layer drops
them and emits others. The layers of a scene are built and advanced one after another from one
nursery, so that what the births of a layer share is what the layers before it left.
-/

namespace Ambience

/-! ## Related lists -/

section Related

variable {β γ : Type} {related : β → γ → Prop} {before : List β} {after : List γ}

/-- What stands in the second of two related lists is related to something in the first. -/
theorem exists_mem_of_forall₂ (all : List.Forall₂ related before after) :
    ∀ c ∈ after, ∃ b ∈ before, related b c := by
  induction all with
  | nil => rintro _ ⟨⟩
  | @cons b c _ _ first _ ih =>
    intro other member
    rcases List.mem_cons.1 member with rfl | member
    · exact ⟨b, List.mem_cons_self, first⟩
    · obtain ⟨found, foundAt, same⟩ := ih other member
      exact ⟨found, List.mem_cons_of_mem _ foundAt, same⟩

/-- Related lists are related place by place. -/
theorem getElem?_of_forall₂ (all : List.Forall₂ related before after) {i : Nat} {b : β}
    (found : before[i]? = some b) : ∃ c, after[i]? = some c ∧ related b c := by
  induction all generalizing i with
  | nil => cases found
  | @cons b' c _ _ first _ ih =>
    cases i with
    | zero =>
      cases found
      exact ⟨c, rfl, first⟩
    | succ i => exact ih found

end Related

/-! ## What a layer keeps -/

variable {α σ : Type}

/-- All bodies of a layer are of its kind. -/
def Layer.Homogeneous (layer : Layer α) : Prop :=
  ∀ entity ∈ layer.entities, entity.body.kind = layer.spec.kind

/-- All identities in a layer were handed out before `nextId`. -/
def Layer.IssuedBelow (layer : Layer α) (nextId : Nat) : Prop :=
  ∀ entity ∈ layer.entities, entity.id < nextId

/-- What a lasting layer makes of a body after its step: one that is alive stays, and one that is
gone leaves its place to a new one, whose identity is handed out from `low` on and before `high`. -/
inductive Entity.Renewed (kind : Kind) (low high : Nat) : Entity α × Fate → Entity α → Prop
  | kept {entity : Entity α} : Renewed kind low high (entity, .alive) entity
  | replaced {entity newcomer : Entity α} :
    newcomer.body.kind = kind → low ≤ newcomer.id → newcomer.id < high →
    Renewed kind low high (entity, .expired) newcomer

theorem Entity.Renewed.widen {kind : Kind} {low low' high high' : Nat} {outcome : Entity α × Fate}
    {entity : Entity α} (renewed : Renewed kind low high outcome entity) (lower : low' ≤ low)
    (higher : high ≤ high') : Renewed kind low' high' outcome entity := by
  cases renewed with
  | kept => exact .kept
  | replaced same above below =>
    exact .replaced same (Nat.le_trans lower above) (Nat.lt_of_lt_of_le below higher)

variable [Scalar α] [Words σ] [Units σ α]

/-- The step of a body with an identity, which it keeps. -/
def Entity.StepsTo (σ : Type) [Words σ] [Units σ α] (tick : Tick α) (entity : Entity α)
    (outcome : Entity α × Fate) : Prop :=
  outcome.1.id = entity.id ∧
    ∃ source source' : σ,
      Runs (entity.body.step tick) source (outcome.1.body, outcome.2) source'

namespace Layer

variable {nursery after : Nursery α σ} {tick : Tick α} {layer : Layer α}

/-! ## New layers -/

/-- A new layer has as many places as its density gives for the view, and each is `Filled` or
missing. -/
theorem of_build {spec : LayerSpec α} {bounds : Bounds α} {wind scale : α}
    {built : Layer α × List Nat} (run : Runs (build spec bounds wind scale) nursery built after) :
    built.1.spec = spec ∧
      Nursery.Filled spec.kind nursery (spec.density.population bounds scale) built.1.entities
        built.2 after := by
  obtain ⟨⟨entities, missing⟩, _, fillRun, run⟩ := Runs.of_bind run
  obtain ⟨rfl, rfl⟩ := Runs.of_pure run
  exact ⟨rfl, Nursery.of_fill fillRun⟩

/-- What a new layer is like. -/
structure Built (bounds : Bounds α) (scale : α) (nextId : Nat) (spec : LayerSpec α)
    (layer : Layer α) : Prop where
  spec_eq : layer.spec = spec
  homogeneous : layer.Homogeneous
  /-- The layer is as populated as the view asks, up to bodies that found no place. -/
  length_le : layer.entities.length ≤ spec.density.population bounds scale
  length_eq :
    spec.kind.isPlaced = false → layer.entities.length = spec.density.population bounds scale
  issued : layer.IssuedBelow nextId

omit [Words σ] [Units σ α] in
theorem Built.of_filled {bounds : Bounds α} {scale : α} {spec : LayerSpec α} {missing : List Nat}
    (same : layer.spec = spec)
    (filled : Nursery.Filled spec.kind nursery (spec.density.population bounds scale)
      layer.entities missing after) :
    Built bounds scale after.nextId spec layer := by
  refine ⟨same, ?_, ?_, ?_, ?_⟩
  · intro entity member
    rw [same]
    exact filled.kinds entity member
  · have length := filled.length
    omega
  · intro free
    have length := filled.length
    rw [filled.missing free] at length
    exact length
  · exact fun entity member => (filled.issued entity member).2

theorem Built.widen {bounds : Bounds α} {scale : α} {nextId nextId' : Nat} {spec : LayerSpec α}
    (built : Built bounds scale nextId spec layer) (higher : nextId ≤ nextId') :
    Built bounds scale nextId' spec layer where
  spec_eq := built.spec_eq
  homogeneous := built.homogeneous
  length_le := built.length_le
  length_eq := built.length_eq
  issued entity member := Nat.lt_of_lt_of_le (built.issued entity member) higher

/-- The layers of a theme are built in order, each with the identities that the layers before it
left. -/
theorem of_buildAll {bounds : Bounds α} {wind scale : α} {specs : List (LayerSpec α)}
    {built : List (Layer α × List Nat)}
    (run : Runs (buildAll bounds wind scale specs) nursery built after) :
    nursery.nextId ≤ after.nextId ∧
      List.Forall₂ (Built bounds scale after.nextId) specs (built.map Prod.fst) := by
  induction specs generalizing nursery after built with
  | nil =>
    obtain ⟨rfl, rfl⟩ := Runs.of_pure run
    exact ⟨Nat.le_refl _, .nil⟩
  | cons spec later ih =>
    obtain ⟨first, middle, buildRun, run⟩ := Runs.of_bind run
    obtain ⟨rest, final, restRun, run⟩ := Runs.of_bind run
    obtain ⟨rfl, rfl⟩ := Runs.of_pure run
    obtain ⟨same, filled⟩ := of_build buildRun
    obtain ⟨restLe, restBuilt⟩ := ih restRun
    exact ⟨Nat.le_trans filled.nextId_le restLe,
      .cons ((Built.of_filled same filled).widen restLe) restBuilt⟩

/-- Every new layer is built for one of the theme, in what the layers before it left. -/
theorem build_of_buildAll {bounds : Bounds α} {wind scale : α} {specs : List (LayerSpec α)}
    {built : List (Layer α × List Nat)}
    (run : Runs (buildAll bounds wind scale specs) nursery built after) :
    ∀ result ∈ built, ∃ spec ∈ specs, ∃ before next : Nursery α σ,
      Runs (build spec bounds wind scale) before result next := by
  induction specs generalizing nursery built with
  | nil =>
    obtain ⟨rfl, rfl⟩ := Runs.of_pure run
    rintro _ ⟨⟩
  | cons spec later ih =>
    obtain ⟨first, middle, buildRun, run⟩ := Runs.of_bind run
    obtain ⟨rest, _, restRun, run⟩ := Runs.of_bind run
    obtain ⟨rfl, rfl⟩ := Runs.of_pure run
    intro result member
    rcases List.mem_cons.1 member with rfl | member
    · exact ⟨spec, List.mem_cons_self, nursery, middle, buildRun⟩
    · obtain ⟨other, otherAt, found⟩ := ih restRun result member
      exact ⟨other, List.mem_cons_of_mem _ otherAt, found⟩

/-! ## Steps and renewals -/

/-- The bodies of a layer step one after another, each once (`Entity.StepsTo`). -/
theorem of_stepAll {entities : List (Entity α)} {stepped : List (Entity α × Fate)}
    {source source' : σ} (run : Runs (stepAll tick entities) source stepped source') :
    List.Forall₂ (Entity.StepsTo σ tick) entities stepped := by
  induction entities generalizing source source' stepped with
  | nil =>
    obtain ⟨rfl, -⟩ := Runs.of_pure run
    exact .nil
  | cons entity later ih =>
    obtain ⟨⟨body, fate⟩, middle, stepRun, run⟩ := Runs.of_bind run
    obtain ⟨rest, final, restRun, run⟩ := Runs.of_bind run
    obtain ⟨rfl, -⟩ := Runs.of_pure run
    exact .cons ⟨rfl, source, middle, stepRun⟩ (ih restRun)

/-- What a step leaves in a layer: bodies of the same kind with identities that were handed out, and
the only ones that are gone are of a kind that always finds a place. -/
theorem of_stepsTo {stepped : List (Entity α × Fate)} {nextId : Nat}
    (homogeneous : layer.Homogeneous) (issued : layer.IssuedBelow nextId)
    (steps : List.Forall₂ (Entity.StepsTo σ tick) layer.entities stepped) :
    ∀ outcome ∈ stepped, outcome.1.body.kind = layer.spec.kind ∧ outcome.1.id < nextId ∧
      (layer.spec.kind.isPlaced = true → outcome.2 = .alive) := by
  intro outcome member
  obtain ⟨entity, entityAt, sameId, source, source', run⟩ := exists_mem_of_forall₂ steps outcome member
  obtain ⟨kept, placed⟩ := Body.of_step run
  rw [homogeneous entity entityAt] at kept placed
  refine ⟨kept, ?_, placed⟩
  rw [sameId]
  exact issued entity entityAt

/-- A layer is renewed place by place: where a body is gone its kind finds room for a new one
(`Entity.Renewed`). -/
theorem of_renew {kind : Kind} {site : Nat → Site α} {i : Nat} {stepped : List (Entity α × Fate)}
    {entities : List (Entity α)} (run : Runs (renew kind site i stepped) nursery entities after)
    (lasts : ∀ outcome ∈ stepped, kind.isPlaced = true → outcome.2 = .alive) :
    nursery.nextId ≤ after.nextId ∧
      List.Forall₂ (Entity.Renewed kind nursery.nextId after.nextId) stepped entities := by
  induction stepped generalizing i nursery after entities with
  | nil =>
    obtain ⟨rfl, rfl⟩ := Runs.of_pure run
    exact ⟨Nat.le_refl _, .nil⟩
  | cons outcome later ih =>
    obtain ⟨entity, fate⟩ := outcome
    have laterLasts : ∀ outcome ∈ later, kind.isPlaced = true → outcome.2 = .alive :=
      fun outcome member => lasts outcome (List.mem_cons_of_mem _ member)
    cases fate with
    | alive =>
      obtain ⟨kept, _, keepRun, run⟩ := Runs.of_bind run
      obtain ⟨rest, _, restRun, run⟩ := Runs.of_bind run
      obtain ⟨rfl, rfl⟩ := Runs.of_pure run
      obtain ⟨rfl, rfl⟩ := Runs.of_pure keepRun
      obtain ⟨restLe, restRenewed⟩ := ih restRun laterLasts
      exact ⟨restLe, .cons .kept restRenewed⟩
    | expired =>
      obtain ⟨born, _, bearRun, run⟩ := Runs.of_bind run
      obtain ⟨kept, middle, keepRun, run⟩ := Runs.of_bind run
      obtain ⟨rest, _, restRun, run⟩ := Runs.of_bind run
      obtain ⟨rfl, rfl⟩ := Runs.of_pure run
      obtain ⟨rfl, rfl⟩ := Runs.of_pure keepRun
      obtain ⟨restLe, restRenewed⟩ := ih restRun laterLasts
      cases Nursery.of_bear bearRun with
      | crowded placed => cases lasts (entity, .expired) List.mem_cons_self placed
      | found same nextId =>
        have bornBelow : nursery.nextId < after.nextId := by omega
        refine ⟨Nat.le_of_lt bornBelow, .cons ?_ ?_⟩
        · exact .replaced same (Nat.le_refl _) bornBelow
        · have lower : nursery.nextId ≤ middle.nextId := by omega
          exact restRenewed.imp fun _ _ renewed => renewed.widen lower (Nat.le_refl _)

/-! ## Updates -/

/-- How a layer advances, in a nursery that the update leaves as `after`. -/
inductive Advances (layer : Layer α) (tick : Tick α) (nursery after : Nursery α σ) :
    Layer α → Nat → Prop
  | transient {rate : α} {cap : Nat} {stepped : List (Entity α × Fate)} {source : σ}
      {born : List (Entity α)} {missing : List Nat} :
    layer.spec.density = .spawned rate cap →
    Runs (stepAll tick layer.entities) nursery.source stepped source →
    Runs
      (Nursery.fill layer.spec.kind
        (site layer.spec tick.bounds tick.wind .enter (layer.emitter.due rate tick.step).1)
        (layer.emitter.due rate tick.step).1 0)
      { nursery with source } (born, missing) after →
    Advances layer tick nursery after
      { layer with
        entities := newest (alive stepped ++ born) cap
        emitter := (layer.emitter.due rate tick.step).2 }
      (excess (alive stepped ++ born) cap)
  | lasting {stepped : List (Entity α × Fate)} {source : σ} {entities : List (Entity α)} :
    layer.spec.density.isTransient = false →
    Runs (stepAll tick layer.entities) nursery.source stepped source →
    Runs
      (renew layer.spec.kind
        (site layer.spec tick.bounds tick.wind .enter stepped.length) 0 stepped)
      { nursery with source } entities after →
    Advances layer tick nursery after { layer with entities } 0

theorem Advances.spec_eq {result : Layer α} {dropped : Nat}
    (advances : Advances layer tick nursery after result dropped) : result.spec = layer.spec := by
  cases advances <;> rfl

/-- Every run of `Layer.advance` is one of the cases of `Advances`: a lasting layer renews its
places, and an emitting one keeps its newest bodies. -/
theorem of_advance {result : Layer α × Nat}
    (run : Runs (layer.advance tick) nursery result after) :
    Advances layer tick nursery after result.1 result.2 := by
  obtain ⟨stepped, middle, drawRun, run⟩ := Runs.of_bind run
  obtain ⟨source, stepRun, rfl⟩ := Nursery.of_draw drawRun
  dsimp only at run
  split at run
  · rename_i rate cap spawned
    obtain ⟨⟨born, missing⟩, _, fillRun, run⟩ := Runs.of_bind run
    obtain ⟨rfl, rfl⟩ := Runs.of_pure run
    exact .transient spawned stepRun fillRun
  · rename_i lasts
    obtain ⟨entities, _, renewRun, run⟩ := Runs.of_bind run
    obtain ⟨rfl, rfl⟩ := Runs.of_pure run
    refine .lasting ?_ stepRun renewRun
    cases density : layer.spec.density with
    | spawned rate cap => exact (lasts rate cap density).elim
    | _ => rfl

omit [Scalar α] in
/-- What is `alive` after the steps of a layer was alive after its own. -/
theorem mem_of_mem_alive {stepped : List (Entity α × Fate)} {entity : Entity α}
    (member : entity ∈ alive stepped) : (entity, .alive) ∈ stepped := by
  obtain ⟨⟨other, fate⟩, otherAt, found⟩ := List.mem_filterMap.1 member
  cases fate with
  | alive =>
    cases found
    exact otherAt
  | expired => cases found

/-- What every layer keeps in an update. -/
structure Advanced (layer : Layer α) (low high : Nat) (result : Layer α) : Prop where
  spec_eq : result.spec = layer.spec
  homogeneous : result.Homogeneous
  low_le : low ≤ high
  issued : result.IssuedBelow high

/-- A layer that advances keeps its theme's part and its kind, and hands out identities from the
next one on (`Advanced`). -/
theorem Advances.advanced {result : Layer α} {dropped : Nat}
    (advances : Advances layer tick nursery after result dropped)
    (homogeneous : layer.Homogeneous) (issued : layer.IssuedBelow nursery.nextId) :
    Advanced layer nursery.nextId after.nextId result := by
  cases advances with
  | @transient rate cap stepped source born missing _ stepRun fillRun =>
    have left := of_stepsTo homogeneous issued (of_stepAll stepRun)
    have filled := Nursery.of_fill fillRun
    have low : nursery.nextId ≤ after.nextId := filled.nextId_le
    have origin : ∀ entity ∈ newest (alive stepped ++ born) cap,
        (entity, .alive) ∈ stepped ∨ entity ∈ born := by
      intro entity member
      rcases List.mem_append.1 (List.mem_of_mem_drop member) with member | member
      · exact .inl (mem_of_mem_alive member)
      · exact .inr member
    refine ⟨rfl, ?_, low, ?_⟩
    · intro entity member
      rcases origin entity member with member | member
      · exact (left _ member).1
      · exact filled.kinds entity member
    · intro entity member
      rcases origin entity member with member | member
      · exact Nat.lt_of_lt_of_le (left _ member).2.1 low
      · exact (filled.issued entity member).2
  | lasting _ stepRun renewRun =>
    have left := of_stepsTo homogeneous issued (of_stepAll stepRun)
    obtain ⟨low, renewed⟩ := of_renew renewRun fun outcome member => (left outcome member).2.2
    refine ⟨rfl, ?_, low, ?_⟩
    · intro entity member
      obtain ⟨outcome, outcomeAt, renewal⟩ := exists_mem_of_forall₂ renewed entity member
      cases renewal with
      | kept => exact (left _ outcomeAt).1
      | replaced same => exact same
    · intro entity member
      obtain ⟨outcome, outcomeAt, renewal⟩ := exists_mem_of_forall₂ renewed entity member
      cases renewal with
      | kept => exact Nat.lt_of_lt_of_le (left _ outcomeAt).2.1 low
      | replaced _ _ below => exact below

/-! ## All layers of a scene -/

variable {layers : List (Layer α)} {advanced : List (Layer α × Nat)}

/-- All layers of a scene are `Advanced` within the identities that the update hands out. -/
theorem of_advanceAll (run : Runs (advanceAll tick layers) nursery advanced after)
    (homogeneous : ∀ layer ∈ layers, layer.Homogeneous)
    (issued : ∀ layer ∈ layers, layer.IssuedBelow nursery.nextId) :
    nursery.nextId ≤ after.nextId ∧
      List.Forall₂ (fun layer result => Advanced layer nursery.nextId after.nextId result) layers
        (advanced.map Prod.fst) := by
  induction layers generalizing nursery advanced with
  | nil =>
    obtain ⟨rfl, rfl⟩ := Runs.of_pure run
    exact ⟨Nat.le_refl _, .nil⟩
  | cons layer later ih =>
    obtain ⟨first, middle, firstRun, run⟩ := Runs.of_bind run
    obtain ⟨rest, _, restRun, run⟩ := Runs.of_bind run
    obtain ⟨rfl, rfl⟩ := Runs.of_pure run
    have head := (of_advance firstRun).advanced (homogeneous layer List.mem_cons_self)
      (issued layer List.mem_cons_self)
    obtain ⟨restLe, restAdvanced⟩ := ih restRun
      (fun layer member => homogeneous layer (List.mem_cons_of_mem _ member))
      (fun layer member entity entityAt =>
        Nat.lt_of_lt_of_le (issued layer (List.mem_cons_of_mem _ member) entity entityAt)
          head.low_le)
    have low := Nat.le_trans head.low_le restLe
    refine ⟨low, .cons ?_ ?_⟩
    · exact ⟨head.spec_eq, head.homogeneous, low, fun entity member =>
        Nat.lt_of_lt_of_le (head.issued entity member) restLe⟩
    · exact restAdvanced.imp fun _ _ advanced =>
        ⟨advanced.spec_eq, advanced.homogeneous, low, advanced.issued⟩

/-- Each layer advances in the nursery that the layers before it leave. -/
theorem advanceAll_at (run : Runs (advanceAll tick layers) nursery advanced after) {k : Nat}
    (found : layers[k]? = some layer) :
    ∃ firsts middle result next,
      Runs (advanceAll tick (layers.take k)) nursery firsts middle ∧
      Runs (layer.advance tick) middle result next ∧ advanced[k]? = some result := by
  induction layers generalizing nursery advanced k with
  | nil => cases found
  | cons head later ih =>
    obtain ⟨first, middle, firstRun, run⟩ := Runs.of_bind run
    obtain ⟨rest, _, restRun, run⟩ := Runs.of_bind run
    obtain ⟨rfl, rfl⟩ := Runs.of_pure run
    cases k with
    | zero =>
      cases found
      exact ⟨[], nursery, first, middle, rfl, firstRun, rfl⟩
    | succ k =>
      obtain ⟨firsts, start, result, next, firstsRun, layerRun, resultAt⟩ := ih restRun found
      exact ⟨first :: firsts, start, result, next, .bind firstRun (.bind firstsRun rfl), layerRun,
        resultAt⟩

end Layer

end Ambience
