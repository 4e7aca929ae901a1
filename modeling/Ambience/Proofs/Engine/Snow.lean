import Mathlib.Tactic.Linarith
import Ambience.Proofs.Engine.Standstill

/-!
# Snow

A flake falls and never rises, and sideways it is wrapped into a band around the view that no update
carries it across. So it leaves the scene at the bottom and nowhere else. A view without a width has no
place for a flake, and in it none has to be wrapped.
-/

namespace Ambience

variable {α σ : Type} [ExactScalar α]

/-! ## One flake -/

namespace Flake

variable {f : Flake α} {bounds : Bounds α} {tick : Tick α}

/-- A flake that is not above the top margin, and that does not rise. -/
structure Falls (f : Flake α) : Prop where
  z_nonneg : 0 ≤ f.z
  speed_nonneg : 0 ≤ f.speed
  top : -12 ≤ f.y

theorem speed_nonneg_of_spawn [Units σ α] [UnitRange σ α] {site : Site α} {source after : σ}
    (run : Runs (spawn site) source f after) : 0 ≤ f.speed := by
  unfold spawn at run
  extract_lets rest at run
  have of_rest : ∀ {y : α} {source : σ}, Runs (rest y) source f after → 0 ≤ f.speed := by
    intro y source run
    obtain ⟨x, _, _, run⟩ := Runs.of_bind run
    obtain ⟨z, _, _, run⟩ := Runs.of_bind run
    obtain ⟨speed, _, speedRun, run⟩ := Runs.of_bind run
    obtain ⟨size, _, _, run⟩ := Runs.of_bind run
    obtain ⟨opacity, _, _, run⟩ := Runs.of_bind run
    obtain ⟨sway, _, _, run⟩ := Runs.of_bind run
    cases (Runs.of_pure run).1
    obtain ⟨slow, -⟩ := Draw.of_uniform speedRun
    norm_num [ExactScalar.literal_eq] at slow
    linarith
  split at run
  · obtain ⟨y, _, _, run⟩ := Runs.of_bind run
    exact of_rest run
  · obtain ⟨above, _, _, run⟩ := Runs.of_bind run
    obtain ⟨y, _, _, run⟩ := Runs.of_bind run
    exact of_rest run

/-- A flake is born with a speed that takes it down. -/
theorem falls_of_spawn [Units σ α] [UnitRange σ α] {site : Site α} {source after : σ}
    (wide : 0 ≤ site.bounds.width) (high : 0 ≤ site.bounds.height)
    (run : Runs (spawn site) source f after) : f.Falls := by
  have newborn := newborn_of_spawn wide high run
  exact ⟨newborn.z_mem.1, speed_nonneg_of_spawn run, newborn.within.2.2.1⟩

/-- A step of some time leaves a flake that `Falls` falling, and no higher than it was. -/
theorem Falls.step (falls : f.Falls) (forward : 0 ≤ tick.step) : (f.step tick).1.Falls := by
  have speed : 0 ≤ Motion.parallaxSpeed f.speed f.z := by
    refine mul_nonneg falls.speed_nonneg ?_
    norm_num [ExactScalar.literal_eq]
    linarith [falls.z_nonneg]
  exact ⟨falls.z_nonneg, falls.speed_nonneg,
    falls.top.trans (le_add_of_nonneg_right (mul_nonneg speed forward))⟩

/-- A flake in the band that flakes are wrapped into, and not above the top margin. -/
structure InBand (bounds : Bounds α) (f : Flake α) : Prop where
  left : -12 ≤ f.x
  right : f.x ≤ bounds.width + 12
  top : -12 ≤ f.y

/-- No test of a flake in its band (`InBand`) is ever met, save that it has fallen out at the
bottom. -/
theorem InBand.isGone_iff (inBand : f.InBand bounds) :
    ((Body.flake f).isGone bounds = true ↔ bounds.height + 12 < f.y) ∧
      ¬f.x < -(margin * 4.0) ∧ ¬bounds.width + margin * 4.0 < f.x ∧ ¬f.y < -(margin * 4.0) := by
  obtain ⟨left, right, top⟩ := inBand
  have inner : (margin : α) = 12 := by norm_num [margin, ExactScalar.literal_eq]
  have outer : (12 : α) * 4.0 = 48 := by norm_num [ExactScalar.literal_eq]
  simp only [Body.isGone, Motion.isOutside, inner, outer, Bool.or_eq_true, decide_eq_true_eq]
  refine ⟨⟨?_, .inl⟩, by linarith, by linarith, by linarith⟩
  rintro (low | ((past | past) | above) | below)
  · exact low
  · linarith
  · linarith
  · linarith
  · linarith

end Flake

/-- What a step leaves is a flake only if it was one. -/
theorem Body.of_step_flake [Words σ] [Units σ α] {body : Body α} {f : Flake α} {tick : Tick α}
    {source source' : σ} {fate : Fate}
    (run : Runs (body.step tick) source (.flake f, fate) source') :
    ∃ former, body = .flake former ∧ f = (former.step tick).1 := by
  have same := (Body.of_step run).1
  cases body with
  | flake former =>
    cases (Runs.of_pure run).1
    exact ⟨former, rfl, rfl⟩
  | _ => cases same

/-- A flake stays in its band in an update that is not too rough (`Tick.Mild`). -/
theorem Body.inBand_of_step [Words σ] [Units σ α] [ExactWaves α] {f : Flake α} {after : Body α}
    {tick : Tick α} {source source' : σ} {fate : Fate} (mild : tick.Mild)
    (wide : 0 < tick.bounds.width) (orderly : (Body.flake f).Orderly tick.bounds) (falls : f.Falls)
    (run : Runs ((Body.flake f).step tick) source (after, fate) source') :
    ∃ f', after = .flake f' ∧ f'.InBand tick.bounds := by
  have orderlyAfter := orderly_of_step mild orderly run
  cases (Runs.of_pure run).1
  obtain ⟨left, right⟩ := orderlyAfter.x_mem wide
  exact ⟨_, rfl, left, right, (falls.step mild.step_mem.1).top⟩

/-- Whatever kind is born, a flake that comes of it `Falls`. -/
theorem Kind.falls_of_spawn [Words σ] [Units σ α] [UnitRange σ α] {kind : Kind} {site : Site α}
    {geometry geometry' : Geometry α} {source after : σ} {f : Flake α}
    (wide : 0 ≤ site.bounds.width) (high : 0 ≤ site.bounds.height)
    (run : Runs (kind.spawn site geometry) source (some (.flake f), geometry') after) : f.Falls := by
  cases of_spawn run with
  | found same =>
    cases same
    obtain ⟨record, bornRun, same⟩ := of_free run
    cases same
    exact Flake.falls_of_spawn wide high bornRun

/-! ## Lives -/

theorem Theme.gentle_snowfall : (Theme.snowfall : Theme α).Gentle :=
  gentle_of_mem_all (by simp only [all, List.mem_cons, true_or])

/-- Steps that can be taken one by one can be taken in order. -/
theorem Layer.runs_stepAll [Units σ α] {tick : Tick α} {entities : List (Entity α)}
    (steps : ∀ entity ∈ entities, ∀ source : σ, ∃ outcome source',
      Runs (entity.body.step tick) source outcome source') (source : σ) :
    ∃ stepped source', Runs (stepAll tick entities) source stepped source' := by
  induction entities generalizing source with
  | nil => exact ⟨[], source, rfl⟩
  | cons entity later ih =>
    obtain ⟨outcome, middle, stepRun⟩ := steps entity List.mem_cons_self source
    obtain ⟨stepped, source', restRun⟩ :=
      ih (fun other member => steps other (List.mem_cons_of_mem _ member)) middle
    exact ⟨_, source', .bind stepRun (.bind restRun rfl)⟩

namespace Engine

variable [Words σ] [Units σ α] {theme : Theme α} {scale width height : α} {seed : UInt64}
  {engine after : Engine α σ} {past : List (Engine α σ)} {events : List (Event α)}

section Falling

variable [UnitRange σ α]

/-- The flakes of a scene fall, whatever its theme is. -/
theorem Lived.falls (lived : Lived theme scale seed width height past engine) :
    ∀ entity ∈ engine.scene.entities, ∀ f, entity.body = .flake f → f.Falls := by
  refine lived.each (fun body => ∀ f, body = .flake f → f.Falls) ?_ ?_
  · rintro kind site geometry geometry' source source' _ ⟨width, height, bounds⟩ run f rfl
    exact Kind.falls_of_spawn (bounds ▸ Bounds.width_nonneg width height)
      (bounds ▸ Bounds.height_nonneg width height) run
  · rintro body _ tick fate source source' ⟨seconds, step⟩ falls run f rfl
    obtain ⟨former, isFlake, rfl⟩ := Body.of_step_flake run
    exact (falls former isFlake).step (step ▸ (Motion.stepOf_mem seconds).1)

end Falling

/-! ## Snowfalls -/

/-- A scene of a snowfall has one layer, which is of flakes. -/
theorem Lived.layers_of_snowfall
    (lived : Lived Theme.snowfall scale seed width height past engine) :
    ∃ layer : Layer α, engine.scene.layers = [layer] ∧ layer.spec = ⟨.flake, 0, .area 15000.0 0⟩ ∧
      engine.scene.entities = layer.entities ∧
      ∀ entity ∈ layer.entities, ∃ f, entity.body = .flake f := by
  have populated := lived.sound.populated
  obtain ⟨layer, layers, spec⟩ := List.map_eq_singleton_iff.1 populated.specs
  refine ⟨layer, layers, spec, ?_, fun entity member => ?_⟩
  · rw [Scene.entities, layers, List.flatMap_singleton]
  · have kind := populated.homogeneous layer (layers ▸ List.mem_singleton_self layer) entity member
    rw [spec] at kind
    cases body : entity.body with
    | flake f => exact ⟨f, rfl⟩
    | _ =>
      rw [body] at kind
      cases kind

variable [FloorRing α] [ExactRounding α]

/-- A view that holds a flake has a width. -/
theorem Lived.wide_of_snowfall (lived : Lived Theme.snowfall scale seed width height past engine)
    {entity : Entity α} (member : entity ∈ engine.scene.entities) : 0 < engine.scene.bounds.width := by
  have populated := lived.sound.populated
  obtain ⟨layer, layers, spec, entities, -⟩ := lived.layers_of_snowfall
  have layerAt : layer ∈ engine.scene.layers := layers ▸ List.mem_singleton_self layer
  have length := populated.length_eq layer layerAt (by rw [spec]; rfl) (by rw [spec]; rfl)
  rw [spec] at length
  have some : 0 < layer.entities.length := List.length_pos_of_mem (entities ▸ member)
  rw [length] at some
  have share := Density.le_of_lt_scaled (by norm_num [ExactScalar.literal_eq]) some
  rw [populated.bounds_eq]
  refine lt_of_le_of_ne (Bounds.width_nonneg width height) fun empty => ?_
  rw [Bounds.area, ← empty, zero_mul, zero_mul] at share
  norm_num [ExactScalar.literal_eq] at share

variable [UnitRange σ α] [ExactWaves α]

/-- Every flake of a snowfall is in its band: falling, between both margins and not above the upper
one. -/
theorem Lived.inBand_of_snowfall (lived : Lived Theme.snowfall scale seed width height past engine)
    {entity : Entity α} (member : entity ∈ engine.scene.entities) {f : Flake α}
    (isFlake : entity.body = .flake f) : f.InBand engine.scene.bounds := by
  have orderly := (lived.whole Theme.gentle_snowfall).orderly entity member
  rw [isFlake] at orderly
  obtain ⟨left, right⟩ := orderly.x_mem (lived.wide_of_snowfall member)
  exact ⟨left, right, (lived.falls entity member f isFlake).top⟩

omit [FloorRing α] [ExactRounding α] [UnitRange σ α] [ExactWaves α] in
/-- Whatever the clock shows, every flake of a snowfall takes a step. -/
theorem Lived.outcomes_of_snowfall
    (lived : Lived Theme.snowfall scale seed width height past engine) (seconds : α) :
    ∃ stepped, engine.outcomes seconds 0 = .ok stepped ∧
      (stepped.map Prod.fst).map Entity.id = engine.scene.entities.map Entity.id := by
  obtain ⟨layer, layers, -, entities, flakes⟩ := lived.layers_of_snowfall
  have found : engine.scene.layers[0]? = some layer := by rw [layers]; rfl
  obtain ⟨tick, nursery, begins⟩ := engine.exists_outset seconds
  have steps : ∀ entity ∈ layer.entities, ∀ source : σ, ∃ outcome source',
      Runs (entity.body.step tick) source outcome source' := by
    intro entity member source
    obtain ⟨f, isFlake⟩ := flakes entity member
    rw [isFlake]
    exact ⟨_, source, rfl⟩
  obtain ⟨stepped, ended, stepRun⟩ := Layer.runs_stepAll steps nursery.source
  refine ⟨stepped, outcomes_eq begins found rfl stepRun, ?_⟩
  rw [entities]
  exact Layer.ids_of_steps ((Layer.of_stepAll stepRun).imp fun _ _ same => same.1)

/-- What a step leaves of a flake is a flake in the band. -/
theorem Lived.inBand_of_outcomes
    (lived : Lived Theme.snowfall scale seed width height past engine) {seconds : α}
    {stepped : List (Entity α × Fate)} (run : engine.outcomes seconds 0 = .ok stepped) :
    ∀ outcome ∈ stepped, ∃ f, outcome.1.body = .flake f ∧ f.InBand engine.scene.bounds ∧
      outcome.2 = .expiredIf ((Body.flake f).isGone engine.scene.bounds) := by
  obtain ⟨layer, layers, -, entities, flakes⟩ := lived.layers_of_snowfall
  have found : engine.scene.layers[0]? = some layer := by rw [layers]; rfl
  obtain ⟨tick, nursery, begins, steps⟩ := of_outcomes found run
  obtain ⟨mild, bounds⟩ :=
    mild_of_outset (lived.sound.theme_eq ▸ Theme.gentle_snowfall)
      (lived.calm Theme.gentle_snowfall) begins
  rintro ⟨entity, fate⟩ member
  obtain ⟨former, formerAt, -, source, source', stepRun⟩ := exists_mem_of_forall₂ steps _ member
  have inScene : former ∈ engine.scene.entities := entities ▸ formerAt
  have orderly := (lived.whole Theme.gentle_snowfall).orderly former inScene
  have wide := lived.wide_of_snowfall inScene
  obtain ⟨f, isFlake⟩ := flakes former formerAt
  rw [isFlake] at orderly stepRun
  rw [← bounds] at orderly wide ⊢
  obtain ⟨f', same, inBand⟩ :=
    Body.inBand_of_step mild wide orderly (lived.falls former inScene f isFlake) stepRun
  exact ⟨f', same, inBand, same ▸ Body.fate_of_step stepRun⟩

/-- Snow is wrapped sideways and recycled at the bottom. Over the life of a snowfall every flake is
at most 12 outside the left and the right side of the view and at most 12 above it. Every flake
takes a step in an update (`outcomes`), and it is gone after the step exactly if it is then more
than 12 below the view: the other tests, whether it is far to the left, far to the right or far
above, never hold. -/
theorem flakes_of_lived (lived : Lived Theme.snowfall scale seed width height past engine) :
    (∀ entity ∈ engine.scene.entities, ∃ f, entity.body = .flake f ∧
      -12 ≤ f.x ∧ f.x ≤ engine.scene.bounds.width + 12 ∧ -12 ≤ f.y) ∧
    ∀ seconds : α, ∃ stepped, engine.outcomes seconds 0 = .ok stepped ∧
      (stepped.map Prod.fst).map Entity.id = engine.scene.entities.map Entity.id ∧
      ∀ outcome ∈ stepped, ∃ f, outcome.1.body = .flake f ∧
        (outcome.2 = .expired ↔ engine.scene.bounds.height + 12 < f.y) ∧
        ¬f.x < -(Flake.margin * 4.0) ∧
        ¬engine.scene.bounds.width + Flake.margin * 4.0 < f.x ∧
        ¬f.y < -(Flake.margin * 4.0) := by
  constructor
  · intro entity member
    obtain ⟨layer, -, -, entities, flakes⟩ := lived.layers_of_snowfall
    obtain ⟨f, isFlake⟩ := flakes entity (entities ▸ member)
    have inBand := lived.inBand_of_snowfall member isFlake
    exact ⟨f, isFlake, inBand.left, inBand.right, inBand.top⟩
  · intro seconds
    obtain ⟨stepped, run, ids⟩ := lived.outcomes_of_snowfall seconds
    refine ⟨stepped, run, ids, fun outcome member => ?_⟩
    obtain ⟨f, isFlake, inBand, fate⟩ := lived.inBand_of_outcomes run outcome member
    obtain ⟨gone, inside⟩ := inBand.isGone_iff
    exact ⟨f, isFlake, fate ▸ Fate.expiredIf_eq_expired_iff.trans gone, inside⟩

/-- A snowfall over a view that is one high, at its start, a tenth of a second later and after
another. -/
def shallowSnow :
    Except Fault (Engine Clipped Random.Stream × Engine Clipped Random.Stream ×
      Engine Clipped Random.Stream) := do
  let (first, _) ← start Theme.snowfall 1 10 15000 1
  let (second, _) ← first.update 0.1
  let (third, _) ← second.update 0.1
  return (first, second, third)

/-- The only flake of a shallow snowfall is in the band after two updates, and the third takes it to
more than 13 below the top, where it is gone. -/
theorem flakes_of_shallowSnow :
    ∃ (first second third : Engine Clipped Random.Stream) (entity : Entity Clipped)
      (former f : Flake Clipped) (stepped : List (Entity Clipped × Fate))
      (outcome : Entity Clipped × Fate),
      Lived Theme.snowfall 1 10 15000 1 [second, first] third ∧
      entity ∈ third.scene.entities ∧ entity.body = .flake former ∧
      -12 ≤ former.x ∧ former.x ≤ third.scene.bounds.width + 12 ∧
      third.outcomes 0.1 0 = .ok stepped ∧ outcome ∈ stepped ∧ outcome.1.body = .flake f ∧
      outcome.2 = .expired ∧ third.scene.bounds.height + 12 < f.y := by
  have ends : shallowSnow.toOption.any (fun snow =>
      (snow.2.2.outcomes 0.1 0).toOption.any (List.any · fun outcome =>
        outcome.2 == .expired)) = true := by
    decide +kernel
  obtain ⟨⟨first, second, third⟩, run, checked⟩ := of_any_toOption ends
  obtain ⟨⟨_, _⟩, firstRun, run⟩ := of_bind_eq_ok run
  obtain ⟨⟨_, _⟩, secondRun, run⟩ := of_bind_eq_ok run
  obtain ⟨⟨_, _⟩, thirdRun, run⟩ := of_bind_eq_ok run
  cases of_pure_eq_ok run
  obtain ⟨stepped, steppedRun, checked⟩ := of_any_toOption checked
  obtain ⟨outcome, outcomeAt, checked⟩ := List.any_eq_true.1 checked
  have expired : outcome.2 = .expired := beq_iff_eq.1 checked
  have lived : Lived Theme.snowfall 1 10 15000 1 [second, first] third :=
    ((Lived.started firstRun).updated secondRun).updated thirdRun
  obtain ⟨band, onUpdate⟩ := flakes_of_lived lived
  obtain ⟨stepped', steppedRun', ids, each⟩ := onUpdate 0.1
  cases steppedRun'.symm.trans steppedRun
  obtain ⟨f, isFlake, gone, -⟩ := each outcome outcomeAt
  obtain ⟨entity, member, -⟩ : ∃ entity ∈ third.scene.entities, entity.id = outcome.1.id := by
    refine List.mem_map.1 (ids ▸ ?_)
    exact List.mem_map_of_mem (List.mem_map_of_mem outcomeAt)
  obtain ⟨former, wasFlake, left, right, -⟩ := band entity member
  exact ⟨first, second, third, entity, former, f, stepped, outcome, lived, member, wasFlake, left,
    right, steppedRun, outcomeAt, isFlake, expired, gone.1 expired⟩

end Engine

end Ambience
