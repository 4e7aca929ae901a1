import Mathlib.Algebra.Order.Floor.Ring
import Ambience.Proofs.Engine.Zones
import Ambience.Proofs.Profiles
import Ambience.Proofs.Random.Ranges
import Ambience.Proofs.Scalar.Rounding

/-!
# The terrain of a scene

The last ridge of a layer leaves its profile in the geometry, and no birth of another kind touches
it. In a desert the ridges are built before the cacti, so that these are placed on the profile of the
front ridge; the ridges are never renewed and the cacti rest, so that they stand on it for as long as
the scene lasts.
-/

namespace Ambience

variable {α σ : Type}

section Ridges

variable [Scalar α]

/-- What a geometry says about the ground. -/
def Geometry.terrain (geometry : Geometry α) : Array α × α :=
  (geometry.horizon, geometry.horizonStep)

/-- The ground only depends on the `terrain`. -/
theorem Geometry.groundAt_congr {geometry geometry' : Geometry α}
    (same : geometry'.terrain = geometry.terrain) (x : α) :
    geometry'.groundAt x = geometry.groundAt x := by
  obtain ⟨horizon, step⟩ := Prod.mk.inj same
  rw [groundAt, groundAt, horizon, step]

/-- A ridge whose profile is the terrain of a view. -/
structure Ridge.Fronts (bounds : Bounds α) (geometry : Geometry α) (r : Ridge α) : Prop where
  horizon : geometry.horizon = r.profile
  step : geometry.horizonStep = sampleSpacing
  size : geometry.horizon.size = sampleCount bounds.width
  /-- The samples are counted in a machine word. -/
  countable : sampleCount bounds.width ≤ Scalar.maxCount

/-- A ridge stays in front as long as its profile and the `terrain` do not change. -/
theorem Ridge.Fronts.congr {bounds : Bounds α} {geometry geometry' : Geometry α} {r r' : Ridge α}
    (fronts : r.Fronts bounds geometry) (same : geometry'.terrain = geometry.terrain)
    (profile : r'.profile = r.profile) : r'.Fronts bounds geometry' := by
  obtain ⟨horizon, step⟩ := Prod.mk.inj same
  refine ⟨?_, step.trans fronts.step, ?_, fronts.countable⟩
  · rw [horizon, profile]
    exact fronts.horizon
  · rw [horizon]
    exact fronts.size

/-- A cactus that stands inside a view, on the ground. -/
structure Cactus.Stands (bounds : Bounds α) (geometry : Geometry α) (c : Cactus α) : Prop where
  left : inset ≤ c.x
  right : c.x ≤ bounds.width - inset
  foot : ∃ ground, geometry.groundAt c.x = some ground ∧ c.base = ground + depth

/-- A cactus stands as long as the `terrain` does not change. -/
theorem Cactus.Stands.congr {bounds : Bounds α} {geometry geometry' : Geometry α} {c : Cactus α}
    (stands : c.Stands bounds geometry) (same : geometry'.terrain = geometry.terrain) :
    c.Stands bounds geometry' := by
  refine ⟨stands.left, stands.right, ?_⟩
  rw [Geometry.groundAt_congr same]
  exact stands.foot

/-- A scene whose first layer has the terrain in front, and whose cacti stand on it. -/
structure Scene.Grounded (scene : Scene α) : Prop where
  front :
    ∃ layer id r, scene.layers[0]? = some layer ∧ layer.spec.kind = .ridge ∧
      layer.entities.getLast? = some ⟨id, .ridge r⟩ ∧ r.Fronts scene.bounds scene.geometry
  stands :
    ∀ id c, ⟨id, .cactus c⟩ ∈ scene.placed → c.Stands scene.bounds scene.geometry

omit [Scalar α] in
theorem Body.Stays.ridge_eq {r : Ridge α} {body : Body α} (stays : (Body.ridge r).Stays body) :
    ∃ r' : Ridge α, body = .ridge r' ∧ r'.profile = r.profile := by
  cases stays
  exact ⟨_, rfl, rfl⟩

variable [Words σ] [Units σ α]

/-! ## Births -/

/-- Only a ridge can become the terrain. -/
theorem Kind.terrain_of_spawn {kind : Kind} {site : Site α} {geometry geometry' : Geometry α}
    {source after : σ} {body : Option (Body α)} (flat : kind ≠ .ridge)
    (run : Runs (kind.spawn site geometry) source (body, geometry') after) :
    geometry'.terrain = geometry.terrain := by
  cases kind with
  | ridge => exact (flat rfl).elim
  | stone | cactus =>
    obtain ⟨born, _, _, run⟩ := Runs.of_bind run
    cases born with
    | none | some =>
      cases (Runs.of_pure run).1
      rfl
  | _ =>
    obtain ⟨_, _, _, run⟩ := Runs.of_bind run
    cases (Runs.of_pure run).1
    rfl

namespace Nursery

variable {nursery after : Nursery α σ}

/-- Births of other kinds leave the terrain alone. -/
theorem law_level :
    Law (· ≠ .ridge)
      (fun (nursery : Nursery α σ) _ after => after.geometry.terrain = nursery.geometry.terrain) :=
  law_view Geometry.terrain Kind.terrain_of_spawn

/-- A ridge is always born, and the one of the last slot is the terrain (`Ridge.Fronts`). -/
theorem of_bear_ridge {site : Site α} {born : Option (Entity α)}
    (run : Runs (bear .ridge site) nursery born after) :
    ∃ r : Ridge α, born = some ⟨nursery.nextId, .ridge r⟩ ∧
      (site.slot + 1 = site.population → r.Fronts site.bounds after.geometry) := by
  obtain ⟨⟨⟨body, geometry⟩, source⟩, spawnRun, run⟩ := of_bind_eq_ok run
  obtain ⟨⟨r, published⟩, _, ridgeRun, spawnRun⟩ := Runs.of_bind spawnRun
  cases (Runs.of_pure spawnRun).1
  cases of_pure_eq_ok run
  refine ⟨r, rfl, fun last => ?_⟩
  obtain ⟨countable, profile, rfl⟩ := Ridge.of_spawn ridgeRun
  rw [if_pos last]
  refine ⟨rfl, rfl, ?_, countable⟩
  rw [profile]
  exact Array.size_ofFn

/-- The last of some ridges is the terrain. -/
theorem of_fill_ridge {spec : LayerSpec α} {bounds : Bounds α} {wind : α} {origin : Origin}
    {population remaining slot : Nat} {filled : List (Entity α) × List Nat}
    (run : Runs (fill .ridge (Layer.site spec bounds wind origin population) (remaining + 1) slot)
      nursery filled after)
    (last : slot + remaining + 1 = population) :
    ∃ id r, filled.1.getLast? = some ⟨id, .ridge r⟩ ∧ r.Fronts bounds after.geometry := by
  induction remaining generalizing nursery slot filled with
  | zero =>
    obtain ⟨born, middle, bearRun, run⟩ := Runs.of_bind run
    obtain ⟨later, _, fillRun, run⟩ := Runs.of_bind run
    obtain ⟨rfl, rfl⟩ := Runs.of_pure fillRun
    obtain ⟨r, rfl, fronts⟩ := of_bear_ridge bearRun
    obtain ⟨rfl, rfl⟩ := Runs.of_pure run
    exact ⟨_, r, rfl, fronts last⟩
  | succ remaining ih =>
    -- An earlier ridge only shifts the slot, and the ridges after it decide the terrain.
    obtain ⟨born, middle, bearRun, run⟩ := Runs.of_bind run
    obtain ⟨later, _, fillRun, run⟩ := Runs.of_bind run
    obtain ⟨_, rfl, -⟩ := of_bear_ridge bearRun
    obtain ⟨rfl, rfl⟩ := Runs.of_pure run
    obtain ⟨id, r, lastAt, fronts⟩ := ih fillRun (by omega)
    refine ⟨id, r, ?_, fronts⟩
    rw [List.getLast?_cons, lastAt]
    rfl

/-- A cactus is born with its foot in the ground under it. -/
theorem of_bear_cactus {kind : Kind} {site : Site α} {id : Nat} {c : Cactus α}
    (run : Runs (bear kind site) nursery (some ⟨id, .cactus c⟩) after) :
    c.base = Cactus.groundAt site nursery.geometry c.x + Cactus.depth ∧
      ∃ before middle : σ,
        Runs (Draw.span Cactus.inset (site.bounds.width - Cactus.inset)) before c.x middle := by
  obtain rfl : kind = .cactus := by
    cases of_bear run with
    | found same => exact same.symm
  obtain ⟨_, _, spawnRun, -, -⟩ := spawn_of_bear run
  obtain ⟨born, _, bornRun, spawnRun⟩ := Runs.of_bind spawnRun
  cases born with
  | none => cases (Runs.of_pure spawnRun).1
  | some pair =>
    cases (Runs.of_pure spawnRun).1
    obtain ⟨-, base, -, drawn⟩ := Cactus.of_spawn bornRun
    exact ⟨base, drawn⟩

end Nursery

/-! ## Updates -/

namespace Layer

variable {nursery after : Nursery α σ} {tick : Tick α} {layer result : Layer α} {dropped : Nat}

/-- The layer is no transient one of rooted bodies. -/
def Fixed (layer : Layer α) : Prop :=
  layer.spec.kind.isRooted = true → layer.spec.density.isTransient = false

/-- Ridges that last are never replaced, so that no layer changes the terrain in an update. -/
theorem Advances.terrain_eq (advances : Advances layer tick nursery after result dropped)
    (homogeneous : layer.Homogeneous) (fixed : layer.Fixed) :
    after.geometry.terrain = nursery.geometry.terrain := by
  by_cases ridge : layer.spec.kind = .ridge
  · have rooted : layer.spec.kind.isRooted = true := by
      rw [ridge]
      rfl
    rw [(advances.stays homogeneous (fixed rooted) rooted).2]
  · obtain ⟨_, _, _, _, bornRun, _⟩ := advances.turnover
    exact Nursery.law_level.births ridge bornRun

/-- The last ridge of a layer is the last one after an update, with the same profile. -/
theorem Advances.front_eq (advances : Advances layer tick nursery after result dropped)
    (homogeneous : layer.Homogeneous) (fixed : layer.Fixed) (ridge : layer.spec.kind = .ridge)
    {id : Nat} {r : Ridge α} (last : layer.entities.getLast? = some ⟨id, .ridge r⟩) :
    ∃ r' : Ridge α, result.entities.getLast? = some ⟨id, .ridge r'⟩ ∧ r'.profile = r.profile := by
  have rooted : layer.spec.kind.isRooted = true := by
    rw [ridge]
    rfl
  obtain ⟨stays, -⟩ := advances.stays homogeneous (fixed rooted) rooted
  rw [List.getLast?_eq_getElem?] at last ⊢
  obtain ⟨⟨id', body⟩, found, sameId, staysLast⟩ := getElem?_of_forall₂ stays last
  obtain ⟨r', rfl, profile⟩ := staysLast.ridge_eq
  cases sameId
  rw [stays.length_eq] at found
  exact ⟨r', found, profile⟩

end Layer

namespace Engine

variable {engine after : Engine α σ} {theme : Theme α} {scale : α} {events : List (Event α)}

/-- An update leaves the terrain alone. -/
theorem terrain_of_update {seconds : α}
    (homogeneous : ∀ layer ∈ engine.scene.layers, layer.Homogeneous)
    (fixed : ∀ layer ∈ engine.scene.layers, layer.Fixed)
    (run : engine.update seconds = .ok (after, events)) :
    after.scene.geometry.terrain = engine.scene.geometry.terrain :=
  view_of_update Geometry.terrain (fun layer member _ _ _ _ _ advances =>
    advances.terrain_eq (homogeneous layer member) (fixed layer member)) run

/-- What stands on the terrain stands on it after an update (`Scene.Grounded`). -/
theorem grounded_of_update {seconds : α}
    (homogeneous : ∀ layer ∈ engine.scene.layers, layer.Homogeneous)
    (issued : engine.IssuedBelow engine.scene.nextId)
    (fixed : ∀ layer ∈ engine.scene.layers, layer.Fixed) (grounded : engine.scene.Grounded)
    (run : engine.update seconds = .ok (after, events)) : after.scene.Grounded := by
  have bounds := bounds_of_update run
  have terrain := terrain_of_update homogeneous fixed run
  constructor
  · obtain ⟨layer, id, r, found, ridge, last, fronts⟩ := grounded.front
    have member := List.mem_of_getElem? found
    obtain ⟨_, _, _, _, _, layer', _, _, _, _, issuedLater, advances, found'⟩ :=
      advances_of_update homogeneous issued run found
    have kept := advances.advanced (homogeneous layer member) issuedLater
    obtain ⟨r', last', profile⟩ :=
      advances.front_eq (homogeneous layer member) (fixed layer member) ridge last
    rw [← kept.spec_eq] at ridge
    rw [bounds]
    exact ⟨layer', id, r', found', ridge, last', fronts.congr terrain profile⟩
  · intro id c member
    have settled : ∀ layer ∈ engine.scene.layers, layer.Settled :=
      fun layer layerAt placed => fixed layer layerAt (Kind.isRooted_of_isPlaced placed)
    rw [(rests_of_update homogeneous issued settled run).1] at member
    rw [bounds]
    exact (grounded.stands id c member).congr terrain

end Engine

end Ridges

/-! ## Exact terrain -/

section Exact

variable [ExactScalar α]

theorem Bounds.width_nonneg (width height : α) : 0 ≤ (Bounds.of width height).width := by
  show 0 ≤ Bounds.restrict width
  rw [ExactScalar.restrict_eq]
  exact le_max_right width 0

theorem Bounds.height_nonneg (width height : α) : 0 ≤ (Bounds.of width height).height := by
  show 0 ≤ Bounds.restrict height
  rw [ExactScalar.restrict_eq]
  exact le_max_right height 0

theorem Ridge.sampleSpacing_eq : (sampleSpacing : α) = 8 := by
  rw [sampleSpacing, ExactScalar.literal_eq]
  norm_num

theorem Cactus.inset_eq : (inset : α) = 12 := by
  rw [inset, ExactScalar.literal_eq]
  norm_num

theorem Cactus.depth_eq : (depth : α) = 2 := by
  rw [depth, ExactScalar.literal_eq]
  norm_num

/-- There is ground everywhere on a front ridge. -/
theorem Ridge.Fronts.exists_groundAt {bounds : Bounds α} {geometry : Geometry α} {r : Ridge α}
    (fronts : r.Fronts bounds geometry) (x : α) : ∃ ground, geometry.groundAt x = some ground := by
  have samples : 0 < geometry.horizon.size := by
    rw [fronts.size]
    exact Nat.succ_pos _
  have step : ¬geometry.horizonStep ≤ Scalar.toOfScientific.ofScientific 0 true 1 := by
    rw [fronts.step, sampleSpacing_eq, ExactScalar.zero_literal]
    norm_num
  exact ⟨_, Geometry.groundAt_eq samples step x⟩

/-- A cactus of a view that has room for it stands on the front ridge, away from both sides. -/
theorem Cactus.stands_of_bear [Words σ] [Units σ α] [UnitRange σ α] {kind : Kind} {site : Site α}
    {nursery after : Nursery α σ} {id : Nat} {c : Cactus α} {r : Ridge α}
    (wide : 24 < site.bounds.width) (fronts : r.Fronts site.bounds nursery.geometry)
    (run : Runs (Nursery.bear kind site) nursery (some ⟨id, .cactus c⟩) after) :
    c.Stands site.bounds nursery.geometry := by
  obtain ⟨base, _, _, drawn⟩ := Nursery.of_bear_cactus run
  have room : inset < site.bounds.width - inset := by
    rw [inset_eq]
    linarith
  obtain ⟨left, right⟩ := Draw.of_span room drawn
  obtain ⟨ground, foot⟩ := fronts.exists_groundAt c.x
  refine ⟨left, right.le, ground, foot, ?_⟩
  rw [base, groundAt, foot, Option.getD_some]

variable [FloorRing α] [ExactRounding α]

/-- The front ridge has a sample for every eight pixels of the view and two beyond them. -/
theorem Ridge.Fronts.size_eq {bounds : Bounds α} {geometry : Geometry α} {r : Ridge α}
    (fronts : r.Fronts bounds geometry) (nonneg : 0 ≤ bounds.width) :
    (geometry.horizon.size : Int) = ⌈bounds.width / 8⌉ + 2 := by
  have countable := fronts.countable
  rw [fronts.size]
  unfold sampleCount at countable ⊢
  rw [sampleSpacing_eq] at countable ⊢
  have exact := ExactRounding.count_ceil_eq (div_nonneg nonneg (by norm_num : (0 : α) ≤ 8))
    (by omega)
  push_cast
  rw [exact]

/-- A measure that holds a body holds its share of the measure. -/
theorem Density.le_of_lt_scaled {scale measure divisor : α} {slot : Nat} (positive : 0 < divisor)
    (some : slot < scaled scale measure divisor 0) : divisor ≤ measure * scale := by
  have counted : 0 < Scalar.count (Scalar.floor (measure / divisor * scale)) := by
    unfold scaled at some
    split at some <;> omega
  have share := ExactRounding.one_le_of_count_floor counted
  rw [div_mul_eq_mul_div, one_le_div positive] at share
  exact share

variable [Words σ] [Units σ α] [UnitRange σ α]

/-- The layers that are built after the ridges of a desert leave the terrain alone, and their cacti
stand on it (`Cactus.Stands`): a view that holds a cactus has room for it between its sides. -/
theorem Layer.stands_of_buildAll {nursery after : Nursery α σ} {width height wind scale : α}
    {built : List (Layer α × List Nat)} {r : Ridge α} (small : scale ≤ 2)
    (fronts : r.Fronts (Bounds.of width height) nursery.geometry)
    (run : Runs (buildAll (Bounds.of width height) wind scale Theme.dunes.layers.tail) nursery
      built after) :
    after.geometry.terrain = nursery.geometry.terrain ∧
      ∀ layer ∈ built.map Prod.fst, ∀ entity ∈ layer.entities, ∀ id c,
        entity = ⟨id, .cactus c⟩ → c.Stands (Bounds.of width height) nursery.geometry := by
  refine of_buildAll_each (fun later => later.geometry.terrain = nursery.geometry.terrain)
    (fun entity => ∀ id c, entity = ⟨id, .cactus c⟩ →
      c.Stands (Bounds.of width height) nursery.geometry) run rfl ?_
  intro spec member slot before next born places level bearRun
  rcases List.mem_cons.1 member with rfl | member
  · have flat : next.geometry.terrain = before.geometry.terrain :=
      Nursery.law_level.bear Kind.noConfusion bearRun
    refine ⟨flat.trans level, ?_⟩
    rintro _ rfl id c rfl
    -- At the largest scale a cactus takes half of its share of the width, which is wide enough.
    have wide : 24 < (Bounds.of width height).width := by
      have nonneg := Bounds.width_nonneg width height
      have share := Density.le_of_lt_scaled (by rw [ExactScalar.literal_eq]; norm_num) places
      rw [ExactScalar.literal_eq] at share
      norm_num at share
      have twice : (Bounds.of width height).width * scale ≤ (Bounds.of width height).width * 2 :=
        mul_le_mul_of_nonneg_left small nonneg
      linarith
    exact (Cactus.stands_of_bear wide (fronts.congr level rfl) bearRun).congr level.symm
  · -- A transient layer starts without a body.
    obtain rfl := List.mem_singleton.1 member
    cases places

namespace Engine

variable {engine after : Engine α σ} {scale : α} {events : List (Event α)}

/-- A new desert is `Grounded`: its ridges are built before its cacti. -/
theorem grounded_of_rebuild {width height : α} (dunes : engine.theme = Theme.dunes)
    (small : engine.scale ≤ 2) (run : engine.rebuild width height = .ok (after, events)) :
    after.scene.Grounded := by
  have homogeneous := (populated_of_rebuild run).1.homogeneous
  obtain ⟨nursery, ended, built, -, buildRun, rfl⟩ := of_rebuild run
  rw [dunes] at buildRun
  obtain ⟨ridges, middle, ridgesRun, buildRun⟩ := Runs.of_bind buildRun
  obtain ⟨later, _, laterRun, buildRun⟩ := Runs.of_bind buildRun
  obtain ⟨rfl, rfl⟩ := Runs.of_pure buildRun
  obtain ⟨filled, _, fillRun, ridgesRun⟩ := Runs.of_bind ridgesRun
  obtain ⟨rfl, rfl⟩ := Runs.of_pure ridgesRun
  obtain ⟨id, r, last, fronts⟩ := Nursery.of_fill_ridge fillRun rfl
  obtain ⟨level, stands⟩ := Layer.stands_of_buildAll small fronts laterRun
  constructor
  · exact ⟨_, id, r, rfl, rfl, last, fronts.congr level rfl⟩
  · intro id c member
    obtain ⟨layer, layerAt, member⟩ := List.mem_flatMap.1 member
    have entityAt := List.mem_of_mem_filter member
    rcases List.mem_cons.1 layerAt with rfl | layerAt'
    · cases homogeneous _ layerAt _ entityAt
    · exact (stands layer layerAt' _ entityAt id c rfl).congr level

/-- A desert is `Grounded` at any time of its life. -/
theorem Lived.grounded {seed : UInt64} {width height : α} {past : List (Engine α σ)}
    (lived : Lived Theme.dunes scale seed width height past engine) : engine.scene.Grounded := by
  have small : Scalar.clamp scale (Scalar.toOfScientific.ofScientific 5 true 1)
      (Scalar.toOfScientific.ofScientific 20 true 1) ≤ 2 := by
    refine (ExactScalar.clamp_le _ _ _).trans ?_
    rw [ExactScalar.literal_eq]
    norm_num
  induction lived with
  | started run => exact grounded_of_rebuild rfl small run
  | rebuilt lived run =>
    have sound := lived.sound
    refine grounded_of_rebuild sound.theme_eq ?_ run
    rw [sound.scale_eq]
    exact small
  | updated lived run ih =>
    have sound := lived.sound
    exact grounded_of_update sound.populated.homogeneous (sound.issued _ List.mem_cons_self)
      (sound.populated.forall_spec (lasts_of_all rfl)) ih run

/-- Cacti stand on the front ridge. The terrain of a desert is the profile of the last ridge, with a
sample for every eight pixels of the view and two beyond them. Every cactus stands twelve pixels or
more from the sides of the view, two pixels deep in the ground that this terrain has there
(`groundAt`). -/
theorem grounded_of_lived {seed : UInt64} {width height : α} {past : List (Engine α σ)}
    (lived : Lived Theme.dunes scale seed width height past engine) :
    engine.scene.bounds = Bounds.of width height ∧
      (∃ layer id r, engine.scene.layers[0]? = some layer ∧ layer.spec.kind = .ridge ∧
        layer.entities.getLast? = some ⟨id, .ridge r⟩ ∧
        engine.scene.geometry.horizon = r.profile) ∧
      (engine.scene.geometry.horizon.size : Int) = ⌈engine.scene.bounds.width / 8⌉ + 2 ∧
      engine.scene.geometry.horizonStep = 8 ∧
      ∀ id c, ⟨id, .cactus c⟩ ∈ engine.scene.entities →
        12 ≤ c.x ∧ c.x ≤ engine.scene.bounds.width - 12 ∧
        ∃ ground, engine.scene.geometry.groundAt c.x = some ground ∧ c.base = ground + 2 := by
  have grounded := lived.grounded
  have bounds := lived.sound.populated.bounds_eq
  obtain ⟨layer, id, r, found, ridge, last, fronts⟩ := grounded.front
  refine ⟨bounds, ⟨layer, id, r, found, ridge, last, fronts.horizon⟩, ?_, ?_, ?_⟩
  · refine fronts.size_eq ?_
    rw [bounds]
    exact Bounds.width_nonneg width height
  · exact fronts.step.trans Ridge.sampleSpacing_eq
  · intro id c member
    obtain ⟨left, right, foot⟩ := grounded.stands id c (Scene.mem_placed.2 ⟨member, rfl⟩)
    rw [Cactus.inset_eq] at left right
    rw [Cactus.depth_eq] at foot
    exact ⟨left, right, foot⟩

/-- A small desert at its start and a tenth of a second later. -/
def smallDesert : Except Fault (Engine ℚ Random.Stream × Engine ℚ Random.Stream) := do
  let (engine, _) ← start Theme.dunes 2 3 120 60
  let (later, _) ← engine.update 0.1
  return (engine, later)

/-- The one cactus of a small desert stands on the terrain, which has a sample for each of fifteen
steps and two beyond them. -/
theorem grounded_of_smallDesert :
    ∃ (engine later : Engine ℚ Random.Stream) (c : Cactus ℚ),
      Lived Theme.dunes 2 3 120 60 [engine] later ∧ ⟨4, .cactus c⟩ ∈ later.scene.entities ∧
      later.scene.geometry.horizon.size = 17 ∧ later.scene.geometry.horizonStep = 8 ∧
      12 ≤ c.x ∧ c.x ≤ 108 ∧
      ∃ ground, later.scene.geometry.groundAt c.x = some ground ∧ c.base = ground + 2 := by
  have ends : smallDesert.toOption.any (fun ⟨_, later⟩ =>
      later.scene.entities.map (fun entity => (entity.id, entity.body.kind)) ==
        [(1, .ridge), (2, .ridge), (3, .ridge), (4, .cactus), (5, .grain), (6, .grain),
          (7, .grain)]) = true := by
    decide +kernel
  obtain ⟨⟨engine, later⟩, run, checked⟩ := of_any_toOption ends
  obtain ⟨⟨_, _⟩, startRun, run⟩ := of_bind_eq_ok run
  obtain ⟨⟨_, _⟩, updateRun, run⟩ := of_bind_eq_ok run
  cases of_pure_eq_ok run
  rw [beq_iff_eq] at checked
  have lived : Lived Theme.dunes 2 3 120 60 [engine] later :=
    (Lived.started startRun).updated updateRun
  obtain ⟨bounds, -, size, step, stands⟩ := grounded_of_lived lived
  have width : later.scene.bounds.width = 120 := by
    rw [bounds]
    exact ExactScalar.restrict_of_nonneg (by norm_num)
  obtain ⟨_, member, kind⟩ := Scene.exists_of_kinds checked 4 .cactus (by decide)
  obtain ⟨c, rfl⟩ := Body.exists_cactus kind
  obtain ⟨left, right, foot⟩ := stands 4 c member
  rw [width] at size right
  norm_num at size right
  refine ⟨engine, later, c, lived, member, ?_, step, left, right, foot⟩
  exact_mod_cast size

end Engine

end Exact

end Ambience
