import Ambience.Engine
import Ambience.Proofs.Runs
import Mathlib.Data.List.Forall2

/-!
# A new scene forgets the old one

A birth never looks at the identity that it hands out. Two nurseries that differ in their next
identities alone give the same bodies, and go on differing by as much. So of the scene that an engine
had, nothing is found in the one that it builds but where the identities go on from.
-/

namespace Ambience

variable {α σ β γ β' γ' : Type} {first first' : Nat}

/-! ## Other identities -/

/-- The same body, with an identity as far from `first'` as the other is from `first`. -/
structure Entity.Renumbered (first first' : Nat) (entity entity' : Entity α) : Prop where
  body_eq : entity'.body = entity.body
  id_add : entity'.id + first = entity.id + first'

/-- The same bodies in the same order, with other identities. -/
structure Layer.Renumbered (first first' : Nat) (layer layer' : Layer α) : Prop where
  spec_eq : layer'.spec = layer.spec
  emitter_eq : layer'.emitter = layer.emitter
  entities : List.Forall₂ (Entity.Renumbered first first') layer.entities layer'.entities

/-- The same scene with other identities. -/
structure Scene.Renumbered (first first' : Nat) (scene scene' : Scene α) : Prop where
  bounds_eq : scene'.bounds = scene.bounds
  time_eq : scene'.time = scene.time
  frame_eq : scene'.frame = scene.frame
  wind_eq : scene'.wind = scene.wind
  windTarget_eq : scene'.windTarget = scene.windTarget
  geometry_eq : scene'.geometry = scene.geometry
  layers : List.Forall₂ (Layer.Renumbered first first') scene.layers scene'.layers
  nextId_add : scene'.nextId + first = scene.nextId + first'

/-- The same engine with other identities in its scene. -/
structure Engine.Renumbered (first first' : Nat) (engine engine' : Engine α σ) : Prop where
  theme_eq : engine'.theme = engine.theme
  scale_eq : engine'.scale = engine.scale
  source_eq : engine'.source = engine.source
  scene : engine.scene.Renumbered first first' engine'.scene

/-- Nurseries that differ in their next identities alone. -/
structure Nursery.Renumbered (first first' : Nat) (nursery nursery' : Nursery α σ) : Prop where
  source_eq : nursery'.source = nursery.source
  geometry_eq : nursery'.geometry = nursery.geometry
  nextId_add : nursery'.nextId + first = nursery.nextId + first'

/-- What is alike for related items is the same for related lists. -/
theorem map_eq_of_forall₂ {δ : Type} {related : β → γ → Prop} {f : β → δ} {f' : γ → δ}
    {items : List β} {items' : List γ} (each : List.Forall₂ related items items')
    (alike : ∀ item item', related item item' → f' item' = f item) :
    items'.map f' = items.map f := by
  induction each with
  | nil => rfl
  | cons head _ ih => rw [List.map_cons, List.map_cons, alike _ _ head, ih]

theorem Scene.Renumbered.entityCount_eq {scene scene' : Scene α}
    (renumbered : scene.Renumbered first first' scene') :
    scene'.entityCount = scene.entityCount := by
  rw [entityCount, entityCount, List.length_flatMap, List.length_flatMap,
    map_eq_of_forall₂ renumbered.layers fun _ _ same => same.entities.length_eq.symm]

/-! ## Births under other identities -/

/-- Two outcomes are the same fault, or related results in nurseries with other identities. -/
inductive Nursery.Outcomes (first first' : Nat) (related : β → γ → Prop) :
    Except Fault (β × Nursery α σ) → Except Fault (γ × Nursery α σ) → Prop
  | failed (fault : Fault) : Outcomes first first' related (.error fault) (.error fault)
  | ended {result : β} {result' : γ} {after after' : Nursery α σ} :
    related result result' → after.Renumbered first first' after' →
    Outcomes first first' related (.ok (result, after)) (.ok (result', after'))

/-- From nurseries that differ in their identities alone, two computations come to outcomes that
differ in nothing else. -/
def Nursery.Blind (first first' : Nat) (related : β → γ → Prop) (computation : Nursing α σ β)
    (computation' : Nursing α σ γ) : Prop :=
  ∀ nursery nursery', nursery.Renumbered first first' nursery' →
    Outcomes first first' related (computation.run nursery) (computation'.run nursery')

namespace Nursery.Blind

variable {related : β → γ → Prop} {related' : β' → γ' → Prop}

theorem of_related {result : β} {result' : γ} (same : related result result') :
    Blind first first' related (pure result : Nursing α σ β) (pure result') :=
  fun _ _ renumbered => .ended same renumbered

/-- Computations that are `Blind` to the identities stay so one after the other. -/
theorem bind {computation : Nursing α σ β} {computation' : Nursing α σ γ}
    {next : β → Nursing α σ β'} {next' : γ → Nursing α σ γ'}
    (firsts : Blind first first' related computation computation')
    (nexts : ∀ result result', related result result' →
      Blind first first' related' (next result) (next' result')) :
    Blind first first' related' (computation >>= next) (computation' >>= next') := by
  intro nursery nursery' renumbered
  rw [StateT.run_bind, StateT.run_bind]
  have outcomes := firsts nursery nursery' renumbered
  revert outcomes
  generalize computation.run nursery = outcome
  generalize computation'.run nursery' = outcome'
  rintro (fault | ⟨same, renumbered⟩)
  · exact .failed fault
  · exact nexts _ _ same _ _ renumbered

end Nursery.Blind

/-! ## Layers -/

variable [Scalar α] [Words σ] [Units σ α]

/-- What found a place and what did not, under other identities. -/
def Nursery.FilledAlike (first first' : Nat)
    (filled filled' : List (Entity α) × List Nat) : Prop :=
  List.Forall₂ (Entity.Renumbered first first') filled.1 filled'.1 ∧ filled'.2 = filled.2

/-- A layer and what it is missing, under other identities. -/
def Layer.BuiltAlike (first first' : Nat) (built built' : Layer α × List Nat) : Prop :=
  built.1.Renumbered first first' built'.1 ∧ built'.2 = built.2

namespace Nursery

/-- A birth is `Blind` to the identities that the nursery counts from. -/
theorem blind_bear (kind : Kind) (site : Site α) :
    Blind first first' (Option.Rel (Entity.Renumbered first first'))
      (bear kind site : Nursing α σ _) (bear kind site) := by
  rintro nursery ⟨source, geometry, nextId'⟩ ⟨rfl, rfl, nextId⟩
  show Outcomes first first' _ (((kind.spawn site nursery.geometry).run nursery.source) >>= _)
    (((kind.spawn site nursery.geometry).run nursery.source) >>= _)
  -- One spawn serves both nurseries: it is run before any identity is handed out.
  cases (kind.spawn site nursery.geometry).run nursery.source with
  | error fault => exact .failed fault
  | ok outcome =>
    obtain ⟨⟨body, geometry⟩, source⟩ := outcome
    cases body with
    | none => exact .ended .none ⟨rfl, rfl, nextId⟩
    | some body => exact .ended (.some ⟨rfl, nextId⟩) ⟨rfl, rfl, by dsimp only at nextId ⊢; omega⟩

theorem blind_fill (kind : Kind) (site : Nat → Site α) (remaining slot : Nat) :
    Blind first first' (FilledAlike first first') (fill kind site remaining slot : Nursing α σ _)
      (fill kind site remaining slot) := by
  induction remaining generalizing slot with
  | zero => exact .of_related ⟨.nil, rfl⟩
  | succ remaining ih =>
    refine (blind_bear kind (site slot)).bind fun born born' same => ?_
    refine (ih (slot + 1)).bind fun filled filled' rest => ?_
    obtain ⟨entities, missing⟩ := filled
    obtain ⟨entities', missing'⟩ := filled'
    obtain ⟨rest, rfl⟩ := rest
    cases same with
    | none => exact .of_related ⟨rest, rfl⟩
    | some newcomer => exact .of_related ⟨.cons newcomer rest, rfl⟩

end Nursery

namespace Layer

open Nursery

theorem blind_build (spec : LayerSpec α) (bounds : Bounds α) (wind scale : α) :
    Blind first first' (BuiltAlike first first') (build spec bounds wind scale : Nursing α σ _)
      (build spec bounds wind scale) := by
  refine (blind_fill _ _ _ _).bind fun filled filled' same => ?_
  exact .of_related ⟨⟨rfl, rfl, same.1⟩, same.2⟩

theorem blind_buildAll (bounds : Bounds α) (wind scale : α) (specs : List (LayerSpec α)) :
    Blind first first' (List.Forall₂ (BuiltAlike first first'))
      (buildAll bounds wind scale specs : Nursing α σ _) (buildAll bounds wind scale specs) := by
  induction specs with
  | nil => exact .of_related .nil
  | cons spec later ih =>
    refine (blind_build spec bounds wind scale).bind fun built built' same => ?_
    exact ih.bind fun rest rest' others => .of_related (.cons same others)

/-- What a build reports of a layer. -/
def missing (built : Layer α × List Nat) : List (Event α) :=
  built.2.map (.placeMissing built.1.spec.kind)

omit [Scalar α] in
/-- The slots that a build reports as missing are reported under all identities. -/
theorem missing_eq {built built' : List (Layer α × List Nat)}
    (same : List.Forall₂ (BuiltAlike first first') built built') :
    built'.flatMap missing = built.flatMap missing := by
  rw [List.flatMap_def, List.flatMap_def, map_eq_of_forall₂ same]
  rintro built built' ⟨renumbered, slots⟩
  rw [missing, missing, renumbered.spec_eq, slots]

end Layer

/-! ## Engines -/

namespace Engine

/-- The nursery in which the bodies of the next scene are born. -/
def outsetOfRebuild (engine : Engine α σ) : Nursery α σ where
  source := (Words.word engine.source).2
  geometry := .empty (Words.word engine.source).1
  nextId := max 1 engine.scene.nextId

/-- The new scene of a view, with the layers that were built for it. -/
def sceneOf (engine : Engine α σ) (bounds : Bounds α) (built : List (Layer α × List Nat))
    (ended : Nursery α σ) : Scene α where
  bounds
  time := 0.0
  frame := 0
  wind := meanWind engine.theme
  windTarget := meanWind engine.theme
  layers := built.map Prod.fst
  geometry := ended.geometry
  nextId := ended.nextId

/-- The engine with a new scene, and its reports. -/
def furnished (engine : Engine α σ) (bounds : Bounds α) (built : List (Layer α × List Nat))
    (ended : Nursery α σ) : Engine α σ × List (Event α) :=
  ({ engine with source := ended.source, scene := engine.sceneOf bounds built ended },
    built.flatMap Layer.missing ++
      [.sceneBuilt engine.theme.name bounds.width bounds.height
        (engine.sceneOf bounds built ended).entityCount])

/-- A rebuild builds all layers from a nursery that has nothing of the old scene but the next
identity (`outsetOfRebuild`), and furnishes the engine with them. -/
theorem rebuild_eq (engine : Engine α σ) (width height : α) :
    engine.rebuild width height =
      (Layer.buildAll (Bounds.of width height) (meanWind engine.theme) engine.scale
        engine.theme.layers).run engine.outsetOfRebuild >>=
      fun outcome => pure (engine.furnished (Bounds.of width height) outcome.1 outcome.2) :=
  rfl

omit [Words σ] [Units σ α] in
/-- Engines that are `furnished` with the same layers under different identities differ by the shift
only. -/
theorem furnished_renumbered {engine : Engine α σ} {scene : Scene α} {bounds : Bounds α}
    {built built' : List (Layer α × List Nat)} {ended ended' : Nursery α σ}
    (same : List.Forall₂ (Layer.BuiltAlike first first') built built')
    (renumbered : ended.Renumbered first first' ended') :
    Tallies (Renumbered first first') (.ok (engine.furnished bounds built ended) : Except Fault _)
      (.ok ({ engine with scene }.furnished bounds built' ended')) := by
  have layers : List.Forall₂ (Layer.Renumbered first first') (built.map Prod.fst)
      (built'.map Prod.fst) := by
    rw [List.forall₂_map_left_iff, List.forall₂_map_right_iff]
    exact same.imp fun _ _ both => both.1
  have scenes : (engine.sceneOf bounds built ended).Renumbered first first'
      ({ engine with scene }.sceneOf bounds built' ended') :=
    ⟨rfl, rfl, rfl, rfl, rfl, renumbered.geometry_eq, layers, renumbered.nextId_add⟩
  refine Tallies.of_eq ⟨rfl, rfl, renumbered.source_eq, scenes⟩ ?_
  rw [Layer.missing_eq same, scenes.entityCount_eq]

/-- What an engine builds for a view does not depend on the scene that it had. With any other one it
comes to the same fault, or to the same reports, the same source of randomness and the same new
scene, body by body (`Renumbered`); only the identities are shifted, by the distance between those
that were next. No identity is below one. -/
theorem rebuild_renumbered (engine : Engine α σ) (scene : Scene α) (width height : α) :
    Tallies (Renumbered (max 1 engine.scene.nextId) (max 1 scene.nextId))
      (engine.rebuild width height) ({ engine with scene }.rebuild width height) := by
  have outcomes := Layer.blind_buildAll (Bounds.of width height) (meanWind engine.theme) engine.scale
    engine.theme.layers engine.outsetOfRebuild { engine with scene }.outsetOfRebuild
    ⟨rfl, rfl, Nat.add_comm (max 1 scene.nextId) (max 1 engine.scene.nextId)⟩
  rw [rebuild_eq, rebuild_eq]
  revert outcomes
  generalize (Layer.buildAll (Bounds.of width height) (meanWind engine.theme) engine.scale
    engine.theme.layers).run engine.outsetOfRebuild = outcome
  generalize (Layer.buildAll (Bounds.of width height) (meanWind engine.theme) engine.scale
    engine.theme.layers).run { engine with scene }.outsetOfRebuild = outcome'
  rintro (fault | ⟨same, renumbered⟩)
  · exact .failed fault
  · exact furnished_renumbered same renumbered

end Engine

end Ambience
