import Ambience.Proofs.Engine.Placement
import Ambience.Proofs.Engine.Population
import Ambience.Proofs.Engine.Rooted
import Ambience.Proofs.Engine.Turnover

/-!
# The zones of a scene

The zones in the geometry of a scene mirror its placed bodies: there is one for each of them, in the
order of the layers and of the bodies in a layer. A new scene enters them as its bodies are born, and
an update leaves both alone, since a placed body rests where it is and no other has a zone.
-/

namespace Ambience

variable {α σ : Type}

/-- The bodies of a layer that are placed clear of others. -/
def Layer.placed (layer : Layer α) : List (Entity α) :=
  layer.entities.filter fun entity => entity.body.kind.isPlaced

/-- The bodies of a scene that are placed clear of others, layer by layer. -/
def Scene.placed (scene : Scene α) : List (Entity α) := scene.layers.flatMap Layer.placed

/-- The `placed` bodies of a scene are its bodies of the kinds that are placed clear of others. -/
theorem Scene.mem_placed {scene : Scene α} {entity : Entity α} :
    entity ∈ scene.placed ↔ entity ∈ scene.entities ∧ entity.body.kind.isPlaced = true := by
  have filtered : scene.placed =
      scene.entities.filter fun entity => entity.body.kind.isPlaced := List.filter_flatMap.symm
  rw [filtered]
  exact List.mem_filter

/-- A scene whose identities and kinds were computed has a body of each of them. -/
theorem Scene.exists_of_kinds {scene : Scene α} {kinds : List (Nat × Kind)}
    (all : scene.entities.map (fun entity => (entity.id, entity.body.kind)) = kinds) (id : Nat)
    (kind : Kind) (member : (id, kind) ∈ kinds) :
    ∃ body : Body α, ⟨id, body⟩ ∈ scene.entities ∧ body.kind = kind := by
  rw [← all] at member
  obtain ⟨⟨_, body⟩, entityAt, same⟩ := List.mem_map.1 member
  cases same
  exact ⟨body, entityAt, rfl⟩

theorem Body.exists_stone {body : Body α} (same : body.kind = .stone) :
    ∃ s : Stone α, body = .stone s := by
  cases body with
  | stone s => exact ⟨s, rfl⟩
  | _ => cases same

theorem Body.exists_cactus {body : Body α} (same : body.kind = .cactus) :
    ∃ c : Cactus α, body = .cactus c := by
  cases body with
  | cactus c => exact ⟨c, rfl⟩
  | _ => cases same

section Bodies

variable [Scalar α]

/-- The zones of a scene are those of its placed bodies, in order. -/
def Scene.Mirrors (scene : Scene α) : Prop :=
  List.Forall₂ (fun entity zone => entity.body.Keeps zone) scene.placed scene.geometry.zones

/-- Some bodies are born in order, and the zones of those that are placed are entered behind the
others. -/
def Nursery.Zoned (nursery : Nursery α σ) (born : List (Entity α)) (after : Nursery α σ) : Prop :=
  ∃ zones, after.geometry.zones = nursery.geometry.zones ++ zones ∧
    List.Forall₂ (fun entity zone => entity.body.Keeps zone)
      (born.filter fun entity => entity.body.kind.isPlaced) zones

variable [Words σ] [Units σ α]

/-! ## Births -/

namespace Nursery

/-- Zones are entered in the order of births (`Zoned`). -/
theorem law_zoned : Law (fun _ => True) (Zoned : Nursery α σ → _ → _ → Prop) where
  nil nursery := ⟨[], (List.append_nil _).symm, .nil⟩
  append := by
    rintro nursery middle after born later ⟨zones, zonesEq, keeps⟩ ⟨zones', zonesEq', keeps'⟩
    refine ⟨zones ++ zones', ?_, ?_⟩
    · rw [zonesEq', zonesEq, List.append_assoc]
    · rw [List.filter_append]
      exact List.rel_append keeps keeps'
  draw zoned := zoned
  bear := by
    intro kind site nursery after born _ run
    cases born with
    | none =>
      obtain ⟨source, -, rfl⟩ := bear_runs_none.1 run
      exact ⟨[], (List.append_nil _).symm, .nil⟩
    | some entity =>
      obtain ⟨geometry, source, places, rfl⟩ := of_bear_some run
      generalize entityBody : some entity.body = body at places
      cases places with
      | crowded => cases entityBody
      | placed placed same keeps =>
        cases entityBody
        refine ⟨[_], rfl, ?_⟩
        rw [← same] at placed
        rw [Option.toList_some, List.filter_singleton, placed]
        exact .cons keeps .nil
      | free free same zones =>
        cases entityBody
        rw [← same] at free
        refine ⟨[], ?_, ?_⟩
        · rw [zones, List.append_nil]
        · rw [Option.toList_some, List.filter_singleton, free]
          exact .nil

/-- Births of bodies that are not placed leave the zones alone. -/
theorem law_free :
    Law (fun kind => kind.isPlaced = false)
      (fun (nursery : Nursery α σ) _ after => after.geometry.zones = nursery.geometry.zones) := by
  refine law_view Geometry.zones fun free run => ?_
  cases Kind.places_of_spawn run with
  | crowded => rfl
  | placed placed =>
    rw [placed] at free
    cases free
  | free _ _ zones => exact zones

end Nursery

/-! ## Updates -/

namespace Layer

variable {nursery after : Nursery α σ} {tick : Tick α} {layer result : Layer α}

omit [Scalar α] in
theorem placed_eq_nil (homogeneous : layer.Homogeneous) (free : layer.spec.kind.isPlaced = false) :
    layer.placed = [] := by
  refine List.filter_eq_nil_iff.2 fun entity member => ?_
  rw [homogeneous entity member, free]
  exact Bool.false_ne_true

/-- The layer is no transient one of placed bodies. -/
def Settled (layer : Layer α) : Prop :=
  layer.spec.kind.isPlaced = true → layer.spec.density.isTransient = false

/-- An update leaves a layer of placed bodies as it is. -/
theorem Advances.rests {dropped : Nat} (advances : Advances layer tick nursery after result dropped)
    (homogeneous : layer.Homogeneous) (settled : layer.Settled)
    (placed : layer.spec.kind.isPlaced = true) :
    result.entities = layer.entities ∧ after.geometry = nursery.geometry := by
  have allPlaced : ∀ entity ∈ layer.entities, entity.body.kind.isPlaced = true :=
    fun entity member => (congrArg Kind.isPlaced (homogeneous entity member)).trans placed
  obtain ⟨stays, geometry⟩ :=
    advances.stays homogeneous (settled placed) (Kind.isRooted_of_isPlaced placed)
  have inPlace := (List.forall₂_and_left _ _).2 ⟨allPlaced, stays⟩
  have same : List.Forall₂ (fun entity entity' => entity' = entity) layer.entities
      result.entities := by
    refine inPlace.imp ?_
    rintro ⟨id, body⟩ ⟨id', body'⟩ ⟨fixed, rfl, stays⟩
    exact congrArg (Entity.mk id') (stays.eq_of_isPlaced fixed)
  refine ⟨?_, geometry⟩
  rw [← List.forall₂_eq_eq_eq]
  exact same.flip

/-- No layer changes the zones in an update: what has a zone lasts, and what is born has none. -/
theorem Advances.zones_eq {dropped : Nat} (advances : Advances layer tick nursery after result dropped)
    (homogeneous : layer.Homogeneous) (settled : layer.Settled) :
    after.geometry.zones = nursery.geometry.zones := by
  cases placed : layer.spec.kind.isPlaced with
  | true => rw [(advances.rests homogeneous settled placed).2]
  | false =>
    obtain ⟨_, _, _, _, bornRun, _⟩ := advances.turnover
    exact Nursery.law_free.births placed bornRun

theorem Advances.placed_eq {dropped : Nat}
    (advances : Advances layer tick nursery after result dropped) (homogeneous : layer.Homogeneous)
    (issued : layer.IssuedBelow nursery.nextId) (settled : layer.Settled) :
    result.placed = layer.placed := by
  have kept := advances.advanced homogeneous issued
  cases placed : layer.spec.kind.isPlaced with
  | true => rw [Layer.placed, Layer.placed, (advances.rests homogeneous settled placed).1]
  | false =>
    rw [placed_eq_nil homogeneous placed]
    rw [← kept.spec_eq] at placed
    exact placed_eq_nil kept.homogeneous placed

/-- What no layer of a scene changes in the geometry is left alone in an update. -/
theorem view_of_advanceAll {β : Type} {view : Geometry α → β} {layers : List (Layer α)}
    {advanced : List (Layer α × Nat)}
    (kept : ∀ layer ∈ layers, ∀ (nursery after : Nursery α σ) (result : Layer α) (dropped : Nat),
      Advances layer tick nursery after result dropped →
      view after.geometry = view nursery.geometry)
    (run : Runs (advanceAll tick layers) nursery advanced after) :
    view after.geometry = view nursery.geometry := by
  induction layers generalizing nursery advanced with
  | nil =>
    obtain ⟨-, rfl⟩ := Runs.of_pure run
    rfl
  | cons layer later ih =>
    obtain ⟨first, middle, firstRun, run⟩ := Runs.of_bind run
    obtain ⟨rest, _, restRun, run⟩ := Runs.of_bind run
    obtain ⟨-, rfl⟩ := Runs.of_pure run
    have head := kept layer List.mem_cons_self _ _ _ _ (of_advance firstRun)
    have tail := ih (fun layer member => kept layer (List.mem_cons_of_mem _ member)) restRun
    exact tail.trans head

end Layer

/-! ## Whole scenes -/

namespace Engine

variable {engine after : Engine α σ} {theme : Theme α} {scale : α} {events : List (Event α)}

/-- The zones of a new scene are those of its own placed bodies (`Scene.Mirrors`). -/
theorem mirrors_of_rebuild {width height : α}
    (run : engine.rebuild width height = .ok (after, events)) : after.scene.Mirrors := by
  obtain ⟨⟨built, ended⟩, buildRun, run⟩ := of_bind_eq_ok run
  cases of_pure_eq_ok run
  obtain ⟨zones, zonesEq, keeps⟩ := Nursery.law_zoned.buildAll (fun _ _ => trivial) buildRun
  rw [List.filter_flatMap] at keeps
  have entered : ended.geometry.zones = zones := zonesEq
  rw [Scene.Mirrors, entered]
  exact keeps

/-- What no layer changes in the geometry is the same after an update, of the whole engine. -/
theorem view_of_update {β : Type} (view : Geometry α → β) {seconds : α}
    (kept : ∀ layer ∈ engine.scene.layers, ∀ (tick : Tick α) (nursery after : Nursery α σ)
      (result : Layer α) (dropped : Nat), Layer.Advances layer tick nursery after result dropped →
      view after.geometry = view nursery.geometry)
    (run : engine.update seconds = .ok (after, events)) :
    view after.scene.geometry = view engine.scene.geometry := by
  obtain ⟨tick, _, _, _, _, _, begins, _, advanceRun, rfl⟩ := of_update run
  have same := Layer.view_of_advanceAll (fun layer member => kept layer member tick) advanceRun
  rw [(of_outset begins).2.2] at same
  exact same

/-- Placed bodies of a scene rest in an update, and their zones with them. -/
theorem rests_of_update {seconds : α}
    (homogeneous : ∀ layer ∈ engine.scene.layers, layer.Homogeneous)
    (issued : engine.IssuedBelow engine.scene.nextId)
    (settled : ∀ layer ∈ engine.scene.layers, layer.Settled)
    (run : engine.update seconds = .ok (after, events)) :
    after.scene.placed = engine.scene.placed ∧
      after.scene.geometry.zones = engine.scene.geometry.zones := by
  have layerwise : after.scene.layers.map Layer.placed = engine.scene.layers.map Layer.placed := by
    refine List.ext_getElem? fun k => ?_
    rw [List.getElem?_map, List.getElem?_map]
    cases found : engine.scene.layers[k]? with
    | none =>
      have sameLength := (advanced_of_update homogeneous issued run).2.length_eq
      rw [List.getElem?_eq_none_iff] at found
      rw [List.getElem?_eq_none (by omega)]
    | some layer =>
      have member := List.mem_of_getElem? found
      obtain ⟨_, _, _, _, _, layer', _, _, _, _, issuedLater, advances, layerAt⟩ :=
        advances_of_update homogeneous issued run found
      have same := advances.placed_eq (homogeneous layer member) issuedLater (settled layer member)
      rw [layerAt, Option.map_some, Option.map_some, same]
  have zones : after.scene.geometry.zones = engine.scene.geometry.zones :=
    view_of_update Geometry.zones (fun layer member _ _ _ _ _ advances =>
      advances.zones_eq (homogeneous layer member) (settled layer member)) run
  refine ⟨?_, zones⟩
  rw [Scene.placed, Scene.placed, List.flatMap_def, List.flatMap_def, layerwise]

/-- No layer of a theme is a transient one of placed bodies. -/
def Settles (theme : Theme α) : Prop :=
  ∀ spec ∈ theme.layers, spec.kind.isPlaced = true → spec.density.isTransient = false

omit [Scalar α] [Words σ] [Units σ α] in
/-- What a theme says of its layers can be computed. -/
theorem lasts_of_all {kinds : Kind → Bool}
    (all : (theme.layers.all fun spec => !kinds spec.kind || !spec.density.isTransient) = true) :
    ∀ spec ∈ theme.layers, kinds spec.kind = true → spec.density.isTransient = false := by
  intro spec member allowed
  have lasts := List.all_eq_true.1 all spec member
  rw [allowed] at lasts
  simpa using lasts

/-- The zones of an engine mirror its placed bodies at any time of its life. -/
theorem Lived.mirrors {seed : UInt64} {width height : α} {past : List (Engine α σ)}
    (settles : Settles theme) (lived : Lived theme scale seed width height past engine) :
    engine.scene.Mirrors := by
  induction lived with
  | started run => exact mirrors_of_rebuild run
  | rebuilt _ run => exact mirrors_of_rebuild run
  | updated lived run ih =>
    have sound := lived.sound
    obtain ⟨placed, zones⟩ := rests_of_update sound.populated.homogeneous
      (sound.issued _ List.mem_cons_self) (sound.populated.forall_spec settles) run
    rw [Scene.Mirrors, placed, zones]
    exact ih

/-- The zones of a scene mirror its placed bodies (`Scene.Mirrors`), one for each of them and in
their order. A new scene has none but those of its own bodies, whatever zones there were before. A
birth that `Exhausts` its attempts changes nothing but the source of randomness, and it is the only
one that gives no body; where a placed body is born one zone is entered behind the others, which for
a cactus is on the ground. -/
theorem zones_of_lived {seed : UInt64} {width height : α} {past : List (Engine α σ)}
    (settles : Settles theme) (lived : Lived theme scale seed width height past engine) :
    engine.scene.Mirrors ∧
      (∀ (width' height' : α) (after : Engine α σ) (events : List (Event α)),
        engine.rebuild width' height' = .ok (after, events) →
        after.scene.Mirrors ∧ (∀ entity ∈ after.scene.placed, engine.scene.nextId ≤ entity.id) ∧
        ∀ geometry, { engine with scene := { engine.scene with geometry } }.rebuild width' height' =
          .ok (after, events)) ∧
      (∀ (kind : Kind) (site : Site α) (nursery after : Nursery α σ),
        Runs (Nursery.bear kind site) nursery none after ↔
          ∃ source, kind.Exhausts site nursery.geometry nursery.source source ∧
            after = { nursery with source }) ∧
      (∀ (kind : Kind) (site : Site α) (nursery after : Nursery α σ) (entity : Entity α),
        kind.isPlaced = true → Runs (Nursery.bear kind site) nursery (some entity) after →
        ∃ zone, after.geometry =
            { nursery.geometry with zones := nursery.geometry.zones ++ [zone] } ∧
          entity.body.Keeps zone ∧
          (kind = .cactus → zone.y = Cactus.groundAt site nursery.geometry zone.x)) := by
  refine ⟨lived.mirrors settles, ?_, fun _ _ _ _ => Nursery.bear_runs_none, ?_⟩
  · intro width' height' after events run
    refine ⟨mirrors_of_rebuild run, fun entity member => le_of_rebuild run ?_, fun _ => run⟩
    obtain ⟨layer, layerAt, member⟩ := List.mem_flatMap.1 member
    exact List.mem_flatMap.2 ⟨layer, layerAt, List.mem_of_mem_filter member⟩
  · intro kind site nursery after entity placed run
    obtain ⟨geometry, source, places, rfl⟩ := Nursery.of_bear_some run
    cases places with
    | @placed _ zone _ _ keeps ground => exact ⟨zone, rfl, keeps, ground⟩
    | free free =>
      rw [placed] at free
      cases free

/-- A stone, a cactus, and two grains of sand. -/
def oasis : Theme ℚ :=
  { Theme.dunes with
    layers := [⟨.stone, 1, .fixed 1⟩, ⟨.cactus, 1, .fixed 1⟩, ⟨.grain, 2, .spawned 0.5 2⟩] }

/-- An oasis after a tenth of a second, and in a view of twice the width. -/
def oases : Except Fault (Engine ℚ Random.Stream × Engine ℚ Random.Stream) := do
  let (engine, _) ← start oasis 1 7 120 80
  let (blown, _) ← engine.update 0.1
  let (later, _) ← blown.rebuild 240 80
  return (blown, later)

/-- A small `oasis` has no room for a cactus beside its stone, and a larger one has. -/
theorem zones_of_oasis :
    ∃ engine blown later : Engine ℚ Random.Stream,
      Settles oasis ∧ Lived oasis 1 7 120 80 [engine] blown ∧
      Lived oasis 1 7 240 80 [blown, engine] later ∧
      blown.scene.layers.map (fun layer => layer.entities.map Entity.id) = [[1], [], [2, 3]] ∧
      blown.scene.Mirrors ∧ blown.scene.geometry.zones.length = 1 ∧
      later.scene.layers.map (fun layer => layer.entities.map Entity.id) = [[4], [5], []] ∧
      later.scene.Mirrors ∧ later.scene.geometry.zones.length = 2 := by
  have settles : Settles oasis := lasts_of_all rfl
  have ends : oases.toOption.any (fun ⟨blown, later⟩ =>
      blown.scene.layers.map (fun layer => layer.entities.map Entity.id) == [[1], [], [2, 3]] &&
      blown.scene.geometry.zones.length == 1 &&
      later.scene.layers.map (fun layer => layer.entities.map Entity.id) == [[4], [5], []] &&
      later.scene.geometry.zones.length == 2) = true := by
    decide +kernel
  obtain ⟨⟨blown, later⟩, run, checked⟩ := of_any_toOption ends
  obtain ⟨⟨engine, _⟩, startRun, run⟩ := of_bind_eq_ok run
  obtain ⟨⟨_, _⟩, blownRun, run⟩ := of_bind_eq_ok run
  obtain ⟨⟨_, reported⟩, laterRun, run⟩ := of_bind_eq_ok run
  cases of_pure_eq_ok run
  simp only [Bool.and_eq_true, beq_iff_eq] at checked
  obtain ⟨⟨⟨blownIds, blownZones⟩, laterIds⟩, laterZones⟩ := checked
  have lived : Lived oasis 1 7 120 80 [engine] blown := (Lived.started startRun).updated blownRun
  obtain ⟨mirrors, onRebuild, -⟩ := zones_of_lived settles lived
  have mirrored := (onRebuild 240 80 later reported laterRun).1
  exact ⟨engine, blown, later, settles, lived, lived.rebuilt laterRun, blownIds, mirrors, blownZones,
    laterIds, mirrored, laterZones⟩

end Engine

end Bodies

end Ambience
