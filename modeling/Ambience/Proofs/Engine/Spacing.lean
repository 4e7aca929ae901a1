import Mathlib.Algebra.Order.Field.Basic
import Mathlib.Tactic.Linarith
import Ambience.Proofs.Engine.Zones
import Ambience.Proofs.Scalar.Exact

/-!
# Distances between placed bodies

A placed body is born clear of the zones of all that were placed before it, so that of any two of
them the later keeps out of the zone of the earlier for as long as their scene lasts. In exact
arithmetic that is a distance between them: two stones are apart by their rings and a gap between
those, and a cactus is apart from an earlier one by the zone of that one and a gap.
-/

namespace Ambience

variable {α σ : Type}

section Bodies

variable [Scalar α]

/-- A placed body that stands clear of a zone: a stone with its rings and a gap around them, and a
cactus with a gap around the ground that it stands on. -/
inductive Body.ClearOf (zone : Zone α) : Body α → Prop
  | stone {s : Stone α} :
    zone.contains s.x s.y (s.radius + 26.0 + 10.0) = false → ClearOf zone (.stone s)
  | cactus {c : Cactus α} {ground : α} :
    c.base = ground + 2.0 → zone.contains c.x ground 30.0 = false → ClearOf zone (.cactus c)

/-- The second of two bodies is clear of a zone that the first keeps. -/
def Body.Apart (first second : Body α) : Prop :=
  ∃ zone, first.Keeps zone ∧ second.ClearOf zone

/-- Of two placed bodies of a scene the later is clear of the zone of the earlier. -/
def Scene.Spaced (scene : Scene α) : Prop :=
  ∀ first ∈ scene.placed, ∀ second ∈ scene.placed, first.id < second.id →
    first.body.Apart second.body

omit [Scalar α] in
/-- Bodies that stand in the order of their identities are related as they stand. -/
theorem Entity.related_of_id_lt {related : Entity α → Entity α → Prop} {entities : List (Entity α)}
    (ids : entities.Pairwise fun first second => first.id < second.id)
    (all : entities.Pairwise related) {first second : Entity α} (firstAt : first ∈ entities)
    (secondAt : second ∈ entities) (lt : first.id < second.id) : related first second := by
  have forward : entities.Pairwise fun first second =>
      first.id < second.id → related first second := by
    refine all.imp ?_
    exact fun holds _ => holds
  have backward : entities.Pairwise
      (flip fun first second => first.id < second.id → related first second) := by
    refine ids.imp ?_
    exact fun lt gt => (Nat.lt_asymm lt gt).elim
  exact forward.forall_of_forall_of_flip (fun _ _ lt => (Nat.lt_irrefl _ lt).elim) backward firstAt
    secondAt lt

/-- What is clear of all zones (`isClear`) is clear of each. -/
theorem Geometry.contains_of_isClear {geometry : Geometry α} {x y pad : α} {zone : Zone α}
    (clear : geometry.isClear x y pad = true) (member : zone ∈ geometry.zones) :
    zone.contains x y pad = false := by
  have outside := List.all_eq_true.1 clear zone member
  rwa [Bool.not_eq_true'] at outside

theorem Zone.not_lt_of_contains {zone : Zone α} {x y pad : α}
    (outside : zone.contains x y pad = false) :
    ¬Scalar.square (x - zone.x) + Scalar.square (y - zone.y) <
      (zone.radius + pad) * (zone.radius + pad) :=
  of_decide_eq_false outside

variable [Words σ] [Units σ α]

/-! ## Births -/

/-- A placed body is born clear of every zone that there is (`Body.ClearOf`). -/
theorem Kind.clear_of_spawn {kind : Kind} {site : Site α} {geometry geometry' : Geometry α}
    {source after : σ} {body : Body α} (placed : kind.isPlaced = true)
    (run : Runs (kind.spawn site geometry) source (some body, geometry') after) :
    ∀ zone ∈ geometry.zones, body.ClearOf zone := by
  intro zone member
  cases kind with
  | stone =>
    obtain ⟨born, _, bornRun, run⟩ := Runs.of_bind run
    cases born with
    | none => cases (Runs.of_pure run).1
    | some pair =>
      cases (Runs.of_pure run).1
      exact .stone (Geometry.contains_of_isClear (Stone.of_spawn bornRun).2 member)
  | cactus =>
    obtain ⟨born, _, bornRun, run⟩ := Runs.of_bind run
    cases born with
    | none => cases (Runs.of_pure run).1
    | some pair =>
      cases (Runs.of_pure run).1
      obtain ⟨-, base, clear, -⟩ := Cactus.of_spawn bornRun
      exact .cactus base (Geometry.contains_of_isClear clear member)
  | _ => cases placed

namespace Nursery

/-- Of some bodies that are born in order, each placed one keeps a zone of its own and is clear of
those that there were before it. -/
structure Spaced (nursery : Nursery α σ) (born : List (Entity α)) (after : Nursery α σ) : Prop where
  zones : nursery.geometry.zones ⊆ after.geometry.zones
  keeps :
    ∀ entity ∈ born, entity.body.kind.isPlaced = true →
      ∃ zone ∈ after.geometry.zones, entity.body.Keeps zone
  clear :
    ∀ entity ∈ born, entity.body.kind.isPlaced = true →
      ∀ zone ∈ nursery.geometry.zones, entity.body.ClearOf zone
  apart :
    born.Pairwise fun first second =>
      first.body.kind.isPlaced = true → second.body.kind.isPlaced = true →
        first.body.Apart second.body

omit [Words σ] [Units σ α] in
/-- Where nothing placed is born the zones need only stay. -/
theorem Spaced.of_unplaced {nursery after : Nursery α σ} {born : List (Entity α)}
    (same : after.geometry.zones = nursery.geometry.zones)
    (unplaced : ∀ entity ∈ born, entity.body.kind.isPlaced = false) : Spaced nursery born after := by
  have absent : ∀ entity ∈ born, entity.body.kind.isPlaced = true → False := by
    intro entity member placed
    rw [unplaced entity member] at placed
    cases placed
  refine ⟨?_, ?_, ?_, ?_⟩
  · rw [same]
    exact List.Subset.refl _
  · exact fun entity member placed => (absent entity member placed).elim
  · exact fun entity member placed => (absent entity member placed).elim
  · exact List.pairwise_of_forall_mem_list fun first member _ _ placed =>
      (absent first member placed).elim

/-- Each placed body is born apart from those before it, whose zones are there when it is placed. -/
theorem law_spaced : Law (fun _ => True) (Spaced : Nursery α σ → _ → _ → Prop) where
  nil nursery := .of_unplaced rfl (by rintro _ ⟨⟩)
  append := by
    intro nursery middle after born later first rest
    refine ⟨List.Subset.trans first.zones rest.zones, ?_, ?_,
      List.pairwise_append.2 ⟨first.apart, rest.apart, ?_⟩⟩
    · intro entity member placed
      rcases List.mem_append.1 member with member | member
      · obtain ⟨zone, zoneAt, keeps⟩ := first.keeps entity member placed
        exact ⟨zone, rest.zones zoneAt, keeps⟩
      · exact rest.keeps entity member placed
    · intro entity member placed zone zoneAt
      rcases List.mem_append.1 member with member | member
      · exact first.clear entity member placed zone zoneAt
      · exact rest.clear entity member placed zone (first.zones zoneAt)
    · -- The zone of the earlier body is among those that the later one was clear of.
      intro earlier earlierAt later laterAt placed placed'
      obtain ⟨zone, zoneAt, keeps⟩ := first.keeps earlier earlierAt placed
      exact ⟨zone, keeps, rest.clear later laterAt placed' zone zoneAt⟩
  draw spaced := ⟨spaced.zones, spaced.keeps, spaced.clear, spaced.apart⟩
  bear := by
    intro kind site nursery after born _ run
    cases born with
    | none =>
      obtain ⟨source, -, rfl⟩ := bear_runs_none.1 run
      exact .of_unplaced rfl (by rintro _ ⟨⟩)
    | some entity =>
      obtain ⟨geometry, source, spawnRun, -, rfl⟩ := spawn_of_bear run
      have places := Kind.places_of_spawn spawnRun
      generalize entityBody : some entity.body = body at places
      cases places with
      | crowded => cases entityBody
      | @placed _ zone placed _ keeps =>
        cases entityBody
        have clear := Kind.clear_of_spawn placed spawnRun
        refine ⟨fun _ member => List.mem_append_left _ member, ?_, ?_, List.pairwise_singleton _ _⟩
        · intro other member _
          obtain rfl := List.mem_singleton.1 member
          exact ⟨zone, List.mem_append_right _ List.mem_cons_self, keeps⟩
        · intro other member _
          obtain rfl := List.mem_singleton.1 member
          exact clear
      | free free same zones =>
        cases entityBody
        refine .of_unplaced zones fun other member => ?_
        obtain rfl := List.mem_singleton.1 member
        rw [same, free]

end Nursery

/-! ## Whole scenes -/

namespace Engine

variable {engine after : Engine α σ} {theme : Theme α} {scale : α} {events : List (Event α)}

/-- The placed bodies of a new scene keep their distance. -/
theorem spaced_of_rebuild {width height : α}
    (run : engine.rebuild width height = .ok (after, events)) : after.scene.Spaced := by
  -- The bodies of a new scene stand in the order of their identities.
  have ids : after.scene.entities.Pairwise fun first second => first.id < second.id := by
    refine List.pairwise_map.1 ?_
    rw [(bore_of_rebuild run).1]
    exact List.pairwise_lt_range'
  obtain ⟨⟨built, ended⟩, buildRun, run⟩ := of_bind_eq_ok run
  cases of_pure_eq_ok run
  have apart := (Nursery.law_spaced.buildAll (fun _ _ => trivial) buildRun).apart
  intro first firstAt second secondAt lt
  obtain ⟨firstAt, placed⟩ := Scene.mem_placed.1 firstAt
  obtain ⟨secondAt, placed'⟩ := Scene.mem_placed.1 secondAt
  exact Entity.related_of_id_lt ids apart firstAt secondAt lt placed placed'

/-- The placed bodies of an engine keep their distance at any time of its life, since they neither
move nor go. -/
theorem Lived.spaced {seed : UInt64} {width height : α} {past : List (Engine α σ)}
    (settles : Settles theme) (lived : Lived theme scale seed width height past engine) :
    engine.scene.Spaced := by
  induction lived with
  | started run => exact spaced_of_rebuild run
  | rebuilt _ run => exact spaced_of_rebuild run
  | updated lived run ih =>
    have sound := lived.sound
    obtain ⟨placed, -⟩ := rests_of_update sound.populated.homogeneous
      (sound.issued _ List.mem_cons_self) (sound.populated.forall_spec settles) run
    rw [Scene.Spaced, placed]
    exact ih

end Engine

end Bodies

/-! ## Exact distances -/

section Exact

variable [ExactScalar α]

/-- A point outside a zone is at least the radius and the pad from its middle. -/
theorem Zone.le_of_contains {zone : Zone α} {x y pad : α}
    (outside : zone.contains x y pad = false) :
    (zone.radius + pad) ^ 2 ≤ (x - zone.x) ^ 2 + (y - zone.y) ^ 2 := by
  have beyond := le_of_not_gt (Zone.not_lt_of_contains outside)
  rw [sq, sq, sq]
  exact beyond

/-- Stones that are `Apart` have the rings of both and a gap between them. -/
theorem Stone.le_of_apart {a b : Stone α} (apart : (Body.stone a).Apart (.stone b)) :
    (a.radius + b.radius + 62) ^ 2 ≤ (a.x - b.x) ^ 2 + (a.y - b.y) ^ 2 := by
  obtain ⟨zone, keeps, clear⟩ := apart
  cases keeps
  cases clear with
  | stone outside =>
    have beyond := Zone.le_of_contains outside
    simp only [ExactScalar.literal_eq] at beyond
    norm_num at beyond
    linarith

/-- Feet stand equally deep, so that they are apart as the ground under them is. -/
theorem Cactus.le_of_apart {a b : Cactus α} (apart : (Body.cactus a).Apart (.cactus b)) :
    (a.height / 2 + 30) ^ 2 ≤ (a.x - b.x) ^ 2 + (a.base - b.base) ^ 2 := by
  obtain ⟨zone, keeps, clear⟩ := apart
  cases keeps with
  | cactus base =>
    cases clear with
    | cactus base' outside =>
      have beyond := Zone.le_of_contains outside
      rw [base, base']
      simp only [ExactScalar.literal_eq] at beyond ⊢
      norm_num at beyond ⊢
      linarith

namespace Engine

variable [Words σ] [Units σ α] {scale : α} {seed : UInt64} {width height : α}
  {past : List (Engine α σ)} {engine : Engine α σ}

/-- Placed bodies keep their distance at any time that an engine has `Lived`. Any two stones of a
garden are apart by the rings of both and the gap between them, and a cactus of a desert is apart
from each that was placed before it by half the height of that one and the gap. -/
theorem distance_of_lived :
    (Lived Theme.zen scale seed width height past engine →
      ∀ (i j : Nat) (a b : Stone α), ⟨i, .stone a⟩ ∈ engine.scene.entities →
        ⟨j, .stone b⟩ ∈ engine.scene.entities → i ≠ j →
        (a.radius + b.radius + 62) ^ 2 ≤ (a.x - b.x) ^ 2 + (a.y - b.y) ^ 2) ∧
      (Lived Theme.dunes scale seed width height past engine →
        ∀ (i j : Nat) (a b : Cactus α), ⟨i, .cactus a⟩ ∈ engine.scene.entities →
          ⟨j, .cactus b⟩ ∈ engine.scene.entities → i < j →
          (a.height / 2 + 30) ^ 2 ≤ (a.x - b.x) ^ 2 + (a.base - b.base) ^ 2) := by
  constructor
  · intro lived i j a b aAt bAt distinct
    have spaced := lived.spaced (lasts_of_all rfl)
    have aPlaced := Scene.mem_placed.2 ⟨aAt, rfl⟩
    have bPlaced := Scene.mem_placed.2 ⟨bAt, rfl⟩
    rcases Nat.lt_or_gt_of_ne distinct with lt | gt
    · exact Stone.le_of_apart (spaced _ aPlaced _ bPlaced lt)
    · have apart := Stone.le_of_apart (spaced _ bPlaced _ aPlaced gt)
      linarith
  · intro lived i j a b aAt bAt lt
    have spaced := lived.spaced (lasts_of_all rfl)
    exact Cactus.le_of_apart
      (spaced _ (Scene.mem_placed.2 ⟨aAt, rfl⟩) _ (Scene.mem_placed.2 ⟨bAt, rfl⟩) lt)

/-- A garden a tenth of a second after its start, and a desert. -/
def grounds : Except Fault
    (Engine ℚ Random.Stream × Engine ℚ Random.Stream × Engine ℚ Random.Stream) := do
  let (engine, _) ← start Theme.zen 1 5 400 27
  let (garden, _) ← engine.update 0.1
  let (desert, _) ← start Theme.dunes 2 3 240 60
  return (engine, garden, desert)

/-- Three stones lie in a narrow garden, and two cacti stand in a small desert. -/
theorem distance_of_grounds :
    ∃ engine garden desert : Engine ℚ Random.Stream,
      Lived Theme.zen 1 5 400 27 [engine] garden ∧ Lived Theme.dunes 2 3 240 60 [] desert ∧
      (∃ a b : Stone ℚ, ⟨1, .stone a⟩ ∈ garden.scene.entities ∧
        ⟨3, .stone b⟩ ∈ garden.scene.entities ∧
        (a.radius + b.radius + 62) ^ 2 ≤ (a.x - b.x) ^ 2 + (a.y - b.y) ^ 2) ∧
      ∃ a b : Cactus ℚ, ⟨4, .cactus a⟩ ∈ desert.scene.entities ∧
        ⟨5, .cactus b⟩ ∈ desert.scene.entities ∧
        (a.height / 2 + 30) ^ 2 ≤ (a.x - b.x) ^ 2 + (a.base - b.base) ^ 2 := by
  have ends : grounds.toOption.any (fun ⟨_, garden, desert⟩ =>
      garden.scene.entities.map (fun entity => (entity.id, entity.body.kind)) ==
        [(1, .stone), (2, .stone), (3, .stone)] &&
      desert.scene.entities.map (fun entity => (entity.id, entity.body.kind)) ==
        [(1, .ridge), (2, .ridge), (3, .ridge), (4, .cactus), (5, .cactus)]) = true := by
    decide +kernel
  obtain ⟨⟨engine, garden, desert⟩, run, checked⟩ := of_any_toOption ends
  obtain ⟨⟨_, _⟩, startRun, run⟩ := of_bind_eq_ok run
  obtain ⟨⟨_, _⟩, updateRun, run⟩ := of_bind_eq_ok run
  obtain ⟨⟨_, _⟩, desertRun, run⟩ := of_bind_eq_ok run
  cases of_pure_eq_ok run
  rw [Bool.and_eq_true, beq_iff_eq, beq_iff_eq] at checked
  have gardenLived : Lived Theme.zen 1 5 400 27 [engine] garden :=
    (Lived.started startRun).updated updateRun
  have desertLived : Lived Theme.dunes 2 3 240 60 [] desert := .started desertRun
  obtain ⟨_, aAt, aKind⟩ := Scene.exists_of_kinds checked.1 1 .stone (by decide)
  obtain ⟨_, bAt, bKind⟩ := Scene.exists_of_kinds checked.1 3 .stone (by decide)
  obtain ⟨_, cAt, cKind⟩ := Scene.exists_of_kinds checked.2 4 .cactus (by decide)
  obtain ⟨_, dAt, dKind⟩ := Scene.exists_of_kinds checked.2 5 .cactus (by decide)
  obtain ⟨a, rfl⟩ := Body.exists_stone aKind
  obtain ⟨b, rfl⟩ := Body.exists_stone bKind
  obtain ⟨c, rfl⟩ := Body.exists_cactus cKind
  obtain ⟨d, rfl⟩ := Body.exists_cactus dKind
  exact ⟨engine, garden, desert, gardenLived, desertLived,
    ⟨a, b, aAt, bAt, distance_of_lived.1 gardenLived 1 3 a b aAt bAt (by decide)⟩,
    ⟨c, d, cAt, dAt, distance_of_lived.2 desertLived 4 5 c d cAt dAt (by decide)⟩⟩

end Engine

end Exact

end Ambience
