import Ambience.Proofs.Body.Scattered
import Ambience.Proofs.Engine.Descent
import Ambience.Proofs.Engine.Zones

/-!
# New scenes are in view

A new scene starts with its bodies in view, whatever its theme and its size are: all but the stones,
which keep so far from the left and the top that they leave a view which is too small for that.
-/

namespace Ambience

variable {α σ : Type} [ExactScalar α] [Words σ] [Units σ α] [UnitRange σ α]

/-! ## Stones -/

omit [Words σ] in
/-- A coordinate that is drawn with an inset from both sides. Where there is no room for the two of
them it is the first inset, in view or not. -/
theorem Draw.le_iff_of_inset {inset length x : α} {source after : σ} (nonneg : 0 ≤ inset)
    (run : Runs (span inset (length - inset)) source x after) :
    0 ≤ x ∧ (x ≤ length ↔ inset ≤ length) := by
  rcases lt_or_ge inset (length - inset) with roomy | crowded
  · obtain ⟨low, high⟩ := of_span roomy run
    exact ⟨nonneg.trans low, fun _ => by linarith, fun _ => by linarith⟩
  · unfold span at run
    rw [if_neg (not_lt.2 crowded)] at run
    obtain ⟨rfl, -⟩ := Runs.of_pure run
    exact ⟨nonneg, Iff.rfl⟩

namespace Stone

variable {site : Site α} {geometry : Geometry α} {source after : σ}

/-- A stone as it is placed in a view. It is in the view exactly if the stone and half of its rings
have room between it and the sides from which it keeps its distance. -/
structure Inset (bounds : Bounds α) (s : Stone α) : Prop where
  radius_mem : 16 ≤ s.radius ∧ s.radius < 38
  nonneg : 0 ≤ s.x ∧ 0 ≤ s.y
  right_iff : s.x ≤ bounds.width ↔ s.radius + 13 ≤ bounds.width
  bottom_iff : s.y ≤ bounds.height ↔ s.radius + 13 ≤ bounds.height

/-- A stone is born `Inset` from the sides by its radius and half the width of its rings, where
there is room for that. -/
theorem inset_of_spawn {s : Stone α} {zone : Zone α}
    (run : Runs (spawn site geometry) source (some (s, zone)) after) : s.Inset site.bounds := by
  obtain ⟨radius, _, radiusRun, run⟩ := Runs.of_bind run
  obtain ⟨place, _, placeRun, run⟩ := Runs.of_bind run
  cases place with
  | none => cases (Runs.of_pure run).1
  | some point =>
    obtain ⟨⟨_, _, proposeRun⟩, -⟩ := Geometry.of_placeClear_some placeRun
    obtain ⟨x, _, xRun, proposeRun⟩ := Runs.of_bind proposeRun
    obtain ⟨y, _, yRun, proposeRun⟩ := Runs.of_bind proposeRun
    cases (Runs.of_pure proposeRun).1
    obtain ⟨opacity, _, _, run⟩ := Runs.of_bind run
    obtain ⟨shade, _, _, run⟩ := Runs.of_bind run
    cases (Runs.of_pure run).1
    have radiusMem := Draw.of_uniform radiusRun
    norm_num [ringBand, ExactScalar.literal_eq] at radiusMem xRun yRun
    have inset : 0 ≤ radius + 13 := by linarith [radiusMem.1]
    obtain ⟨left, right⟩ := Draw.le_iff_of_inset inset xRun
    obtain ⟨top, bottom⟩ := Draw.le_iff_of_inset inset yRun
    exact ⟨radiusMem, ⟨left, top⟩, right, bottom⟩

end Stone

/-- A body as it starts: in view if it is strewn over the view, and with its inset if it is a stone. -/
structure Body.Starts (bounds : Bounds α) (body : Body α) : Prop where
  inView : body.kind.isStrewn = true → body.InView bounds
  inset : ∀ s, body = .stone s → s.Inset bounds

/-- What is born for a new scene starts where `Body.Starts` says. -/
theorem Kind.starts_of_spawn {kind : Kind} {site : Site α} {geometry geometry' : Geometry α}
    {source after : σ} {body : Body α} (scattered : site.origin = .scatter)
    (wide : 0 ≤ site.bounds.width) (high : 0 ≤ site.bounds.height)
    (run : Runs (kind.spawn site geometry) source (some body, geometry') after) :
    body.Starts site.bounds := by
  have same : body.kind = kind := by
    cases of_spawn run with
    | found same => exact same
  subst same
  refine ⟨fun strewn => inView_of_spawn scattered wide high strewn run, ?_⟩
  rintro s rfl
  obtain ⟨born, _, bornRun, run⟩ := Runs.of_bind run
  cases born with
  | none => cases (Runs.of_pure run).1
  | some pair =>
    cases (Runs.of_pure run).1
    exact Stone.inset_of_spawn bornRun

/-! ## Scenes -/

namespace Engine

variable {engine after : Engine α σ} {width height : α} {events : List (Event α)}

/-- All bodies of a new scene start where `Body.Starts` says, in a view of any size. -/
theorem starts_of_rebuild (wide : 0 ≤ width) (high : 0 ≤ height)
    (run : engine.rebuild width height = .ok (after, events)) :
    ∀ entity ∈ after.scene.entities, entity.body.Starts ⟨width, height⟩ := by
  have bounds : Bounds.of width height = ⟨width, height⟩ := by
    rw [Bounds.of, ExactScalar.restrict_of_nonneg wide, ExactScalar.restrict_of_nonneg high]
  intro entity member
  obtain ⟨spec, -, slot, before, next, -, bearRun⟩ := scatters_of_rebuild run entity member
  rw [bounds] at bearRun
  obtain ⟨_, _, spawnRun, -, -⟩ := Nursery.spawn_of_bear bearRun
  exact Kind.starts_of_spawn rfl wide high spawnRun

/-- A new scene is in view. Whatever the theme, the source of randomness and the scale are, and
however small the view is, every flake, petal, leaf, firefly, star, koi and ripple (`Kind.isStrewn`)
starts in it. A stone never starts to the left of the view or above it; it is in the view exactly if
its radius and half the width of its rings fit between the sides, as they always do in a view of 51
pixels and more. -/
theorem inView_of_rebuild (wide : 0 ≤ width) (high : 0 ≤ height)
    (run : engine.rebuild width height = .ok (after, events)) :
    (∀ entity ∈ after.scene.entities, entity.body.kind.isStrewn = true →
      ∃ x y, entity.body.position? = some (x, y) ∧
        0 ≤ x ∧ x ≤ width ∧ 0 ≤ y ∧ y ≤ height) ∧
    ∀ id s, ⟨id, .stone s⟩ ∈ after.scene.entities →
      16 ≤ s.radius ∧ s.radius < 38 ∧ 0 ≤ s.x ∧ 0 ≤ s.y ∧
        (s.x ≤ width ↔ s.radius + 13 ≤ width) ∧ (s.y ≤ height ↔ s.radius + 13 ≤ height) := by
  have starts := starts_of_rebuild wide high run
  constructor
  · intro entity member strewn
    obtain ⟨x, y, position, holds⟩ := (starts entity member).inView strewn
    exact ⟨x, y, position, holds.left, holds.right, holds.top, holds.bottom⟩
  · intro id s member
    have inset := (starts _ member).inset s rfl
    exact ⟨inset.radius_mem.1, inset.radius_mem.2, inset.nonneg.1, inset.nonneg.2,
      inset.right_iff, inset.bottom_iff⟩

/-- A pond of no extent, and a garden in two rows of cells. -/
def shallows : Except Fault (Engine ℚ Random.Stream × Engine ℚ Random.Stream) := do
  let (pond, _) ← start Theme.koi 1 1 0 0
  let (garden, _) ← start Theme.zen 1 1 640 32
  return (pond, garden)

/-- In a pond of no extent a koi starts in its one point. The first stone of a garden in two rows is
between its left and its right side, and above the lower one only if it is small. -/
theorem inView_of_shallows :
    ∃ (pond garden : Engine ℚ Random.Stream) (ponds gardens : List (Event ℚ)) (koi : Entity ℚ)
      (s : Stone ℚ),
      start Theme.koi 1 1 0 0 = .ok (pond, ponds) ∧ start Theme.zen 1 1 640 32 = .ok (garden, gardens) ∧
      koi ∈ pond.scene.entities ∧ koi.body.kind = .koi ∧ koi.body.position? = some (0, 0) ∧
      ⟨1, .stone s⟩ ∈ garden.scene.entities ∧ 0 ≤ s.x ∧ s.x ≤ 640 ∧
      (s.y ≤ 32 ↔ s.radius + 13 ≤ 32) := by
  have ends : shallows.toOption.any (fun (pond, garden) =>
      pond.scene.entities.map (fun entity => (entity.id, entity.body.kind)) ==
        [(1, .ripple), (2, .ripple), (3, .ripple), (4, .koi), (5, .koi), (6, .koi)] &&
      garden.scene.entities.map (fun entity => (entity.id, entity.body.kind)) ==
        [(1, .stone), (2, .stone), (3, .stone), (4, .rake)]) = true := by
    decide +kernel
  obtain ⟨⟨pond, garden⟩, run, checked⟩ := of_any_toOption ends
  obtain ⟨⟨_, ponds⟩, pondRun, run⟩ := of_bind_eq_ok run
  obtain ⟨⟨_, gardens⟩, gardenRun, run⟩ := of_bind_eq_ok run
  cases of_pure_eq_ok run
  rw [Bool.and_eq_true, beq_iff_eq, beq_iff_eq] at checked
  obtain ⟨body, koiAt, koi⟩ := Scene.exists_of_kinds checked.1 4 .koi (by decide)
  obtain ⟨_, stoneAt, stone⟩ := Scene.exists_of_kinds checked.2 1 .stone (by decide)
  obtain ⟨s, rfl⟩ := Body.exists_stone stone
  have strewn : body.kind.isStrewn = true := by
    rw [koi]
    rfl
  obtain ⟨x, y, position, left, right, top, bottom⟩ :=
    (inView_of_rebuild (le_refl 0) (le_refl 0) pondRun).1 _ koiAt strewn
  obtain rfl := le_antisymm right left
  obtain rfl := le_antisymm bottom top
  obtain ⟨-, small, nonneg, -, across, down⟩ :=
    (inView_of_rebuild (by norm_num) (by norm_num) gardenRun).2 1 s stoneAt
  exact ⟨pond, garden, ponds, gardens, ⟨4, body⟩, s, pondRun, gardenRun, koiAt, koi, position, stoneAt,
    nonneg, across.2 (by linarith), down⟩

/-- In a garden in two rows a stone starts below the view. -/
theorem stone_below_view :
    ∃ (garden : Engine ℚ Random.Stream) (events : List (Event ℚ)) (entity : Entity ℚ) (x y : ℚ),
      start Theme.zen 1 1 640 32 = .ok (garden, events) ∧ entity ∈ garden.scene.entities ∧
      entity.body.kind = .stone ∧ entity.body.position? = some (x, y) ∧ 32 < y := by
  have below : (start (σ := Random.Stream) (Theme.zen : Theme ℚ) 1 1 640 32).toOption.any
      (fun (garden, _) => garden.scene.entities.any fun entity =>
        entity.body.kind == .stone && entity.body.position?.any fun point => decide (32 < point.2)) =
      true := by
    decide +kernel
  obtain ⟨⟨garden, events⟩, run, below⟩ := of_any_toOption below
  obtain ⟨entity, member, below⟩ := List.any_eq_true.1 below
  rw [Bool.and_eq_true, beq_iff_eq, Option.any_eq_true] at below
  obtain ⟨stone, ⟨x, y⟩, position, low⟩ := below
  exact ⟨garden, events, entity, x, y, run, member, stone, position, of_decide_eq_true low⟩

end Engine

end Ambience
