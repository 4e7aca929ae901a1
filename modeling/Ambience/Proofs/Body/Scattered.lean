import Ambience.Proofs.Body.Newborn

/-!
# Scattered bodies

A new scene is strewn with bodies that may be anywhere in the view. The rules of these kinds take
both coordinates from the whole view, so that none of them starts out of it, however small the view
is.
-/

namespace Ambience

variable {α σ : Type} [ExactScalar α] [Units σ α] [UnitRange σ α] {site : Site α} {source after : σ}

/-- A point of a view. -/
structure Bounds.Holds (bounds : Bounds α) (x y : α) : Prop where
  left : 0 ≤ x
  right : x ≤ bounds.width
  top : 0 ≤ y
  bottom : y ≤ bounds.height

/-- A body that is anchored at a point of a view. -/
def Body.InView (bounds : Bounds α) (body : Body α) : Prop :=
  ∃ x y, body.position? = some (x, y) ∧ bounds.Holds x y

/-- Whether bodies of a kind may be anywhere in the view of a new scene. -/
def Kind.isStrewn : Kind → Bool
  | .flake | .petal | .leaf | .firefly | .star | .koi | .ripple => true
  | _ => false

/-! ## Points of a view -/

/-- A point whose coordinates are drawn by `Draw.span` from one side of a view to the other. -/
theorem Bounds.holds_of_span {bounds : Bounds α} {x y : α} {sourceX afterX sourceY afterY : σ}
    (wide : 0 ≤ bounds.width) (high : 0 ≤ bounds.height)
    (xRun : Runs (Draw.span 0.0 bounds.width) sourceX x afterX)
    (yRun : Runs (Draw.span 0.0 bounds.height) sourceY y afterY) : bounds.Holds x y := by
  rw [ExactScalar.zero_literal] at xRun yRun
  obtain ⟨left, right⟩ := Draw.mem_of_span wide xRun
  obtain ⟨top, bottom⟩ := Draw.mem_of_span high yRun
  exact ⟨left, right, top, bottom⟩

section Sized

variable (scattered : site.origin = .scatter) (wide : 0 ≤ site.bounds.width)
  (high : 0 ≤ site.bounds.height)

include scattered wide high

theorem Flake.holds_of_spawn {f : Flake α} (run : Runs (spawn site) source f after) :
    site.bounds.Holds f.x f.y := by
  unfold spawn at run
  extract_lets rest at run
  rw [scattered] at run
  obtain ⟨y, _, yRun, run⟩ := Runs.of_bind run
  obtain ⟨x, _, xRun, run⟩ := Runs.of_bind run
  obtain ⟨z, _, _, run⟩ := Runs.of_bind run
  obtain ⟨speed, _, _, run⟩ := Runs.of_bind run
  obtain ⟨size, _, _, run⟩ := Runs.of_bind run
  obtain ⟨opacity, _, _, run⟩ := Runs.of_bind run
  obtain ⟨sway, _, _, run⟩ := Runs.of_bind run
  cases (Runs.of_pure run).1
  exact Bounds.holds_of_span wide high xRun yRun

theorem Star.holds_of_spawn {s : Star α} (run : Runs (spawn site) source s after) :
    site.bounds.Holds s.x s.y := by
  unfold spawn at run
  extract_lets rest at run
  rw [scattered] at run
  obtain ⟨x, _, xRun, run⟩ := Runs.of_bind run
  obtain ⟨y, _, yRun, run⟩ := Runs.of_bind run
  obtain ⟨nearness, _, _, run⟩ := Runs.of_bind run
  obtain ⟨speed, _, _, run⟩ := Runs.of_bind run
  obtain ⟨size, _, _, run⟩ := Runs.of_bind run
  obtain ⟨opacity, _, _, run⟩ := Runs.of_bind run
  obtain ⟨twinkle, _, _, run⟩ := Runs.of_bind run
  cases (Runs.of_pure run).1
  exact Bounds.holds_of_span wide high xRun yRun

omit scattered in
/-- A ripple is in the view in every scene, new or not. -/
theorem Ripple.holds_of_spawn {r : Ripple α} (run : Runs (spawn site) source r after) :
    site.bounds.Holds r.x r.y := by
  obtain ⟨maxRadius, _, _, run⟩ := Runs.of_bind run
  extract_lets rest at run
  have of_rest : ∀ {radius : α} {source : σ}, Runs (rest radius) source r after →
      site.bounds.Holds r.x r.y := by
    intro radius source run
    obtain ⟨x, _, xRun, run⟩ := Runs.of_bind run
    obtain ⟨y, _, yRun, run⟩ := Runs.of_bind run
    obtain ⟨growth, _, _, run⟩ := Runs.of_bind run
    obtain ⟨opacity, _, _, run⟩ := Runs.of_bind run
    cases (Runs.of_pure run).1
    exact Bounds.holds_of_span wide high xRun yRun
  split at run
  · obtain ⟨radius, _, _, run⟩ := Runs.of_bind run
    exact of_rest run
  · obtain ⟨radius, _, _, run⟩ := Runs.of_bind run
    exact of_rest run

/-- The `entry` of petals and leaves into a new scene is in the view. -/
theorem Tumbler.holds_of_entry {point : α × α} (run : Runs (entry site) source point after) :
    site.bounds.Holds point.1 point.2 := by
  unfold entry at run
  extract_lets width height fromTop side at run
  rw [scattered] at run
  obtain ⟨x, _, xRun, run⟩ := Runs.of_bind run
  obtain ⟨y, _, yRun, run⟩ := Runs.of_bind run
  cases (Runs.of_pure run).1
  exact Bounds.holds_of_span wide high xRun yRun

variable [Words σ]

/-- Petals and leaves of a new scene are in the view, whatever their `Ranges` are. -/
theorem Tumbler.holds_of_spawn {ranges : Ranges α} {t : Tumbler α}
    (run : Runs (spawn ranges site) source t after) : site.bounds.Holds t.x t.y := by
  obtain ⟨⟨x, y⟩, _, entryRun, run⟩ := Runs.of_bind run
  obtain ⟨vx, _, _, run⟩ := Runs.of_bind run
  obtain ⟨vy, _, _, run⟩ := Runs.of_bind run
  obtain ⟨rotation, _, _, run⟩ := Runs.of_bind run
  obtain ⟨spin, _, _, run⟩ := Runs.of_bind run
  obtain ⟨size, _, _, run⟩ := Runs.of_bind run
  obtain ⟨opacity, _, _, run⟩ := Runs.of_bind run
  obtain ⟨shade, _, _, run⟩ := Runs.of_bind run
  obtain ⟨flutter, _, _, run⟩ := Runs.of_bind run
  cases (Runs.of_pure run).1
  exact holds_of_entry scattered wide high entryRun

/-- The `wanderEntry` of fireflies and koi into a new scene is in the view, however far outside they
may enter later. -/
theorem holds_of_wanderEntry {outside spread x y heading : α}
    (run : Runs (wanderEntry site outside spread) source (x, y, heading) after) :
    site.bounds.Holds x y := by
  unfold wanderEntry at run
  extract_lets width height at run
  rw [scattered] at run
  obtain ⟨x, _, xRun, run⟩ := Runs.of_bind run
  obtain ⟨y, _, yRun, run⟩ := Runs.of_bind run
  obtain ⟨heading, _, _, run⟩ := Runs.of_bind run
  cases (Runs.of_pure run).1
  exact Bounds.holds_of_span wide high xRun yRun

theorem Firefly.holds_of_spawn {f : Firefly α} (run : Runs (spawn site) source f after) :
    site.bounds.Holds f.x f.y := by
  obtain ⟨⟨x, y, heading⟩, _, entryRun, run⟩ := Runs.of_bind run
  obtain ⟨speed, _, _, run⟩ := Runs.of_bind run
  obtain ⟨radius, _, _, run⟩ := Runs.of_bind run
  obtain ⟨opacity, _, _, run⟩ := Runs.of_bind run
  obtain ⟨wander, _, _, run⟩ := Runs.of_bind run
  obtain ⟨phase, _, _, run⟩ := Runs.of_bind run
  obtain ⟨blinking, _, _, run⟩ := Runs.of_bind run
  cases (Runs.of_pure run).1
  exact holds_of_wanderEntry scattered wide high entryRun

theorem Koi.holds_of_spawn {k : Koi α} (run : Runs (spawn site) source k after) :
    site.bounds.Holds k.x k.y := by
  obtain ⟨length, _, _, run⟩ := Runs.of_bind run
  obtain ⟨⟨x, y, heading⟩, _, entryRun, run⟩ := Runs.of_bind run
  obtain ⟨speed, _, _, run⟩ := Runs.of_bind run
  obtain ⟨opacity, _, _, run⟩ := Runs.of_bind run
  obtain ⟨variant, _, _, run⟩ := Runs.of_bind run
  obtain ⟨wander, _, _, run⟩ := Runs.of_bind run
  obtain ⟨tail, _, _, run⟩ := Runs.of_bind run
  cases (Runs.of_pure run).1
  exact holds_of_wanderEntry scattered wide high entryRun

/-- A body that is strewn over a view (`Kind.isStrewn`) starts in it. -/
theorem Kind.inView_of_spawn {kind : Kind} {geometry geometry' : Geometry α} {body : Body α}
    (strewn : kind.isStrewn = true)
    (run : Runs (kind.spawn site geometry) source (some body, geometry') after) :
    body.InView site.bounds := by
  cases kind with
  | flake =>
    obtain ⟨f, bornRun, rfl⟩ := of_free run
    exact ⟨f.x, f.y, rfl, f.holds_of_spawn scattered wide high bornRun⟩
  | petal =>
    obtain ⟨t, bornRun, rfl⟩ := of_free run
    exact ⟨t.x, t.y, rfl, t.holds_of_spawn scattered wide high bornRun⟩
  | leaf =>
    obtain ⟨t, bornRun, rfl⟩ := of_free run
    exact ⟨t.x, t.y, rfl, t.holds_of_spawn scattered wide high bornRun⟩
  | firefly =>
    obtain ⟨f, bornRun, rfl⟩ := of_free run
    exact ⟨f.x, f.y, rfl, f.holds_of_spawn scattered wide high bornRun⟩
  | star =>
    obtain ⟨s, bornRun, rfl⟩ := of_free run
    exact ⟨s.x, s.y, rfl, s.holds_of_spawn scattered wide high bornRun⟩
  | koi =>
    obtain ⟨k, bornRun, rfl⟩ := of_free run
    exact ⟨k.x, k.y, rfl, k.holds_of_spawn scattered wide high bornRun⟩
  | ripple =>
    obtain ⟨r, bornRun, rfl⟩ := of_free run
    exact ⟨r.x, r.y, rfl, r.holds_of_spawn wide high bornRun⟩
  | _ => cases strewn

end Sized

end Ambience
