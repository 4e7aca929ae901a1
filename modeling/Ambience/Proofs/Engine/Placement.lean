import Ambience.Proofs.Engine.Births

/-!
# Placement

Stones and cacti are placed clear of the zones around one another, and each that finds a place keeps
a zone of its own. One that finds none in all its attempts leaves nothing behind. A body of any other
kind has no part in the zones.
-/

namespace Ambience

variable {α σ : Type} [Scalar α]

/-- The zone that a placed body keeps free: the rings of a stone, and half the height of a cactus
around the ground that it stands on. -/
inductive Body.Keeps : Body α → Zone α → Prop
  | stone (s : Stone α) : Keeps (.stone s) ⟨s.x, s.y, s.radius + 26.0⟩
  | cactus {c : Cactus α} {ground : α} :
    c.base = ground + 2.0 → Keeps (.cactus c) ⟨c.x, ground, c.height * 0.5⟩

/-! ## Attempts -/

/-- Some proposals in turn, none of which is clear of the zones. -/
inductive Geometry.Blocked (geometry : Geometry α) (pad : α) (propose : Draw σ (α × α)) :
    Nat → σ → σ → Prop
  | none {source : σ} : Blocked geometry pad propose 0 source source
  | next {attempts : Nat} {point : α × α} {source middle after : σ} :
    Runs propose source point middle → geometry.isClear point.1 point.2 pad = false →
    Blocked geometry pad propose attempts middle after →
    Blocked geometry pad propose (attempts + 1) source after

/-- A search for a place fails exactly if all of its attempts are `Blocked`. -/
theorem Geometry.placeClear_runs_none {geometry : Geometry α} {pad : α} {propose : Draw σ (α × α)}
    {attempts : Nat} {source after : σ} :
    Runs (geometry.placeClear pad propose attempts) source none after ↔
      geometry.Blocked pad propose attempts source after := by
  constructor
  · intro run
    induction attempts generalizing source with
    | zero =>
      obtain ⟨-, rfl⟩ := Runs.of_pure run
      exact .none
    | succ attempts ih =>
      obtain ⟨point, middle, proposeRun, run⟩ := Runs.of_bind run
      cases clear : geometry.isClear point.1 point.2 pad with
      | true =>
        rw [clear] at run
        cases (Runs.of_pure run).1
      | false =>
        rw [clear] at run
        exact .next proposeRun clear (ih run)
  · intro blocked
    induction blocked with
    | none => rfl
    | next proposeRun clear _ ih =>
      refine .bind proposeRun ?_
      rw [clear]
      exact ih

section Draws

variable [Words σ] [Units σ α]

/-- Where a stone may be proposed: so far from the sides that its inner rings are in view. -/
def Stone.proposal (site : Site α) (radius : α) : Draw σ (α × α) := do
  let edge := radius + ringBand * 0.5
  let x ← Draw.span edge (site.bounds.width - edge)
  let y ← Draw.span edge (site.bounds.height - edge)
  return (x, y)

/-- The height of the ground under a cactus: that of the terrain, or of the front where there is
none. -/
def Cactus.groundAt (site : Site α) (geometry : Geometry α) (x : α) : α :=
  (geometry.groundAt x).getD (site.bounds.height * Ridge.baseline 2)

/-- Where a cactus may be proposed: on the ground. -/
def Cactus.proposal (site : Site α) (geometry : Geometry α) : Draw σ (α × α) := do
  let x ← Draw.span inset (site.bounds.width - inset)
  return (x, groundAt site geometry x)

/-- A birth that exhausts its attempts, between two states of its source. -/
inductive Kind.Exhausts (site : Site α) (geometry : Geometry α) : Kind → σ → σ → Prop
  | stone {radius : α} {source middle after : σ} :
    Runs (Draw.uniform 16.0 38.0) source radius middle →
    geometry.Blocked (radius + Stone.ringBand + Stone.gap) (Stone.proposal site radius)
      placementAttempts middle after →
    Exhausts site geometry .stone source after
  | cactus {height : α} {source middle after : σ} :
    Runs (Draw.uniform (28.0 : α) 64.0) source height middle →
    geometry.Blocked Cactus.gap (Cactus.proposal site geometry) placementAttempts middle after →
    Exhausts site geometry .cactus source after

/-- What a birth makes of the geometry: nothing when it exhausts its attempts, one more zone around a
placed body, and the same zones otherwise. -/
inductive Kind.Places (kind : Kind) (site : Site α) (geometry : Geometry α) (source after : σ) :
    Option (Body α) → Geometry α → Prop
  | crowded :
    kind.Exhausts site geometry source after →
    Places kind site geometry source after none geometry
  | placed {body : Body α} {zone : Zone α} :
    kind.isPlaced = true → body.kind = kind → body.Keeps zone →
    (kind = .cactus → zone.y = Cactus.groundAt site geometry zone.x) →
    Places kind site geometry source after (some body)
      { geometry with zones := geometry.zones ++ [zone] }
  | free {body : Body α} {geometry' : Geometry α} :
    kind.isPlaced = false → body.kind = kind → geometry'.zones = geometry.zones →
    Places kind site geometry source after (some body) geometry'

variable {kind : Kind} {site : Site α} {geometry geometry' : Geometry α} {source after : σ}
  {body : Option (Body α)}

omit [Words σ] [Units σ α] in
/-- What is placed was proposed, and is clear of all zones. -/
theorem Geometry.of_placeClear_some {pad : α} {propose : Draw σ (α × α)} {attempts : Nat}
    {point : α × α} (run : Runs (geometry.placeClear pad propose attempts) source (some point) after) :
    (∃ before middle, Runs propose before point middle) ∧
      geometry.isClear point.1 point.2 pad = true := by
  induction attempts generalizing source with
  | zero => cases (Runs.of_pure run).1
  | succ attempts ih =>
    obtain ⟨proposed, middle, proposeRun, run⟩ := Runs.of_bind run
    cases clear : geometry.isClear proposed.1 proposed.2 pad with
    | true =>
      rw [clear] at run
      cases (Runs.of_pure run).1
      exact ⟨⟨source, middle, proposeRun⟩, clear⟩
    | false =>
      rw [clear] at run
      exact ih run

/-- A stone gets a zone of its radius and the band of rings around it, and keeps a gap from all
others. -/
theorem Stone.of_spawn {s : Stone α} {zone : Zone α}
    (run : Runs (spawn site geometry) source (some (s, zone)) after) :
    zone = ⟨s.x, s.y, s.radius + ringBand⟩ ∧
      geometry.isClear s.x s.y (s.radius + ringBand + gap) = true := by
  obtain ⟨radius, _, _, run⟩ := Runs.of_bind run
  obtain ⟨place, _, placeRun, run⟩ := Runs.of_bind run
  cases place with
  | none => cases (Runs.of_pure run).1
  | some point =>
    obtain ⟨opacity, _, _, run⟩ := Runs.of_bind run
    obtain ⟨shade, _, _, run⟩ := Runs.of_bind run
    cases (Runs.of_pure run).1
    exact ⟨rfl, (Geometry.of_placeClear_some placeRun).2⟩

/-- A cactus stands on the terrain, inset from both sides, and gets a zone of half its height. -/
theorem Cactus.of_spawn {c : Cactus α} {zone : Zone α}
    (run : Runs (spawn site geometry) source (some (c, zone)) after) :
    zone = ⟨c.x, groundAt site geometry c.x, c.height * 0.5⟩ ∧
      c.base = groundAt site geometry c.x + depth ∧
      geometry.isClear c.x (groundAt site geometry c.x) gap = true ∧
      ∃ before middle : σ,
        Runs (Draw.span inset (site.bounds.width - inset)) before c.x middle := by
  obtain ⟨height, _, _, run⟩ := Runs.of_bind run
  obtain ⟨place, _, placeRun, run⟩ := Runs.of_bind run
  cases place with
  | none => cases (Runs.of_pure run).1
  | some point =>
    obtain ⟨⟨before, _, proposeRun⟩, clear⟩ := Geometry.of_placeClear_some placeRun
    obtain ⟨x, middle, spanRun, proposeRun⟩ := Runs.of_bind proposeRun
    cases (Runs.of_pure proposeRun).1
    obtain ⟨arms, _, _, run⟩ := Runs.of_bind run
    obtain ⟨opacity, _, _, run⟩ := Runs.of_bind run
    cases (Runs.of_pure run).1
    exact ⟨rfl, rfl, clear, before, middle, spanRun⟩

theorem Stone.places_of_spawn {born : Option (Stone α × Zone α)}
    (run : Runs (spawn site geometry) source born after) :
    Kind.stone.Places site geometry source after (geometry.enter .stone born).1
      (geometry.enter .stone born).2 := by
  cases born with
  | some pair =>
    obtain ⟨s, zone⟩ := pair
    obtain ⟨rfl, -⟩ := Stone.of_spawn run
    exact .placed rfl rfl (.stone s) (by rintro ⟨⟩)
  | none =>
    obtain ⟨radius, middle, radiusRun, run⟩ := Runs.of_bind run
    obtain ⟨place, last, placeRun, run⟩ := Runs.of_bind run
    cases place with
    | none =>
      obtain ⟨-, rfl⟩ := Runs.of_pure run
      exact .crowded (.stone radiusRun (Geometry.placeClear_runs_none.1 placeRun))
    | some point =>
      obtain ⟨opacity, _, _, run⟩ := Runs.of_bind run
      obtain ⟨shade, _, _, run⟩ := Runs.of_bind run
      cases (Runs.of_pure run).1

theorem Cactus.places_of_spawn {born : Option (Cactus α × Zone α)}
    (run : Runs (spawn site geometry) source born after) :
    Kind.cactus.Places site geometry source after (geometry.enter .cactus born).1
      (geometry.enter .cactus born).2 := by
  cases born with
  | some pair =>
    obtain ⟨c, zone⟩ := pair
    obtain ⟨rfl, base, -, -⟩ := Cactus.of_spawn run
    exact .placed rfl rfl (.cactus base) (fun _ => rfl)
  | none =>
    obtain ⟨height, middle, heightRun, run⟩ := Runs.of_bind run
    obtain ⟨place, last, placeRun, run⟩ := Runs.of_bind run
    cases place with
    | none =>
      obtain ⟨-, rfl⟩ := Runs.of_pure run
      exact .crowded (.cactus heightRun (Geometry.placeClear_runs_none.1 placeRun))
    | some point =>
      obtain ⟨arms, _, _, run⟩ := Runs.of_bind run
      obtain ⟨opacity, _, _, run⟩ := Runs.of_bind run
      cases (Runs.of_pure run).1

omit [Words σ] in
/-- A ridge has the profile of its slot (`profileOf`), and in the last slot it becomes the
terrain. -/
theorem Ridge.of_spawn {born : Ridge α}
    (run : Runs (spawn site geometry) source (born, geometry') after) :
    sampleCount site.bounds.width ≤ Scalar.maxCount ∧
      born.profile = profileOf geometry.noiseSeed site.slot site.bounds ∧
      geometry' =
        if site.slot + 1 = site.population then
          { geometry with horizon := born.profile, horizonStep := sampleSpacing }
        else geometry := by
  by_cases wide : Scalar.maxCount < sampleCount site.bounds.width
  · unfold spawn at run
    rw [if_pos wide] at run
    cases run
  · unfold spawn at run
    rw [if_neg wide] at run
    obtain ⟨shimmer, _, _, run⟩ := Runs.of_bind run
    cases (Runs.of_pure run).1
    exact ⟨Nat.le_of_not_lt wide, rfl, rfl⟩

omit [Words σ] in
theorem Ridge.zones_of_spawn {born : Ridge α}
    (run : Runs (spawn site geometry) source (born, geometry') after) :
    geometry'.zones = geometry.zones := by
  obtain ⟨-, -, rfl⟩ := Ridge.of_spawn run
  split <;> rfl

/-- Every birth is one of the cases of `Kind.Places`, which says what becomes of the geometry. -/
theorem Kind.places_of_spawn (run : Runs (kind.spawn site geometry) source (body, geometry') after) :
    kind.Places site geometry source after body geometry' := by
  cases kind with
  | stone =>
    obtain ⟨born, _, bornRun, run⟩ := Runs.of_bind run
    obtain ⟨same, rfl⟩ := Runs.of_pure run
    have places := Stone.places_of_spawn bornRun
    rw [← same] at places
    exact places
  | cactus =>
    obtain ⟨born, _, bornRun, run⟩ := Runs.of_bind run
    obtain ⟨same, rfl⟩ := Runs.of_pure run
    have places := Cactus.places_of_spawn bornRun
    rw [← same] at places
    exact places
  | ridge =>
    obtain ⟨⟨born, horizon⟩, _, bornRun, run⟩ := Runs.of_bind run
    cases (Runs.of_pure run).1
    exact .free rfl rfl (Ridge.zones_of_spawn bornRun)
  | _ =>
    obtain ⟨born, _, _, run⟩ := Runs.of_bind run
    cases (Runs.of_pure run).1
    exact .free rfl rfl rfl

/-- A kind that `Exhausts` its attempts gives nothing and leaves the geometry alone. -/
theorem Kind.spawn_of_exhausts (exhausts : kind.Exhausts site geometry source after) :
    Runs (kind.spawn site geometry) source (none, geometry) after := by
  cases exhausts with
  | stone radiusRun blocked =>
    have placeRun := Geometry.placeClear_runs_none.2 blocked
    have spawnRun : Runs (Stone.spawn site geometry) source none after :=
      .bind radiusRun (.bind placeRun rfl)
    exact .bind spawnRun rfl
  | cactus heightRun blocked =>
    have placeRun := Geometry.placeClear_runs_none.2 blocked
    have spawnRun : Runs (Cactus.spawn site geometry) source none after :=
      .bind heightRun (.bind placeRun rfl)
    exact .bind spawnRun rfl

end Draws

/-! ## Births -/

namespace Nursery

variable [Words σ] [Units σ α] {kind : Kind} {site : Site α} {nursery after : Nursery α σ}

/-- A birth that gives nothing is one that exhausts its attempts (`Kind.Exhausts`), and it changes
nothing but the source of randomness. -/
theorem bear_runs_none :
    Runs (bear kind site) nursery none after ↔
      ∃ source, kind.Exhausts site nursery.geometry nursery.source source ∧
        after = { nursery with source } := by
  constructor
  · intro run
    obtain ⟨⟨⟨body, geometry⟩, source⟩, spawnRun, run⟩ := of_bind_eq_ok run
    cases body with
    | none =>
      cases of_pure_eq_ok run
      cases Kind.places_of_spawn spawnRun with
      | crowded exhausts => exact ⟨source, exhausts, rfl⟩
    | some body => cases of_pure_eq_ok run
  · rintro ⟨source, exhausts, rfl⟩
    have spawnRun := Kind.spawn_of_exhausts exhausts
    unfold Runs at spawnRun ⊢
    show (kind.spawn site nursery.geometry).run nursery.source >>= _ = _
    rw [spawnRun]
    rfl

/-- A body that is born comes from a birth of its kind, under the next identity. -/
theorem spawn_of_bear {entity : Entity α} (run : Runs (bear kind site) nursery (some entity) after) :
    ∃ geometry source,
      Runs (kind.spawn site nursery.geometry) nursery.source (some entity.body, geometry) source ∧
      entity.id = nursery.nextId ∧ after = { source, geometry, nextId := nursery.nextId + 1 } := by
  obtain ⟨⟨⟨body, geometry⟩, source⟩, spawnRun, run⟩ := of_bind_eq_ok run
  cases body with
  | none => cases of_pure_eq_ok run
  | some body =>
    cases of_pure_eq_ok run
    exact ⟨geometry, source, spawnRun, rfl, rfl⟩

/-- A body that is born has its kind, and it gets a zone if it is placed. -/
theorem of_bear_some {entity : Entity α} (run : Runs (bear kind site) nursery (some entity) after) :
    ∃ geometry source,
      kind.Places site nursery.geometry nursery.source source (some entity.body) geometry ∧
      after = { source, geometry, nextId := nursery.nextId + 1 } := by
  obtain ⟨geometry, source, spawnRun, -, rfl⟩ := spawn_of_bear run
  exact ⟨geometry, source, Kind.places_of_spawn spawnRun, rfl⟩

end Nursery

end Ambience
