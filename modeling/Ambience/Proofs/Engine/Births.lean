import Ambience.Engine
import Ambience.Proofs.Runs

/-!
# Births

What becomes of a body in a step depends on its kind, and so does whether a new body finds a place.
The kinds that are placed clear of others are the only ones that can fail to find one, and they are
never gone once they stand. A nursery hands out identities in order, one to each body that is born.
-/

namespace Ambience

/-! ## Kinds -/

/-- Whether bodies of a kind are placed clear of others, and may find no room. -/
def Kind.isPlaced : Kind → Bool
  | .stone | .cactus => true
  | _ => false

variable {α σ : Type} [Scalar α] [Words σ] [Units σ α]

/-- What a birth of a kind may give. -/
inductive Kind.Spawned (kind : Kind) : Option (Body α) → Prop
  | crowded : kind.isPlaced = true → Spawned kind none
  | found {body : Body α} : body.kind = kind → Spawned kind (some body)

omit [Scalar α] [Words σ] [Units σ α] in
/-- What finds a place is a body of the kind that was to be placed, and there may be none. -/
theorem Geometry.spawned_of_enter {β : Type} (kind : Kind) {geometry geometry' : Geometry α}
    {wrap : β → Body α} {birth : Draw σ (Option (β × Zone α))} {source source' : σ}
    {body : Option (Body α)} (placed : kind.isPlaced = true)
    (kept : ∀ record, (wrap record).kind = kind)
    (run : Runs (do return geometry.enter wrap (← birth)) source (body, geometry') source') :
    kind.Spawned body := by
  obtain ⟨born, _, _, run⟩ := Runs.of_bind run
  cases born with
  | none =>
    cases (Runs.of_pure run).1
    exact .crowded placed
  | some pair =>
    cases (Runs.of_pure run).1
    exact .found (kept pair.1)

/-- A birth gives a body of the kind, or nothing if the kind is placed clear of others
(`Kind.Spawned`). -/
theorem Kind.of_spawn {kind : Kind} {site : Site α} {geometry geometry' : Geometry α}
    {source source' : σ} {body : Option (Body α)}
    (run : Runs (kind.spawn site geometry) source (body, geometry') source') :
    kind.Spawned body := by
  cases kind with
  | stone => exact Geometry.spawned_of_enter .stone rfl (fun _ => rfl) run
  | cactus => exact Geometry.spawned_of_enter .cactus rfl (fun _ => rfl) run
  | _ =>
    obtain ⟨_, _, _, run⟩ := Runs.of_bind run
    cases (Runs.of_pure run).1
    exact .found rfl

omit [Words σ] in
/-- A step keeps the kind of a body, and leaves bodies alive that were placed clear of others. -/
theorem Body.of_step {body after : Body α} {tick : Tick α} {source source' : σ} {fate : Fate}
    (run : Runs (body.step tick) source (after, fate) source') :
    after.kind = body.kind ∧ (body.kind.isPlaced = true → fate = .alive) := by
  cases body with
  | stone | cactus =>
    cases (Runs.of_pure run).1
    exact ⟨rfl, fun _ => rfl⟩
  | firefly | koi =>
    obtain ⟨_, _, _, run⟩ := Runs.of_bind run
    cases (Runs.of_pure run).1
    exact ⟨rfl, by rintro ⟨⟩⟩
  | _ =>
    cases (Runs.of_pure run).1
    exact ⟨rfl, by rintro ⟨⟩⟩

/-! ## Nurseries -/

namespace Nursery

variable {kind : Kind} {nursery after : Nursery α σ}

/-- What comes of a birth in a nursery: a body with the next identity, or nothing. -/
inductive Born (kind : Kind) (nursery : Nursery α σ) : Option (Entity α) → Nursery α σ → Prop
  | crowded {after : Nursery α σ} :
    kind.isPlaced = true → after.nextId = nursery.nextId → Born kind nursery none after
  | found {body : Body α} {after : Nursery α σ} :
    body.kind = kind → after.nextId = nursery.nextId + 1 →
    Born kind nursery (some ⟨nursery.nextId, body⟩) after

/-- A birth in a nursery is one of the cases of `Born`. -/
theorem of_bear {site : Site α} {born : Option (Entity α)}
    (run : Runs (bear kind site) nursery born after) : Born kind nursery born after := by
  obtain ⟨⟨⟨body, geometry⟩, source⟩, spawnRun, run⟩ := of_bind_eq_ok run
  have spawned := Kind.of_spawn spawnRun
  cases spawned with
  | crowded placed =>
    cases of_pure_eq_ok run
    exact .crowded placed rfl
  | found same =>
    cases of_pure_eq_ok run
    exact .found same rfl

omit [Scalar α] [Words σ] [Units σ α] in
/-- A draw takes nothing from a nursery but randomness. -/
theorem of_draw {β : Type} {computation : Draw σ β} {result : β}
    (run : Runs (draw computation) nursery result after) :
    ∃ source, Runs computation nursery.source result source ∧ after = { nursery with source } := by
  obtain ⟨⟨value, source⟩, drawRun, run⟩ := of_bind_eq_ok run
  cases of_pure_eq_ok run
  exact ⟨source, drawRun, rfl⟩

/-- What comes of many births of a kind. -/
structure Filled (kind : Kind) (nursery : Nursery α σ) (places : Nat) (entities : List (Entity α))
    (missing : List Nat) (after : Nursery α σ) : Prop where
  kinds : ∀ entity ∈ entities, entity.body.kind = kind
  /-- Identities are handed out in order. -/
  ids : entities.map Entity.id = List.range' nursery.nextId entities.length
  nextId : after.nextId = nursery.nextId + entities.length
  /-- Each place is taken or missed. -/
  length : entities.length + missing.length = places
  /-- Only kinds that are placed clear of others miss a place. -/
  missing : kind.isPlaced = false → missing = []

namespace Filled

variable {places : Nat} {entities : List (Entity α)} {missing : List Nat}

omit [Scalar α] [Words σ] [Units σ α] in
theorem nextId_le (filled : Filled kind nursery places entities missing after) :
    nursery.nextId ≤ after.nextId := by
  rw [filled.nextId]
  exact Nat.le_add_right _ _

omit [Scalar α] [Words σ] [Units σ α] in
/-- The new bodies have the identities that the nursery handed out. -/
theorem issued (filled : Filled kind nursery places entities missing after) :
    ∀ entity ∈ entities, nursery.nextId ≤ entity.id ∧ entity.id < after.nextId := by
  intro entity member
  have inRange : entity.id ∈ List.range' nursery.nextId entities.length := by
    rw [← filled.ids]
    exact List.mem_map_of_mem member
  rw [filled.nextId]
  exact List.mem_range'_1.1 inRange

end Filled

/-- What fills the slots of a layer is `Filled`: each place has a body or is missing one. -/
theorem of_fill {site : Nat → Site α} {remaining slot : Nat}
    {filled : List (Entity α) × List Nat}
    (run : Runs (fill kind site remaining slot) nursery filled after) :
    Filled kind nursery remaining filled.1 filled.2 after := by
  induction remaining generalizing nursery after slot filled with
  | zero =>
    obtain ⟨rfl, rfl⟩ := Runs.of_pure run
    exact ⟨by rintro _ ⟨⟩, rfl, rfl, rfl, fun _ => rfl⟩
  | succ remaining ih =>
    obtain ⟨born, middle, bearRun, run⟩ := Runs.of_bind run
    obtain ⟨later, final, fillRun, run⟩ := Runs.of_bind run
    have rest := ih fillRun
    cases of_bear bearRun with
    | crowded placed sameId =>
      obtain ⟨rfl, rfl⟩ := Runs.of_pure run
      refine ⟨rest.kinds, ?_, ?_, ?_, fun free => ?_⟩
      · rw [← sameId]
        exact rest.ids
      · rw [← sameId]
        exact rest.nextId
      · have length := rest.length
        simp only [List.length_cons]
        omega
      · rw [placed] at free
        cases free
    | found same nextId =>
      obtain ⟨rfl, rfl⟩ := Runs.of_pure run
      refine ⟨?_, ?_, ?_, ?_, rest.missing⟩
      · intro entity member
        rcases List.mem_cons.1 member with rfl | member
        · exact same
        · exact rest.kinds entity member
      · rw [List.map_cons, rest.ids, nextId, List.length_cons, List.range'_succ]
      · rw [rest.nextId, nextId, List.length_cons]
        omega
      · have length := rest.length
        simp only [List.length_cons]
        omega

/-- A kind that always finds a place fills the slots in order. -/
theorem bear_of_fill {site : Nat → Site α} {remaining slot i : Nat}
    {filled : List (Entity α) × List Nat} {entity : Entity α} (free : kind.isPlaced = false)
    (run : Runs (fill kind site remaining slot) nursery filled after)
    (found : filled.1[i]? = some entity) :
    ∃ before next : Nursery α σ, Runs (bear kind (site (slot + i))) before (some entity) next := by
  induction remaining generalizing nursery slot i filled with
  | zero =>
    obtain ⟨rfl, rfl⟩ := Runs.of_pure run
    cases found
  | succ remaining ih =>
    obtain ⟨born, middle, bearRun, run⟩ := Runs.of_bind run
    obtain ⟨later, _, fillRun, run⟩ := Runs.of_bind run
    cases of_bear bearRun with
    | crowded placed =>
      rw [free] at placed
      cases placed
    | found =>
      obtain ⟨rfl, rfl⟩ := Runs.of_pure run
      cases i with
      | zero =>
        cases found
        exact ⟨nursery, middle, bearRun⟩
      | succ i =>
        obtain ⟨before, next, laterRun⟩ := ih fillRun found
        rw [Nat.succ_add_eq_add_succ] at laterRun
        exact ⟨before, next, laterRun⟩

/-! ## Laws of births -/

/-- A law of births of some kinds: it relates a nursery, bodies that are born in it one after another,
and the nursery after them. Draws in between have no part in it. -/
structure Law (kinds : Kind → Prop)
    (law : Nursery α σ → List (Entity α) → Nursery α σ → Prop) : Prop where
  nil (nursery : Nursery α σ) : law nursery [] nursery
  append {nursery middle after : Nursery α σ} {born later : List (Entity α)} :
    law nursery born middle → law middle later after → law nursery (born ++ later) after
  draw {nursery after : Nursery α σ} {source : σ} {born : List (Entity α)} :
    law { nursery with source } born after → law nursery born after
  bear {kind : Kind} {site : Site α} {nursery after : Nursery α σ} {born : Option (Entity α)} :
    kinds kind → Runs (bear kind site) nursery born after → law nursery born.toList after

namespace Law

variable {kinds : Kind → Prop} {law : Nursery α σ → List (Entity α) → Nursery α σ → Prop}

/-- A `Law` of single births holds of all births in the slots of a layer. -/
theorem fill (holds : Law kinds law) (allowed : kinds kind) {site : Nat → Site α}
    {remaining slot : Nat} {filled : List (Entity α) × List Nat}
    (run : Runs (Nursery.fill kind site remaining slot) nursery filled after) :
    law nursery filled.1 after := by
  induction remaining generalizing nursery slot filled with
  | zero =>
    obtain ⟨rfl, rfl⟩ := Runs.of_pure run
    exact holds.nil _
  | succ remaining ih =>
    obtain ⟨born, middle, bearRun, run⟩ := Runs.of_bind run
    obtain ⟨rest, final, fillRun, run⟩ := Runs.of_bind run
    have first := holds.bear allowed bearRun
    cases born with
    | none | some =>
      obtain ⟨rfl, rfl⟩ := Runs.of_pure run
      exact holds.append first (ih fillRun)

/-- A `Law` of single births holds of all births of a new scene. -/
theorem buildAll (holds : Law kinds law) {bounds : Bounds α} {wind scale : α}
    {specs : List (LayerSpec α)} {built : List (Layer α × List Nat)}
    (allowed : ∀ spec ∈ specs, kinds spec.kind)
    (run : Runs (Layer.buildAll bounds wind scale specs) nursery built after) :
    law nursery ((built.map Prod.fst).flatMap Layer.entities) after := by
  induction specs generalizing nursery built with
  | nil =>
    obtain ⟨rfl, rfl⟩ := Runs.of_pure run
    exact holds.nil _
  | cons spec later ih =>
    obtain ⟨first, middle, buildRun, run⟩ := Runs.of_bind run
    obtain ⟨rest, _, restRun, run⟩ := Runs.of_bind run
    obtain ⟨rfl, rfl⟩ := Runs.of_pure run
    obtain ⟨filled, _, fillRun, buildRun⟩ := Runs.of_bind buildRun
    obtain ⟨rfl, rfl⟩ := Runs.of_pure buildRun
    have head := holds.fill (allowed spec List.mem_cons_self) fillRun
    exact holds.append head
      (ih (fun other member => allowed other (List.mem_cons_of_mem _ member)) restRun)

end Law

/-- What no birth of some kinds changes in the geometry is a `Law` of theirs. -/
theorem law_view {β : Type} {kinds : Kind → Prop} (view : Geometry α → β)
    (kept : ∀ {kind : Kind} {site : Site α} {geometry geometry' : Geometry α} {source source' : σ}
      {body : Option (Body α)}, kinds kind →
      Runs (kind.spawn site geometry) source (body, geometry') source' →
      view geometry' = view geometry) :
    Law kinds (fun (nursery : Nursery α σ) _ after => view after.geometry = view nursery.geometry)
    where
  nil _ := rfl
  append first rest := rest.trans first
  draw same := same
  bear := by
    intro kind site nursery after born allowed run
    obtain ⟨⟨⟨body, geometry⟩, source⟩, spawnRun, run⟩ := of_bind_eq_ok run
    cases body with
    | none | some =>
      cases of_pure_eq_ok run
      exact kept allowed spawnRun

/-! ## Invariants of births -/

/-- An invariant of a nursery that every birth of a layer keeps, and a property of the bodies that
are born under it, hold of all that are born in the slots of the layer. -/
theorem of_fill_each (keeps : Nursery α σ → Prop) (good : Entity α → Prop) {site : Nat → Site α}
    {remaining slot : Nat} {filled : List (Entity α) × List Nat}
    (run : Runs (fill kind site remaining slot) nursery filled after) (kept : keeps nursery)
    (each : ∀ (slot' : Nat) (nursery after : Nursery α σ) (born : Option (Entity α)),
      slot ≤ slot' → slot' < slot + remaining → keeps nursery →
      Runs (bear kind (site slot')) nursery born after →
      keeps after ∧ ∀ entity ∈ born, good entity) :
    keeps after ∧ ∀ entity ∈ filled.1, good entity := by
  induction remaining generalizing nursery after slot filled with
  | zero =>
    obtain ⟨rfl, rfl⟩ := Runs.of_pure run
    exact ⟨kept, by rintro _ ⟨⟩⟩
  | succ remaining ih =>
    obtain ⟨born, middle, bearRun, run⟩ := Runs.of_bind run
    obtain ⟨later, final, fillRun, run⟩ := Runs.of_bind run
    obtain ⟨keptMiddle, first⟩ :=
      each slot nursery middle born (Nat.le_refl _) (by omega) kept bearRun
    obtain ⟨keptAfter, rest⟩ := ih fillRun keptMiddle fun slot' nursery after born low high =>
      each slot' nursery after born (by omega) (by omega)
    cases born with
    | none =>
      obtain ⟨rfl, rfl⟩ := Runs.of_pure run
      exact ⟨keptAfter, rest⟩
    | some newcomer =>
      obtain ⟨rfl, rfl⟩ := Runs.of_pure run
      refine ⟨keptAfter, fun entity member => ?_⟩
      rcases List.mem_cons.1 member with rfl | member
      · exact first entity rfl
      · exact rest entity member

end Nursery

/-- The same over all layers of a theme. -/
theorem Layer.of_buildAll_each (keeps : Nursery α σ → Prop) (good : Entity α → Prop)
    {nursery after : Nursery α σ} {bounds : Bounds α} {wind scale : α} {specs : List (LayerSpec α)}
    {built : List (Layer α × List Nat)}
    (run : Runs (buildAll bounds wind scale specs) nursery built after) (kept : keeps nursery)
    (each : ∀ spec ∈ specs, ∀ (slot : Nat) (nursery after : Nursery α σ)
      (born : Option (Entity α)), slot < spec.density.population bounds scale → keeps nursery →
      Runs (Nursery.bear spec.kind
        (site spec bounds wind .scatter (spec.density.population bounds scale) slot))
        nursery born after →
      keeps after ∧ ∀ entity ∈ born, good entity) :
    keeps after ∧ ∀ layer ∈ built.map Prod.fst, ∀ entity ∈ layer.entities, good entity := by
  induction specs generalizing nursery built with
  | nil =>
    obtain ⟨rfl, rfl⟩ := Runs.of_pure run
    exact ⟨kept, by rintro _ ⟨⟩⟩
  | cons spec later ih =>
    obtain ⟨first, middle, buildRun, run⟩ := Runs.of_bind run
    obtain ⟨rest, _, restRun, run⟩ := Runs.of_bind run
    obtain ⟨rfl, rfl⟩ := Runs.of_pure run
    obtain ⟨filled, _, fillRun, buildRun⟩ := Runs.of_bind buildRun
    obtain ⟨rfl, rfl⟩ := Runs.of_pure buildRun
    obtain ⟨keptMiddle, head⟩ := Nursery.of_fill_each keeps good fillRun kept
      fun slot nursery after born _ high =>
        each spec List.mem_cons_self slot nursery after born (by omega)
    obtain ⟨keptAfter, tail⟩ := ih restRun keptMiddle fun other member =>
      each other (List.mem_cons_of_mem _ member)
    refine ⟨keptAfter, fun layer member => ?_⟩
    rcases List.mem_cons.1 member with rfl | member
    · exact head
    · exact tail layer member

end Ambience
