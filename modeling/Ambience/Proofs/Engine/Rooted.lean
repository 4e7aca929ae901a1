import Ambience.Proofs.Engine.Layers

/-!
# Rooted bodies

Rooted bodies are never gone. A step does nothing to them but move the wave that some of them have,
so that an update leaves a lasting layer of them in place: every body keeps its identity and its
shape, nothing is born, and what births share is as it was.
-/

namespace Ambience

/-- Whether bodies of a kind stay where they are for as long as their scene lasts. -/
def Kind.isRooted : Kind → Bool
  | .stone | .rake | .glow | .stalk | .ridge | .cactus => true
  | _ => false

theorem Kind.isRooted_of_isPlaced {kind : Kind} (placed : kind.isPlaced = true) :
    kind.isRooted = true := by
  cases kind <;> first | rfl | cases placed

variable {α σ : Type}

/-- A rooted body later on: the same but for the phase of its wave. -/
inductive Body.Stays : Body α → Body α → Prop
  | stone {s : Stone α} : Stays (.stone s) (.stone s)
  | cactus {c : Cactus α} : Stays (.cactus c) (.cactus c)
  | rake {r : Rake α} {wave : Oscillator α} : Stays (.rake r) (.rake { r with wave })
  | glow {g : Glow α} {pulse : Oscillator α} : Stays (.glow g) (.glow { g with pulse })
  | stalk {s : Stalk α} {sway : Oscillator α} : Stays (.stalk s) (.stalk { s with sway })
  | ridge {r : Ridge α} {shimmer : Oscillator α} : Stays (.ridge r) (.ridge { r with shimmer })

/-- What was placed clear of others does not change at all. -/
theorem Body.Stays.eq_of_isPlaced {body body' : Body α} (stays : body.Stays body')
    (placed : body.kind.isPlaced = true) : body' = body := by
  cases stays with
  | stone | cactus => rfl
  | rake | glow | stalk | ridge => cases placed

variable [Scalar α] [Words σ] [Units σ α]

omit [Words σ] in
/-- A step leaves a rooted body in its place and alive (`Body.Stays`). -/
theorem Body.stays_of_step {body body' : Body α} {tick : Tick α} {fate : Fate} {source source' : σ}
    (rooted : body.kind.isRooted = true)
    (run : Runs (body.step tick) source (body', fate) source') :
    body.Stays body' ∧ fate = .alive := by
  cases body with
  | stone | rake | glow | stalk | ridge | cactus =>
    cases (Runs.of_pure run).1
    exact ⟨by constructor, rfl⟩
  | _ => cases rooted

namespace Layer

variable {nursery after : Nursery α σ} {tick : Tick α} {layer result : Layer α}

theorem stays_of_stepAll {stepped : List (Entity α × Fate)} {source source' : σ}
    (rooted : ∀ entity ∈ layer.entities, entity.body.kind.isRooted = true)
    (run : Runs (stepAll tick layer.entities) source stepped source') :
    List.Forall₂
      (fun entity outcome => outcome.1.id = entity.id ∧ entity.body.Stays outcome.1.body)
      layer.entities stepped ∧ ∀ outcome ∈ stepped, outcome.2 = .alive := by
  have steps := (List.forall₂_and_left _ _).2 ⟨rooted, of_stepAll run⟩
  constructor
  · refine steps.imp ?_
    rintro entity outcome ⟨root, sameId, _, _, stepRun⟩
    exact ⟨sameId, (Body.stays_of_step root stepRun).1⟩
  · intro outcome member
    obtain ⟨entity, -, root, -, _, _, stepRun⟩ := exists_mem_of_forall₂ steps outcome member
    exact (Body.stays_of_step root stepRun).2

/-- Where nothing is gone nothing is renewed. -/
theorem renew_alive {kind : Kind} {site : Nat → Site α} {i : Nat}
    {stepped : List (Entity α × Fate)} {entities : List (Entity α)}
    (alive : ∀ outcome ∈ stepped, outcome.2 = .alive)
    (run : Runs (renew kind site i stepped) nursery entities after) :
    entities = stepped.map Prod.fst ∧ after = nursery := by
  induction stepped generalizing i entities with
  | nil => exact Runs.of_pure run
  | cons outcome later ih =>
    obtain ⟨entity, fate⟩ := outcome
    obtain rfl : fate = .alive := alive _ List.mem_cons_self
    obtain ⟨kept, _, keepRun, run⟩ := Runs.of_bind run
    obtain ⟨rest, _, restRun, run⟩ := Runs.of_bind run
    obtain ⟨rfl, rfl⟩ := Runs.of_pure run
    obtain ⟨rfl, rfl⟩ := Runs.of_pure keepRun
    obtain ⟨rfl, rfl⟩ := ih (fun outcome member => alive outcome (List.mem_cons_of_mem _ member))
      restRun
    exact ⟨rfl, rfl⟩

/-- An update leaves a lasting layer of rooted bodies in place. -/
theorem Advances.stays {dropped : Nat} (advances : Advances layer tick nursery after result dropped)
    (homogeneous : layer.Homogeneous) (lasts : layer.spec.density.isTransient = false)
    (rooted : layer.spec.kind.isRooted = true) :
    List.Forall₂ (fun entity entity' => entity'.id = entity.id ∧ entity.body.Stays entity'.body)
      layer.entities result.entities ∧ after.geometry = nursery.geometry := by
  cases advances with
  | transient spawned =>
    rw [spawned] at lasts
    cases lasts
  | lasting _ stepRun renewRun =>
    have allRooted : ∀ entity ∈ layer.entities, entity.body.kind.isRooted = true :=
      fun entity member => (congrArg Kind.isRooted (homogeneous entity member)).trans rooted
    obtain ⟨stays, alive⟩ := stays_of_stepAll allRooted stepRun
    obtain ⟨rfl, rfl⟩ := renew_alive alive renewRun
    exact ⟨List.forall₂_map_right_iff.2 stays, rfl⟩

end Layer

end Ambience
