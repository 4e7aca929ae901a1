import Ambience.Proofs.Player.Operations

/-!
# What a player needs to run

A player keeps its engine, the frame that it waits for and its subscription apart from its phase, so
that an operation could fill some of these places and leave others empty. `Whole` says that none does:
a player has all three while it runs and none of them while it rests, and it only runs where it is
switched on and has something to draw on. Each operation keeps this, in any host. What a player has in
common with its host comes on top of it.
-/

namespace Ambience.Player

variable {α σ S H : Type}

/-- A player has all that it needs to run if it runs, and nothing that it would have to give back
if it does not. -/
structure Whole (player : Player α σ S H) : Prop where
  /-- A player runs exactly when it has an engine, a frame to wait for and a subscription. -/
  running_iff :
    player.phase = .running ↔
      player.engine?.isSome ∧ player.frame?.isSome ∧ player.listener?.isSome
  /-- A player that does not run has none of the three. -/
  resting :
    player.phase ≠ .running →
      player.engine? = none ∧ player.frame? = none ∧ player.listener? = none
  /-- Only a player that is switched on and has something to draw on runs. -/
  equipped : player.phase = .running → player.controls.active = true ∧ player.surface.isSome

namespace Whole

variable {player after : Player α σ S H}

theorem of_running (running : player.phase = .running)
    (full : player.engine?.isSome ∧ player.frame?.isSome ∧ player.listener?.isSome)
    (equipped : player.controls.active = true ∧ player.surface.isSome) : Whole player where
  running_iff := iff_of_true running full
  resting stopped := absurd running stopped
  equipped _ := equipped

theorem of_resting (stopped : player.phase ≠ .running)
    (empty : player.engine? = none ∧ player.frame? = none ∧ player.listener? = none) :
    Whole player where
  running_iff := iff_of_false stopped fun full => by rw [empty.1] at full; cases full.1
  resting _ := empty
  equipped running := absurd running stopped

theorem idle {theme : Theme α} {surface : Option S} {controls : Controls α} {tuning : Tuning α}
    {host : H} : Whole (Player.idle theme surface controls tuning host : Player α σ S H) :=
  of_resting (by rintro ⟨⟩) ⟨rfl, rfl, rfl⟩

/-- All that a `Whole` player has while it runs. -/
theorem running (whole : Whole player) (runs : player.phase = .running) :
    player.engine?.isSome ∧ player.frame?.isSome ∧ player.listener?.isSome ∧
      player.controls.active = true ∧ player.surface.isSome := by
  obtain ⟨engine, frame, listener⟩ := whole.running_iff.1 runs
  exact ⟨engine, frame, listener, whole.equipped runs⟩

/-- A player that waits for a frame runs. -/
theorem running_of_frame {handle : FrameHandle} (whole : Whole player)
    (waits : player.frame? = some handle) : player.phase = .running := by
  refine Decidable.byContradiction fun stopped => ?_
  rw [(whole.resting stopped).2.1] at waits
  cases waits

/-- A running player has an engine to advance and a surface to draw on, so that no frame is
`Framed.lost`. -/
theorem not_bare (whole : Whole player) (running : player.phase = .running) :
    ¬ (player.engine? = none ∨ player.surface = none) := by
  obtain ⟨engine, -, -, -, surface⟩ := whole.running running
  rintro (missing | missing)
  · simp [missing] at engine
  · simp [missing] at surface

/-! ## Changes from outside -/

/-- A player that rests may be given another theme, other controls and another rest. -/
theorem rested {theme : Theme α} {controls : Controls α} {phase : Phase}
    (stopped : phase ≠ .running)
    (empty : player.engine? = none ∧ player.frame? = none ∧ player.listener? = none) :
    Whole { player with theme, controls, phase } := of_resting stopped empty

/-- The host may move on as it likes. -/
theorem rehosted {host : H} (whole : Whole player) : Whole { player with host } where
  running_iff := whole.running_iff
  resting := whole.resting
  equipped := whole.equipped

/-- The surface may be changed in place. -/
theorem repainted {change : S → S} (whole : Whole player) :
    Whole { player with surface := player.surface.map change } where
  running_iff := whole.running_iff
  resting := whole.resting
  equipped running := by
    obtain ⟨active, surface⟩ := whole.equipped running
    exact ⟨active, Option.isSome_map.trans surface⟩

/-! ## The operations -/

variable [Host H]

/-- A stop leaves the three places empty, whether it found something in them or not. -/
theorem released_rests (whole : Whole player) :
    player.released.phase ≠ .running ∧ player.released.engine? = none ∧
      player.released.frame? = none ∧ player.released.listener? = none := by
  by_cases running : player.phase = .running
  · rw [released_of_running running]
    exact ⟨by rintro ⟨⟩, rfl, rfl, rfl⟩
  · rw [released_of_stopped running]
    exact ⟨running, whole.resting running⟩

theorem released (whole : Whole player) : Whole player.released :=
  of_resting whole.released_rests.1 whole.released_rests.2

variable [Scalar α] [Words σ] [Units σ α]

/-- A frame leaves a player whole, since the one that is drawn is followed by another. -/
theorem of_framed [Surface S α] {handle : FrameHandle} {seconds : α} {drew : Bool}
    (whole : Whole player) (framed : Framed player handle seconds after drew) : Whole after := by
  cases framed with
  | ignored => exact whole
  | lost running _ bare => exact absurd bare (whole.not_bare running)
  | drawn running =>
    obtain ⟨-, -, listener, active, -⟩ := whole.running running
    exact of_running running ⟨rfl, rfl, listener⟩ ⟨active, rfl⟩

variable [Viewport H α]

omit [Host H] in
theorem of_resized (whole : Whole player) (resized : Resized player after) : Whole after := by
  cases resized with
  | ignored => exact whole
  | rebuilt running =>
    exact of_running running ⟨rfl, (whole.running_iff.1 running).2⟩ (whole.equipped running)

/-- An activation gives all three things at once (`Player.attach`), or none. -/
theorem of_activated (whole : Whole player) (activated : Activated player after) : Whole after := by
  cases activated with
  | declined => exact whole
  | started _ active surface _ => exact of_running rfl ⟨rfl, rfl, rfl⟩ ⟨active, surface⟩

theorem of_configured {controls : Controls α} (whole : Whole player)
    (configured : Configured player controls after) : Whole after := by
  cases configured with
  | stopped => exact of_resting (by rintro ⟨⟩) ⟨rfl, rfl, rfl⟩
  | activated stopped _ activated =>
    exact (rested stopped (whole.resting stopped)).of_activated activated
  | kept same =>
    exact ⟨whole.running_iff, whole.resting,
      fun running => ⟨same.1 running, (whole.equipped running).2⟩⟩

/-- A theme is switched by a stop and an activation. -/
theorem of_switched {theme : Theme α} (whole : Whole player)
    (activated : Activated { player.released with theme, phase := .idle } after) : Whole after :=
  (rested (by rintro ⟨⟩) whole.released_rests.2).of_activated activated

end Whole

end Ambience.Player
