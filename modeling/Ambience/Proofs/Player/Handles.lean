import Ambience.Proofs.Engine.Changes
import Ambience.Proofs.Player.Histories

/-!
# Handles of frames

Frames may come late, twice or unasked, and a player draws one only if it waits for its handle.
Every handle that a player was given is either the one that it waits for, or one that it drew a frame
of, or one that it gave back: the books of the host and the frames that were drawn are `Balanced`. So
if its host never gives a handle twice, no handle is drawn twice and none is drawn that was given
back.
-/

namespace Ambience

namespace Dealing

/-- The handle of a request. -/
def requested? : Dealing → Option FrameHandle
  | requested handle => some handle
  | _ => none

/-- The handle of a request that was taken back. -/
def cancelled? : Dealing → Option FrameHandle
  | cancelled handle => some handle
  | _ => none

/-- The handles that a host gave for frames. -/
def requests (dealings : List Dealing) : List FrameHandle := dealings.filterMap requested?

/-- The handles of frames that were given back. -/
def cancellations (dealings : List Dealing) : List FrameHandle := dealings.filterMap cancelled?

end Dealing

namespace Player

open Dealing

variable {α σ S H : Type} {player after : Player α σ S (Recorded H)} {drawn : List FrameHandle}

/-! ## Where handles go -/

/-- Every handle that was given is waited for, was drawn, or was given back. -/
def Balanced (drawn : List FrameHandle) (player : Player α σ S (Recorded H)) : Prop :=
  (requests player.host.dealings).Perm
    (player.frame?.toList ++ (drawn ++ cancellations player.host.dealings))

theorem Balanced.idle {theme : Theme α} {surface : Option S} {controls : Controls α}
    {tuning : Tuning α} {inner : H} :
    Balanced [] (Player.idle theme surface controls tuning ⟨inner, []⟩ : Player α σ S (Recorded H)) :=
  .refl _

/-- The player in another host, or in its host after a move. -/
def inHost (player : Player α σ S H) (host : H) : Player α σ S H := { player with host }

/-- The host's own moves leave its books of requests alone. -/
theorem Balanced.delivered (balanced : Balanced drawn player)
    (take : H → Option FrameHandle × H) :
    Balanced drawn (player.inHost (player.host.deliver take).2) := by
  unfold inHost Recorded.deliver
  split <;> exact balanced

variable [Host H]

/-- A stop gives back what the player waits for, and asks for nothing. -/
theorem detach_books (player : Player α σ S (Recorded H)) :
    requests player.detach.host.dealings = requests player.host.dealings ∧
      cancellations player.detach.host.dealings =
        player.frame?.toList ++ cancellations player.host.dealings := by
  unfold detach
  cases player.frame? <;> cases player.listener? <;> exact ⟨rfl, rfl⟩

namespace Balanced

/-- A player that waits for nothing may ask for a frame. -/
theorem attach {engine : Engine α σ} {host : Recorded H} (balanced : Balanced drawn player)
    (idle : player.frame? = none) (same : host.dealings = player.host.dealings) :
    Balanced drawn (player.attach engine host) := by
  unfold Balanced at balanced
  rw [idle, ← same] at balanced
  exact balanced.cons _

theorem detach (balanced : Balanced drawn player) : Balanced drawn player.detach := by
  obtain ⟨requests_eq, cancellations_eq⟩ := player.detach_books
  unfold Balanced at *
  rw [requests_eq, cancellations_eq]
  exact balanced.trans (List.perm_append_comm_assoc _ _ _)

/-- A stop keeps the books `Balanced`. -/
theorem released (balanced : Balanced drawn player) : Balanced drawn player.released := by
  unfold Player.released
  split
  · exact balanced.detach
  · exact balanced

variable [Scalar α] [Words σ] [Units σ α]

/-- A frame that is drawn was waited for, and the next one is asked for, so the books stay
`Balanced` with one more drawn. -/
theorem of_framed [Surface S α] {handle : FrameHandle} {seconds : α} {drew : Bool}
    (balanced : Balanced drawn player) (whole : Whole player)
    (framed : Framed player handle seconds after drew) :
    Balanced ((if drew then some handle else none).toList ++ drawn) after := by
  cases framed with
  | ignored => exact balanced
  | lost running _ bare => exact absurd bare (whole.not_bare running)
  | drawn _ waits =>
    -- the handle goes over to those that were drawn, and a new one is waited for
    unfold Balanced at balanced
    rw [waits] at balanced
    exact balanced.cons _

variable [Viewport H α]

theorem of_activated (balanced : Balanced drawn player) (whole : Whole player)
    (activated : Activated player after) : Balanced drawn after := by
  cases activated with
  | declined => exact balanced
  | started stopped =>
    refine balanced.attach (whole.resting stopped).2.1 ?_
    unfold nextSeed
    split <;> rfl

theorem of_configured {controls : Controls α} (balanced : Balanced drawn player)
    (whole : Whole player) (configured : Configured player controls after) :
    Balanced drawn after := by
  cases configured with
  | stopped => exact balanced.detach
  | activated stopped _ activated =>
    refine of_activated ?_ (.rested stopped (whole.resting stopped)) activated
    exact balanced
  | kept => exact balanced

variable [Surface S α] {incident : Incident α S H} {drawn? : Option FrameHandle}

/-- Whatever a player meets, its books stay `Balanced`. -/
theorem of_met (balanced : Balanced drawn player) (whole : Whole player)
    (met : Met player incident after drawn?) : Balanced (drawn?.toList ++ drawn) after := by
  cases met with
  | moved | repainted => exact balanced
  | spared => exact balanced.delivered _
  | framed _ framed drawn_eq =>
    rw [drawn_eq]
    exact (balanced.delivered _).of_framed whole.rehosted framed
  | resized resized => cases resized <;> exact balanced
  | activated activated => exact balanced.of_activated whole activated
  | deactivated => exact balanced.released
  | configured configured => exact balanced.of_configured whole configured
  | switched activated =>
    refine of_activated ?_ (.rested (by rintro ⟨⟩) whole.released_rests.2) activated
    exact balanced.released

end Balanced

/-! ## Frames of a scene -/

/-- Whether the incident asks for a new scene. -/
def Step.builds (step : Step α σ S H) : Bool :=
  match step.incident with
  | .resized => step.before.isRunning
  | _ => step.starts

/-- The handles of the frames that were drawn, the last one first. -/
def drawnOf (steps : List (Step α σ S H)) : List FrameHandle := steps.filterMap Step.drawn?

/-- How many frames were drawn since a scene was last asked for. -/
def framesSince : List (Step α σ S H) → Nat
  | [] => 0
  | step :: earlier => if step.builds then 0 else step.drawn?.toList.length + framesSince earlier

/-- The scene of a running player counts the frames that were drawn of it. -/
def Counted (steps : List (Step α σ S H)) (player : Player α σ S (Recorded H)) : Prop :=
  player.phase = .running → ∃ engine, player.engine? = some engine ∧
    engine.scene.frame = framesSince steps

namespace Counted

variable {steps : List (Step α σ S H)} {incident : Incident α S H} {drawn? : Option FrameHandle}

omit [Host H] in
/-- An incident that asks for no new scene leaves the scene that was there before, and its frame
`Counted`. -/
theorem of_kept (counted : Counted steps player)
    (same : player.phase = .running → Step.builds ⟨player, incident, after, none⟩ = false)
    (phase_eq : after.phase = player.phase) (engine_eq : after.engine? = player.engine?) :
    Counted (⟨player, incident, after, none⟩ :: steps) after := by
  intro running
  have ran := phase_eq.symm.trans running
  obtain ⟨engine, engineAt, frames⟩ := counted ran
  refine ⟨engine, engine_eq.trans engineAt, ?_⟩
  rw [framesSince, same ran, frames]
  exact (Nat.zero_add _).symm

omit [Host H] in
/-- A new scene has no frames. -/
theorem of_built {engine : Engine α σ}
    (builds : Step.builds ⟨player, incident, after, drawn?⟩ = true)
    (engineAt : after.engine? = some engine) (new : engine.scene.frame = 0) :
    Counted (⟨player, incident, after, drawn?⟩ :: steps) after := by
  intro _
  refine ⟨engine, engineAt, ?_⟩
  rw [framesSince, builds, new]
  rfl

variable [Scalar α] [Words σ] [Units σ α]

theorem of_framed [Surface S α] {take : H → Option FrameHandle × H} {seconds : α}
    {handle : FrameHandle} {drew : Bool} (counted : Counted steps player) (whole : Whole player)
    (framed : Framed (player.inHost (player.host.deliver take).2) handle seconds after drew) :
    Counted (⟨player, .delivered take seconds, after, if drew then some handle else none⟩ :: steps)
      after := by
  cases framed with
  | ignored => exact counted.of_kept (fun _ => rfl) rfl rfl
  | lost running _ bare => exact absurd bare (whole.not_bare running)
  | drawn running _ engineAt _ updateRun =>
    intro _
    -- the engine that is advanced is the one whose frames were counted
    obtain ⟨engine, engineAt', frames⟩ := counted running
    cases Option.some.inj (engineAt.symm.trans engineAt')
    refine ⟨_, rfl, ?_⟩
    rw [Engine.frame_of_update updateRun, frames, Nat.add_comm]
    rfl

variable [Viewport H α]

omit [Host H] in
theorem of_resized (counted : Counted steps player) (whole : Whole player)
    (resized : Resized player after) :
    Counted (⟨player, .resized, after, none⟩ :: steps) after := by
  cases resized with
  | ignored reason =>
    refine counted.of_kept (fun running => ?_) rfl rfl
    obtain ⟨engine, -, listener, -, -⟩ := whole.running running
    rcases reason with stopped | deaf | missing
    · exact absurd running stopped
    · simp [deaf] at listener
    · simp [missing] at engine
  | rebuilt running _ rebuildRun =>
    exact of_built (isRunning_iff.2 running) rfl (Engine.frame_of_rebuild rebuildRun)

theorem of_met [Surface S α] (counted : Counted steps player) (whole : Whole player)
    (met : Met player incident after drawn?) :
    Counted (⟨player, incident, after, drawn?⟩ :: steps) after := by
  cases met with
  | moved | repainted | spared => exact counted.of_kept (fun _ => rfl) rfl rfl
  | framed _ framed drawn_eq =>
    rw [drawn_eq]
    exact counted.of_framed whole framed
  | resized resized => exact counted.of_resized whole resized
  | deactivated => exact fun running => absurd running player.released_stopped
  | activated activated =>
    cases activated with
    | declined =>
      refine counted.of_kept (fun running => ?_) rfl rfl
      simp only [Step.builds, Step.starts, isRunning_iff.2 running, Bool.not_true, Bool.false_and]
    | started stopped active _ startRun =>
      refine of_built ?_ rfl (Engine.frame_of_start startRun)
      simp only [Step.builds, Step.starts, isRunning_eq_false_iff.2 stopped, active, Bool.not_false,
        Bool.and_self]
  | configured configured =>
    cases configured with
    | stopped => exact fun running => by cases running
    | kept =>
      refine counted.of_kept (fun running => ?_) rfl rfl
      simp only [Step.builds, Step.starts, isRunning_iff.2 running, Bool.not_true, Bool.false_and]
    | activated stopped active activated =>
      cases activated with
      | declined => exact fun running => absurd running stopped
      | started _ _ _ startRun =>
        refine of_built ?_ rfl (Engine.frame_of_start startRun)
        simp only [Step.builds, Step.starts, isRunning_eq_false_iff.2 stopped, active,
          Bool.not_false, Bool.and_self]
  | switched activated =>
    cases activated with
    | declined => exact fun running => by cases running
    | started _ active _ startRun =>
      refine of_built ?_ rfl (Engine.frame_of_start startRun)
      exact (congrArg Controls.active released_controls).symm.trans active

end Counted

/-! ## Histories -/

variable [Scalar α] [Words σ] [Units σ α] [Surface S α] [Viewport H α] {theme : Theme α}
  {surface : Option S} {controls : Controls α} {tuning : Tuning α} {inner : H}
  {incidents : List (Incident α S H)} {steps : List (Step α σ S H)}
  {events events' : List (Event α)}

/-- A delivery that draws nothing leaves the player as it was when the frame came. -/
theorem Met.undrawn {incident : Incident α S H} {take : H → Option FrameHandle × H} {seconds : α}
    (whole : Whole player) (met : Met player incident after none)
    (delivered : incident = .delivered take seconds) :
    after = player.inHost (player.host.deliver take).2 := by
  cases met with
  | spared =>
    cases delivered
    rfl
  | framed _ framed drawn_eq =>
    cases delivered
    cases framed with
    | ignored => rfl
    | lost running _ bare => exact absurd bare (whole.not_bare running)
    | drawn => cases drawn_eq
  | moved | repainted | resized | activated | deactivated | configured | switched => cases delivered

/-- After every history the books are `Balanced` and the frames of the scene `Counted`. -/
theorem books_of_history
    (run : Runs (history theme surface controls tuning inner incidents) events (steps, player)
      events') :
    Balanced (drawnOf steps) player ∧ Counted steps player := by
  refine (of_history (fun past player => Whole player ∧ Balanced (drawnOf past) player ∧
    Counted past player) run ?_ ?_).2
  · intro first activated
    refine ⟨Whole.idle.of_activated activated, Balanced.idle.of_activated .idle activated,
      fun _ => ?_⟩
    cases activated with
    | declined => contradiction
    | started _ _ _ startRun => exact ⟨_, rfl, Engine.frame_of_start startRun⟩
  · rintro past player incident after drawn? ⟨whole, balanced, counted⟩ met
    refine ⟨whole.of_met met, ?_, counted.of_met whole met⟩
    have grown := balanced.of_met whole met
    cases drawn? <;> exact grown

/-- In every `history` a frame is drawn at most once, never after it was given back, and counted in
its scene (`framesSince`). A frame that is not drawn changes nothing. -/
theorem single_use_of_history
    (run : Runs (history theme surface controls tuning inner incidents) events (steps, player)
      events')
    (distinct : (requests player.host.dealings).Nodup) :
    (drawnOf steps).Nodup ∧
    (∀ handle ∈ cancellations player.host.dealings, handle ∉ drawnOf steps) ∧
    (∀ step ∈ steps, ∀ take seconds, step.incident = .delivered take seconds → step.drawn? = none →
      step.after = step.before.inHost (step.before.host.deliver take).2) ∧
    (player.phase = .running → ∃ engine, player.engine? = some engine ∧
      engine.scene.frame = framesSince steps) := by
  obtain ⟨balanced, counted⟩ := books_of_history run
  have apart := (List.nodup_append.1 (balanced.nodup_iff.1 distinct)).2.1
  obtain ⟨once, -, disjoint⟩ := List.nodup_append.1 apart
  refine ⟨once, fun handle given drawn => disjoint handle drawn handle given rfl, ?_, counted⟩
  intro step member take seconds delivered undrawn
  obtain ⟨sound, met⟩ := (sound_of_history run).2 step member
  rw [undrawn] at met
  exact met.undrawn sound.whole delivered

/-- Frames come twice, around a resize, and after they were given back. -/
def lateFrames : List (Incident ℚ (Recording ℚ) TerminalHost) :=
  [.due 0.02, .stray ⟨2⟩ 0.02, .resized, .due 0.02, .configure (.of true 1 false),
    .stray ⟨4⟩ 0.02, .configure (.of true 1 true), .due 0.02, .stray ⟨4⟩ 0.02]

/-- Of six frames that came three were drawn, none of them twice and not the one given back. -/
theorem single_use_of_lateFrames :
    ∃ (steps : List (Step ℚ Random.Stream (Recording ℚ) TerminalHost))
      (player : Player ℚ Random.Stream (Recording ℚ) (Recorded TerminalHost))
      (events : List (Event ℚ)) (engine : Engine ℚ Random.Stream),
      Runs (sparseHistory Controls.initial lateFrames) [] (steps, player) events ∧
      (requests player.host.dealings).Nodup ∧
      drawnOf steps = [⟨6⟩, ⟨3⟩, ⟨2⟩] ∧ (drawnOf steps).Nodup ∧
      cancellations player.host.dealings = [⟨4⟩] ∧ ⟨4⟩ ∉ drawnOf steps ∧
      (∃ step ∈ steps, step.drawn? = none ∧
        step.after = step.before.inHost ⟨step.before.host.inner,
          .delivered ⟨4⟩ :: step.before.host.dealings⟩) ∧
      player.engine? = some engine ∧ engine.scene.frame = framesSince steps ∧
      framesSince steps = 1 := by
  have ends : ((sparseHistory Controls.initial lateFrames).run []).toOption.any
      (fun ended => ended.1.2.isRunning && decide (requests ended.1.2.host.dealings).Nodup &&
        drawnOf ended.1.1 == [⟨6⟩, ⟨3⟩, ⟨2⟩] && cancellations ended.1.2.host.dealings == [⟨4⟩] &&
        framesSince ended.1.1 == 1 &&
        ended.1.1.head?.any fun step => step.drawn?.isNone) = true := by
    decide +kernel
  obtain ⟨⟨⟨steps, player⟩, events⟩, run, checked⟩ := of_any_toOption ends
  obtain ⟨last, earlier, rfl, incident, -⟩ := List.map_eq_cons_iff.1 (incidents_of_history run)
  simp only [Bool.and_eq_true, decide_eq_true_eq, beq_iff_eq, isRunning_iff, List.head?_cons,
    Option.any_some, Option.isNone_iff_eq_none] at checked
  obtain ⟨⟨⟨⟨⟨running, distinct⟩, drawn⟩, given⟩, one⟩, undrawn⟩ := checked
  obtain ⟨once, never, same, counted⟩ := single_use_of_history run distinct
  obtain ⟨engine, engineAt, frames⟩ := counted running
  refine ⟨_, player, events, engine, run, distinct, drawn, once, given, never _ ?_, ?_, engineAt,
    frames, one⟩
  · rw [given]
    exact List.mem_singleton_self _
  · exact ⟨last, List.mem_cons_self, undrawn,
      same last List.mem_cons_self _ _ incident undrawn⟩

end Player

end Ambience
