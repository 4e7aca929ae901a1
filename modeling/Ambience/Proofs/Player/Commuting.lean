import Ambience.Proofs.Player.Restarts

/-!
# Controls and themes commute

New controls and a new theme may be asked for in either order. On the way a player may start its old
theme or not, and stop it or not, but where it gets to is `Settled` by what it stands on, which no
operation changes: its tuning, its surface, the view of its host, and what the host still owes it
once it has given everything back. What is left to chance are the numbers of the handles, and
whether a player that rests was stopped or never started.
-/

namespace Ambience

/-! ## What a host owes -/

/-- A host whose view does not change because of what is asked of it. -/
class SteadyView (H α : Type) [Host H] [Viewport H α] : Prop where
  requestFrame (host : H) :
    (Viewport.viewport (Host.requestFrame host).2 : α × α) = Viewport.viewport host
  cancelFrame (handle : FrameHandle) (host : H) :
    (Viewport.viewport (Host.cancelFrame handle host) : α × α) = Viewport.viewport host
  listenResize (host : H) :
    (Viewport.viewport (Host.listenResize host).2 : α × α) = Viewport.viewport host
  unlistenResize (handle : ListenerHandle) (host : H) :
    (Viewport.viewport (Host.unlistenResize handle host) : α × α) = Viewport.viewport host

attribute [simp] SteadyView.requestFrame SteadyView.cancelFrame SteadyView.listenResize
  SteadyView.unlistenResize

namespace SteadyView

instance {α : Type} : SteadyView (HostLedger α) α where
  requestFrame _ := rfl
  cancelFrame _ _ := rfl
  listenResize _ := rfl
  unlistenResize _ _ := rfl

instance {α : Type} [Scalar α] : SteadyView TerminalHost α where
  requestFrame _ := rfl
  cancelFrame handle host := by
    dsimp only [Host.cancelFrame, TerminalHost.cancelFrame]
    split <;> rfl
  listenResize _ := rfl
  unlistenResize handle host := by
    dsimp only [Host.unlistenResize, TerminalHost.unlistenResize]
    split <;> rfl

instance {H α : Type} [Host H] [Viewport H α] [SteadyView H α] : SteadyView (Recorded H) α where
  requestFrame host := requestFrame host.inner
  cancelFrame handle host := cancelFrame handle host.inner
  listenResize host := listenResize host.inner
  unlistenResize handle host := unlistenResize handle host.inner

end SteadyView

namespace Dealing

/-- The frames that are registered with a host, the last one first. -/
def frames : List Dealing → List FrameHandle
  | [] => []
  | .requested handle :: earlier => handle :: frames earlier
  | .cancelled handle :: earlier => (frames earlier).erase handle
  | .delivered handle :: earlier => (frames earlier).erase handle
  | _ :: earlier => frames earlier

/-- The listeners that are registered with a host, the last one first. -/
def listeners : List Dealing → List ListenerHandle
  | [] => []
  | .subscribed handle :: earlier => handle :: listeners earlier
  | .unsubscribed handle :: earlier => (listeners earlier).erase handle
  | _ :: earlier => listeners earlier

end Dealing

namespace Player

open Dealing

variable {α σ S H : Type} [Host H] [Viewport H α]
  {player middle after : Player α σ S (Recorded H)} {seed : UInt64}

/-! ## What operations leave alone -/

/-- What a player stands on, whether it runs or rests: its tuning and surface, and in its host the
view and the registrations that are not its own. -/
structure SameGround (player after : Player α σ S (Recorded H)) : Prop where
  tuning_eq : after.tuning = player.tuning
  surface_eq : after.surface = player.surface
  view_eq :
    (Viewport.viewport after.released.host : α × α) = Viewport.viewport player.released.host
  frames_eq : frames after.released.host.dealings = frames player.released.host.dealings
  listeners_eq : listeners after.released.host.dealings = listeners player.released.host.dealings

namespace SameGround

theorem trans (first : SameGround player middle) (second : SameGround middle after) :
    SameGround player after where
  tuning_eq := second.tuning_eq.trans first.tuning_eq
  surface_eq := second.surface_eq.trans first.surface_eq
  view_eq := second.view_eq.trans first.view_eq
  frames_eq := second.frames_eq.trans first.frames_eq
  listeners_eq := second.listeners_eq.trans first.listeners_eq

/-- An operation that leaves the same host behind once it is stopped stays on the same ground. -/
theorem of_released (tuning_eq : after.tuning = player.tuning)
    (surface_eq : after.surface = player.surface)
    (host_eq : after.released.host = player.released.host) : SameGround player after where
  tuning_eq
  surface_eq
  view_eq := by rw [host_eq]
  frames_eq := by rw [host_eq]
  listeners_eq := by rw [host_eq]

/-- A player that rests may be given another theme, other controls and another rest on the
`SameGround`. -/
theorem rested {theme : Theme α} {controls : Controls α} {phase : Phase}
    (rests : phase ≠ .running) :
    SameGround player { player.released with theme, controls, phase } := by
  refine of_released released_tuning released_surface ?_
  rw [released_of_stopped rests]

variable [SteadyView H α]

/-- What a start registers is given back by a stop, so that `Dealing.frames` and `Dealing.listeners`
are those from before. -/
theorem of_attach {engine : Engine α σ} (stopped : player.phase ≠ .running) :
    SameGround player (player.attach engine player.host) := by
  have rests := released_of_stopped stopped
  have runs : (player.attach engine player.host).released =
      (player.attach engine player.host).detach := released_of_running rfl
  refine ⟨rfl, rfl, ?_, ?_, ?_⟩
  · rw [rests, runs]
    simp only [attach, detach, Option.elim, SteadyView.requestFrame, SteadyView.cancelFrame,
      SteadyView.listenResize, SteadyView.unlistenResize]
  -- the registrations of the start are the last ones of their kinds, and a stop takes them out
  · rw [rests, runs]
    exact List.erase_cons_head ..
  · rw [rests, runs]
    exact List.erase_cons_head ..

omit [Viewport H α] [SteadyView H α] in
theorem released_retuned {controls : Controls α} :
    (released { player with controls }).host = player.released.host := by
  unfold released
  split <;> rfl

variable [Scalar α] [Words σ] [Units σ α]

/-- A seeded player stays on the same ground when it is activated, as it asks its host for no
entropy. -/
theorem of_activated (seeded : player.tuning.seed = some seed)
    (activated : Activated player after) : SameGround player after := by
  cases activated with
  | declined => exact .of_released rfl rfl rfl
  | started stopped =>
    rw [nextSeed_of_seeded seeded]
    exact of_attach stopped

theorem of_configured {controls : Controls α} (seeded : player.tuning.seed = some seed)
    (configured : Configured player controls after) : SameGround player after := by
  have retuned : SameGround player { player with controls } := by
    exact of_released rfl rfl released_retuned
  cases configured with
  | stopped running =>
    have stops : (detach { player with controls }).phase ≠ .running := by rintro ⟨⟩
    refine of_released rfl rfl ?_
    rw [released_of_stopped stops, released_of_running running]
    rfl
  | activated _ _ activated =>
    apply retuned.trans
    exact of_activated seeded activated
  | kept => exact retuned

end SameGround

/-! ## Where requests get to -/

variable [Scalar α] [Words σ] [Units σ α]

/-- The player after it got to a theme and controls: it runs a fresh engine if the controls and its
surface let it, and then has one frame and one listener registered beside those of its ground. -/
structure Settled (seed : UInt64) (player : Player α σ S (Recorded H)) (theme : Theme α)
    (controls : Controls α) (after : Player α σ S (Recorded H)) : Prop where
  ground : SameGround player after
  whole : Whole after
  theme_eq : after.theme = theme
  controls_eq : after.controls = controls
  running_iff : after.phase = .running ↔ controls.active = true ∧ player.surface.isSome
  fresh : after.phase = .running → Fresh seed (Viewport.viewport player.released.host : α × α) after
  registered : after.phase = .running →
    (frames after.host.dealings).length = (frames after.released.host.dealings).length + 1 ∧
      (listeners after.host.dealings).length = (listeners after.released.host.dealings).length + 1

variable [SteadyView H α]

/-- A player that is activated from rest is `Settled` in its own theme and controls. -/
theorem settled_of_activated {rest : Player α σ S (Recorded H)} (ground : SameGround player rest)
    (whole : Whole rest) (stopped : rest.phase ≠ .running)
    (seeded : player.tuning.seed = some seed) (activated : Activated rest after) :
    Settled seed player rest.theme rest.controls after := by
  rw [← ground.tuning_eq] at seeded
  have view_eq := ground.view_eq
  rw [released_of_stopped stopped] at view_eq
  refine ⟨ground.trans (.of_activated seeded activated), whole.of_activated activated,
    activated.theme_eq, activated.controls_eq, ?_, ?_, ?_⟩
  · rw [← ground.surface_eq]
    exact activated.running_iff stopped
  · intro running
    rw [← view_eq]
    exact activated.fresh seeded stopped running
  · intro running
    rw [released_of_running running]
    cases activated with
    | declined => exact absurd running stopped
    | started =>
      simp only [attach, detach, Option.elim, Host.requestFrame, Host.listenResize,
        Host.cancelFrame, Host.unlistenResize, frames, listeners, List.length_cons,
        List.erase_cons_head, and_self]

theorem Settled.of_configured {theme : Theme α} {controls controls' : Controls α}
    (settled : Settled seed player theme controls middle) (seeded : player.tuning.seed = some seed)
    (configured : Configured middle controls' after) :
    Settled seed player theme controls' after := by
  have seeded' := seeded
  rw [← settled.ground.tuning_eq] at seeded'
  have ground := settled.ground.trans (.of_configured seeded' configured)
  have whole := settled.whole.of_configured configured
  have theme_eq := configured.theme_eq.trans settled.theme_eq
  cases configured with
  | stopped running inactive =>
    have stays : ¬ (controls'.active = true ∧ player.surface.isSome) := by simp [inactive]
    exact ⟨ground, whole, theme_eq, rfl, iff_of_false (by rintro ⟨⟩) stays, by rintro ⟨⟩,
      by rintro ⟨⟩⟩
  | activated stopped active activated =>
    have retuned : SameGround middle { middle with controls := controls' } :=
      .of_released rfl rfl SameGround.released_retuned
    have rests : Whole { middle with controls := controls' } :=
      .rested stopped (settled.whole.resting stopped)
    rw [← settled.theme_eq]
    exact settled_of_activated (settled.ground.trans retuned) rests stopped seeded activated
  | kept same =>
    -- the player goes on with the engine that it got before, which is still a fresh one
    refine ⟨ground, whole, theme_eq, rfl, ?_, fun running => ?_, fun running => ?_⟩
    · constructor
      · intro running
        exact ⟨same.1 running, (settled.running_iff.1 running).2⟩
      · rintro ⟨active, -⟩
        exact same.2 active
    · have fresh := settled.fresh running
      exact ⟨fresh.running, fresh.engine⟩
    · rw [SameGround.released_retuned]
      exact settled.registered running

/-- The controls first, and then the theme: the player is `Settled` in both. -/
theorem settled_of_configured_switched {theme : Theme α} {controls : Controls α}
    (whole : Whole player) (seeded : player.tuning.seed = some seed)
    (configured : Configured player controls middle)
    (activated : Activated { middle.released with theme, phase := .idle } after) :
    Settled seed player theme controls after := by
  have ground : SameGround player { middle.released with theme, phase := .idle } :=
    (SameGround.of_configured seeded configured).trans (.rested (by rintro ⟨⟩))
  have rests : Whole { middle.released with theme, phase := .idle } :=
    .rested (by rintro ⟨⟩) (whole.of_configured configured).released_rests.2
  have settled := settled_of_activated ground rests (by rintro ⟨⟩) seeded activated
  have controls_eq : middle.released.controls = controls :=
    released_controls.trans configured.controls_eq
  rw [controls_eq] at settled
  exact settled

/-- The theme first, under the controls that were there before; what is left is
`Settled.of_configured`. -/
theorem settled_of_switched {theme : Theme α} (whole : Whole player)
    (seeded : player.tuning.seed = some seed)
    (activated : Activated { player.released with theme, phase := .idle } after) :
    Settled seed player theme player.released.controls after :=
  settled_of_activated (.rested (by rintro ⟨⟩)) (.rested (by rintro ⟨⟩) whole.released_rests.2)
    (by rintro ⟨⟩) seeded activated

/-! ## Players alike -/

/-- Two players that only differ in the numbers of their handles and in how they rest. -/
structure Alike (first second : Player α σ S (Recorded H)) : Prop where
  theme_eq : first.theme = second.theme
  tuning_eq : first.tuning = second.tuning
  controls_eq : first.controls = second.controls
  surface_eq : first.surface = second.surface
  running_iff : first.phase = .running ↔ second.phase = .running
  engine_eq : first.engine? = second.engine?
  awaits_eq : first.frame?.isSome = second.frame?.isSome
  listens_eq : first.listener?.isSome = second.listener?.isSome
  frames_eq : (frames first.host.dealings).length = (frames second.host.dealings).length
  listeners_eq : (listeners first.host.dealings).length = (listeners second.host.dealings).length

omit [SteadyView H α] in
/-- Two players that settled from the same one in the same theme and controls are `Alike`. -/
theorem Settled.alike {theme : Theme α} {controls : Controls α}
    {first second : Player α σ S (Recorded H)} (settled : Settled seed player theme controls first)
    (settled' : Settled seed player theme controls second) : Alike first second := by
  have theme_eq := settled.theme_eq.trans settled'.theme_eq.symm
  have tuning_eq := settled.ground.tuning_eq.trans settled'.ground.tuning_eq.symm
  have controls_eq := settled.controls_eq.trans settled'.controls_eq.symm
  have surface_eq := settled.ground.surface_eq.trans settled'.ground.surface_eq.symm
  have running_iff := settled.running_iff.trans settled'.running_iff.symm
  have frames_eq := settled.ground.frames_eq.trans settled'.ground.frames_eq.symm
  have listeners_eq := settled.ground.listeners_eq.trans settled'.ground.listeners_eq.symm
  by_cases running : first.phase = .running
  · have running' := running_iff.1 running
    obtain ⟨-, frame, listener, -, -⟩ := settled.whole.running running
    obtain ⟨-, frame', listener', -, -⟩ := settled'.whole.running running'
    obtain ⟨engine, _, engineAt, startRun⟩ := (settled.fresh running).engine
    obtain ⟨engine', _, engineAt', startRun'⟩ := (settled'.fresh running').engine
    obtain ⟨framesAt, listenersAt⟩ := settled.registered running
    obtain ⟨framesAt', listenersAt'⟩ := settled'.registered running'
    rw [theme_eq, tuning_eq] at startRun
    cases Except.ok.inj (startRun.symm.trans startRun')
    refine ⟨theme_eq, tuning_eq, controls_eq, surface_eq, running_iff,
      engineAt.trans engineAt'.symm, frame.trans frame'.symm, listener.trans listener'.symm, ?_, ?_⟩
    · rw [framesAt, framesAt', frames_eq]
    · rw [listenersAt, listenersAt', listeners_eq]
  · have running' := mt running_iff.2 running
    obtain ⟨engine, frame, listener⟩ := settled.whole.resting running
    obtain ⟨engine', frame', listener'⟩ := settled'.whole.resting running'
    rw [released_of_stopped running, released_of_stopped running'] at frames_eq listeners_eq
    refine ⟨theme_eq, tuning_eq, controls_eq, surface_eq, running_iff, engine.trans engine'.symm,
      ?_, ?_, congrArg List.length frames_eq, congrArg List.length listeners_eq⟩
    · rw [frame, frame']
    · rw [listener, listener']

/-! ## Both orders get somewhere -/

/-- A new engine of a theme for the view of the player. -/
def opening (seed : UInt64) (player : Player α σ S (Recorded H)) (theme : Theme α) :
    Except Fault (Engine α σ × List (Event α)) :=
  Engine.start theme player.tuning.scale seed (Viewport.viewport player.host : α × α).1
    (Viewport.viewport player.host : α × α).2

/-- The theme can be shown in the view of the player. -/
def CanShow (seed : UInt64) (player : Player α σ S (Recorded H)) (theme : Theme α) : Prop :=
  ∃ started, opening seed player theme = .ok started

omit [SteadyView H α] in
theorem exists_activated (seeded : player.tuning.seed = some seed)
    (can : player.phase ≠ .running → CanShow seed player player.theme) :
    ∃ after, Activated player after := by
  by_cases running : player.phase = .running
  · exact ⟨player, .declined (.inl running)⟩
  cases active : player.controls.active with
  | false => exact ⟨player, .declined (.inr (.inl active))⟩
  | true =>
    cases surface : player.surface with
    | none => exact ⟨player, .declined (.inr (.inr surface))⟩
    | some _ =>
      have present := Option.isSome_of_eq_some surface
      obtain ⟨⟨engine, built⟩, startRun⟩ := can running
      exact ⟨_, activated_of_start seeded running active present startRun⟩

omit [SteadyView H α] in
theorem exists_configured (controls : Controls α) (seeded : player.tuning.seed = some seed)
    (can : player.phase ≠ .running → CanShow seed player player.theme) :
    ∃ after, Configured player controls after := by
  by_cases running : player.phase = .running
  · cases active : controls.active with
    | false => exact ⟨_, .stopped running active⟩
    | true => exact ⟨_, .kept (iff_of_true running active)⟩
  · cases active : controls.active with
    | false => exact ⟨_, .kept (iff_of_false running (by simp [active]))⟩
    | true =>
      have retuned : ∃ after, Activated { player with controls } after :=
        exists_activated seeded can
      obtain ⟨after, activated⟩ := retuned
      exact ⟨after, .activated running active activated⟩

/-- Whether a theme can be shown (`CanShow`) does not depend on what a player holds. -/
theorem CanShow.released {theme : Theme α} (can : CanShow seed player theme) :
    CanShow seed player.released theme := by
  have view_eq :
      (Viewport.viewport player.released.host : α × α) = Viewport.viewport player.host := by
    unfold Player.released detach
    split
    · cases player.frame? <;> cases player.listener? <;>
        simp only [Option.elim, SteadyView.cancelFrame, SteadyView.unlistenResize]
    · rfl
  unfold CanShow opening at *
  rw [view_eq, released_tuning]
  exact can

omit [SteadyView H α] in
/-- A theme that can be shown can still be shown on the same ground. -/
theorem CanShow.of_ground {theme : Theme α} (can : CanShow seed player.released theme)
    (ground : SameGround player after) : CanShow seed after.released theme := by
  unfold CanShow opening at *
  rw [released_tuning] at *
  rw [ground.view_eq, ground.tuning_eq]
  exact can

/-- The controls and then the theme meet no fault if the old and the new theme can be shown. -/
theorem runs_configure_switchTheme {theme : Theme α} (controls : Controls α)
    (seeded : player.tuning.seed = some seed) (old : CanShow seed player player.theme)
    (new : CanShow seed player theme) (events : List (Event α)) :
    ∃ after events',
      Runs (do let configured ← player.configure controls; configured.switchTheme theme)
        events after events' := by
  obtain ⟨configured, configures⟩ := exists_configured controls seeded fun _ => old
  obtain ⟨_, configureRun⟩ := configures.runs events
  have ground := SameGround.of_configured seeded configures
  have seeded' : configured.released.tuning.seed = some seed := by
    rw [released_tuning, ground.tuning_eq, seeded]
  have switches : ∃ after, Activated { configured.released with theme, phase := .idle } after :=
    exists_activated seeded' fun _ => new.released.of_ground ground
  obtain ⟨after, activated⟩ := switches
  obtain ⟨events', switchRun⟩ := runs_switchTheme activated _
  exact ⟨after, events', configureRun.bind switchRun⟩

/-- The theme and then the controls meet no fault if the new theme can be shown. -/
theorem runs_switchTheme_configure {theme : Theme α} (controls : Controls α) (whole : Whole player)
    (seeded : player.tuning.seed = some seed) (new : CanShow seed player theme)
    (events : List (Event α)) :
    ∃ after events',
      Runs (do let switched ← player.switchTheme theme; switched.configure controls)
        events after events' := by
  have released : player.released.tuning.seed = some seed := by
    rw [released_tuning, seeded]
  have switches : ∃ switched, Activated { player.released with theme, phase := .idle } switched :=
    exists_activated released fun _ => new.released
  obtain ⟨switched, activated⟩ := switches
  obtain ⟨_, switchRun⟩ := runs_switchTheme activated events
  have settled := settled_of_switched whole seeded activated
  have seeded' := seeded
  rw [← settled.ground.tuning_eq] at seeded'
  have can : switched.phase ≠ .running → CanShow seed switched switched.theme := by
    intro stopped
    have shown := new.released.of_ground settled.ground
    rw [released_of_stopped stopped] at shown
    rw [settled.theme_eq]
    exact shown
  obtain ⟨after, configures⟩ := exists_configured controls seeded' can
  obtain ⟨events', configureRun⟩ := configures.runs _
  exact ⟨after, events', switchRun.bind configureRun⟩

variable [Surface S α]

/-- Of a seeded player, new controls and a new theme may be asked for in either order, `configure`
and `switchTheme`. If both orders get somewhere, they get to players that are `Alike`; and they do
if the old and the new theme can be shown (`CanShow`). -/
theorem configure_switchTheme_comm {theme : Theme α} {surface : Option S} {controls : Controls α}
    {tuning : Tuning α} {inner : H} {incidents : List (Incident α S H)}
    {steps : List (Step α σ S H)} {events events' : List (Event α)}
    (seeded : tuning.seed = some seed)
    (run : Runs (history theme surface controls tuning inner incidents) events (steps, player)
      events') (controls' : Controls α) (theme' : Theme α) :
    (∀ first second before₁ after₁ before₂ after₂,
      Runs (do let configured ← player.configure controls'; configured.switchTheme theme') before₁
        first after₁ →
      Runs (do let switched ← player.switchTheme theme'; switched.configure controls') before₂
        second after₂ →
      Alike first second) ∧
    (CanShow seed player player.theme → CanShow seed player theme' →
      ∀ before, ∃ first second after₁ after₂,
        Runs (do let configured ← player.configure controls'; configured.switchTheme theme') before
          first after₁ ∧
        Runs (do let switched ← player.switchTheme theme'; switched.configure controls') before
          second after₂) := by
  obtain ⟨sound, -⟩ := sound_of_history run
  have whole := sound.whole
  have seeded' : player.tuning.seed = some seed := by rw [sound.tuning_eq, seeded]
  constructor
  · intro first second before₁ after₁ before₂ after₂ firstRun secondRun
    obtain ⟨configured, _, configureRun, firstRun⟩ := Runs.of_bind firstRun
    obtain ⟨switched, _, switchRun, secondRun⟩ := Runs.of_bind secondRun
    have settled : Settled seed player theme' controls' first :=
      settled_of_configured_switched whole seeded' (of_configure configureRun)
        (of_switchTheme firstRun)
    have settled' := settled_of_switched whole seeded' (of_switchTheme switchRun)
    exact settled.alike (settled'.of_configured seeded' (of_configure secondRun))
  · intro canOld canNew before
    obtain ⟨first, after₁, firstRun⟩ :=
      runs_configure_switchTheme controls' seeded' canOld canNew before
    obtain ⟨second, after₂, secondRun⟩ :=
      runs_switchTheme_configure controls' whole seeded' canNew before
    exact ⟨first, second, after₁, after₂, firstRun, secondRun⟩

/-- The sparse theme runs for a frame and is turned off, and the terminal grows. -/
def nap : List (Incident ℚ (Recording ℚ) TerminalHost) :=
  [.due 0.02, .configure (.of true 1 false), .moved fun host => { host with cols := 12 }]

/-- The sparse theme in a stronger wind. -/
def windy : Theme ℚ := { sparse with windHigh := 3 }

/-- The player is woken in the light, and then given more wind. -/
def wokenFirst (player : Player ℚ Random.Stream (Recording ℚ) (Recorded TerminalHost)) :
    Reporting ℚ (Player ℚ Random.Stream (Recording ℚ) (Recorded TerminalHost)) := do
  let configured ← player.configure (.of false 0.5 true)
  configured.switchTheme windy

/-- The player is given more wind while it sleeps, and then woken in the light. -/
def wokenLast (player : Player ℚ Random.Stream (Recording ℚ) (Recorded TerminalHost)) :
    Reporting ℚ (Player ℚ Random.Stream (Recording ℚ) (Recorded TerminalHost)) := do
  let switched ← player.switchTheme windy
  switched.configure (.of false 0.5 true)

/-- The sleeping player, and the player woken first and woken last. -/
def bothOrders : Reporting ℚ
    ((List (Step ℚ Random.Stream (Recording ℚ) TerminalHost) ×
        Player ℚ Random.Stream (Recording ℚ) (Recorded TerminalHost)) ×
      Player ℚ Random.Stream (Recording ℚ) (Recorded TerminalHost) ×
      Player ℚ Random.Stream (Recording ℚ) (Recorded TerminalHost)) := do
  let lived ← sparseHistory Controls.initial nap
  let first ← wokenFirst lived.2
  let second ← wokenLast lived.2
  return (lived, first, second)

/-- Either way it wakes to the same scene and waits for a frame, though of another number. -/
theorem comm_of_nap :
    ∃ (steps : List (Step ℚ Random.Stream (Recording ℚ) TerminalHost))
      (player first second : Player ℚ Random.Stream (Recording ℚ) (Recorded TerminalHost))
      (events events₁ events₂ : List (Event ℚ)),
      Runs (sparseHistory Controls.initial nap) [] (steps, player) events ∧
      Runs (wokenFirst player) events first events₁ ∧
      Runs (wokenLast player) events₁ second events₂ ∧
      Alike first second ∧ first.phase = .running ∧ first.frame? ≠ second.frame? ∧
      ∃ first second after₁ after₂,
        Runs (wokenFirst player) [] first after₁ ∧ Runs (wokenLast player) [] second after₂ := by
  have ends : (bothOrders.run []).toOption.any (fun ended =>
      ended.1.2.1.isRunning && ended.1.2.1.frame? != ended.1.2.2.frame? &&
        ((opening 7 ended.1.1.2 ended.1.1.2.theme).toOption.any fun _ => true) &&
        ((opening 7 ended.1.1.2 windy).toOption.any fun _ => true)) = true := by decide +kernel
  obtain ⟨⟨⟨⟨steps, player⟩, first, second⟩, events₂⟩, run, checked⟩ := of_any_toOption ends
  obtain ⟨_, events, historyRun, run⟩ := Runs.of_bind run
  obtain ⟨_, events₁, firstRun, run⟩ := Runs.of_bind run
  obtain ⟨_, _, secondRun, run⟩ := Runs.of_bind run
  obtain ⟨same, rfl⟩ := Runs.of_pure run
  cases same
  simp only [Bool.and_eq_true, isRunning_iff, bne_iff_ne] at checked
  obtain ⟨⟨⟨running, differ⟩, old⟩, new⟩ := checked
  obtain ⟨old, oldRun, -⟩ := of_any_toOption old
  obtain ⟨new, newRun, -⟩ := of_any_toOption new
  obtain ⟨agree, both⟩ := configure_switchTheme_comm rfl historyRun (.of false 0.5 true) windy
  exact ⟨steps, player, first, second, events, events₁, events₂, historyRun, firstRun, secondRun,
    agree first second _ _ _ _ firstRun secondRun, running, differ,
    both ⟨old, oldRun⟩ ⟨new, newRun⟩ []⟩

end Player

end Ambience
