import Ambience.Host.Terminal
import Ambience.Proofs.Player.Whole
import Ambience.Random.Stream
import Ambience.Scalar.Rational
import Ambience.Theme.Catalog

/-!
# Histories of players

Things happen to a player in any order: its host moves on by itself, comes with frames and tells of
resizes, its surface is changed in place, and its viewer starts it, stops it and gives it other
controls and themes. A history mounts a player, lets a list of such incidents happen to it and keeps
a step for each of them. The host is any host at all, with a record of what passed between the two.

What one incident leaves is read off `Met`, and what holds after every history is an invariant of
incidents (`of_history`). One such invariant is that a player is `Whole`.
-/

namespace Ambience

/-! ## Hosts with a record -/

/-- What passes between a player and its host. -/
inductive Dealing where
  /-- The player asked for a frame and was given the handle. -/
  | requested (handle : FrameHandle)
  /-- The player took its request back. -/
  | cancelled (handle : FrameHandle)
  /-- The host came with a frame. -/
  | delivered (handle : FrameHandle)
  /-- The player asked to be told of resizes and was given the handle. -/
  | subscribed (handle : ListenerHandle)
  /-- The player ended its subscription. -/
  | unsubscribed (handle : ListenerHandle)
  deriving DecidableEq, Repr

/-- A host with the record of its dealings, the last of them first. -/
structure Recorded (H : Type) where
  inner : H
  dealings : List Dealing

namespace Recorded

variable {H : Type}

instance [Host H] : Host (Recorded H) where
  requestFrame host :=
    ((Host.requestFrame host.inner).1,
      ⟨(Host.requestFrame host.inner).2,
        .requested (Host.requestFrame host.inner).1 :: host.dealings⟩)
  cancelFrame handle host :=
    ⟨Host.cancelFrame handle host.inner, .cancelled handle :: host.dealings⟩
  listenResize host :=
    ((Host.listenResize host.inner).1,
      ⟨(Host.listenResize host.inner).2,
        .subscribed (Host.listenResize host.inner).1 :: host.dealings⟩)
  unlistenResize handle host :=
    ⟨Host.unlistenResize handle host.inner, .unsubscribed handle :: host.dealings⟩
  freshSeed host :=
    ((Host.freshSeed host.inner).1, { host with inner := (Host.freshSeed host.inner).2 })

instance {α : Type} [Viewport H α] : Viewport (Recorded H) α where
  viewport host := Viewport.viewport host.inner

/-- The host picks a frame to come with, or none, and may move on as it does so. -/
def deliver (host : Recorded H) (take : H → Option FrameHandle × H) :
    Option FrameHandle × Recorded H :=
  match (take host.inner).1 with
  | none => (none, { host with inner := (take host.inner).2 })
  | some handle => (some handle, ⟨(take host.inner).2, .delivered handle :: host.dealings⟩)

end Recorded

namespace Player

variable {α σ S H : Type}

/-! ## Incidents -/

/-- One thing that happens to a player. -/
inductive Incident (α S H : Type) where
  /-- The host moves on by itself. -/
  | moved (change : H → H)
  /-- The surface is changed in place. -/
  | repainted (change : S → S)
  /-- The host comes with a frame after some seconds, or with none. It need not be the frame that
  the player waits for, nor one that the host ever handed out. -/
  | delivered (take : H → Option FrameHandle × H) (seconds : α)
  /-- The host tells that its view was resized. -/
  | resized
  | activate
  | deactivate
  | configure (controls : Controls α)
  | switchTheme (theme : Theme α)

/-- A frame of a handle comes that the host does not take notice of. -/
def Incident.stray (handle : FrameHandle) (seconds : α) : Incident α S H :=
  .delivered (fun host => (some handle, host)) seconds

/-- The terminal comes with the frame that it keeps, if it keeps one. -/
def Incident.due (seconds : α) : Incident α S TerminalHost :=
  .delivered (fun host => (host.pending, { host with pending := none })) seconds

/-- An incident that happened, with the player before and after it, and the frame that was drawn. -/
structure Step (α σ S H : Type) where
  before : Player α σ S (Recorded H)
  incident : Incident α S H
  after : Player α σ S (Recorded H)
  drawn? : Option FrameHandle

variable [Scalar α] [Words σ] [Units σ α] [Surface S α] [Host H] [Viewport H α]

/-- An operation that draws no frame. -/
def quietly {β : Type} (operation : Reporting α β) : Reporting α (β × Option FrameHandle) := do
  return (← operation, none)

/-- What an incident makes of a player, and the handle of the frame that is drawn, if one is. -/
def meet (player : Player α σ S (Recorded H)) :
    Incident α S H → Reporting α (Player α σ S (Recorded H) × Option FrameHandle)
  | .moved change =>
    return ({ player with host := { player.host with inner := change player.host.inner } }, none)
  | .repainted change => return ({ player with surface := player.surface.map change }, none)
  | .delivered take seconds =>
    match (player.host.deliver take).1 with
    | none => return ({ player with host := (player.host.deliver take).2 }, none)
    | some handle => do
      let framed ← onFrame { player with host := (player.host.deliver take).2 } handle seconds
      return (framed.1, if framed.2 then some handle else none)
  | .resized => quietly player.onResize
  | .activate => quietly player.activate
  | .deactivate => quietly player.deactivate
  | .configure controls => quietly (player.configure controls)
  | .switchTheme theme => quietly (player.switchTheme theme)

/-- Lets incidents happen to a player in order. The steps that went before and those that are added
are kept with the last one first. -/
def live (past : List (Step α σ S H)) (player : Player α σ S (Recorded H)) :
    List (Incident α S H) → Reporting α (List (Step α σ S H) × Player α σ S (Recorded H))
  | [] => return (past, player)
  | incident :: later => do
    let met ← player.meet incident
    live (⟨player, incident, met.1, met.2⟩ :: past) met.1 later

/-- Mounts a player in a host that nothing was asked of, and lets incidents happen to it: the steps,
the last one first, and the player that they lead to. -/
def history (theme : Theme α) (surface : Option S) (controls : Controls α) (tuning : Tuning α)
    (host : H) (incidents : List (Incident α S H)) :
    Reporting α (List (Step α σ S H) × Player α σ S (Recorded H)) := do
  live [] (← mount theme surface controls tuning ⟨host, []⟩) incidents

/-! ## What an incident leaves -/

/-- What an incident leaves of a player, and the frame that was drawn. -/
inductive Met (player : Player α σ S (Recorded H)) :
    Incident α S H → Player α σ S (Recorded H) → Option FrameHandle → Prop
  | moved {change : H → H} :
    Met player (.moved change)
      { player with host := { player.host with inner := change player.host.inner } } none
  | repainted {change : S → S} :
    Met player (.repainted change) { player with surface := player.surface.map change } none
  | spared {take : H → Option FrameHandle × H} {seconds : α} :
    (player.host.deliver take).1 = none →
    Met player (.delivered take seconds) { player with host := (player.host.deliver take).2 } none
  | framed {take : H → Option FrameHandle × H} {seconds : α} {handle : FrameHandle} {drew : Bool}
      {after : Player α σ S (Recorded H)} {drawn? : Option FrameHandle} :
    (player.host.deliver take).1 = some handle →
    Framed { player with host := (player.host.deliver take).2 } handle seconds after drew →
    drawn? = (if drew then some handle else none) →
    Met player (.delivered take seconds) after drawn?
  | resized {after : Player α σ S (Recorded H)} :
    Resized player after → Met player .resized after none
  | activated {after : Player α σ S (Recorded H)} :
    Activated player after → Met player .activate after none
  | deactivated : Met player .deactivate player.released none
  | configured {controls : Controls α} {after : Player α σ S (Recorded H)} :
    Configured player controls after → Met player (.configure controls) after none
  | switched {theme : Theme α} {after : Player α σ S (Recorded H)} :
    Activated { player.released with theme, phase := .idle } after →
    Met player (.switchTheme theme) after none

variable {player after : Player α σ S (Recorded H)} {incident : Incident α S H}
  {drawn? : Option FrameHandle} {events events' : List (Event α)}

omit [Scalar α] [Words σ] [Units σ α] [Surface S α] [Host H] [Viewport H α] in
theorem of_quietly {operation : Reporting α (Player α σ S (Recorded H))}
    (run : Runs (quietly operation) events (after, drawn?) events') :
    Runs operation events after events' ∧ drawn? = none := by
  obtain ⟨_, _, operationRun, ends⟩ := Runs.of_bind run
  obtain ⟨result, rfl⟩ := Runs.of_pure ends
  cases result
  exact ⟨operationRun, rfl⟩

/-- What a player meets is in one of the cases of `Met`, one for each operation. -/
theorem of_meet (run : Runs (player.meet incident) events (after, drawn?) events') :
    Met player incident after drawn? := by
  cases incident with
  | moved change =>
    cases (Runs.of_pure run).1
    exact .moved
  | repainted change =>
    cases (Runs.of_pure run).1
    exact .repainted
  | delivered take seconds =>
    unfold meet at run
    dsimp only at run
    split at run
    · rename_i spared
      cases (Runs.of_pure run).1
      exact .spared spared
    · rename_i handle comes
      obtain ⟨framed, _, frameRun, ends⟩ := Runs.of_bind run
      cases (Runs.of_pure ends).1
      exact .framed comes (of_onFrame frameRun) rfl
  | resized =>
    obtain ⟨resizeRun, rfl⟩ := of_quietly run
    exact .resized (of_onResize resizeRun)
  | activate =>
    obtain ⟨activateRun, rfl⟩ := of_quietly run
    exact .activated (of_activate activateRun)
  | deactivate =>
    obtain ⟨deactivateRun, rfl⟩ := of_quietly run
    cases of_deactivate deactivateRun
    exact .deactivated
  | configure controls =>
    obtain ⟨configureRun, rfl⟩ := of_quietly run
    exact .configured (of_configure configureRun)
  | switchTheme theme =>
    obtain ⟨switchRun, rfl⟩ := of_quietly run
    exact .switched (of_switchTheme switchRun)

/-- Whatever is `Met`, the tuning never changes, and a surface is neither lost nor found. -/
theorem Met.keeps (met : Met player incident after drawn?) :
    after.tuning = player.tuning ∧ after.surface.isSome = player.surface.isSome := by
  cases met with
  | moved | spared => exact ⟨rfl, rfl⟩
  | repainted => exact ⟨rfl, Option.isSome_map⟩
  | framed _ framed =>
    refine ⟨?_, framed.surface_isSome⟩
    cases framed <;> rfl
  | resized resized =>
    refine ⟨?_, congrArg Option.isSome resized.surface_eq⟩
    cases resized <;> rfl
  | activated activated => cases activated <;> exact ⟨rfl, rfl⟩
  | deactivated => exact ⟨released_tuning, congrArg Option.isSome released_surface⟩
  | configured configured =>
    refine ⟨?_, congrArg Option.isSome configured.surface_eq⟩
    cases configured with
    | stopped | kept => rfl
    | activated _ _ activated => cases activated <;> rfl
  | switched activated =>
    refine ⟨Eq.trans ?_ released_tuning,
      congrArg Option.isSome (activated.surface_eq.trans released_surface)⟩
    cases activated <;> rfl

/-- Whatever a player meets, it stays `Whole`. -/
theorem Whole.of_met (whole : Whole player) (met : Met player incident after drawn?) :
    Whole after := by
  cases met with
  | moved | spared => exact whole.rehosted
  | repainted => exact whole.repainted
  | framed _ framed => exact whole.rehosted.of_framed framed
  | resized resized => exact whole.of_resized resized
  | activated activated => exact whole.of_activated activated
  | deactivated => exact whole.released
  | configured configured => exact whole.of_configured configured
  | switched activated => exact whole.of_switched activated

/-! ## Invariants -/

variable {steps past : List (Step α σ S H)} {incidents : List (Incident α S H)}

/-- What no incident breaks (`Met`) holds after any number of them. -/
theorem of_live (holds : List (Step α σ S H) → Player α σ S (Recorded H) → Prop)
    (keeps : ∀ {past player incident after drawn?}, holds past player →
      Met player incident after drawn? → holds (⟨player, incident, after, drawn?⟩ :: past) after)
    (start : holds past player)
    (run : Runs (live past player incidents) events (steps, after) events') :
    holds steps after := by
  induction incidents generalizing past player events with
  | nil =>
    cases (Runs.of_pure run).1
    exact start
  | cons incident later ih =>
    obtain ⟨_, _, meetRun, run⟩ := Runs.of_bind run
    exact ih (keeps start (of_meet meetRun)) run

variable {theme : Theme α} {surface : Option S} {controls : Controls α} {tuning : Tuning α}
  {inner : H} {host : Recorded H}

/-- What holds of a new player and is not broken by incidents holds after every `history`. -/
theorem of_history (holds : List (Step α σ S H) → Player α σ S (Recorded H) → Prop)
    (run : Runs (history theme surface controls tuning inner incidents) events (steps, after)
      events')
    (mounted : ∀ {first}, Activated (idle theme surface controls tuning ⟨inner, []⟩) first →
      holds [] first)
    (keeps : ∀ {past player incident after drawn?}, holds past player →
      Met player incident after drawn? → holds (⟨player, incident, after, drawn?⟩ :: past) after) :
    holds steps after := by
  obtain ⟨first, _, mountRun, run⟩ := Runs.of_bind run
  exact of_live holds keeps (mounted (of_activate mountRun)) run

/-- A step is kept for each incident. -/
theorem incidents_of_live (run : Runs (live past player incidents) events (steps, after) events') :
    steps.map Step.incident = incidents.reverse ++ past.map Step.incident := by
  induction incidents generalizing past player events with
  | nil =>
    cases (Runs.of_pure run).1
    rfl
  | cons incident later ih =>
    obtain ⟨_, _, _, run⟩ := Runs.of_bind run
    rw [ih run, List.reverse_cons, List.append_assoc]
    rfl

/-- The steps of a history are the incidents that it was made of, the last one first. -/
theorem incidents_of_history
    (run : Runs (history theme surface controls tuning inner incidents) events (steps, after)
      events') :
    steps.map Step.incident = incidents.reverse := by
  obtain ⟨_, _, _, run⟩ := Runs.of_bind run
  rw [incidents_of_live run]
  exact List.append_nil _

/-- What every player of a history has in common with the one that was mounted. -/
structure Sound (tuning : Tuning α) (surface : Option S) (player : Player α σ S H) : Prop where
  whole : Whole player
  tuning_eq : player.tuning = tuning
  surface_isSome : player.surface.isSome = surface.isSome

/-- A player stays `Sound` through each incident. -/
theorem Sound.of_met (sound : Sound tuning surface player)
    (met : Met player incident after drawn?) : Sound tuning surface after where
  whole := sound.whole.of_met met
  tuning_eq := met.keeps.1.trans sound.tuning_eq
  surface_isSome := met.keeps.2.trans sound.surface_isSome

omit [Surface S α] in
theorem sound_of_mounted
    (activated : Activated (idle theme surface controls tuning host) player) :
    Sound tuning surface player := by
  refine ⟨Whole.idle.of_activated activated, ?_, congrArg Option.isSome activated.surface_eq⟩
  cases activated <;> rfl

/-- Each step of a history starts from a `Sound` player and is one of the cases of `Met`, and what
comes after it is sound as well. -/
theorem sound_of_history
    (run : Runs (history theme surface controls tuning inner incidents) events (steps, after)
      events') :
    Sound tuning surface after ∧
      ∀ step ∈ steps, Sound tuning surface step.before ∧
        Met step.before step.incident step.after step.drawn? := by
  refine of_history (fun past player => Sound tuning surface player ∧
    ∀ step ∈ past, Sound tuning surface step.before ∧
      Met step.before step.incident step.after step.drawn?) run ?_ ?_
  · intro first activated
    exact ⟨sound_of_mounted activated, by rintro _ ⟨⟩⟩
  · rintro past player incident after drawn? ⟨sound, each⟩ met
    exact ⟨sound.of_met met, List.forall_mem_cons.2 ⟨⟨sound, met⟩, each⟩⟩

/-! ## Steps that start -/

/-- Whether the incident asks a player that rests to run, or any player to start again, and the
player is to run at all. -/
def Step.starts (step : Step α σ S H) : Bool :=
  match step.incident with
  | .activate => !step.before.isRunning && step.before.controls.active
  | .configure controls => !step.before.isRunning && controls.active
  | .switchTheme _ => step.before.controls.active
  | _ => false

/-! ## A small player -/

/-- A theme of one flake and one stone. -/
def sparse : Theme ℚ :=
  { Theme.snowfall with layers := [⟨.flake, 0, .fixed 1⟩, ⟨.stone, 1, .fixed 1⟩] }

/-- A history of the sparse theme on a recording in a terminal. -/
def sparseHistory (controls : Controls ℚ)
    (incidents : List (Incident ℚ (Recording ℚ) TerminalHost)) :
    Reporting ℚ (List (Step ℚ Random.Stream (Recording ℚ) TerminalHost) ×
      Player ℚ Random.Stream (Recording ℚ) (Recorded TerminalHost)) :=
  history sparse (some (Recording.blank 80 80)) controls ⟨1.0, some 7⟩ (TerminalHost.opened 10 5 3)
    incidents

end Player

end Ambience
