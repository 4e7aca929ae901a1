import Ambience.Proofs.Player.Whole
import Ambience.Random.Stream
import Ambience.Scalar.Rational
import Ambience.Stage
import Ambience.Theme.Catalog

/-!
# A player and its terminal agree

A player remembers the frame and the subscription that it asked for, and so does its terminal. The
two are changed by different operations in different orders: a delivery empties the room of the
terminal before that of the player, a stop gives both back, and a start fills both. `Coherent` says
what the two have in common between operations: a player is `Whole`, and its terminal keeps the same
frame and the same subscription. Each operation keeps that. `Reached` collects the players that a
viewer and a terminal can lead a new player to, in any order of deliveries, resizes and wishes.
-/

namespace Ambience.Player

variable {α σ S : Type} {player after : Player α σ S TerminalHost}

/-- What a player and its terminal agree on between operations. -/
structure Coherent (player : Player α σ S TerminalHost) : Prop extends Whole player where
  /-- The frame that the player waits for is the one that the terminal will deliver. -/
  frame_eq : player.frame? = player.host.pending
  /-- The subscription of the player is the one that the terminal keeps. -/
  listener_eq : player.listener? = player.host.listener
  /-- A player without a surface never asked its terminal for anything. -/
  unasked : player.surface = none → player.host.issued = 0

namespace Coherent

/-- A new player has asked for nothing, and neither has its terminal (`TerminalHost.opened`) been
asked. -/
theorem idle (theme : Theme α) (surface : Option S) (controls : Controls α) (tuning : Tuning α)
    (cols rows : Nat) (entropy : UInt64) :
    Coherent (Player.idle theme surface controls tuning (TerminalHost.opened cols rows entropy) :
      Player α σ S TerminalHost) :=
  ⟨.idle, rfl, rfl, fun _ => rfl⟩

/-! ## Stopping -/

/-- A stop empties both rooms of the terminal, since it names what is in them. -/
theorem detach_host (coherent : Coherent player) (running : player.phase = .running) :
    player.detach.host = { player.host with pending := none, listener := none } := by
  obtain ⟨-, frame, listener⟩ := coherent.running_iff.1 running
  obtain ⟨handle, frameAt⟩ := Option.isSome_iff_exists.1 frame
  obtain ⟨subscription, listenerAt⟩ := Option.isSome_iff_exists.1 listener
  have pending : player.host.pending = some handle := coherent.frame_eq.symm.trans frameAt
  have subscribed : player.host.listener = some subscription :=
    coherent.listener_eq.symm.trans listenerAt
  simp only [Player.detach, frameAt, listenerAt, Option.elim_some, Host.cancelFrame,
    Host.unlistenResize, TerminalHost.cancelFrame, TerminalHost.unlistenResize, if_pos pending,
    if_pos subscribed]

/-- A stop leaves a player that does not run alone. -/
theorem released (coherent : Coherent player) : Coherent player.released := by
  by_cases running : player.phase = .running
  · have whole := coherent.toWhole.released
    have emptied := coherent.detach_host running
    rw [released_of_running running] at whole ⊢
    refine ⟨whole, ?_, ?_, fun missing => ?_⟩
    · rw [emptied]
      rfl
    · rw [emptied]
      rfl
    · rw [emptied]
      exact coherent.unasked missing
  · rw [released_of_stopped running]
    exact coherent

/-! ## Changes from outside -/

/-- A player that rests may be given another theme, other controls and another rest. -/
theorem rested {theme : Theme α} {controls : Controls α} {phase : Phase}
    (coherent : Coherent player) (stopped : player.phase ≠ .running) (rests : phase ≠ .running) :
    Coherent { player with theme, controls, phase } :=
  ⟨.rested rests (coherent.resting stopped), coherent.frame_eq, coherent.listener_eq,
    coherent.unasked⟩

/-- The terminal may have another size. -/
theorem reshaped (coherent : Coherent player) (cols rows : Nat) :
    Coherent { player with host := { player.host with cols, rows } } :=
  ⟨coherent.rehosted, coherent.frame_eq, coherent.listener_eq, coherent.unasked⟩

/-- The surface may be changed in place. -/
theorem repainted (coherent : Coherent player) (change : S → S) :
    Coherent { player with surface := player.surface.map change } :=
  ⟨coherent.toWhole.repainted, coherent.frame_eq, coherent.listener_eq,
    fun missing => coherent.unasked (Option.map_eq_none_iff.1 missing)⟩

/-- A player that is not listened for has no scene. -/
theorem engine_of_deaf (coherent : Coherent player) (deaf : player.host.listener = none) :
    player.engine? = none := by
  refine (coherent.resting fun running => ?_).1
  have listener := (coherent.running_iff.1 running).2.2
  rw [coherent.listener_eq, deaf] at listener
  cases listener

/-! ## The operations -/

variable [Scalar α] [Words σ] [Units σ α] {events events' : List (Event α)}

/-- A fresh engine fills both rooms of the terminal, which only a player with a surface gets
(`Activated`). -/
theorem of_activated (coherent : Coherent player) (activated : Activated player after) :
    Coherent after := by
  have whole := coherent.toWhole.of_activated activated
  cases activated with
  | declined => exact coherent
  | started _ _ surface =>
    refine ⟨whole, rfl, rfl, fun missing => ?_⟩
    rw [show player.surface = none from missing] at surface
    cases surface

/-- A new view is a new engine in the rooms that are taken already. -/
theorem of_resized (coherent : Coherent player) (resized : Resized player after) :
    Coherent after := by
  have whole := coherent.toWhole.of_resized resized
  cases resized with
  | ignored => exact coherent
  | rebuilt => exact ⟨whole, coherent.frame_eq, coherent.listener_eq, coherent.unasked⟩

theorem of_configured {controls : Controls α} (coherent : Coherent player)
    (configured : Configured player controls after) : Coherent after := by
  cases configured with
  | stopped running =>
    have emptied := coherent.released
    rw [released_of_running running] at emptied
    exact emptied.rested (by rintro ⟨⟩) (by rintro ⟨⟩)
  | activated stopped _ activated =>
    exact of_activated (coherent.rested stopped stopped) activated
  | kept same =>
    exact ⟨coherent.toWhole.of_configured (.kept same), coherent.frame_eq, coherent.listener_eq,
      coherent.unasked⟩

/-- A theme is switched by a stop, which empties the rooms, and an activation, which fills them
again. -/
theorem of_switchTheme {theme : Theme α} (coherent : Coherent player)
    (run : Runs (switchTheme player theme) events after events') : Coherent after :=
  of_activated (coherent.released.rested player.released_stopped (by rintro ⟨⟩))
    (Player.of_switchTheme run)

variable [Surface S α]

/-- A player that drew asks for the next frame, which takes the room of the terminal whatever was
in it. -/
theorem of_onFrame {handle : FrameHandle} {seconds : α} {drew : Bool} (coherent : Coherent player)
    (run : Runs (player.onFrame handle seconds) events (after, drew) events') :
    Coherent after := by
  have framed := Player.of_onFrame run
  have whole := coherent.toWhole.of_framed framed
  cases framed with
  | ignored => exact coherent
  | lost running _ bare => exact absurd bare (coherent.not_bare running)
  | drawn => exact ⟨whole, rfl, coherent.listener_eq, by rintro ⟨⟩⟩

/-- A delivery empties the room of the terminal first. Nothing else comes of the empty room, since
the player waits for that very frame. -/
theorem of_deliver {seconds : α} {drew : Bool} (coherent : Coherent player)
    (run : Runs (player.deliver seconds) events (after, drew) events') : Coherent after := by
  unfold deliver at run
  split at run
  · cases (Runs.of_pure run).1
    exact coherent
  rename_i handle pending
  have waits : player.frame? = some handle := coherent.frame_eq.trans pending
  have running := coherent.running_of_frame waits
  have framed := Player.of_onFrame run
  have whole := coherent.rehosted.of_framed framed
  cases framed with
  | ignored stray =>
    rcases stray with stops | ignores
    · exact absurd running stops
    · exact absurd waits ignores
  | lost _ _ bare => exact absurd bare (coherent.not_bare running)
  | drawn => exact ⟨whole, rfl, coherent.listener_eq, by rintro ⟨⟩⟩

end Coherent

/-! ## Reachable players -/

variable [Scalar α] [Words σ] [Units σ α] [Surface S α]

/-- One thing that befalls a player in a terminal. -/
inductive Befalls (player : Player α σ S TerminalHost) : Player α σ S TerminalHost → Prop
  | delivered {after : Player α σ S TerminalHost} {seconds : α} {drew : Bool}
      {events events' : List (Event α)} :
    Runs (player.deliver seconds) events (after, drew) events' → Befalls player after
  /-- A frame of any handle, which the terminal need not have handed out. -/
  | framed {after : Player α σ S TerminalHost} {handle : FrameHandle} {seconds : α} {drew : Bool}
      {events events' : List (Event α)} :
    Runs (player.onFrame handle seconds) events (after, drew) events' → Befalls player after
  | resized {after : Player α σ S TerminalHost} {cols rows : Nat}
      {events events' : List (Event α)} :
    Runs (onResize { player with host := { player.host with cols, rows } }) events after events' →
    Befalls player after
  | activated {after : Player α σ S TerminalHost} {events events' : List (Event α)} :
    Runs player.activate events after events' → Befalls player after
  | deactivated {after : Player α σ S TerminalHost} {events events' : List (Event α)} :
    Runs player.deactivate events after events' → Befalls player after
  | configured {after : Player α σ S TerminalHost} {controls : Controls α}
      {events events' : List (Event α)} :
    Runs (player.configure controls) events after events' → Befalls player after
  | switched {after : Player α σ S TerminalHost} {theme : Theme α}
      {events events' : List (Event α)} :
    Runs (player.switchTheme theme) events after events' → Befalls player after

/-- The players that come of mounting a theme in a terminal. -/
inductive Reached (theme : Theme α) (surface : Option S) (controls : Controls α)
    (tuning : Tuning α) (cols rows : Nat) (entropy : UInt64) :
    Player α σ S TerminalHost → Prop
  | mounted {player : Player α σ S TerminalHost} {events events' : List (Event α)} :
    Runs (mount theme surface controls tuning (TerminalHost.opened cols rows entropy)) events player
      events' →
    Reached theme surface controls tuning cols rows entropy player
  | befallen {player after : Player α σ S TerminalHost} :
    Reached theme surface controls tuning cols rows entropy player → Befalls player after →
    Reached theme surface controls tuning cols rows entropy after

/-- Whatever `Befalls` a player, it goes on agreeing with its terminal. -/
theorem Coherent.of_befalls (coherent : Coherent player) (befalls : Befalls player after) :
    Coherent after := by
  cases befalls with
  | delivered run => exact coherent.of_deliver run
  | framed run => exact coherent.of_onFrame run
  | resized run => exact (coherent.reshaped _ _).of_resized (Player.of_onResize run)
  | activated run => exact coherent.of_activated (Player.of_activate run)
  | deactivated run =>
    rw [Player.of_deactivate run]
    exact coherent.released
  | configured run => exact coherent.of_configured (Player.of_configure run)
  | switched run => exact coherent.of_switchTheme run

/-- A surface is neither lost nor found. -/
theorem Befalls.surface_isSome (befalls : Befalls player after) :
    after.surface.isSome = player.surface.isSome := by
  cases befalls with
  | delivered run =>
    unfold deliver at run
    split at run
    · cases (Runs.of_pure run).1
      rfl
    · exact (of_onFrame run).surface_isSome
  | framed run => exact (of_onFrame run).surface_isSome
  | resized run => rw [(of_onResize run).surface_eq]
  | activated run => rw [(of_activate run).surface_eq]
  | deactivated run => rw [of_deactivate run, released_surface]
  | configured run => rw [(of_configure run).surface_eq]
  | switched run => rw [(of_switchTheme run).surface_eq, released_surface]

/-- Every player that can be `Reached` is `Coherent` with its terminal: it runs exactly when it has
an engine and the terminal keeps one frame and one subscription for it, and else there is none of
the three. Without a surface to begin with nothing was ever asked of the terminal. -/
theorem coherent_of_reached {theme : Theme α} {surface : Option S} {controls : Controls α}
    {tuning : Tuning α} {cols rows : Nat} {entropy : UInt64}
    (reached : Reached theme surface controls tuning cols rows entropy player) :
    Coherent player ∧ player.surface.isSome = surface.isSome := by
  induction reached with
  | mounted run =>
    have activated := of_activate run
    exact ⟨(Coherent.idle theme surface controls tuning cols rows entropy).of_activated activated,
      congrArg Option.isSome activated.surface_eq⟩
  | befallen _ befalls agree =>
    exact ⟨agree.1.of_befalls befalls, befalls.surface_isSome.trans agree.2⟩

/-- A player with a flake and a stone that is mounted in a terminal and gets its first frame. -/
def oneFrame : Reporting ℚ (Player ℚ Random.Stream (Recording ℚ) TerminalHost × Bool) := do
  let theme := { Theme.snowfall with layers := [⟨.flake, 0, .fixed 1⟩, ⟨.stone, 1, .fixed 1⟩] }
  let player ← mount theme (some (Recording.blank 80 80)) Controls.initial ⟨1.0, some 7⟩
    (TerminalHost.opened 10 5 3)
  player.deliver 0.02

/-- After its first frame the player runs on, and the terminal keeps its next frame. -/
theorem coherent_of_oneFrame :
    ∃ (theme : Theme ℚ) (player : Player ℚ Random.Stream (Recording ℚ) TerminalHost),
      Reached theme (some (Recording.blank 80 80)) Controls.initial ⟨1.0, some 7⟩ 10 5 3 player ∧
      player.phase = .running ∧ player.entityCount = 2 ∧ Coherent player := by
  have ends : (oneFrame.run []).toOption.any (fun ⟨⟨player, drew⟩, _⟩ =>
      drew && player.isRunning && player.entityCount == 2) = true := by decide +kernel
  obtain ⟨⟨⟨player, drew⟩, _⟩, run, checked⟩ := of_any_toOption ends
  obtain ⟨mounted, _, mountRun, deliverRun⟩ := Runs.of_bind run
  simp only [Bool.and_eq_true, beq_iff_eq, isRunning_iff] at checked
  have reached := (Reached.mounted mountRun).befallen (.delivered deliverRun)
  exact ⟨_, player, reached, checked.1.2, checked.2, (coherent_of_reached reached).1⟩

end Ambience.Player
