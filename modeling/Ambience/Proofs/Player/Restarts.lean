import Ambience.Host.Ledger
import Ambience.Proofs.Player.Histories

/-!
# Restarts

Whenever a player comes to run, or is made to run another theme, it gets the engine that a new
player of the same theme, tuning and view would get. Nothing that it went through before shows in the
engine: neither the scenes that it had nor the randomness that they used, its controls, its surface
or its dealings with its host.
-/

namespace Ambience.Player

variable {α σ S H : Type} [Scalar α] [Words σ] [Units σ α] [Host H] [Viewport H α]
  {player after : Player α σ S H} {seed : UInt64}

/-! ## Fresh engines -/

/-- The player runs an engine at the start of the random stream of a seed, in a scene that was just
built for a view. -/
structure Fresh (seed : UInt64) (view : α × α) (player : Player α σ S H) : Prop where
  running : player.phase = .running
  engine : ∃ engine built, player.engine? = some engine ∧
    Engine.start player.theme player.tuning.scale seed view.1 view.2 = .ok (engine, built)

omit [Words σ] [Units σ α] [Scalar α] [Viewport H α] in
theorem nextSeed_of_seeded (seeded : player.tuning.seed = some seed) :
    player.nextSeed = (seed, player.host) := by
  unfold nextSeed
  rw [seeded]

/-- An activation takes a player at rest to running if it is free to run. -/
theorem Activated.running_iff (activated : Activated player after)
    (stopped : player.phase ≠ .running) :
    after.phase = .running ↔ player.controls.active = true ∧ player.surface.isSome := by
  cases activated with
  | declined reason =>
    refine iff_of_false stopped ?_
    rintro ⟨active, surface⟩
    rcases reason with running | inactive | missing
    · exact stopped running
    · simp [inactive] at active
    · simp [missing] at surface
  | started _ active surface _ => exact iff_of_true rfl ⟨active, surface⟩

/-- A player that an activation took to running has a `Fresh` engine. -/
theorem Activated.fresh (activated : Activated player after)
    (seeded : player.tuning.seed = some seed) (stopped : player.phase ≠ .running)
    (running : after.phase = .running) : Fresh seed (Viewport.viewport player.host) after := by
  cases activated with
  | declined => exact absurd running stopped
  | started _ _ _ startRun =>
    rw [nextSeed_of_seeded seeded] at startRun
    exact ⟨running, _, _, rfl, startRun⟩

/-- A player at rest that is free to run and whose engine can be built is activated with that
engine. -/
theorem activated_of_start {engine : Engine α σ} {built : List (Event α)}
    (seeded : player.tuning.seed = some seed) (stopped : player.phase ≠ .running)
    (active : player.controls.active = true) (surface : player.surface.isSome)
    (startRun : Engine.start player.theme player.tuning.scale seed
      (Viewport.viewport player.host : α × α).1 (Viewport.viewport player.host : α × α).2 =
        .ok (engine, built)) :
    Activated player (player.attach engine player.host) := by
  have next := nextSeed_of_seeded seeded
  have started : Activated player (player.attach engine player.nextSeed.2) := by
    apply Activated.started stopped active surface
    rw [next]
    exact startRun
  rw [next] at started
  exact started

omit [Host H] [Viewport H α] in
/-- A new player comes to the same engine as a `Fresh` one, on any surface, under any controls that
let it run and in any host with the same view. -/
theorem Fresh.mount {S' H' : Type} [Host H'] [Viewport H' α] {view : α × α}
    (fresh : Fresh seed view player) (seeded : player.tuning.seed = some seed) {surface : S'}
    {controls : Controls α} {host : H'} (active : controls.active = true)
    (sameView : Viewport.viewport host = view) (events : List (Event α)) :
    ∃ (mounted : Player α σ S' H') (events' : List (Event α)),
      Runs (mount player.theme (some surface) controls player.tuning host) events mounted events' ∧
      mounted.phase = .running ∧ mounted.engine? = player.engine? := by
  obtain ⟨engine, built, engineAt, startRun⟩ := fresh.engine
  rw [← sameView] at startRun
  have activated : Activated
      (idle player.theme (some surface) controls player.tuning host : Player α σ S' H') _ :=
    activated_of_start seeded (by rintro ⟨⟩) active rfl startRun
  obtain ⟨events', run⟩ := activated.runs events
  exact ⟨_, events', run, rfl, engineAt.symm⟩

/-- A start reads neither the controls of the player nor why it rests. -/
theorem start_rested {controls : Controls α} {phase : Phase} :
    start { player with controls, phase } =
      (fun started => { started with controls }) <$> start player := by
  unfold start
  simp only [map_bind]
  rfl

/-- The player under other controls. -/
def under (player : Player α σ S H) (controls : Controls α) : Player α σ S H :=
  { player with controls }

/-- To turn a running player off and on is to ask for its own theme again (`switchTheme`). -/
theorem configure_off_on {off on : Controls α} (running : player.phase = .running)
    (active : player.controls.active = true) (surface : player.surface.isSome)
    (inactive : off.active = false) (active' : on.active = true) :
    (do let stopped ← player.configure off; stopped.configure on) =
      (fun switched => switched.under on) <$> player.switchTheme player.theme := by
  have offRuns : { player with controls := off }.phase = .running := running
  have turnedOn : configure { player with controls := off }.detach on =
      start { player.detach with controls := on } := by
    rw [configure_eq_activate (by rintro ⟨⟩) active']
    exact activate_eq_start (by rintro ⟨⟩) active' surface
  have switched : activate { player.detach with theme := player.theme, phase := .idle } =
      start { player.detach with phase := .idle } :=
    activate_eq_start (by rintro ⟨⟩) active surface
  rw [configure_eq_deactivate running inactive, deactivate_eq_detach offRuns]
  unfold switchTheme
  rw [deactivate_eq_detach running]
  simp only [bind_assoc, pure_bind, map_bind, turnedOn, switched]
  -- both report the stop, and then start one and the same player under two controls
  congr 1
  funext _
  exact start_rested

/-! ## Starts in a history -/

variable [Surface S α]

/-- The incident took the player to running: it did not run before, or another theme was asked
for. -/
def Step.Enters (step : Step α σ S H) : Prop :=
  step.after.phase = .running ∧
    (step.before.phase ≠ .running ∨ ∃ theme, step.incident = .switchTheme theme)

variable {step : Step α σ S H} {tuning : Tuning α} {surface : S}

/-- A step that starts activates a player at rest that is free to run. -/
theorem Step.activated_of_starts (sound : Sound tuning (some surface) step.before)
    (met : Met step.before step.incident step.after step.drawn?) (begins : step.starts = true) :
    ∃ resting : Player α σ S (Recorded H),
      Activated resting step.after ∧ resting.phase ≠ .running ∧ resting.controls.active = true ∧
        resting.surface.isSome ∧ resting.tuning = tuning ∧
        resting.host = step.before.released.host := by
  obtain ⟨before, incident, after, drawn?⟩ := step
  dsimp only at sound met ⊢
  cases met with
  | moved | repainted | spared | framed | resized | deactivated => cases begins
  | activated activated =>
    simp only [starts, Bool.and_eq_true, Bool.not_eq_true', isRunning_eq_false_iff] at begins
    obtain ⟨stopped, active⟩ := begins
    refine ⟨before, activated, stopped, active, sound.surface_isSome, sound.tuning_eq, ?_⟩
    rw [released_of_stopped stopped]
  | configured configured =>
    simp only [starts, Bool.and_eq_true, Bool.not_eq_true', isRunning_eq_false_iff] at begins
    obtain ⟨stopped, active⟩ := begins
    cases configured with
    | stopped running => exact absurd running stopped
    | activated _ _ activated =>
      refine ⟨_, activated, stopped, active, sound.surface_isSome, sound.tuning_eq, ?_⟩
      rw [released_of_stopped stopped]
    | kept same => exact absurd (same.2 active) stopped
  | switched activated =>
    refine ⟨_, activated, by rintro ⟨⟩, ?_, ?_, released_tuning.trans sound.tuning_eq, rfl⟩
    · exact (congrArg Controls.active released_controls).trans begins
    · exact (congrArg Option.isSome released_surface).trans sound.surface_isSome

/-- Only a step that starts takes a player to running (`Step.Enters`). -/
theorem Step.starts_of_enters
    (met : Met step.before step.incident step.after step.drawn?) (enters : step.Enters) :
    step.starts = true := by
  obtain ⟨before, incident, after, drawn?⟩ := step
  obtain ⟨running, first⟩ := enters
  dsimp only at met running first
  have rested : (∀ theme, incident ≠ .switchTheme theme) → before.phase ≠ .running :=
    fun others => first.resolve_right fun ⟨theme, asked⟩ => others theme asked
  -- an incident that leaves the phase alone can only have found the player running
  cases met with
  | moved | repainted | spared => exact absurd running (rested (by rintro _ ⟨⟩))
  | framed _ framed =>
    have same : after.phase = before.phase := by cases framed <;> rfl
    exact absurd (same.symm.trans running) (rested (by rintro _ ⟨⟩))
  | resized resized =>
    have same : after.phase = before.phase := by cases resized <;> rfl
    exact absurd (same.symm.trans running) (rested (by rintro _ ⟨⟩))
  | deactivated => exact absurd running before.released_stopped
  | activated activated =>
    have stopped := rested (by rintro _ ⟨⟩)
    simp only [starts, Bool.and_eq_true, Bool.not_eq_true', isRunning_eq_false_iff]
    exact ⟨stopped, ((activated.running_iff stopped).1 running).1⟩
  | configured configured =>
    have stopped := rested (by rintro _ ⟨⟩)
    simp only [starts, Bool.and_eq_true, Bool.not_eq_true', isRunning_eq_false_iff]
    refine ⟨stopped, ?_⟩
    cases configured with
    | stopped => cases running
    | activated _ active _ => exact active
    | kept same => exact same.1 running
  | switched activated =>
    have active := ((activated.running_iff (by rintro ⟨⟩)).1 running).1
    exact (congrArg Controls.active released_controls).symm.trans active

omit [Scalar α] [Words σ] [Units σ α] [Host H] [Viewport H α] [Surface S α] in
/-- A step that starts asks a player at rest to run, or any player to change its theme. -/
theorem Step.rests_of_starts (begins : step.starts = true) :
    step.before.phase ≠ .running ∨ ∃ theme, step.incident = .switchTheme theme := by
  obtain ⟨before, incident, after, drawn?⟩ := step
  cases incident with
  | moved | repainted | delivered | resized | deactivate => cases begins
  | activate | configure =>
    simp only [starts, Bool.and_eq_true, Bool.not_eq_true', isRunning_eq_false_iff] at begins
    exact .inl begins.1
  | switchTheme theme => exact .inr ⟨theme, rfl⟩

/-- A seeded player on a surface is taken to running (`Step.Enters`) exactly when it `starts`, and
whatever it went through before, it then has the engine that `mount` gives a new player of the same
theme, tuning and view. To turn it off and on while it runs is to ask for its own theme again. -/
theorem restarts_of_history (S' H' : Type) [Host H'] [Viewport H' α] {theme : Theme α}
    {controls : Controls α} {inner : H} {incidents : List (Incident α S H)}
    {events events' : List (Event α)} {steps : List (Step α σ S H)}
    {player : Player α σ S (Recorded H)} (seeded : tuning.seed = some seed)
    (run : Runs (history theme (some surface) controls tuning inner incidents) events
      (steps, player) events') :
    (∀ step ∈ steps, (step.Enters ↔ step.starts = true) ∧
      (step.Enters → ∃ engine, step.after.engine? = some engine ∧
        ∀ (surface' : S') (controls' : Controls α) (host' : H') (before : List (Event α)),
          controls'.active = true →
          (Viewport.viewport host' : α × α) = Viewport.viewport step.before.released.host →
          ∃ (fresh : Player α σ S' H') (reported : List (Event α)),
            Runs (mount step.after.theme (some surface') controls' tuning host') before fresh
              reported ∧
            fresh.phase = .running ∧ fresh.engine? = some engine)) ∧
    (player.phase = .running → ∀ off on : Controls α, off.active = false → on.active = true →
      (do let stopped ← player.configure off; stopped.configure on) =
        (fun switched => switched.under on) <$> player.switchTheme player.theme) := by
  obtain ⟨sound, each⟩ := sound_of_history run
  refine ⟨fun step member => ?_, fun running off on inactive active' => ?_⟩
  · obtain ⟨soundBefore, met⟩ := each step member
    have fresh : step.starts = true →
        Fresh seed (Viewport.viewport step.before.released.host : α × α) step.after := by
      intro begins
      obtain ⟨resting, activated, stopped, active, present, tuning_eq, host_eq⟩ :=
        Step.activated_of_starts soundBefore met begins
      rw [← host_eq]
      rw [← tuning_eq] at seeded
      exact activated.fresh seeded stopped ((activated.running_iff stopped).2 ⟨active, present⟩)
    refine ⟨⟨Step.starts_of_enters met, fun begins => ?_⟩, fun enters => ?_⟩
    · exact ⟨(fresh begins).running, Step.rests_of_starts begins⟩
    have renewed := fresh (Step.starts_of_enters met enters)
    obtain ⟨engine, built, engineAt, -⟩ := renewed.engine
    refine ⟨engine, engineAt, fun surface' controls' host' before active view => ?_⟩
    have tuning_eq := (soundBefore.of_met met).tuning_eq
    rw [← tuning_eq] at seeded
    obtain ⟨mounted, reported, mountRun, running, same⟩ := renewed.mount seeded active view before
    rw [tuning_eq] at mountRun
    exact ⟨mounted, reported, mountRun, running, same.trans engineAt⟩
  · obtain ⟨-, -, -, active, present⟩ := sound.whole.running running
    exact configure_off_on running active present inactive active'

/-- The sparse theme runs for a frame, the terminal grows, and the theme is turned off and on. -/
def pauses : List (Incident ℚ (Recording ℚ) TerminalHost) :=
  [.due 0.02, .moved fun host => { host with cols := 12 }, .configure (.of true 1 false),
    .due 0.02, .configure (.of false 0.5 true), .due 0.02]

/-- After its pause the player has the engine that it would be mounted with in an open ledger of the
grown view. -/
theorem restarts_of_pauses :
    ∃ (steps : List (Step ℚ Random.Stream (Recording ℚ) TerminalHost))
      (player : Player ℚ Random.Stream (Recording ℚ) (Recorded TerminalHost))
      (step : Step ℚ Random.Stream (Recording ℚ) TerminalHost)
      (fresh : Player ℚ Random.Stream (Recording ℚ) (HostLedger ℚ))
      (events reported : List (Event ℚ)),
      Runs (sparseHistory Controls.initial pauses) [] (steps, player) events ∧
      (steps.filterMap Step.drawn?).length = 2 ∧ step ∈ steps ∧ step.Enters ∧
      Runs (mount step.after.theme (some (Recording.blank 7 7)) Controls.initial ⟨1.0, some 7⟩
        (HostLedger.opened 96 80)) [] fresh reported ∧
      fresh.phase = .running ∧ step.after.engine?.isSome ∧ fresh.engine? = step.after.engine? ∧
      (do let stopped ← player.configure (.of true 1 false); stopped.configure Controls.initial) =
        (fun switched => switched.under Controls.initial) <$> player.switchTheme player.theme := by
  have ends : ((sparseHistory Controls.initial pauses).run []).toOption.any
      (fun ended => ended.1.2.isRunning && (ended.1.1.filterMap Step.drawn?).length == 2 &&
        ended.1.1[1]?.any fun step => step.starts &&
          (Viewport.viewport step.before.released.host : ℚ × ℚ) == (96, 80)) = true := by
    decide +kernel
  obtain ⟨⟨⟨steps, player⟩, events⟩, run, checked⟩ := of_any_toOption ends
  simp only [Bool.and_eq_true, beq_iff_eq, isRunning_iff, Option.any_eq_true] at checked
  obtain ⟨⟨running, drawn⟩, step, place, begins, view⟩ := checked
  have restarts := restarts_of_history (Recording ℚ) (HostLedger ℚ) rfl run
  obtain ⟨enters_iff, renewed⟩ := restarts.1 step (List.mem_of_getElem? place)
  have enters := enters_iff.2 begins
  obtain ⟨engine, engineAt, mounts⟩ := renewed enters
  obtain ⟨fresh, reported, mountRun, freshRuns, same⟩ :=
    mounts (Recording.blank 7 7) Controls.initial (HostLedger.opened 96 80) [] rfl view.symm
  exact ⟨steps, player, step, fresh, events, reported, run, drawn, List.mem_of_getElem? place,
    enters, mountRun, freshRuns, Option.isSome_of_eq_some engineAt, same.trans engineAt.symm,
    restarts.2 running _ _ rfl rfl⟩

end Ambience.Player
