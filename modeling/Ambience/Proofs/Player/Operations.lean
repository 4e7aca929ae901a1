import Ambience.Player
import Ambience.Proofs.Runs

/-!
# What the operations of a player do

Each operation has a relation between a player and the players that the operation can leave, with
one case for each way in which the operation ends, and a lemma that puts every successful run of the
operation into one of the cases. What holds of an operation is then shown by going through its
cases, and nothing else looks into the operations themselves. Starts, stops and what the viewer asks
also have the converse: where a case applies, the operation ends in it.
-/

namespace Ambience.Player

variable {α σ S H : Type} {player after : Player α σ S H} {events events' : List (Event α)}

theorem isRunning_iff : player.isRunning = true ↔ player.phase = .running := by
  simp only [isRunning, beq_iff_eq]

theorem isRunning_eq_false_iff : player.isRunning = false ↔ player.phase ≠ .running := by
  simp only [isRunning, beq_eq_false_iff_ne, ne_eq]

/-! ## Stopping and starting -/

variable [Host H]

/-- The player with what it holds given back, if it holds anything. -/
def released (player : Player α σ S H) : Player α σ S H :=
  if player.phase = .running then player.detach else player

theorem released_of_running (running : player.phase = .running) :
    player.released = player.detach := if_pos running

theorem released_of_stopped (stopped : player.phase ≠ .running) : player.released = player :=
  if_neg stopped

/-- After a stop (`released`) no player runs. -/
theorem released_stopped (player : Player α σ S H) : player.released.phase ≠ .running := by
  unfold released
  split
  · rintro ⟨⟩
  · assumption

@[simp] theorem released_tuning : player.released.tuning = player.tuning := by
  unfold released
  split <;> rfl

@[simp] theorem released_controls : player.released.controls = player.controls := by
  unfold released
  split <;> rfl

@[simp] theorem released_surface : player.released.surface = player.surface := by
  unfold released
  split <;> rfl

/-- A deactivation is a stop, and meets no fault (`runs_deactivate`). -/
theorem of_deactivate (run : Runs (deactivate player) events after events') :
    after = player.released := by
  unfold deactivate at run
  split at run
  · rename_i stopped
    rw [released_of_stopped (by simpa [isRunning] using stopped)]
    exact (Runs.of_pure run).1
  · rename_i running
    obtain ⟨_, _, _, run⟩ := Runs.of_bind run
    rw [released_of_running (by simpa [isRunning] using running)]
    exact (Runs.of_pure run).1

/-- While it runs, a player that is deactivated reports that it stopped, and detaches. -/
theorem deactivate_eq_detach (running : player.phase = .running) :
    deactivate player = (do report (.stopped player.theme.name); return player.detach) := by
  have runs := isRunning_iff.2 running
  simp only [deactivate, runs, Bool.not_true, Bool.false_eq_true, if_false]

theorem runs_deactivate (player : Player α σ S H) (events : List (Event α)) :
    ∃ events', Runs (deactivate player) events player.released events' := by
  by_cases running : player.phase = .running
  · rw [deactivate_eq_detach running, released_of_running running]
    exact ⟨_, rfl⟩
  · have rests := isRunning_eq_false_iff.2 running
    simp only [deactivate, rests, released_of_stopped running]
    exact ⟨_, rfl⟩

variable [Scalar α] [Words σ] [Units σ α] [Viewport H α]

/-- What an activation leaves: the same player, or one with a new engine. -/
inductive Activated (player : Player α σ S H) : Player α σ S H → Prop
  | declined :
    player.phase = .running ∨ player.controls.active = false ∨ player.surface = none →
    Activated player player
  | started {engine : Engine α σ} {built : List (Event α)} :
    player.phase ≠ .running → player.controls.active = true → player.surface.isSome →
    Engine.start player.theme player.tuning.scale player.nextSeed.1
      (Viewport.viewport player.host : α × α).1 (Viewport.viewport player.host : α × α).2 =
        .ok (engine, built) →
    Activated player (player.attach engine player.nextSeed.2)

theorem Activated.surface_eq (activated : Activated player after) :
    after.surface = player.surface := by
  cases activated with
  | declined => rfl
  | started => rfl

theorem Activated.theme_eq (activated : Activated player after) : after.theme = player.theme := by
  cases activated with
  | declined => rfl
  | started => rfl

theorem Activated.controls_eq (activated : Activated player after) :
    after.controls = player.controls := by
  cases activated with
  | declined => rfl
  | started => rfl

/-- A start draws a seed and attaches the engine that is built with it for the view of the host
(`Engine.start`). -/
theorem of_start (run : Runs (start player) events after events') :
    ∃ (engine : Engine α σ) (built : List (Event α)),
      Engine.start player.theme player.tuning.scale player.nextSeed.1
        (Viewport.viewport player.host : α × α).1 (Viewport.viewport player.host : α × α).2 =
          .ok (engine, built) ∧
      after = player.attach engine player.nextSeed.2 := by
  obtain ⟨⟨engine, built⟩, _, engineRun, run⟩ := Runs.of_bind run
  obtain ⟨_, _, _, run⟩ := Runs.of_bind run
  obtain ⟨_, _, _, run⟩ := Runs.of_bind run
  exact ⟨engine, built, (Runs.of_lift engineRun).1, (Runs.of_pure run).1⟩

/-- A successful activation is in one of the cases of `Activated`. -/
theorem of_activate (run : Runs (activate player) events after events') :
    Activated player after := by
  unfold activate at run
  split at run
  · rename_i running
    cases (Runs.of_pure run).1
    exact .declined (.inl (isRunning_iff.1 running))
  rename_i stopped
  split at run
  · rename_i inactive
    obtain ⟨_, _, _, run⟩ := Runs.of_bind run
    cases (Runs.of_pure run).1
    exact .declined (.inr (.inl (by simpa using inactive)))
  rename_i active
  split at run
  · rename_i missing
    obtain ⟨_, _, _, run⟩ := Runs.of_bind run
    cases (Runs.of_pure run).1
    exact .declined (.inr (.inr (Option.isNone_iff_eq_none.1 missing)))
  rename_i present
  obtain ⟨engine, built, engineRun, rfl⟩ := of_start run
  exact .started (fun running => stopped (isRunning_iff.2 running)) (by simpa using active)
    (Option.isSome_iff_ne_none.2 (by simpa using present)) engineRun

theorem runs_start {engine : Engine α σ} {built : List (Event α)}
    (startRun : Engine.start player.theme player.tuning.scale player.nextSeed.1
      (Viewport.viewport player.host : α × α).1 (Viewport.viewport player.host : α × α).2 =
        .ok (engine, built)) :
    Runs (start player) events (player.attach engine player.nextSeed.2)
      (events ++ built ++ [.started player.theme.name
        (Viewport.viewport player.host : α × α).1 (Viewport.viewport player.host : α × α).2]) :=
  Runs.bind (Runs.lift startRun) rfl

/-- Of a player at rest that is active and has a surface, `activate` is `start`. -/
theorem activate_eq_start (stopped : player.phase ≠ .running)
    (active : player.controls.active = true) (surface : player.surface.isSome) :
    activate player = start player := by
  have rests := isRunning_eq_false_iff.2 stopped
  have present : player.surface.isNone = false := by simpa using surface
  simp only [activate, rests, active, present, Bool.not_true, Bool.false_eq_true, if_false]

/-- In each of its cases `Activated` tells what an activation ends in. -/
theorem Activated.runs (activated : Activated player after) (events : List (Event α)) :
    ∃ events', Runs (activate player) events after events' := by
  cases activated with
  | started stopped active surface startRun =>
    rw [activate_eq_start stopped active surface]
    exact ⟨_, runs_start startRun⟩
  | declined reason =>
    unfold activate
    split
    · exact ⟨_, rfl⟩
    rename_i stopped
    split
    · exact ⟨_, rfl⟩
    rename_i active
    split
    · exact ⟨_, rfl⟩
    rename_i present
    rcases reason with running | inactive | missing
    · exact absurd (isRunning_iff.2 running) stopped
    · simp [inactive] at active
    · simp [missing] at present

/-! ## What the host tells -/

/-- What the delivery of a frame leaves, and whether the player drew. -/
inductive Framed [Surface S α] (player : Player α σ S H) (handle : FrameHandle) (seconds : α) :
    Player α σ S H → Bool → Prop
  | ignored :
    player.phase ≠ .running ∨ player.frame? ≠ some handle → Framed player handle seconds player false
  /-- The player waited for the frame but has nothing to advance or to draw on. -/
  | lost :
    player.phase = .running → player.frame? = some handle →
    player.engine? = none ∨ player.surface = none →
    Framed player handle seconds { player with frame? := none } false
  | drawn {engine advanced : Engine α σ} {surface : S} {reported : List (Event α)} :
    player.phase = .running → player.frame? = some handle → player.engine? = some engine →
    player.surface = some surface → engine.update seconds = .ok (advanced, reported) →
    Framed player handle seconds
      { player with
        surface := some (Surface.drawAll surface (advanced.picture player.controls
          (Surface.size surface : α × α).1 (Surface.size surface : α × α).2))
        host := (Host.requestFrame player.host).2
        engine? := some advanced
        frame? := some (Host.requestFrame player.host).1 } true

omit [Viewport H α] in
/-- A frame may change what is on a surface, but not whether there is one. -/
theorem Framed.surface_isSome [Surface S α] {handle : FrameHandle} {seconds : α} {drew : Bool}
    (framed : Framed player handle seconds after drew) :
    after.surface.isSome = player.surface.isSome := by
  cases framed with
  | ignored => rfl
  | lost => rfl
  | drawn _ _ _ surface => rw [surface]; rfl

omit [Viewport H α] in
/-- What comes of a frame is in one of the cases of `Framed`. -/
theorem of_onFrame [Surface S α] {handle : FrameHandle} {seconds : α} {drew : Bool}
    (run : Runs (onFrame player handle seconds) events (after, drew) events') :
    Framed player handle seconds after drew := by
  unfold onFrame at run
  split at run
  · rename_i stray
    cases (Runs.of_pure run).1
    refine .ignored ?_
    simpa [isRunning] using stray
  rename_i awaited
  obtain ⟨running, waits⟩ : player.phase = .running ∧ player.frame? = some handle := by
    simpa [isRunning] using awaited
  dsimp only at run
  split at run
  · rename_i engine surface hasEngine hasSurface
    obtain ⟨⟨advanced, reported⟩, _, updateRun, run⟩ := Runs.of_bind run
    obtain ⟨_, _, _, run⟩ := Runs.of_bind run
    cases (Runs.of_pure run).1
    exact .drawn running waits hasEngine hasSurface (Runs.of_lift updateRun).1
  · rename_i missing
    cases (Runs.of_pure run).1
    refine .lost running waits ?_
    cases engineAt : player.engine? with
    | none => exact .inl rfl
    | some engine =>
      cases surfaceAt : player.surface with
      | none => exact .inr rfl
      | some surface => exact (missing engine surface engineAt surfaceAt).elim

/-- What the news of a resize leaves: the same player, or one with a new scene. -/
inductive Resized (player : Player α σ S H) : Player α σ S H → Prop
  | ignored :
    player.phase ≠ .running ∨ player.listener? = none ∨ player.engine? = none →
    Resized player player
  | rebuilt {engine rebuilt : Engine α σ} {reported : List (Event α)} :
    player.phase = .running → player.engine? = some engine →
    engine.rebuild (Viewport.viewport player.host : α × α).1
      (Viewport.viewport player.host : α × α).2 = .ok (rebuilt, reported) →
    Resized player { player with engine? := some rebuilt }

omit [Host H] in
theorem Resized.surface_eq (resized : Resized player after) : after.surface = player.surface := by
  cases resized with
  | ignored => rfl
  | rebuilt => rfl

omit [Host H] in
/-- What comes of a new view is in one of the cases of `Resized`. -/
theorem of_onResize (run : Runs (onResize player) events after events') :
    Resized player after := by
  unfold onResize at run
  split at run
  · rename_i deaf
    cases (Runs.of_pure run).1
    refine .ignored ?_
    rw [Bool.or_eq_true, Bool.not_eq_true', isRunning_eq_false_iff,
      Option.isNone_iff_eq_none] at deaf
    exact deaf.imp_right .inl
  rename_i listens
  obtain ⟨running, -⟩ : player.phase = .running ∧ ¬ player.listener? = none := by
    simpa [isRunning] using listens
  dsimp only at run
  split at run
  · rename_i engine hasEngine
    obtain ⟨⟨rebuilt, reported⟩, _, rebuildRun, run⟩ := Runs.of_bind run
    obtain ⟨_, _, _, run⟩ := Runs.of_bind run
    cases (Runs.of_pure run).1
    exact .rebuilt running hasEngine (Runs.of_lift rebuildRun).1
  · rename_i noEngine
    cases (Runs.of_pure run).1
    exact .ignored (.inr (.inr noEngine))

/-! ## What the viewer asks -/

/-- A theme is switched by a stop and an activation from rest (`Activated`). -/
theorem of_switchTheme {theme : Theme α}
    (run : Runs (switchTheme player theme) events after events') :
    Activated { player.released with theme, phase := .idle } after := by
  obtain ⟨stopped, _, stopRun, run⟩ := Runs.of_bind run
  cases of_deactivate stopRun
  exact of_activate run

theorem runs_switchTheme {theme : Theme α}
    (activated : Activated { player.released with theme, phase := .idle } after)
    (events : List (Event α)) :
    ∃ events', Runs (switchTheme player theme) events after events' := by
  obtain ⟨_, stopRun⟩ := runs_deactivate player events
  obtain ⟨events', startRun⟩ := activated.runs _
  exact ⟨events', Runs.bind stopRun startRun⟩

/-- What new controls leave: a player that was stopped, one that was activated, or one that goes on
as it was. -/
inductive Configured (player : Player α σ S H) (controls : Controls α) : Player α σ S H → Prop
  | stopped :
    player.phase = .running → controls.active = false →
    Configured player controls { player with controls }.detach
  | activated {after : Player α σ S H} :
    player.phase ≠ .running → controls.active = true →
    Activated { player with controls } after → Configured player controls after
  | kept :
    (player.phase = .running ↔ controls.active = true) →
    Configured player controls { player with controls }

theorem Configured.surface_eq {controls : Controls α}
    (configured : Configured player controls after) : after.surface = player.surface := by
  cases configured with
  | stopped => rfl
  | activated _ _ activated => exact activated.surface_eq
  | kept => rfl

theorem Configured.theme_eq {controls : Controls α}
    (configured : Configured player controls after) : after.theme = player.theme := by
  cases configured with
  | stopped => rfl
  | activated _ _ activated => exact activated.theme_eq
  | kept => rfl

theorem Configured.controls_eq {controls : Controls α}
    (configured : Configured player controls after) : after.controls = controls := by
  cases configured with
  | stopped => rfl
  | activated _ _ activated => exact activated.controls_eq
  | kept => rfl

/-- What comes of new controls is in one of the cases of `Configured`. -/
theorem of_configure {controls : Controls α}
    (run : Runs (configure player controls) events after events') :
    Configured player controls after := by
  unfold configure at run
  dsimp only at run
  split at run
  · rename_i stops
    obtain ⟨running, inactive⟩ : player.phase = .running ∧ controls.active = false := by
      simpa [isRunning] using stops
    have runs : { player with controls }.phase = .running := running
    have stopped := of_deactivate run
    rw [released_of_running runs] at stopped
    cases stopped
    exact .stopped running inactive
  rename_i goesOn
  split at run
  · rename_i starts
    obtain ⟨stopped, active⟩ : player.phase ≠ .running ∧ controls.active = true := by
      simpa [isRunning] using starts
    exact .activated stopped active (of_activate run)
  · rename_i rests
    cases (Runs.of_pure run).1
    refine .kept ?_
    simp only [isRunning, Bool.and_eq_true, Bool.not_eq_true', beq_iff_eq, beq_eq_false_iff_ne,
      not_and, Bool.not_eq_false, Bool.not_eq_true, ne_eq] at goesOn rests
    constructor
    · exact goesOn
    · intro active
      refine Decidable.byContradiction fun stopped => ?_
      rw [rests stopped] at active
      cases active

theorem configure_eq_deactivate {controls : Controls α} (running : player.phase = .running)
    (inactive : controls.active = false) :
    configure player controls = deactivate { player with controls } := by
  have runs : isRunning { player with controls } = true := isRunning_iff.2 running
  simp only [configure, runs, inactive, Bool.not_false, Bool.and_true, if_true]

theorem configure_eq_activate {controls : Controls α} (stopped : player.phase ≠ .running)
    (active : controls.active = true) :
    configure player controls = activate { player with controls } := by
  have rests : isRunning { player with controls } = false := isRunning_eq_false_iff.2 stopped
  simp only [configure, rests, active, Bool.not_false, Bool.and_true, Bool.false_and,
    Bool.false_eq_true, if_false, if_true]

/-- Controls that are active for a running player, or inactive for one at rest, are taken and
nothing else is done. -/
theorem configure_eq_pure {controls : Controls α}
    (same : player.phase = .running ↔ controls.active = true) :
    configure player controls = pure { player with controls } := by
  have agree : isRunning { player with controls } = controls.active := by
    rw [Bool.eq_iff_iff, isRunning_iff]
    exact same
  simp only [configure, agree, Bool.and_not_self, Bool.not_and_self, Bool.false_eq_true, if_false]

/-- In each of its cases `Configured` tells what new controls end in. -/
theorem Configured.runs {controls : Controls α} (configured : Configured player controls after)
    (events : List (Event α)) :
    ∃ events', Runs (configure player controls) events after events' := by
  cases configured with
  | stopped running inactive =>
    have stops : released { player with controls } = detach { player with controls } :=
      released_of_running running
    rw [configure_eq_deactivate running inactive, ← stops]
    exact runs_deactivate { player with controls } events
  | activated stopped active activated =>
    rw [configure_eq_activate stopped active]
    exact activated.runs events
  | kept same =>
    rw [configure_eq_pure same]
    exact ⟨_, rfl⟩

end Ambience.Player
