import Ambience.Proofs.Player.Histories

/-!
# Appearance and simulation

The palette and the opacity only show in what a player draws. Two players that differ in them, and in
what they draw on, are `Twins` if they agree in everything else: the engine with its scene and its
source of randomness, the handles, and the host with the record of its dealings. Each operation
takes twins to twins, or to the same fault, and reports the same of both.
-/

namespace Ambience.Player

variable {α σ S S' H : Type}

/-! ## Twins -/

/-- Two players that simulate the same, whatever they draw on and in which palette and opacity. -/
structure Twins (player : Player α σ S H) (twin : Player α σ S' H) : Prop where
  theme_eq : player.theme = twin.theme
  tuning_eq : player.tuning = twin.tuning
  active_eq : player.controls.active = twin.controls.active
  present_eq : player.surface.isSome = twin.surface.isSome
  host_eq : player.host = twin.host
  phase_eq : player.phase = twin.phase
  engine_eq : player.engine? = twin.engine?
  frame_eq : player.frame? = twin.frame?
  listener_eq : player.listener? = twin.listener?

namespace Twins

variable {player : Player α σ S H} {twin : Player α σ S' H}

theorem isRunning_eq (twins : Twins player twin) : player.isRunning = twin.isRunning :=
  congrArg (· == Phase.running) twins.phase_eq

theorem isNone_eq (twins : Twins player twin) : player.surface.isNone = twin.surface.isNone := by
  rw [← Option.not_isSome, ← Option.not_isSome, twins.present_eq]

/-- Twins stay so under controls that only differ in what they show, that is, in the palette and the
opacity. -/
theorem retuned {controls controls' : Controls α} (twins : Twins player twin)
    (active : controls.active = controls'.active) :
    Twins { player with controls } { twin with controls := controls' } :=
  { twins with active_eq := active }

/-- The host moves on by itself for both alike. -/
theorem rehosted (twins : Twins player twin) (host : H) :
    Twins { player with host } { twin with host } :=
  { twins with host_eq := rfl }

variable [Host H]

theorem nextSeed_eq (twins : Twins player twin) : player.nextSeed = twin.nextSeed := by
  unfold nextSeed
  rw [twins.tuning_eq, twins.host_eq]

theorem attach (twins : Twins player twin) (engine : Engine α σ) (host : H) :
    Twins (player.attach engine host) (twin.attach engine host) where
  theme_eq := twins.theme_eq
  tuning_eq := twins.tuning_eq
  active_eq := twins.active_eq
  present_eq := twins.present_eq
  host_eq := rfl
  phase_eq := rfl
  engine_eq := rfl
  frame_eq := rfl
  listener_eq := rfl

theorem detach (twins : Twins player twin) : Twins player.detach twin.detach where
  theme_eq := twins.theme_eq
  tuning_eq := twins.tuning_eq
  active_eq := twins.active_eq
  present_eq := twins.present_eq
  host_eq := by
    unfold Player.detach
    rw [twins.frame_eq, twins.listener_eq, twins.host_eq]
  phase_eq := rfl
  engine_eq := rfl
  frame_eq := rfl
  listener_eq := rfl

/-! ## The operations in step -/

theorem deactivate (twins : Twins player twin) :
    InStep Twins player.deactivate twin.deactivate := by
  unfold Player.deactivate
  rw [twins.isRunning_eq, twins.theme_eq]
  split
  · exact .of_related twins
  · exact .bind_same _ fun _ => .of_related twins.detach

variable [Scalar α] [Words σ] [Units σ α] [Viewport H α]

theorem start (twins : Twins player twin) : InStep Twins player.start twin.start := by
  unfold Player.start
  rw [twins.nextSeed_eq, twins.theme_eq, twins.tuning_eq, twins.host_eq]
  apply InStep.bind_same
  intro built
  apply InStep.bind_same
  intro _
  apply InStep.bind_same
  intro _
  exact .of_related (twins.attach _ _)

/-- Twins come to the same when they are activated (`InStep`): both fail, or both end as twins with
the same reports. -/
theorem activate (twins : Twins player twin) : InStep Twins player.activate twin.activate := by
  unfold Player.activate
  rw [twins.isRunning_eq, twins.active_eq, twins.theme_eq, twins.isNone_eq]
  split
  · exact .of_related twins
  split
  · exact .bind_same _ fun _ => .of_related twins
  split
  · exact .bind_same _ fun _ => .of_related twins
  · exact twins.start

omit [Host H] in
theorem onResize (twins : Twins player twin) : InStep Twins player.onResize twin.onResize := by
  unfold Player.onResize
  rw [twins.isRunning_eq, twins.listener_eq, twins.host_eq, twins.engine_eq]
  split
  · exact .of_related twins
  dsimp only
  split
  · apply InStep.bind_same
    intro built
    apply InStep.bind_same
    intro _
    exact .of_related { twins with host_eq := rfl, engine_eq := rfl, listener_eq := rfl }
  · exact .of_related twins

theorem switchTheme (twins : Twins player twin) (theme : Theme α) :
    InStep Twins (player.switchTheme theme) (twin.switchTheme theme) := by
  apply twins.deactivate.bind
  intro stopped stopped' stoppedTwins
  have idle : Twins { stopped with theme, phase := .idle } { stopped' with theme, phase := .idle } :=
    { stoppedTwins with theme_eq := rfl, phase_eq := rfl }
  exact idle.activate

theorem configure {controls controls' : Controls α} (twins : Twins player twin)
    (active : controls.active = controls'.active) :
    InStep Twins (player.configure controls) (twin.configure controls') := by
  have retuned := twins.retuned active
  unfold Player.configure
  dsimp only
  rw [retuned.isRunning_eq, active]
  split
  · exact retuned.deactivate
  split
  · exact retuned.activate
  · exact .of_related retuned

omit [Viewport H α] in
/-- What is drawn reads the scene and leaves it alone, so that a frame takes twins to twins and is
drawn by both or by neither. -/
theorem onFrame [Surface S α] [Surface S' α] (twins : Twins player twin) (handle : FrameHandle)
    (seconds : α) :
    InStep (fun framed framed' => Twins framed.1 framed'.1 ∧ framed.2 = framed'.2)
      (player.onFrame handle seconds) (twin.onFrame handle seconds) := by
  unfold Player.onFrame
  rw [twins.isRunning_eq, twins.frame_eq]
  split
  · exact .of_related ⟨twins, rfl⟩
  have present := twins.present_eq
  dsimp only
  rw [twins.engine_eq, twins.host_eq]
  cases engineAt : twin.engine? with
  | none => exact .of_related ⟨{ twins with host_eq := rfl, engine_eq := rfl, frame_eq := rfl }, rfl⟩
  | some engine =>
    -- the surfaces are of two types: all that the cases share is whether there is one
    cases surfaceAt : player.surface with
    | none =>
      have missing : twin.surface = none := by simpa [surfaceAt] using present.symm
      rw [missing]
      exact .of_related
        ⟨{ twins with host_eq := rfl, engine_eq := rfl, frame_eq := rfl, present_eq := rfl }, rfl⟩
    | some surface =>
      obtain ⟨surface', surfaceAt'⟩ : ∃ surface', twin.surface = some surface' := by
        rw [← Option.isSome_iff_exists, ← present, surfaceAt]
        rfl
      rw [surfaceAt']
      apply InStep.bind_same
      intro advanced
      apply InStep.bind_same
      intro _
      exact .of_related ⟨{ twins with
        present_eq := rfl, host_eq := rfl, engine_eq := rfl, frame_eq := rfl }, rfl⟩

end Twins

/-! ## Histories in step -/

/-- Two incidents that may only differ in what they do to a surface and in the look that they ask
for. -/
inductive Incident.Paired : Incident α S H → Incident α S' H → Prop
  | moved (change : H → H) : Paired (.moved change) (.moved change)
  | repainted (change : S → S) (change' : S' → S') : Paired (.repainted change) (.repainted change')
  | delivered (take : H → Option FrameHandle × H) (seconds : α) :
    Paired (.delivered take seconds) (.delivered take seconds)
  | resized : Paired .resized .resized
  | activate : Paired .activate .activate
  | deactivate : Paired .deactivate .deactivate
  | configure {controls controls' : Controls α} :
    controls.active = controls'.active → Paired (.configure controls) (.configure controls')
  | switchTheme (theme : Theme α) : Paired (.switchTheme theme) (.switchTheme theme)

/-- Two steps that took twins to twins, and drew a frame of one handle or none. -/
structure Step.Twins (step : Step α σ S H) (twin : Step α σ S' H) : Prop where
  before : Player.Twins step.before twin.before
  after : Player.Twins step.after twin.after
  drawn_eq : step.drawn? = twin.drawn?

variable [Scalar α] [Words σ] [Units σ α] [Surface S α] [Surface S' α] [Host H] [Viewport H α]

/-- A pair of incidents takes twins to twins, whichever of the operations it asks for. -/
theorem Twins.meet {player : Player α σ S (Recorded H)} {twin : Player α σ S' (Recorded H)}
    {incident : Incident α S H} {incident' : Incident α S' H} (twins : Twins player twin)
    (paired : incident.Paired incident') :
    InStep (fun met met' => Twins met.1 met'.1 ∧ met.2 = met'.2)
      (player.meet incident) (twin.meet incident') := by
  have quiet : ∀ {operation : Reporting α (Player α σ S (Recorded H))}
      {operation' : Reporting α (Player α σ S' (Recorded H))}, InStep Twins operation operation' →
      InStep (fun met met' => Twins met.1 met'.1 ∧ met.2 = met'.2)
        (quietly operation) (quietly operation') := by
    intro operation operation' inStep
    apply inStep.bind
    intro _ _ related
    exact .of_related ⟨related, rfl⟩
  cases paired with
  | moved change =>
    unfold Player.meet
    rw [twins.host_eq]
    exact .of_related ⟨twins.rehosted _, rfl⟩
  | repainted change change' =>
    refine .of_related ⟨{ twins with present_eq := ?_ }, rfl⟩
    rw [Option.isSome_map, Option.isSome_map, twins.present_eq]
  | delivered take seconds =>
    unfold Player.meet
    dsimp only
    rw [twins.host_eq]
    split
    · exact .of_related ⟨twins.rehosted _, rfl⟩
    · apply ((twins.rehosted _).onFrame _ _).bind
      intro framed framed' related
      rw [related.2]
      exact .of_related ⟨related.1, rfl⟩
  | resized => exact quiet twins.onResize
  | activate => exact quiet twins.activate
  | deactivate => exact quiet twins.deactivate
  | configure active => exact quiet (twins.configure active)
  | switchTheme theme => exact quiet (twins.switchTheme theme)

/-- Twins that meet their incidents pair by pair stay so after any number of them, and so are all
their steps. -/
theorem Twins.live {player : Player α σ S (Recorded H)} {twin : Player α σ S' (Recorded H)}
    {past : List (Step α σ S H)} {past' : List (Step α σ S' H)} {incidents : List (Incident α S H)}
    {incidents' : List (Incident α S' H)} (twins : Twins player twin)
    (steps : List.Forall₂ Step.Twins past past')
    (paired : List.Forall₂ Incident.Paired incidents incidents') :
    InStep (fun lived lived' =>
        List.Forall₂ Step.Twins lived.1 lived'.1 ∧ Twins lived.2 lived'.2)
      (Player.live past player incidents) (Player.live past' twin incidents') := by
  induction paired generalizing player twin past past' with
  | nil => exact .of_related ⟨steps, twins⟩
  | cons first _ ih =>
    apply (twins.meet first).bind
    intro met met' related
    exact ih related.1 (.cons ⟨twins, related.1, related.2⟩ steps)

/-- Two players of one theme, tuning and host live in step under the same incidents
(`Incident.Paired`), whatever they are drawn on and in which palette and opacity: after each
incident they are `Twins`, or both met the same fault, and they reported the same. -/
theorem twins_of_history {theme : Theme α} {surface : Option S} {surface' : Option S'}
    {controls controls' : Controls α} {tuning : Tuning α} {host : H}
    {incidents : List (Incident α S H)} {incidents' : List (Incident α S' H)}
    (present : surface.isSome = surface'.isSome) (active : controls.active = controls'.active)
    (paired : List.Forall₂ Incident.Paired incidents incidents') :
    InStep (fun lived lived' =>
        List.Forall₂ Step.Twins lived.1 lived'.1 ∧ Twins lived.2 lived'.2)
      (history theme surface controls tuning host incidents :
        Reporting α (List (Step α σ S H) × Player α σ S (Recorded H)))
      (history theme surface' controls' tuning host incidents') := by
  have idle : Twins (idle theme surface controls tuning ⟨host, []⟩ : Player α σ S (Recorded H))
      (idle theme surface' controls' tuning ⟨host, []⟩) :=
    ⟨rfl, rfl, active, present, rfl, rfl, rfl, rfl, rfl⟩
  apply idle.activate.bind
  intro player twin twins
  exact twins.live .nil paired

/-- A viewer asks for a look between frames that come and go, a resize and another theme. -/
def looks (controls : Controls ℚ) : List (Incident ℚ (Recording ℚ) TerminalHost) :=
  [.due 0.02, .stray ⟨2⟩ 0.02, .moved fun host => { host with cols := 12 }, .resized,
    .configure controls, .due 0.03, .switchTheme { sparse with windHigh := 3 }, .due 0.02]

/-- In the dark and in the light the same three frames are drawn, and the same scene is left. -/
theorem twins_of_looks :
    ∃ (steps steps' : List (Step ℚ Random.Stream (Recording ℚ) TerminalHost))
      (player twin : Player ℚ Random.Stream (Recording ℚ) (Recorded TerminalHost))
      (events : List (Event ℚ)),
      Runs (sparseHistory (.of true 1 true) (looks (.of true 0.5 true))) [] (steps, player) events ∧
      Runs (sparseHistory (.of false 0.2 true) (looks (.of false 1 true))) [] (steps', twin)
        events ∧
      player.controls.dark ≠ twin.controls.dark ∧
      (steps.filterMap Step.drawn?).length = 3 ∧ player.entityCount = 2 ∧
      List.Forall₂ Step.Twins steps steps' ∧ Twins player twin := by
  have dark : ((sparseHistory (.of true 1 true) (looks (.of true 0.5 true))).run []).toOption.any
      (fun ended => ended.1.2.controls.dark && (ended.1.1.filterMap Step.drawn?).length == 3 &&
        ended.1.2.entityCount == 2) = true := by decide +kernel
  have light : ((sparseHistory (.of false 0.2 true) (looks (.of false 1 true))).run []).toOption.any
      (fun ended => !ended.1.2.controls.dark) = true := by decide +kernel
  obtain ⟨⟨⟨steps, player⟩, events⟩, run, checked⟩ := of_any_toOption dark
  have paired :
      List.Forall₂ Incident.Paired (looks (.of true 0.5 true)) (looks (.of false 1 true)) :=
    .cons (.delivered _ _) <| .cons (.delivered _ _) <| .cons (.moved _) <| .cons .resized <|
      .cons (.configure rfl) <| .cons (.delivered _ _) <| .cons (.switchTheme _) <|
      .cons (.delivered _ _) .nil
  have active :
      (Controls.of true (1 : ℚ) true).active = (Controls.of false (0.2 : ℚ) true).active := rfl
  have follows : ∃ lived, Runs (sparseHistory (.of false 0.2 true) (looks (.of false 1 true))) []
      lived events ∧ List.Forall₂ Step.Twins steps lived.1 ∧ Twins player lived.2 :=
    (twins_of_history rfl active paired).of_runs run
  obtain ⟨⟨steps', twin⟩, run', related⟩ := follows
  obtain ⟨lit, litRun, litChecked⟩ := of_any_toOption light
  cases Except.ok.inj (litRun.symm.trans run')
  simp only [Bool.and_eq_true, beq_iff_eq, Bool.not_eq_true'] at checked litChecked
  obtain ⟨⟨dark, drawn⟩, entities⟩ := checked
  refine ⟨steps, steps', player, twin, events, run, run', ?_, drawn, entities, related⟩
  rw [dark, litChecked]
  simp

end Ambience.Player
