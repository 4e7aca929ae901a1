import Ambience.Proofs.Player.Fitting
import Ambience.Proofs.Scalar.Exact
import Ambience.Proofs.Session.Turns

/-!
# Sizes agree in a session

A session knows the size of its terminal and whether the status bar takes a row of it. Between turns
its stage fits the rest (`Session.Fits`), and every step of a turn keeps that: what is typed, what is
wished, the changes that are applied at once, and the frame that is drawn.
-/

namespace Ambience

variable {α σ : Type} [Scalar α]

/-- The stage of a session agrees with its terminal and fits the rows that are left for it. -/
structure Session.Fits (session : Session α σ) : Prop where
  coherent : Player.Coherent session.stage
  fitted : session.stage.Fitted session.cols (displayRows session.rows session.hidden)

variable [Words σ] [Units σ α] {events events' : List (Event α)}

/-! ## Taking and applying -/

namespace Turn

variable {turn after : Turn α σ}

/-- A new layout `Fits` what the session then knows of its terminal. -/
theorem fits_of_relayout {session : Session α σ} {cols rows : Nat}
    (run : Runs (turn.relayout session) events after events')
    (coherent : Player.Coherent session.stage) (fitted : session.stage.Fitted cols rows) :
    after.session.Fits := by
  obtain ⟨stage, _, stageRun, run⟩ := Runs.of_bind run
  cases (Runs.of_pure run).1
  obtain ⟨coherent', fitted'⟩ := Stage.Fitted.of_relayout coherent fitted stageRun
  exact ⟨coherent', fitted'⟩

theorem fits_of_char {c : Char} (fits : turn.session.Fits)
    (run : Runs (turn.char c) events after events') : after.session.Fits := by
  unfold char at run
  dsimp only at run
  split at run
  case h_9 =>
    cases (Runs.of_pure run).1
    exact ⟨fits.coherent.repainted _, fits.fitted.withMode _⟩
  case h_10 => exact fits_of_relayout run fits.coherent fits.fitted
  all_goals
    cases (Runs.of_pure run).1
    exact ⟨fits.coherent, fits.fitted⟩

/-- One input keeps the fit, since a resized terminal and a bar that comes or goes are both followed
by a new layout. -/
theorem fits_of_take {input : Input} (fits : turn.session.Fits)
    (run : Runs (turn.take input) events after events') : after.session.Fits := by
  unfold take at run
  split at run
  · exact fits_of_char fits run
  case h_6 =>
    split at run
    · exact fits_of_relayout run fits.coherent fits.fitted
    · cases (Runs.of_pure run).1
      exact fits
  all_goals
    cases (Runs.of_pure run).1
    exact ⟨fits.coherent, fits.fitted⟩

/-- Whatever was typed and however the terminal was resized, the session goes on fitting. -/
theorem fits_of_takeAll {inputs : List Input} (fits : turn.session.Fits)
    (run : Runs (turn.takeAll inputs) events after events') : after.session.Fits := by
  induction inputs generalizing turn events with
  | nil =>
    cases (Runs.of_pure run).1
    exact fits
  | cons input later ih =>
    obtain ⟨middle, _, takeRun, run⟩ := Runs.of_bind run
    have middleFits := fits_of_take fits takeRun
    split at run
    · cases (Runs.of_pure run).1
      exact middleFits
    · exact ih middleFits run

omit [Words σ] [Units σ α] in
theorem fits_of_wish {wishes : List (Params α)} (fits : turn.session.Fits)
    (run : Runs (turn.wish wishes) events after events') : after.session.Fits := by
  rw [(of_wish run).1.session_eq]
  exact ⟨fits.coherent, fits.fitted⟩

variable {session : Session α σ}

theorem fits_of_applyControls (fits : turn.session.Fits)
    (run : Runs turn.applyControls events session events') : session.Fits := by
  unfold applyControls at run
  dsimp only at run
  split at run
  · cases (Runs.of_pure run).1
    exact fits
  · obtain ⟨stage, _, configureRun, run⟩ := Runs.of_bind run
    cases (Runs.of_pure run).1
    have configured := Player.of_configure configureRun
    exact ⟨fits.coherent.of_configured configured, fits.fitted.of_configured configured⟩

theorem fits_of_applyTheme {theme : Option (Theme α)} {result : Session α σ × Bool}
    (fits : session.Fits) (run : Runs (applyTheme theme session) events result events') :
    result.1.Fits := by
  unfold applyTheme at run
  split at run
  · cases (Runs.of_pure run).1
    exact fits
  split at run
  · cases (Runs.of_pure run).1
    exact fits
  · obtain ⟨_, _, _, run⟩ := Runs.of_bind run
    obtain ⟨stage, _, switchRun, run⟩ := Runs.of_bind run
    cases (Runs.of_pure run).1
    exact ⟨fits.coherent.of_switchTheme switchRun, fits.fitted.of_switchTheme switchRun⟩

end Turn

/-! ## Turns -/

namespace Session

variable {session : Session α σ} {outcome : Outcome α σ}

theorem fits_of_start {plan : Plan α} {cols rows : Nat} {entropy : UInt64}
    (run : Runs (start plan cols rows entropy) events session events') : session.Fits := by
  obtain ⟨stage, _, openRun, run⟩ := Runs.of_bind run
  obtain ⟨_, _, _, run⟩ := Runs.of_bind run
  cases (Runs.of_pure run).1
  obtain ⟨coherent, fitted⟩ := Stage.Fitted.of_opened openRun
  exact ⟨coherent, fitted⟩

theorem fits_of_draw {seconds fps : α} {switched : Bool} (fits : session.Fits)
    (run : Runs (session.draw seconds fps switched) events outcome events') :
    outcome.session.Fits := by
  unfold draw at run
  dsimp only at run
  obtain ⟨⟨stage, drew⟩, _, deliverRun, run⟩ := Runs.of_bind run
  cases (Runs.of_pure run).1
  exact ⟨fits.coherent.of_deliver deliverRun, fits.fitted.of_deliver deliverRun⟩

/-- Until a turn draws, its session goes on fitting. -/
theorem fits_of_applied {taken wished : Turn α σ} {around : Surroundings α}
    {controlled themed : Session α σ} {switched : Bool}
    {events₁ events₂ events₃ events₄ : List (Event α)} (fits : session.Fits)
    (takeRun : Runs (session.opening.takeAll around.inputs) events taken events₁)
    (wishRun : Runs (taken.wish around.wishes) events₁ wished events₂)
    (controlsRun : Runs (wished.due around.cycleDue).applyControls events₂ controlled events₃)
    (themeRun : Runs (Turn.applyTheme (wished.due around.cycleDue).theme controlled) events₃
      (themed, switched) events₄) :
    themed.Fits := by
  have takenFits := Turn.fits_of_takeAll fits takeRun
  have wishedFits := Turn.fits_of_wish takenFits wishRun
  have dueFits : (wished.due around.cycleDue).session.Fits := by
    unfold Turn.due
    split
    · exact ⟨wishedFits.coherent, wishedFits.fitted⟩
    · exact wishedFits
  exact Turn.fits_of_applyTheme (Turn.fits_of_applyControls dueFits controlsRun) themeRun

/-- One turn keeps the fit, whether it ends the session or not. -/
theorem fits_of_turn {around : Surroundings α} (fits : session.Fits)
    (run : Runs (session.turn around) events outcome events') : outcome.session.Fits := by
  cases of_turn run with
  | ended takeRun => exact Turn.fits_of_takeAll fits takeRun
  | drawn takeRun _ wishRun controlsRun themeRun drawRun =>
    exact fits_of_draw (fits_of_applied fits takeRun wishRun controlsRun themeRun) drawRun

/-! ## Sessions -/

/-- The sessions that a plan leads to, in a terminal of some cells at first. Other programs may have
left wishes before the first turn. -/
inductive Reached (plan : Plan α) (cols rows : Nat) (entropy : UInt64) : Session α σ → Prop
  | started {session : Session α σ} {wishes : Params α} {events events' : List (Event α)} :
    Runs (start plan cols rows entropy) events session events' →
    Reached plan cols rows entropy { session with wishes }
  | turned {session : Session α σ} {around : Surroundings α} {outcome : Outcome α σ}
      {events events' : List (Event α)} :
    Reached plan cols rows entropy session →
    Runs (session.turn around) events outcome events' →
    Reached plan cols rows entropy outcome.session

/-- Every session that can be `Reached` fits. -/
theorem Reached.fits {plan : Plan α} {cols rows : Nat} {entropy : UInt64}
    (reached : Reached plan cols rows entropy session) : session.Fits := by
  induction reached with
  | started run =>
    have fits := fits_of_start run
    exact ⟨fits.coherent, fits.fitted⟩
  | turned _ run fits => exact fits_of_turn fits run

end Session

/-! ## Exact sizes -/

section Exact

variable {β : Type} [ExactScalar β] [Units σ β]

/-- Two pixels for each row of cells, eight logical pixels each, are sixteen, as
`TerminalHost.logicalSize` has it. -/
theorem Canvas.Sized.size_eq_logicalSize {canvas : Canvas} {cols rows : Nat}
    (sized : canvas.Sized cols rows) :
    (canvas.size : β × β) = TerminalHost.logicalSize cols rows := by
  unfold Canvas.size Canvas.width Canvas.height TerminalHost.logicalSize Canvas.pixelSide
  rw [sized.cols_eq, sized.rows_eq]
  refine Prod.ext rfl ?_
  show Scalar.ofNat (rows * 2) * _ = Scalar.ofNat rows * _
  rw [ExactScalar.ofNat_eq, ExactScalar.ofNat_eq, ExactScalar.literal_eq, ExactScalar.literal_eq]
  push_cast
  ring

/-- The view of a terminal is as large as its cells. -/
theorem TerminalHost.bounds_eq (cols rows : Nat) :
    ((TerminalHost.bounds cols rows : Bounds β).width,
      (TerminalHost.bounds cols rows : Bounds β).height) = TerminalHost.logicalSize cols rows := by
  have nonneg : ∀ (n digits : Nat),
      0 ≤ (Scalar.ofNat n * Scalar.toOfScientific.ofScientific digits true 1 : β) := by
    intro n digits
    rw [ExactScalar.ofNat_eq, ExactScalar.literal_eq]
    positivity
  unfold TerminalHost.bounds Bounds.of TerminalHost.logicalSize
  exact Prod.ext (ExactScalar.restrict_of_nonneg (nonneg cols 80))
    (ExactScalar.restrict_of_nonneg (nonneg rows 160))

/-- Between turns, whatever happened in them (`Session.Reached`), the canvas and the terminal of a
session have the size that the session knows, less the row of the status bar (`displayRows`), and
the scene of a stage that runs has the size of both. -/
theorem Session.sizes_of_reached {plan : Plan β} {cols rows : Nat} {entropy : UInt64}
    {session : Session β σ} (reached : Session.Reached plan cols rows entropy session) :
    ∃ canvas, session.stage.surface = some canvas ∧
      canvas.cols = session.cols ∧ canvas.rows = displayRows session.rows session.hidden ∧
      session.stage.host.cols = canvas.cols ∧ session.stage.host.rows = canvas.rows ∧
      canvas.pixels.size = canvas.cols * 2 * canvas.rows ∧
      (session.stage.phase = .running →
        ∃ engine, session.stage.engine? = some engine ∧
          (engine.scene.bounds.width, engine.scene.bounds.height) = (canvas.size : β × β) ∧
          (engine.scene.bounds.width, engine.scene.bounds.height) =
            (Viewport.viewport session.stage.host : β × β)) := by
  obtain ⟨coherent, fitted⟩ := reached.fits
  obtain ⟨canvas, canvasAt, sized⟩ := fitted.canvas
  refine ⟨canvas, canvasAt, sized.cols_eq, sized.rows_eq, fitted.host_cols.trans sized.cols_eq.symm,
    fitted.host_rows.trans sized.rows_eq.symm, ?_, fun running => ?_⟩
  · rw [sized.size_eq, sized.cols_eq, sized.rows_eq]
    ring
  · obtain ⟨engine, engineAt⟩ := Option.isSome_iff_exists.1 (coherent.running_iff.1 running).1
    have view := @TerminalHost.bounds_eq β _ session.cols
      (displayRows session.rows session.hidden)
    rw [← fitted.scene engine engineAt] at view
    refine ⟨engine, engineAt, view.trans sized.size_eq_logicalSize.symm, view.trans ?_⟩
    rw [← fitted.host_cols, ← fitted.host_rows]
    rfl

/-- A session with one flake that is paused, gets a larger terminal and hides its status bar, and
then goes on. A terminal that is too small is passed over. -/
def Session.pausedResize : Reporting ℚ (Session.Outcome ℚ Random.Stream) := do
  let theme := { Theme.snowfall with layers := [⟨.flake, 0, .fixed 1⟩] }
  let session ← start ⟨theme, true, 100, .trueColor, 0, 30, 0, false, ⟨1.0, some 7⟩⟩ 10 5 3
  let paused ← session.turn
    ⟨[.key (.char ' '), .resize 12 6, .resize 4 4, .key (.char 'h')], [], false, 0.02, 30⟩
  paused.session.turn ⟨[.key (.char ' ')], [], false, 0.02, 30⟩

/-- The session that goes on has a scene for all twelve columns and six rows. -/
theorem Session.sizes_of_pausedResize :
    ∃ (plan : Plan ℚ) (session : Session ℚ Random.Stream) (engine : Engine ℚ Random.Stream),
      Session.Reached plan 10 5 3 session ∧ session.stage.phase = .running ∧
      session.cols = 12 ∧ displayRows session.rows session.hidden = 6 ∧
      session.stage.engine? = some engine ∧
      (engine.scene.bounds.width, engine.scene.bounds.height) =
        (Viewport.viewport session.stage.host : ℚ × ℚ) := by
  have ends : (pausedResize.run []).toOption.any (fun ⟨outcome, _⟩ =>
      outcome.session.stage.isRunning && outcome.session.cols == 12 &&
        displayRows outcome.session.rows outcome.session.hidden == 6) = true := by decide +kernel
  obtain ⟨⟨outcome, _⟩, run, checked⟩ := of_any_toOption ends
  obtain ⟨session, _, startRun, run⟩ := Runs.of_bind run
  obtain ⟨paused, _, pauseRun, resumeRun⟩ := Runs.of_bind run
  simp only [Bool.and_eq_true, beq_iff_eq, Player.isRunning_iff] at checked
  obtain ⟨⟨running, cols⟩, rows⟩ := checked
  have started : Session.Reached _ 10 5 3 session := .started startRun
  have reached := (started.turned pauseRun).turned resumeRun
  obtain ⟨_, _, _, _, _, _, _, scene⟩ := Session.sizes_of_reached reached
  obtain ⟨engine, engineAt, _, view⟩ := scene running
  exact ⟨_, outcome.session, engine, reached, running, cols, rows, engineAt, view⟩

end Exact

end Ambience
