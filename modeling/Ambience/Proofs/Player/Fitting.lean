import Ambience.Proofs.Canvas.Sizes
import Ambience.Proofs.Engine.Changes
import Ambience.Proofs.Player.Coherence

/-!
# A stage fits its terminal

The size of a stage is kept in four places: its terminal, its canvas, the raster of the canvas and
the scene of its engine. `Fitted` says that they agree on a number of cells. No operation but a new
layout changes the number, and a new layout changes it everywhere: a scene is only left alone when
there is none.
-/

namespace Ambience

variable {α σ : Type} [Scalar α]

/-- The view of some cells of a terminal. -/
def TerminalHost.bounds (cols rows : Nat) : Bounds α :=
  Bounds.of (TerminalHost.logicalSize cols rows : α × α).1
    (TerminalHost.logicalSize cols rows : α × α).2

/-- All four places agree on a number of cells. -/
structure Stage.Fitted (stage : Stage α σ) (cols rows : Nat) : Prop where
  host_cols : stage.host.cols = cols
  host_rows : stage.host.rows = rows
  canvas : ∃ canvas, stage.surface = some canvas ∧ canvas.Sized cols rows
  scene : ∀ engine, stage.engine? = some engine →
    engine.scene.bounds = TerminalHost.bounds cols rows

namespace Stage.Fitted

variable {stage after : Stage α σ} {cols rows : Nat}

/-! ## Starting and stopping -/

omit [Scalar α] in
/-- Choosing a seed (`Player.nextSeed`) moves on the entropy of a terminal and nothing else. -/
theorem nextSeed_host (stage : Stage α σ) : ∃ entropy, stage.nextSeed.2 = { stage.host with entropy } := by
  unfold Player.nextSeed
  split
  · exact ⟨stage.host.entropy, rfl⟩
  · exact ⟨_, rfl⟩

omit [Scalar α] in
/-- Giving back a request and a subscription leaves the size of a terminal alone. -/
theorem detach_host :
    stage.detach.host.cols = stage.host.cols ∧ stage.detach.host.rows = stage.host.rows := by
  have cancelled : ∀ handle (host : TerminalHost),
      (TerminalHost.cancelFrame handle host).cols = host.cols ∧
        (TerminalHost.cancelFrame handle host).rows = host.rows := by
    intro handle host
    unfold TerminalHost.cancelFrame
    split <;> exact ⟨rfl, rfl⟩
  have ended : ∀ handle (host : TerminalHost),
      (TerminalHost.unlistenResize handle host).cols = host.cols ∧
        (TerminalHost.unlistenResize handle host).rows = host.rows := by
    intro handle host
    unfold TerminalHost.unlistenResize
    split <;> exact ⟨rfl, rfl⟩
  unfold Player.detach
  cases stage.frame? with
  | none =>
    cases stage.listener? with
    | none => exact ⟨rfl, rfl⟩
    | some subscription => exact ended subscription stage.host
  | some handle =>
    cases stage.listener? with
    | none => exact cancelled handle stage.host
    | some subscription =>
      obtain ⟨cols, rows⟩ := ended subscription (TerminalHost.cancelFrame handle stage.host)
      exact ⟨cols.trans (cancelled handle stage.host).1, rows.trans (cancelled handle stage.host).2⟩

theorem detach (fitted : Fitted stage cols rows) : Fitted stage.detach cols rows where
  host_cols := detach_host.1.trans fitted.host_cols
  host_rows := detach_host.2.trans fitted.host_rows
  canvas := fitted.canvas
  scene := by rintro _ ⟨⟩

theorem released (fitted : Fitted stage cols rows) :
    Fitted (Player.released stage) cols rows := by
  unfold Player.released
  split
  · exact fitted.detach
  · exact fitted

/-- The theme, the controls and what a stage is doing have no part in its size. -/
theorem restyled {theme : Theme α} {controls : Controls α} {phase : Phase}
    (fitted : Fitted stage cols rows) :
    Fitted { stage with theme, controls, phase } cols rows where
  host_cols := fitted.host_cols
  host_rows := fitted.host_rows
  canvas := fitted.canvas
  scene := fitted.scene

/-- Neither has the colour mode. -/
theorem withMode (fitted : Fitted stage cols rows) (mode : ColorMode) :
    Fitted (stage.withMode mode) cols rows where
  host_cols := fitted.host_cols
  host_rows := fitted.host_rows
  canvas := by
    obtain ⟨canvas, surfaceAt, sized⟩ := fitted.canvas
    refine ⟨{ canvas with mode }, ?_, sized.cols_eq, sized.rows_eq, sized.size_eq⟩
    rw [Stage.withMode, surfaceAt]
    rfl
  scene := fitted.scene

variable [Words σ] [Units σ α] {events events' : List (Event α)}

/-- A new scene is built for the view of the terminal, so that an activation leaves a stage
`Fitted`. -/
theorem of_activated (fitted : Fitted stage cols rows) (activated : Player.Activated stage after) :
    Fitted after cols rows := by
  cases activated with
  | declined => exact fitted
  | @started engine _ _ _ _ startRun =>
    obtain ⟨entropy, moved⟩ := nextSeed_host stage
    refine ⟨?_, ?_, fitted.canvas, ?_⟩
    · show stage.nextSeed.2.cols = cols
      rw [moved]
      exact fitted.host_cols
    · show stage.nextSeed.2.rows = rows
      rw [moved]
      exact fitted.host_rows
    · rintro _ ⟨⟩
      rw [Engine.bounds_of_start startRun, ← fitted.host_cols, ← fitted.host_rows]
      rfl

theorem of_configured {controls : Controls α} (fitted : Fitted stage cols rows)
    (configured : Player.Configured stage controls after) : Fitted after cols rows := by
  cases configured with
  | stopped => exact fitted.restyled.detach
  | activated _ _ activated => exact fitted.restyled.of_activated activated
  | kept => exact fitted.restyled

theorem of_switchTheme {theme : Theme α} (fitted : Fitted stage cols rows)
    (run : Runs (Player.switchTheme stage theme) events after events') :
    Fitted after cols rows :=
  fitted.released.restyled.of_activated (Player.of_switchTheme run)

/-! ## Frames -/

theorem of_framed {handle : FrameHandle} {seconds : α} {drew : Bool}
    (fitted : Fitted stage cols rows) (framed : Player.Framed stage handle seconds after drew) :
    Fitted after cols rows := by
  cases framed with
  | ignored => exact fitted
  | lost => exact ⟨fitted.host_cols, fitted.host_rows, fitted.canvas, fitted.scene⟩
  | @drawn engine advanced surface _ _ _ engineAt surfaceAt updateRun =>
    refine ⟨fitted.host_cols, fitted.host_rows, ?_, ?_⟩
    · obtain ⟨canvas, canvasAt, sized⟩ := fitted.canvas
      cases canvasAt.symm.trans surfaceAt
      exact ⟨_, rfl, sized.of_sameRaster (Canvas.sameRaster_drawAll ..)⟩
    · rintro _ ⟨⟩
      rw [Engine.bounds_of_update updateRun]
      exact fitted.scene engine engineAt

theorem of_deliver {seconds : α} {drew : Bool} (fitted : Fitted stage cols rows)
    (run : Runs (Player.deliver stage seconds) events (after, drew) events') :
    Fitted after cols rows := by
  unfold Player.deliver at run
  split at run
  · cases (Runs.of_pure run).1
    exact fitted
  · have taken : Fitted { stage with host := { stage.host with pending := none } } cols rows :=
      ⟨fitted.host_cols, fitted.host_rows, fitted.canvas, fitted.scene⟩
    exact taken.of_framed (Player.of_onFrame run)

/-! ## Layouts -/

/-- A new layout fits its number of cells, whatever the stage fitted before: where there is a scene
to build anew, the player listens (`Coherent`). -/
theorem of_relayout (coherent : Player.Coherent stage) (fitted : Fitted stage cols rows)
    {cols' rows' : Nat} (run : Runs (stage.relayout cols' rows') events after events') :
    Player.Coherent after ∧ Fitted after cols' rows' := by
  obtain ⟨canvas, canvasAt, -⟩ := fitted.canvas
  have laid := (coherent.reshaped cols' rows').repainted fun canvas => canvas.resize cols' rows'
  have covered : ∃ resized, stage.surface.map (fun canvas => canvas.resize cols' rows') =
      some resized ∧ resized.Sized cols' rows' := by
    rw [canvasAt]
    exact ⟨_, rfl, Canvas.sized_resize canvas cols' rows'⟩
  unfold Stage.relayout at run
  dsimp only at run
  split at run
  · rename_i listens
    have resized := Player.of_onResize run
    refine ⟨laid.of_resized resized, ?_⟩
    cases resized with
    | ignored idle =>
      refine ⟨rfl, rfl, covered, fun engine engineAt => ?_⟩
      rcases idle with stops | deaf | missing
      · rw [(laid.resting stops).1] at engineAt
        cases engineAt
      · rw [← laid.listener_eq, deaf] at listens
        cases listens
      · rw [missing] at engineAt
        cases engineAt
    | rebuilt _ _ rebuildRun =>
      refine ⟨rfl, rfl, covered, ?_⟩
      rintro _ ⟨⟩
      exact Engine.bounds_of_rebuild rebuildRun
  · rename_i deaf
    cases (Runs.of_pure run).1
    refine ⟨laid, rfl, rfl, covered, fun engine engineAt => ?_⟩
    rw [laid.engine_of_deaf (Option.not_isSome_iff_eq_none.1 deaf)] at engineAt
    cases engineAt

/-- A new stage fits. -/
theorem of_opened {theme : Theme α} {controls : Controls α} {tuning : Tuning α} {mode : ColorMode}
    {quantum : UInt8} {entropy : UInt64}
    (run : Runs (Stage.opened theme controls tuning cols rows mode quantum entropy) events after
      events') :
    Player.Coherent after ∧ Fitted after cols rows := by
  unfold Stage.opened Player.mount at run
  have activated := Player.of_activate run
  refine ⟨(Player.Coherent.idle ..).of_activated activated, ?_⟩
  have idle : Fitted (Player.idle theme (some (Canvas.blank cols rows mode quantum)) controls tuning
      (TerminalHost.opened cols rows entropy) : Stage α σ) cols rows :=
    ⟨rfl, rfl, ⟨_, rfl, Canvas.sized_blank ..⟩, by rintro _ ⟨⟩⟩
  exact idle.of_activated activated

end Stage.Fitted

end Ambience
