import Ambience.Proofs.Session.Sizes

/-!
# Frames keep nothing of what was drawn before

A picture begins by covering everything. On a canvas that has a pixel for each place of its raster
that leaves no pixel as it was, so that what is drawn depends on the scene, the controls and the
raster alone: a frame is the same on a canvas that was never drawn on. In a session every canvas has
its pixels, through all resizes and layouts, and every frame is drawn as on a new canvas.
-/

namespace Ambience

variable {α σ : Type} [Scalar α]

/-- The surface with the picture of the engine's scene drawn on it. -/
def Engine.render {S : Type} [Surface S α] (engine : Engine α σ) (controls : Controls α)
    (surface : S) : S :=
  Surface.drawAll surface (engine.picture controls (Surface.size surface : α × α).1
    (Surface.size surface : α × α).2)

/-! ## Canvases -/

namespace Canvas

variable {canvas other : Canvas} {cols rows : Nat}

/-- A canvas of the same raster that was never drawn on. -/
def unpainted (canvas : Canvas) : Canvas :=
  blank canvas.cols canvas.rows canvas.mode canvas.quantum

/-- Canvases of the same size, mode and quantum have the `SameRaster`. -/
theorem Sized.sameRaster (sized : canvas.Sized cols rows) (sized' : other.Sized cols rows)
    (mode : other.mode = canvas.mode) (quantum : other.quantum = canvas.quantum) :
    SameRaster canvas other :=
  ⟨sized'.cols_eq.trans sized.cols_eq.symm, sized'.rows_eq.trans sized.rows_eq.symm,
    sized'.size_eq.trans sized.size_eq.symm, mode, quantum⟩

theorem Sized.sameRaster_unpainted (sized : canvas.Sized cols rows) :
    SameRaster canvas canvas.unpainted := by
  refine sized.sameRaster ?_ rfl rfl
  rw [← sized.cols_eq, ← sized.rows_eq]
  exact sized_blank ..

/-- Covered with one colour, canvases of the `SameRaster` are the same. -/
theorem SameRaster.clear_eq (same : SameRaster canvas other) (color : Rgb) :
    other.clear color = canvas.clear color := by
  obtain ⟨cols, rows, pixels, background, mode, quantum⟩ := canvas
  obtain ⟨cols', rows', pixels', background', mode', quantum'⟩ := other
  obtain ⟨rfl, rfl, size, rfl, rfl⟩ := same
  exact congrArg (fun n => Canvas.mk cols' rows' (Array.replicate n color) color mode' quantum') size

theorem SameRaster.extent_eq (same : SameRaster canvas other) :
    (other.size : α × α) = canvas.size := by
  unfold size width height
  rw [same.cols_eq, same.rows_eq]

/-- A frame is the same on all canvases of the same raster, whatever they show. -/
theorem SameRaster.render_eq (same : SameRaster canvas other) (engine : Engine α σ)
    (controls : Controls α) : engine.render controls other = engine.render controls canvas := by
  have extent : (Surface.size other : α × α) = Surface.size canvas := same.extent_eq
  unfold Engine.render
  rw [extent]
  -- the first call of a picture covers the canvas, and the others go on from there
  unfold Engine.picture Surface.drawAll
  rw [List.foldl_cons, List.foldl_cons]
  exact congrArg (List.foldl _ · _) (same.clear_eq _)

theorem sameRaster_render (canvas : Canvas) (engine : Engine α σ) (controls : Controls α) :
    SameRaster canvas (engine.render controls canvas) :=
  sameRaster_drawAll ..

/-- A raster has one new canvas (`Canvas.unpainted`). -/
theorem SameRaster.unpainted_eq (same : SameRaster canvas other) :
    other.unpainted = canvas.unpainted := by
  unfold unpainted
  rw [same.cols_eq, same.rows_eq, same.mode_eq, same.quantum_eq]

/-- What is drawn on a canvas that has its pixels is drawn as on a new one (`Canvas.unpainted`). -/
theorem Sized.render_eq_unpainted (sized : canvas.Sized cols rows) (engine : Engine α σ)
    (controls : Controls α) :
    engine.render controls canvas =
      engine.render controls (engine.render controls canvas).unpainted := by
  rw [(sameRaster_render canvas engine controls).unpainted_eq]
  exact (sized.sameRaster_unpainted.render_eq engine controls).symm

end Canvas

/-! ## Players and sessions -/

variable [Words σ] [Units σ α]

/-- The canvas shows the present scene of a player, drawn as on a canvas that was never drawn on. -/
def Player.ShowsAnew {H : Type} (player : Player α σ Canvas H) (canvas : Canvas) : Prop :=
  ∃ engine, player.engine? = some engine ∧ player.surface = some canvas ∧
    canvas = engine.render player.controls canvas.unpainted

/-- A frame that is drawn `ShowsAnew` what the scene comes to. -/
theorem Player.Framed.showsAnew {H : Type} [Host H] {player after : Player α σ Canvas H}
    {handle : FrameHandle} {seconds : α} {canvas : Canvas} {cols rows : Nat}
    (framed : Player.Framed player handle seconds after true)
    (drawnOn : player.surface = some canvas) (sized : canvas.Sized cols rows) :
    ∃ shown, after.ShowsAnew shown ∧ shown.Sized cols rows := by
  cases framed with
  | @drawn _ advanced _ _ _ _ _ surfaceAt =>
    cases drawnOn.symm.trans surfaceAt
    exact ⟨_, ⟨advanced, rfl, rfl, sized.render_eq_unpainted advanced player.controls⟩,
      sized.of_sameRaster (Canvas.sameRaster_render canvas advanced player.controls)⟩

namespace Session

variable {session : Session α σ} {outcome : Outcome α σ} {events events' : List (Event α)}

theorem showsAnew_of_draw {seconds fps : α} {switched : Bool} (fits : session.Fits)
    (run : Runs (session.draw seconds fps switched) events outcome events')
    (drew : outcome.drew = true) :
    ∃ shown, outcome.session.stage.ShowsAnew shown ∧
      shown.Sized outcome.session.cols
        (displayRows outcome.session.rows outcome.session.hidden) := by
  obtain ⟨canvas, surfaceAt, sized⟩ := fits.fitted.canvas
  unfold draw at run
  obtain ⟨⟨stage, drew'⟩, _, deliverRun, run⟩ := Runs.of_bind run
  cases (Runs.of_pure run).1
  obtain rfl : drew' = true := drew
  unfold Player.deliver at deliverRun
  split at deliverRun
  · cases (Runs.of_pure deliverRun).1
  · exact (Player.of_onFrame deliverRun).showsAnew surfaceAt sized

/-- A turn that draws shows its frame as on a new canvas, however the session was resized before. -/
theorem showsAnew_of_turn {around : Surroundings α} (fits : session.Fits)
    (run : Runs (session.turn around) events outcome events') (drew : outcome.drew = true) :
    ∃ shown, outcome.session.stage.ShowsAnew shown ∧
      shown.Sized outcome.session.cols
        (displayRows outcome.session.rows outcome.session.hidden) := by
  cases of_turn run with
  | ended => cases drew
  | drawn takeRun _ wishRun controlsRun themeRun drawRun =>
    exact showsAnew_of_draw (fits_of_applied fits takeRun wishRun controlsRun themeRun) drawRun drew

end Session

/-- What `Engine.render` draws depends on the scene, the controls and the raster, and on nothing
that was drawn before. On canvases of the same raster (`Canvas.Sized`) the same is drawn, and
drawing it again changes nothing. Whenever a player has drawn, its canvas is as if it had been new
(`Player.ShowsAnew`), and so it is after every turn of a session that draws, whatever happened
before. -/
theorem Engine.render_memoryless :
    (∀ (engine : Engine α σ) (controls : Controls α) (canvas other : Canvas) (cols rows : Nat),
      canvas.Sized cols rows → other.Sized cols rows → other.mode = canvas.mode →
      other.quantum = canvas.quantum →
      engine.render controls other = engine.render controls canvas) ∧
    (∀ (engine : Engine α σ) (controls : Controls α) (canvas : Canvas),
      engine.render controls (engine.render controls canvas) = engine.render controls canvas) ∧
    (∀ (H : Type) [Host H] (player after : Player α σ Canvas H) (handle : FrameHandle) (seconds : α)
      (events events' : List (Event α)) (canvas : Canvas) (cols rows : Nat),
      player.surface = some canvas → canvas.Sized cols rows →
      Runs (player.onFrame handle seconds) events (after, true) events' →
      ∃ shown, after.ShowsAnew shown ∧ shown.Sized cols rows) ∧
    (∀ (plan : Plan α) (cols rows : Nat) (entropy : UInt64) (session : Session α σ)
      (around : Surroundings α) (outcome : Session.Outcome α σ) (events events' : List (Event α)),
      Session.Reached plan cols rows entropy session →
      Runs (session.turn around) events outcome events' → outcome.drew = true →
      ∃ shown, outcome.session.stage.ShowsAnew shown ∧
        shown.Sized outcome.session.cols
          (displayRows outcome.session.rows outcome.session.hidden)) := by
  refine ⟨?_, ?_, ?_, ?_⟩
  · intro engine controls canvas other cols rows sized sized' mode quantum
    exact (sized.sameRaster sized' mode quantum).render_eq engine controls
  · intro engine controls canvas
    exact (Canvas.sameRaster_render canvas engine controls).render_eq engine controls
  · intro H _ player after handle seconds events events' canvas cols rows drawnOn sized run
    exact (Player.of_onFrame run).showsAnew drawnOn sized
  · intro plan cols rows entropy session around outcome events events' reached run drew
    exact Session.showsAnew_of_turn reached.fits run drew

/-- The session that was paused and got a larger terminal draws when it goes on, and it makes no
difference to its engine what colour a canvas had. -/
theorem Engine.render_after_pausedResize :
    ∃ (session : Session ℚ Random.Stream) (shown : Canvas) (engine : Engine ℚ Random.Stream),
      session.stage.ShowsAnew shown ∧ shown.Sized 12 6 ∧ session.stage.engine? = some engine ∧
      engine.render session.stage.controls ((Canvas.blank 2 1 .mono 0).clear ⟨255, 0, 0⟩) =
        engine.render session.stage.controls (Canvas.blank 2 1 .mono 0) := by
  have ends : (Session.pausedResize.run []).toOption.any (fun ⟨outcome, _⟩ =>
      outcome.drew && outcome.session.cols == 12 &&
        displayRows outcome.session.rows outcome.session.hidden == 6) = true := by decide +kernel
  obtain ⟨⟨outcome, _⟩, run, checked⟩ := of_any_toOption ends
  obtain ⟨session, _, startRun, run⟩ := Runs.of_bind run
  obtain ⟨paused, _, pauseRun, resumeRun⟩ := Runs.of_bind run
  simp only [Bool.and_eq_true, beq_iff_eq] at checked
  obtain ⟨⟨drew, cols⟩, rows⟩ := checked
  have started : Session.Reached _ 10 5 3 session := .started startRun
  obtain ⟨same, -, -, anew⟩ := @Engine.render_memoryless ℚ Random.Stream _ _ _
  obtain ⟨shown, ⟨engine, engineAt, shownAt, drawn⟩, sized⟩ :=
    anew _ _ _ _ _ _ _ _ _ (started.turned pauseRun) resumeRun drew
  rw [cols, rows] at sized
  have blank := Canvas.sized_blank 2 1 .mono 0
  have red := blank.of_sameRaster (Canvas.sameRaster_clear _ ⟨255, 0, 0⟩)
  exact ⟨outcome.session, shown, engine, ⟨engine, engineAt, shownAt, drawn⟩, sized, engineAt,
    same engine _ _ _ 2 1 blank red rfl rfl⟩

end Ambience
