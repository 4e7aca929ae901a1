import Ambience.Proofs.Canvas.Sizes
import Ambience.Proofs.Player.Operations
import Ambience.Stage

/-!
# The settings of a stage

A stage shows a theme under some controls and in a colour mode. Frames and layouts leave all three
alone, new controls leave the theme and the mode, and another theme leaves the controls and the mode.
-/

namespace Ambience

namespace Stage

variable {α σ : Type} {stage after : Stage α σ}

/-- The colour mode of a stage, if it has a canvas. -/
def mode (stage : Stage α σ) : Option ColorMode := stage.surface.map Canvas.mode

/-- The colour mode of a stage is that of its surface, if it has one. -/
theorem mode_withMode (stage : Stage α σ) (mode : ColorMode) :
    (stage.withMode mode).mode = stage.mode.map fun _ => mode := by
  unfold Stage.mode withMode
  rw [Option.map_map, Option.map_map]
  rfl

/-- The settings of a stage stay as they are. -/
structure Keeps (stage after : Stage α σ) : Prop where
  theme_eq : after.theme = stage.theme
  controls_eq : after.controls = stage.controls
  mode_eq : after.mode = stage.mode

variable [Scalar α] [Words σ] [Units σ α] {events events' : List (Event α)}

/-- A frame `Keeps` the theme, the controls and the mode of a stage. -/
theorem keeps_of_deliver {seconds : α} {drew : Bool}
    (run : Runs (Player.deliver stage seconds) events (after, drew) events') : Keeps stage after := by
  unfold Player.deliver at run
  split at run
  · cases (Runs.of_pure run).1
    exact ⟨rfl, rfl, rfl⟩
  · cases Player.of_onFrame run with
    | ignored | lost => exact ⟨rfl, rfl, rfl⟩
    | @drawn _ _ canvas _ _ _ _ surfaceAt =>
      refine ⟨rfl, rfl, ?_⟩
      have shown : stage.surface = some canvas := surfaceAt
      rw [mode, mode, shown, Option.map_some, Option.map_some, (Canvas.sameRaster_drawAll ..).mode_eq]

theorem keeps_of_relayout {cols rows : Nat}
    (run : Runs (stage.relayout cols rows) events after events') : Keeps stage after := by
  have resized : (stage.surface.map fun canvas => canvas.resize cols rows).map Canvas.mode =
      stage.mode := by
    rw [mode, Option.map_map]
    rfl
  unfold relayout at run
  dsimp only at run
  split at run
  · cases Player.of_onResize run with
    | ignored | rebuilt => exact ⟨rfl, rfl, resized⟩
  · cases (Runs.of_pure run).1
    exact ⟨rfl, rfl, resized⟩

theorem mode_of_configured {controls : Controls α}
    (configured : Player.Configured stage controls after) : after.mode = stage.mode := by
  rw [mode, mode, configured.surface_eq]

/-- Another theme is what a stage then shows, and its controls and colour mode stay. -/
theorem of_switchTheme {theme : Theme α}
    (run : Runs (Player.switchTheme stage theme) events after events') :
    after.theme = theme ∧ after.controls = stage.controls ∧ after.mode = stage.mode := by
  have activated := Player.of_switchTheme run
  refine ⟨activated.theme_eq, activated.controls_eq.trans ?_, ?_⟩
  · exact Player.released_controls
  · have sameSurface : after.surface = stage.surface :=
      activated.surface_eq.trans Player.released_surface
    rw [mode, mode, sameSurface]

end Stage

end Ambience
