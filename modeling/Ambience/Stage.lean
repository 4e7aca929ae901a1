import Ambience.Canvas.Frame
import Ambience.Canvas.Raster
import Ambience.Host.Terminal
import Ambience.Player

/-!
# Stages

A stage is a player on the canvas of a terminal. The last row of the terminal is kept free for the
status bar unless that is hidden.
-/

namespace Ambience

/-- The rows that are left for the animation. -/
def displayRows (rows : Nat) (hidden : Bool) : Nat := if hidden then rows else rows - 1

namespace Player

variable {α σ S H : Type} [Scalar α] [Words σ] [Units σ α]

/-- Delivers the pending frame, if there is one, after the given seconds. Tells whether the player
drew. -/
def deliver [Surface S α] (player : Player α σ S TerminalHost) (seconds : α) :
    Reporting α (Player α σ S TerminalHost × Bool) :=
  match player.host.pending with
  | none => return (player, false)
  | some handle =>
    onFrame { player with host := { player.host with pending := none } } handle seconds

/-- The text that shows the canvas. -/
def frameText (player : Player α σ Canvas H) : String := (player.surface.map Canvas.encode).getD ""

end Player

/-- A player on the canvas of a terminal. -/
abbrev Stage (α σ : Type) := Player α σ Canvas TerminalHost

namespace Stage

variable {α σ : Type} [Scalar α] [Words σ] [Units σ α]

/-- A new stage with a black canvas of some cells, which starts if the controls let it. -/
def opened (theme : Theme α) (controls : Controls α) (tuning : Tuning α) (cols rows : Nat)
    (mode : ColorMode) (quantum : UInt8) (entropy : UInt64) :
    Reporting α (Stage α σ) :=
  Player.mount theme (some (Canvas.blank cols rows mode quantum)) controls tuning
    (TerminalHost.opened cols rows entropy)

/-- The stage in another number of cells. The canvas is covered anew, and a stage that listens for
resizes builds a new scene. -/
def relayout (stage : Stage α σ) (cols rows : Nat) : Reporting α (Stage α σ) :=
  let stage : Stage α σ :=
    { stage with
      host := { stage.host with cols, rows }
      surface := stage.surface.map fun canvas => canvas.resize cols rows }
  if stage.host.listener.isSome then stage.onResize else return stage

/-- The stage with another colour mode. -/
def withMode (stage : Stage α σ) (mode : ColorMode) : Stage α σ :=
  { stage with surface := stage.surface.map fun canvas => { canvas with mode } }

end Stage

end Ambience
