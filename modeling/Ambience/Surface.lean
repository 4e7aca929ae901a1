import Ambience.Drawing

/-!
# Surfaces

A surface takes drawing calls and has an extent in logical pixels. A recording keeps the calls
themselves.
-/

namespace Ambience

/-- Something that can be drawn on. -/
class Surface (S α : Type) where
  /-- The extent in logical pixels. -/
  size : S → α × α
  /-- The surface after one call. -/
  draw : S → DrawCall α → S

/-- The surface after calls in order. -/
def Surface.drawAll {S α : Type} [Surface S α] (surface : S) (calls : List (DrawCall α)) : S :=
  calls.foldl Surface.draw surface

/-- A surface that remembers its calls since the last one that covered everything. -/
structure Recording (α : Type) where
  width : α
  height : α
  calls : Array (DrawCall α)

namespace Recording

variable {α : Type}

/-- A recording of nothing, of an extent. -/
def blank (width height : α) : Recording α := ⟨width, height, #[]⟩

/-- The recording with one more call. -/
def add (recording : Recording α) (call : DrawCall α) : Recording α :=
  match call with
  | .clear _ => { recording with calls := #[call] }
  | _ => { recording with calls := recording.calls.push call }

instance : Surface (Recording α) α where
  size recording := (recording.width, recording.height)
  draw := add

end Recording

end Ambience
