import Ambience.Theme

/-!
# Events

What an animation reports while it runs. Reporting is kept apart from the results: a computation in
`Reporting` gives its result and the events in order, or a fault.
-/

namespace Ambience

/-- Something worth reporting. -/
inductive Event (α : Type) where
  /-- A scene of a theme was built. -/
  | sceneBuilt (theme : String) (width height : α) (bodies : Nat)
  /-- A body of a new scene found no clear place. -/
  | placeMissing (kind : Kind) (slot : Nat)
  /-- The oldest bodies of a layer were dropped because it was over its cap. -/
  | overCap (kind : Kind) (dropped : Nat)
  /-- A player was asked to start but is switched off. -/
  | switchedOff (theme : String)
  /-- A player was asked to start but has nothing to draw on. -/
  | surfaceMissing (theme : String)
  /-- A player started, for a view of the given size. -/
  | started (theme : String) (width height : α)
  /-- A player stopped. -/
  | stopped (theme : String)
  /-- A session began, in a terminal of some cells. -/
  | sessionBegun (theme : String) (cols rows : Nat)
  /-- A session changes its theme. -/
  | themeChanging (theme : String)
  /-- A session was asked for a theme that there is not. -/
  | themeRefused (error : ThemeError)
  deriving Repr

/-- A computation that reports events and may fail. -/
abbrev Reporting (α : Type) := StateT (List (Event α)) (Except Fault)

/-- Reports one event. -/
def report {α : Type} (event : Event α) : Reporting α Unit := modify (· ++ [event])

end Ambience
