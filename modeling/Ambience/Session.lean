import Ambience.Params
import Ambience.Plan
import Ambience.Session.Keys
import Ambience.Stage
import Ambience.Text.Whole

/-!
# Sessions

A session plays on the whole terminal. It goes on in turns: first it takes what was typed, how the
terminal was resized and what other programs wish, then it applies all changes at once, and then it
draws a frame and the status bar below it.
-/

namespace Ambience

/-- What happens in a terminal. -/
inductive Input where
  | key (key : Key)
  | resize (cols rows : Nat)
  deriving DecidableEq, Repr

/-- A running session. -/
structure Session (α σ : Type) where
  cols : Nat
  rows : Nat
  /-- Whether the status bar is hidden. -/
  hidden : Bool
  stage : Stage α σ
  /-- What other programs wish and was not applied yet. -/
  wishes : Params α
  /-- Whether the terminal has to be emptied before the next frame. -/
  stale : Bool

/-- What surrounds one turn of a session. -/
structure Surroundings (α : Type) where
  /-- What happened in the terminal since the last turn, in order. -/
  inputs : List Input
  /-- What other programs wished since the last turn, in order. -/
  wishes : List (Params α)
  /-- Whether the theme has been shown for as long as planned. -/
  cycleDue : Bool
  /-- The seconds since the last turn. -/
  seconds : α
  /-- The measured frames in a second. -/
  fps : α

/-- What a turn has taken and not applied yet. -/
structure Turn (α σ : Type) where
  session : Session α σ
  controls : Controls α
  /-- The theme to change to. -/
  theme : Option (Theme α)
  /-- Whether the session is to end. -/
  quit : Bool

variable {α σ : Type} [Scalar α] [Words σ] [Units σ α]

namespace Turn

/-! ## Keys and resizes -/

/-- By how much a key changes the opacity. -/
def opacityStep : α := 10.0

/-- Asks for the theme some places after the current one. -/
def cycle (turn : Turn α σ) (offset : Int) : Turn α σ :=
  { turn with theme := some (Theme.after turn.session.stage.theme.name offset) }

/-- Changes the opacity. -/
def brighten (turn : Turn α σ) (amount : α) : Turn α σ :=
  { turn with controls := turn.controls.withOpacity (turn.controls.opacity + amount) }

/-- Lays the stage out anew for the terminal as the session knows it. -/
def relayout (turn : Turn α σ) (session : Session α σ) : Reporting α (Turn α σ) := do
  let stage ← session.stage.relayout session.cols (displayRows session.rows session.hidden)
  return { turn with session := { session with stage, stale := true } }

/-- Takes one character that was typed. -/
def char (turn : Turn α σ) (c : Char) : Reporting α (Turn α σ) :=
  let session := turn.session
  match c with
  | 'q' => return { turn with quit := true }
  | 'n' => return turn.cycle 1
  | 'p' => return turn.cycle (-1)
  | 'd' => return { turn with controls := { turn.controls with dark := !turn.controls.dark } }
  | '+' => return turn.brighten opacityStep
  | '=' => return turn.brighten opacityStep
  | '-' => return turn.brighten (-opacityStep)
  | ' ' => return { turn with controls := { turn.controls with active := !turn.controls.active } }
  | 'c' =>
    let mode := (session.stage.surface.map fun canvas => canvas.mode.next).getD .trueColor
    return { turn with session := { session with stage := session.stage.withMode mode, stale := true } }
  | 'h' => turn.relayout { session with hidden := !session.hidden }
  | _ => return turn

/-- Takes one thing that happened in the terminal. Resizes to fewer than ten columns or five rows do
not count. -/
def take (turn : Turn α σ) : Input → Reporting α (Turn α σ)
  | .key (.char c) => turn.char c
  | .key .escape => return { turn with quit := true }
  | .key .right => return turn.cycle 1
  | .key .left => return turn.cycle (-1)
  | .key .other => return turn
  | .resize cols rows =>
    if 10 ≤ cols ∧ 5 ≤ rows then turn.relayout { turn.session with cols, rows } else return turn

/-- Takes things that happened in order, up to one that ends the session. -/
def takeAll (turn : Turn α σ) : List Input → Reporting α (Turn α σ)
  | [] => return turn
  | input :: later => do
    let turn ← turn.take input
    if turn.quit then return turn else turn.takeAll later

/-! ## Wishes -/

/-- Takes what other programs wish. A theme that there is not is refused. -/
def wish (turn : Turn α σ) (wishes : List (Params α)) : Reporting α (Turn α σ) := do
  let collected := wishes.foldl Params.merge turn.session.wishes
  let (name, collected) := collected.takeTheme
  let (controls, collected) := collected.takeControls turn.controls
  let turn := { turn with controls, session := { turn.session with wishes := collected } }
  match name.map Theme.find with
  | none => return turn
  | some (.ok theme) => return { turn with theme := some theme }
  | some (.error error) =>
    report (.themeRefused error)
    return turn

/-! ## Changes -/

/-- Applies the controls, if they changed. -/
def applyControls (turn : Turn α σ) : Reporting α (Session α σ) := do
  let session := turn.session
  let current := session.stage.controls
  if turn.controls.agree current then return session
  let stage ← Player.configure session.stage turn.controls
  return { session with stage, stale := session.stale || turn.controls.active != current.active }

/-- Applies the theme, if it is another one. Tells whether it was. -/
def applyTheme (theme : Option (Theme α)) (session : Session α σ) :
    Reporting α (Session α σ × Bool) := do
  match theme with
  | none => return (session, false)
  | some theme =>
    if theme.name == session.stage.theme.name then return (session, false)
    report (.themeChanging theme.name)
    let stage ← Player.switchTheme session.stage theme
    return ({ session with stage }, true)

end Turn

namespace Session

/-- A new session in a terminal of some cells. -/
def start (plan : Plan α) (cols rows : Nat) (entropy : UInt64) : Reporting α (Session α σ) := do
  let stage ← Stage.opened plan.theme plan.controls plan.tuning cols (displayRows rows plan.clean)
    plan.mode plan.quantum entropy
  report (.sessionBegun plan.theme.name cols rows)
  return { cols, rows, hidden := plan.clean, stage, wishes := .none, stale := true }

/-! ## The status bar -/

/-- The text of the status bar, however long it is. -/
def status (session : Session α σ) (fps : α) : String :=
  let stage := session.stage
  let side := if stage.controls.dark then "dark" else "light"
  let state := if stage.isRunning then "" else " [paused]"
  s!" {stage.theme.name} | {side} | opacity {Text.whole stage.controls.opacity} | " ++
    s!"{Text.whole fps} fps | {stage.entityCount} entities{state} | " ++
    "[←/→] theme  [d] palette  [+/-] opacity  [space] pause  [c] color  [h] hide  [q] quit "

/-- The status bar cut or padded to the width of the terminal. -/
def statusBar (session : Session α σ) (fps : α) : List Char :=
  let shown := (session.status fps).toList.take session.cols
  shown ++ List.replicate (session.cols - shown.length) ' '

/-- The marks of the status bar in the last row, unless it is hidden. -/
def statusMarks (session : Session α σ) (fps : α) : List Mark :=
  if session.hidden then []
  else [.row session.rows, .inverse] ++ Mark.glyphs (session.statusBar fps) ++ [.plain]

/-! ## Turns -/

/-- What a turn gives. -/
structure Outcome (α σ : Type) where
  session : Session α σ
  /-- What is written to the terminal. -/
  marks : List Mark
  /-- Whether a frame was drawn. -/
  drew : Bool
  /-- Whether the theme changed. -/
  switched : Bool
  /-- Whether the session ends. -/
  quit : Bool

/-- The marks that empty the terminal. -/
def clearing : List Mark := [.plain, .wipe, .home]

/-- Draws after all changes were applied. -/
def draw (session : Session α σ) (seconds fps : α) (switched : Bool) :
    Reporting α (Outcome α σ) := do
  let cleared := if session.stale then clearing else []
  let (stage, drew) ← session.stage.deliver seconds
  let session := { session with stage, stale := false }
  let frame :=
    if drew then .home :: (stage.surface.map Canvas.marks).getD [] else []
  return { session, marks := cleared ++ frame ++ session.statusMarks fps, drew, switched, quit := false }

/-- One turn of a session. -/
def turn (session : Session α σ) (around : Surroundings α) : Reporting α (Outcome α σ) := do
  let start : Turn α σ :=
    { session, controls := session.stage.controls, theme := none, quit := false }
  let turn ← start.takeAll around.inputs
  if turn.quit then
    return { session := turn.session, marks := [], drew := false, switched := false, quit := true }
  let turn ← turn.wish around.wishes
  let turn := if around.cycleDue then turn.cycle 1 else turn
  let session ← turn.applyControls
  let (session, switched) ← Turn.applyTheme turn.theme session
  session.draw around.seconds around.fps switched

end Session

end Ambience
