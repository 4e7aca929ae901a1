import Ambience.Host
import Ambience.Picture
import Ambience.Surface

/-!
# Players

A player shows one theme on a surface in a host. It is idle, runs an engine, or has been stopped.
It keeps its engine, the frame that it waits for and its subscription to resizes apart from its
phase: each operation fills and empties these places on its own.
-/

namespace Ambience

/-- What a player is doing. -/
inductive Phase where
  /-- It has not run since its theme was chosen. -/
  | idle
  /-- It runs an engine, waits for a frame and listens for resizes. -/
  | running
  /-- It was stopped. -/
  | disposed
  deriving DecidableEq, Repr

/-- One animation in its surroundings. -/
structure Player (α σ S H : Type) where
  theme : Theme α
  tuning : Tuning α
  controls : Controls α
  /-- What is drawn on, if there is anything. -/
  surface : Option S
  host : H
  phase : Phase
  /-- The engine that runs. -/
  engine? : Option (Engine α σ)
  /-- The frame that the player waits for. -/
  frame? : Option FrameHandle
  /-- The subscription that the player listens to. -/
  listener? : Option ListenerHandle

namespace Player

variable {α σ S H : Type} [Scalar α] [Words σ] [Units σ α] [Surface S α] [Host H] [Viewport H α]

/-- Whether the player runs. -/
def isRunning (player : Player α σ S H) : Bool := player.phase == .running

/-- How many bodies are alive. -/
def entityCount (player : Player α σ S H) : Nat :=
  (player.engine?.map fun engine => engine.scene.entityCount).getD 0

/-! ## Starting and stopping -/

/-- The seed of the next start: that of the tuning, or else one from the host. -/
def nextSeed (player : Player α σ S H) : UInt64 × H :=
  match player.tuning.seed with
  | some seed => (seed, player.host)
  | none => Host.freshSeed player.host

/-- The player with an engine that was just built: it listens for resizes and waits for a frame. -/
def attach (player : Player α σ S H) (engine : Engine α σ) (host : H) : Player α σ S H :=
  let (listener, host) := Host.listenResize host
  let (frame, host) := Host.requestFrame host
  { player with
    host, phase := .running, engine? := some engine, frame? := some frame
    listener? := some listener }

/-- The player with its request and its subscription given back and its scene forgotten. -/
def detach (player : Player α σ S H) : Player α σ S H :=
  let host := player.frame?.elim player.host fun frame => Host.cancelFrame frame player.host
  let host := player.listener?.elim host fun listener => Host.unlistenResize listener host
  { player with host, phase := .disposed, engine? := none, frame? := none, listener? := none }

/-- Starts the player with a new scene for the view of its host. -/
def start (player : Player α σ S H) : Reporting α (Player α σ S H) := do
  let (width, height) : α × α := Viewport.viewport player.host
  let (seed, host) := nextSeed player
  let (engine, events) ← Engine.start player.theme player.tuning.scale seed width height
  modify (· ++ events)
  report (.started player.theme.name width height)
  return player.attach engine host

/-- Starts the player unless it already runs, is switched off or has nothing to draw on. -/
def activate (player : Player α σ S H) : Reporting α (Player α σ S H) := do
  if player.isRunning then return player
  if !player.controls.active then
    report (.switchedOff player.theme.name)
    return player
  if player.surface.isNone then
    report (.surfaceMissing player.theme.name)
    return player
  start player

/-- A player that has not been started. -/
def idle (theme : Theme α) (surface : Option S) (controls : Controls α) (tuning : Tuning α)
    (host : H) : Player α σ S H where
  theme
  tuning
  controls
  surface
  host
  phase := .idle
  engine? := none
  frame? := none
  listener? := none

/-- A new player, which starts if it can. -/
def mount (theme : Theme α) (surface : Option S) (controls : Controls α) (tuning : Tuning α)
    (host : H) : Reporting α (Player α σ S H) :=
  activate (idle theme surface controls tuning host)

/-- Stops a running player. -/
def deactivate (player : Player α σ S H) : Reporting α (Player α σ S H) := do
  if !player.isRunning then return player
  report (.stopped player.theme.name)
  return player.detach

/-! ## What the host tells -/

/-- Delivers a frame after the given seconds: if it is the one the player waits for, the scene
advances and is drawn, and the next frame is requested. Tells whether the player drew. -/
def onFrame (player : Player α σ S H) (handle : FrameHandle) (seconds : α) :
    Reporting α (Player α σ S H × Bool) := do
  if !player.isRunning || player.frame? != some handle then return (player, false)
  let player := { player with frame? := none }
  match player.engine?, player.surface with
  | some engine, some surface =>
    let (engine, events) ← engine.update seconds
    modify (· ++ events)
    let (width, height) : α × α := Surface.size surface
    let drawn := Surface.drawAll surface (engine.picture player.controls width height)
    let (frame, host) := Host.requestFrame player.host
    return ({ player with
      surface := some drawn, host, engine? := some engine, frame? := some frame }, true)
  | _, _ => return (player, false)

/-- Tells a player that the view was resized: while it runs and listens, it builds a new scene. -/
def onResize (player : Player α σ S H) : Reporting α (Player α σ S H) := do
  if !player.isRunning || player.listener?.isNone then return player
  let (width, height) : α × α := Viewport.viewport player.host
  match player.engine? with
  | some engine =>
    let (engine, events) ← engine.rebuild width height
    modify (· ++ events)
    return { player with engine? := some engine }
  | none => return player

/-! ## What the viewer asks -/

/-- Changes the theme, with a full restart. -/
def switchTheme (player : Player α σ S H) (theme : Theme α) : Reporting α (Player α σ S H) := do
  let player ← deactivate player
  activate { player with theme, phase := .idle }

/-- Changes the controls, which may start or stop the player. -/
def configure (player : Player α σ S H) (controls : Controls α) :
    Reporting α (Player α σ S H) :=
  let player := { player with controls }
  if player.isRunning && !controls.active then deactivate player
  else if !player.isRunning && controls.active then activate player
  else return player

end Player

end Ambience
