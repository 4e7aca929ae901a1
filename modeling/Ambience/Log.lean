import Ambience.Event
import Ambience.Text.Blank
import Ambience.Text.Whole

/-!
# The log

What the program reports is written to a file as lines. A line has a level, the part of the program
that it comes from and a message; only lines at or above a threshold are written.
-/

namespace Ambience

/-- How serious a line is. -/
inductive LogLevel where
  | error | warn | info | debug | trace
  deriving DecidableEq, Repr

namespace LogLevel

/-- The name of a level. -/
def name : LogLevel → String
  | error => "ERROR"
  | warn => "WARN"
  | info => "INFO"
  | debug => "DEBUG"
  | trace => "TRACE"

/-- The place of a level, the most serious first. -/
def rank : LogLevel → Nat
  | error => 1
  | warn => 2
  | info => 3
  | debug => 4
  | trace => 5

/-- All levels, the most serious first. -/
def all : List LogLevel := [error, warn, info, debug, trace]

end LogLevel

/-- The least serious level that is written, if any is. -/
abbrev LogThreshold := Option LogLevel

namespace LogThreshold

/-- The name of a threshold. -/
def name : LogThreshold → String
  | none => "OFF"
  | some level => level.name

/-- The threshold where none is given. -/
def usual : LogThreshold := some .info

/-- The threshold of a name, whose case and surrounding blanks do not count. Without a name, or
with one of no threshold, it is the usual one. -/
def parse (wanted : Option String) : LogThreshold :=
  match wanted with
  | none => usual
  | some wanted =>
    ((none :: LogLevel.all.map some).find? fun threshold =>
      Text.sameLetters (name threshold) (Text.trim wanted)).getD usual

/-- Whether lines of a level are written. -/
def admits (threshold : LogThreshold) (level : LogLevel) : Bool :=
  match threshold with
  | none => false
  | some least => level.rank ≤ least.rank

end LogThreshold

/-- A line of the log. -/
structure LogLine where
  level : LogLevel
  /-- The part of the program that reports. -/
  source : String
  message : String
  deriving DecidableEq, Repr

namespace LogLine

/-- The text of a line, without its time. -/
def text (line : LogLine) : String :=
  s!"{Text.padRight 5 line.level.name} {line.source}: {line.message}"

/-- The texts of those lines that a threshold admits. -/
def texts (threshold : LogThreshold) (lines : List LogLine) : List String :=
  (lines.filter fun line => threshold.admits line.level).map text

/-- A time in seconds with three places, in nine columns. -/
def timeColumn (milliseconds : Nat) : String :=
  let places := toString (milliseconds % 1000)
  let digits := toString (milliseconds / 1000) ++ "." ++
    String.ofList (List.replicate (3 - places.length) '0') ++ places
  String.ofList (List.replicate (9 - digits.length) ' ') ++ digits

/-- The text of a line with the time of its writing. -/
def timedText (milliseconds : Nat) (line : LogLine) : String :=
  timeColumn milliseconds ++ " " ++ line.text

/-- The first line of a log, about its path and threshold. -/
def opening (path : String) (threshold : LogThreshold) : LogLine :=
  ⟨.info, "backdrop::logging", s!"logging to {path} at {threshold.name}"⟩

end LogLine

/-- The name of a kind in messages. -/
def Kind.title : Kind → String
  | .flake => "Flake"
  | .petal => "Petal"
  | .firefly => "Firefly"
  | .star => "Star"
  | .koi => "Koi"
  | .ripple => "Ripple"
  | .stone => "Stone"
  | .rake => "Rake"
  | .glow => "Glow"
  | .ember => "Ember"
  | .stalk => "Stalk"
  | .leaf => "Leaf"
  | .ridge => "Ridge"
  | .cactus => "Cactus"
  | .grain => "Grain"

namespace Event

variable {α : Type} [Scalar α]

/-- The line about something that an engine reports. -/
def engineLine (level : LogLevel) (message : String) : LogLine :=
  ⟨level, "backdrop::engine", message⟩

/-- The line about something that a player reports. -/
def playerLine (theme message : String) : LogLine :=
  ⟨.debug, "backdrop::engine::driver", s!"{theme}: {message}"⟩

/-- The line about something that a session reports. -/
def sessionLine (level : LogLevel) (message : String) : LogLine := ⟨level, "backdrop", message⟩

/-- The line about an event. -/
def line : Event α → LogLine
  | sceneBuilt theme width height bodies =>
    engineLine .debug
      s!"generated {theme} scene {Text.whole width}x{Text.whole height} with {bodies} entities"
  | placeMissing kind slot =>
    engineLine .trace s!"{kind.title} slot {slot} skipped: no clear position"
  | overCap kind dropped =>
    engineLine .trace s!"{kind.title} layer over cap, dropped {dropped} oldest"
  | switchedOff theme => playerLine theme "activation skipped, instance disabled"
  | surfaceMissing theme => playerLine theme "activation skipped, no drawing surface"
  | started theme width height =>
    playerLine theme s!"running at {Text.whole width}x{Text.whole height}"
  | stopped theme => playerLine theme "disposed"
  | sessionBegun theme cols rows => sessionLine .info s!"started {theme} at {cols}x{rows} cells"
  | themeChanging theme => sessionLine .info s!"switching to {theme}"
  | themeRefused error => sessionLine .warn error.message

end Event

end Ambience
