import Ambience.Launch
import Ambience.Random.Stream
import Ambience.Scalar.Double
import Ambience.Session

/-!
# The program

Reads and writes files, the terminal and the clock around launches and sessions. The terminal is
expected to send characters as they are typed; its size is taken from the environment.
-/

namespace Ambience.Program

/-! ## Files -/

/-- What the settings file holds. -/
def readConfig (path : Option String) : IO Config.Source := do
  let some path := path | return .missing
  try
    return .bytes (← IO.FS.readBinFile path)
  catch
    | .noFileOrDirectory .. => return .missing
    | _ => return .unreadable

/-- Whether there is anything to read at a path. -/
def isPresent (path : Option String) : IO Bool := do
  let some path := path | return false
  try
    discard (IO.FS.Handle.mk path .read)
    return true
  catch
    | .noFileOrDirectory .. => return false
    | _ => return true

/-- The reason why the system refused a file. -/
def failureOf : IO.Error → FileFailure
  | .noFileOrDirectory .. => .notFound
  | .inappropriateType .. => .isFolder
  | .permissionDenied .. => ⟨13, "PermissionDenied", "Permission denied"⟩
  | error => ⟨5, "Uncategorized", toString error⟩

/-- Writes a new settings file, with the folders around it. -/
def writeConfig (path : String) : IO Report := do
  try
    let folders := (path.splitOn "/").dropLast
    IO.FS.createDirAll ("/".intercalate folders)
    IO.FS.writeFile path Config.template
    return Launch.configWritten path
  catch error =>
    return Launch.configRefused path (failureOf error).text

/-! ## The log -/

/-- An open log. -/
structure Log where
  handle : Option IO.FS.Handle
  threshold : LogThreshold
  /-- The time at which the log was opened, in milliseconds. -/
  opened : Nat

/-- Writes the admitted ones of some lines. -/
def Log.write (log : Log) (lines : List LogLine) : IO Unit := do
  let some handle := log.handle | return
  let now ← IO.monoMsNow
  for line in lines do
    if log.threshold.admits line.level then
      handle.putStrLn (line.timedText (now - log.opened))

/-- Opens the log, if one is asked for. -/
def openLog (preparation : Launch.Preparation Float) : IO (Except FileFailure Log) := do
  let opened ← IO.monoMsNow
  match preparation.logFile with
  | none => return .ok ⟨none, preparation.threshold, opened⟩
  | some path =>
    try
      let handle ← IO.FS.Handle.mk path .append
      return .ok ⟨some handle, preparation.threshold, opened⟩
    catch error => return .error (failureOf error)

/-! ## What comes in -/

/-- Bytes that came in and were not taken yet. -/
abbrev Inbox := IO.Ref ByteArray

/-- Collects what comes in on a stream until it ends. -/
partial def collect (stream : IO.FS.Stream) (inbox : Inbox) : IO Unit := do
  let bytes ← stream.read 1
  if bytes.isEmpty then return
  inbox.modify (· ++ bytes)
  collect stream inbox

/-- Takes the whole characters that came in. -/
def takeText (inbox : Inbox) : IO String := do
  let bytes ← inbox.get
  match String.fromUTF8? bytes with
  | some text =>
    inbox.modify fun later => later.extract bytes.size later.size
    return text
  | none => return ""

/-- Takes the whole lines that came in. -/
def takeLines (inbox : Inbox) : IO String := do
  let bytes ← inbox.get
  let size := (bytes.toList.reverse.dropWhile (· != 10)).length
  inbox.modify fun later => later.extract size later.size
  return (String.fromUTF8? (bytes.extract 0 size)).getD ""

/-! ## The loop -/

/-- The clock readings of a session, in milliseconds. -/
structure Clock where
  lastTurn : Nat
  lastSwitch : Nat
  lastCount : Nat
  /-- The turns since the last count. -/
  turns : Nat
  fps : Float

/-- What a session is played with besides its plan. -/
structure Setup where
  plan : Plan Float
  log : Log
  inbox : Inbox
  preparation : Launch.Preparation Float

/-- Goes through turns until the session ends. -/
partial def loop (setup : Setup) (session : Session Float Random.Stream) (clock : Clock) :
    IO (Option Fault) := do
  let now ← IO.monoMsNow
  let stdout ← IO.getStdout
  let inputs ← if setup.preparation.paramsStdin then pure [] else
    do pure ((Key.ofText (← takeText setup.inbox)).map Input.key)
  let wishes ← if setup.preparation.paramsStdin then
    do pure (Params.parseLines (← takeLines setup.inbox)) else pure []
  let cycleDue := 0 < setup.plan.cycle && setup.plan.cycle * 1000 ≤ now - clock.lastSwitch
  let around : Surroundings Float :=
    { inputs, wishes, cycleDue, seconds := (now - clock.lastTurn).toFloat / 1000.0, fps := clock.fps }
  match (session.turn around).run [] with
  | .error fault => return some fault
  | .ok (outcome, events) =>
    setup.log.write (events.map Event.line)
    if outcome.quit then return none
    stdout.putStr (Mark.textOf outcome.marks)
    stdout.flush
    let turns := clock.turns + 1
    let elapsed := now - clock.lastCount
    let clock :=
      if 1000 ≤ elapsed then
        { clock with lastCount := now, turns := 0, fps := turns.toFloat * 1000.0 / elapsed.toFloat }
      else { clock with turns }
    let clock := { clock with
      lastTurn := now, lastSwitch := if outcome.switched then now else clock.lastSwitch }
    let spent := (← IO.monoMsNow) - now
    IO.sleep (UInt32.ofNat (1000 / setup.plan.fps - spent))
    loop setup outcome.session clock

/-- A number from the environment. -/
def sizeOf (name : String) (usual : Nat) : IO Nat := do
  return ((← IO.getEnv name).bind String.toNat?).getD usual

/-- Plays a plan in the terminal. -/
def play (setup : Setup) : IO (Option Fault) := do
  let cols ← sizeOf "COLUMNS" 80
  let rows ← sizeOf "LINES" 24
  let entropy := UInt64.ofNat (← IO.rand 0 (UInt64.size - 1))
  match (Session.start setup.plan cols rows entropy).run [] with
  | .error fault => return some fault
  | .ok (session, events) =>
    setup.log.write (events.map Event.line)
    if let some path := setup.preparation.paramsFile then
      let text ← try IO.FS.readFile path catch _ => pure ""
      setup.inbox.set ByteArray.empty
      let session := { session with wishes := (Params.parseLast text).getD .none }
      begin setup session
    else begin setup session
where
  /-- Starts the clock and the loop. -/
  begin (setup : Setup) (session : Session Float Random.Stream) : IO (Option Fault) := do
    let now ← IO.monoMsNow
    discard (IO.asTask (collect (← IO.getStdin) setup.inbox))
    loop setup session ⟨now, now, now, 0, 0.0⟩

/-- Plays what was prepared, and tells how that ended. -/
def perform (preparation : Launch.Preparation Float) : IO Report := do
  let log ← openLog preparation
  let refused := match log with
    | .error failure => some failure
    | .ok _ => none
  match log, Launch.opened preparation refused with
  | .ok log, .ok plan =>
    log.write (Launch.openingLines preparation)
    let stdout ← IO.getStdout
    stdout.putStr "\x1b[?1049h\x1b[?25l"
    let fault ← play { plan, log, inbox := ← IO.mkRef ByteArray.empty, preparation }
    stdout.putStr "\x1b[?25h\x1b[?1049l"
    stdout.flush
    match fault with
    | none => return .printed ""
    | some _ => return .failed "a random value was asked of a range without values"
  | _, .error report => return report
  | .error failure, _ => return .failed failure.text

/-! ## The command line -/

/-- What the program prints about itself. -/
def usage : String :=
  "Ambient particle backgrounds for the terminal\n\nUsage: backdrop [OPTIONS] [THEME]\n\nOptions:\n" ++
    String.join ((Setting.all.map fun setting => "  --" ++ setting.name ++ " <VALUE>\n") ++
      Switch.all.map fun switch => "  --" ++ switch.name ++ "\n")

/-- Carries out a command line. -/
def run (arguments : List String) : IO Report := do
  match (CommandLine.parse arguments : Except UsageError (CommandLine Float)) with
  | .error .help => return .printed usage
  | .error _ => return ⟨2, "", "error: the command line was not understood\n\n" ++ usage⟩
  | .ok line =>
    let path := Launch.configPath (← IO.getEnv "XDG_CONFIG_HOME") (← IO.getEnv "HOME")
    match Launch.first line path (← isPresent path) (← readConfig path) with
    | .finish report => return report
    | .writeConfig path => writeConfig path
    | .play preparation => perform preparation

end Ambience.Program

/-- Runs the program. -/
def main (arguments : List String) : IO UInt32 := do
  let report ← Ambience.Program.run arguments
  (← IO.getStdout).putStr report.output
  (← IO.getStderr).putStr report.errors
  return UInt32.ofNat report.code
