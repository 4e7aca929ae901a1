import Ambience.CommandLine.Reader
import Ambience.Log
import Ambience.Plan

/-!
# Launching

What the program does before a session begins: answering questions from the command line, writing a
new settings file, opening the log and finding the theme. The first step says what is to be done
with files; the next ones say what follows from how that went.
-/

namespace Ambience

/-- How the program ends. -/
structure Report where
  code : Nat
  output : String
  errors : String
  deriving DecidableEq, Repr

namespace Report

/-- The end of a run that only printed something. -/
def printed (output : String) : Report := ⟨0, output, ""⟩

/-- The end of a run that failed for a reason given in words. -/
def failed (reason : String) : Report := ⟨1, "", s!"Error: {reason}\n"⟩

end Report

/-- Why the system refused a file. -/
structure FileFailure where
  /-- The system's number for the reason. -/
  code : Nat
  /-- The kind of the reason. -/
  kind : String
  message : String
  deriving DecidableEq, Repr

namespace FileFailure

/-- There is no such file or folder. -/
def notFound : FileFailure := ⟨2, "NotFound", "No such file or directory"⟩

/-- There is a folder where a file was meant. -/
def isFolder : FileFailure := ⟨21, "IsADirectory", "Is a directory"⟩

/-- The reason in words. -/
def text (failure : FileFailure) : String :=
  "Os \x7b code: " ++ toString failure.code ++ ", kind: " ++ failure.kind ++ ", message: \"" ++
    failure.message ++ "\" \x7d"

end FileFailure

namespace Launch

variable {α : Type} [Scalar α]

/-! ## Places -/

/-- A path inside a folder. -/
def inside (folder name : String) : String :=
  if folder.endsWith "/" then folder ++ name else folder ++ "/" ++ name

/-- The folder of settings: one that is named, if its path starts at the root, or else one in the
home folder. -/
def configFolder (named home : Option String) : Option String :=
  match named.filter fun path => path.startsWith "/" with
  | some path => some path
  | none => (home.filter fun path => !path.isEmpty).map fun path => inside path ".config"

/-- The path of the settings file. -/
def configPath (named home : Option String) : Option String :=
  (configFolder named home).map fun folder => inside (inside folder "backdrop") "config.toml"

/-- A path as it is shown in reasons. -/
def quoted (path : String) : String :=
  let shown (c : Char) : List Char :=
    match c with
    | '"' => ['\\', '"']
    | '\\' => ['\\', '\\']
    | '\n' => ['\\', 'n']
    | '\r' => ['\\', 'r']
    | '\t' => ['\\', 't']
    | c => [c]
  String.ofList ('"' :: path.toList.flatMap shown ++ ['"'])

/-! ## Answers -/

/-- The themes and colour modes there are. -/
def listing : String :=
  let themes := (Theme.all : List (Theme α)).map fun theme =>
    s!"  {Text.padRight 12 theme.name} {theme.description}\n"
  let modes := ", ".intercalate (ColorMode.all.map ColorMode.name)
  "Available themes:\n" ++ String.join themes ++ s!"\nColor modes: {modes}\n"

/-- Where the settings file is, and whether it is there. -/
def configState (path : Option String) (present : Bool) : String :=
  match path with
  | none => "no config directory on this platform\n"
  | some path =>
    let state := if present then "exists" else "not found"
    s!"{path} ({state})\n"

/-- The end of a run that found no place for a settings file. -/
def noConfigFolder : Report := .failed "Custom \x7b kind: Other, error: NoConfigDir \x7d"

/-- The end of a run that could not write a settings file, for a reason given in words. -/
def configRefused (path reason : String) : Report :=
  .failed <| "Custom \x7b kind: Other, error: Io \x7b path: " ++ quoted path ++ ", source: " ++
    reason ++ " \x7d \x7d"

/-- The end of a run that found a settings file where it meant to write one. -/
def configPresent (path : String) : Report :=
  configRefused path "Custom \x7b kind: AlreadyExists, error: \"config already exists\" \x7d"

/-- The end of a run that wrote a settings file. -/
def configWritten (path : String) : Report := .printed s!"Wrote {path}\n"

/-- The end of a run that was asked for a theme that there is not. -/
def themeUnknown (error : ThemeError) : Report :=
  let names := ", ".intercalate (Theme.names (α := α))
  ⟨2, "", s!"{error.message}\navailable: {names}\n"⟩

/-! ## Steps -/

/-- What is known before a session begins. -/
structure Preparation (α : Type) where
  /-- The file that the log goes to. -/
  logFile : Option String
  threshold : LogThreshold
  /-- What went wrong with the settings file. -/
  complaint : Option LogLine
  /-- The plan, if the theme exists. -/
  plan : Except ThemeError (Plan α)
  paramsFile : Option String
  paramsStdin : Bool

/-- What the program does first. -/
inductive First (α : Type) where
  /-- It ends. -/
  | finish (report : Report)
  /-- It writes a new settings file. -/
  | writeConfig (path : String)
  /-- It opens the log and plays. -/
  | play (preparation : Preparation α)

/-- A warning in the log. -/
def warning (message : String) : LogLine := ⟨.warn, "backdrop", message⟩

/-- The complaint about a settings file. -/
def complaint (path : String) : ConfigError → LogLine
  | .unreadable => warning s!"cannot read {path}; using defaults"
  | .invalid => warning s!"invalid config {path}; using defaults"

/-- What is known about a session from the command line and the settings file. Settings that cannot
be read count as none. -/
def prepare (line : CommandLine α) (path : Option String) (source : Config.Source) :
    Preparation α :=
  let (config, complaint) : Config α × Option LogLine :=
    match Config.ofSource source with
    | .ok config => (config, none)
    | .error error => (.empty, some (Launch.complaint (path.getD "") error))
  { logFile := line.logFile <|> config.logFile
    threshold := LogThreshold.parse (line.logLevel <|> config.logLevel)
    complaint
    plan := Plan.resolve line config
    paramsFile := line.paramsFile
    paramsStdin := line.paramsStdin }

/-- The first step, given the path of the settings file, whether anything is there, and what. Of
several questions the first in the order of themes, path and new file is answered. -/
def first (line : CommandLine α) (path : Option String) (present : Bool) (source : Config.Source) :
    First α :=
  if line.list then .finish (.printed (listing (α := α)))
  else if line.showConfig then .finish (.printed (configState path present))
  else if line.initConfig then
    match path with
    | none => .finish noConfigFolder
    | some path => if present then .finish (configPresent path) else .writeConfig path
  else .play (prepare line path source)

/-- The plan to play, once the log was opened or refused. -/
def opened (preparation : Preparation α) (refused : Option FileFailure) : Except Report (Plan α) :=
  match refused, preparation.plan with
  | some failure, _ => .error (.failed failure.text)
  | none, .ok plan => .ok plan
  | none, .error error => .error (themeUnknown (α := α) error)

/-- The first lines of the log of a session. -/
def openingLines (preparation : Preparation α) : List LogLine :=
  match preparation.logFile with
  | none => []
  | some path => LogLine.opening path preparation.threshold :: preparation.complaint.toList

end Launch

end Ambience
