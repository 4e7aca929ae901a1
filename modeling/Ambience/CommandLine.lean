import Ambience.Color.Mode
import Ambience.Text.Numeral

/-!
# The command line

The switches and options that the program takes, what they are called, and which values they
accept.
-/

namespace Ambience

/-- Why a command line was refused or not carried out. -/
inductive UsageError where
  /-- There is no such switch or option, or one theme too many. -/
  | unknown
  /-- A value is missing, empty where it may not be, or not one of the choices. -/
  | badValue
  /-- A value is not a number of the kind that is asked for. -/
  | notANumber
  /-- Something was given twice, or two things exclude each other. -/
  | conflict
  /-- A value was attached to a switch. -/
  | surplusValue
  /-- Help was asked for. -/
  | help
  deriving DecidableEq, Repr

/-- What is on or off. -/
inductive Switch where
  | light | list | clean | paramsStdin | showConfig | initConfig | help
  deriving DecidableEq, Repr

/-- What takes a value. -/
inductive Setting where
  | opacity | color | fps | scale | seed | cycle | colorQuant | paramsFile | logFile | logLevel
  deriving DecidableEq, Repr

namespace Switch

/-- The long name of a switch. -/
def name : Switch → String
  | light => "light"
  | list => "list"
  | clean => "clean"
  | paramsStdin => "params-stdin"
  | showConfig => "show-config"
  | initConfig => "init-config"
  | help => "help"

/-- The letter of a switch that has one. -/
def letter? : Switch → Option Char
  | list => some 'l'
  | help => some 'h'
  | _ => none

/-- All switches. -/
def all : List Switch := [light, list, clean, paramsStdin, showConfig, initConfig, help]

end Switch

namespace Setting

/-- The long name of an option. -/
def name : Setting → String
  | opacity => "opacity"
  | color => "color"
  | fps => "fps"
  | scale => "scale"
  | seed => "seed"
  | cycle => "cycle"
  | colorQuant => "color-quant"
  | paramsFile => "params-file"
  | logFile => "log-file"
  | logLevel => "log-level"

/-- The letter of an option that has one. -/
def letter? : Setting → Option Char
  | opacity => some 'o'
  | color => some 'c'
  | fps => some 'f'
  | scale => some 's'
  | _ => none

/-- All options. -/
def all : List Setting :=
  [opacity, color, fps, scale, seed, cycle, colorQuant, paramsFile, logFile, logLevel]

end Setting

/-- What was asked for on the command line. -/
structure CommandLine (α : Type) where
  theme : Option String
  light : Bool
  opacity : Option α
  color : Option ColorMode
  fps : Option UInt32
  scale : Option α
  seed : Option UInt64
  list : Bool
  cycle : Option UInt32
  clean : Bool
  colorQuant : Option UInt8
  paramsFile : Option String
  paramsStdin : Bool
  logFile : Option String
  logLevel : Option String
  showConfig : Bool
  initConfig : Bool

namespace CommandLine

variable {α : Type} [Scalar α]

/-- A command line on which nothing was asked for. -/
def empty : CommandLine α where
  theme := none
  light := false
  opacity := none
  color := none
  fps := none
  scale := none
  seed := none
  list := false
  cycle := none
  clean := false
  colorQuant := none
  paramsFile := none
  paramsStdin := false
  logFile := none
  logLevel := none
  showConfig := false
  initConfig := false

/-! ## Values -/

/-- A value that was understood, or the error for one that was not. -/
def understood {β : Type} (error : UsageError) : Option β → Except UsageError β
  | some value => .ok value
  | none => .error error

/-- A number with or without places. -/
def realValue (text : String) : Except UsageError α := understood .notANumber (Text.Numeral.real? text)

/-- A whole number below a limit. -/
def wholeValue (limit : Nat) (text : String) : Except UsageError Nat := do
  let n ← understood .notANumber (Text.Numeral.whole? text)
  if 0 ≤ n ∧ n < limit then return n.toNat else throw .notANumber

/-- A whole number of 64 bits, which has no minus sign even for zero. -/
def seedValue (text : String) : Except UsageError UInt64 := do
  let n ← understood .notANumber (Text.Numeral.count? text)
  if n < UInt64.size then return UInt64.ofNat n else throw .notANumber

/-- The path of a file, which is not empty. -/
def pathValue (text : String) : Except UsageError String :=
  if text.isEmpty then .error .badValue else .ok text

/-- The command line with a switch set. -/
def setSwitch (line : CommandLine α) : Switch → Except UsageError (CommandLine α)
  | .light => .ok { line with light := true }
  | .list => .ok { line with list := true }
  | .clean => .ok { line with clean := true }
  | .paramsStdin => .ok { line with paramsStdin := true }
  | .showConfig => .ok { line with showConfig := true }
  | .initConfig => .ok { line with initConfig := true }
  | .help => .error .help

/-- The command line with the value of an option. -/
def setOption (line : CommandLine α) (setting : Setting) (text : String) :
    Except UsageError (CommandLine α) := do
  match setting with
  | .opacity => return { line with opacity := some (← realValue text) }
  | .color => return { line with color := some (← understood .badValue (ColorMode.ofName? text)) }
  | .fps => return { line with fps := some (UInt32.ofNat (← wholeValue UInt32.size text)) }
  | .scale => return { line with scale := some (← realValue text) }
  | .seed => return { line with seed := some (← seedValue text) }
  | .cycle => return { line with cycle := some (UInt32.ofNat (← wholeValue UInt32.size text)) }
  | .colorQuant => return { line with colorQuant := some (UInt8.ofNat (← wholeValue UInt8.size text)) }
  | .paramsFile => return { line with paramsFile := some (← pathValue text) }
  | .logFile => return { line with logFile := some (← pathValue text) }
  | .logLevel => return { line with logLevel := some text }

end CommandLine

end Ambience
