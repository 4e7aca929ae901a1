import Ambience.Color.Mode
import Ambience.Toml.Reader

/-!
# The settings file

Settings are read from a TOML text. Every setting may be absent, names that are not those of
settings are ignored, and a value of the wrong kind or out of range makes the whole text invalid.
-/

namespace Ambience

/-- The settings of a file. -/
structure Config (α : Type) where
  theme : Option String
  light : Option Bool
  opacity : Option α
  color : Option ColorMode
  fps : Option UInt32
  scale : Option α
  clean : Option Bool
  cycle : Option UInt32
  colorQuant : Option UInt8
  seed : Option UInt64
  logFile : Option String
  logLevel : Option String

/-- Why settings could not be read. -/
inductive ConfigError where
  /-- The file is there but is no readable text. -/
  | unreadable
  /-- The text does not stand for settings. -/
  | invalid
  deriving DecidableEq, Repr

namespace Toml

variable {α : Type} [Scalar α]

/-! ## Values in range -/

/-- The value of a number, if it is in range; infinities are in range when they are named. -/
def Real.value? : Real → Option α
  | .finite number =>
    let value : α := number.value
    if Scalar.isFinite value then some value else none
  | .infinity negative => some (if negative then -(1.0 / 0.0) else 1.0 / 0.0)
  | .nan => some (0.0 / 0.0)

/-- Whether a whole number fits the widest signed or unsigned word, of 128 bits. -/
def isWide (n : Int) : Bool :=
  -0x80000000000000000000000000000000 ≤ n && n ≤ 0xffffffffffffffffffffffffffffffff

mutual

/-- Whether all numbers in a value are in range. -/
def Value.inRange (α : Type) [Scalar α] : Value → Bool
  | .text _ => true
  | .integer n => isWide n
  | .real number => (number.value? : Option α).isSome
  | .flag _ => true
  | .moment => true
  | .list items => itemsInRange α items
  | .table _ members => membersInRange α members
  | .tables items => tablesInRange α items

/-- Whether all numbers in the items of a list are in range. -/
def itemsInRange (α : Type) [Scalar α] : List Value → Bool
  | [] => true
  | item :: later => item.inRange α && itemsInRange α later

/-- Whether all numbers in the members of a table are in range. -/
def membersInRange (α : Type) [Scalar α] : List (String × Value) → Bool
  | [] => true
  | (_, value) :: later => value.inRange α && membersInRange α later

/-- Whether all numbers in repeated tables are in range. -/
def tablesInRange (α : Type) [Scalar α] : List (List (String × Value)) → Bool
  | [] => true
  | members :: later => membersInRange α members && tablesInRange α later

end

/-! ## Values of settings -/

/-- The text of a setting. -/
def Value.text? : Value → Option String
  | .text content => some content
  | _ => none

/-- The truth value of a setting. -/
def Value.flag? : Value → Option Bool
  | .flag value => some value
  | _ => none

/-- The number of a setting; whole numbers of 64 bits are numbers too. -/
def Value.number? : Value → Option α
  | .real number => number.value?
  | .integer n => if Int64.minValue.toInt ≤ n ∧ n < UInt64.size then some (Scalar.ofInt n) else none
  | _ => none

/-- The count of a setting, below a limit. -/
def Value.count? (limit : Nat) : Value → Option Nat
  | .integer n => if 0 ≤ n ∧ n < limit then some n.toNat else none
  | _ => none

/-- Whether a value says nothing more about a choice. -/
def Value.isEmpty : Value → Bool
  | .list items => items.isEmpty
  | .table _ members => members.isEmpty
  | .tables items => items.isEmpty
  | _ => false

/-- The colour mode of a setting: its name, or a table with this name and nothing in it. -/
def Value.mode? : Value → Option ColorMode
  | .text name => ColorMode.ofName? name
  | .table _ [(name, value)] => if value.isEmpty then ColorMode.ofName? name else none
  | _ => none

end Toml

namespace Config

variable {α : Type} [Scalar α]

/-- No settings. -/
def empty : Config α :=
  ⟨none, none, none, none, none, none, none, none, none, none, none, none⟩

/-- A setting, if its value is of its kind. -/
def setting {β : Type} (members : Toml.Members) (name : String) (read : Toml.Value → Option β) :
    Option (Option β) :=
  match members.find? name with
  | none => some none
  | some value => (read value).map some

/-- The settings of a table. -/
def ofMembers? (members : Toml.Members) : Option (Config α) := do
  if !Toml.membersInRange α members then none
  return {
    theme := ← setting members "theme" Toml.Value.text?
    light := ← setting members "light" Toml.Value.flag?
    opacity := ← setting members "opacity" Toml.Value.number?
    color := ← setting members "color" Toml.Value.mode?
    fps := (← setting members "fps" (Toml.Value.count? UInt32.size)).map UInt32.ofNat
    scale := ← setting members "scale" Toml.Value.number?
    clean := ← setting members "clean" Toml.Value.flag?
    cycle := (← setting members "cycle" (Toml.Value.count? UInt32.size)).map UInt32.ofNat
    colorQuant := (← setting members "color_quant" (Toml.Value.count? UInt8.size)).map UInt8.ofNat
    seed := (← setting members "seed" (Toml.Value.count? UInt64.size)).map UInt64.ofNat
    logFile := ← setting members "log_file" Toml.Value.text?
    logLevel := ← setting members "log_level" Toml.Value.text? }

/-- The settings of a text. -/
def ofText (text : String) : Except ConfigError (Config α) :=
  match (Toml.Members.ofText? text.toList).bind ofMembers? with
  | some config => .ok config
  | none => .error .invalid

/-- What was found at the place of the file. -/
inductive Source where
  /-- There is no file. -/
  | missing
  /-- There is something that cannot be read as a file. -/
  | unreadable
  | bytes (content : ByteArray)

/-- The settings of a file. One that is missing has none. -/
def ofSource : Source → Except ConfigError (Config α)
  | .missing => .ok empty
  | .unreadable => .error .unreadable
  | .bytes content =>
    match String.fromUTF8? content with
    | some text => ofText text
    | none => .error .unreadable

/-! ## The template -/

/-- The text of a new settings file, in which every setting is commented out. -/
def template : String :=
  "# backdrop configuration\n" ++
  "# Use --show-config to see the active config file path.\n" ++
  "# CLI flags override these settings.\n" ++
  "\n" ++
  "# Default theme (use --list to see all)\n" ++
  "# theme = \"snowfall\"\n" ++
  "\n" ++
  "# Use the light palette instead of the dark one\n" ++
  "# light = false\n" ++
  "\n" ++
  "# Global opacity, 0-100 (50 = as designed, higher brightens, lower dims)\n" ++
  "# opacity = 50\n" ++
  "\n" ++
  "# Color mode: mono, ansi16, ansi256, true-color\n" ++
  "# color = \"true-color\"\n" ++
  "\n" ++
  "# Target FPS (1-120)\n" ++
  "# fps = 30\n" ++
  "\n" ++
  "# Entity density scale factor (0.5-2.0)\n" ++
  "# scale = 1.0\n" ++
  "\n" ++
  "# Hide status bar\n" ++
  "# clean = false\n" ++
  "\n" ++
  "# Auto-cycle interval in seconds (0 = disabled)\n" ++
  "# cycle = 0\n" ++
  "\n" ++
  "# Color quantization step (0 = off, 4/8/16 = coarser colors, less output)\n" ++
  "# Useful for slow terminals or tmux\n" ++
  "# color_quant = 0\n" ++
  "\n" ++
  "# Fixed random seed for reproducible scenes\n" ++
  "# seed = 42\n" ++
  "\n" ++
  "# Log to a file (the terminal is busy drawing)\n" ++
  "# log_file = \"/tmp/backdrop.log\"\n" ++
  "# log_level = \"info\"\n"

end Config

end Ambience
