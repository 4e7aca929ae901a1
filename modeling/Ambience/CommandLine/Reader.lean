import Ambience.CommandLine

/-!
# Reading the command line

Arguments are read from left to right. An option takes the next argument as its value unless that
looks like a switch or an option itself; values can also be attached, after an equals sign or, to a
letter, directly. What was given with an option or as the theme is checked when the next thing is
settled, so of two faults the earlier one is reported unless the later one cannot be named at all.
-/

namespace Ambience

namespace CommandLine

variable {α : Type} [Scalar α]

/-- What an argument without a settled value is for. -/
inductive Slot where
  | theme
  | setting (setting : Setting)
  deriving DecidableEq, Repr

/-- How far a command line has been read. -/
structure Reading (α : Type) where
  line : CommandLine α
  switches : List Switch
  settings : List Setting
  /-- What awaits its value or has one that was not checked yet. -/
  pending : Option (Slot × Option String)
  /-- Whether a theme was given. -/
  named : Bool
  /-- Whether everything that follows is taken as a theme. -/
  trailing : Bool

namespace Reading

/-- Nothing read yet. -/
def start : Reading α := ⟨.empty, [], [], none, false, false⟩

/-! ## Settling values -/

/-- Enters the value of an option, which may be given once. -/
def enter (reading : Reading α) (setting : Setting) (text : String) :
    Except UsageError (Reading α) := do
  if reading.settings.contains setting then throw .conflict
  let line ← reading.line.setOption setting text
  return { reading with line, settings := setting :: reading.settings }

/-- Settles what is pending. -/
def settle (reading : Reading α) : Except UsageError (Reading α) :=
  let settled := { reading with pending := none }
  match reading.pending with
  | none => .ok settled
  | some (_, none) => .error .badValue
  | some (.theme, some text) => .ok { settled with line := { settled.line with theme := some text } }
  | some (.setting setting, some text) => settled.enter setting text

/-- Sets a switch, which may be given once. -/
def turnOn (reading : Reading α) (switch : Switch) : Except UsageError (Reading α) := do
  let reading ← reading.settle
  if reading.switches.contains switch then throw .conflict
  let line ← reading.line.setSwitch switch
  return { reading with line, switches := switch :: reading.switches }

/-- Starts an option, with its value if that is attached. -/
def begin (reading : Reading α) (setting : Setting) (attached : Option String) :
    Except UsageError (Reading α) := do
  let reading ← reading.settle
  match attached with
  | some text => reading.enter setting text
  | none => return { reading with pending := some (.setting setting, none) }

/-! ## Arguments -/

/-- The name and the attached value of an argument that starts with two hyphens. -/
def splitLong (chars : List Char) : String × Option String :=
  let name := String.ofList (chars.takeWhile fun c => c != '=')
  match chars.dropWhile fun c => c != '=' with
  | [] => (name, none)
  | _ :: value => (name, some (String.ofList value))

/-- Reads an argument that starts with two hyphens, given without them. -/
def long (reading : Reading α) (chars : List Char) : Except UsageError (Reading α) :=
  let (name, attached) := splitLong chars
  match Switch.all.find? fun switch => switch.name == name with
  | some switch => if attached.isSome then .error .surplusValue else reading.turnOn switch
  | none =>
    match Setting.all.find? fun setting => setting.name == name with
    | some setting => reading.begin setting attached
    | none => .error .unknown

/-- The value that follows an option's letter, if anything does; an equals sign in front is not a
part of it. -/
def attachedValue : List Char → Option String
  | [] => none
  | '=' :: rest => some (String.ofList rest)
  | rest => some (String.ofList rest)

/-- Reads the letters of an argument that starts with one hyphen. An option ends them. -/
def letters (reading : Reading α) : List Char → Except UsageError (Reading α)
  | [] => .ok reading
  | c :: rest =>
    match Switch.all.find? fun switch => switch.letter? == some c with
    | some switch => do letters (← reading.turnOn switch) rest
    | none =>
      match Setting.all.find? fun setting => setting.letter? == some c with
      | some setting => reading.begin setting (attachedValue rest)
      | none => .error .unknown

/-- Takes an argument as the theme. -/
def theme (reading : Reading α) (text : String) : Except UsageError (Reading α) := do
  if reading.named then throw .unknown
  let reading ← reading.settle
  return { reading with pending := some (.theme, some text), named := true }

/-- Takes an argument as the value that is awaited, or else as the theme. -/
def plain (reading : Reading α) (text : String) : Except UsageError (Reading α) :=
  match reading.pending with
  | some (slot, none) => .ok { reading with pending := some (slot, some text) }
  | _ => reading.theme text

/-- Reads one argument. -/
def argument (reading : Reading α) (text : String) : Except UsageError (Reading α) :=
  if reading.trailing then reading.theme text
  else
    match text.toList with
    | ['-', '-'] => .ok { reading with trailing := true }
    | '-' :: '-' :: chars => reading.long chars
    | '-' :: c :: chars => reading.letters (c :: chars)
    | _ => reading.plain text

/-- The command line that was read, if nothing in it excludes something else. -/
def finish (reading : Reading α) : Except UsageError (CommandLine α) := do
  let reading ← reading.settle
  if reading.line.paramsFile.isSome && reading.line.paramsStdin then throw .conflict
  return reading.line

end Reading

/-- The command line that arguments stand for. -/
def parse (arguments : List String) : Except UsageError (CommandLine α) := do
  (← arguments.foldlM Reading.argument .start).finish

end CommandLine

end Ambience
