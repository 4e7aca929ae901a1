import Ambience.Controls
import Ambience.Json.Reader
import Ambience.Text.Blank
import Ambience.Text.Lines

/-!
# Parameters from outside

Another program can steer a running animation with lines of JSON: each line is a record of wishes,
and a field that is absent leaves its setting alone. Later records win over earlier ones until the
wishes are taken.
-/

namespace Ambience

/-- Wishes of another program. -/
structure Params (α : Type) where
  theme : Option String
  dark : Option Bool
  opacity : Option α
  active : Option Bool
  deriving Repr

namespace Params

variable {α : Type} [Scalar α]

/-- No wishes. -/
def none : Params α := ⟨.none, .none, .none, .none⟩

/-! ## Fields -/

/-- The text of a field; null is an absent one. -/
def theme? : Json.Value → Option (Option String)
  | .null => some .none
  | .text parts => (Json.Part.decode? parts).map fun chars => some (String.ofList chars)
  | _ => .none

/-- The truth value of a field; null is an absent one. -/
def flag? : Json.Value → Option (Option Bool)
  | .null => some .none
  | .bool value => some (some value)
  | _ => .none

/-- The number of a field; null is an absent one. -/
def opacity? : Json.Value → Option (Option α)
  | .null => some .none
  | .number number => number.value?.map some
  | _ => .none

/-! ## Records -/

/-- How often a name is that of a member. -/
def occurrences (name : String) (members : List (String × Json.Value)) : Nat :=
  members.countP fun member => member.1 == name

/-- The value of the first member of a name, or null. -/
def member (name : String) (members : List (String × Json.Value)) : Json.Value :=
  ((members.find? fun member => member.1 == name).map Prod.snd).getD .null

/-- Members with their names decoded, if all of them can be. -/
def named? : List (List Json.Part × Json.Value) → Option (List (String × Json.Value))
  | [] => some []
  | (name, value) :: later => do
    let name ← Json.Part.decode? name
    let later ← named? later
    return (String.ofList name, value) :: later

/-- The record of four values. -/
def ofValues? (theme dark opacity active : Json.Value) : Option (Params α) := do
  return {
    theme := ← theme? theme
    dark := ← flag? dark
    opacity := ← opacity? opacity
    active := ← flag? active }

/-- The record that a value stands for: an object in which no field occurs twice and other members
do not count, or a list of all four fields in their order. -/
def ofValue? : Json.Value → Option (Params α)
  | .object members => do
    let members ← named? members
    if ["theme", "dark", "opacity", "active"].any fun name => 1 < occurrences name members then
      .none
    else
      ofValues? (member "theme" members) (member "dark" members) (member "opacity" members)
        (member "active" members)
  | .list [theme, dark, opacity, active] => ofValues? theme dark opacity active
  | _ => .none

/-- The record on a line, if there is one. -/
def parse (line : String) : Option (Params α) :=
  (Json.Value.ofText? (Text.trimChars line.toList)).bind ofValue?

/-- The records on the lines of a text that comes in, in order. -/
def parseLines (text : String) : List (Params α) :=
  (Text.incoming [] text.toList).filterMap parse

/-- The last record on the lines of a text that is at hand. -/
def parseLast (text : String) : Option (Params α) := (Text.lines text).reverse.findSome? parse

/-! ## Collecting wishes -/

/-- The wishes of a record and, where it has none, those collected before. -/
def merge (collected params : Params α) : Params α where
  theme := params.theme <|> collected.theme
  dark := params.dark <|> collected.dark
  opacity := params.opacity <|> collected.opacity
  active := params.active <|> collected.active

/-- Takes the wish for a theme out of those collected. -/
def takeTheme (collected : Params α) : Option String × Params α :=
  (collected.theme, { collected with theme := .none })

/-- Takes the other wishes out of those collected, and gives the controls with them. -/
def takeControls (collected : Params α) (controls : Controls α) : Controls α × Params α :=
  let controls := { controls with
    dark := collected.dark.getD controls.dark
    active := collected.active.getD controls.active }
  let controls := match collected.opacity with
    | some opacity => controls.withOpacity opacity
    | .none => controls
  (controls, { none with theme := collected.theme })

end Params

end Ambience
