import Ambience.Text.Decimal

/-!
# TOML values

What a settings text in TOML holds. A table remembers how it came to be, because that decides what
may still be added to it.
-/

namespace Ambience.Toml

/-- How a table came to be. -/
inductive Origin where
  /-- By a header of its own. -/
  | header
  /-- By the header of a table inside it. -/
  | implied
  /-- By a dotted name in an assignment. -/
  | dotted
  /-- Written as a value. -/
  | inline
  deriving DecidableEq, Repr

/-- A number with a point, an exponent or a name. -/
inductive Real where
  | finite (number : Text.Decimal)
  | infinity (negative : Bool)
  | nan
  deriving DecidableEq, Repr

/-- A value. -/
inductive Value where
  | text (content : String)
  | integer (n : Int)
  | real (number : Real)
  | flag (value : Bool)
  /-- A date, a time of day or both. -/
  | moment
  | list (items : List Value)
  | table (origin : Origin) (members : List (String × Value))
  /-- Tables under one repeated header, in order. -/
  | tables (items : List (List (String × Value)))

/-- The members of a table, in the order in which they were entered. -/
abbrev Members := List (String × Value)

namespace Members

/-- The value of a name. -/
def find? (name : String) (members : Members) : Option Value :=
  (List.find? (fun member => member.1 == name) members).map Prod.snd

/-- The members with another value for a name. -/
def replace (name : String) (value : Value) (members : Members) : Members :=
  members.map fun member => if member.1 == name then (name, value) else member

/-- The members with a new one at the end. -/
def add (name : String) (value : Value) (members : Members) : Members := members ++ [(name, value)]

end Members

end Ambience.Toml
