import Ambience.Toml.Value

/-!
# Building tables

A TOML text is a list of statements that build one table. A table may be named only once, by a header
of its own or by dotted names: both may complete a table that the headers of others implied, a dotted
name may also extend a table that dotted names made, and nothing extends a table that was written as
a value.
-/

namespace Ambience.Toml

/-- A statement of a text. -/
inductive Statement where
  /-- A header: later assignments are to this table. -/
  | header (path : List String)
  /-- A repeated header: later assignments are to a new table in the list of this name. -/
  | item (path : List String)
  /-- An assignment to a name with the names in front of it. -/
  | assign (path : List String) (name : String) (value : Value)

namespace Members

/-! ## Assignments -/

/-- Enters a value, unless the name is taken. -/
def enter (name : String) (value : Value) (members : Members) : Option Members :=
  if (members.find? name).isSome then none else some (members.add name value)

/-- Whether dotted names may still extend a table: no header and no value has named it. -/
def isOpen (origin : Origin) : Bool := origin = .implied || origin = .dotted

/-- Enters a value below the tables of a dotted name, all of which must be open. The last of them is
named by this. -/
def enterBelow (name : String) (value : Value) : List String → Origin → Members → Option Members
  | [], origin, members => if isOpen origin then members.enter name value else none
  | outer :: path, _, members =>
    match members.find? outer with
    | none => do
      let inner ← enterBelow name value path .dotted []
      return members.add outer (.table .dotted inner)
    | some (.table origin inner) =>
      if isOpen origin then do
        let inner ← enterBelow name value path origin inner
        return members.replace outer (.table (if path.isEmpty then .dotted else origin) inner)
      else none
    | some (.tables items) => do
      let last ← items.getLast?
      let last ← enterBelow name value path .header last
      return members.replace outer (.tables (items.dropLast ++ [last]))
    | some _ => none

/-- Enters a value under a name that may be dotted. -/
def assign (path : List String) (name : String) (value : Value) (members : Members) :
    Option Members :=
  if path.isEmpty then members.enter name value else enterBelow name value path .header members

/-! ## Headers -/

/-- Changes the member at the end of the path of a header. Tables on the way that do not exist are
implied; of repeated tables the last one is meant. -/
def reach (change : String → Members → Option Members) : List String → Members → Option Members
  | [], _ => none
  | [name], members => change name members
  | outer :: path, members =>
    match members.find? outer with
    | none => do
      let inner ← reach change path []
      return members.add outer (.table .implied inner)
    | some (.table origin inner) =>
      if origin = .inline then none
      else do
        let inner ← reach change path inner
        return members.replace outer (.table origin inner)
    | some (.tables items) => do
      let last ← items.getLast?
      let last ← reach change path last
      return members.replace outer (.tables (items.dropLast ++ [last]))
    | some _ => none

/-- Names a table by its own header. -/
def declare (name : String) (members : Members) : Option Members :=
  match members.find? name with
  | none => some (members.add name (.table .header []))
  | some (.table .implied inner) => some (members.replace name (.table .header inner))
  | some _ => none

/-- Starts another table of a repeated header. -/
def extend (name : String) (members : Members) : Option Members :=
  match members.find? name with
  | none => some (members.add name (.tables [[]]))
  | some (.tables items) => some (members.replace name (.tables (items ++ [[]])))
  | some _ => none

/-- Changes the table that a header has named. -/
def inside (change : Members → Option Members) (path : List String) (members : Members) :
    Option Members :=
  if path.isEmpty then change members
  else
    reach
      (fun name members =>
        match members.find? name with
        | some (.table origin inner) => do
          return members.replace name (.table origin (← change inner))
        | some (.tables items) => do
          let last ← change (← items.getLast?)
          return members.replace name (.tables (items.dropLast ++ [last]))
        | _ => none)
      path members

/-! ## Whole texts -/

/-- The table after more statements, in the part of it that the last header named. -/
def build : List Statement → List String → Members → Option Members
  | [], _, members => some members
  | .header path :: later, _, members => do build later path (← reach declare path members)
  | .item path :: later, _, members => do build later path (← reach extend path members)
  | .assign path name value :: later, current, members => do
    build later current (← inside (assign path name value) current members)

/-- The table that statements build, if they are in order. -/
def ofStatements? (statements : List Statement) : Option Members := build statements [] []

end Members

end Ambience.Toml
