import Ambience.Json.Value

/-!
# Reading JSON

The grammar of JSON, over lists of characters. Each reader takes what it reads off the front and
gives the rest, or nothing if the text is not of its form.
-/

namespace Ambience.Json

/-- Whether a character may stand between values. -/
def isGap (c : Char) : Bool := c == ' ' || c == '\n' || c == '\t' || c == '\r'

/-- The text without the gap in front of it. -/
def skipGap (text : List Char) : List Char := text.dropWhile isGap

/-! ## Numbers -/

/-- The value of a digit. -/
def digitValue (c : Char) : Nat := c.toNat - '0'.toNat

/-- The digits in front, and the rest. -/
def readDigits (text : List Char) : List Nat × List Char :=
  ((text.takeWhile Char.isDigit).map digitValue, text.dropWhile Char.isDigit)

/-- One digit or more. -/
def readSomeDigits (text : List Char) : Option (List Nat × List Char) :=
  match readDigits text with
  | ([], _) => none
  | read => some read

/-- The whole part of a number: a zero alone, or digits that do not start with one. -/
def readWhole (text : List Char) : Option (List Nat × List Char) :=
  match readSomeDigits text with
  | some (0 :: _ :: _, _) => none
  | read => read

/-- The digits after a point, if there is a point. -/
def readFraction : List Char → Option (List Nat × List Char)
  | '.' :: text => readSomeDigits text
  | text => some ([], text)

/-- The sign in front of an exponent, and the rest. -/
def readExponentSign : List Char → Bool × List Char
  | '+' :: text => (false, text)
  | '-' :: text => (true, text)
  | text => (false, text)

/-- The exponent, if there is one. -/
def readExponent (text : List Char) : Option (Option (Bool × List Nat) × List Char) :=
  match text with
  | c :: later =>
    if c == 'e' || c == 'E' then
      let (negative, later) := readExponentSign later
      (readSomeDigits later).map fun (digits, rest) => (some (negative, digits), rest)
    else some (none, text)
  | [] => some (none, [])

/-- A number without its sign. -/
def readUnsigned (negative : Bool) (text : List Char) : Option (Number × List Char) := do
  let (whole, text) ← readWhole text
  let (fraction, text) ← readFraction text
  let (exponent, text) ← readExponent text
  return ({ negative, whole, fraction, exponent }, text)

/-! ## Texts -/

/-- The value of a hexadecimal digit. -/
def hexValue? (c : Char) : Option Nat :=
  if c.isDigit then some (digitValue c)
  else if 'a' ≤ c ∧ c ≤ 'f' then some (c.toNat - 'a'.toNat + 10)
  else if 'A' ≤ c ∧ c ≤ 'F' then some (c.toNat - 'A'.toNat + 10)
  else none

/-- A unit written with four hexadecimal digits. -/
def hexUnit? (a b c d : Char) : Option Nat := do
  return ((← hexValue? a) * 16 + (← hexValue? b)) * 256 + ((← hexValue? c) * 16 + (← hexValue? d))

/-- The character that a letter stands for after a backslash. -/
def escaped? (c : Char) : Option Char :=
  match c with
  | '"' => some '"'
  | '\\' => some '\\'
  | '/' => some '/'
  | 'b' => some '\x08'
  | 'f' => some '\x0c'
  | 'n' => some '\n'
  | 'r' => some '\r'
  | 't' => some '\t'
  | _ => none

/-- The parts of a text up to its closing quote. Control characters must be escaped. -/
def readText : List Char → Option (List Part × List Char)
  | [] => none
  | '"' :: rest => some ([], rest)
  | '\\' :: 'u' :: a :: b :: c :: d :: rest => do
    let unit ← hexUnit? a b c d
    let (parts, rest) ← readText rest
    return (.unit unit :: parts, rest)
  | '\\' :: c :: rest => do
    let char ← escaped? c
    let (parts, rest) ← readText rest
    return (.char char :: parts, rest)
  | c :: rest =>
    if c.toNat < 0x20 then none
    else do
      let (parts, rest) ← readText rest
      return (.char c :: parts, rest)

/-! ## Values -/

mutual

/-- A value, after a gap. The fuel bounds how many readers of this group may be nested. -/
def readValue : Nat → List Char → Option (Value × List Char)
  | 0, _ => none
  | fuel + 1, text =>
    match skipGap text with
    | 'n' :: 'u' :: 'l' :: 'l' :: rest => some (.null, rest)
    | 't' :: 'r' :: 'u' :: 'e' :: rest => some (.bool true, rest)
    | 'f' :: 'a' :: 'l' :: 's' :: 'e' :: rest => some (.bool false, rest)
    | '"' :: rest => (readText rest).map fun (parts, rest) => (.text parts, rest)
    | '[' :: rest =>
      match skipGap rest with
      | ']' :: rest => some (.list [], rest)
      | rest => (readItems fuel rest).map fun (items, rest) => (.list items, rest)
    | '{' :: rest =>
      match skipGap rest with
      | '}' :: rest => some (.object [], rest)
      | rest => (readMembers fuel rest).map fun (members, rest) => (.object members, rest)
    | '-' :: rest => (readUnsigned true rest).map fun (number, rest) => (.number number, rest)
    | rest => (readUnsigned false rest).map fun (number, rest) => (.number number, rest)

/-- The items of a list from one of them up to the closing bracket. -/
def readItems : Nat → List Char → Option (List Value × List Char)
  | 0, _ => none
  | fuel + 1, text => do
    let (item, rest) ← readValue fuel text
    match skipGap rest with
    | ']' :: rest => return ([item], rest)
    | ',' :: rest => do
      let (items, rest) ← readItems fuel rest
      return (item :: items, rest)
    | _ => none

/-- The members of an object from one of them up to the closing brace. -/
def readMembers : Nat → List Char → Option (List (List Part × Value) × List Char)
  | 0, _ => none
  | fuel + 1, text =>
    match skipGap text with
    | '"' :: rest => do
      let (name, rest) ← readText rest
      match skipGap rest with
      | ':' :: rest => do
        let (value, rest) ← readValue fuel rest
        match skipGap rest with
        | '}' :: rest => return ([(name, value)], rest)
        | ',' :: rest => do
          let (members, rest) ← readMembers fuel rest
          return ((name, value) :: members, rest)
        | _ => none
      | _ => none
    | _ => none

end

/-- The value that a whole text is, with gaps around it. Every two nested readers take at least one
character, so the fuel is enough. -/
def Value.ofText? (text : List Char) : Option Value := do
  let (value, rest) ← readValue (2 * text.length + 2) text
  if (skipGap rest).isEmpty then some value else none

end Ambience.Json
