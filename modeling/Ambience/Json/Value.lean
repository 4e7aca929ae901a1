import Ambience.Scalar

/-!
# JSON values as they are written

A value keeps how its numbers and texts were written, because whether a number is in range and a
text is well formed matters only where they are used. `Number.value?` and `Part.decode?` give their
meanings.
-/

namespace Ambience.Json

/-! ## Numbers -/

/-- A number as it was written. Digits are numbers below ten, the most significant first. -/
structure Number where
  negative : Bool
  whole : List Nat
  /-- The digits after the point. -/
  fraction : List Nat
  /-- The sign and the digits of the exponent; the sign is true for a negative one. -/
  exponent : Option (Bool × List Nat)
  deriving DecidableEq, Repr

namespace Number

variable {α : Type} [Scalar α]

/-- The largest significand. -/
def maxSignificand : Nat := UInt64.size - 1

/-- The largest exponent that is told apart from larger ones. -/
def maxExponent : Nat := 0x7fffffff

/-- Appends digits to a significand while it stays below the largest one, and gives the digits that
were left over. -/
def absorb (significand : Nat) : List Nat → Nat × List Nat
  | [] => (significand, [])
  | digit :: later =>
    let longer := significand * 10 + digit
    if longer ≤ maxSignificand then absorb longer later else (significand, digit :: later)

/-- A power of ten. -/
def tenTo (n : Nat) : α := OfScientific.ofScientific 1 false n

/-- A value divided by a power of ten, in steps of at most `10 ^ 308`. -/
def shrink (value : α) (n : Nat) : α :=
  if 308 < n then
    if Scalar.same value 0.0 then value else shrink (value / tenTo 308) (n - 308)
  else value / tenTo n
termination_by n
decreasing_by omega

/-- A value multiplied by a power of ten, if that is in range. -/
def grow (value : α) (n : Nat) : Option α :=
  if 308 < n then if Scalar.same value 0.0 then some value else none
  else
    let grown := value * tenTo n
    if Scalar.isFinite grown then some grown else none

/-- A value times a power of ten, if that is in range. -/
def scale (value : α) (exponent : Int) : Option α :=
  if 0 ≤ exponent then grow value exponent.toNat else some (shrink value (-exponent).toNat)

/-- The number that digits stand for. -/
def ofDigits (digits : List Nat) : Nat := digits.foldl (fun n digit => n * 10 + digit) 0

/-- The absolute value. At most the digits that fit the significand count; whole digits beyond them
scale it. -/
def magnitude? (number : Number) : Option α :=
  let (significand, beyond) := absorb 0 number.whole
  let (significand, dropped) := absorb significand number.fraction
  let point : Int := (beyond.length : Int) - (number.fraction.length - dropped.length : Nat)
  let value : α := Scalar.ofNat significand
  match number.exponent with
  | none => scale value point
  | some (negative, digits) =>
    let exponent := ofDigits digits
    if exponent ≤ maxExponent then
      scale value (if negative then point - exponent else point + exponent)
    else if significand = 0 ∨ negative then some 0.0
    else none

/-- The value of a number, if it is in range. -/
def value? (number : Number) : Option α :=
  number.magnitude?.map fun value => if number.negative then -value else value

end Number

/-! ## Texts -/

/-- A part of a text as it was written. -/
inductive Part where
  | char (c : Char)
  /-- A 16-bit unit written by its number. -/
  | unit (n : Nat)
  deriving DecidableEq, Repr

/-- Whether a unit is the first of a pair that stands for one character. -/
def isLeading (n : Nat) : Bool := 0xD800 ≤ n && n < 0xDC00

/-- Whether a unit is the second of a pair that stands for one character. -/
def isTrailing (n : Nat) : Bool := 0xDC00 ≤ n && n < 0xE000

/-- The characters of a text; a unit of a pair that stands alone is none. -/
def Part.decode? : List Part → Option (List Char)
  | [] => some []
  | .char c :: later => (decode? later).map (c :: ·)
  | .unit n :: later =>
    if isTrailing n then none
    else if isLeading n then
      match later with
      | .unit m :: later =>
        if isTrailing m then
          (decode? later).map (Char.ofNat (0x10000 + (n - 0xD800) * 0x400 + (m - 0xDC00)) :: ·)
        else none
      | _ => none
    else (decode? later).map (Char.ofNat n :: ·)

/-! ## Values -/

/-- A value as it was written. -/
inductive Value where
  | null
  | bool (value : Bool)
  | number (number : Number)
  | text (parts : List Part)
  | list (items : List Value)
  /-- The members in order, with their names. -/
  | object (members : List (List Part × Value))

end Ambience.Json
