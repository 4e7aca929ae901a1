import Ambience.Text.Decimal
import Ambience.Text.Blank

/-!
# Numerals

Numbers as they are typed on a command line: whole numbers with an optional sign, and decimal
numbers with an optional point and exponent or one of the names of the infinity and of what is not a
number. Nothing may stand before or after them.
-/

namespace Ambience.Text.Numeral

/-- The sign in front, true for minus, and the rest. -/
def splitSign : List Char → Bool × List Char
  | '+' :: rest => (false, rest)
  | '-' :: rest => (true, rest)
  | rest => (false, rest)

/-- The number that a text of digits alone stands for. -/
def digits? (text : List Char) : Option Nat :=
  if text.isEmpty || !text.all Char.isDigit then none else some (Decimal.ofDigits text)

/-- A whole number with an optional sign. -/
def whole? (text : String) : Option Int := do
  let (negative, rest) := splitSign text.toList
  let n : Int := (← digits? rest : Nat)
  return if negative then -n else n

/-- A whole number with an optional plus sign. -/
def count? (text : String) : Option Nat :=
  match text.toList with
  | '+' :: rest => digits? rest
  | rest => digits? rest

/-- The exponent of a decimal number, from the letter in front of it on. -/
def exponent? : List Char → Option Int
  | [] => some 0
  | c :: rest => do
    if !(c == 'e' || c == 'E') then none
    let (negative, rest) := splitSign rest
    let n : Int := (← digits? rest : Nat)
    return if negative then -n else n

/-- A decimal number without its sign: digits before or after a point, or both. -/
def unsigned? (negative : Bool) (text : List Char) : Option Decimal := do
  let whole := text.takeWhile Char.isDigit
  let (fraction, rest) :=
    match text.dropWhile Char.isDigit with
    | '.' :: rest => (rest.takeWhile Char.isDigit, rest.dropWhile Char.isDigit)
    | rest => ([], rest)
  if whole.isEmpty && fraction.isEmpty then none
  return .ofParts negative whole fraction (← exponent? rest)

/-- A number with an optional sign; letter case does not count in names. -/
def real? {α : Type} [Scalar α] (text : String) : Option α :=
  let (negative, rest) := splitSign text.toList
  let signed (x : α) : α := if negative then -x else x
  if ["inf", "infinity"].any (sameLetters (String.ofList rest)) then some (signed (1.0 / 0.0))
  else if sameLetters (String.ofList rest) "nan" then some (signed (0.0 / 0.0))
  else (unsigned? negative rest).map Decimal.value

end Ambience.Text.Numeral
