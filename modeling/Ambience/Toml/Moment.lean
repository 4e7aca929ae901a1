import Ambience.Text.Decimal

/-!
# Dates and times

The forms of dates and times of day in TOML. Settings do not use them, but a text is refused if one
in it does not exist.
-/

namespace Ambience.Toml.Moment

/-- The number of two digits. -/
def pair? (a b : Char) : Option Nat :=
  if a.isDigit && b.isDigit then some (Text.Decimal.ofDigits [a, b]) else none

/-- The days of a month. -/
def daysOf (year month : Nat) : Nat :=
  match month with
  | 2 => if year % 4 = 0 ∧ (year % 100 ≠ 0 ∨ year % 400 = 0) then 29 else 28
  | 4 | 6 | 9 | 11 => 30
  | _ => 31

/-- What follows a date that exists. -/
def afterDate? : List Char → Option (List Char)
  | a :: b :: c :: d :: '-' :: e :: f :: '-' :: g :: h :: rest => do
    let year := (← pair? a b) * 100 + (← pair? c d)
    let month ← pair? e f
    let day ← pair? g h
    if 1 ≤ month ∧ month ≤ 12 ∧ 1 ≤ day ∧ day ≤ daysOf year month then some rest else none
  | _ => none

/-- What follows hours and minutes. -/
def afterMinutes? : List Char → Option (List Char)
  | a :: b :: ':' :: c :: d :: rest => do
    let hours ← pair? a b
    let minutes ← pair? c d
    if hours ≤ 23 ∧ minutes ≤ 59 then some rest else none
  | _ => none

/-- What follows the places of a second, if there are any. -/
def afterPlaces? : List Char → Option (List Char)
  | '.' :: c :: rest => if c.isDigit then some (rest.dropWhile Char.isDigit) else none
  | '.' :: [] => none
  | rest => some rest

/-- What follows a time of day. Seconds may be left out, and a leap second is one. -/
def afterTime? (text : List Char) : Option (List Char) := do
  match ← afterMinutes? text with
  | ':' :: a :: b :: rest => if (← pair? a b) ≤ 60 then afterPlaces? rest else none
  | ':' :: _ => none
  | rest => some rest

/-- Whether a text is an offset from universal time, or empty. -/
def isOffset : List Char → Bool
  | [] => true
  | ['Z'] => true
  | ['z'] => true
  | '+' :: rest => afterMinutes? rest == some []
  | '-' :: rest => afterMinutes? rest == some []
  | _ => false

/-- Whether a character may stand between a date and a time. -/
def isSeparator (c : Char) : Bool := c == 'T' || c == 't' || c == ' '

/-- Whether a text is a date, a time of day, or both with or without an offset. -/
def isMoment (text : List Char) : Bool :=
  match afterDate? text with
  | some [] => true
  | some (c :: rest) => isSeparator c && (afterTime? rest).any isOffset
  | none => afterTime? text == some []

end Ambience.Toml.Moment
