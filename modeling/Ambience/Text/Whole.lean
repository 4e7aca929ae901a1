import Ambience.Scalar

/-!
# Numbers without places

A number is written as the nearest whole number with all its digits, a half going to the even
neighbour. The sign is kept, also of a zero.
-/

namespace Ambience.Text

variable {α : Type} [Scalar α]

/-- Whether a number has a minus sign; a zero has one if its reciprocal is below it. -/
def isSigned (x : α) : Bool :=
  decide (x < 0.0) || (Scalar.same x 0.0 && decide (1.0 / x < 0.0))

/-- The whole number nearest to a value that is not negative, a half going to the even one. -/
def nearestEven (x : α) : Nat :=
  let below := Scalar.floor x
  let n := (Scalar.toInt below).toNat
  let rest := x - below
  if rest < 0.5 then n
  else if 0.5 < rest then n + 1
  else if n % 2 = 0 then n else n + 1

/-- A number without places. -/
def whole (x : α) : String :=
  if !Scalar.isNumber x then "NaN"
  else
    let digits :=
      if Scalar.isFinite x then toString (nearestEven (Scalar.magnitude x)) else "inf"
    if isSigned x then "-" ++ digits else digits

/-- A text with blanks after it up to a width. -/
def padRight (width : Nat) (text : String) : String :=
  text ++ String.ofList (List.replicate (width - text.length) ' ')

end Ambience.Text
