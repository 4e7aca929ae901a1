import Ambience.Toml.Moment
import Ambience.Toml.Value

/-!
# Literals

Numbers, truth values, dates and times as they are written without quotes.
-/

namespace Ambience.Toml.Literal

/-- Digits in groups: there is one at either end, and underscores stand alone between digits. The
underscores are dropped. -/
def ungroup? (isDigit : Char → Bool) : List Char → Option (List Char)
  | [] => none
  | [c] => if isDigit c then some [c] else none
  | c :: '_' :: later => if isDigit c then (ungroup? isDigit later).map (c :: ·) else none
  | c :: later => if isDigit c then (ungroup? isDigit later).map (c :: ·) else none

/-- Decimal digits in groups, without a zero in front of others. -/
def decimal? (text : List Char) : Option (List Char) :=
  match ungroup? Char.isDigit text with
  | some ('0' :: _ :: _) => none
  | digits => digits

/-- The value of a digit of a base up to sixteen. -/
def digitOf? (base : Nat) (c : Char) : Option Nat :=
  let value :=
    if c.isDigit then c.toNat - '0'.toNat
    else if 'a' ≤ c ∧ c ≤ 'f' then c.toNat - 'a'.toNat + 10
    else if 'A' ≤ c ∧ c ≤ 'F' then c.toNat - 'A'.toNat + 10
    else base
  if value < base then some value else none

/-- A number of a base, its digits in groups. -/
def inBase? (base : Nat) (text : List Char) : Option Nat := do
  let digits ← ungroup? (fun c => (digitOf? base c).isSome) text
  return digits.foldl (fun n c => n * base + (digitOf? base c).getD 0) 0

/-- A sign in front, true for minus, and the rest. -/
def splitSign : List Char → Bool × List Char
  | '+' :: rest => (false, rest)
  | '-' :: rest => (true, rest)
  | rest => (false, rest)

/-- A whole number. Only decimal ones may have a sign. -/
def integer? : List Char → Option Int
  | '0' :: 'x' :: digits => (inBase? 16 digits).map Int.ofNat
  | '0' :: 'o' :: digits => (inBase? 8 digits).map Int.ofNat
  | '0' :: 'b' :: digits => (inBase? 2 digits).map Int.ofNat
  | text => do
    let (negative, text) := splitSign text
    let n : Int := Text.Decimal.ofDigits (← decimal? text)
    return if negative then -n else n

/-- Whether a character starts an exponent. -/
def isExponent (c : Char) : Bool := c == 'e' || c == 'E'

/-- The value of an exponent. -/
def exponent? (text : List Char) : Option Int := do
  let (negative, text) := splitSign text
  let n : Int := Text.Decimal.ofDigits (← ungroup? Char.isDigit text)
  return if negative then -n else n

/-- A number with a point, an exponent or both, without its sign. -/
def unsigned? (negative : Bool) (text : List Char) : Option Text.Decimal := do
  let isEnd := fun c => c == '.' || isExponent c
  let whole ← decimal? (text.takeWhile fun c => !isEnd c)
  match text.dropWhile fun c => !isEnd c with
  | [] => none
  | '.' :: rest =>
    let fraction ← ungroup? Char.isDigit (rest.takeWhile fun c => !isExponent c)
    match rest.dropWhile fun c => !isExponent c with
    | [] => return .ofParts negative whole fraction 0
    | _ :: rest => return .ofParts negative whole fraction (← exponent? rest)
  | _ :: rest => return .ofParts negative whole [] (← exponent? rest)

/-- A number that is not a whole one. -/
def real? (text : List Char) : Option Real :=
  let (negative, text) := splitSign text
  match text with
  | ['i', 'n', 'f'] => some (.infinity negative)
  | ['n', 'a', 'n'] => some .nan
  | _ => (unsigned? negative text).map .finite

/-- The value that a literal stands for. -/
def value? (text : List Char) : Option Value :=
  match text with
  | ['t', 'r', 'u', 'e'] => some (.flag true)
  | ['f', 'a', 'l', 's', 'e'] => some (.flag false)
  | _ =>
    match integer? text, real? text with
    | some n, _ => some (.integer n)
    | none, some number => some (.real number)
    | none, none => if Moment.isMoment text then some .moment else none

/-- Whether a character can be a part of a literal. -/
def isPart (c : Char) : Bool :=
  c.isAlphanum || c == '+' || c == '-' || c == '_' || c == '.' || c == ':'

/-- The characters of a literal in front, and the rest. A blank may stand between a date and a time
of day. -/
def split (text : List Char) : List Char × List Char :=
  let first := text.takeWhile isPart
  match text.dropWhile isPart with
  | ' ' :: c :: rest =>
    if Moment.afterDate? first = some [] ∧ c.isDigit then
      (first ++ ' ' :: (c :: rest).takeWhile isPart, (c :: rest).dropWhile isPart)
    else (first, ' ' :: c :: rest)
  | rest => (first, rest)

/-- A literal in front, and the rest. -/
def read (text : List Char) : Option (Value × List Char) :=
  let (chars, rest) := split text
  (value? chars).map fun value => (value, rest)

end Ambience.Toml.Literal
