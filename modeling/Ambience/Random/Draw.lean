import Ambience.Random.Stream
import Ambience.Scalar

/-!
# Drawing values from a source of randomness

Generators draw from any source that can be seeded and that hands out words (`Words`) and numbers
of the unit interval (`Units`). A draw fails only when the range asked for holds no value or is not
bounded; a draw that fails ends the whole computation (`Fault`).
-/

namespace Ambience

/-- Why a computation stops without a result. -/
inductive Fault where
  /-- A random value was asked of a range that holds none. -/
  | emptyRange
  /-- A random value was asked of a range that is not bounded. -/
  | unboundedRange
  /-- A whole number left its machine word. -/
  | overflow
  deriving DecidableEq, Repr

/-- A source of random words that a seed determines. -/
class Words (σ : Type) where
  /-- The source of a seed, before its first word. -/
  ofSeed : UInt64 → σ
  /-- The next word, and the source after it. -/
  word : σ → UInt32 × σ

/-- A source of random numbers of the unit interval, one excluded. -/
class Units (σ α : Type) where
  /-- The next number, and the source after it. -/
  unit : σ → α × σ

instance : Words Random.Stream where
  ofSeed := Random.Stream.ofSeed
  word := Random.Stream.word

/-- The high 52 bits of a long word, as a fraction. -/
instance {α : Type} [Scalar α] : Units Random.Stream α where
  unit s :=
    let (word, s) := s.longWord
    (Scalar.ofNat (word >>> 12).toNat / 4503599627370496.0, s)

/-- A computation that draws from a source and may fail. -/
abbrev Draw (σ : Type) := StateT σ (Except Fault)

namespace Draw

variable {σ α : Type} [Words σ] [Units σ α] [Scalar α]

/-- One word. -/
def word : Draw σ UInt32 := modifyGet Words.word

/-- One number of the unit interval. -/
def unit : Draw σ α := modifyGet Units.unit

/-- The image of a number of the unit interval in the range from `low` to `high`. -/
def between (low high : α) : Draw σ α := do
  if !(Scalar.isFinite low && Scalar.isFinite high && Scalar.isFinite (high - low)) then
    throw .unboundedRange
  let fraction ← unit
  return fraction * (high - low) + low

/-- A number of a range that holds one: `low` is below `high`. -/
def uniform (low high : α) : Draw σ α :=
  if low < high then between low high else throw .emptyRange

/-- A number of a range that may be a single point. -/
def uniformClosed (low high : α) : Draw σ α :=
  if low ≤ high then between low high else throw .emptyRange

/-- A number of a range, or its lower end when the range is empty. -/
def span (low high : α) : Draw σ α :=
  if low < high then uniform low high else return low

/-- A whole number from `low` up to and without `high`, by scaling one word to the size of the
range; a second word settles the carry when the first leaves it open. -/
def integer (low high : Nat) : Draw σ Nat := do
  if high ≤ low then throw .emptyRange
  let size := high - low
  let product := (← word).toNat * size
  let quotient := product / UInt32.size
  let rest := product % UInt32.size
  if rest ≤ UInt32.size - size then return low + quotient
  let carry := (← word).toNat * size / UInt32.size
  return low + (if rest + carry < UInt32.size then quotient else quotient + 1)

end Draw

end Ambience
