/-!
# Blocks of a cipher stream

A block is sixteen words: four fixed words, an eight-word key, a two-word counter and two zero
words, stirred by six double rounds and added to the unstirred block. Distinct counters give
unrelated blocks, which is what a random stream reads from.
-/

namespace Ambience.Random

/-- Sixteen words of a cipher stream. -/
abbrev Block := Vector UInt32 16

/-- The eight words a stream is derived from. -/
abbrev Key := Vector UInt32 8

namespace Block

/-- A word turned left by fewer than 32 places. -/
def rotate (word places : UInt32) : UInt32 := (word <<< places) ||| (word >>> (32 - places))

/-- The quarter round: four words, each added to, combined and turned twice. -/
def quarter (b : Block) (i j k l : Fin 16) : Block :=
  let a₁ := b[i] + b[j]
  let d₁ := rotate (b[l] ^^^ a₁) 16
  let c₁ := b[k] + d₁
  let b₁ := rotate (b[j] ^^^ c₁) 12
  let a₂ := a₁ + b₁
  let d₂ := rotate (d₁ ^^^ a₂) 8
  let c₂ := c₁ + d₂
  let b₂ := rotate (b₁ ^^^ c₂) 7
  (((b.set i a₂).set j b₂).set k c₂).set l d₂

/-- Four quarter rounds down the columns of the block and four along its diagonals. -/
def doubleRound (b : Block) : Block :=
  let columns := (((b.quarter 0 4 8 12).quarter 1 5 9 13).quarter 2 6 10 14).quarter 3 7 11 15
  (((columns.quarter 0 5 10 15).quarter 1 6 11 12).quarter 2 7 8 13).quarter 3 4 9 14

/-- The block before stirring. -/
def unstirred (key : Key) (counter : UInt64) : Block :=
  #v[0x61707865, 0x3320646e, 0x79622d32, 0x6b206574,
     key[0], key[1], key[2], key[3], key[4], key[5], key[6], key[7],
     counter.toUInt32, (counter >>> 32).toUInt32, 0, 0]

/-- The block of a key at a counter: six double rounds, added to the unstirred block. -/
def ofCounter (key : Key) (counter : UInt64) : Block :=
  let start := unstirred key counter
  Vector.zipWith (· + ·) start (Nat.repeat doubleRound 6 start)

end Block

end Ambience.Random
