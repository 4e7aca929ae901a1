import Ambience.Random.Block

/-!
# The seeded random stream

A stream is a key and a position: its words are those of the blocks with counters 0, 1, 2, …, one
after another. The block in use is kept so that it is stirred once and not once for each word.
-/

namespace Ambience.Random

/-- A position in the word stream of a key. -/
structure Stream where
  key : Key
  /-- How many words have been read. -/
  position : Nat
  /-- The block that holds the next word, unless the next word is the first of its block. -/
  block : Block

namespace Stream

/-- One step of the congruential generator that stretches a seed to a key. -/
def stretch (state : UInt64) : UInt64 := state * 0x5851F42D4C957F2D + 0xA17654E46FBE17F3

/-- The key word of a generator state: some high bits, turned right by the five highest. -/
def keyWord (state : UInt64) : UInt32 :=
  let word := (((state >>> 18) ^^^ state) >>> 27).toUInt32
  let places := (state >>> 59).toUInt32
  (word >>> places) ||| (word <<< ((32 - places) % 32))

/-- The key of a seed: eight successive generator states, one word of each. -/
def keyOfSeed (seed : UInt64) : Key :=
  Vector.ofFn fun i => keyWord (Nat.repeat stretch (i.val + 1) seed)

/-- The stream of a seed, at its start. -/
def ofSeed (seed : UInt64) : Stream := ⟨keyOfSeed seed, 0, Vector.replicate 16 0⟩

/-- The next word, and the stream after it. -/
def word (s : Stream) : UInt32 × Stream :=
  let block :=
    if s.position % 16 = 0 then Block.ofCounter s.key (UInt64.ofNat (s.position / 16)) else s.block
  (block[s.position % 16], { s with position := s.position + 1, block })

/-- The next two words as one of 64 bits, the first word being the low one. -/
def longWord (s : Stream) : UInt64 × Stream :=
  let (low, s) := s.word
  let (high, s) := s.word
  ((high.toUInt64 <<< 32) ||| low.toUInt64, s)

end Stream

end Ambience.Random
