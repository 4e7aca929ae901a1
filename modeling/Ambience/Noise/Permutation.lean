/-!
# Seeded permutations of a byte

Gradient noise reads its directions through a permutation of the 256 byte values. The permutation
of a seed is a shuffle of the identity whose swaps are drawn from a small shift-register generator.
-/

namespace Ambience.Noise

/-- The state of a shift-register generator. -/
structure Register where
  a : UInt32
  b : UInt32
  c : UInt32
  d : UInt32

/-- A permutation of the byte values, as the table of its images. -/
abbrev Permutation := Vector UInt8 256

namespace Register

/-- The register of a seed. -/
def ofSeed (seed : UInt32) : Register := ⟨1, seed, seed, seed⟩

/-- The next word, and the register after it. -/
def word (r : Register) : UInt32 × Register :=
  let t := r.a ^^^ (r.a <<< 11)
  let w := r.d ^^^ (r.d >>> 19) ^^^ (t ^^^ (t >>> 8))
  (w, ⟨r.b, r.c, r.d, w⟩)

/-- The largest multiple of `size` by a power of two that fits a word, less one: a scaled word
whose low half is above it would favour some values and is drawn again. -/
def zone (size : Nat) : Nat := size <<< (31 - size.log2) - 1

/-- A value below `size`. At least every second word is kept, so the number of tries allowed is
never used up by a generator that is not stuck. -/
def below (size : Nat) : Nat → Register → Nat × Register
  | 0, r => (0, r)
  | tries + 1, r =>
    let (word, r) := r.word
    let product := word.toNat * size
    if product % UInt32.size ≤ zone size then (product / UInt32.size, r) else below size tries r

end Register

namespace Permutation

/-- The byte values in order. -/
def identity : Permutation := Vector.ofFn fun i => UInt8.ofNat i.val

/-- Swaps each of the positions `n`, `n - 1`, …, 1 with one not above it. -/
def shuffle : Nat → Register → Permutation → Permutation
  | 0, _, p => p
  | n + 1, r, p =>
    let (j, r) := r.below (n + 2) 1024
    shuffle n r (if h : n + 1 < 256 ∧ j < 256 then p.swap (n + 1) j h.1 h.2 else p)

/-- The permutation of a seed. -/
def ofSeed (seed : UInt32) : Permutation := shuffle 255 (Register.ofSeed seed) identity

/-- The image of a byte. -/
def image (p : Permutation) (byte : UInt8) : UInt8 := p.get ⟨byte.toNat, byte.toNat_lt⟩

end Permutation

end Ambience.Noise
