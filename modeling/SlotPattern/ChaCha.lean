/-!
# The ChaCha keystream

A key of eight words gives an endless row of 64-bit words. It is computed block by block: the key
and the number of the block fill a state of sixteen words, twelve rounds mix it, and the mixed state
is added to the state before. A single 64-bit seed is expanded to a key by a permuted congruential
generator.
-/

namespace SlotPattern.ChaCha

/-- The key of a keystream. -/
structure Key where
  words : Vector UInt32 8
  deriving DecidableEq

/-! ### Expanding a seed -/

/-- The next state of the congruential generator behind a seed. -/
def nextSeedState (s : UInt64) : UInt64 :=
  s * 6364136223846793005 + 11634580027462260723

/-- The word that a state of the congruential generator yields: its high bits, folded onto each
other and rotated right by the topmost five. -/
def seedWord (s : UInt64) : UInt32 :=
  let x := (((s >>> 18) ^^^ s) >>> 27).toUInt32
  let r := (s >>> 59).toUInt32
  (x >>> r) ||| (x <<< ((32 - r) % 32))

/-- The state of the congruential generator after `n` steps from the seed. -/
def seedState (seed : UInt64) : Nat → UInt64
  | 0 => seed
  | n + 1 => nextSeedState (seedState seed n)

/-- The key that a seed stands for. -/
def Key.ofSeed (seed : UInt64) : Key :=
  ⟨Vector.ofFn fun i => seedWord (seedState seed (i + 1))⟩

/-! ### Blocks -/

/-- The state of a block: four words of constants, eight of the key, two that number the block and
two that stay zero. -/
abbrev Block := Vector UInt32 16

/-- Rotates a word to the left by `n` bits, for `0 < n < 32`. -/
def rotateLeft (x n : UInt32) : UInt32 :=
  (x <<< n) ||| (x >>> (32 - n))

/-- Mixes four words of a block. -/
def quarterRound (s : Block) (a b c d : Fin 16) : Block :=
  let s := s.set a (s[a] + s[b])
  let s := s.set d (rotateLeft (s[d] ^^^ s[a]) 16)
  let s := s.set c (s[c] + s[d])
  let s := s.set b (rotateLeft (s[b] ^^^ s[c]) 12)
  let s := s.set a (s[a] + s[b])
  let s := s.set d (rotateLeft (s[d] ^^^ s[a]) 8)
  let s := s.set c (s[c] + s[d])
  s.set b (rotateLeft (s[b] ^^^ s[c]) 7)

/-- Mixes the columns of a block, taken as a square, and then its diagonals. -/
def doubleRound (s : Block) : Block :=
  let s := quarterRound s 0 4 8 12
  let s := quarterRound s 1 5 9 13
  let s := quarterRound s 2 6 10 14
  let s := quarterRound s 3 7 11 15
  let s := quarterRound s 0 5 10 15
  let s := quarterRound s 1 6 11 12
  let s := quarterRound s 2 7 8 13
  quarterRound s 3 4 9 14

/-- The state of the block with the given number before it is mixed. -/
def initialBlock (key : Key) (number : UInt64) : Block :=
  (#v[0x61707865, 0x3320646e, 0x79622d32, 0x6b206574] : Vector UInt32 4) ++ key.words ++
    (#v[number.toUInt32, (number >>> 32).toUInt32, 0, 0] : Vector UInt32 4)

/-- The block with the given number. -/
def keystreamBlock (key : Key) (number : UInt64) : Block :=
  let s := initialBlock key number
  let mixed := Nat.repeat doubleRound 6 s
  s.zipWith (· + ·) mixed

/-- The word of the keystream at a position: each block holds eight, with the low half first. The
number of the block wraps around at 64 bits. -/
def keystreamWord (key : Key) (position : Nat) : UInt64 :=
  let block := keystreamBlock key (UInt64.ofNat (position / 8))
  have : 2 * (position % 8) + 1 < 16 := by omega
  let low := block[2 * (position % 8)]
  let high := block[2 * (position % 8) + 1]
  low.toUInt64 ||| (high.toUInt64 <<< 32)

end SlotPattern.ChaCha
