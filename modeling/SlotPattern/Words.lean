import SlotPattern.ChaCha

/-!
# Random words and uniform draws

Random words come from a script, which is followed by zeros, or from a keystream. A uniform draw
below `n` multiplies a word by `n` and takes the high half of the product, unless the low half shows
that the word belongs to an incomplete share; such a word is passed over.
-/

namespace SlotPattern

/-- Where random words come from. -/
inductive Source
  /-- The given words, and then zeros without end. -/
  | script (words : List UInt64)
  /-- The keystream of a key. -/
  | keystream (key : ChaCha.Key)
  deriving DecidableEq

/-- The word of a source at a position. -/
def Source.word : Source → Nat → UInt64
  | .script words, i => words.getD i 0
  | .keystream key, i => ChaCha.keystreamWord key i

/-- How many words from a position on have to be looked at: a script has only zeros after its last
word, and a keystream repeats itself after `2 ^ 64` blocks of eight words. -/
def Source.horizon : Source → Nat → Nat
  | .script words, i => words.length - i + 1
  | .keystream _, _ => 8 * UInt64.size

/-- A row of random words, of which the first `position` have been used. -/
structure Words where
  source : Source
  position : Nat
  deriving DecidableEq

/-- The next word, and the words after it. -/
def Words.next (w : Words) : UInt64 × Words :=
  (w.source.word w.position, { w with position := w.position + 1 })

/-- The words of a script. -/
def Words.ofScript (words : List UInt64) : Words := ⟨.script words, 0⟩

/-- The words of a keystream. -/
def Words.ofKey (key : ChaCha.Key) : Words := ⟨.keystream key, 0⟩

/-- The words that a seed stands for. -/
def Words.ofSeed (seed : UInt64) : Words := .ofKey (.ofSeed seed)

/-! ### Draws -/

/-- How many zeros precede the binary digits of `n` in a word of 64 bits, for `0 < n < 2 ^ 64`. -/
def leadingZeros (n : Nat) : Nat :=
  63 - n.log2

theorem mul_word_div_lt {n : Nat} (hn : 0 < n) (v : UInt64) :
    n * v.toNat / UInt64.size < n :=
  Nat.div_lt_of_lt_mul <| by
    rw [Nat.mul_comm n]
    exact Nat.mul_lt_mul_of_pos_right v.toNat_lt_size hn

/-- The index below `n` that a word selects. It selects none if the low half of its product with `n`
is not below the greatest `n * 2 ^ k` that fits in a word. -/
def select? (n : Nat) (hn : 0 < n) (v : UInt64) : Option (Fin n) :=
  if n * v.toNat % UInt64.size < n <<< leadingZeros n then
    some ⟨n * v.toNat / UInt64.size, mul_word_div_lt hn v⟩
  else
    none

/-- The first index below `n` that one of the next `fuel` words selects. -/
def Words.drawWithin (n : Nat) (hn : 0 < n) : Nat → Words → Fin n × Words
  | 0, w => (⟨0, hn⟩, w)
  | fuel + 1, w =>
    let (v, rest) := w.next
    match select? n hn v with
    | some i => (i, rest)
    | none => drawWithin n hn fuel rest

/-- A uniform draw of an index below `n`. -/
def Words.drawBelow (w : Words) (n : Nat) (hn : 0 < n) : Fin n × Words :=
  w.drawWithin n hn (w.source.horizon w.position)

/-- A uniform draw of a member of a list. There is nothing to draw from an empty list, and no word
is used. -/
def Words.pick {α : Type} (w : Words) : List α → Option α × Words
  | [] => (none, w)
  | a :: as =>
    let (i, rest) := w.drawBelow (a :: as).length (Nat.zero_lt_succ _)
    (some ((a :: as).get i), rest)

end SlotPattern
