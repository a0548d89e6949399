import Mathlib.Algebra.Order.Floor.Div
import Mathlib.Order.Interval.Finset.Nat
import Mathlib.SetTheory.Cardinal.Finite
import SlotPattern.Proofs.Candidates
import SlotPattern.Proofs.Draw

/-!
# Draws are uniform

The words that select an index form an interval, and all these intervals have the same length, which
is a power of two. So every index below `n` is selected by equally many words, and no more than half
of the words select none. The candidates of a slot are distinct, so the same is true of them.
-/

namespace SlotPattern

/-! ### Intervals of words -/

/-- The words below `b` that are not below `a`. -/
theorem card_words_between {a b : Nat} (hb : b ≤ UInt64.size) :
    Nat.card {v : UInt64 // a ≤ v.toNat ∧ v.toNat < b} = b - a := by
  let e : {v : UInt64 // a ≤ v.toNat ∧ v.toNat < b} ≃ Finset.Ico a b :=
    { toFun := fun v => ⟨v.1.toNat, Finset.mem_Ico.mpr v.2⟩
      invFun := fun m => ⟨UInt64.ofNatLT m.1 ((Finset.mem_Ico.mp m.2).2.trans_le hb), by
        simpa using Finset.mem_Ico.mp m.2⟩
      left_inv := fun v => by simp
      right_inv := fun m => by simp }
  rw [Nat.card_congr e, Nat.card_eq_fintype_card, Fintype.card_coe, Nat.card_Ico]

theorem card_words : Nat.card UInt64 = UInt64.size := by
  have e : {v : UInt64 // 0 ≤ v.toNat ∧ v.toNat < UInt64.size} ≃ UInt64 :=
    Equiv.subtypeUnivEquiv fun v => ⟨Nat.zero_le _, v.toNat_lt_size⟩
  rw [← Nat.card_congr e, card_words_between (Nat.le_refl _), Nat.sub_zero]

/-! ### The words that select an index form an interval -/

theorem mul_lt_add_mul_iff {n m k v : Nat} (hn : 0 < n) :
    n * v < m + n * k ↔ v < m ⌈/⌉ n + k := by
  by_cases hk : v < k
  · have hmul : n * v < n * k := Nat.mul_lt_mul_of_pos_left hk hn
    omega
  · obtain ⟨u, rfl⟩ := Nat.exists_eq_add_of_le (Nat.not_lt.mp hk)
    have hceil : m ⌈/⌉ n ≤ u ↔ m ≤ n * u := ceilDiv_le_iff_le_mul hn
    rw [Nat.mul_add]
    omega

variable {n : Nat} {hn : 0 < n} {i : Fin n} {v : UInt64}

/-- The words that select an index start at the least one whose product with `n` is in the share of
the index. -/
theorem select?_eq_some_iff_between (hsize : n ≤ UInt64.size) :
    select? n hn v = some i ↔ i * UInt64.size ⌈/⌉ n ≤ v.toNat ∧
      v.toNat < i * UInt64.size ⌈/⌉ n + 2 ^ leadingZeros n := by
  rw [select?_eq_some_iff hn hsize, Nat.shiftLeft_eq, mul_lt_add_mul_iff hn,
    ceilDiv_le_iff_le_mul hn]

theorem ceilDiv_add_le (hn : 0 < n) (hsize : n ≤ UInt64.size) (i : Fin n) :
    i * UInt64.size ⌈/⌉ n + 2 ^ leadingZeros n ≤ UInt64.size := by
  rw [← Nat.not_lt, ← mul_lt_add_mul_iff hn, Nat.not_lt, ← Nat.shiftLeft_eq]
  calc i * UInt64.size + n <<< leadingZeros n
    _ ≤ i * UInt64.size + UInt64.size := by
      apply Nat.add_le_add_left
      exact shiftLeft_leadingZeros_le hsize
    _ = (i + 1) * UInt64.size := (Nat.succ_mul ..).symm
    _ ≤ n * UInt64.size := Nat.mul_le_mul_right _ i.isLt

/-- Every index is selected by equally many words. -/
theorem card_select?_eq_some (hn : 0 < n) (hsize : n ≤ UInt64.size) (i : Fin n) :
    Nat.card {v // select? n hn v = some i} = 2 ^ leadingZeros n := by
  simp only [select?_eq_some_iff_between hsize]
  rw [card_words_between (ceilDiv_add_le hn hsize i), Nat.add_sub_cancel_left]

/-! ### The words that select none -/

theorem card_select?_eq_none (hn : 0 < n) (hsize : n ≤ UInt64.size) :
    Nat.card {v // select? n hn v = none} + n * 2 ^ leadingZeros n = UInt64.size := by
  have hfinite : Finite UInt64 := Nat.finite_of_card_ne_zero (by rw [card_words]; decide)
  calc Nat.card {v // select? n hn v = none} + n * 2 ^ leadingZeros n
    _ = ∑ o, Nat.card {v // select? n hn v = o} := by
      rw [Fintype.sum_option]
      simp only [card_select?_eq_some hn hsize, Finset.sum_const, Finset.card_fin, smul_eq_mul]
    _ = Nat.card (Σ o, {v // select? n hn v = o}) := Nat.card_sigma.symm
    _ = Nat.card UInt64 := Nat.card_congr (Equiv.sigmaFiberEquiv (select? n hn))
    _ = UInt64.size := card_words

/-- Shifted by its leading zeros, a number fills more than half of a word. -/
theorem size_le_two_mul (hn : 0 < n) : UInt64.size ≤ 2 * (n * 2 ^ leadingZeros n) := by
  rw [leadingZeros]
  have hlog : 2 ^ n.log2 ≤ n := Nat.log2_self_le (Nat.ne_of_gt hn)
  have hexp : 64 ≤ 1 + (n.log2 + (63 - n.log2)) := by omega
  calc UInt64.size
    _ ≤ 2 ^ (1 + (n.log2 + (63 - n.log2))) := Nat.pow_le_pow_right Nat.zero_lt_two hexp
    _ = 2 * (2 ^ n.log2 * 2 ^ (63 - n.log2)) := by rw [Nat.pow_add, Nat.pow_add, Nat.pow_one]
    _ ≤ 2 * (n * 2 ^ (63 - n.log2)) :=
      Nat.mul_le_mul_left 2 (Nat.mul_le_mul_right _ hlog)

/-! ### Draws from any source -/

theorem ChaCha.keystreamWord_add_period (key : ChaCha.Key) (position : Nat) :
    ChaCha.keystreamWord key (position + 8 * UInt64.size) =
      ChaCha.keystreamWord key position := by
  have hblock : (position + 8 * UInt64.size) / 8 = position / 8 + UInt64.size := by omega
  have hword : (position + 8 * UInt64.size) % 8 = position % 8 := by omega
  have hnumber : UInt64.ofNat (position / 8 + UInt64.size) = UInt64.ofNat (position / 8) := by
    apply UInt64.toNat_inj.mp
    simp
  simp only [ChaCha.keystreamWord, hblock, hword, hnumber]

namespace Words

variable {w : Words} {k : Nat}

/-- The first word that selects an index comes before the horizon of the source. -/
theorem Selects.lt_horizon (h : w.Selects hn k i) : k < w.source.horizon w.position := by
  obtain ⟨source, position⟩ := w
  rw [← Nat.not_le]
  intro hle
  cases source with
  | script words =>
    -- A word behind the last one is zero, and would have been taken.
    have hzero : (Words.mk (.script words) position).ahead (words.length - position) = 0 := by
      apply List.getD_eq_default
      show words.length ≤ position + (words.length - position)
      omega
    have hpassed := h.passed (words.length - position) hle
    rw [hzero, select?_zero] at hpassed
    cases hpassed
  | keystream key =>
    -- The word one period before is the same.
    obtain ⟨j, rfl⟩ := Nat.exists_eq_add_of_le' hle
    have hpassed := h.passed j (by simp [Source.horizon])
    have htaken := h.taken
    simp only [ahead, Source.word, Source.horizon] at hpassed htaken
    rw [← Nat.add_assoc, ChaCha.keystreamWord_add_period, hpassed] at htaken
    cases htaken

theorem Selects.drawBelow_eq (h : w.Selects hn k i) : w.drawBelow n hn = (i, w.skip (k + 1)) :=
  h.drawWithin_eq h.lt_horizon

theorem Selects.pick_eq {α : Type} {as : List α} {hn : 0 < as.length} {i : Fin as.length}
    (h : w.Selects hn k i) : w.pick as = (some (as.get i), w.skip (k + 1)) := by
  cases as with
  | nil => exact absurd hn (Nat.lt_irrefl 0)
  | cons a as => rw [pick, h.drawBelow_eq]

end Words

/-! ### Candidates -/

/-- Each candidate of a slot is drawn by equally many words, and at least every second word draws
one. The others are passed over. A value that several options share is one candidate. The length of
a list is itself a word, so there are never more candidates than words. -/
theorem Slot.uniform_candidates {s : Slot} {h : History} {lookback : Lookback} {cs : List Value}
    (hcs : s.candidates h lookback = cs) (hn : 0 < cs.length) (hsize : cs.length ≤ UInt64.size) :
    cs.Nodup ∧
      (∀ v ∈ cs, Nat.card {word // (select? cs.length hn word).map cs.get = some v} =
        2 ^ leadingZeros cs.length) ∧
      Nat.card {word // select? cs.length hn word = none} +
        cs.length * 2 ^ leadingZeros cs.length = UInt64.size ∧
      UInt64.size ≤ 2 * (cs.length * 2 ^ leadingZeros cs.length) ∧
      ∀ (w : Words) (k : Nat) (i : Fin cs.length), w.Selects hn k i →
        w.pick cs = (some (cs.get i), w.skip (k + 1)) := by
  have hnodup : cs.Nodup := hcs ▸ nodup_candidates
  refine ⟨hnodup, fun v hv => ?_, card_select?_eq_none hn hsize, size_le_two_mul hn,
    fun w k i hselects => hselects.pick_eq⟩
  obtain ⟨i, rfl⟩ := List.get_of_mem hv
  rw [← card_select?_eq_some hn hsize i]
  -- Different indices hold different candidates.
  simp only [Option.map_eq_some_iff, hnodup.injective_get.eq_iff, exists_eq_right]

/-- Two options share the value `a`, and it is drawn by a quarter of the words like the others. The
last quarter draws nothing, so a word of it is followed by another one. -/
theorem Slot.uniform_candidates_shared_value :
    ∃ (s : Slot) (cs : List Value) (hn : 0 < cs.length),
      s.values = [.name "a", .name "b", .name "a", .nothing] ∧
      s.candidates .empty .history = cs ∧ cs = [.name "a", .name "b", .nothing] ∧
      cs.length ≤ UInt64.size ∧ cs.Nodup ∧
      (∀ v ∈ cs, Nat.card {word // (select? cs.length hn word).map cs.get = some v} = 2 ^ 62) ∧
      Nat.card {word // select? cs.length hn word = none} = 2 ^ 62 ∧
      (Words.ofScript [0x4000000000000000, 0x8000000000000000]).pick cs =
        (some (.name "b"), ⟨.script [0x4000000000000000, 0x8000000000000000], 2⟩) := by
  let s : Slot := ⟨[⟨[.name "a"], .unconstrained⟩, ⟨[.name "b", .name "a"], .excludes ["x"]⟩,
    ⟨[.nothing], .unconstrained⟩]⟩
  let cs : List Value := [.name "a", .name "b", .nothing]
  have hcs : s.candidates .empty .history = cs := by decide
  have hn : 0 < cs.length := by decide
  have hsize : cs.length ≤ UInt64.size := by decide
  have hzeros : leadingZeros cs.length = 62 := by decide +kernel
  have hselects : (Words.ofScript [0x4000000000000000, 0x8000000000000000]).Selects
      (Nat.zero_lt_succ 2) 1 1 := ⟨by decide +kernel, by decide +kernel⟩
  obtain ⟨hnodup, hcard, hnone, -, hpick⟩ := uniform_candidates hcs hn hsize
  have hrest : UInt64.size = 2 ^ 62 + cs.length * 2 ^ 62 := by decide +kernel
  rw [hzeros] at hcard hnone
  exact ⟨s, cs, hn, rfl, hcs, rfl, hsize, hnodup, hcard, Nat.add_right_cancel (hnone.trans hrest),
    hpick _ 1 _ hselects⟩

end SlotPattern
