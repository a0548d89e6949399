import Mathlib.Data.List.GetD
import Mathlib.Data.Nat.Find
import SlotPattern.Words

/-!
# Draws

The words that select an index below `n` are those whose product with `n` starts the share of that
index. Every share holds such a word, so every index can be drawn at once, and among the zeros at
the end of a script every draw comes to an end.
-/

namespace SlotPattern

/-! ### The words that select an index -/

theorem le_shiftLeft_leadingZeros (n : Nat) : n ≤ n <<< leadingZeros n := by
  rw [Nat.shiftLeft_eq]
  exact Nat.le_mul_of_pos_right n (Nat.two_pow_pos _)

theorem shiftLeft_leadingZeros_le {n : Nat} (hsize : n ≤ UInt64.size) :
    n <<< leadingZeros n ≤ UInt64.size := by
  rw [Nat.shiftLeft_eq, leadingZeros]
  by_cases hlog : n.log2 ≤ 63
  · have hlt : n < 2 ^ (n.log2 + 1) := Nat.lt_log2_self
    have hexp : n.log2 + 1 + (63 - n.log2) = 64 := by omega
    calc n * 2 ^ (63 - n.log2)
      _ ≤ 2 ^ (n.log2 + 1) * 2 ^ (63 - n.log2) := Nat.mul_le_mul_right _ (Nat.le_of_lt hlt)
      _ = UInt64.size := by rw [← Nat.pow_add, hexp, UInt64.size]
  · have hexp : 63 - n.log2 = 0 := by omega
    rw [hexp, Nat.pow_zero, Nat.mul_one]
    exact hsize

theorem mod_lt_and_div_eq_iff {m size share i : Nat} (hshare : share ≤ size) :
    m % size < share ∧ m / size = i ↔ i * size ≤ m ∧ m < i * size + share := by
  have hm := Nat.div_add_mod' m size
  constructor
  · rintro ⟨hlow, rfl⟩
    omega
  · rintro ⟨hle, hlt⟩
    have hquotient : m / size = i := by
      apply Nat.div_eq_of_lt_le hle
      rw [Nat.succ_mul]
      omega
    rw [hquotient] at hm
    exact ⟨by omega, hquotient⟩

/-- A word selects the index in whose share the product lies, if the product is near enough to the
start of that share. -/
theorem select?_eq_some_iff {n : Nat} (hn : 0 < n) (hsize : n ≤ UInt64.size) {v : UInt64}
    {i : Fin n} :
    select? n hn v = some i ↔ i * UInt64.size ≤ n * v.toNat ∧
      n * v.toNat < i * UInt64.size + n <<< leadingZeros n := by
  rw [← mod_lt_and_div_eq_iff (shiftLeft_leadingZeros_le hsize), select?]
  simp [Fin.ext_iff]

/-- Every index is selected by a word: by the least one whose product with `n` is in its share. -/
theorem exists_select?_eq_some {n : Nat} (hn : 0 < n) (hsize : n ≤ UInt64.size) (i : Fin n) :
    ∃ v, select? n hn v = some i := by
  -- Dividing rounds down, so the product with the quotient is at least the start of the share.
  let product := i * UInt64.size + (n - 1)
  have hdiv := Nat.div_add_mod product n
  have hmod := Nat.mod_lt product hn
  have hword : product / n < UInt64.size := by
    apply Nat.div_lt_of_lt_mul
    have hi : (i + 1) * UInt64.size ≤ n * UInt64.size := Nat.mul_le_mul_right _ i.isLt
    rw [Nat.succ_mul] at hi
    omega
  refine ⟨UInt64.ofNat (product / n), (select?_eq_some_iff hn hsize).mpr ?_⟩
  have hshare := le_shiftLeft_leadingZeros n
  rw [UInt64.toNat_ofNat_of_lt' hword]
  omega

theorem select?_zero {n : Nat} (hn : 0 < n) : select? n hn 0 = some ⟨0, hn⟩ := by
  have hshare := le_shiftLeft_leadingZeros n
  rw [select?, if_pos]
  · simp
  · simp only [UInt64.toNat_zero, Nat.mul_zero, Nat.zero_mod]
    omega

/-! ### The loop of a draw -/

namespace Words

/-- The word that comes after the next `k` words. -/
def ahead (w : Words) (k : Nat) : UInt64 :=
  w.source.word (w.position + k)

/-- The words after the next `k`. -/
def skip (w : Words) (k : Nat) : Words :=
  { w with position := w.position + k }

theorem ahead_skip (w : Words) (j k : Nat) : (w.skip j).ahead k = w.ahead (j + k) := by
  rw [ahead, ahead, skip, Nat.add_assoc]

theorem skip_skip (w : Words) (j k : Nat) : (w.skip j).skip k = w.skip (j + k) := by
  rw [skip, skip, skip, Nat.add_assoc]

/-- Of the next words the first `k` select no index, and the one after them selects `i`. -/
structure Selects (w : Words) {n : Nat} (hn : 0 < n) (k : Nat) (i : Fin n) : Prop where
  passed : ∀ j < k, select? n hn (w.ahead j) = none
  taken : select? n hn (w.ahead k) = some i

variable {n : Nat} {hn : 0 < n} {w : Words} {i : Fin n}

theorem Selects.drawWithin_eq {k fuel : Nat} (h : w.Selects hn k i) (hfuel : k < fuel) :
    w.drawWithin n hn fuel = (i, w.skip (k + 1)) := by
  obtain ⟨fuel, rfl⟩ : ∃ m, fuel = m + 1 := ⟨fuel - 1, by omega⟩
  have hnext : w.next = (w.ahead 0, w.skip 1) := rfl
  induction k generalizing w fuel with
  | zero =>
    simp only [drawWithin, hnext, h.taken]
  | succ k ih =>
    obtain ⟨fuel, rfl⟩ : ∃ m, fuel = m + 1 := ⟨fuel - 1, by omega⟩
    have hrest : (w.skip 1).Selects hn k i := by
      constructor
      · intro j hj
        rw [ahead_skip, Nat.add_comm]
        exact h.passed (j + 1) (by omega)
      · rw [ahead_skip, Nat.add_comm]
        exact h.taken
    rw [drawWithin]
    simp only [hnext, h.passed 0 (Nat.zero_lt_succ k)]
    rw [ih hrest fuel (by omega) rfl, skip_skip, Nat.add_comm 1]

theorem exists_selects {k : Nat} (h : select? n hn (w.ahead k) = some i) :
    ∃ j ≤ k, ∃ i, w.Selects hn j i := by
  have hexists : ∃ j, select? n hn (w.ahead j) ≠ none := ⟨k, by simp [h]⟩
  obtain ⟨i, hi⟩ := Option.ne_none_iff_exists'.mp (Nat.find_spec hexists)
  refine ⟨Nat.find hexists, Nat.find_min' hexists (by simp [h]), i, ⟨fun j hj => ?_, hi⟩⟩
  exact not_not.mp (Nat.find_min hexists hj)

/-- A draw from a script always ends: it gives what the first word that selects an index selects. -/
theorem exists_selects_drawBelow {words : List UInt64} (hw : w.source = .script words) :
    ∃ k i, w.Selects hn k i ∧ w.drawBelow n hn = (i, w.skip (k + 1)) := by
  have hzero : w.ahead (words.length - w.position) = 0 := by
    rw [ahead, hw, Source.word]
    apply List.getD_eq_default
    omega
  obtain ⟨k, hk, i, hi⟩ := exists_selects (hzero ▸ select?_zero hn)
  refine ⟨k, i, hi, hi.drawWithin_eq ?_⟩
  rw [hw, Source.horizon]
  omega

theorem horizon_pos (source : Source) (position : Nat) : 0 < source.horizon position := by
  cases source with
  | script words => exact Nat.zero_lt_succ _
  | keystream key => exact Nat.mul_pos (by decide) (by decide)

/-! ### Drawing a member of a list -/

theorem exists_pick_eq_some {α : Type} {as : List α} (h : as ≠ []) (w : Words) :
    ∃ a ∈ as, ∃ rest, w.pick as = (some a, rest) := by
  cases as with
  | nil => exact absurd rfl h
  | cons a as => exact ⟨_, List.get_mem _ _, _, rfl⟩

theorem mem_of_pick_eq_some {α : Type} {as : List α} {a : α} {w rest : Words}
    (h : w.pick as = (some a, rest)) : a ∈ as := by
  cases as with
  | nil => cases h
  | cons b bs =>
    obtain ⟨c, hc, _, hpick⟩ := exists_pick_eq_some (List.cons_ne_nil b bs) w
    rw [h] at hpick
    cases hpick
    exact hc

/-- For every member of a list there is a word that draws it at once. -/
theorem exists_word_pick_eq {α : Type} {as : List α} {a : α} (ha : a ∈ as)
    (hsize : as.length ≤ UInt64.size) :
    ∃ v, ∀ w : Words, w.ahead 0 = v → w.pick as = (some a, w.skip 1) := by
  obtain ⟨i, hi⟩ := List.get_of_mem ha
  obtain ⟨v, hv⟩ := exists_select?_eq_some (Nat.zero_lt_of_lt i.isLt) hsize i
  refine ⟨v, fun w hw => ?_⟩
  have hdraw := (Selects.mk (fun j hj => absurd hj (Nat.not_lt_zero j)) (hw ▸ hv)).drawWithin_eq
    (horizon_pos w.source w.position)
  cases as with
  | nil => cases ha
  | cons b bs =>
    rw [pick, drawBelow, hdraw]
    simp only [hi]

/-- The words of a script from some point on. -/
def after (used words : List UInt64) : Words := ⟨.script (used ++ words), used.length⟩

theorem ofScript_eq_after (words : List UInt64) : ofScript words = after [] words := rfl

theorem ahead_after_cons (used : List UInt64) (v : UInt64) (words : List UInt64) :
    (after used (v :: words)).ahead 0 = v := by
  simp [after, ahead, Source.word]

theorem skip_after_cons (used : List UInt64) (v : UInt64) (words : List UInt64) :
    (after used (v :: words)).skip 1 = after (used ++ [v]) words := by
  simp [after, skip]

end Words

end SlotPattern
