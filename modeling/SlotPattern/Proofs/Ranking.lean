import Mathlib.Algebra.BigOperators.Group.List.Lemmas
import Mathlib.Algebra.Ring.Nat
import Mathlib.Data.Finset.Card
import SlotPattern.Proofs.ByteOrder
import SlotPattern.Proofs.ReportRows

/-!
# The variety report is a ranking of the samples

The counts are kept in a table, one sample after the other, and its entries are sorted afterwards.
So each distinct sample has one row, and its place depends on how often it occurs alone.
-/

namespace SlotPattern

open Text

/-! ### Counting -/

/-- The table has counted these samples: its keys are the samples, and its values how often they
occur. -/
def HasCounted (counts : Table Nat) (samples : List String) : Prop :=
  ∀ s n, counts.get? s = some n ↔ s ∈ samples ∧ samples.count s = n

variable {counts : Table Nat} {samples : List String}

theorem hasCounted_empty : HasCounted .empty [] := by
  intro s n
  simp

theorem HasCounted.getD_get? (h : HasCounted counts samples) (s : String) :
    (counts.get? s).getD 0 = samples.count s := by
  cases hs : counts.get? s with
  | some n => exact ((h s n).mp hs).2.symm
  | none =>
    symm
    apply List.count_eq_zero_of_not_mem
    intro hmem
    have hfound := (h s _).mpr ⟨hmem, rfl⟩
    rw [hs] at hfound
    cases hfound

theorem HasCounted.countSample (h : HasCounted counts samples) (sample : String) :
    HasCounted (countSample counts sample) (samples ++ [sample]) := by
  intro s n
  rw [SlotPattern.countSample, Table.get?_insert, h.getD_get?, List.count_append]
  by_cases hs : s = sample
  · subst hs
    simp
  · have hcount : [sample].count s = 0 := by simp [Ne.symm hs]
    rw [if_neg hs, h s n, hcount, Nat.add_zero]
    simp [hs]

theorem hasCounted_tally (samples : List String) : HasCounted (tally samples) samples := by
  induction samples using List.reverseRecOn with
  | nil => exact hasCounted_empty
  | append_singleton samples sample ih =>
    rw [tally, List.foldl_append]
    exact ih.countSample sample

/-! ### Ranking -/

namespace Frequency

/-- The rows are a ranking of the samples. Each distinct sample has one row, with the number of its
occurrences. The greater count comes first, and of equal counts the text with the smaller bytes. -/
structure Ranks (rows : List Frequency) (samples : List String) : Prop where
  texts_nodup : (rows.map (·.text)).Nodup
  mem_iff (text : String) (count : Nat) :
    ⟨text, count⟩ ∈ rows ↔ text ∈ samples ∧ samples.count text = count
  descending : rows.Pairwise fun a b =>
    b.count < a.count ∨ a.count = b.count ∧ utf8Bytes a.text < utf8Bytes b.text

theorem before_iff {a b : Frequency} :
    before a b = true ↔ b.count < a.count ∨ a.count = b.count ∧ a.text ≤ b.text := by
  simp [before]

theorem before_trans (a b c : Frequency) (hab : before a b = true) (hbc : before b c = true) :
    before a c = true := by
  rw [before_iff] at hab hbc ⊢
  rcases hab with hab | ⟨hab, htext⟩
  · left
    omega
  · rcases hbc with hbc | ⟨hbc, htext'⟩
    · left
      omega
    · exact .inr ⟨hab.trans hbc, String.le_trans htext htext'⟩

theorem before_total (a b : Frequency) : (before a b || before b a) = true := by
  rw [Bool.or_eq_true, before_iff, before_iff]
  rcases Nat.lt_trichotomy a.count b.count with hlt | heq | hgt
  · exact .inr (.inl hlt)
  · rcases String.le_total a.text b.text with hle | hle
    · exact .inl (.inr ⟨heq, hle⟩)
    · exact .inr (.inr ⟨heq.symm, hle⟩)
  · exact .inl (.inl hgt)

theorem perm_ranking (counts : Table Nat) :
    (ranking counts).Perm (counts.entries.map fun e => ⟨e.1, e.2⟩) :=
  List.mergeSort_perm _ _

theorem mem_ranking_iff {text : String} {count : Nat} :
    ⟨text, count⟩ ∈ ranking counts ↔ counts.get? text = some count := by
  rw [(perm_ranking counts).mem_iff, Table.get?_eq_some_iff]
  simp

theorem map_text_ranking (counts : Table Nat) :
    ((ranking counts).map (·.text)).Perm counts.keys := by
  have hkeys : (counts.entries.map fun e => Frequency.mk e.1 e.2).map (·.text) = counts.keys := by
    rw [List.map_map]
    rfl
  rw [← hkeys]
  exact (perm_ranking counts).map _

theorem length_ranking (counts : Table Nat) : (ranking counts).length = counts.size := by
  rw [(perm_ranking counts).length_eq, List.length_map]
  rfl

theorem ranks_ranking (h : HasCounted counts samples) : Ranks (ranking counts) samples := by
  have hnodup : ((ranking counts).map (·.text)).Nodup :=
    ((map_text_ranking counts).nodup_iff).mpr counts.nodup_keys
  refine ⟨hnodup, fun text count => mem_ranking_iff.trans (h text count), ?_⟩
  have hsorted := List.pairwise_mergeSort before_trans before_total
    (counts.entries.map fun e => (⟨e.1, e.2⟩ : Frequency))
  have hdistinct := List.pairwise_map.mp hnodup
  refine (hsorted.and hdistinct).imp ?_
  rintro a b ⟨hbefore, hne⟩
  rcases before_iff.mp hbefore with hlt | ⟨heq, hle⟩
  · exact .inl hlt
  · refine .inr ⟨heq, utf8Bytes_lt_iff.mpr ?_⟩
    exact Table.lt_of_not_lt_of_ne (String.not_lt.mpr hle) hne.symm

namespace Ranks

variable {rows others : List Frequency}

theorem perm_dedup (h : Ranks rows samples) : (rows.map (·.text)).Perm samples.dedup := by
  apply (List.perm_ext_iff_of_nodup h.texts_nodup samples.nodup_dedup).mpr
  intro text
  rw [List.mem_dedup, List.mem_map]
  constructor
  · rintro ⟨⟨text, count⟩, hmem, rfl⟩
    exact ((h.mem_iff text count).mp hmem).1
  · intro hmem
    exact ⟨⟨text, samples.count text⟩, (h.mem_iff _ _).mpr ⟨hmem, rfl⟩, rfl⟩

theorem map_count (h : Ranks rows samples) :
    rows.map (·.count) = (rows.map (·.text)).map samples.count := by
  rw [List.map_map]
  apply List.map_congr_left
  rintro ⟨text, count⟩ hmem
  exact ((h.mem_iff text count).mp hmem).2.symm

theorem sum_count (h : Ranks rows samples) : (rows.map (·.count)).sum = samples.length := by
  rw [h.map_count, (h.perm_dedup.map samples.count).sum_eq]
  exact samples.sum_map_count_dedup_eq_length

theorem length_eq (h : Ranks rows samples) : rows.length = samples.toFinset.card := by
  rw [List.card_toFinset, ← h.perm_dedup.length_eq, List.length_map]

/-- There is only one ranking. -/
theorem unique (h : Ranks rows samples) (h' : Ranks others samples) : rows = others := by
  have hperm : rows.Perm others := by
    apply (List.perm_ext_iff_of_nodup h.texts_nodup.of_map h'.texts_nodup.of_map).mpr
    rintro ⟨text, count⟩
    rw [h.mem_iff, h'.mem_iff]
  refine hperm.eq_of_pairwise ?_ h.descending h'.descending
  rintro a b - - (hab | ⟨hab, htext⟩) (hba | ⟨hba, htext'⟩)
  · omega
  · omega
  · omega
  · exact absurd htext' (List.lt_asymm htext)

end Ranks

end Frequency

/-- The report on samples counts them and their distinct texts, and its lines show the ranking of
the samples. Each distinct sample has one line, from which its number of occurrences can be read and
the sample itself, which stands there quoted. These numbers add up to that of the samples. -/
theorem varietyReport_ranked (samples : List String) :
    ∃ (rows : List Frequency) (lines : List String),
      varietyReport samples = ["", "=== Variety ===", "",
          toString samples.length ++ " samples, " ++ toString rows.length ++ " distinct outputs"] ++
        lines ∧
      (lines = rows.map fun f => flushRight 6 (toString f.count) ++ " " ++
        flushRight 5 (oneDecimal (Frequency.percent f.count samples.length)) ++ "%  " ++
          quote f.text) ∧
      lines.map Frequency.ofRow? = rows.map some ∧
      (∀ others, Frequency.Ranks others samples ↔ others = rows) ∧
      (rows.map (·.count)).sum = samples.length ∧
      rows.length = samples.toFinset.card := by
  have hranks := Frequency.ranks_ranking (hasCounted_tally samples)
  let rows := Frequency.ranking (tally samples)
  refine ⟨rows, rows.map (Frequency.row samples.length), ?_, rfl, ?_, fun others => ⟨?_, ?_⟩,
    hranks.sum_count, hranks.length_eq⟩
  · rw [Frequency.length_ranking]
    rfl
  · rw [List.map_map]
    apply List.map_congr_left
    intro f _
    exact Frequency.ofRow?_row samples.length f
  · intro hothers
    exact hothers.unique hranks
  · rintro rfl
    exact hranks

end SlotPattern
