import Mathlib.Data.List.Nodup

/-!
# First occurrences

A list without its repetitions keeps the first occurrence of each of its members, in their order.
The repetitions of a list may be dropped before or after other things are done with it.
-/

namespace SlotPattern

/-- An induction for functions that go on with some members of the rest of a list. -/
@[elab_as_elim]
theorem filter_induction {α : Type} {motive : List α → Prop} (nil : motive [])
    (cons : ∀ a as, (∀ p : α → Bool, motive (as.filter p)) → motive (a :: as)) (as : List α) :
    motive as := by
  induction hlen : as.length using Nat.strongRecOn generalizing as with
  | ind n ih =>
    cases as with
    | nil => exact nil
    | cons a as =>
      apply cons
      intro p
      apply ih _ _ _ rfl
      rw [← hlen]
      exact Nat.lt_add_one_of_le (List.length_filter_le p as)

theorem eraseDups_sublist {α : Type} [BEq α] (as : List α) : as.eraseDups.Sublist as := by
  induction as using filter_induction with
  | nil => exact List.Sublist.refl []
  | cons a as ih =>
    rw [List.eraseDups_cons]
    exact ((ih _).trans List.filter_sublist).cons_cons a

variable {α β : Type} [BEq α] [LawfulBEq α] [BEq β] [LawfulBEq β] {as as' bs bs' : List α}

theorem nodup_eraseDups (as : List α) : as.eraseDups.Nodup := by
  induction as using filter_induction with
  | nil => exact List.nodup_nil
  | cons a as ih =>
    rw [List.eraseDups_cons, List.nodup_cons]
    exact ⟨by simp, ih _⟩

theorem eraseDups_of_nodup (h : as.Nodup) : as.eraseDups = as := by
  induction as with
  | nil => rfl
  | cons a as ih =>
    obtain ⟨ha, has⟩ := List.nodup_cons.mp h
    have hfilter : as.filter (fun b => !b == a) = as :=
      List.filter_eq_self.mpr fun b hb => by
        have hne : b ≠ a := fun heq => ha (heq ▸ hb)
        simpa using hne
    rw [List.eraseDups_cons, hfilter, ih has]

theorem find?_eraseDups (p : α → Bool) (as : List α) : as.eraseDups.find? p = as.find? p := by
  induction as using filter_induction with
  | nil => rfl
  | cons a as ih =>
    rw [List.eraseDups_cons, List.find?_cons, List.find?_cons, ih, List.find?_filter]
    cases hp : p a with
    | true => rfl
    | false =>
      -- The element that is not found has no repetition that is found.
      refine congrArg (List.find? · as) (funext fun b => ?_)
      by_cases hb : b = a
      · subst hb
        simp [hp]
      · simp [hb]

theorem eraseDups_filter (p : α → Bool) (as : List α) :
    (as.filter p).eraseDups = as.eraseDups.filter p := by
  induction as using filter_induction with
  | nil => rfl
  | cons a as ih =>
    rw [List.eraseDups_cons]
    by_cases hp : p a = true
    · rw [List.filter_cons_of_pos hp, List.filter_cons_of_pos hp, List.eraseDups_cons, ← ih,
        List.filter_comm]
    · have hother : ∀ b ∈ as, (p b && !b == a) = p b := by
        intro b _
        by_cases hb : b = a
        · simp [hb, hp]
        · simp [hb]
      rw [List.filter_cons_of_neg hp, List.filter_cons_of_neg hp, ← ih, List.filter_filter,
        List.filter_congr hother]

/-- The first occurrences in the parts of a list determine those in the list. -/
theorem eraseDups_append_congr (hfront : as.eraseDups = as'.eraseDups)
    (hback : bs.eraseDups = bs'.eraseDups) : (as ++ bs).eraseDups = (as' ++ bs').eraseDups := by
  have hmem : ∀ b, as.elem b = as'.elem b := by
    intro b
    rw [Bool.eq_iff_iff, List.elem_iff, List.elem_iff, ← List.mem_eraseDups, hfront,
      List.mem_eraseDups]
  rw [List.eraseDups_append, List.eraseDups_append, List.removeAll, List.removeAll,
    eraseDups_filter, eraseDups_filter, hfront, hback]
  simp only [hmem]

theorem eraseDups_append_of_subset (h : bs ⊆ as) : (as ++ bs).eraseDups = as.eraseDups := by
  have hnone : bs.removeAll as = [] := by
    rw [List.removeAll, List.filter_eq_nil_iff]
    intro b hb
    simpa using h hb
  rw [List.eraseDups_append, hnone]
  simp

/-- Repetitions may be dropped before a function is applied, if they are dropped afterwards. -/
theorem eraseDups_map_eraseDups (f : α → β) (as : List α) :
    (as.eraseDups.map f).eraseDups = (as.map f).eraseDups := by
  induction as using filter_induction with
  | nil => rfl
  | cons a as ih =>
    -- Behind `a` both sides keep the members on which the function has another value.
    have hother : ∀ b ∈ as, ((!f b == f a) && !b == a) = !f b == f a := by
      intro b _
      by_cases hb : b = a <;> simp [hb]
    have hrest : (as.filter fun b => !b == a).eraseDups.filter (fun b => !f b == f a) =
        (as.filter fun b => !f b == f a).eraseDups := by
      rw [← eraseDups_filter, List.filter_filter, List.filter_congr hother]
    rw [List.eraseDups_cons, List.map_cons, List.map_cons, List.eraseDups_cons,
      List.eraseDups_cons, List.filter_map, List.filter_map]
    simp only [Function.comp_def]
    rw [hrest, ih]

/-! ### The order of first occurrences -/

/-- A filter keeps the order in which members come first. -/
theorem idxOf_filter_lt_iff {p : α → Bool} {a b : α} (ha : p a = true) (hb : p b = true) :
    (as.filter p).idxOf a < (as.filter p).idxOf b ↔ as.idxOf a < as.idxOf b := by
  induction as with
  | nil => simp
  | cons c as ih =>
    by_cases hc : p c = true
    · rw [List.filter_cons_of_pos hc]
      by_cases hca : c = a
      · by_cases hcb : c = b <;> simp [← hca, hcb]
      · by_cases hcb : c = b <;> simp [List.idxOf_cons, hca, hcb, ih]
    · have hca : c ≠ a := by
        rintro rfl
        exact hc ha
      have hcb : c ≠ b := by
        rintro rfl
        exact hc hb
      simp [List.filter_cons_of_neg hc, hca, hcb, ih]

/-- The list has the members of `all`, each of them once, in the order in which they come first. -/
structure FirstOccurrences (all listed : List α) : Prop where
  mem_iff : ∀ a, a ∈ listed ↔ a ∈ all
  ordered : listed.Pairwise fun a b => all.idxOf a < all.idxOf b

theorem firstOccurrences_eraseDups (as : List α) : FirstOccurrences as as.eraseDups := by
  refine ⟨fun a => List.mem_eraseDups, ?_⟩
  induction as using filter_induction with
  | nil => exact .nil
  | cons a as ih =>
    rw [List.eraseDups_cons, List.pairwise_cons]
    have hne {b : α} (hb : b ∈ (as.filter fun b => !b == a).eraseDups) : b ≠ a := by
      have hfilter := (List.mem_filter.mp (List.mem_eraseDups.mp hb)).2
      simpa using hfilter
    constructor
    · intro b hb
      simp [(hne hb).symm]
    · apply (ih fun b => !b == a).imp_of_mem
      intro b c hb hc hlt
      rw [idxOf_filter_lt_iff (by simpa using hne hb) (by simpa using hne hc)] at hlt
      simpa [List.idxOf_cons, (hne hb).symm, (hne hc).symm] using hlt

end SlotPattern
