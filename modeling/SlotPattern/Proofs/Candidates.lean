import Mathlib.Data.List.Perm.Subperm
import SlotPattern.Proofs.WellFormed
import SlotPattern.Resolution.History

/-!
# The candidates of a slot

A constraint holds or fails on the names that it sees. The candidates of a slot are the values of
the options whose constraint holds, so a slot of a compiled pattern has none only if no option is
eligible. There are at most as many as the text of the pattern has characters.
-/

namespace SlotPattern

open Grammar Name

/-! ### Constraints and the names that they see -/

/-- Does the constraint hold, if these are the names that it sees? -/
def Constraint.Holds (c : Constraint) (seen : List String) : Prop :=
  match c with
  | .unconstrained => True
  | .requires names => ∃ n ∈ names, n ∈ seen
  | .excludes names => ∀ n ∈ names, n ∉ seen

theorem Constraint.isEligible_iff_holds {c : Constraint} {h : History} {lookback : Lookback} :
    c.isEligible h lookback = true ↔ c.Holds (h.visible lookback) := by
  have hany (names : List String) :
      h.containsAny lookback names = true ↔ ∃ n ∈ names, n ∈ h.visible lookback := by
    simp only [History.containsAny, List.any_eq_true, History.contains_iff_mem_visible]
  cases c with
  | unconstrained => exact iff_of_true rfl trivial
  | requires names => exact hany names
  | excludes names =>
    rw [isEligible, Bool.not_eq_true', ← Bool.not_eq_true, hany]
    simp [Holds]

namespace Slot

variable {s : Slot} {h : History} {lookback : Lookback}

theorem mem_candidates_iff_holds {v : Value} : v ∈ s.candidates h lookback ↔
    ∃ o ∈ s.options, o.constraint.Holds (h.visible lookback) ∧ v ∈ o.values := by
  simp only [mem_candidates, Constraint.isEligible_iff_holds]

theorem candidates_eq_nil_iff (hs : s.WellFormed) : s.candidates h lookback = [] ↔
    ∀ o ∈ s.options, ¬o.constraint.Holds (h.visible lookback) := by
  constructor
  · intro hnil o ho hc
    obtain ⟨v, hv⟩ := List.exists_mem_of_ne_nil _ (hs.options o ho).values_ne_nil
    have hmem : v ∈ s.candidates h lookback := mem_candidates_iff_holds.mpr ⟨o, ho, hc, hv⟩
    rw [hnil] at hmem
    cases hmem
  · intro hnone
    rw [List.eq_nil_iff_forall_not_mem]
    intro v hv
    obtain ⟨o, ho, hc, -⟩ := mem_candidates_iff_holds.mp hv
    exact hnone o ho hc

theorem nodup_candidates : (s.candidates h lookback).Nodup :=
  nodup_eraseDups _

theorem length_candidates_le : (s.candidates h lookback).length ≤ s.values.length := by
  have hsubset : s.candidates h lookback ⊆ s.values := by
    intro v hv
    obtain ⟨o, ho, -, hv⟩ := mem_candidates_iff_holds.mp hv
    exact List.mem_flatMap.mpr ⟨o, ho, hv⟩
  exact (nodup_candidates.subperm hsubset).length_le

end Slot

/-! ### A text has a character for every value -/

theorem length_flatMap_le_of_alternativesText {α β : Type} {R : List Char → α → Prop}
    {parts : α → List β} (hR : ∀ {cs a}, R cs a → (parts a).length ≤ cs.length) {cs : List Char}
    {as : List α} (h : AlternativesText R cs as) : (as.flatMap parts).length ≤ cs.length := by
  induction h with
  | one h =>
    rw [List.flatMap_singleton]
    exact hR h
  | more h _ ih =>
    have hhead := hR h
    rw [List.flatMap_cons]
    simp only [List.length_append, List.length_cons]
    omega

theorem length_singleton_le_of_memberText {cs : List Char} {v : Value} (h : MemberText cs v) :
    [v].length ≤ cs.length := by
  cases h with
  | name h => exact List.length_pos_iff.mpr h.ne_nil
  | nothing => exact Nat.le_refl 1

theorem length_le_of_atomText {cs : List Char} {vs : List Value} (h : AtomText cs vs) :
    vs.length ≤ cs.length := by
  cases h with
  | member h => exact length_singleton_le_of_memberText h
  | @group cs vs h =>
    have hsubset : vs.eraseDups ⊆ vs := fun _ hv => List.mem_eraseDups.mp hv
    have hdistinct := ((nodup_eraseDups vs).subperm hsubset).length_le
    have hmembers := length_flatMap_le_of_alternativesText (R := MemberText)
      length_singleton_le_of_memberText h
    rw [List.flatMap_singleton'] at hmembers
    simp only [List.length_cons, List.length_append]
    omega

theorem length_le_of_optionText {first : Bool} {cs : List Char} {o : SlotOption}
    (h : OptionText first cs o) : o.values.length ≤ cs.length := by
  cases h with
  | unconstrained h => exact length_le_of_atomText h
  | constrained op _ target =>
    have htarget := length_le_of_atomText target
    simp only [List.length_append, List.length_cons]
    omega

theorem length_values_le_of_bodyText {first : Bool} {cs : List Char} {os : List SlotOption}
    (h : BodyText first cs os) : (⟨os⟩ : Slot).values.length ≤ cs.length :=
  length_flatMap_le_of_alternativesText (R := OptionText first) length_le_of_optionText h

theorem length_values_le_of_patternText {first : Bool} {cs : List Char} {items : List Item}
    (h : PatternText first cs items) : ∀ s, .slot s ∈ items → s.values.length ≤ cs.length := by
  induction h with
  | nil => simp
  | plain _ _ ih | escaped _ _ ih =>
    intro s hs
    have hle := ih s (by simpa using hs)
    simp only [List.length_cons]
    omega
  | slot hbody _ ih =>
    intro s hs
    simp only [List.length_cons, List.length_append]
    rcases List.mem_cons.mp hs with hs | hs
    · obtain rfl := Item.slot.inj hs
      have hle := length_values_le_of_bodyText hbody
      omega
    · have hle := ih s hs
      omega

theorem Pattern.length_values_le_of_compile {s : String} {p : Pattern} (h : compile s = .ok p) :
    ∀ slot, .slot slot ∈ p.segments → slot.values.length ≤ s.length := by
  intro slot hslot
  rw [← String.length_toList]
  exact length_values_le_of_patternText (compile_eq_ok_iff.mp h).1 slot (slot_mem_items hslot)

end SlotPattern
