import Mathlib.Data.List.Forall2
import Mathlib.Logic.Relation
import SlotPattern.Proofs.FirstOccurrences
import SlotPattern.Proofs.Meaning

/-!
# Groups are shorthand

An option with several values stands for one option a value, all with its constraint, and an option
that requires one of several sources stands for one option a source. Written out or not, a slot has
the same candidates in the same order, so patterns that differ in this way resolve alike. Exclusions
are no shorthand: an option that excludes several sources is not eligible after one of them, but its
copy for another source would be.
-/

namespace SlotPattern

/-! ### Options written out -/

namespace SlotOption

/-- One option for each value, with the constraint of all. -/
def perValue (o : SlotOption) : List SlotOption :=
  o.values.map fun v => ⟨[v], o.constraint⟩

/-- One option for each of the sources that are required, if there are any. -/
def perSource (o : SlotOption) : List SlotOption :=
  match o.constraint with
  | .requires (n :: names) => (n :: names).map fun source => ⟨o.values, .requires [source]⟩
  | _ => [o]

end SlotOption

/-- The slot with each option written out, value by value and source by source. -/
def Slot.writtenOut (s : Slot) : Slot :=
  ⟨(s.options.flatMap SlotOption.perValue).flatMap SlotOption.perSource⟩

/-- The second row of options is the first one with some of the options written out. -/
inductive OptionsWrittenOut : List SlotOption → List SlotOption → Prop
  | nil : OptionsWrittenOut [] []
  | keep (o : SlotOption) {os os' : List SlotOption} (rest : OptionsWrittenOut os os') :
      OptionsWrittenOut (o :: os) (o :: os')
  | perValue (o : SlotOption) {os os' : List SlotOption} (rest : OptionsWrittenOut os os') :
      OptionsWrittenOut (o :: os) (o.perValue ++ os')
  | perSource (o : SlotOption) {os os' : List SlotOption} (rest : OptionsWrittenOut os os') :
      OptionsWrittenOut (o :: os) (o.perSource ++ os')

/-- One slot becomes the other if options are written out, or drawn together again, step by step. -/
def Slot.Reworded : Slot → Slot → Prop :=
  Relation.EqvGen fun s t => OptionsWrittenOut s.options t.options

/-- The same text, or slots of which one is the other reworded. -/
inductive Segment.Reworded : Segment → Segment → Prop
  | literal (text : String) : Reworded (.literal text) (.literal text)
  | slot {s t : Slot} (h : s.Reworded t) : Reworded (.slot s) (.slot t)

/-- The patterns differ only in how their slots are worded. -/
def Pattern.Reworded (p q : Pattern) : Prop :=
  List.Forall₂ Segment.Reworded p.segments q.segments

theorem optionsWrittenOut_perValue (os : List SlotOption) :
    OptionsWrittenOut os (os.flatMap SlotOption.perValue) := by
  induction os with
  | nil => exact .nil
  | cons o os ih => exact .perValue o ih

theorem optionsWrittenOut_perSource (os : List SlotOption) :
    OptionsWrittenOut os (os.flatMap SlotOption.perSource) := by
  induction os with
  | nil => exact .nil
  | cons o os ih => exact .perSource o ih

theorem Slot.reworded_writtenOut (s : Slot) : s.Reworded s.writtenOut := by
  have hvalues : s.Reworded ⟨s.options.flatMap SlotOption.perValue⟩ :=
    .rel _ _ (optionsWrittenOut_perValue s.options)
  exact hvalues.trans _ _ _ (.rel _ _ (optionsWrittenOut_perSource _))

/-! ### Candidates -/

/-- The values that the option adds to the candidates: all of them or none. -/
def SlotOption.offered (o : SlotOption) (h : History) (lookback : Lookback) : List Value :=
  if o.constraint.isEligible h lookback = true then o.values else []

section Candidates

variable {h : History} {lookback : Lookback} {o : SlotOption}

theorem offered_of_holds (hc : o.constraint.Holds (h.visible lookback)) :
    o.offered h lookback = o.values :=
  if_pos (Constraint.isEligible_iff_holds.mpr hc)

theorem offered_of_not_holds (hc : ¬o.constraint.Holds (h.visible lookback)) :
    o.offered h lookback = [] :=
  if_neg (mt Constraint.isEligible_iff_holds.mp hc)

theorem Slot.candidates_eq_eraseDups (s : Slot) : s.candidates h lookback =
    (s.options.flatMap fun o => o.offered h lookback).eraseDups := by
  have hvalues (os : List SlotOption) :
      (os.filter fun o => o.constraint.isEligible h lookback).flatMap (·.values) =
        os.flatMap fun o => o.offered h lookback := by
    induction os with
    | nil => rfl
    | cons o os ih =>
      rw [List.flatMap_cons, ← ih, SlotOption.offered, List.filter_cons]
      split <;> rfl
  rw [candidates, eligible, hvalues]

theorem flatMap_offered_perValue (o : SlotOption) :
    (o.perValue.flatMap fun o => o.offered h lookback) = o.offered h lookback := by
  rw [SlotOption.perValue, List.flatMap_map]
  by_cases hc : o.constraint.Holds (h.visible lookback)
  · have heach (v : Value) : (⟨[v], o.constraint⟩ : SlotOption).offered h lookback = [v] :=
      offered_of_holds hc
    simp only [heach, offered_of_holds hc]
    exact List.flatMap_singleton' o.values
  · have heach (v : Value) : (⟨[v], o.constraint⟩ : SlotOption).offered h lookback = [] :=
      offered_of_not_holds hc
    simp only [heach, offered_of_not_holds hc]
    exact List.flatMap_eq_nil_iff.mpr fun _ _ => rfl

theorem offered_subset (o : SlotOption) : o.offered h lookback ⊆ o.values := by
  rw [SlotOption.offered]
  split
  · exact List.Subset.refl _
  · exact List.nil_subset _

/-- One of the sources suffices: the copy for a source that is seen offers all values, and leaves
nothing new to the copies behind it. -/
theorem eraseDups_flatMap_requires (values : List Value) (names : List String) :
    (names.flatMap fun n =>
        (⟨values, .requires [n]⟩ : SlotOption).offered h lookback).eraseDups =
      ((⟨values, .requires names⟩ : SlotOption).offered h lookback).eraseDups := by
  induction names with
  | nil => rfl
  | cons n names ih =>
    rw [List.flatMap_cons]
    by_cases hn : n ∈ h.visible lookback
    · have hcopy : (⟨values, .requires [n]⟩ : SlotOption).offered h lookback = values :=
        offered_of_holds ⟨n, List.mem_cons_self, hn⟩
      have hall : (⟨values, .requires (n :: names)⟩ : SlotOption).offered h lookback = values :=
        offered_of_holds ⟨n, List.mem_cons_self, hn⟩
      rw [hcopy, hall]
      apply eraseDups_append_of_subset
      intro v hv
      obtain ⟨source, -, hv⟩ := List.mem_flatMap.mp hv
      exact offered_subset _ hv
    · have hcopy : (⟨values, .requires [n]⟩ : SlotOption).offered h lookback = [] :=
        offered_of_not_holds (by simpa [Constraint.Holds] using hn)
      have hall : (⟨values, .requires (n :: names)⟩ : SlotOption).offered h lookback =
          (⟨values, .requires names⟩ : SlotOption).offered h lookback := by
        simp [SlotOption.offered, Constraint.isEligible_iff_holds, Constraint.Holds, hn]
      rw [hcopy, hall, List.nil_append, ih]

theorem eraseDups_flatMap_perSource (o : SlotOption) :
    (o.perSource.flatMap fun o => o.offered h lookback).eraseDups =
      (o.offered h lookback).eraseDups := by
  obtain ⟨values, constraint⟩ := o
  rw [SlotOption.perSource]
  split
  next n names hc =>
    obtain rfl : constraint = .requires (n :: names) := hc
    rw [List.flatMap_map]
    exact eraseDups_flatMap_requires values (n :: names)
  next => rw [List.flatMap_singleton]

theorem OptionsWrittenOut.eraseDups_flatMap_eq {os os' : List SlotOption}
    (hos : OptionsWrittenOut os os') :
    (os.flatMap fun o => o.offered h lookback).eraseDups =
      (os'.flatMap fun o => o.offered h lookback).eraseDups := by
  induction hos with
  | nil => rfl
  | keep o _ ih => exact eraseDups_append_congr rfl ih
  | perValue o _ ih =>
    rw [List.flatMap_cons, List.flatMap_append, flatMap_offered_perValue]
    exact eraseDups_append_congr rfl ih
  | perSource o _ ih =>
    rw [List.flatMap_cons, List.flatMap_append]
    exact eraseDups_append_congr (eraseDups_flatMap_perSource o).symm ih

theorem Slot.Reworded.candidates_eq {s t : Slot} (hst : s.Reworded t) :
    s.candidates h lookback = t.candidates h lookback := by
  induction hst with
  | rel s t hos =>
    rw [Slot.candidates_eq_eraseDups, Slot.candidates_eq_eraseDups, hos.eraseDups_flatMap_eq]
  | refl s => rfl
  | symm s t _ ih => exact ih.symm
  | trans s t u _ _ ihs iht => exact ihs.trans iht

end Candidates

/-! ### Runs -/

theorem resolveFrom_reworded {segments segments' : List Segment}
    (hsegments : List.Forall₂ Segment.Reworded segments segments') (lookback : Lookback)
    (h : History) (w : Words) :
    resolveFrom lookback segments h w = resolveFrom lookback segments' h w := by
  induction hsegments generalizing h w with
  | nil => rfl
  | cons hsegment _ ih =>
    cases hsegment with
    | literal text => rw [resolveFrom_literal, resolveFrom_literal, ih]
    | slot hst => exact resolveFrom_slot_congr hst.candidates_eq (fun v _ w => ih _ w) (ih h)

namespace Pattern

/-- Writing groups out, or drawing options together, leaves the candidates of every slot as they
are, in their order, and so the pieces of every run and the words that it uses. -/
theorem resolve_reworded :
    (∀ s : Slot, s.Reworded s.writtenOut) ∧
      (∀ s t : Slot, s.Reworded t →
        ∀ h lookback, s.candidates h lookback = t.candidates h lookback) ∧
      ∀ p q : Pattern, p.Reworded q → ∀ lookback w, p.resolve lookback w = q.resolve lookback w :=
  ⟨Slot.reworded_writtenOut, fun _ _ hst _ _ => hst.candidates_eq,
    fun _ _ hpq lookback w => resolveFrom_reworded hpq lookback .empty w⟩

/-- The second slot of the one pattern is that of the other written out: after `b`, which only the
second copies of the requirement look for, `c` comes before `d` in both. -/
theorem resolve_reworded_requirement :
    ∃ p q s, compile "\x7ba|b\x7d-\x7b(a|b)>(c|d)|x~(e|c)\x7d" = .ok p ∧
      compile "\x7ba|b\x7d-\x7ba>c|b>c|a>d|b>d|x~e|x~c\x7d" = .ok q ∧ p.slots[1]? = some s ∧
      q.slots[1]? = some s.writtenOut ∧
      s.candidates (History.empty.record "b") .previousSlot =
        [.name "c", .name "d", .name "e"] ∧
      s.candidates (History.empty.record "b") .previousSlot =
        s.writtenOut.candidates (History.empty.record "b") .previousSlot ∧
      ∀ lookback w, p.resolve lookback w = q.resolve lookback w := by
  let first : Slot := ⟨[⟨[.name "a"], .unconstrained⟩, ⟨[.name "b"], .unconstrained⟩]⟩
  let s : Slot := ⟨[⟨[.name "c", .name "d"], .requires ["a", "b"]⟩,
    ⟨[.name "e", .name "c"], .excludes ["x"]⟩]⟩
  let p : Pattern := ⟨[.slot first, .literal "-", .slot s]⟩
  let q : Pattern := ⟨[.slot first, .literal "-", .slot s.writtenOut]⟩
  have hp : compile "\x7ba|b\x7d-\x7b(a|b)>(c|d)|x~(e|c)\x7d" = .ok p := by decide +kernel
  have hq : compile "\x7ba|b\x7d-\x7ba>c|b>c|a>d|b>d|x~e|x~c\x7d" = .ok q := by decide +kernel
  obtain ⟨hwritten, hslots, hruns⟩ := resolve_reworded
  have hpq : p.Reworded q :=
    .cons (.slot (.refl first)) (.cons (.literal "-") (.cons (.slot (hwritten s)) .nil))
  exact ⟨p, q, s, hp, hq, rfl, rfl, by decide, hslots s _ (hwritten s) _ _, hruns p q hpq⟩

/-- An exclusion of two sources is not the same as two exclusions. -/
example :
    (⟨[⟨[.name "c"], .excludes ["a", "b"]⟩]⟩ : Slot).candidates (History.empty.record "a")
        .history = [] ∧
      (⟨[⟨[.name "c"], .excludes ["a"]⟩, ⟨[.name "c"], .excludes ["b"]⟩]⟩ : Slot).candidates
        (History.empty.record "a") .history = [.name "c"] := by
  decide

end Pattern

end SlotPattern
