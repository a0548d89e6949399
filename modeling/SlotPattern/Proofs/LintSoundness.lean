import SlotPattern.Lint
import SlotPattern.Proofs.Meaning

/-!
# Warnings about constraints are sound

The linter warns about an option when none of its sources is a value of an earlier slot. No run ever
sees another name, so the constraint of such an option comes out the same in every run. Taking the
option out, or taking its constraint away, changes nothing about what the pattern resolves to.
-/

namespace SlotPattern

/-! ### Acting on warnings -/

/-- Options of slot `i`, and what is left of them when some of the warnings have been acted on: an
option that is never eligible may be removed, and one that is always eligible may be freed of its
constraint. -/
inductive OptionsTidied (warnings : List Warning) (i : Nat) :
    List SlotOption → List SlotOption → Prop
  | nil : OptionsTidied warnings i [] []
  | keep {o : SlotOption} {os os' : List SlotOption} (rest : OptionsTidied warnings i os os') :
      OptionsTidied warnings i (o :: os) (o :: os')
  | remove {o : SlotOption} {os os' : List SlotOption} (h : .neverEligible i o ∈ warnings)
      (rest : OptionsTidied warnings i os os') : OptionsTidied warnings i (o :: os) os'
  | free {o : SlotOption} {os os' : List SlotOption} (h : .alwaysEligible i o ∈ warnings)
      (rest : OptionsTidied warnings i os os') :
      OptionsTidied warnings i (o :: os) (⟨o.values, .unconstrained⟩ :: os')

/-- The same for segments, the first slot of which has number `i`. -/
inductive SegmentsTidied (warnings : List Warning) : Nat → List Segment → List Segment → Prop
  | nil {i : Nat} : SegmentsTidied warnings i [] []
  | literal {i : Nat} {text : String} {segments segments' : List Segment}
      (rest : SegmentsTidied warnings i segments segments') :
      SegmentsTidied warnings i (.literal text :: segments) (.literal text :: segments')
  | slot {i : Nat} {os os' : List SlotOption} {segments segments' : List Segment}
      (h : OptionsTidied warnings i os os')
      (rest : SegmentsTidied warnings (i + 1) segments segments') :
      SegmentsTidied warnings i (.slot ⟨os⟩ :: segments) (.slot ⟨os'⟩ :: segments')

/-- Some of the warnings about `p` have been acted on, which has made it `q`. -/
def Pattern.Tidied (p q : Pattern) : Prop :=
  SegmentsTidied p.lint 0 p.segments q.segments

/-! ### What a warning says -/

/-- The number of the slot that a warning is about. -/
def Warning.slot? : Warning → Option Nat
  | .noSlots => none
  | .rendersNothing i => some i
  | .mayRenderNothing i => some i
  | .neverEligible i _ => some i
  | .alwaysEligible i _ => some i

section Lint

variable {i : Nat} {earlier : List String} {s : Slot} {o : SlotOption} {w : Warning}

theorem SlotOption.lint_eq_some (h : o.lint i earlier = some w) :
    (∀ n ∈ o.constraint.sources, n ∉ earlier) ∧
      ((w = .neverEligible i o ∧ ∃ names, o.constraint = .requires names) ∨
        (w = .alwaysEligible i o ∧ ∃ names, o.constraint = .excludes names)) := by
  rw [lint] at h
  split at h
  · cases h
  next hnone =>
    refine ⟨by simpa using hnone, ?_⟩
    cases hc : o.constraint with
    | unconstrained => simp [hc] at h
    | requires names =>
      simp only [hc, Option.some.injEq] at h
      exact .inl ⟨h.symm, names, rfl⟩
    | excludes names =>
      simp only [hc, Option.some.injEq] at h
      exact .inr ⟨h.symm, names, rfl⟩

theorem Slot.lint_eq_some (h : s.lint i = some w) :
    w = .rendersNothing i ∨ w = .mayRenderNothing i := by
  rw [lint] at h
  split at h
  · exact .inl (Option.some.inj h).symm
  · split at h
    · exact .inr (Option.some.inj h).symm
    · cases h

theorem SlotOption.slot?_of_lint (h : o.lint i earlier = some w) : w.slot? = some i := by
  rcases (lint_eq_some h).2 with ⟨rfl, -⟩ | ⟨rfl, -⟩ <;> rfl

theorem Slot.slot?_of_lint (h : s.lint i = some w) : w.slot? = some i := by
  rcases lint_eq_some h with rfl | rfl <;> rfl

theorem mem_lintSlots_cons {slots : List Slot} : w ∈ lintSlots i earlier (s :: slots) ↔
    s.lint i = some w ∨ (∃ o ∈ s.options, o.lint i earlier = some w) ∨
      w ∈ lintSlots (i + 1) (earlier ++ s.names) slots := by
  simp [lintSlots]

theorem exists_slot?_of_mem_lintSlots {slots : List Slot} (h : w ∈ lintSlots i earlier slots) :
    ∃ k, w.slot? = some k ∧ i ≤ k := by
  induction slots generalizing i earlier with
  | nil => cases h
  | cons s slots ih =>
    rcases mem_lintSlots_cons.mp h with h | ⟨o, -, h⟩ | h
    · exact ⟨i, Slot.slot?_of_lint h, Nat.le_refl i⟩
    · exact ⟨i, SlotOption.slot?_of_lint h, Nat.le_refl i⟩
    · obtain ⟨k, hk, hle⟩ := ih h
      exact ⟨k, hk, Nat.le_of_succ_le hle⟩

/-- A warning about the first of some slots comes from that slot. -/
theorem lint_of_mem_lintSlots {slots : List Slot} (h : w ∈ lintSlots i earlier (s :: slots))
    (hw : w.slot? = some i) :
    s.lint i = some w ∨ ∃ o ∈ s.options, o.lint i earlier = some w := by
  rcases mem_lintSlots_cons.mp h with h | h | h
  · exact .inl h
  · exact .inr h
  · obtain ⟨k, hk, hle⟩ := exists_slot?_of_mem_lintSlots h
    rw [hw, Option.some.injEq] at hk
    omega

/-- A warning about a slot after the first comes from one of the slots after it. -/
theorem mem_lintSlots_tail {slots : List Slot} (h : w ∈ lintSlots i earlier (s :: slots)) {k : Nat}
    (hw : w.slot? = some k) (hlt : i < k) : w ∈ lintSlots (i + 1) (earlier ++ s.names) slots := by
  rcases mem_lintSlots_cons.mp h with h | ⟨o, -, h⟩ | h
  · rw [Slot.slot?_of_lint h, Option.some.injEq] at hw
    omega
  · rw [SlotOption.slot?_of_lint h, Option.some.injEq] at hw
    omega
  · exact h

/-! ### Warnings and the names that constraints see -/

/-- No constraint sees another name than those in `names`. -/
def History.Within (h : History) (names : List String) : Prop :=
  ∀ lookback, h.visible lookback ⊆ names

theorem History.empty_within (names : List String) : empty.Within names := by
  intro lookback
  rw [visible_empty]
  exact List.nil_subset names

/-- After a slot has drawn one of its values, constraints see its names as well. -/
theorem History.Within.record {h : History} (hw : h.Within earlier) {v : Value}
    (hv : v ∈ s.values) : (h.record v.name?).Within (earlier ++ s.names) := by
  have hchoice : v.name?.toList ⊆ earlier ++ s.names := by
    intro n hn
    rw [Option.mem_toList] at hn
    exact List.mem_append_right earlier (List.mem_filterMap.mpr ⟨v, hv, hn⟩)
  intro lookback
  cases lookback with
  | history =>
    rw [visible_history_record]
    exact List.append_subset.mpr ⟨hchoice, List.subset_append_of_subset_left _ (hw .history)⟩
  | previousSlot =>
    rw [visible_previousSlot_record]
    exact hchoice

theorem SlotOption.holds_or_not_of_lint (h : o.lint i earlier = some w) {seen : List String}
    (hseen : seen ⊆ earlier) :
    (w = .neverEligible i o ∧ ¬o.constraint.Holds seen) ∨
      (w = .alwaysEligible i o ∧ o.constraint.Holds seen) := by
  obtain ⟨hnone, ⟨rfl, names, hc⟩ | ⟨rfl, names, hc⟩⟩ := lint_eq_some h
  · rw [hc] at hnone ⊢
    refine .inl ⟨rfl, ?_⟩
    rintro ⟨n, hn, hsaw⟩
    exact hnone n hn (hseen hsaw)
  · rw [hc] at hnone ⊢
    refine .inr ⟨rfl, ?_⟩
    intro n hn hsaw
    exact hnone n hn (hseen hsaw)

/-- What the warnings say about the options of slot `i` is true, if constraints see the names
`seen`. -/
structure TrueAt (warnings : List Warning) (i : Nat) (seen : List String) : Prop where
  never : ∀ o, .neverEligible i o ∈ warnings → ¬o.constraint.Holds seen
  always : ∀ o, .alwaysEligible i o ∈ warnings → o.constraint.Holds seen

/-- The warnings about the slots from number `i` on are those that the linter gives to `slots`, if
the slots before have the names `earlier`. -/
def GivenAhead (warnings : List Warning) (i : Nat) (earlier : List String)
    (slots : List Slot) : Prop :=
  ∀ w ∈ warnings, ∀ k, w.slot? = some k → i ≤ k → w ∈ lintSlots i earlier slots

section GivenAhead

variable {warnings : List Warning} {slots : List Slot}

theorem GivenAhead.trueAt (hg : GivenAhead warnings i earlier (s :: slots)) {seen : List String}
    (hseen : seen ⊆ earlier) : TrueAt warnings i seen where
  never o hmem := by
    rcases lint_of_mem_lintSlots (hg _ hmem i rfl (Nat.le_refl i)) rfl with h | ⟨o', -, h⟩
    · rcases Slot.lint_eq_some h with h | h <;> cases h
    · rcases SlotOption.holds_or_not_of_lint h hseen with ⟨heq, hnever⟩ | ⟨heq, -⟩ <;> cases heq
      exact hnever
  always o hmem := by
    rcases lint_of_mem_lintSlots (hg _ hmem i rfl (Nat.le_refl i)) rfl with h | ⟨o', -, h⟩
    · rcases Slot.lint_eq_some h with h | h <;> cases h
    · rcases SlotOption.holds_or_not_of_lint h hseen with ⟨heq, -⟩ | ⟨heq, halways⟩ <;> cases heq
      exact halways

theorem GivenAhead.tail (hg : GivenAhead warnings i earlier (s :: slots)) :
    GivenAhead warnings (i + 1) (earlier ++ s.names) slots := by
  intro w hmem k hk hle
  exact mem_lintSlots_tail (hg w hmem k hk (Nat.le_of_succ_le hle)) hk hle

theorem GivenAhead.drop {more : List Slot} (hg : GivenAhead warnings i earlier (slots ++ more)) :
    GivenAhead warnings (i + slots.length) (earlier ++ slots.flatMap Slot.names) more := by
  induction slots generalizing i earlier with
  | nil => simpa using hg
  | cons s slots ih =>
    have hrest := ih hg.tail
    rw [List.append_assoc, ← List.flatMap_cons, Nat.add_assoc, Nat.add_comm 1] at hrest
    exact hrest

end GivenAhead

theorem Pattern.givenAhead_lint (p : Pattern) : GivenAhead p.lint 0 [] p.slots := by
  intro w hmem k hk _
  rw [lint, List.mem_append] at hmem
  rcases hmem with hmem | hmem
  · have hnone : w = .noSlots := by
      split at hmem
      · exact List.mem_singleton.mp hmem
      · cases hmem
    rw [hnone] at hk
    cases hk
  · exact hmem

end Lint

/-! ### Acting on warnings changes no run -/

namespace Slot

variable {o : SlotOption} {os : List SlotOption} {h : History} {lookback : Lookback}

theorem eligible_cons_of_holds (hc : o.constraint.Holds (h.visible lookback)) :
    (⟨o :: os⟩ : Slot).eligible h lookback = o :: (⟨os⟩ : Slot).eligible h lookback :=
  List.filter_cons_of_pos (Constraint.isEligible_iff_holds.mpr hc)

theorem eligible_cons_of_not_holds (hc : ¬o.constraint.Holds (h.visible lookback)) :
    (⟨o :: os⟩ : Slot).eligible h lookback = (⟨os⟩ : Slot).eligible h lookback :=
  List.filter_cons_of_neg (mt Constraint.isEligible_iff_holds.mp hc)

end Slot

section Run

variable {warnings : List Warning} {i : Nat} {lookback : Lookback} {h : History}

theorem OptionsTidied.candidates_eq {os os' : List SlotOption}
    (ht : OptionsTidied warnings i os os') (htrue : TrueAt warnings i (h.visible lookback)) :
    (⟨os'⟩ : Slot).candidates h lookback = (⟨os⟩ : Slot).candidates h lookback := by
  have hvalues : ((⟨os'⟩ : Slot).eligible h lookback).flatMap (·.values) =
      ((⟨os⟩ : Slot).eligible h lookback).flatMap (·.values) := by
    induction ht with
    | nil => rfl
    | @keep o os os' _ ih =>
      by_cases hc : o.constraint.Holds (h.visible lookback)
      · rw [Slot.eligible_cons_of_holds hc, Slot.eligible_cons_of_holds hc, List.flatMap_cons,
          List.flatMap_cons, ih]
      · rw [Slot.eligible_cons_of_not_holds hc, Slot.eligible_cons_of_not_holds hc, ih]
    | @remove o os os' hmem _ ih =>
      rw [Slot.eligible_cons_of_not_holds (htrue.never o hmem), ih]
    | @free o os os' hmem _ ih =>
      have hfree : (⟨o.values, .unconstrained⟩ : SlotOption).constraint.Holds
          (h.visible lookback) := trivial
      rw [Slot.eligible_cons_of_holds (htrue.always o hmem), Slot.eligible_cons_of_holds hfree,
        List.flatMap_cons, List.flatMap_cons, ih]
  rw [Slot.candidates, Slot.candidates, hvalues]

/-- A run from slot `i` on, when constraints see no other names than the linter has counted as
earlier. -/
theorem SegmentsTidied.resolveFrom_eq {segments segments' : List Segment}
    (ht : SegmentsTidied warnings i segments segments') {earlier : List String}
    (hg : GivenAhead warnings i earlier (segments.filterMap Segment.slot?))
    (hseen : h.Within earlier) (w : Words) :
    resolveFrom lookback segments' h w = resolveFrom lookback segments h w := by
  induction ht generalizing earlier h w with
  | nil => rfl
  | literal _ ih =>
    rw [resolveFrom_literal, resolveFrom_literal, ih hg hseen]
  | @slot i os os' segments segments' ho _ ih =>
    have hcandidates := ho.candidates_eq (hg.trueAt (hseen lookback))
    apply resolveFrom_slot_congr hcandidates
    · intro v hv w
      obtain ⟨o, ho, -, hvalue⟩ := Slot.mem_candidates_iff_holds.mp (hcandidates ▸ hv)
      exact ih hg.tail (hseen.record (List.mem_flatMap.mpr ⟨o, ho, hvalue⟩)) w
    · -- Nothing is recorded, and the names of the slot count as earlier nevertheless.
      have hwithin : h.Within (earlier ++ (⟨os⟩ : Slot).names) :=
        fun lookback => List.subset_append_of_subset_left _ (hseen lookback)
      exact ih hg.tail hwithin

end Run

namespace Pattern

/-- Acting on warnings about constraints leaves the pieces of every run as they are, and uses the
same words. -/
theorem resolve_tidied {p q : Pattern} (h : p.Tidied q) (lookback : Lookback) (w : Words) :
    q.resolve lookback w = p.resolve lookback w :=
  SegmentsTidied.resolveFrom_eq h p.givenAhead_lint (History.empty_within []) w

/-- No slot before the last can choose `x`: the option that requires it is removed, and the one that
excludes it loses its constraint. -/
theorem resolve_tidied_both_warnings :
    ∃ p q, compile "\x7ba|b\x7d-\x7bx>c|x~d|a>e\x7d" = .ok p ∧ p.Tidied q ∧
      toString q = "\x7ba|b\x7d-\x7bd|a>e\x7d" ∧
      ∀ lookback w, q.resolve lookback w = p.resolve lookback w := by
  let first : Slot := ⟨[⟨[.name "a"], .unconstrained⟩, ⟨[.name "b"], .unconstrained⟩]⟩
  let never : SlotOption := ⟨[.name "c"], .requires ["x"]⟩
  let always : SlotOption := ⟨[.name "d"], .excludes ["x"]⟩
  let other : SlotOption := ⟨[.name "e"], .requires ["a"]⟩
  let p : Pattern := ⟨[.slot first, .literal "-", .slot ⟨[never, always, other]⟩]⟩
  let q : Pattern :=
    ⟨[.slot first, .literal "-", .slot ⟨[⟨[.name "d"], .unconstrained⟩, other]⟩]⟩
  have hp : compile "\x7ba|b\x7d-\x7bx>c|x~d|a>e\x7d" = .ok p := by decide +kernel
  have hnever : .neverEligible 1 never ∈ p.lint := by decide +kernel
  have halways : .alwaysEligible 1 always ∈ p.lint := by decide +kernel
  have htidied : p.Tidied q :=
    .slot (.keep (.keep .nil)) (.literal (.slot (.remove hnever (.free halways (.keep .nil))) .nil))
  exact ⟨p, q, hp, htidied, by decide +kernel, resolve_tidied htidied⟩

end Pattern

end SlotPattern
