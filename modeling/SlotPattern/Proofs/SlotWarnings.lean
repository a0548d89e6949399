import SlotPattern.Proofs.LintCompleteness
import SlotPattern.Proofs.Lookbacks

/-!
# Warnings about slots

The linter warns about a slot whose values are all marks, and about one that has a constraint in
every option. The first kind renders nothing whatever it draws. Only a slot of one of these kinds
can ever have no candidate, so a slot without such a warning draws a value in every run.
-/

namespace SlotPattern

/-! ### What a warning says about a slot -/

namespace Slot

variable {i : Nat} {s : Slot}

theorem lint_eq_rendersNothing_iff :
    s.lint i = some (.rendersNothing i) ↔ ∀ v ∈ s.values, v.isNothing = true := by
  rw [lint, ← List.all_eq_true]
  split
  · simp [*]
  · split <;> simp [*]

theorem lint_eq_mayRenderNothing_iff : s.lint i = some (.mayRenderNothing i) ↔
    (¬∀ v ∈ s.values, v.isNothing = true) ∧
      ∀ o ∈ s.options, o.constraint.isConstrained = true := by
  rw [lint, ← List.all_eq_true, ← List.all_eq_true (l := s.options)]
  split
  · simp [*]
  · split <;> simp [*]

/-- An option without a constraint always gives a candidate. -/
theorem isConstrained_of_candidates_eq_nil (hs : s.WellFormed) {h : History} {lookback : Lookback}
    (hnil : s.candidates h lookback = []) :
    ∀ o ∈ s.options, o.constraint.isConstrained = true := by
  intro o ho
  by_contra hfree
  apply (candidates_eq_nil_iff hs).mp hnil o ho
  apply Constraint.holds_of_not_isConstrained
  simpa using hfree

end Slot

namespace Pattern

variable {p : Pattern} {earlier later : List Slot} {s : Slot}

/-- No warning about an option is one about the slot as a whole. -/
theorem mem_lint_iff_of_slot (hslots : p.slots = earlier ++ s :: later) {w : Warning}
    (hw : w = .rendersNothing earlier.length ∨ w = .mayRenderNothing earlier.length) :
    w ∈ p.lint ↔ s.lint earlier.length = some w := by
  have hslot : w.slot? = some earlier.length := by
    rcases hw with rfl | rfl <;> rfl
  rw [mem_lint_iff hslots hslot, or_iff_left]
  rintro ⟨o, -, ho⟩
  rcases (SlotOption.lint_eq_some ho).2 with ⟨rfl, -⟩ | ⟨rfl, -⟩ <;> simp at hw

theorem rendersNothing_mem_lint_iff (hslots : p.slots = earlier ++ s :: later) :
    .rendersNothing earlier.length ∈ p.lint ↔ ∀ v ∈ s.values, v.isNothing = true := by
  rw [mem_lint_iff_of_slot hslots (.inl rfl), Slot.lint_eq_rendersNothing_iff]

theorem mayRenderNothing_mem_lint_iff (hslots : p.slots = earlier ++ s :: later) :
    .mayRenderNothing earlier.length ∈ p.lint ↔ (¬∀ v ∈ s.values, v.isNothing = true) ∧
      ∀ o ∈ s.options, o.constraint.isConstrained = true := by
  rw [mem_lint_iff_of_slot hslots (.inr rfl), Slot.lint_eq_mayRenderNothing_iff]

/-! ### Slots without candidates are warned about -/

theorem warned_of_isConstrained (hslots : p.slots = earlier ++ s :: later)
    (hall : ∀ o ∈ s.options, o.constraint.isConstrained = true) :
    .rendersNothing earlier.length ∈ p.lint ∨ .mayRenderNothing earlier.length ∈ p.lint := by
  by_cases hvalues : ∀ v ∈ s.values, v.isNothing = true
  · left
    exact (rendersNothing_mem_lint_iff hslots).mpr hvalues
  · -- The second test is made only where the first one fails.
    right
    exact (mayRenderNothing_mem_lint_iff hslots).mpr ⟨hvalues, hall⟩

theorem piece_eq_nothing_of_warned (hslots : p.slots = earlier ++ s :: later)
    (hwarned : .rendersNothing earlier.length ∈ p.lint) {v : Value} (hv : v ∈ s.values) :
    v.piece = .nothing := by
  have hmark := (rendersNothing_mem_lint_iff hslots).mp hwarned v hv
  cases v with
  | name text => cases hmark
  | nothing => rfl

end Pattern

/-! ### Runs -/

theorem Event.eq_drawn_or_dead {event : Event} {s : Slot} (h : event.segment = .slot s) :
    (∃ v, event = .drawn s v) ∨ event = .dead s := by
  cases event with
  | literal text => cases h
  | drawn t v =>
    cases h
    exact .inl ⟨v, rfl⟩
  | dead t =>
    cases h
    exact .inr rfl

/-- How many of the events happen at slots. -/
def slotCount (events : List Event) : Nat :=
  ((events.map Event.segment).filterMap Segment.slot?).length

namespace Pattern

/-- In every run a slot that has no candidate is warned about under its number, so a slot without
such a warning draws a value. If the warning says that the slot can only render nothing, the slot
becomes nothing. -/
theorem resolve_warned_slots {text : String} {p : Pattern} (h : compile text = .ok p)
    (lookback : Lookback) (w : Words) :
    (∃ events left, Trace lookback .empty w events left ∧
      events.map Event.segment = p.segments) ∧
    ∀ events left, Trace lookback .empty w events left → events.map Event.segment = p.segments →
      p.resolve lookback w = (events.map Event.piece, left) ∧
      ∀ before event after s, events = before ++ event :: after → event.segment = .slot s →
        (event = .dead s → .rendersNothing (slotCount before) ∈ p.lint ∨
          .mayRenderNothing (slotCount before) ∈ p.lint) ∧
        (.rendersNothing (slotCount before) ∉ p.lint →
          .mayRenderNothing (slotCount before) ∉ p.lint → ∃ v, event = .drawn s v) ∧
        (.rendersNothing (slotCount before) ∈ p.lint → event.piece = .nothing) := by
  refine ⟨exists_trace lookback p.segments .empty w, ?_⟩
  intro events left htrace hsegments
  refine ⟨by rw [resolve, ← hsegments, htrace.resolveFrom_eq], ?_⟩
  rintro before event after s rfl hevent
  have hmem : event ∈ before ++ event :: after := by simp
  have hsplit : p.segments =
      before.map Event.segment ++ .slot s :: after.map Event.segment := by
    rw [← hsegments, List.map_append, List.map_cons, hevent]
  have hslots := slots_of_split hsplit
  have hdead : event = .dead s → .rendersNothing (slotCount before) ∈ p.lint ∨
      .mayRenderNothing (slotCount before) ∈ p.lint := by
    rintro rfl
    obtain ⟨_, hnil⟩ := htrace.exists_candidates_eq_nil hmem
    have hs : s.WellFormed := (wellFormed_of_compile h).slots s (by simp [hsplit])
    exact warned_of_isConstrained hslots (Slot.isConstrained_of_candidates_eq_nil hs hnil)
  refine ⟨hdead, ?_, ?_⟩
  · intro hrenders hmay
    apply (Event.eq_drawn_or_dead hevent).resolve_right
    intro heq
    exact (hdead heq).elim hrenders hmay
  · intro hrenders
    rcases Event.eq_drawn_or_dead hevent with ⟨v, rfl⟩ | rfl
    · exact piece_eq_nothing_of_warned hslots hrenders (htrace.mem_values hmem)
    · rfl

/-- The second slot has only a mark, and the third one has no candidate because the first slot draws
`a`. The last slot is not warned about. -/
theorem resolve_warned_slots_each_kind :
    ∃ (p : Pattern) (first marks bound last : Slot) (events : List Event) (left : Words),
      compile "\x7ba|b\x7d\x7b?\x7d\x7bb>c\x7d-\x7bd\x7d" = .ok p ∧
      p.lint = [.rendersNothing 1, .mayRenderNothing 2] ∧
      Trace .history .empty (.ofScript []) events left ∧
      events = [.drawn first (.name "a"), .drawn marks .nothing, .dead bound, .literal "-",
        .drawn last (.name "d")] ∧
      p.resolve .history (.ofScript []) = (events.map Event.piece, left) ∧
      (Event.drawn marks .nothing).piece = .nothing ∧
      (.rendersNothing 2 ∈ p.lint ∨ .mayRenderNothing 2 ∈ p.lint) ∧
      ∃ v, Event.drawn last (.name "d") = .drawn last v := by
  let first : Slot := ⟨[⟨[.name "a"], .unconstrained⟩, ⟨[.name "b"], .unconstrained⟩]⟩
  let marks : Slot := ⟨[⟨[.nothing], .unconstrained⟩]⟩
  let bound : Slot := ⟨[⟨[.name "c"], .requires ["b"]⟩]⟩
  let last : Slot := ⟨[⟨[.name "d"], .unconstrained⟩]⟩
  let p : Pattern := ⟨[.slot first, .slot marks, .slot bound, .literal "-", .slot last]⟩
  let front : List Event := [.drawn first (.name "a"), .drawn marks .nothing]
  let back : List Event := [.literal "-", .drawn last (.name "d")]
  have hp : compile "\x7ba|b\x7d\x7b?\x7d\x7bb>c\x7d-\x7bd\x7d" = .ok p := by decide +kernel
  have hlint : p.lint = [.rendersNothing 1, .mayRenderNothing 2] := by decide +kernel
  have hfirst : (Words.ofScript []).pick (first.candidates .empty .history) =
      (some (.name "a"), ⟨.script [], 1⟩) := by decide
  have hmarks : (Words.mk (.script []) 1).pick (marks.candidates ⟨["a"], some "a"⟩ .history) =
      (some .nothing, ⟨.script [], 2⟩) := by decide
  have hlast : (Words.mk (.script []) 2).pick (last.candidates ⟨["a"], none⟩ .history) =
      (some (.name "d"), ⟨.script [], 3⟩) := by decide
  have htrace : Trace .history .empty (.ofScript []) (front ++ .dead bound :: back)
      ⟨.script [], 3⟩ :=
    .drawn hfirst (.drawn hmarks (.dead (by decide) (.literal (.drawn hlast .nil))))
  obtain ⟨hresolve, hevents⟩ :=
    (resolve_warned_slots hp .history (.ofScript [])).2 _ _ htrace rfl
  have hmark := (hevents [.drawn first (.name "a")] _ (.dead bound :: back) marks rfl rfl).2.2
  have hdead := (hevents front _ back bound rfl rfl).1
  have hdraws := (hevents (front ++ [.dead bound, .literal "-"]) _ [] last rfl rfl).2.1
  refine ⟨p, first, marks, bound, last, _, _, hp, hlint, htrace, rfl, hresolve, ?_, hdead rfl, ?_⟩
  · apply hmark
    simp [hlint, slotCount, Event.segment, Segment.slot?]
  · apply hdraws
    all_goals simp [hlint, slotCount, front, Event.segment, Segment.slot?]

end Pattern

end SlotPattern
