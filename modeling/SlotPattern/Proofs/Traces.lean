import SlotPattern.Proofs.Meaning

/-!
# The trace of a run

While a pattern is resolved, something happens at each segment: a literal is copied, a slot draws a
value, or it has no candidate. Neither a literal nor a slot without candidates leaves anything
behind, so a run can be edited at these places and everything else happens as before.
-/

namespace SlotPattern

/-! ### Events -/

/-- What happens at a segment. -/
inductive Event
  | literal (text : String)
  | drawn (s : Slot) (v : Value)
  /-- The slot has no candidate. -/
  | dead (s : Slot)
  deriving DecidableEq

namespace Event

/-- The segment at which the event happens. -/
def segment : Event → Segment
  | .literal text => .literal text
  | .drawn s _ => .slot s
  | .dead s => .slot s

/-- What the segment becomes. -/
def piece : Event → Piece
  | .literal text => .literal text
  | .drawn _ v => v.piece
  | .dead _ => .nothing

end Event

/-- After the history `h` and with the words `w`, these events happen one after the other, and the
last words are left over. -/
inductive Trace (lookback : Lookback) : History → Words → List Event → Words → Prop
  | nil {h : History} {w : Words} : Trace lookback h w [] w
  | literal {h : History} {w left : Words} {text : String} {events : List Event}
      (rest : Trace lookback h w events left) : Trace lookback h w (.literal text :: events) left
  | drawn {h : History} {w next left : Words} {s : Slot} {v : Value} {events : List Event}
      (hpick : w.pick (s.candidates h lookback) = (some v, next))
      (rest : Trace lookback (h.record v.name?) next events left) :
      Trace lookback h w (.drawn s v :: events) left
  | dead {h : History} {w left : Words} {s : Slot} {events : List Event}
      (hnil : s.candidates h lookback = []) (rest : Trace lookback h w events left) :
      Trace lookback h w (.dead s :: events) left

section Trace

variable {lookback : Lookback} {h : History} {w left : Words} {events : List Event}

/-- Every row of segments has a trace. -/
theorem exists_trace (lookback : Lookback) (segments : List Segment) (h : History) (w : Words) :
    ∃ events left, Trace lookback h w events left ∧ events.map Event.segment = segments := by
  induction segments generalizing h w with
  | nil => exact ⟨[], w, .nil, rfl⟩
  | cons segment segments ih =>
    cases segment with
    | literal text =>
      obtain ⟨events, left, htrace, hmap⟩ := ih h w
      exact ⟨.literal text :: events, left, .literal htrace, congrArg (_ :: ·) hmap⟩
    | slot s =>
      by_cases hnil : s.candidates h lookback = []
      · obtain ⟨events, left, htrace, hmap⟩ := ih h w
        exact ⟨.dead s :: events, left, .dead hnil htrace, congrArg (_ :: ·) hmap⟩
      · obtain ⟨v, -, next, hpick⟩ := Words.exists_pick_eq_some hnil w
        obtain ⟨events, left, htrace, hmap⟩ := ih (h.record v.name?) next
        exact ⟨.drawn s v :: events, left, .drawn hpick htrace, congrArg (_ :: ·) hmap⟩

/-- Resolving segments gives the pieces of their trace, and the same words are left over. -/
theorem Trace.resolveFrom_eq (htrace : Trace lookback h w events left) :
    resolveFrom lookback (events.map Event.segment) h w = (events.map Event.piece, left) := by
  induction htrace with
  | nil => rfl
  | literal _ ih =>
    rw [List.map_cons, Event.segment, resolveFrom_literal, ih]
    rfl
  | drawn hpick _ ih =>
    rw [List.map_cons, Event.segment, resolveFrom_draw hpick, ih]
    rfl
  | dead hnil _ ih =>
    rw [List.map_cons, Event.segment, resolveFrom_empty hnil, ih]
    rfl

/-- Each event of a trace happens after some history and with some words. -/
theorem Trace.exists_singleton (htrace : Trace lookback h w events left) {event : Event}
    (hmem : event ∈ events) : ∃ h w next, Trace lookback h w [event] next := by
  induction htrace with
  | nil => cases hmem
  | @literal h w _ _ _ _ ih =>
    rcases List.mem_cons.mp hmem with rfl | hmem
    · exact ⟨h, w, w, .literal .nil⟩
    · exact ih hmem
  | @drawn h w next _ _ _ _ hpick _ ih =>
    rcases List.mem_cons.mp hmem with rfl | hmem
    · exact ⟨h, w, next, .drawn hpick .nil⟩
    · exact ih hmem
  | @dead h w _ _ _ hnil _ ih =>
    rcases List.mem_cons.mp hmem with rfl | hmem
    · exact ⟨h, w, w, .dead hnil .nil⟩
    · exact ih hmem

/-- A slot draws none but its own values. -/
theorem Trace.mem_values (htrace : Trace lookback h w events left) {s : Slot} {v : Value}
    (hmem : .drawn s v ∈ events) : v ∈ s.values := by
  obtain ⟨h, w, next, hstep⟩ := htrace.exists_singleton hmem
  cases hstep with
  | drawn hpick _ =>
    obtain ⟨o, ho, -, hv⟩ := Slot.mem_candidates_iff_holds.mp (Words.mem_of_pick_eq_some hpick)
    exact List.mem_flatMap.mpr ⟨o, ho, hv⟩

theorem Trace.exists_candidates_eq_nil (htrace : Trace lookback h w events left) {s : Slot}
    (hmem : .dead s ∈ events) : ∃ h, s.candidates h lookback = [] := by
  obtain ⟨h, w, next, hstep⟩ := htrace.exists_singleton hmem
  cases hstep with
  | dead hnil _ => exact ⟨h, hnil⟩

end Trace

/-! ### Edits -/

/-- The second row of events is the first one with any other literals, at any places, and without
some of the slots that had no candidate. -/
inductive Edited : List Event → List Event → Prop
  | nil : Edited [] []
  | keep (event : Event) {events edited : List Event} (rest : Edited events edited) :
      Edited (event :: events) (event :: edited)
  | insertLiteral (text : String) {events edited : List Event} (rest : Edited events edited) :
      Edited events (.literal text :: edited)
  | deleteLiteral {text : String} {events edited : List Event} (rest : Edited events edited) :
      Edited (.literal text :: events) edited
  | deleteDead {s : Slot} {events edited : List Event} (rest : Edited events edited) :
      Edited (.dead s :: events) edited

namespace Edited

variable {lookback : Lookback} {h : History} {w left : Words} {events edited : List Event}

/-- The events that are left after an edit happen when the edited segments are resolved. -/
theorem trace (hedited : Edited events edited) (htrace : Trace lookback h w events left) :
    Trace lookback h w edited left := by
  -- Behind an edited place the run goes on with the same history and the same words.
  induction hedited generalizing h w with
  | nil => exact htrace
  | keep event _ ih =>
    cases htrace with
    | literal rest => exact .literal (ih rest)
    | drawn hpick rest => exact .drawn hpick (ih rest)
    | dead hnil rest => exact .dead hnil (ih rest)
  | insertLiteral text _ ih => exact .literal (ih htrace)
  | deleteLiteral _ ih =>
    cases htrace with
    | literal rest => exact ih rest
  | deleteDead _ ih =>
    cases htrace with
    | dead _ rest => exact ih rest

/-- No name is chosen at a place that can be edited. -/
theorem chosenNames_eq (hedited : Edited events edited) :
    chosenNames (edited.map Event.piece) = chosenNames (events.map Event.piece) := by
  induction hedited with
  | nil => rfl
  | keep event _ ih =>
    simp only [chosenNames, List.map_cons, List.filterMap_cons] at ih ⊢
    rw [ih]
  | insertLiteral _ _ ih | deleteLiteral _ ih | deleteDead _ ih => exact ih

end Edited

namespace Pattern

/-- Every run has a trace, and if its literals are edited and slots without candidates are dropped,
all other slots become what they became before, and the same words are left over. -/
theorem resolve_edited (p : Pattern) (lookback : Lookback) (w : Words) :
    (∃ events left, Trace lookback .empty w events left ∧
      events.map Event.segment = p.segments) ∧
    ∀ events left, Trace lookback .empty w events left → events.map Event.segment = p.segments →
      p.resolve lookback w = (events.map Event.piece, left) ∧
      ∀ edited, Edited events edited →
        (⟨edited.map Event.segment⟩ : Pattern).resolve lookback w =
          (edited.map Event.piece, left) ∧
        chosenNames (edited.map Event.piece) = chosenNames (events.map Event.piece) := by
  refine ⟨exists_trace lookback p.segments .empty w, fun events left htrace hsegments => ?_⟩
  constructor
  · rw [resolve, ← hsegments]
    exact htrace.resolveFrom_eq
  · intro edited hedited
    exact ⟨(hedited.trace htrace).resolveFrom_eq, hedited.chosenNames_eq⟩

/-- The last slot sees the name of the first one, with the slot between them that has no candidate
as well as without it. -/
theorem resolve_edited_between_slots :
    ∃ p first last, compile "\x7ba|?\x7d\x7bb>c\x7d-\x7ba>d\x7d" = .ok p ∧
      ∃ left, p.resolve .previousSlot (.ofScript []) =
        ([.value "a", .nothing, .literal "-", .value "d"], left) ∧
      (⟨[.slot first, .literal "..", .slot last]⟩ : Pattern).resolve .previousSlot (.ofScript []) =
        ([.value "a", .literal "..", .value "d"], left) := by
  let first : Slot := ⟨[⟨[.name "a"], .unconstrained⟩, ⟨[.nothing], .unconstrained⟩]⟩
  let middle : Slot := ⟨[⟨[.name "c"], .requires ["b"]⟩]⟩
  let last : Slot := ⟨[⟨[.name "d"], .requires ["a"]⟩]⟩
  let p : Pattern := ⟨[.slot first, .slot middle, .literal "-", .slot last]⟩
  have hp : compile "\x7ba|?\x7d\x7bb>c\x7d-\x7ba>d\x7d" = .ok p := by decide +kernel
  have hfirst : (Words.ofScript []).pick (first.candidates .empty .previousSlot) =
      (some (.name "a"), ⟨.script [], 1⟩) := by decide
  have hlast : (Words.mk (.script []) 1).pick (last.candidates ⟨["a"], some "a"⟩ .previousSlot) =
      (some (.name "d"), ⟨.script [], 2⟩) := by decide
  have htrace : Trace .previousSlot .empty (.ofScript [])
      [.drawn first (.name "a"), .dead middle, .literal "-", .drawn last (.name "d")]
      ⟨.script [], 2⟩ :=
    .drawn hfirst (.dead (by decide) (.literal (.drawn hlast .nil)))
  obtain ⟨hresolve, hedited⟩ :=
    (resolve_edited p .previousSlot (.ofScript [])).2 _ _ htrace rfl
  have hedit : Edited
      [.drawn first (.name "a"), .dead middle, .literal "-", .drawn last (.name "d")]
      [.drawn first (.name "a"), .literal "..", .drawn last (.name "d")] :=
    .keep _ (.deleteDead (.deleteLiteral (.insertLiteral ".." (.keep _ .nil))))
  exact ⟨p, first, last, hp, _, hresolve, (hedited _ hedit).1⟩

end Pattern

end SlotPattern
