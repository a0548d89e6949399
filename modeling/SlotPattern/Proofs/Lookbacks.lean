import SlotPattern.Proofs.Meaning

/-!
# The two lookbacks compared

The name of the slot drawn last is one of the names chosen so far, so the narrow lookback sees a
part of what the wide one sees. More names make a requirement easier to meet and an exclusion
harder. After a single draw both lookbacks see the same, so a pattern whose constraints all stand in
its second slot resolves alike with both.
-/

namespace SlotPattern

/-! ### Constraints and what they see -/

namespace Constraint

variable {c : Constraint} {seen more : List String}

/-- Whatever is no exclusion still holds if more names are seen. -/
theorem Holds.mono (hc : c.Holds seen) (hpositive : ∀ names, c ≠ .excludes names)
    (hsub : seen ⊆ more) : c.Holds more := by
  cases c with
  | unconstrained => trivial
  | requires names =>
    obtain ⟨n, hn, hsaw⟩ := hc
    exact ⟨n, hn, hsub hsaw⟩
  | excludes names => exact absurd rfl (hpositive names)

/-- Whatever is no requirement still holds if fewer names are seen. -/
theorem Holds.anti (hc : c.Holds more) (hnegative : ∀ names, c ≠ .requires names)
    (hsub : seen ⊆ more) : c.Holds seen := by
  cases c with
  | unconstrained => trivial
  | requires names => exact absurd rfl (hnegative names)
  | excludes names =>
    intro n hn hsaw
    exact hc n hn (hsub hsaw)

theorem holds_of_not_isConstrained (hc : c.isConstrained = false) : c.Holds seen := by
  cases c with
  | unconstrained => trivial
  | requires | excludes => cases hc

end Constraint

namespace Slot

variable {s : Slot} {h h' : History} {lookback lookback' : Lookback}

theorem candidates_subset (hholds : ∀ o ∈ s.options, o.constraint.Holds (h.visible lookback) →
    o.constraint.Holds (h'.visible lookback')) :
    s.candidates h lookback ⊆ s.candidates h' lookback' := by
  intro v hv
  obtain ⟨o, ho, hc, hv⟩ := mem_candidates_iff_holds.mp hv
  exact mem_candidates_iff_holds.mpr ⟨o, ho, hholds o ho hc, hv⟩

/-- The candidates depend only on which constraints hold. -/
theorem candidates_congr (hholds : ∀ o ∈ s.options, o.constraint.Holds (h.visible lookback) ↔
    o.constraint.Holds (h'.visible lookback')) :
    s.candidates h lookback = s.candidates h' lookback' := by
  have heligible : s.eligible h lookback = s.eligible h' lookback' := by
    apply List.filter_congr
    intro o ho
    rw [Bool.eq_iff_iff, Constraint.isEligible_iff_holds, Constraint.isEligible_iff_holds]
    exact hholds o ho
  rw [candidates, candidates, heligible]

theorem candidates_eq_of_unconstrained (hs : s.Unconstrained) :
    s.candidates h lookback = s.candidates h' lookback' :=
  candidates_congr fun o ho =>
    iff_of_true (Constraint.holds_of_not_isConstrained (hs o ho))
      (Constraint.holds_of_not_isConstrained (hs o ho))

theorem candidates_eq_of_visible_eq (hsame : h.visible lookback = h'.visible lookback') :
    s.candidates h lookback = s.candidates h' lookback' :=
  candidates_congr fun o _ => by rw [hsame]

end Slot

/-! ### Histories of recorded choices -/

namespace History

/-- The history after these choices have been recorded, one after the other. -/
def ofChoices (choices : List (Option String)) : History :=
  choices.foldl record empty

/-- The narrow lookback sees a part of what the wide one sees. -/
def Nested (h : History) : Prop :=
  h.visible .previousSlot ⊆ h.visible .history

theorem nested_empty : empty.Nested := by
  simp [Nested]

theorem nested_record (h : History) (choice : Option String) : (h.record choice).Nested := by
  rw [Nested, visible_previousSlot_record, visible_history_record]
  exact List.subset_append_left _ _

/-- No sequence of choices makes the narrow lookback see more than the wide one. -/
theorem Nested.foldl_record {h : History} (hnested : h.Nested) (choices : List (Option String)) :
    (choices.foldl record h).Nested := by
  induction choices generalizing h with
  | nil => exact hnested
  | cons choice choices ih => exact ih (nested_record h choice)

theorem nested_ofChoices (choices : List (Option String)) : (ofChoices choices).Nested :=
  nested_empty.foldl_record choices

/-- What the narrow lookback sees, the wide one sees as well. So without exclusions a slot has no
candidate with the narrow lookback that it lacks with the wide one, and without requirements none
with the wide lookback that it lacks with the narrow one. -/
theorem previousSlot_within_history (choices : List (Option String)) :
    (∀ name, (ofChoices choices).contains .previousSlot name = true →
      (ofChoices choices).contains .history name = true) ∧
    (∀ s : Slot, (∀ o ∈ s.options, ∀ names, o.constraint ≠ .excludes names) →
      s.candidates (ofChoices choices) .previousSlot ⊆
        s.candidates (ofChoices choices) .history) ∧
    ∀ s : Slot, (∀ o ∈ s.options, ∀ names, o.constraint ≠ .requires names) →
      s.candidates (ofChoices choices) .history ⊆
        s.candidates (ofChoices choices) .previousSlot := by
  have hnested := nested_ofChoices choices
  refine ⟨?_, ?_, ?_⟩
  · intro name hname
    rw [contains_iff_mem_visible] at hname ⊢
    exact hnested hname
  · intro s hpositive
    exact Slot.candidates_subset fun o ho hc => hc.mono (hpositive o ho) hnested
  · intro s hnegative
    exact Slot.candidates_subset fun o ho hc => hc.anti (hnegative o ho) hnested

/-- After a drawn mark the narrow lookback sees nothing, and the wide one still sees `a`. -/
theorem previousSlot_within_history_after_mark :
    ∃ requiring excluding : Slot,
      requiring.candidates (ofChoices ["a", none]) .previousSlot = [.name "d"] ∧
      requiring.candidates (ofChoices ["a", none]) .history = [.name "c", .name "d"] ∧
      requiring.candidates (ofChoices ["a", none]) .previousSlot ⊆
        requiring.candidates (ofChoices ["a", none]) .history ∧
      excluding.candidates (ofChoices ["a", none]) .history = [.name "d"] ∧
      excluding.candidates (ofChoices ["a", none]) .previousSlot = [.name "c", .name "d"] ∧
      excluding.candidates (ofChoices ["a", none]) .history ⊆
        excluding.candidates (ofChoices ["a", none]) .previousSlot := by
  let requiring : Slot := ⟨[⟨[.name "c"], .requires ["a"]⟩, ⟨[.name "d"], .unconstrained⟩]⟩
  let excluding : Slot := ⟨[⟨[.name "c"], .excludes ["a"]⟩, ⟨[.name "d"], .unconstrained⟩]⟩
  obtain ⟨-, hpositive, hnegative⟩ := previousSlot_within_history ["a", none]
  have hrequiring := hpositive requiring (by simp [requiring])
  have hexcluding := hnegative excluding (by simp [excluding])
  exact ⟨requiring, excluding, by decide, by decide, hrequiring, by decide, by decide, hexcluding⟩

theorem visible_record_empty (choice : Option String) :
    (empty.record choice).visible .history = (empty.record choice).visible .previousSlot := by
  simp

end History

/-! ### Runs with both lookbacks -/

section Run

variable {segments : List Segment} {h : History}

/-- Slots without constraints draw alike, whatever has been chosen before them. -/
theorem resolveFrom_unconstrained
    (hfree : ∀ s ∈ segments.filterMap Segment.slot?, s.Unconstrained) (h h' : History)
    (lookback lookback' : Lookback) (w : Words) :
    resolveFrom lookback segments h w = resolveFrom lookback' segments h' w := by
  induction segments generalizing h h' w with
  | nil => rfl
  | cons segment segments ih =>
    cases segment with
    | literal text => rw [resolveFrom_literal, resolveFrom_literal, ih hfree h h']
    | slot s =>
      obtain ⟨hs, hrest⟩ := List.forall_mem_cons.mp hfree
      exact resolveFrom_slot_congr (Slot.candidates_eq_of_unconstrained hs)
        (fun v _ w => ih hrest _ _ w) (ih hrest h h')

/-- If both lookbacks see the same, the next slot may have constraints. -/
theorem resolveFrom_before_last_constraint
    (hfree : ∀ s ∈ (segments.filterMap Segment.slot?).drop 1, s.Unconstrained)
    (hsame : h.visible .history = h.visible .previousSlot) (w : Words) :
    resolveFrom .history segments h w = resolveFrom .previousSlot segments h w := by
  induction segments with
  | nil => rfl
  | cons segment segments ih =>
    cases segment with
    | literal text => rw [resolveFrom_literal, resolveFrom_literal, ih hfree]
    | slot s =>
      exact resolveFrom_slot_congr (Slot.candidates_eq_of_visible_eq hsame)
        (fun v _ w => resolveFrom_unconstrained hfree _ _ _ _ w)
        (resolveFrom_unconstrained hfree h h _ _)

/-- Nothing has been chosen yet, and after the first draw both lookbacks see what it has chosen. -/
theorem resolveFrom_before_first_draw
    (hfree : ∀ s ∈ (segments.filterMap Segment.slot?).drop 2, s.Unconstrained) (w : Words) :
    resolveFrom .history segments .empty w = resolveFrom .previousSlot segments .empty w := by
  induction segments with
  | nil => rfl
  | cons segment segments ih =>
    cases segment with
    | literal text => rw [resolveFrom_literal, resolveFrom_literal, ih hfree]
    | slot s =>
      have hsame : History.empty.visible .history = History.empty.visible .previousSlot := rfl
      exact resolveFrom_slot_congr (Slot.candidates_eq_of_visible_eq hsame)
        (fun v _ w => resolveFrom_before_last_constraint hfree (History.visible_record_empty _) w)
        (resolveFrom_before_last_constraint hfree hsame)

end Run

namespace Pattern

/-- If all options with a constraint are in the second slot, both lookbacks give the same pieces and
use the same words. -/
theorem resolve_history_eq_previousSlot {p : Pattern}
    (hsecond : ∀ i s, p.slots[i]? = some s →
      ∀ o ∈ s.options, o.constraint.isConstrained = true → i = 1) (w : Words) :
    p.resolve .history w = p.resolve .previousSlot w := by
  apply resolveFrom_before_first_draw
  intro s hs o ho
  obtain ⟨i, hi⟩ := List.mem_iff_getElem?.mp hs
  rw [List.getElem?_drop] at hi
  by_contra hconstrained
  have hplace := hsecond _ s hi o ho (by simpa using hconstrained)
  omega

/-- The second slot has a requirement and an exclusion, the first can draw a mark, and a third slot
is drawn when the two lookbacks no longer see the same. -/
theorem resolve_history_eq_previousSlot_both_constraints :
    ∃ p, compile "\x7ba|?\x7d-\x7ba>b|a~c\x7d\x7bd|e\x7d" = .ok p ∧
      (∀ i s, p.slots[i]? = some s →
        ∀ o ∈ s.options, o.constraint.isConstrained = true → i = 1) ∧
      ∀ w, p.resolve .history w = p.resolve .previousSlot w := by
  let p : Pattern := ⟨[.slot ⟨[⟨[.name "a"], .unconstrained⟩, ⟨[.nothing], .unconstrained⟩]⟩,
    .literal "-", .slot ⟨[⟨[.name "b"], .requires ["a"]⟩, ⟨[.name "c"], .excludes ["a"]⟩]⟩,
    .slot ⟨[⟨[.name "d"], .unconstrained⟩, ⟨[.name "e"], .unconstrained⟩]⟩]⟩
  have hp : compile "\x7ba|?\x7d-\x7ba>b|a~c\x7d\x7bd|e\x7d" = .ok p := by decide +kernel
  have hsecond : ∀ i s, p.slots[i]? = some s →
      ∀ o ∈ s.options, o.constraint.isConstrained = true → i = 1 := by
    intro i s hi
    match i with
    | 0 | 2 =>
      obtain rfl := Option.some.inj hi
      decide
    | 1 => simp
    | i + 3 => cases hi
  exact ⟨p, hp, hsecond, resolve_history_eq_previousSlot hsecond⟩

/-- A constraint in the third slot tells the two lookbacks apart. -/
example :
    let p : Pattern := ⟨[.slot ⟨[⟨[.name "a"], .unconstrained⟩]⟩,
      .slot ⟨[⟨[.name "b"], .unconstrained⟩]⟩, .slot ⟨[⟨[.name "c"], .requires ["a"]⟩]⟩]⟩
    (p.resolve .history (.ofScript [])).1 = [.value "a", .value "b", .value "c"] ∧
      (p.resolve .previousSlot (.ofScript [])).1 = [.value "a", .value "b", .nothing] := by
  decide +kernel

end Pattern

end SlotPattern
