import SlotPattern.Proofs.LintSoundness
import SlotPattern.Proofs.Steering

/-!
# Warnings about constraints are complete

If no option excludes anything, and of none it is reported that it is never eligible, then every
requirement names a value of an earlier slot. The option with that value may require something in
turn, but the first slot can require nothing. So every option is eligible in some run, and every
name is chosen in some run, if constraints look back to the whole history.
-/

namespace SlotPattern

variable {segments before after : List Segment} {o : SlotOption} {name : String}

/-! ### Silence of the linter -/

/-- The names among the values of the slots. -/
def namesOf (segments : List Segment) : List String :=
  (segments.filterMap Segment.slot?).flatMap Slot.names

theorem namesOf_append (segments more : List Segment) :
    namesOf (segments ++ more) = namesOf segments ++ namesOf more := by
  rw [namesOf, List.filterMap_append, List.flatMap_append]
  rfl

theorem namesOf_slot (s : Slot) : namesOf [.slot s] = s.names :=
  List.flatMap_singleton Slot.names s

theorem lintSlots_append (i : Nat) (earlier : List String) (slots more : List Slot) :
    lintSlots i earlier (slots ++ more) =
      lintSlots i earlier slots ++
        lintSlots (i + slots.length) (earlier ++ slots.flatMap Slot.names) more := by
  induction slots generalizing i earlier with
  | nil => simp [lintSlots]
  | cons s slots ih =>
    have hnumber : i + 1 + slots.length = i + (s :: slots).length := by
      rw [List.length_cons]
      omega
    rw [List.cons_append, lintSlots, lintSlots, ih, hnumber, List.flatMap_cons]
    simp only [List.append_assoc]

/-- An option that excludes nothing is reported, or it would hold after all earlier names. -/
theorem SlotOption.holds_of_lint {i : Nat} {earlier : List String}
    (hpositive : ∀ names, o.constraint ≠ .excludes names)
    (hlint : o.lint i earlier ≠ some (.neverEligible i o)) : o.constraint.Holds earlier := by
  cases hc : o.constraint with
  | unconstrained => trivial
  | requires names =>
    by_contra hnone
    apply hlint
    have hsources : ¬names.any earlier.contains = true := by
      simpa [Constraint.Holds] using hnone
    rw [lint, hc, Constraint.sources, if_neg hsources]
  | excludes names => exact absurd hc (hpositive names)

/-! ### Chains of requirements -/

/-- The values can be drawn, no option excludes anything, and every constraint would hold if all
names of the slots before had been chosen. -/
structure Chained (segments : List Segment) : Prop where
  drawable : Drawable segments
  positive : ∀ s, .slot s ∈ segments → ∀ o ∈ s.options, ∀ names, o.constraint ≠ .excludes names
  sourced : ∀ before s after, segments = before ++ .slot s :: after →
    ∀ o ∈ s.options, o.constraint.Holds (namesOf before)

theorem Chained.front (h : Chained (before ++ after)) : Chained before where
  drawable := h.drawable.mono (List.subset_append_left before after)
  positive s hs := h.positive s (List.mem_append_left after hs)
  sourced first s rest hsplit :=
    h.sourced first s (rest ++ after) (by rw [hsplit, List.append_assoc, List.cons_append])

/-- The segments have a run with the name chosen. -/
def Choosable (segments : List Segment) (name : String) : Prop :=
  ∃ events, Attainable .history .empty events ∧ events.map Event.segment = segments ∧
    name ∈ (History.empty.after events).visible .history

/-- What has been chosen stays chosen through any further segments. -/
theorem Choosable.append (h : Choosable before name) (hdrawable : Drawable after) :
    Choosable (before ++ after) name := by
  obtain ⟨events, hevents, hmap, hname⟩ := h
  obtain ⟨more, hmore, hmap'⟩ := exists_attainable (h := History.empty.after events) hdrawable
  refine ⟨events ++ more, hevents.append hmore, by rw [List.map_append, hmap, hmap'], ?_⟩
  rw [History.after_append]
  exact History.mem_visible_after_iff.mpr (.inl hname)

/-- Each option of a slot is eligible after some run of the segments before: one of the sources that
it requires has been chosen. -/
theorem Chained.exists_eligible {s : Slot} (h : Chained (before ++ .slot s :: after))
    (hnames : ∀ name ∈ namesOf before, Choosable before name) (ho : o ∈ s.options) :
    ∃ events, Attainable .history .empty events ∧ events.map Event.segment = before ∧
      o ∈ s.eligible (History.empty.after events) .history := by
  have hrun : ∃ events, Attainable .history .empty events ∧ events.map Event.segment = before ∧
      o.constraint.Holds ((History.empty.after events).visible .history) := by
    have hsourced := h.sourced before s after rfl o ho
    cases hc : o.constraint with
    | unconstrained =>
      obtain ⟨events, hevents, hmap⟩ := exists_attainable h.front.drawable
      exact ⟨events, hevents, hmap, trivial⟩
    | requires names =>
      rw [hc] at hsourced
      obtain ⟨source, hmem, hearlier⟩ := hsourced
      obtain ⟨events, hevents, hmap, hchosen⟩ := hnames source hearlier
      exact ⟨events, hevents, hmap, source, hmem, hchosen⟩
    | excludes names =>
      have hs : .slot s ∈ before ++ .slot s :: after := List.mem_append_right _ List.mem_cons_self
      exact absurd hc (h.positive s hs o ho names)
  obtain ⟨events, hevents, hmap, hc⟩ := hrun
  exact ⟨events, hevents, hmap,
    List.mem_filter.mpr ⟨ho, Constraint.isEligible_iff_holds.mpr hc⟩⟩

/-- The induction is on the segments from the back: the option that has the name requires a name of
the segments before it. -/
theorem Chained.choosable (h : Chained segments) (hname : name ∈ namesOf segments) :
    Choosable segments name := by
  induction segments using List.reverseRecOn generalizing name with
  | nil => cases hname
  | append_singleton before segment ih =>
    have hnames : ∀ name ∈ namesOf before, Choosable before name := fun _ => ih h.front
    have hlast : Drawable [segment] :=
      h.drawable.mono (List.subset_append_right before [segment])
    rw [namesOf_append, List.mem_append] at hname
    rcases hname with hname | hname
    · exact (hnames name hname).append hlast
    · cases segment with
      | literal text => cases hname
      | slot s =>
        rw [namesOf_slot, Slot.names, List.mem_filterMap] at hname
        obtain ⟨v, hv, hvalue⟩ := hname
        obtain ⟨o, ho, hv⟩ := List.mem_flatMap.mp hv
        obtain ⟨events, hevents, hmap, heligible⟩ := h.exists_eligible hnames ho
        have hcandidate : v ∈ s.candidates (History.empty.after events) .history :=
          List.mem_eraseDups.mpr (List.mem_flatMap.mpr ⟨o, heligible, hv⟩)
        have hdrawn := attainable_drawn hcandidate (hlast s List.mem_cons_self).2
        refine ⟨events ++ [.drawn s v], hevents.append hdrawn, ?_, ?_⟩
        · rw [List.map_append, hmap]
          rfl
        · rw [History.after_append, History.after_cons, History.after_nil, History.update,
            History.visible_history_record, hvalue]
          exact List.mem_append_left _ List.mem_cons_self

/-! ### Runs of a pattern that is not reported -/

namespace Pattern

variable {p : Pattern} {text : String} {s : Slot}

theorem slots_of_split (hsplit : p.segments = before ++ .slot s :: after) :
    p.slots = before.filterMap Segment.slot? ++ s :: after.filterMap Segment.slot? := by
  rw [slots, hsplit, List.filterMap_append]
  rfl

/-- What the linter says about a slot follows from the slot itself, and what it says about an option
follows from the slots before. -/
theorem mem_lint_iff {earlier later : List Slot} {w : Warning}
    (hslots : p.slots = earlier ++ s :: later) (hw : w.slot? = some earlier.length) :
    w ∈ p.lint ↔ s.lint earlier.length = some w ∨
      ∃ o ∈ s.options, o.lint earlier.length (earlier.flatMap Slot.names) = some w := by
  constructor
  · intro hmem
    have hgiven := p.givenAhead_lint
    rw [hslots] at hgiven
    have hlint := hgiven.drop w hmem earlier.length hw (by omega)
    rw [Nat.zero_add, List.nil_append] at hlint
    exact lint_of_mem_lintSlots hlint hw
  · intro hlint
    rw [lint, hslots, lintSlots_append, Nat.zero_add, List.nil_append]
    apply List.mem_append_right
    apply List.mem_append_right
    exact mem_lintSlots_cons.mpr (hlint.imp_right .inl)

theorem chained_of_lint (h : compile text = .ok p) (hsize : text.length < UInt64.size)
    (hpositive : ∀ s ∈ p.slots, ∀ o ∈ s.options, ∀ names, o.constraint ≠ .excludes names)
    (hnever : ∀ i o, .neverEligible i o ∉ p.lint) : Chained p.segments := by
  refine ⟨drawable_of_compile h hsize, ?_, ?_⟩
  · intro s hs
    exact hpositive s (List.mem_filterMap.mpr ⟨.slot s, hs, rfl⟩)
  · intro before s after hsplit o ho
    have hslots := slots_of_split hsplit
    have hs : s ∈ p.slots := by simp [hslots]
    exact SlotOption.holds_of_lint (hpositive s hs o ho) fun hlint =>
      hnever (before.filterMap Segment.slot?).length o
        ((mem_lint_iff hslots rfl).mpr (.inr ⟨o, ho, hlint⟩))

/-- If no option excludes anything and none is reported as never eligible, then every option of
every slot is eligible in some run, and every name is chosen in some run. The length of a text is
itself a word, so no value lacks a word that draws it. -/
theorem exists_run_of_lint (h : compile text = .ok p) (hsize : text.length < UInt64.size)
    (hpositive : ∀ s ∈ p.slots, ∀ o ∈ s.options, ∀ names, o.constraint ≠ .excludes names)
    (hnever : ∀ i o, .neverEligible i o ∉ p.lint) :
    (∀ before s after, p.segments = before ++ .slot s :: after → ∀ o ∈ s.options,
      ∃ words events rest left, Trace .history .empty (.ofScript words) (events ++ rest) left ∧
        events.map Event.segment = before ∧ rest.map Event.segment = .slot s :: after ∧
        p.resolve .history (.ofScript words) = ((events ++ rest).map Event.piece, left) ∧
        o ∈ s.eligible (History.empty.after events) .history) ∧
    ∀ name ∈ p.valueNames, ∃ words,
      name ∈ chosenNames (p.resolve .history (.ofScript words)).1 := by
  have hchained := chained_of_lint h hsize hpositive hnever
  constructor
  · intro before s after hsplit o ho
    rw [hsplit] at hchained
    obtain ⟨events, hevents, hmap, heligible⟩ :=
      hchained.exists_eligible (fun _ => hchained.front.choosable) ho
    have hrest : Drawable (.slot s :: after) :=
      hchained.drawable.mono (List.subset_append_right before _)
    obtain ⟨rest, hrun, hmap'⟩ := exists_attainable (h := History.empty.after events) hrest
    obtain ⟨words, left, htrace⟩ := (hevents.append hrun).exists_trace
    have hsegments : p.segments = (events ++ rest).map Event.segment := by
      rw [hsplit, List.map_append, hmap, hmap']
    refine ⟨words, events, rest, left, htrace, hmap, hmap', ?_, heligible⟩
    rw [resolve, hsegments, htrace.resolveFrom_eq]
  · intro name hname
    have hmem : name ∈ namesOf p.segments := by
      rwa [valueNames, List.mem_eraseDups, values, List.filterMap_flatMap] at hname
    obtain ⟨events, hevents, hmap, hchosen⟩ := hchained.choosable hmem
    obtain ⟨words, left, htrace⟩ := hevents.exists_trace
    refine ⟨words, ?_⟩
    rw [resolve, ← hmap, htrace.resolveFrom_eq]
    rw [History.mem_visible_after_iff, History.visible_empty] at hchosen
    exact hchosen.resolve_left List.not_mem_nil

/-- For `d` the slot before has to choose `c`, for which the first slot has to choose `a`. -/
theorem exists_run_of_lint_chain :
    ∃ p words, compile "\x7ba|b\x7d-\x7ba>c|?\x7d\x7bc>d\x7d" = .ok p ∧
      p.lint = [.mayRenderNothing 2] ∧
      "d" ∈ chosenNames (p.resolve .history (.ofScript words)).1 := by
  let first : Slot := ⟨[⟨[.name "a"], .unconstrained⟩, ⟨[.name "b"], .unconstrained⟩]⟩
  let middle : Slot := ⟨[⟨[.name "c"], .requires ["a"]⟩, ⟨[.nothing], .unconstrained⟩]⟩
  let last : Slot := ⟨[⟨[.name "d"], .requires ["c"]⟩]⟩
  let p : Pattern := ⟨[.slot first, .literal "-", .slot middle, .slot last]⟩
  have hp : compile "\x7ba|b\x7d-\x7ba>c|?\x7d\x7bc>d\x7d" = .ok p := by decide +kernel
  have hlint : p.lint = [.mayRenderNothing 2] := by decide +kernel
  have hsize : "\x7ba|b\x7d-\x7ba>c|?\x7d\x7bc>d\x7d".length < UInt64.size := by decide
  have hpositive : ∀ s ∈ p.slots, ∀ o ∈ s.options, ∀ names, o.constraint ≠ .excludes names := by
    have hslots : p.slots = [first, middle, last] := rfl
    simp [hslots, first, middle, last]
  have hnever : ∀ i o, .neverEligible i o ∉ p.lint := by simp [hlint]
  obtain ⟨-, hnames⟩ := exists_run_of_lint hp hsize hpositive hnever
  obtain ⟨words, hwords⟩ := hnames "d" (by decide)
  exact ⟨p, words, hp, hlint, hwords⟩

end Pattern

end SlotPattern
