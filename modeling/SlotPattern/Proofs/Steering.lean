import SlotPattern.Proofs.Traces

/-!
# Runs that can be had

Words can be chosen so that a slot draws whichever candidate one wants. Runs that are had in this
way are put together from parts: the words for the second part follow the words for the first.
-/

namespace SlotPattern

/-! ### The history after events -/

/-- The history after one more event: a drawn value is recorded. -/
def History.update (h : History) : Event → History
  | .literal _ => h
  | .drawn _ v => h.record v.name?
  | .dead _ => h

/-- The history after events that happen one after the other. -/
def History.after (h : History) (events : List Event) : History :=
  events.foldl History.update h

namespace History

variable (h : History) (events more : List Event)

@[simp] theorem after_nil : h.after [] = h := rfl

@[simp] theorem after_cons (event : Event) :
    h.after (event :: events) = (h.update event).after events := rfl

@[simp] theorem after_append : h.after (events ++ more) = (h.after events).after more :=
  List.foldl_append

variable {h events} {name : String}

/-- A name stays in view once it has been chosen. -/
theorem mem_visible_after_iff : name ∈ (h.after events).visible .history ↔
    name ∈ h.visible .history ∨ name ∈ chosenNames (events.map Event.piece) := by
  induction events generalizing h with
  | nil => simp [chosenNames]
  | cons event events ih =>
    rw [after_cons, ih]
    cases event with
    | literal | dead => rfl
    | drawn s v =>
      cases v <;> simp [update, chosenNames, Event.piece, Value.piece, Piece.name?, or_assoc,
        or_left_comm]

end History

section Trace

variable {lookback : Lookback} {h : History} {w middle left : Words} {events more : List Event}

theorem Trace.append (hevents : Trace lookback h w events middle)
    (hmore : Trace lookback (h.after events) middle more left) :
    Trace lookback h w (events ++ more) left := by
  induction hevents with
  | nil => exact hmore
  | literal _ ih => exact .literal (ih hmore)
  | drawn hpick _ ih => exact .drawn hpick (ih hmore)
  | dead hnil _ ih => exact .dead hnil (ih hmore)

end Trace

/-! ### Events that can be had -/

/-- There are words for these events, wherever the words stand in a script. -/
def Attainable (lookback : Lookback) (h : History) (events : List Event) : Prop :=
  ∃ words, ∀ used more, Trace lookback h (.after used (words ++ more)) events
    (.after (used ++ words) more)

section Attainable

variable {lookback : Lookback} {h : History} {events more : List Event} {s : Slot}

theorem Attainable.nil : Attainable lookback h [] := by
  refine ⟨[], fun used more => ?_⟩
  rw [List.append_nil]
  exact .nil

theorem Attainable.append (hevents : Attainable lookback h events)
    (hmore : Attainable lookback (h.after events) more) :
    Attainable lookback h (events ++ more) := by
  obtain ⟨first, hfirst⟩ := hevents
  obtain ⟨second, hsecond⟩ := hmore
  refine ⟨first ++ second, fun used rest => ?_⟩
  rw [List.append_assoc, ← List.append_assoc used]
  exact (hfirst used (second ++ rest)).append (hsecond (used ++ first) rest)

theorem attainable_literal (text : String) : Attainable lookback h [.literal text] := by
  refine ⟨[], fun used more => ?_⟩
  rw [List.append_nil]
  exact .literal .nil

theorem attainable_dead (hnil : s.candidates h lookback = []) :
    Attainable lookback h [.dead s] := by
  refine ⟨[], fun used more => ?_⟩
  rw [List.append_nil]
  exact .dead hnil .nil

/-- Every candidate can be drawn, if there are no more values than words. -/
theorem attainable_drawn {v : Value} (hv : v ∈ s.candidates h lookback)
    (hsize : s.values.length ≤ UInt64.size) : Attainable lookback h [.drawn s v] := by
  obtain ⟨word, hword⟩ := Words.exists_word_pick_eq hv (Slot.length_candidates_le.trans hsize)
  refine ⟨[word], fun used more => ?_⟩
  have hpick := hword _ (Words.ahead_after_cons used word more)
  rw [Words.skip_after_cons] at hpick
  exact .drawn hpick .nil

/-- However a run has begun, it can be continued through any segments. -/
theorem exists_attainable {segments : List Segment} (hslots : Drawable segments) :
    ∃ events, Attainable lookback h events ∧ events.map Event.segment = segments := by
  induction segments generalizing h with
  | nil => exact ⟨[], .nil, rfl⟩
  | cons segment segments ih =>
    have hsegment : ∃ event : Event,
        Attainable lookback h [event] ∧ event.segment = segment := by
      cases segment with
      | literal text => exact ⟨.literal text, attainable_literal text, rfl⟩
      | slot s =>
        by_cases hnil : s.candidates h lookback = []
        · exact ⟨.dead s, attainable_dead hnil, rfl⟩
        · obtain ⟨v, hv⟩ := List.exists_mem_of_ne_nil _ hnil
          exact ⟨.drawn s v, attainable_drawn hv (hslots s List.mem_cons_self).2, rfl⟩
    obtain ⟨event, hevent, heq⟩ := hsegment
    obtain ⟨events, hevents, hmap⟩ := ih (h := h.after [event]) hslots.tail
    exact ⟨event :: events, hevent.append hevents, by rw [List.map_cons, heq, hmap]⟩

theorem Attainable.exists_trace (hevents : Attainable lookback h events) :
    ∃ words left, Trace lookback h (.ofScript words) events left := by
  obtain ⟨words, hwords⟩ := hevents
  refine ⟨words, .after words [], ?_⟩
  have htrace := hwords [] []
  rw [List.append_nil] at htrace
  exact htrace

end Attainable

end SlotPattern
