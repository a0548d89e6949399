import SlotPattern.Pattern.Printer
import SlotPattern.Proofs.Candidates
import SlotPattern.Proofs.Draw
import SlotPattern.Resolution.Basic

/-!
# The meaning of a pattern

What a pattern can become, regardless of random words: a slot takes any value of an option whose
constraint holds, or renders nothing if there is no such option. Resolving gives one of the rows of
pieces that the pattern can become on every script of words, and each of them on some script.
-/

namespace SlotPattern

/-! ### The meaning of a pattern -/

/-- The names that a constraint sees, if the slots before it have drawn these values, the latest
first. A slot that drew no value is not among them. -/
def Lookback.seen : Lookback → List Value → List String
  | .history, drawn => drawn.filterMap Value.name?
  | .previousSlot, [] => []
  | .previousSlot, v :: _ => v.name?.toList

/-- What segments can become, after the slots before them have drawn these values. -/
inductive Becomes (lookback : Lookback) : List Value → List Segment → List Piece → Prop
  | nil {drawn : List Value} : Becomes lookback drawn [] []
  | literal {drawn : List Value} {text : String} {segments : List Segment} {pieces : List Piece}
      (rest : Becomes lookback drawn segments pieces) :
      Becomes lookback drawn (.literal text :: segments) (.literal text :: pieces)
  | draw {drawn : List Value} {s : Slot} {o : SlotOption} {v : Value} {segments : List Segment}
      {pieces : List Piece} (ho : o ∈ s.options) (hc : o.constraint.Holds (lookback.seen drawn))
      (hv : v ∈ o.values) (rest : Becomes lookback (v :: drawn) segments pieces) :
      Becomes lookback drawn (.slot s :: segments) (v.piece :: pieces)
  | empty {drawn : List Value} {s : Slot} {segments : List Segment} {pieces : List Piece}
      (hnone : ∀ o ∈ s.options, ¬o.constraint.Holds (lookback.seen drawn))
      (rest : Becomes lookback drawn segments pieces) :
      Becomes lookback drawn (.slot s :: segments) (.nothing :: pieces)

/-! ### The history of a run -/

namespace History

/-- The history after slots have drawn these values, the latest first. -/
def ofDrawn (drawn : List Value) : History :=
  ⟨drawn.filterMap Value.name?, drawn.head?.bind Value.name?⟩

theorem empty_eq_ofDrawn : empty = ofDrawn [] := rfl

theorem record_ofDrawn (v : Value) (drawn : List Value) :
    (ofDrawn drawn).record v.name? = ofDrawn (v :: drawn) := by
  cases v <;> rfl

theorem visible_ofDrawn (lookback : Lookback) (drawn : List Value) :
    (ofDrawn drawn).visible lookback = lookback.seen drawn := by
  cases lookback with
  | history => rfl
  | previousSlot => cases drawn <;> rfl

end History

/-! ### One step of a run -/

section Step

variable {lookback : Lookback} {s : Slot} {segments : List Segment} {h : History} {w : Words}

theorem resolveFrom_literal {text : String} :
    resolveFrom lookback (.literal text :: segments) h w =
      Prod.map (List.cons (.literal text)) id (resolveFrom lookback segments h w) := rfl

theorem resolveFrom_empty (hnil : s.candidates h lookback = []) :
    resolveFrom lookback (.slot s :: segments) h w =
      Prod.map (List.cons .nothing) id (resolveFrom lookback segments h w) := by
  rw [resolveFrom, hnil]
  rfl

theorem resolveFrom_draw {v : Value} {rest : Words}
    (hpick : w.pick (s.candidates h lookback) = (some v, rest)) :
    resolveFrom lookback (.slot s :: segments) h w =
      Prod.map (List.cons v.piece) id (resolveFrom lookback segments (h.record v.name?) rest) := by
  rw [resolveFrom, hpick]
  rfl

/-- Two slots with the same candidates draw alike, and go on alike if the runs behind them do. -/
theorem resolveFrom_slot_congr {lookback' : Lookback} {t : Slot} {segments' : List Segment}
    {h' : History} (hcandidates : s.candidates h lookback = t.candidates h' lookback')
    (hdrawn : ∀ v ∈ s.candidates h lookback, ∀ w : Words,
      resolveFrom lookback segments (h.record v.name?) w =
        resolveFrom lookback' segments' (h'.record v.name?) w)
    (hempty : ∀ w : Words, resolveFrom lookback segments h w =
      resolveFrom lookback' segments' h' w) :
    resolveFrom lookback (.slot s :: segments) h w =
      resolveFrom lookback' (.slot t :: segments') h' w := by
  by_cases hnil : s.candidates h lookback = []
  · rw [resolveFrom_empty hnil, resolveFrom_empty (hcandidates ▸ hnil), hempty]
  · obtain ⟨v, hv, left, hpick⟩ := Words.exists_pick_eq_some hnil w
    rw [resolveFrom_draw hpick, resolveFrom_draw (hcandidates ▸ hpick), hdrawn v hv]

end Step

/-! ### Soundness and completeness -/

variable {lookback : Lookback}

theorem becomes_resolveFrom {segments : List Segment}
    (hwell : ∀ s, .slot s ∈ segments → s.WellFormed) (drawn : List Value) (w : Words) :
    Becomes lookback drawn segments (resolveFrom lookback segments (.ofDrawn drawn) w).1 := by
  induction segments generalizing drawn w with
  | nil => exact .nil
  | cons segment segments ih =>
    have hrest := ih fun s hs => hwell s (List.mem_cons_of_mem segment hs)
    cases segment with
    | literal text =>
      rw [resolveFrom_literal]
      exact .literal (hrest drawn w)
    | slot s =>
      by_cases hnil : s.candidates (.ofDrawn drawn) lookback = []
      · have hnone := (Slot.candidates_eq_nil_iff (hwell s List.mem_cons_self)).mp hnil
        rw [History.visible_ofDrawn] at hnone
        rw [resolveFrom_empty hnil]
        exact .empty hnone (hrest drawn w)
      · obtain ⟨v, hv, left, hpick⟩ := Words.exists_pick_eq_some hnil w
        obtain ⟨o, ho, hc, hvalue⟩ := Slot.mem_candidates_iff_holds.mp hv
        rw [History.visible_ofDrawn] at hc
        rw [resolveFrom_draw hpick, History.record_ofDrawn]
        exact .draw ho hc hvalue (hrest (v :: drawn) left)

/-- The slots are well-formed, and each of their values can be drawn with a word. -/
def Drawable (segments : List Segment) : Prop :=
  ∀ s, .slot s ∈ segments → s.WellFormed ∧ s.values.length ≤ UInt64.size

theorem Drawable.mono {segments more : List Segment} (h : Drawable more) (hsub : segments ⊆ more) :
    Drawable segments :=
  fun s hs => h s (hsub hs)

theorem Drawable.tail {segment : Segment} {segments : List Segment}
    (h : Drawable (segment :: segments)) : Drawable segments :=
  h.mono (List.subset_cons_self segment segments)

/-- The script has one word for each slot that draws, and no word is passed over. -/
theorem Becomes.exists_words {drawn : List Value} {segments : List Segment} {pieces : List Piece}
    (h : Becomes lookback drawn segments pieces) (hslots : Drawable segments)
    (used : List UInt64) :
    ∃ words, (resolveFrom lookback segments (.ofDrawn drawn) (.after used words)).1 = pieces := by
  induction h generalizing used with
  | nil => exact ⟨[], rfl⟩
  | literal _ ih =>
    obtain ⟨words, hwords⟩ := ih hslots.tail used
    refine ⟨words, ?_⟩
    rw [resolveFrom_literal, ← hwords]
    rfl
  | @draw drawn s o v segments pieces ho hc hv _ ih =>
    obtain ⟨-, hsize⟩ := hslots s List.mem_cons_self
    have hmem : v ∈ s.candidates (.ofDrawn drawn) lookback :=
      Slot.mem_candidates_iff_holds.mpr ⟨o, ho, History.visible_ofDrawn lookback drawn ▸ hc, hv⟩
    obtain ⟨word, hword⟩ := Words.exists_word_pick_eq hmem (Slot.length_candidates_le.trans hsize)
    -- The rest of the script is built with this word counted as used.
    obtain ⟨words, hwords⟩ := ih hslots.tail (used ++ [word])
    refine ⟨word :: words, ?_⟩
    have hpick := hword _ (Words.ahead_after_cons used word words)
    rw [Words.skip_after_cons] at hpick
    rw [resolveFrom_draw hpick, History.record_ofDrawn, ← hwords]
    rfl
  | @empty drawn s segments pieces hnone _ ih =>
    obtain ⟨hwell, -⟩ := hslots s List.mem_cons_self
    have hnil : s.candidates (.ofDrawn drawn) lookback = [] := by
      rw [Slot.candidates_eq_nil_iff hwell, History.visible_ofDrawn]
      exact hnone
    obtain ⟨words, hwords⟩ := ih hslots.tail used
    refine ⟨words, ?_⟩
    rw [resolveFrom_empty hnil, ← hwords]
    rfl

namespace Pattern

/-- A compiled pattern has no more values than its text has characters. -/
theorem drawable_of_compile {s : String} {p : Pattern} (h : compile s = .ok p)
    (hsize : s.length < UInt64.size) : Drawable p.segments := by
  intro slot hslot
  have hvalues := length_values_le_of_compile h slot hslot
  exact ⟨(wellFormed_of_compile h).slots slot hslot, hvalues.trans (Nat.le_of_lt hsize)⟩

/-- Resolving a compiled pattern gives exactly what the pattern can become. The length of a text is
itself a word, so the text has few enough values for every one of them to be drawn. -/
theorem exists_resolve_iff_becomes {s : String} {p : Pattern} (h : compile s = .ok p)
    (hsize : s.length < UInt64.size) (lookback : Lookback) (pieces : List Piece) :
    (∃ words, (p.resolve lookback (.ofScript words)).1 = pieces) ↔
      Becomes lookback [] p.segments pieces := by
  have hwell := (wellFormed_of_compile h).slots
  constructor
  · rintro ⟨words, rfl⟩
    rw [resolve, History.empty_eq_ofDrawn]
    exact becomes_resolveFrom hwell [] (.ofScript words)
  · intro hbecomes
    obtain ⟨words, hwords⟩ := hbecomes.exists_words (drawable_of_compile h hsize) []
    refine ⟨words, ?_⟩
    rw [resolve, Words.ofScript_eq_after, History.empty_eq_ofDrawn, hwords]

/-- The slot in the middle has no option, so the last slot still sees the name of the first. -/
theorem exists_resolve_past_empty_slot :
    ∃ p, compile "\x7ba|?\x7d\x7bb>c\x7d-\x7ba>d\x7d" = .ok p ∧
      "\x7ba|?\x7d\x7bb>c\x7d-\x7ba>d\x7d".length < UInt64.size ∧
      ∃ words, (p.resolve .previousSlot (.ofScript words)).1 =
        [.value "a", .nothing, .literal "-", .value "d"] := by
  let p : Pattern := ⟨[.slot ⟨[⟨[.name "a"], .unconstrained⟩, ⟨[.nothing], .unconstrained⟩]⟩,
    .slot ⟨[⟨[.name "c"], .requires ["b"]⟩]⟩, .literal "-",
    .slot ⟨[⟨[.name "d"], .requires ["a"]⟩]⟩]⟩
  have hp : compile "\x7ba|?\x7d\x7bb>c\x7d-\x7ba>d\x7d" = .ok p := by decide +kernel
  have hsize : "\x7ba|?\x7d\x7bb>c\x7d-\x7ba>d\x7d".length < UInt64.size := by decide
  refine ⟨p, hp, hsize, (exists_resolve_iff_becomes hp hsize .previousSlot _).mpr ?_⟩
  have hseen : (Constraint.requires ["a"]).Holds (Lookback.previousSlot.seen [.name "a"]) :=
    ⟨"a", List.mem_cons_self, List.mem_cons_self⟩
  have hlast : Becomes .previousSlot [.name "a"] [.slot ⟨[⟨[.name "d"], .requires ["a"]⟩]⟩]
      [.value "d"] := .draw (v := .name "d") List.mem_cons_self hseen List.mem_cons_self .nil
  refine .draw (v := .name "a") List.mem_cons_self trivial List.mem_cons_self ?_
  refine .empty ?_ (.literal hlast)
  simp [Constraint.Holds, Lookback.seen]

end Pattern

end SlotPattern
