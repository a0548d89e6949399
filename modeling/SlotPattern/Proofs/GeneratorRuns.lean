import Mathlib.Control.Monad.Basic
import SlotPattern.Generator

/-!
# Runs of a generator

A program makes calls on a generator one after the other, and goes on after a call that has failed.
A failed call leaves the generator exactly as it was, so a run is as if it had never been made.
-/

namespace SlotPattern.Generator

/-! ### Rows of samples -/

theorem run_times_succ {α : Type} {k : Nat} {step : Step α} {g next : Generator} {a : α}
    (h : step.run g = .ok a next) :
    (times (k + 1) step).run g =
      match (times k step).run next with
      | .ok rest last => .ok (a :: rest) last
      | .error e last => .error e last := by
  simp only [times, EStateM.run_bind, EStateM.run_pure, h]
  cases (times k step).run next <;> rfl

/-- `k` steps, and then `l` more, are `k + l` steps. -/
theorem times_add {α : Type} (k l : Nat) (step : Step α) :
    times (k + l) step = (do
      let front ← times k step
      let back ← times l step
      pure (front ++ back)) := by
  induction k with
  | zero => simp [times]
  | succ k ih =>
    rw [Nat.add_right_comm]
    simp [times, ih]

/-- Samples of a pattern never fail, and change nothing but the words. They depend on nothing else
of a generator but the lookback. -/
theorem exists_samples (p : Pattern) (lookback : Lookback) (k : Nat) (w : Words) :
    ∃ texts left, texts.length = k ∧ ∀ g : Generator, g.lookback = lookback → g.words = w →
      (times k (sample p)).run g = .ok texts { g with words := left } := by
  induction k generalizing w with
  | zero =>
    refine ⟨[], w, rfl, ?_⟩
    rintro g - rfl
    rfl
  | succ k ih =>
    obtain ⟨texts, left, hlength, hrest⟩ := ih (p.resolve lookback w).2
    refine ⟨render (p.resolve lookback w).1 :: texts, left, congrArg (· + 1) hlength, ?_⟩
    rintro g rfl rfl
    have hnext := hrest { g with words := (p.resolve g.lookback g.words).2 } rfl rfl
    rw [run_times_succ (run_sample p g), hnext]

/-- A generator keeps its pattern from sample to sample. -/
theorem run_generateMany_some {g : Generator} {p : Pattern} (hp : g.pattern = some p) (k : Nat) :
    (generateMany k).run g = (times k (sample p)).run g := by
  rw [generateMany]
  induction k generalizing g with
  | zero => rfl
  | succ k ih =>
    have hfirst : generate.run g = (sample p).run g := by
      rw [run_generate, hp]
    have hrest := ih (g := { g with words := (p.resolve g.lookback g.words).2 }) hp
    rw [run_times_succ (hfirst.trans (run_sample p g)), run_times_succ (run_sample p g), hrest]

theorem run_generateMany_none {g : Generator} (hp : g.pattern = none) (k : Nat) :
    (generateMany (k + 1)).run g = .error (.notCompiled g.name) g := by
  rw [generateMany, times, EStateM.run_bind, run_generate, hp]

/-! ### Calls -/

/-- A call on a generator. -/
inductive Call
  | compile (text : String)
  | generate
  | generateMany (k : Nat)
  | generateFormat (formats : FormatSet) (key : String)
  | resetSeed (seed : UInt64)

/-- What a call that has not failed returns. -/
inductive Answer
  | done
  | sample (text : String)
  | samples (texts : List String)
  deriving DecidableEq

/-- The step that a call takes. -/
def Call.step : Call → Step Answer
  | compile text => do
    Generator.compile text
    pure .done
  | generate => do
    let text ← Generator.generate
    pure (.sample text)
  | generateMany k => do
    let texts ← Generator.generateMany k
    pure (.samples texts)
  | generateFormat formats key => do
    let text ← Generator.generateFormat formats key
    pure (.sample text)
  | resetSeed seed => do
    Generator.resetSeed seed
    pure .done

section Failures

variable {g left : Generator} {e : GeneratorError}

theorem run_bind_pure_eq_error_iff {α β : Type} {step : Step α} {f : α → β} :
    (step >>= fun a => pure (f a)).run g = .error e left ↔ step.run g = .error e left := by
  rw [EStateM.run_bind]
  cases step.run g <;> simp

theorem compile_eq_error {text : String} (h : (compile text).run g = .error e left) :
    left = g := by
  rw [run_compile] at h
  split at h <;> cases h
  rfl

theorem generate_eq_error (h : generate.run g = .error e left) : left = g := by
  rw [run_generate] at h
  split at h <;> cases h
  rfl

theorem generateFormat_eq_error {formats : FormatSet} {key : String}
    (h : (generateFormat formats key).run g = .error e left) : left = g := by
  rw [run_generateFormat] at h
  split at h <;> cases h
  rfl

/-- Only the first sample can fail, before any word has been used. -/
theorem generateMany_eq_error {k : Nat} (h : (generateMany k).run g = .error e left) :
    left = g := by
  cases hp : g.pattern with
  | some p =>
    obtain ⟨texts, left, -, hrun⟩ := exists_samples p g.lookback k g.words
    rw [run_generateMany_some hp, hrun g rfl rfl] at h
    cases h
  | none =>
    cases k with
    | zero => cases h
    | succ k =>
      rw [run_generateMany_none hp] at h
      cases h
      rfl

/-- A failed call leaves the generator as it was. -/
theorem call_eq_error {c : Call} (h : c.step.run g = .error e left) : left = g := by
  cases c with
  | compile text => exact compile_eq_error (run_bind_pure_eq_error_iff.mp h)
  | generate => exact generate_eq_error (run_bind_pure_eq_error_iff.mp h)
  | generateMany k => exact generateMany_eq_error (run_bind_pure_eq_error_iff.mp h)
  | generateFormat formats key => exact generateFormat_eq_error (run_bind_pure_eq_error_iff.mp h)
  | resetSeed seed => cases h

end Failures

/-! ### Runs -/

/-- A call and its answer. -/
abbrev Entry := Call × Except GeneratorError Answer

/-- Has the call not failed? -/
def Entry.succeeded (entry : Entry) : Bool :=
  entry.2.isOk

/-- Makes calls one after the other, and lists each with its answer. A failed call does not end the
run. -/
def play : List Call → Generator → List Entry × Generator
  | [], g => ([], g)
  | c :: calls, g =>
    match c.step.run g with
    | .ok a next => ((c, .ok a) :: (play calls next).1, (play calls next).2)
    | .error e next => ((c, .error e) :: (play calls next).1, (play calls next).2)

section Play

variable {c : Call} {calls : List Call} {g next : Generator}

theorem play_cons_ok {a : Answer} (h : c.step.run g = .ok a next) :
    play (c :: calls) g = Prod.map ((c, .ok a) :: ·) id (play calls next) := by
  rw [play, h]
  rfl

theorem play_cons_error {e : GeneratorError} (h : c.step.run g = .error e next) :
    play (c :: calls) g = Prod.map ((c, .error e) :: ·) id (play calls g) := by
  obtain rfl := call_eq_error h
  rw [play, h]
  rfl

end Play

theorem map_fst_play (calls : List Call) (g : Generator) :
    (play calls g).1.map Prod.fst = calls := by
  induction calls generalizing g with
  | nil => rfl
  | cons c calls ih =>
    cases h : c.step.run g with
    | ok a next =>
      rw [play_cons_ok h]
      exact congrArg (c :: ·) (ih next)
    | error e next =>
      rw [play_cons_error h]
      exact congrArg (c :: ·) (ih g)

theorem play_filter_succeeded (calls : List Call) (g : Generator) :
    play (((play calls g).1.filter Entry.succeeded).map Prod.fst) g =
      ((play calls g).1.filter Entry.succeeded, (play calls g).2) := by
  induction calls generalizing g with
  | nil => rfl
  | cons c calls ih =>
    cases h : c.step.run g with
    | ok a next =>
      -- The first call is kept, so the calls that are made again start with it.
      rw [play_cons_ok h]
      change play (c :: ((play calls next).1.filter Entry.succeeded).map Prod.fst) g = _
      rw [play_cons_ok h, ih next]
      rfl
    | error e next =>
      rw [play_cons_error h]
      exact ih g

/-- The calls of a run that have not failed, made alone, have the same answers and end at the same
generator. -/
theorem play_without_failures (calls : List Call) (g : Generator) :
    (play calls g).1.map Prod.fst = calls ∧
      play (((play calls g).1.filter Entry.succeeded).map Prod.fst) g =
        ((play calls g).1.filter Entry.succeeded, (play calls g).2) ∧
      ∀ c e left, (Call.step c).run g = .error e left → left = g :=
  ⟨map_fst_play calls g, play_filter_succeeded calls g, fun _ _ _ h => call_eq_error h⟩

/-- Each kind of failure comes once: no pattern, a text that does not compile, an unknown format. -/
theorem play_without_failures_each_kind :
    ∃ (g : Generator) (calls : List Call),
      calls = [.generate, .compile "\x7ba|b\x7d", .compile "\x7b", .generateFormat .empty "x",
        .generateMany 2] ∧
      (play calls g).1.map Prod.snd =
        [.error (.notCompiled "g"), .ok .done, .error (.parse ⟨.unterminatedSlot, 0⟩),
          .error (.format (.formatNotFound "x")), .ok (.samples ["\x7ba\x7d", "\x7ba\x7d"])] ∧
      play [.compile "\x7ba|b\x7d", .generateMany 2] g =
        ([(.compile "\x7ba|b\x7d", .ok .done),
          (.generateMany 2, .ok (.samples ["\x7ba\x7d", "\x7ba\x7d"]))], (play calls g).2) ∧
      ∃ left, Call.generate.step.run g = .error (.notCompiled "g") left ∧ left = g := by
  let g : Generator := ⟨"g", none, .history, none, .ofScript []⟩
  let calls : List Call := [.generate, .compile "\x7ba|b\x7d", .compile "\x7b",
    .generateFormat .empty "x", .generateMany 2]
  have hanswers : (play calls g).1.map Prod.snd =
      [.error (.notCompiled "g"), .ok .done, .error (.parse ⟨.unterminatedSlot, 0⟩),
        .error (.format (.formatNotFound "x")), .ok (.samples ["\x7ba\x7d", "\x7ba\x7d"])] := by
    decide +kernel
  have hfails : Call.generate.step.run g = .error (.notCompiled "g") g := rfl
  obtain ⟨hcalls, hkept, hleft⟩ := play_without_failures calls g
  rw [List.zip_of_prod hcalls hanswers] at hkept
  exact ⟨g, calls, rfl, hanswers, hkept, _, hfails, hleft _ _ _ hfails⟩

end SlotPattern.Generator
