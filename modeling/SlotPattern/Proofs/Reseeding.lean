import SlotPattern.Proofs.GeneratorRuns
import SlotPattern.Proofs.WellFormed

/-!
# Starting again with a seed

A call can change two things of a generator: one that compiles a text sets the pattern, and any call
may use or replace words. A seed replaces the words as a whole, so of all calls before it only the
last pattern is left, and that can be compiled again from its canonical text.
-/

namespace SlotPattern.Generator

/-! ### The last pattern -/

/-- The pattern that is compiled last when texts are compiled one after the other. A text that does
not compile is passed over. -/
def lastCompiled (texts : List String) : Option Pattern :=
  (texts.filterMap fun text => (Pattern.compile text).toOption).getLast?

theorem lastCompiled_append (texts more : List String) :
    lastCompiled (texts ++ more) = (lastCompiled more).or (lastCompiled texts) := by
  rw [lastCompiled, List.filterMap_append, List.getLast?_append]
  rfl

theorem lastCompiled_singleton_of_ok {text : String} {p : Pattern}
    (h : Pattern.compile text = .ok p) : lastCompiled [text] = some p := by
  simp [lastCompiled, h, Except.toOption]

theorem lastCompiled_singleton_of_error {text : String} {e : ParseError}
    (h : Pattern.compile text = .error e) : lastCompiled [text] = none := by
  simp [lastCompiled, h, Except.toOption]

theorem exists_compile_of_lastCompiled {texts : List String} {p : Pattern}
    (h : lastCompiled texts = some p) : ∃ text ∈ texts, Pattern.compile text = .ok p := by
  obtain ⟨text, htext, hp⟩ := List.mem_filterMap.mp (List.mem_of_getLast? h)
  cases hcompile : Pattern.compile text with
  | ok q =>
    rw [hcompile] at hp
    obtain rfl : q = p := Option.some.inj hp
    exact ⟨text, htext, hcompile⟩
  | error e =>
    rw [hcompile] at hp
    cases hp

/-- The canonical text of a last pattern compiles to it. -/
theorem compile?_lastCompiled (texts : List String) :
    compile? ((lastCompiled texts).map toString) = .ok (lastCompiled texts) := by
  cases h : lastCompiled texts with
  | none => rfl
  | some p =>
    obtain ⟨text, -, htext⟩ := exists_compile_of_lastCompiled h
    have hcanonical := Pattern.compile_text (Pattern.wellFormed_of_compile htext)
    rw [Option.map_some, compile?, hcanonical]

/-! ### What calls leave behind -/

/-- The text that a call compiles. -/
def Call.text? : Call → Option String
  | compile text => some text
  | _ => none

/-- The second generator is what calls that compile these texts, and any others between them, can
make of the first one. -/
structure Continues (texts : List String) (g next : Generator) : Prop where
  name : next.name = g.name
  lookback : next.lookback = g.lookback
  pattern : next.pattern = (lastCompiled texts).or g.pattern

theorem Continues.of_words (g : Generator) (words : Words) : Continues [] g { g with words } :=
  ⟨rfl, rfl, rfl⟩

theorem Continues.trans {texts more : List String} {g next last : Generator}
    (h : Continues texts g next) (h' : Continues more next last) :
    Continues (texts ++ more) g last := by
  refine ⟨h'.name.trans h.name, h'.lookback.trans h.lookback, ?_⟩
  rw [h'.pattern, h.pattern, lastCompiled_append, Option.or_assoc]

section Calls

variable {g next : Generator}

/-- How the answer of a step is worded makes no difference. -/
theorem continues_bind_pure {α β : Type} {step : Step α} {f : α → β} {b : β}
    {texts : List String} (hstep : ∀ a, step.run g = .ok a next → Continues texts g next)
    (h : (step >>= fun a => pure (f a)).run g = .ok b next) : Continues texts g next := by
  rw [EStateM.run_bind] at h
  cases hrun : step.run g with
  | ok a middle =>
    rw [hrun] at h
    cases h
    exact hstep a hrun
  | error e middle =>
    rw [hrun] at h
    cases h

theorem continues_sample {p : Pattern} {text : String} (h : (sample p).run g = .ok text next) :
    Continues [] g next := by
  rw [run_sample] at h
  cases h
  exact .of_words _ _

theorem continues_compile {text : String} (h : (compile text).run g = .ok () next) :
    Continues [text] g next := by
  rw [run_compile] at h
  split at h
  next p hp =>
    cases h
    exact ⟨rfl, rfl, by rw [lastCompiled_singleton_of_ok hp, Option.some_or]⟩
  next => cases h

theorem continues_generate {text : String} (h : generate.run g = .ok text next) :
    Continues [] g next := by
  rw [run_generate] at h
  split at h
  · exact continues_sample h
  · cases h

theorem continues_times {α : Type} {step : Step α}
    (hstep : ∀ g a next, step.run g = .ok a next → Continues [] g next) {k : Nat} {as : List α}
    (h : (times k step).run g = .ok as next) : Continues [] g next := by
  induction k generalizing g as with
  | zero =>
    cases h
    exact .of_words _ _
  | succ k ih =>
    cases hfirst : step.run g with
    | ok a middle =>
      rw [run_times_succ hfirst] at h
      cases hrest : (times k step).run middle with
      | ok rest last =>
        rw [hrest] at h
        cases h
        exact (hstep g a middle hfirst).trans (ih hrest)
      | error e last =>
        rw [hrest] at h
        cases h
    | error e middle =>
      rw [times, EStateM.run_bind, hfirst] at h
      cases h

theorem continues_generateFormat {formats : FormatSet} {key text : String}
    (h : (generateFormat formats key).run g = .ok text next) : Continues [] g next := by
  rw [run_generateFormat] at h
  split at h
  · exact continues_sample h
  · cases h

theorem continues_resetSeed {seed : UInt64} (h : (resetSeed seed).run g = .ok () next) :
    Continues [] g next := by
  rw [run_resetSeed] at h
  cases h
  exact ⟨rfl, rfl, rfl⟩

/-- A call that succeeds compiles its text, if it has one, and keeps the name and the lookback. -/
theorem continues_call {c : Call} {a : Answer} (h : c.step.run g = .ok a next) :
    Continues c.text?.toList g next := by
  cases c with
  | compile text => exact continues_bind_pure (fun _ => continues_compile) h
  | generate => exact continues_bind_pure (fun _ => continues_generate) h
  | generateMany k =>
    exact continues_bind_pure (fun _ => continues_times fun _ _ _ => continues_generate) h
  | generateFormat formats key => exact continues_bind_pure (fun _ => continues_generateFormat) h
  | resetSeed seed => exact continues_bind_pure (fun _ => continues_resetSeed) h

/-- A call that fails has no text that compiles. -/
theorem lastCompiled_of_call_eq_error {c : Call} {e : GeneratorError}
    (h : c.step.run g = .error e next) : lastCompiled c.text?.toList = none := by
  cases c with
  | compile text =>
    have hrun := run_bind_pure_eq_error_iff.mp h
    rw [run_compile] at hrun
    split at hrun
    next => cases hrun
    next e' he => exact lastCompiled_singleton_of_error he
  | _ => rfl

end Calls

/-! ### What runs leave behind -/

theorem continues_play (calls : List Call) (g : Generator) :
    Continues (calls.filterMap Call.text?) g (play calls g).2 := by
  induction calls generalizing g with
  | nil => exact .of_words g _
  | cons c calls ih =>
    have htexts : (c :: calls).filterMap Call.text? =
        c.text?.toList ++ calls.filterMap Call.text? := by
      cases hc : c.text? <;> simp [hc]
    rw [htexts]
    cases h : c.step.run g with
    | ok a next =>
      rw [play_cons_ok h]
      exact (continues_call h).trans (ih next)
    | error e next =>
      rw [play_cons_error h]
      have hnone := lastCompiled_of_call_eq_error h
      exact Continues.trans ⟨rfl, rfl, by rw [hnone, Option.none_or]⟩ (ih g)

theorem play_append (calls later : List Call) (g : Generator) :
    play (calls ++ later) g =
      ((play calls g).1 ++ (play later (play calls g).2).1, (play later (play calls g).2).2) := by
  induction calls generalizing g with
  | nil => rfl
  | cons c calls ih =>
    cases h : c.step.run g with
    | ok a next =>
      rw [List.cons_append, play_cons_ok h, play_cons_ok h, ih next]
      rfl
    | error e next =>
      rw [List.cons_append, play_cons_error h, play_cons_error h, ih g]
      rfl

/-! ### Fresh generators -/

theorem build_eq_ok_iff {entropy : ChaCha.Key} {settings : GeneratorSettings} {g : Generator} :
    build entropy settings = .ok g ↔ ∃ pattern, compile? settings.pattern = .ok pattern ∧
      g = ⟨settings.name.getD "PatternGenerator", pattern, settings.lookback, settings.seed,
        (settings.seed.map Words.ofSeed).getD (.ofKey entropy)⟩ := by
  rw [build]
  cases compile? settings.pattern with
  | error e => simp [bind, Except.bind]
  | ok pattern =>
    cases settings.seed <;> simp [bind, Except.bind, pure, Except.pure, eq_comm]

theorem pattern_of_build {entropy : ChaCha.Key} {settings : GeneratorSettings} {g : Generator}
    (h : build entropy settings = .ok g) : g.pattern = lastCompiled settings.pattern.toList := by
  obtain ⟨pattern, hpattern, rfl⟩ := build_eq_ok_iff.mp h
  cases htext : settings.pattern with
  | none =>
    rw [htext] at hpattern
    cases hpattern
    rfl
  | some text =>
    rw [htext, compile?] at hpattern
    split at hpattern
    next p hp =>
      cases hpattern
      exact (lastCompiled_singleton_of_ok hp).symm
    next => cases hpattern

/-- Whatever has been called on a generator, with a new seed it becomes the one that is built with
that seed, its name and lookback, and the canonical text of the last pattern compiled for it. From
then on all answers are the same. -/
theorem play_resetSeed {entropy : ChaCha.Key} {settings : GeneratorSettings} {g : Generator}
    (hg : build entropy settings = .ok g) (calls : List Call) (seed : UInt64)
    (entropy' : ChaCha.Key) :
    ∃ fresh,
      build entropy'
        { name := some g.name
          pattern := (lastCompiled
            (settings.pattern.toList ++ calls.filterMap Call.text?)).map toString
          seed := some seed
          lookback := g.lookback } = .ok fresh ∧
      (play (calls ++ [.resetSeed seed]) g).2 = fresh ∧
      ∀ later, (play (calls ++ .resetSeed seed :: later) g).1 =
        (play (calls ++ [.resetSeed seed]) g).1 ++ (play later fresh).1 := by
  obtain ⟨hname, hlookback, hpattern⟩ := continues_play calls g
  rw [pattern_of_build hg, ← lastCompiled_append] at hpattern
  have hlast : (play (calls ++ [.resetSeed seed]) g).2 =
      ⟨g.name, lastCompiled (settings.pattern.toList ++ calls.filterMap Call.text?), g.lookback,
        some seed, .ofSeed seed⟩ := by
    rw [play_append, ← hname, ← hlookback, ← hpattern]
    rfl
  refine ⟨_, build_eq_ok_iff.mpr ⟨_, compile?_lastCompiled _, rfl⟩, hlast, fun later => ?_⟩
  rw [List.append_cons, play_append, hlast]
  rfl

/-- The generator has used words that come from no seed. The last text that it can compile repeats a
member of a group, which the canonical text does not, and two texts do not compile. -/
theorem play_resetSeed_repeated_member :
    ∃ (calls : List Call) (g fresh : Generator),
      calls = [.compile "\x7b", .generateMany 2, .compile "\x7bc|(d|e|d)\x7d", .compile "\x7d",
        .generate] ∧
      build (.ofSeed 7) ⟨none, some "\x7ba|b\x7d", none, .previousSlot⟩ = .ok g ∧
      build (.ofSeed 8) ⟨some "PatternGenerator", some "\x7bc|(d|e)\x7d", some 20,
        .previousSlot⟩ = .ok fresh ∧
      (play (calls ++ [.resetSeed 20]) g).2 = fresh ∧
      ∀ later, (play (calls ++ .resetSeed 20 :: later) g).1 =
        (play (calls ++ [.resetSeed 20]) g).1 ++ (play later fresh).1 := by
  let p : Pattern := ⟨[.slot ⟨[⟨[.name "a"], .unconstrained⟩, ⟨[.name "b"], .unconstrained⟩]⟩]⟩
  let g : Generator := ⟨"PatternGenerator", some p, .previousSlot, none, .ofKey (.ofSeed 7)⟩
  let calls : List Call := [.compile "\x7b", .generateMany 2, .compile "\x7bc|(d|e|d)\x7d",
    .compile "\x7d", .generate]
  have hp : compile? (some "\x7ba|b\x7d") = .ok (some p) := by decide +kernel
  have hg : build (.ofSeed 7) ⟨none, some "\x7ba|b\x7d", none, .previousSlot⟩ = .ok g :=
    build_eq_ok_iff.mpr ⟨some p, hp, rfl⟩
  have htext : (lastCompiled ("\x7ba|b\x7d" :: calls.filterMap Call.text?)).map toString =
      some "\x7bc|(d|e)\x7d" := by
    decide +kernel
  obtain ⟨fresh, hfresh, hlast, hlater⟩ := play_resetSeed hg calls 20 (.ofSeed 8)
  exact ⟨calls, g, fresh, rfl, hg, htext ▸ hfresh, hlast, hlater⟩

end SlotPattern.Generator
