import SlotPattern.Proofs.GeneratorRuns
import SlotPattern.Proofs.StoredPatterns
import SlotPattern.Proofs.WellFormed
import SlotPattern.Tool.Preview

/-!
# Two ways to the same samples

A sample of a format and a sample of a generator's own pattern are drawn alike: the texts and the
words that are left over depend on the pattern, the lookback and the words alone. The canonical text
of a stored pattern compiles to it again, so it can stand for the format wherever samples are made.
-/

namespace SlotPattern

namespace Generator

variable {p : Pattern}

theorem generateFormat_eq_sample {formats : FormatSet} {key : String}
    (hp : formats.lookup key = .ok p) : generateFormat formats key = sample p := by
  rw [generateFormat, hp]

theorem run_compile_text (hp : p.WellFormed) (g : Generator) :
    (compile (toString p)).run g = .ok () { g with pattern := some p } := by
  rw [run_compile, Pattern.compile_text hp]

end Generator

namespace Tool.Preview

open Generator

variable {readFile : String → Except FileError String} {args : List String} {r : Request}

/-- A call that sets any option does not ask for help. -/
theorem asksForHelp_of_read (hread : Request.default.read args = .ok r) (hset : r ≠ .default) :
    asksForHelp args = false := by
  cases args with
  | nil =>
    cases hread
    exact absurd rfl hset
  | cons arg rest =>
    rw [← Bool.not_eq_true]
    intro hhelp
    have harg : arg = "--help" ∨ arg = "-h" := by simpa [asksForHelp] using hhelp
    rcases harg with rfl | rfl <;> simp [Request.read, statsFlag, Flag.ofString?] at hread

theorem run_of_read (hread : Request.default.read args = .ok r) (hset : r ≠ .default) :
    run readFile args = r.outcome readFile := by
  rw [run, asksForHelp_of_read hread hset, if_neg Bool.false_ne_true, hread]

theorem answer_of_run {α : Type} {step : Step α} {a : α} {g : Generator}
    (h : step.run r.generator = .ok a g) : r.answer step = .ok a := by
  rw [Request.answer, h]

/-- A request for samples of a format and one for samples of its canonical text, which are alike in
everything else, have the same samples. -/
theorem exists_samples_of_sources {formats : FormatSet} {path key : String} {p : Pattern}
    (hload : loadFormats (readFile path) = .ok formats) (hlookup : formats.lookup key = .ok p)
    (hp : p.WellFormed) (r : Request) :
    ∃ texts, texts.length = r.count.toNat ∧
      Request.samples { r with pattern := none, formats := some path, format := key } readFile =
        .ok texts ∧
      Request.samples { r with pattern := some (toString p), formats := none } readFile =
        .ok texts := by
  obtain ⟨texts, left, hlength, hrun⟩ :=
    exists_samples p r.lookback r.count.toNat (.ofSeed r.seed)
  refine ⟨texts, hlength, ?_, ?_⟩
  · simp only [Request.samples, hload, generateFormat_eq_sample hlookup]
    exact answer_of_run (hrun _ rfl rfl)
  · apply answer_of_run
    rw [EStateM.run_bind, run_compile_text hp]
    exact (run_generateMany_some rfl _).trans (hrun _ rfl rfl)

/-- A format set that is loaded from a file is reachable. -/
theorem reachable_of_loadFormats {text : Except FileError String} {s : FormatSet}
    (h : loadFormats text = .ok s) : s.Reachable := by
  cases text with
  | error e => cases h
  | ok text =>
    cases hs : FormatSet.ofRon text with
    | error e => simp [loadFormats, hs] at h
    | ok t =>
      obtain rfl : t = s := by simpa [loadFormats, hs] using h
      exact .load hs

theorem exists_loadFormats (text : Except FileError String) (P : FormatSet → Bool)
    (h : (match loadFormats text with
      | .ok s => P s
      | .error _ => false) = true) : ∃ s, loadFormats text = .ok s ∧ P s = true := by
  cases hs : loadFormats text with
  | ok s => exact ⟨s, rfl, by simpa [hs] using h⟩
  | error e => simp [hs] at h

end Tool.Preview

open Tool Tool.Preview

/-- Samples of a format are samples of its canonical text, drawn with the same words. A generator
keeps its own pattern when it draws them from the format, and rows of samples can be cut anywhere.
So the preview prints the same for the format as for the text. -/
theorem Generator.samples_of_canonical_text {s : FormatSet} (hs : s.Reachable) {key : String}
    {p : Pattern} (hp : s.lookup key = .ok p) :
    (∀ (g : Generator) (k : Nat), ∃ texts left,
      (times k (generateFormat s key)).run g = .ok texts { g with words := left } ∧
      (do
        compile (toString p)
        generateMany k).run g = .ok texts { g with pattern := some p, words := left }) ∧
    (∀ k l, generateMany (k + l) = (do
      let front ← generateMany k
      let back ← generateMany l
      pure (front ++ back))) ∧
    ∀ (readFile : String → Except FileError String) (path : String) (r : Request)
      (args args' : List String), loadFormats (readFile path) = .ok s →
      Request.default.read args =
        .ok { r with pattern := none, formats := some path, format := key } →
      Request.default.read args' = .ok { r with pattern := some (toString p), formats := none } →
      ∃ texts, texts.length = r.count.toNat ∧
        run readFile args = .success (texts ++ if r.stats then varietyReport texts else []) ∧
        run readFile args' = run readFile args := by
  obtain ⟨text, htext⟩ := hs.compiled.of_lookup hp
  have hwell := Pattern.wellFormed_of_compile htext
  refine ⟨fun g k => ?_, fun k l => times_add k l generate, ?_⟩
  · obtain ⟨texts, left, -, hrun⟩ := exists_samples p g.lookback k g.words
    refine ⟨texts, left, ?_, ?_⟩
    · rw [generateFormat_eq_sample hp]
      exact hrun g rfl rfl
    · rw [EStateM.run_bind, run_compile_text hwell]
      exact (run_generateMany_some rfl k).trans (hrun _ rfl rfl)
  · intro readFile path r args args' hload hread hread'
    obtain ⟨texts, hlength, hformat, htext⟩ := exists_samples_of_sources hload hp hwell r
    refine ⟨texts, hlength, ?_, ?_⟩
    · rw [run_of_read hread (by simp [Request.default]), Request.outcome, hformat]
    · rw [run_of_read hread' (by simp [Request.default]), Request.outcome, htext,
        run_of_read hread (by simp [Request.default]), Request.outcome, hformat]

/-- The format is asked for by its symbol, and its canonical text has an escape and a constraint. -/
theorem Generator.samples_of_canonical_text_by_symbol :
    ∃ (s : FormatSet) (p : Pattern) (readFile : String → Except FileError String),
      s.Reachable ∧ loadFormats (readFile "names.ron") = .ok s ∧ s.lookup "fl" = .ok p ∧
      toString p = "\x7ba|b\x7d\\\x7b\x7ba>c|?\x7d" ∧
      ∃ texts, texts.length = 10 ∧
        run readFile ["--format", "fl", "--formats", "names.ron", "--seed", "7"] =
          .success texts ∧
        run readFile ["--seed", "7", "--pattern", "\x7ba|b\x7d\\\x7b\x7ba>c|?\x7d"] =
          .success texts := by
  let p : Pattern := ⟨[.slot ⟨[⟨[.name "a"], .unconstrained⟩, ⟨[.name "b"], .unconstrained⟩]⟩,
    .literal "\x7b", .slot ⟨[⟨[.name "c"], .requires ["a"]⟩, ⟨[.nothing], .unconstrained⟩]⟩]⟩
  let text : Except FileError String := .ok <|
    "(formats: \x7b\"first_last\": r\"\x7ba|b\x7d\\\x7b\x7ba>c|?\x7d\"\x7d, " ++
      "symbols: \x7b\"fl\": \"first_last\"\x7d)"
  obtain ⟨s, hload, hp⟩ := exists_loadFormats text (fun s => s.lookup "fl" = .ok p)
    (by decide +kernel)
  have hs := reachable_of_loadFormats hload
  have hp := of_decide_eq_true hp
  obtain ⟨-, -, hpreview⟩ := samples_of_canonical_text hs hp
  obtain ⟨texts, hlength, hformat, htext⟩ := hpreview (fun _ => text) "names.ron"
    { Request.default with seed := 7 }
    ["--format", "fl", "--formats", "names.ron", "--seed", "7"]
    ["--seed", "7", "--pattern", "\x7ba|b\x7d\\\x7b\x7ba>c|?\x7d"]
    hload (by decide +kernel) (by decide +kernel)
  rw [hformat] at htext
  exact ⟨s, p, fun _ => text, hs, hload, hp, by decide +kernel, texts, hlength,
    by simpa [Request.default] using hformat, by simpa [Request.default] using htext⟩

end SlotPattern
