import SlotPattern.FormatSet.Basic
import SlotPattern.Resolution.Basic

/-!
# Generators

A generator keeps a pattern and a row of random words, and renders one sample after the other. Its
steps can fail; a step is a computation on the generator, so that what a failed one leaves behind
can be seen.
-/

namespace SlotPattern

/-- A named source of samples. -/
structure Generator where
  name : String
  pattern : Option Pattern
  lookback : Lookback
  /-- The seed of the random words, if they come from one. -/
  seed : Option UInt64
  words : Words

/-- Why a generator refuses something. -/
inductive GeneratorError
  | parse (cause : ParseError)
  | format (cause : FormatError)
  /-- The named generator has no pattern. -/
  | notCompiled (name : String)
  deriving DecidableEq

/-- The wording of an error. -/
def GeneratorError.message : GeneratorError → String
  | .parse cause => "pattern error: " ++ cause.message
  | .format cause => "format error: " ++ cause.message
  | .notCompiled name => "generator '" ++ name ++ "' has no compiled pattern"

/-- What a generator is built from. -/
structure GeneratorSettings where
  name : Option String
  pattern : Option String
  seed : Option UInt64
  lookback : Lookback

namespace Generator

/-- Compiles an optional pattern. -/
def compile? : Option String → Except GeneratorError (Option Pattern)
  | none => .ok none
  | some text =>
    match Pattern.compile text with
    | .ok p => .ok (some p)
    | .error e => .error (.parse e)

/-- Builds a generator. Without a seed its words come from the key `entropy`. -/
def build (entropy : ChaCha.Key) (settings : GeneratorSettings) :
    Except GeneratorError Generator := do
  let pattern ← compile? settings.pattern
  pure {
    name := settings.name.getD "PatternGenerator"
    pattern
    lookback := settings.lookback
    seed := settings.seed
    words := match settings.seed with
      | some seed => .ofSeed seed
      | none => .ofKey entropy }

/-- A step of a generator, which can fail. -/
abbrev Step := EStateM GeneratorError Generator

/-- Compiles a pattern and makes it the generator's own. -/
def compile (text : String) : Step Unit := do
  match Pattern.compile text with
  | .ok p => modify fun g => { g with pattern := some p }
  | .error e => throw (.parse e)

theorem run_compile (text : String) (g : Generator) :
    (compile text).run g =
      match Pattern.compile text with
      | .ok p => .ok () { g with pattern := some p }
      | .error e => .error (.parse e) g := by
  cases h : Pattern.compile text <;> simp [compile, h]

/-- Resolves and renders a pattern with the generator's words. -/
def sample (p : Pattern) : Step String := do
  let g ← get
  let (pieces, words) := p.resolve g.lookback g.words
  set { g with words }
  pure (render pieces)

theorem run_sample (p : Pattern) (g : Generator) :
    (sample p).run g =
      .ok (render (p.resolve g.lookback g.words).1)
        { g with words := (p.resolve g.lookback g.words).2 } := rfl

/-- Renders a sample of the generator's own pattern. -/
def generate : Step String := do
  match (← get).pattern with
  | some p => sample p
  | none => throw (.notCompiled (← get).name)

theorem run_generate (g : Generator) :
    generate.run g =
      match g.pattern with
      | some p => (sample p).run g
      | none => .error (.notCompiled g.name) g := by
  simp only [generate, EStateM.run_bind, EStateM.run_get]
  cases h : g.pattern <;> rfl

/-- Takes a step `k` times and lists the answers. The first failure ends the run. -/
def times {α : Type} : Nat → Step α → Step (List α)
  | 0, _ => pure []
  | k + 1, step => do
    let a ← step
    let rest ← times k step
    pure (a :: rest)

/-- Renders `k` samples of the generator's own pattern. -/
def generateMany (k : Nat) : Step (List String) :=
  times k generate

/-- Renders a sample of a format of a set, with the generator's words. -/
def generateFormat (formats : FormatSet) (key : String) : Step String := do
  match formats.lookup key with
  | .ok p => sample p
  | .error e => throw (.format e)

theorem run_generateFormat (formats : FormatSet) (key : String) (g : Generator) :
    (generateFormat formats key).run g =
      match formats.lookup key with
      | .ok p => (sample p).run g
      | .error e => .error (.format e) g := by
  cases h : formats.lookup key with
  | ok p => simp [generateFormat, h]
  | error e =>
    simp only [generateFormat, h]
    rfl

/-- Starts again with the words of a seed. -/
def resetSeed (seed : UInt64) : Step Unit :=
  modify fun g => { g with seed := some seed, words := .ofSeed seed }

theorem run_resetSeed (seed : UInt64) (g : Generator) :
    (resetSeed seed).run g = .ok () { g with seed := some seed, words := .ofSeed seed } := rfl

end Generator

end SlotPattern
