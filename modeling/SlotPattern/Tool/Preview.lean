import SlotPattern.Generator
import SlotPattern.Text.Decimal
import SlotPattern.Tool.FormatFile
import SlotPattern.Tool.Outcome
import SlotPattern.Variety

/-!
# The preview tool

The preview prints samples of a pattern, or of a format of a set that is read from a file, and on
demand a report on their variety. Each option may be given more than once; the last one counts.
-/

namespace SlotPattern.Tool.Preview

/-- How the tool is called. -/
def usage : List String :=
  ["Usage: pattern_preview (--pattern <p> | --formats <file.ron> [--format <name>])",
   "                       [--seed <n>] [--count <n>] [--lookback history|previous] [--stats]"]

/-- An option that takes a value. -/
inductive Flag
  | pattern
  | formats
  | format
  | seed
  | count
  | lookback
  deriving DecidableEq

/-- The option with a given spelling. -/
def Flag.ofString? (s : String) : Option Flag :=
  if s = "--pattern" then some .pattern
  else if s = "--formats" then some .formats
  else if s = "--format" then some .format
  else if s = "--seed" then some .seed
  else if s = "--count" then some .count
  else if s = "--lookback" then some .lookback
  else none

/-- The option that asks for the report on variety. -/
def statsFlag : String := "--stats"

/-- What the options of a call ask for. -/
structure Request where
  pattern : Option String
  formats : Option String
  format : String
  seed : UInt64
  count : UInt64
  lookback : Lookback
  stats : Bool
  deriving DecidableEq

/-- The request without any option. -/
def Request.default : Request := ⟨none, none, defaultFormat, 42, 10, .history, false⟩

/-- Why the tool gives up. -/
inductive Refusal
  | unknownArgument (arg : String)
  | invalidSeed (value : String) (cause : Text.DecimalError)
  | invalidCount (value : String) (cause : Text.DecimalError)
  | unknownLookback (cause : LookbackError)
  /-- Neither a pattern nor a file of formats is given, or both are. -/
  | noSingleSource
  | load (cause : LoadError)
  | generator (cause : GeneratorError)
  deriving DecidableEq

namespace Refusal

/-- The wording of a refusal. -/
def message : Refusal → String
  | .unknownArgument arg => "Unknown argument: " ++ arg
  | .invalidSeed value cause => "ERROR: invalid --seed '" ++ value ++ "': " ++ cause.message
  | .invalidCount value cause => "ERROR: invalid --count '" ++ value ++ "': " ++ cause.message
  | .unknownLookback cause => "ERROR: " ++ cause.message
  | .noSingleSource => "ERROR: Pass exactly one of --pattern or --formats"
  | .load cause => "ERROR: Failed to load format set: " ++ cause.message
  | .generator cause => "ERROR: " ++ cause.message

/-- Is the call itself at fault, so that the usage is shown? -/
def showsUsage : Refusal → Bool
  | .unknownArgument _ => true
  | .noSingleSource => true
  | _ => false

/-- The outcome of a refused run. -/
def outcome (r : Refusal) : Outcome :=
  ⟨1, if r.showsUsage then usage else [], [r.message]⟩

end Refusal

/-! ### Options -/

/-- Gives a request the value of an option. -/
def Request.set (r : Request) (flag : Flag) (value : String) : Except Refusal Request :=
  match flag with
  | .pattern => .ok { r with pattern := some value }
  | .formats => .ok { r with formats := some value }
  | .format => .ok { r with format := value }
  | .seed =>
    match Text.readUnsigned value with
    | .ok n => .ok { r with seed := n }
    | .error e => .error (.invalidSeed value e)
  | .count =>
    match Text.readUnsigned value with
    | .ok n => .ok { r with count := n }
    | .error e => .error (.invalidCount value e)
  | .lookback =>
    match Lookback.ofString value with
    | .ok l => .ok { r with lookback := l }
    | .error e => .error (.unknownLookback e)

/-- Reads options from left to right. What follows an option that takes a value is its value,
however it is spelled. -/
def Request.read (r : Request) : List String → Except Refusal Request
  | [] => .ok r
  | arg :: rest =>
    if arg = statsFlag then Request.read { r with stats := true } rest
    else
      match Flag.ofString? arg, rest with
      | some flag, value :: rest => do
        let r ← r.set flag value
        r.read rest
      | _, _ => .error (.unknownArgument arg)

/-! ### Samples -/

/-- The generator of a run. -/
def Request.generator (r : Request) : Generator :=
  ⟨"preview", none, r.lookback, some r.seed, .ofSeed r.seed⟩

/-- The answer of steps of the run's generator. -/
def Request.answer {α : Type} (r : Request) (step : Generator.Step α) : Except Refusal α :=
  match step.run r.generator with
  | .ok a _ => .ok a
  | .error e _ => .error (.generator e)

/-- The samples that a request asks for. `readFile` gives the text of the file at a path. -/
def Request.samples (r : Request) (readFile : String → Except FileError String) :
    Except Refusal (List String) :=
  match r.pattern, r.formats with
  | some pattern, none => r.answer do
      Generator.compile pattern
      Generator.generateMany r.count.toNat
  | none, some path =>
    match loadFormats (readFile path) with
    | .ok formats =>
      r.answer (Generator.times r.count.toNat (Generator.generateFormat formats r.format))
    | .error e => .error (.load e)
  | _, _ => .error .noSingleSource

/-- What a request prints. -/
def Request.outcome (r : Request) (readFile : String → Except FileError String) : Outcome :=
  match r.samples readFile with
  | .ok samples => .success (samples ++ if r.stats then varietyReport samples else [])
  | .error e => e.outcome

/-- The file that a run with the given arguments reads, if it reads one. -/
def neededFile? (args : List String) : Option String :=
  if asksForHelp args then none
  else
    match Request.default.read args with
    | .ok r => if r.pattern.isNone then r.formats else none
    | .error _ => none

/-- The outcome of a run with the given arguments. `readFile` gives the text of the file at a path.
-/
def run (readFile : String → Except FileError String) (args : List String) : Outcome :=
  if asksForHelp args then .success usage
  else
    match Request.default.read args with
    | .ok r => r.outcome readFile
    | .error e => e.outcome

end SlotPattern.Tool.Preview
