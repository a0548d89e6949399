import Mathlib.Data.List.Induction
import Mathlib.Logic.Function.Basic
import SlotPattern.Tool.Preview

/-!
# The order of options

An option of the preview may be given more than once. Options are read from left to right, whatever
their values look like, and each replaces the value that it had before. So of each option the last
value counts, and options of different kinds may change places.
-/

namespace SlotPattern.Tool.Preview

/-! ### Options of a call -/

/-- How the option is spelled. -/
def Flag.spelling : Flag → String
  | .pattern => "--pattern"
  | .formats => "--formats"
  | .format => "--format"
  | .seed => "--seed"
  | .count => "--count"
  | .lookback => "--lookback"

/-- Can the text be read as a value of the option? -/
def Flag.Accepts (flag : Flag) (value : String) : Prop :=
  match flag with
  | .pattern | .formats | .format => True
  | .seed | .count => ∃ n, Text.readUnsigned value = .ok n
  | .lookback => ∃ l, Lookback.ofString value = .ok l

/-- An option as it is given in a call: with a value that it accepts, or the one that takes none. -/
inductive GivenOption
  | valued (flag : Flag) (value : String) (accepted : flag.Accepts value)
  | stats

namespace GivenOption

/-- The arguments in which the option is given. -/
def arguments : GivenOption → List String
  | .valued flag value _ => [flag.spelling, value]
  | .stats => [statsFlag]

/-- The value that is given to one of the options. -/
def value? (flag : Flag) : GivenOption → Option String
  | .valued flag' value _ => if flag' = flag then some value else none
  | .stats => none

/-- Is the option the one that takes no value? -/
def isStats : GivenOption → Bool
  | .valued _ _ _ => false
  | .stats => true

end GivenOption

/-- The values that an option is given, from left to right. -/
def valuesOf (flag : Flag) (options : List GivenOption) : List String :=
  options.filterMap (GivenOption.value? flag)

/-- The last value that an option is given. -/
def lastValue (options : List GivenOption) (flag : Flag) : Option String :=
  (valuesOf flag options).getLast?

/-- Is the report asked for? -/
def asksForReport (options : List GivenOption) : Bool :=
  options.any GivenOption.isStats

/-- What is read from a text, or else the fallback. -/
def readOr {ε α : Type} (fallback : α) (read : String → Except ε α) (text : Option String) : α :=
  (text.bind fun t => (read t).toOption).getD fallback

/-- The request that goes by one value for each option. -/
def requestOf (value : Flag → Option String) (stats : Bool) : Request where
  pattern := value .pattern
  formats := value .formats
  format := (value .format).getD Request.default.format
  seed := readOr Request.default.seed Text.readUnsigned (value .seed)
  count := readOr Request.default.count Text.readUnsigned (value .count)
  lookback := readOr Request.default.lookback Lookback.ofString (value .lookback)
  stats := stats

/-! ### Reading options -/

theorem ofString?_spelling (flag : Flag) : Flag.ofString? flag.spelling = some flag := by
  cases flag <;> rfl

theorem read_stats (r : Request) (rest : List String) :
    r.read (statsFlag :: rest) = Request.read { r with stats := true } rest := by
  rw [Request.read, if_pos rfl]
  intro flag value rest' hflag
  cases hflag

theorem read_valued {arg : String} {flag : Flag} (h : Flag.ofString? arg = some flag) (r : Request)
    (value : String) (rest : List String) :
    r.read (arg :: value :: rest) = (r.set flag value).bind (·.read rest) := by
  have hne : arg ≠ statsFlag := by
    rintro rfl
    cases h
  rw [Request.read.eq_2 r arg flag value rest h, if_neg hne]
  rfl

/-- What has been read does not depend on the arguments behind it. -/
theorem read_append {r r' : Request} {args : List String} (h : r.read args = .ok r')
    (rest : List String) : r.read (args ++ rest) = r'.read rest := by
  fun_induction Request.read r args with
  | case1 r =>
    obtain rfl := Except.ok.inj h
    rfl
  | case2 r args ih =>
    rw [List.cons_append, read_stats]
    exact ih h
  | case3 r arg hne flag value args hflag ih =>
    rw [List.cons_append, List.cons_append, read_valued hflag]
    cases hset : r.set flag value with
    | error e =>
      rw [hset] at h
      cases h
    | ok s =>
      rw [hset] at h
      exact ih s h
  | case4 => cases h

variable {flag : Flag} {text : String} {value : Flag → Option String} {stats : Bool}

@[simp] theorem readOr_some {ε α : Type} {fallback : α} {read : String → Except ε α} {a : α}
    (h : read text = .ok a) : readOr fallback read (some text) = a := by
  simp [readOr, h, Except.toOption]

/-- An accepted value takes the place of the one before. -/
theorem set_requestOf (h : flag.Accepts text) : (requestOf value stats).set flag text =
    .ok (requestOf (Function.update value flag (some text)) stats) := by
  cases flag with
  | pattern => simp [Request.set, requestOf]
  | formats => simp [Request.set, requestOf]
  | format => simp [Request.set, requestOf]
  | seed =>
    obtain ⟨n, hn⟩ := h
    simp [Request.set, requestOf, hn]
  | count =>
    obtain ⟨n, hn⟩ := h
    simp [Request.set, requestOf, hn]
  | lookback =>
    obtain ⟨l, hl⟩ := h
    simp [Request.set, requestOf, hl]

/-- An option that is read overrides what was given to it before, and no other option. -/
theorem read_arguments (o : GivenOption) : (requestOf value stats).read o.arguments =
    .ok (requestOf (fun flag => (o.value? flag).or (value flag)) (stats || o.isStats)) := by
  cases o with
  | valued flag text accepted =>
    have hupdate : Function.update value flag (some text) =
        fun flag' => ((GivenOption.valued flag text accepted).value? flag').or (value flag') := by
      funext flag'
      by_cases hflag : flag = flag'
      · subst hflag
        simp [GivenOption.value?]
      · simp [GivenOption.value?, hflag, Ne.symm hflag]
    rw [GivenOption.arguments, read_valued (ofString?_spelling flag), set_requestOf accepted,
      hupdate]
    simp [Except.bind, Request.read, GivenOption.isStats]
  | stats =>
    rw [GivenOption.arguments, read_stats]
    simp [Request.read, requestOf, GivenOption.value?, GivenOption.isStats]

theorem lastValue_append (options : List GivenOption) (o : GivenOption) :
    lastValue (options ++ [o]) = fun flag => (o.value? flag).or (lastValue options flag) := by
  funext flag
  cases h : o.value? flag <;> simp [lastValue, valuesOf, h]

theorem asksForReport_append (options : List GivenOption) (o : GivenOption) :
    asksForReport (options ++ [o]) = (asksForReport options || o.isStats) := by
  simp [asksForReport]

/-- Options are read in one way only, and of each the last value counts. -/
theorem read_options (options : List GivenOption) :
    Request.default.read (options.flatMap GivenOption.arguments) =
      .ok (requestOf (lastValue options) (asksForReport options)) := by
  induction options using List.reverseRecOn with
  | nil => rfl
  | append_singleton options o ih =>
    rw [List.flatMap_append, read_append ih, List.flatMap_singleton, read_arguments,
      lastValue_append, asksForReport_append]

/-! ### Runs -/

theorem asksForHelp_arguments {options : List GivenOption} (hne : options ≠ []) :
    asksForHelp (options.flatMap GivenOption.arguments) = false := by
  cases options with
  | nil => exact absurd rfl hne
  | cons o options =>
    cases o with
    | valued flag text accepted => cases flag <;> rfl
    | stats => rfl

theorem run_arguments {options : List GivenOption} (hne : options ≠ [])
    (readFile : String → Except FileError String) :
    run readFile (options.flatMap GivenOption.arguments) =
      (requestOf (lastValue options) (asksForReport options)).outcome readFile := by
  rw [run, asksForHelp_arguments hne, if_neg Bool.false_ne_true, read_options]

/-- Every option of a call shows in its last values or in the report. -/
theorem eq_nil_iff_no_value {options : List GivenOption} :
    options = [] ↔ lastValue options = (fun _ => none) ∧ asksForReport options = false := by
  constructor
  · rintro rfl
    exact ⟨rfl, rfl⟩
  · rintro ⟨hvalue, hstats⟩
    rw [List.eq_nil_iff_forall_not_mem]
    intro o ho
    cases o with
    | valued flag text accepted =>
      have hmem : text ∈ valuesOf flag options :=
        List.mem_filterMap.mpr ⟨_, ho, if_pos rfl⟩
      have hnil : valuesOf flag options = [] :=
        List.getLast?_eq_none_iff.mp (congrFun hvalue flag)
      rw [hnil] at hmem
      cases hmem
    | stats =>
      have := List.any_eq_false.mp hstats _ ho
      exact this rfl

theorem asksForReport_perm {options others : List GivenOption} (h : options.Perm others) :
    asksForReport others = asksForReport options :=
  h.symm.any_eq

/-- The options of a call are told from their values by their places alone. A run goes by the last
value of each option, and by whether the report is asked for. So options may change places as long
as the values of each come in the same order. -/
theorem run_given_options {options : List GivenOption} (hne : options ≠ [])
    (readFile : String → Except FileError String) :
    run readFile (options.flatMap GivenOption.arguments) =
      (requestOf (lastValue options) (asksForReport options)).outcome readFile ∧
    (∀ others : List GivenOption, lastValue others = lastValue options →
      asksForReport others = asksForReport options →
      run readFile (others.flatMap GivenOption.arguments) =
        run readFile (options.flatMap GivenOption.arguments)) ∧
    ∀ others : List GivenOption, options.Perm others →
      (∀ flag, valuesOf flag others = valuesOf flag options) →
      run readFile (others.flatMap GivenOption.arguments) =
        run readFile (options.flatMap GivenOption.arguments) := by
  have hsame : ∀ others : List GivenOption, lastValue others = lastValue options →
      asksForReport others = asksForReport options →
      run readFile (others.flatMap GivenOption.arguments) =
        run readFile (options.flatMap GivenOption.arguments) := by
    intro others hvalue hstats
    have hothers : others ≠ [] := by
      rw [Ne, eq_nil_iff_no_value, hvalue, hstats, ← eq_nil_iff_no_value]
      exact hne
    rw [run_arguments hne, run_arguments hothers, hvalue, hstats]
  refine ⟨run_arguments hne readFile, hsame, fun others hperm hvalues => ?_⟩
  refine hsame others ?_ (asksForReport_perm hperm)
  funext flag
  rw [lastValue, lastValue, hvalues]

/-- The pattern is spelled like the option that asks for the report, and the seed is given twice. -/
theorem run_given_options_seed_twice :
    let readFile : String → Except FileError String := fun _ => .error .notFound
    run readFile ["--seed", "1", "--pattern", "--stats", "--stats", "--seed", "7"] =
      Request.outcome ⟨some "--stats", none, "default", 7, 10, .history, true⟩ readFile ∧
    run readFile ["--stats", "--pattern", "--stats", "--seed", "7"] =
      run readFile ["--seed", "1", "--pattern", "--stats", "--stats", "--seed", "7"] ∧
    run readFile ["--seed", "1", "--seed", "7", "--stats", "--pattern", "--stats"] =
      run readFile ["--seed", "1", "--pattern", "--stats", "--stats", "--seed", "7"] := by
  intro readFile
  have h₁ : Flag.seed.Accepts "1" := ⟨1, by decide⟩
  have hseven : Text.readUnsigned "7" = .ok 7 := by decide
  have h₇ : Flag.seed.Accepts "7" := ⟨7, hseven⟩
  let options : List GivenOption :=
    [.valued .seed "1" h₁, .valued .pattern "--stats" trivial, .stats, .valued .seed "7" h₇]
  have hrequest : requestOf (lastValue options) (asksForReport options) =
      ⟨some "--stats", none, "default", 7, 10, .history, true⟩ := by
    have hseed : readOr 42 Text.readUnsigned (some "7") = 7 := readOr_some hseven
    rw [← hseed]
    rfl
  obtain ⟨hrun, hlast, hperm⟩ := run_given_options (List.cons_ne_nil _ _ : options ≠ []) readFile
  rw [hrequest] at hrun
  refine ⟨hrun, ?_, ?_⟩
  · apply hlast [.stats, .valued .pattern "--stats" trivial, .valued .seed "7" h₇]
    · funext flag
      cases flag <;> rfl
    · rfl
  · apply hperm [.valued .seed "1" h₁, .valued .seed "7" h₇, .stats,
      .valued .pattern "--stats" trivial]
    · exact (List.reverse_perm _).symm.cons _
    · intro flag
      cases flag <;> rfl

end SlotPattern.Tool.Preview
