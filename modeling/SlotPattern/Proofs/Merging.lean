import SlotPattern.Tool.FormatFile

/-!
# Merging format sets

Where two sets that are merged disagree, the second one decides, for formats, for symbols and for
the default alike. So merging is associative, a set has nothing to add to itself, and a row of
files, each of which overrides those before it, has one result however its merges are grouped.
-/

namespace SlotPattern

namespace FormatSet

theorem merge_assoc (s t u : FormatSet) : (s.merge t).merge u = s.merge (t.merge u) := by
  simp only [merge, Table.merge_assoc, Option.or_assoc]

theorem merge_self (s : FormatSet) : s.merge s = s := by
  simp only [merge, Table.merge_self, Option.or_self]

theorem merge_empty (s : FormatSet) : s.merge .empty = s := rfl

theorem empty_merge (s : FormatSet) : empty.merge s = s := by
  simp only [merge, empty, Table.empty_merge, Option.or_none]

/-- Merges the sets of a row from left to right. -/
def mergeAll (sets : List FormatSet) : FormatSet :=
  sets.foldl merge .empty

theorem foldl_merge (s : FormatSet) (sets : List FormatSet) :
    sets.foldl merge s = s.merge (mergeAll sets) := by
  rw [mergeAll]
  induction sets generalizing s with
  | nil => rfl
  | cons t sets ih =>
    rw [List.foldl_cons, List.foldl_cons, ih (s.merge t), ih (empty.merge t), empty_merge,
      merge_assoc]

theorem mergeAll_singleton (s : FormatSet) : mergeAll [s] = s := empty_merge s

theorem mergeAll_append (front back : List FormatSet) :
    mergeAll (front ++ back) = (mergeAll front).merge (mergeAll back) := by
  rw [mergeAll, List.foldl_append, foldl_merge]
  rfl

end FormatSet

namespace Tool

/-- A row of files of which each overrides those before it, and how the merges are grouped. -/
inductive Chain
  | file (path : String)
  | merge (front back : Chain)

namespace Chain

/-- The paths of the files, from left to right. -/
def paths : Chain → List String
  | file path => [path]
  | merge front back => front.paths ++ back.paths

/-- Loads the files and merges their sets as they are grouped. `readFile` gives the text of the file
at a path. The first file that cannot be loaded ends the run. -/
def load (readFile : String → Except FileError String) : Chain → Except LoadError FormatSet
  | file path => loadFormats (readFile path)
  | merge front back => do
    let s ← front.load readFile
    let t ← back.load readFile
    pure (s.merge t)

/-- However the merges are grouped, the sets are merged from left to right. -/
theorem load_eq (readFile : String → Except FileError String) (chain : Chain) :
    chain.load readFile = FormatSet.mergeAll <$>
      chain.paths.mapM fun path => loadFormats (readFile path) := by
  induction chain with
  | file path =>
    simp [load, paths, FormatSet.mergeAll_singleton]
  | merge front back ihfront ihback =>
    simp [load, paths, ihfront, ihback, FormatSet.mergeAll_append]

end Chain

end Tool

open Tool

/-- Merging is associative and idempotent, and the empty set adds nothing. So files that override
one another give the same set, or fail with the same error, however their merges are grouped. -/
theorem FormatSet.merge_regrouped (s t u : FormatSet) :
    (s.merge t).merge u = s.merge (t.merge u) ∧
      s.merge s = s ∧ s.merge .empty = s ∧ FormatSet.empty.merge s = s ∧
      ∀ (readFile : String → Except FileError String) (chain regrouped : Chain),
        chain.paths = regrouped.paths → chain.load readFile = regrouped.load readFile := by
  refine ⟨merge_assoc s t u, merge_self s, merge_empty s, empty_merge s, ?_⟩
  intro readFile chain regrouped hpaths
  rw [Chain.load_eq, Chain.load_eq, hpaths]

/-- The second file has a new pattern for a format of the first one and another default, and the
third one gives its symbol to another format. -/
theorem FormatSet.merge_regrouped_three_files :
    ∃ (readFile : String → Except FileError String) (s : FormatSet),
      readFile "base.ron" = .ok ("(formats: \x7b\"a\": \"\x7bx\x7d\", \"b\": \"\x7by\x7d\"\x7d, " ++
        "symbols: \x7b\"s\": \"b\"\x7d, default: Some(\"b\"))") ∧
      readFile "names.ron" = .ok
        "(formats: \x7b\"a\": \"\x7bz\x7d\"\x7d, default: Some(\"a\"))" ∧
      readFile "local.ron" = .ok
        "(formats: \x7b\"c\": \"\x7bx\x7d\"\x7d, symbols: \x7b\"s\": \"c\"\x7d)" ∧
      Chain.load readFile
        (.merge (.merge (.file "base.ron") (.file "names.ron")) (.file "local.ron")) = .ok s ∧
      Chain.load readFile
        (.merge (.file "base.ron") (.merge (.file "names.ron") (.file "local.ron"))) = .ok s ∧
      s.names = [("a", none), ("b", none), ("c", some "s")] ∧ s.defaultName = some "a" ∧
      (s.formats.get? "a").map toString = some "\x7bz\x7d" := by
  let base := "(formats: \x7b\"a\": \"\x7bx\x7d\", \"b\": \"\x7by\x7d\"\x7d, " ++
    "symbols: \x7b\"s\": \"b\"\x7d, default: Some(\"b\"))"
  let names := "(formats: \x7b\"a\": \"\x7bz\x7d\"\x7d, default: Some(\"a\"))"
  let last := "(formats: \x7b\"c\": \"\x7bx\x7d\"\x7d, symbols: \x7b\"s\": \"c\"\x7d)"
  let readFile (path : String) : Except FileError String :=
    .ok (if path = "base.ron" then base else if path = "names.ron" then names else last)
  let chain : Chain := .merge (.merge (.file "base.ron") (.file "names.ron")) (.file "local.ron")
  have hloaded : (chain.load readFile).toOption.any (fun s =>
      s.names = [("a", none), ("b", none), ("c", some "s")] ∧ s.defaultName = some "a" ∧
        (s.formats.get? "a").map toString = some "\x7bz\x7d") = true := by
    decide +kernel
  simp only [Option.any_eq_true, decide_eq_true_eq] at hloaded
  obtain ⟨s, hs, hnames, hdefault, htext⟩ := hloaded
  have hload : chain.load readFile = .ok s := by
    cases h : chain.load readFile with
    | ok t => simpa [h, Except.toOption] using hs
    | error e => simp [h, Except.toOption] at hs
  obtain ⟨-, -, -, -, hregroup⟩ := merge_regrouped s s s
  have hregrouped := hregroup readFile
    (.merge (.file "base.ron") (.merge (.file "names.ron") (.file "local.ron"))) chain rfl
  exact ⟨readFile, s, rfl, rfl, rfl, hload, hregrouped.trans hload, hnames, hdefault, htext⟩

end SlotPattern
