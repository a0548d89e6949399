import Mathlib.Data.List.Forall2
import SlotPattern.Proofs.RonFiles

/-!
# The order in which directories are listed

A directory lists its entries in any order. The linter finds the same in a tree however its
directories are listed, in another order, and so its counts and its exit code are the same.
-/

namespace SlotPattern.Tool

open Linter

namespace FileTree

mutual

/-- In the second tree each directory, at any depth, lists the same entries as in the first one, but
maybe in another order. -/
inductive Relisted : FileTree → FileTree → Prop
  | file (contents : ByteArray) : Relisted (.file contents) (.file contents)
  | directory {entries relisted others : List (String × FileTree)}
      (hentries : EntriesRelisted entries relisted) (hperm : relisted.Perm others) :
      Relisted (.directory entries) (.directory others)

/-- What is below the entries of a directory is listed in another order, but not the entries. -/
inductive EntriesRelisted : List (String × FileTree) → List (String × FileTree) → Prop
  | nil : EntriesRelisted [] []
  | cons (name : String) {tree other : FileTree} {entries others : List (String × FileTree)}
      (h : Relisted tree other) (rest : EntriesRelisted entries others) :
      EntriesRelisted ((name, tree) :: entries) ((name, other) :: others)

end

/-- The entries have the same names one by one, and what is below them is listed in another order. -/
theorem EntriesRelisted.forall₂ {entries others : List (String × FileTree)}
    (h : EntriesRelisted entries others) :
    List.Forall₂ (fun e f => e.1 = f.1 ∧ e.2.Relisted f.2) entries others := by
  match h with
  | .nil => exact .nil
  | .cons _ htree rest => exact .cons ⟨rfl, htree⟩ rest.forall₂

theorem Relisted.perm_entryFiles {tree other : FileTree} (h : Relisted tree other)
    (hbelow : ∀ path, (ronFiles path tree).Perm (ronFiles path other)) (directory name : String) :
    (entryFiles directory (name, tree)).Perm (entryFiles directory (name, other)) := by
  cases h with
  | file contents => exact .refl _
  | directory => exact hbelow (joinPath directory name)

mutual

/-- The same files are visited, in another order. -/
theorem Relisted.perm_ronFiles {tree other : FileTree} (h : Relisted tree other) (path : String) :
    (ronFiles path tree).Perm (ronFiles path other) := by
  match h with
  | .file contents => exact .refl _
  | .directory hentries hperm =>
    rw [ronFiles_directory, ronFiles_directory]
    exact (hentries.perm_flatMap path).trans (hperm.flatMap_right _)

theorem EntriesRelisted.perm_flatMap {entries others : List (String × FileTree)}
    (h : EntriesRelisted entries others) (directory : String) :
    (entries.flatMap (entryFiles directory)).Perm (others.flatMap (entryFiles directory)) := by
  match h with
  | .nil => exact .refl _
  | .cons name htree rest =>
    rw [List.flatMap_cons, List.flatMap_cons]
    exact (htree.perm_entryFiles htree.perm_ronFiles directory name).append
      (rest.perm_flatMap directory)

end

end FileTree

open FileTree

namespace Linter

variable {path : String} {tree : FileTree} {files others : List (String × ByteArray)}

theorem Visits.perm (h : Visits path tree files) (hperm : files.Perm others) :
    Visits path tree others := by
  refine ⟨((hperm.map Prod.fst).nodup_iff).mp h.paths_nodup, fun file => ?_⟩
  rw [← hperm.mem_iff]
  exact h.mem_iff file

/-! ### Findings -/

namespace Findings

/-- The numbers in a report: of formats, of files with a format set, of errors, of warnings. -/
def totals (f : Findings) : List Nat :=
  [f.formatCount, f.sets.length, f.errors.length, f.warnings.length]

/-- The second findings are the first ones in another order, so they are counted and judged alike,
and their report has the same lines. -/
structure Reordered (f g : Findings) : Prop where
  sets : f.sets.Perm g.sets
  warnings : f.warnings.Perm g.warnings
  errors : f.errors.Perm g.errors
  totals : f.totals = g.totals
  code : f.code = g.code
  report : f.report.Perm g.report

section Reordered

variable {f g : Findings}

theorem formatCount_eq_of_perm (h : f.sets.Perm g.sets) : f.formatCount = g.formatCount :=
  h.foldl_eq' (fun l _ l' _ count => Nat.add_right_comm count l.set.size l'.set.size) 0

theorem eq_nil_iff_of_perm {as bs : List String} (h : as.Perm bs) : as = [] ↔ bs = [] := by
  rw [← List.length_eq_zero_iff, ← List.length_eq_zero_iff, h.length_eq]

/-- Everything in findings is derived from their sets and errors. -/
theorem reordered_of_perm (hsets : f.sets.Perm g.sets) (herrors : f.errors.Perm g.errors) :
    f.Reordered g := by
  have hwarnings : f.warnings.Perm g.warnings := hsets.flatMap_right _
  have hcount := formatCount_eq_of_perm hsets
  refine ⟨hsets, hwarnings, herrors, ?_, ?_, ?_⟩
  · simp only [totals, hcount, hsets.length_eq, herrors.length_eq, hwarnings.length_eq]
  · simp only [code, eq_nil_iff_of_perm herrors]
  · simp only [report, hcount, hsets.length_eq, herrors.length_eq, hwarnings.length_eq,
      eq_nil_iff_of_perm herrors, eq_nil_iff_of_perm hwarnings]
    have hloaded := hsets.map fun l => "  Loaded: " ++ l.path
    exact ((((hloaded.append_right _).append_right _).append (hwarnings.map _)).append
      (herrors.map _)).append_right _

theorem reordered_ofFiles (h : files.Perm others) : Reordered (ofFiles files) (ofFiles others) :=
  reordered_of_perm ((h.map _).filterMap _) ((h.map _).filterMap _)

end Reordered

/-! ### Failures -/

theorem load_eq_error_iff {path message : String} {contents : ByteArray} :
    load path contents = .error message ↔
      ∃ e, loadFormats (FileTree.file contents).text = .error e ∧
        message = path ++ ": " ++ e.message := by
  rw [load]
  cases loadFormats (FileTree.file contents).text <;> simp [eq_comm]

theorem mem_errors_ofFiles_iff {message : String} : message ∈ (ofFiles files).errors ↔
    ∃ file ∈ files, ∃ e, loadFormats (FileTree.file file.2).text = .error e ∧
      message = file.1 ++ ": " ++ e.message := by
  simp only [ofFiles, List.mem_filterMap, List.mem_map, ← load_eq_error_iff]
  constructor
  · rintro ⟨_, ⟨file, hfile, rfl⟩, hmessage⟩
    refine ⟨file, hfile, ?_⟩
    cases h : load file.1 file.2 <;> simp_all
  · rintro ⟨file, hfile, h⟩
    exact ⟨_, ⟨file, hfile, rfl⟩, by rw [h]⟩

/-- A run fails if there is a file from which no format set can be loaded, and only then. -/
theorem code_ofFiles_eq_one_iff : (ofFiles files).code = 1 ↔
    ∃ file ∈ files, ∃ e, loadFormats (FileTree.file file.2).text = .error e := by
  have hfails : (ofFiles files).errors ≠ [] ↔
      ∃ file ∈ files, ∃ e, loadFormats (FileTree.file file.2).text = .error e := by
    constructor
    · intro hne
      obtain ⟨message, hmessage⟩ := List.exists_mem_of_ne_nil _ hne
      obtain ⟨file, hfile, e, he, -⟩ := mem_errors_ofFiles_iff.mp hmessage
      exact ⟨file, hfile, e, he⟩
    · rintro ⟨file, hfile, e, he⟩
      exact List.ne_nil_of_mem (mem_errors_ofFiles_iff.mpr ⟨file, hfile, e, he, rfl⟩)
  rw [← hfails, code]
  by_cases h : (ofFiles files).errors = [] <;> simp [h]

end Findings

/-! ### Runs -/

/-- A run on a directory visits each file with the extension `ron` below it once. In whatever order
the directories are listed, it finds the same sets, warnings and errors in some order, counts the
same, and fails if and only if one of the files fails to load. -/
theorem run_relisted {find find' : String → Except FileError FileTree} {path : String}
    {rest : List String} {entries others : List (String × FileTree)}
    (hargs : asksForHelp (path :: rest) = false)
    (hfind : find path = .ok (.directory entries)) (hfind' : find' path = .ok (.directory others))
    (hproper : (FileTree.directory entries).Proper)
    (hrelisted : (FileTree.directory entries).Relisted (.directory others)) :
    ∃ files files' : List (String × ByteArray),
      Visits path (.directory entries) files ∧ Visits path (.directory entries) files' ∧
      run find (path :: rest) = (Findings.ofFiles files).outcome ∧
      run find' (path :: rest) = (Findings.ofFiles files').outcome ∧
      (Findings.ofFiles files).Reordered (Findings.ofFiles files') ∧
      ((run find (path :: rest)).code = 1 ↔ ∃ names contents e,
        (FileTree.directory entries).Holds names contents ∧ EndsInRon names ∧
          loadFormats (FileTree.file contents).text = .error e) := by
  have hrun {find : String → Except FileError FileTree} {entries : List (String × FileTree)}
      (hfind : find path = .ok (.directory entries)) : run find (path :: rest) =
        (Findings.ofFiles (ronFiles path (.directory entries))).outcome := by
    rw [run, hargs, if_neg Bool.false_ne_true, hfind]
    rfl
  have hperm := hrelisted.perm_ronFiles path
  have hvisits := visits_ronFiles hproper path
  refine ⟨_, _, hvisits, hvisits.perm hperm, hrun hfind, hrun hfind',
    Findings.reordered_ofFiles hperm, ?_⟩
  rw [hrun hfind]
  refine Findings.code_ofFiles_eq_one_iff.trans ⟨?_, ?_⟩
  · rintro ⟨file, hfile, e, he⟩
    obtain ⟨names, hholds, hron, -⟩ := (hvisits.mem_iff file).mp hfile
    exact ⟨names, file.2, e, hholds, hron, he⟩
  · rintro ⟨names, contents, e, hholds, hron, he⟩
    exact ⟨(names.foldl joinPath path, contents),
      (hvisits.mem_iff _).mpr ⟨names, hholds, hron, rfl⟩, e, he⟩

/-- Both directories are listed the other way round. The inner one has the name of a file, and in it
are a file that declares nothing and one whose name is only an extension. -/
theorem run_relisted_inner_directory :
    ∃ entries others : List (String × FileTree),
      entries = [("a.ron", .file "(formats: \x7b\x7d)".toUTF8),
        ("b.ron", .directory [("c.ron", .file .empty), (".ron", .file .empty)])] ∧
      others = [("b.ron", .directory [(".ron", .file .empty), ("c.ron", .file .empty)]),
        ("a.ron", .file "(formats: \x7b\x7d)".toUTF8)] ∧
      (FileTree.directory entries).Proper ∧
      (FileTree.directory entries).Relisted (.directory others) ∧
      (run (fun _ => .ok (.directory entries)) ["d"]).out.Perm
        (run (fun _ => .ok (.directory others)) ["d"]).out ∧
      (run (fun _ => .ok (.directory entries)) ["d"]).code = 1 ∧
      (run (fun _ => .ok (.directory others)) ["d"]).code = 1 := by
  let inner : List (String × FileTree) := [("c.ron", .file .empty), (".ron", .file .empty)]
  let entries : List (String × FileTree) :=
    [("a.ron", .file "(formats: \x7b\x7d)".toUTF8), ("b.ron", .directory inner)]
  let others : List (String × FileTree) := [("b.ron", .directory inner.reverse),
    ("a.ron", .file "(formats: \x7b\x7d)".toUTF8)]
  have hinner : (FileTree.directory inner).Proper := by
    refine .directory (by decide) (by decide) ?_
    simpa [inner] using Proper.file .empty
  have hproper : (FileTree.directory entries).Proper := by
    refine .directory (by decide) (by decide) ?_
    simpa [entries] using ⟨Proper.file _, hinner⟩
  have hreversed : (FileTree.directory inner).Relisted (.directory inner.reverse) :=
    .directory (.cons _ (.file _) (.cons _ (.file _) .nil)) (List.reverse_perm _).symm
  have hrelisted : (FileTree.directory entries).Relisted (.directory others) :=
    .directory (.cons _ (.file _) (.cons _ hreversed .nil)) (.swap _ _ _)
  have hholds : (FileTree.directory entries).Holds ["b.ron", "c.ron"] .empty :=
    .entry (e := ("b.ron", .directory inner)) (by simp [entries])
      (.entry (e := ("c.ron", .file .empty)) (by simp [inner]) (.file _))
  have hron : EndsInRon ["b.ron", "c.ron"] := ⟨"c.ron", rfl, by decide +kernel⟩
  have htext : (FileTree.file .empty).text = .ok "" := by decide +kernel
  have hnothing : Declaration.ofRon? "" = none :=
    Option.isNone_iff_eq_none.mp (by decide +kernel)
  have hfails : loadFormats (FileTree.file .empty).text =
      .error (.format .malformedDeclaration) := by
    rw [htext, loadFormats, FormatSet.ofRon, hnothing]
  let find (_ : String) : Except FileError FileTree := .ok (.directory entries)
  let find' (_ : String) : Except FileError FileTree := .ok (.directory others)
  have hargs : asksForHelp ["d"] = false := by decide
  have hfind : find "d" = .ok (.directory entries) := rfl
  have hfind' : find' "d" = .ok (.directory others) := rfl
  obtain ⟨files, files', -, -, hrun, hrun', hreordered, hcode⟩ :=
    run_relisted hargs hfind hfind' hproper hrelisted
  have hone := hcode.mpr ⟨_, _, _, hholds, hron, hfails⟩
  rw [hrun] at hone
  refine ⟨entries, others, rfl, rfl, hproper, hrelisted, ?_, ?_, ?_⟩
  · exact hrun ▸ hrun' ▸ hreordered.report
  · exact hrun ▸ hone
  · exact hrun' ▸ hreordered.code.symm.trans hone

end Linter

end SlotPattern.Tool
