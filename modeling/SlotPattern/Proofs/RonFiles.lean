import Mathlib.Data.List.Nodup
import SlotPattern.Tool.Linter

/-!
# The files below a directory

The linter visits the files with the extension `ron` at any depth below a directory, and each of
them once: names that lead to different files make up different paths.
-/

namespace SlotPattern.Tool

/-! ### Trees of files -/

namespace FileTree

/-- What holds of files, and of a directory if it holds of its entries, holds of every tree. -/
theorem induction {motive : FileTree → Prop} (file : ∀ contents, motive (.file contents))
    (directory : ∀ entries, (∀ e ∈ entries, motive e.2) → motive (.directory entries)) :
    ∀ tree, motive tree
  | .file contents => file contents
  | .directory entries => directory entries fun e _ => induction file directory e.2
termination_by tree => sizeOf tree
decreasing_by
  have hsize := List.sizeOf_lt_of_mem ‹e ∈ entries›
  obtain ⟨name, t⟩ := e
  simp at hsize ⊢
  omega

/-- Following the names from the tree downwards leads to a file with these contents. -/
inductive Holds : FileTree → List String → ByteArray → Prop
  | file (contents : ByteArray) : Holds (.file contents) [] contents
  | entry {entries : List (String × FileTree)} {e : String × FileTree} {names : List String}
      {contents : ByteArray} (he : e ∈ entries) (h : Holds e.2 names contents) :
      Holds (.directory entries) (e.1 :: names) contents

theorem holds_file_iff {contents other : ByteArray} {names : List String} :
    Holds (.file contents) names other ↔ names = [] ∧ other = contents := by
  constructor
  · rintro ⟨⟩
    exact ⟨rfl, rfl⟩
  · rintro ⟨rfl, rfl⟩
    exact .file other

theorem holds_directory_iff {entries : List (String × FileTree)} {names : List String}
    {contents : ByteArray} :
    Holds (.directory entries) names contents ↔
      ∃ e ∈ entries, ∃ rest, names = e.1 :: rest ∧ e.2.Holds rest contents := by
  constructor
  · rintro (_ | ⟨he, h⟩)
    exact ⟨_, he, _, rfl, h⟩
  · rintro ⟨e, he, rest, rfl, h⟩
    exact .entry he h

/-- A name that can stand in a directory is not empty and has no slash in it. -/
structure ProperName (name : String) : Prop where
  ne_empty : name.toList ≠ []
  slash_notMem : '/' ∉ name.toList

instance (name : String) : Decidable (ProperName name) :=
  decidable_of_iff (name.toList ≠ [] ∧ '/' ∉ name.toList)
    ⟨fun h => ⟨h.1, h.2⟩, fun h => ⟨h.ne_empty, h.slash_notMem⟩⟩

/-- The entries of each directory have proper names, and no two of them the same. -/
inductive Proper : FileTree → Prop
  | file (contents : ByteArray) : Proper (.file contents)
  | directory {entries : List (String × FileTree)}
      (hdistinct : entries.Pairwise fun e f => e.1 ≠ f.1)
      (hnames : ∀ e ∈ entries, ProperName e.1) (hentries : ∀ e ∈ entries, Proper e.2) :
      Proper (.directory entries)

theorem Proper.properName {tree : FileTree} (htree : tree.Proper) {names : List String}
    {contents : ByteArray} (h : tree.Holds names contents) : ∀ name ∈ names, ProperName name := by
  induction h with
  | file => simp
  | entry he _ ih =>
    cases htree with
    | directory _ hnames hentries =>
      intro name hname
      rcases List.mem_cons.mp hname with rfl | hname
      · exact hnames _ he
      · exact ih (hentries _ he) name hname

end FileTree

open FileTree

namespace Linter

/-! ### Paths -/

/-- The characters before the name of an entry of a directory. -/
def directoryText (directory : String) : List Char :=
  if directory.endsWith "/" then directory.toList else directory.toList ++ ['/']

theorem toList_joinPath (directory name : String) :
    (joinPath directory name).toList = directoryText directory ++ name.toList := by
  unfold joinPath directoryText
  split <;> simp

theorem endsWith_slash_joinPath (directory : String) {name : String} (hname : ProperName name) :
    (joinPath directory name).endsWith "/" = false := by
  rw [String.endsWith_eq_endsWith_toSlice, String.Slice.endsWith_string_eq_false_iff,
    String.copy_toSlice, toList_joinPath]
  intro h
  obtain ⟨before, hbefore⟩ := h
  have hlast := congrArg List.getLast? hbefore
  rw [List.getLast?_append, List.getLast?_append, List.getLast?_eq_some_getLast hname.ne_empty]
    at hlast
  have hslash : '/' = name.toList.getLast hname.ne_empty := Option.some.inj hlast
  exact hname.slash_notMem (hslash ▸ List.getLast_mem hname.ne_empty)

/-- The path that proper names make up has them between slashes. -/
theorem toList_foldl_joinPath (directory : String) {names : List String} (hne : names ≠ [])
    (hnames : ∀ name ∈ names, ProperName name) :
    (names.foldl joinPath directory).toList =
      directoryText directory ++ ['/'].intercalate (names.map String.toList) := by
  induction names generalizing directory with
  | nil => exact absurd rfl hne
  | cons name names ih =>
    obtain ⟨hname, hrest⟩ := List.forall_mem_cons.mp hnames
    cases names with
    | nil => simp [toList_joinPath]
    | cons next names =>
      have hdirectory : directoryText (joinPath directory name) =
          directoryText directory ++ name.toList ++ ['/'] := by
        rw [directoryText, endsWith_slash_joinPath directory hname, if_neg Bool.false_ne_true,
          toList_joinPath]
      rw [List.foldl_cons, ih _ (List.cons_ne_nil next names) hrest, hdirectory]
      simp [List.intercalate]

/-- Different names make up different paths. -/
theorem eq_of_foldl_joinPath_eq {directory : String} {names others : List String}
    (hne : names ≠ []) (hne' : others ≠ []) (hnames : ∀ name ∈ names, ProperName name)
    (hothers : ∀ name ∈ others, ProperName name)
    (h : names.foldl joinPath directory = others.foldl joinPath directory) : names = others := by
  have hsplit {names : List String} (hne : names ≠ [])
      (hnames : ∀ name ∈ names, ProperName name) :
      (['/'].intercalate (names.map String.toList)).splitOn '/' = names.map String.toList := by
    apply List.splitOn_intercalate
    · rintro _ hmem
      obtain ⟨name, hname, rfl⟩ := List.mem_map.mp hmem
      exact (hnames name hname).slash_notMem
    · simpa using hne
  have hlist := congrArg String.toList h
  rw [toList_foldl_joinPath directory hne hnames, toList_foldl_joinPath directory hne' hothers,
    List.append_cancel_left_eq] at hlist
  have hmap : names.map String.toList = others.map String.toList := by
    rw [← hsplit hne hnames, hlist, hsplit hne' hothers]
  exact List.map_injective_iff.mpr (fun _ _ => String.toList_inj.mp) hmap

/-! ### Visits -/

/-- The files that are visited at an entry of a directory. -/
def entryFiles (directory : String) (e : String × FileTree) : List (String × ByteArray) :=
  match e.2 with
  | .file contents =>
    if hasRonExtension e.1 then [(joinPath directory e.1, contents)] else []
  | .directory entries => ronFiles (joinPath directory e.1) (.directory entries)

theorem ronFiles_directory (path : String) (entries : List (String × FileTree)) :
    ronFiles path (.directory entries) = entries.flatMap (entryFiles path) := by
  rw [ronFiles]
  induction entries with
  | nil => rfl
  | cons e entries ih =>
    obtain ⟨name, contents | inner⟩ := e
    · rw [ronFilesAmong, List.flatMap_cons, ← ih, entryFiles]
      by_cases h : hasRonExtension name = true <;> simp [h]
    · rw [ronFilesAmong, List.flatMap_cons, ← ih, entryFiles]

/-- Do the names end in the name of a file with the extension `ron`? -/
def EndsInRon (names : List String) : Prop :=
  ∃ name ∈ names.getLast?, hasRonExtension name = true

theorem EndsInRon.ne_nil {names : List String} (h : EndsInRon names) : names ≠ [] := by
  rintro rfl
  obtain ⟨name, hname, -⟩ := h
  cases hname

theorem endsInRon_cons_iff {name : String} {names : List String} (hne : names ≠ []) :
    EndsInRon (name :: names) ↔ EndsInRon names := by
  rw [EndsInRon, EndsInRon, List.getLast?_cons_of_ne_nil hne]

theorem endsInRon_singleton_iff {name : String} :
    EndsInRon [name] ↔ hasRonExtension name = true := by
  simp [EndsInRon]

/-- What is visited at an entry, if the statement below holds of what is visited below it. -/
theorem mem_entryFiles_iff {directory : String} {e : String × FileTree}
    {file : String × ByteArray}
    (hbelow : ∀ path, file ∈ ronFiles path e.2 ↔ ∃ names, e.2.Holds names file.2 ∧
      EndsInRon names ∧ file.1 = names.foldl joinPath path) :
    file ∈ entryFiles directory e ↔ ∃ names, e.2.Holds names file.2 ∧
      EndsInRon (e.1 :: names) ∧ file.1 = names.foldl joinPath (joinPath directory e.1) := by
  obtain ⟨name, contents | entries⟩ := e
  · simp only [entryFiles, List.mem_ite_nil_right, List.mem_singleton, holds_file_iff, Prod.ext_iff]
    constructor
    · rintro ⟨hron, hpath, hcontents⟩
      exact ⟨[], ⟨rfl, hcontents⟩, endsInRon_singleton_iff.mpr hron, hpath⟩
    · rintro ⟨_, ⟨rfl, hcontents⟩, hron, hpath⟩
      exact ⟨endsInRon_singleton_iff.mp hron, hpath, hcontents⟩
  · rw [entryFiles, hbelow]
    refine exists_congr fun names => and_congr_right fun hholds => and_congr_left fun _ => ?_
    obtain ⟨f, -, rest, rfl, -⟩ := holds_directory_iff.mp hholds
    exact (endsInRon_cons_iff (List.cons_ne_nil _ _)).symm

/-- What is visited are the files with the extension `ron`. -/
theorem mem_ronFiles_iff {tree : FileTree} {path : String} {file : String × ByteArray} :
    file ∈ ronFiles path tree ↔ ∃ names, tree.Holds names file.2 ∧ EndsInRon names ∧
      file.1 = names.foldl joinPath path := by
  induction tree using FileTree.induction generalizing path with
  | file contents =>
    rw [ronFiles]
    constructor
    · intro h
      cases h
    · rintro ⟨names, hholds, hron, -⟩
      exact absurd (holds_file_iff.mp hholds).1 hron.ne_nil
  | directory entries ih =>
    rw [ronFiles_directory, List.mem_flatMap]
    constructor
    · rintro ⟨e, he, hfile⟩
      obtain ⟨names, hholds, hron, hpath⟩ := (mem_entryFiles_iff fun _ => ih e he).mp hfile
      exact ⟨e.1 :: names, .entry he hholds, hron, hpath⟩
    · rintro ⟨_, hholds, hron, hpath⟩
      obtain ⟨e, he, names, rfl, hinner⟩ := holds_directory_iff.mp hholds
      exact ⟨e, he, (mem_entryFiles_iff fun _ => ih e he).mpr ⟨names, hinner, hron, hpath⟩⟩

theorem nodup_entryFiles {directory : String} {e : String × FileTree}
    (hbelow : ∀ path, ((ronFiles path e.2).map Prod.fst).Nodup) :
    ((entryFiles directory e).map Prod.fst).Nodup := by
  obtain ⟨name, contents | entries⟩ := e
  · by_cases h : hasRonExtension name = true <;> simp [entryFiles, h]
  · exact hbelow _

theorem exists_names_of_mem_entryFiles {directory : String} {e : String × FileTree}
    (hname : ProperName e.1) (htree : e.2.Proper) {path : String}
    (hpath : path ∈ (entryFiles directory e).map Prod.fst) :
    ∃ names, (∀ name ∈ e.1 :: names, ProperName name) ∧
      path = (e.1 :: names).foldl joinPath directory := by
  obtain ⟨file, hfile, rfl⟩ := List.mem_map.mp hpath
  obtain ⟨names, hholds, -, hjoined⟩ := (mem_entryFiles_iff fun _ => mem_ronFiles_iff).mp hfile
  exact ⟨names, List.forall_mem_cons.mpr ⟨hname, htree.properName hholds⟩, hjoined⟩

/-- No two of the visited files have the same path. -/
theorem nodup_ronFiles {tree : FileTree} (htree : tree.Proper) (path : String) :
    ((ronFiles path tree).map Prod.fst).Nodup := by
  induction tree using FileTree.induction generalizing path with
  | file contents => simp [ronFiles]
  | directory entries ih =>
    cases htree with
    | directory hdistinct hnames hentries =>
      rw [ronFiles_directory, List.map_flatMap, List.nodup_flatMap]
      refine ⟨fun e he => nodup_entryFiles fun path => ih e he (hentries e he) path, ?_⟩
      refine hdistinct.imp_of_mem fun {e f} he hf hne => ?_
      -- A path at both entries would be made up of names that start with either.
      intro file hfile hfile'
      obtain ⟨names, hproper, hpath⟩ :=
        exists_names_of_mem_entryFiles (hnames e he) (hentries e he) hfile
      obtain ⟨others, hothers, hpath'⟩ :=
        exists_names_of_mem_entryFiles (hnames f hf) (hentries f hf) hfile'
      have heq := eq_of_foldl_joinPath_eq (List.cons_ne_nil _ _) (List.cons_ne_nil _ _) hproper
        hothers (hpath.symm.trans hpath')
      exact hne (List.cons.inj heq).1

/-- These files are all those with the extension `ron` below a directory at `path`, each of them
once. -/
structure Visits (path : String) (tree : FileTree) (files : List (String × ByteArray)) : Prop where
  paths_nodup : (files.map Prod.fst).Nodup
  mem_iff : ∀ file, file ∈ files ↔ ∃ names, tree.Holds names file.2 ∧ EndsInRon names ∧
    file.1 = names.foldl joinPath path

theorem visits_ronFiles {tree : FileTree} (htree : tree.Proper) (path : String) :
    Visits path tree (ronFiles path tree) :=
  ⟨nodup_ronFiles htree path, fun _ => mem_ronFiles_iff⟩

end Linter

end SlotPattern.Tool
