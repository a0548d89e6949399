import SlotPattern.Proofs.ListingOrder
import SlotPattern.Tool.Preview

/-!
# Tools in a relisted directory

A path is followed by names, and no two entries of a directory have the same one. So in whatever
order the directories are listed, a path leads to the same, and the tools come to the same results.
-/

namespace SlotPattern.Tool

namespace FileTree

variable {t u : FileTree} {entries others : List (String × FileTree)}

/-- A proper tree, and the same with directories listed in another order. -/
structure Alike (t u : FileTree) : Prop where
  proper : t.Proper
  relisted : t.Relisted u

/-- A path leads to the same in two places up to the order of listings, or to nothing in both, for
the same reason. -/
inductive FoundAlike : Except FileError FileTree → Except FileError FileTree → Prop
  | found {t u : FileTree} (h : t.Alike u) : FoundAlike (.ok t) (.ok u)
  | missing (e : FileError) : FoundAlike (.error e) (.error e)

/-! ### Entries -/

/-- Where no two entries have the same name, their order does not matter for finding one. -/
theorem lookup_eq_of_perm (hperm : entries.Perm others)
    (hdistinct : entries.Pairwise fun e f => e.1 ≠ f.1) (name : String) :
    entries.lookup name = others.lookup name := by
  induction hperm with
  | nil => rfl
  | cons e _ ih =>
    rw [Table.lookup_cons_eq, Table.lookup_cons_eq, ih hdistinct.of_cons]
  | swap e f rest =>
    have hne : f.1 ≠ e.1 := List.rel_of_pairwise_cons hdistinct List.mem_cons_self
    simp only [Table.lookup_cons_eq]
    by_cases he : name = e.1
    · rw [if_neg fun hf => hne (hf.symm.trans he), if_pos he, if_pos he]
    · rw [if_neg he, if_neg he]
  | trans hperm _ ih ih' =>
    rw [ih hdistinct, ih' ((hperm.pairwise_iff fun hne => Ne.symm hne).mp hdistinct)]

theorem EntriesRelisted.map_fst (h : EntriesRelisted entries others) :
    entries.map Prod.fst = others.map Prod.fst := by
  rw [← List.forall₂_eq_eq_eq, List.forall₂_map_left_iff, List.forall₂_map_right_iff]
  exact h.forall₂.imp fun _ _ hentry => hentry.1

theorem EntriesRelisted.lookup (h : EntriesRelisted entries others)
    (hproper : ∀ e ∈ entries, e.2.Proper) (name : String) :
    Option.Rel Alike (entries.lookup name) (others.lookup name) := by
  have hrows := h.forall₂
  clear h
  induction hrows with
  | nil => exact .none
  | cons hentry _ ih =>
    obtain ⟨hfirst, hrest⟩ := List.forall_mem_cons.mp hproper
    rw [Table.lookup_cons_eq, Table.lookup_cons_eq, ← hentry.1]
    split
    · exact .some ⟨hfirst, hentry.2⟩
    · exact ih hrest

/-- A name stands for alike entries of a directory in both listings, or for none in either. -/
theorem Alike.lookup (h : (directory entries).Alike (directory others)) (name : String) :
    Option.Rel Alike (entries.lookup name) (others.lookup name) := by
  obtain ⟨⟨⟩ | ⟨hdistinct, -, hproper⟩, ⟨⟩ | @⟨_, relisted, _, hentries, hperm⟩⟩ := h
  have hdistinct' : relisted.Pairwise fun e f => e.1 ≠ f.1 := by
    rw [← List.pairwise_map (f := Prod.fst) (R := (· ≠ ·)), ← hentries.map_fst, List.pairwise_map]
    exact hdistinct
  rw [← lookup_eq_of_perm hperm hdistinct']
  exact hentries.lookup hproper name

/-! ### Paths -/

theorem alike_unknownDirectory : unknownDirectory.Alike unknownDirectory :=
  ⟨.directory .nil nofun nofun, .directory .nil (.refl _)⟩

/-- Parts of a path are followed alike from alike places with alike directories above them. -/
theorem Alike.follow {above above' : List FileTree} (h : t.Alike u)
    (habove : List.Forall₂ Alike above above') (parts : List String) :
    FoundAlike (follow above t parts) (follow above' u parts) := by
  induction parts generalizing t u above above' with
  | nil => exact .found h
  | cons part parts ih =>
    obtain ⟨-, hrelisted⟩ := id h
    cases hrelisted with
    | file contents => exact .missing .notDirectory
    | @directory entries _ others hentries hperm =>
      simp only [FileTree.follow]
      by_cases hhere : part = "" ∨ part = "."
      · rw [if_pos hhere, if_pos hhere]
        exact ih h habove
      rw [if_neg hhere, if_neg hhere]
      by_cases hup : part = ".."
      · rw [if_pos hup, if_pos hup]
        cases habove with
        | nil => exact ih alike_unknownDirectory .nil
        | cons hparent hrest => exact ih hparent hrest
      rw [if_neg hup, if_neg hup]
      by_cases hsize : maxNameSize < part.utf8ByteSize
      · rw [if_pos hsize, if_pos hsize]
        exact .missing .nameTooLong
      rw [if_neg hsize, if_neg hsize]
      have hentry := h.lookup part
      generalize entries.lookup part = there, others.lookup part = there' at hentry ⊢
      cases hentry with
      | none => exact .missing .notFound
      | some hthere => exact ih hthere (.cons h habove)

theorem Alike.find (h : t.Alike u) (path : String) : FoundAlike (t.find path) (u.find path) := by
  unfold FileTree.find
  split
  · exact .missing .notFound
  · split
    · exact .missing .nameTooLong
    · split
      · exact alike_unknownDirectory.follow .nil _
      · exact h.follow .nil _

theorem Relisted.text_eq (h : t.Relisted u) : t.text = u.text := by
  cases h <;> rfl

/-- A path leads to the same text, or to none for the same reason. -/
theorem Alike.readText_eq (h : t.Alike u) (path : String) : t.readText path = u.readText path := by
  have hfind := h.find path
  unfold FileTree.readText
  generalize t.find path = found, u.find path = found' at hfind ⊢
  cases hfind with
  | found h => exact h.relisted.text_eq
  | missing e => rfl

end FileTree

/-! ### Runs -/

open FileTree

variable {t u : FileTree}

/-- The preview does the same in a directory however it is listed. -/
theorem Preview.run_eq_of_alike (h : t.Alike u) (args : List String) :
    run t.readText args = run u.readText args := by
  rw [funext h.readText_eq]

theorem Linter.perm_inputs (h : t.Alike u) (path : String) :
    (inputs path t).Perm (inputs path u) := by
  have hperm := h.relisted.perm_ronFiles path
  obtain ⟨-, hrelisted⟩ := h
  cases hrelisted with
  | file contents => exact .refl _
  | directory => exact hperm

/-- The linter finds the same in a directory however it is listed, and prints it in some order. -/
theorem Linter.run_alike (h : t.Alike u) (args : List String) :
    (run t.find args).code = (run u.find args).code ∧
      (run t.find args).out.Perm (run u.find args).out ∧
      (run t.find args).err = (run u.find args).err := by
  cases args with
  | nil => exact ⟨rfl, .refl _, rfl⟩
  | cons path rest =>
    have hfind := h.find path
    simp only [run]
    split
    · exact ⟨rfl, .refl _, rfl⟩
    · generalize t.find path = found, u.find path = found' at hfind ⊢
      cases hfind with
      | found h =>
        have hreordered := Findings.reordered_ofFiles (perm_inputs h path)
        exact ⟨hreordered.code, hreordered.report, rfl⟩
      | missing e => exact ⟨rfl, .refl _, rfl⟩

end SlotPattern.Tool
