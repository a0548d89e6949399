import SlotPattern.Proofs.Reachable

/-!
# Failed calls

A call that fails leaves the set as it was, with one exception. Deriving symbols goes from format to
format, and when it meets a symbol that is taken, the formats before have theirs already.
-/

namespace SlotPattern.FormatSet

variable {s t : FormatSet} {e : FormatError}

/-! ### Where a row of edits fails -/

theorem run_forM_eq_error {α : Type} {as : List α} {f : α → Edit PUnit}
    (h : (as.forM f).run s = .error e t) :
    ∃ before a after u, as = before ++ a :: after ∧ (before.forM f).run s = .ok ⟨⟩ u ∧
      (f a).run u = .error e t := by
  rw [List.forM_eq_forM] at h ⊢
  induction as generalizing s with
  | nil => cases h
  | cons a as ih =>
    rw [List.forM_cons, run_bind_eq_error_iff] at h
    rcases h with h | ⟨_, u, hfirst, h⟩
    · exact ⟨[], a, as, s, rfl, rfl, h⟩
    · obtain ⟨before, b, after, v, rfl, hbefore, hb⟩ := ih h
      refine ⟨a :: before, b, after, v, rfl, ?_, hb⟩
      rw [List.forM_cons, run_bind_eq_ok_iff]
      exact ⟨_, u, hfirst, hbefore⟩

theorem exists_run_eq_error {α : Type} {m : Edit α} {P : FormatError → FormatSet → Bool}
    (h : (match m.run s with
      | .ok _ _ => false
      | .error e t => P e t) = true) : ∃ e t, m.run s = .error e t ∧ P e t = true := by
  cases hrun : m.run s with
  | ok a t => simp [hrun] at h
  | error e t => exact ⟨e, t, rfl, by simpa [hrun] using h⟩

/-! ### Deriving symbols -/

theorem addDerivedSymbol_eq_error {lenient : Bool} {name : String}
    (h : (addDerivedSymbol lenient name).run s = .error e t) :
    lenient = false ∧ t = s ∧ e = .duplicateSymbol (deriveSymbol name) name := by
  rw [run_addDerivedSymbol] at h
  split at h
  · cases h
  · split at h
    · cases lenient with
      | true => cases h
      | false =>
        cases h
        exact ⟨rfl, rfl, rfl⟩
    · cases h

/-- Without leniency a format goes without a symbol only if the derived one is empty. -/
theorem addDerivedSymbol_eq_ok {name : String}
    (h : (addDerivedSymbol false name).run s = .ok () t) :
    (deriveSymbol name = "" ∧ t = s) ∨
      (deriveSymbol name ≠ "" ∧ s.symbols.contains (deriveSymbol name) = false ∧
        t = { s with symbols := s.symbols.insert (deriveSymbol name) name }) := by
  rw [run_addDerivedSymbol] at h
  split at h
  next hempty =>
    cases h
    exact .inl ⟨hempty, rfl⟩
  next hempty =>
    split at h
    · cases h
    next htaken =>
      cases h
      exact .inr ⟨hempty, Bool.eq_false_iff.mpr htaken, rfl⟩

/-- Formats that are all passed have changed nothing but the symbols, and these only if one of them
has a symbol to derive. -/
theorem forM_addDerivedSymbol_eq_ok {names : List String}
    (hnames : ∀ name ∈ names, s.formats.contains name = true)
    (h : EStateM.run (names.forM (addDerivedSymbol false)) s = .ok ⟨⟩ t) :
    t.formats = s.formats ∧ t.defaultName = s.defaultName ∧
      (t = s ↔ ∀ name ∈ names, deriveSymbol name = "") := by
  induction names generalizing s with
  | nil =>
    cases h
    simp
  | cons name names ih =>
    obtain ⟨hname, hnames⟩ := List.forall_mem_cons.mp hnames
    rw [List.forM_eq_forM, List.forM_cons, run_bind_eq_ok_iff] at h
    obtain ⟨_, u, hfirst, h⟩ := h
    obtain ⟨hempty, rfl⟩ | ⟨hempty, hfree, hu⟩ := addDerivedSymbol_eq_ok hfirst
    · obtain ⟨hformats, hdefault, heq⟩ := ih hnames h
      refine ⟨hformats, hdefault, ?_⟩
      rw [heq, List.forall_mem_cons, and_iff_right hempty]
    · have hstored : ∀ other ∈ names, u.formats.contains other = true := by
        rw [hu]
        exact hnames
      obtain ⟨hformats, hdefault, -⟩ := ih hstored h
      rw [hformats, hdefault, hu]
      refine ⟨rfl, rfl, iff_of_false ?_ fun hall => hempty (hall name List.mem_cons_self)⟩
      -- The first symbol is new, and nothing takes it away again.
      rintro rfl
      have hrest := changes_forM_addDerivedSymbol false hstored
      rw [List.forM_eq_forM, Edit.after_eq_of_ok h, hu] at hrest
      have hkept := hrest.keptIn.symbols _ ((Table.contains_insert ..).mpr (.inl rfl))
      rw [hfree] at hkept
      cases hkept

/-! ### The exception -/

theorem pairwise_unsymbolised (s : FormatSet) : s.unsymbolised.Pairwise (· < ·) :=
  (List.pairwise_map.mpr s.formats.ascending).filter _

/-- The names ascend, so those before one of them are the smaller ones. -/
theorem mem_before_iff {before after : List String} {name other : String}
    (hsplit : s.unsymbolised = before ++ name :: after) :
    other ∈ before ↔ other ∈ s.unsymbolised ∧ other < name := by
  have hascending := pairwise_unsymbolised s
  rw [hsplit] at hascending ⊢
  exact Table.mem_before_iff hascending

theorem generateSymbols_eq_error {lenient : Bool}
    (h : (generateSymbols lenient).run s = .error e t) :
    t.formats = s.formats ∧ t.defaultName = s.defaultName ∧
      ∃ name ∈ s.unsymbolised, e = .duplicateSymbol (deriveSymbol name) name ∧
        (t = s ↔ ∀ other ∈ s.unsymbolised, other < name → deriveSymbol other = "") := by
  rw [run_generateSymbols] at h
  obtain ⟨before, name, after, u, hsplit, hbefore, hname⟩ := run_forM_eq_error h
  obtain ⟨rfl, rfl, rfl⟩ := addDerivedSymbol_eq_error hname
  have hstored : ∀ other ∈ before, s.formats.contains other = true := by
    intro other hother
    exact contains_of_mem_unsymbolised (hsplit ▸ List.mem_append_left _ hother)
  obtain ⟨hformats, hdefault, heq⟩ := forM_addDerivedSymbol_eq_ok hstored hbefore
  refine ⟨hformats, hdefault, name, by simp [hsplit], rfl, ?_⟩
  rw [heq]
  simp only [mem_before_iff hsplit, and_imp]

/-! ### Calls -/

theorem insert_eq_error {name pattern : String} (h : (insert name pattern).run s = .error e t) :
    t = s := by
  rw [run_insert] at h
  split at h
  · cases h
    rfl
  · split at h <;> cases h
    rfl

theorem addSymbol_eq_error {symbol name : String}
    (h : (addSymbol symbol name).run s = .error e t) : t = s := by
  rw [run_addSymbol] at h
  split at h
  · split at h <;> cases h
    rfl
  · cases h
    rfl

theorem setDefault_eq_error {key : String} (h : (setDefault key).run s = .error e t) : t = s := by
  rw [run_setDefault] at h
  split at h <;> cases h
  rfl

theorem call_eq_error {c : Call} (h : c.edit.run s = .error e t) :
    (t = s ∧ ∀ lenient, c ≠ .generateSymbols lenient) ∨
      ∃ lenient, c = .generateSymbols lenient ∧ (generateSymbols lenient).run s = .error e t := by
  cases c with
  | insert name pattern => exact .inl ⟨insert_eq_error h, nofun⟩
  | addSymbol symbol name => exact .inl ⟨addSymbol_eq_error h, nofun⟩
  | generateSymbols lenient => exact .inr ⟨lenient, rfl, h⟩
  | setDefault key => exact .inl ⟨setDefault_eq_error h, nofun⟩

/-- A failed call changes no format and not the default, and takes no symbol away. It leaves the set
as it was, unless it derives symbols and has found one for a format before the one that it reports.
-/
theorem failed_call {c : Call} (h : c.edit.run s = .error e t) :
    t.formats = s.formats ∧ t.defaultName = s.defaultName ∧
      (∀ symbol, ∀ name ∈ s.symbols.get? symbol, t.symbols.get? symbol = some name) ∧
      (t = s ↔ ∀ lenient symbol name, c = .generateSymbols lenient →
        e = .duplicateSymbol symbol name →
          ∀ other ∈ s.unsymbolised, other < name → deriveSymbol other = "") := by
  have hsymbols : ∀ symbol, ∀ name ∈ s.symbols.get? symbol, t.symbols.get? symbol = some name := by
    have hchanges := changes_call c s
    rw [Edit.after_eq_of_error h] at hchanges
    exact fun _ _ hname => hchanges.get?_symbols hname
  rcases call_eq_error h with ⟨rfl, hc⟩ | ⟨lenient, rfl, hrun⟩
  · refine ⟨rfl, rfl, hsymbols, iff_of_true rfl ?_⟩
    intro lenient _ _ heq
    exact absurd heq (hc lenient)
  · obtain ⟨hformats, hdefault, name, -, rfl, heq⟩ := generateSymbols_eq_error hrun
    refine ⟨hformats, hdefault, hsymbols, heq.trans ⟨?_, ?_⟩⟩
    · rintro hall _ _ _ - ⟨⟩
      exact hall
    · intro hall
      exact hall lenient _ name rfl rfl

/-- Only the first format has no symbol, and the second has the one that would be derived for it. So
nothing has happened before the failure. -/
theorem failed_call_at_first_format : ∃ s t : FormatSet,
    s.names = [("first_last", none), ("full_long", some "fl")] ∧
      (Call.generateSymbols false).edit.run s =
        .error (.duplicateSymbol "fl" "first_last") t ∧ t = s := by
  let s := (Call.addSymbol "fl" "full_long").edit.after
    ((Call.insert "full_long" "\x7bb\x7d").edit.after
      ((Call.insert "first_last" "\x7ba\x7d").edit.after .empty))
  have hunsymbolised : s.unsymbolised = ["first_last"] := by decide +kernel
  obtain ⟨e, t, hrun, he⟩ := exists_run_eq_error (m := (Call.generateSymbols false).edit) (s := s)
    (P := fun e _ => e = .duplicateSymbol "fl" "first_last") (by decide +kernel)
  obtain rfl := of_decide_eq_true he
  refine ⟨s, t, by decide +kernel, hrun, (failed_call hrun).2.2.2.mpr ?_⟩
  rintro _ _ _ - ⟨⟩ other hother hlt
  rw [hunsymbolised, List.mem_singleton] at hother
  exact absurd hlt (hother ▸ String.lt_irrefl _)

/-- The failure reports the second format, and the first one has got its symbol. -/
theorem not_failed_call_eq :
    ¬∀ s : FormatSet, s.Reachable → ∀ (c : Call) (e : FormatError) (t : FormatSet),
      c.edit.run s = .error e t → t = s := by
  intro hall
  let s := (Call.insert "full_long" "\x7bb\x7d").edit.after
    ((Call.insert "first_last" "\x7ba\x7d").edit.after .empty)
  have hs : s.Reachable := (Reachable.empty.call _).call _
  obtain ⟨e, t, hrun, ht⟩ := exists_run_eq_error (m := (Call.generateSymbols false).edit) (s := s)
    (P := fun _ t => t.symbolOf? "first_last" = some "fl") (by decide +kernel)
  have hnone : s.symbolOf? "first_last" = none := by decide +kernel
  rw [hall s hs (.generateSymbols false) e t hrun, decide_eq_true_iff, hnone] at ht
  cases ht

end SlotPattern.FormatSet
