import SlotPattern.Proofs.Declarations
import SlotPattern.Proofs.Lookups

/-!
# Loading

To load a declaration is to perform its checks, each in a phase that makes its edits at the same
time. A loop over the entries of a table meets the smallest key at fault first, and behind the last
entry it has made the edits of all. So a set comes of exactly the consistent declarations, and what
is reported of any other is the first failure of a check.
-/

namespace SlotPattern

open FormatSet

/-! ### Edits that decide checks -/

/-- The edit decides whether something has passed. If it succeeds, that has and the set is left in a
state described by `after`; if it fails, the error says what was wrong. -/
structure FormatSet.Edit.Decides (m : Edit Unit) (s : FormatSet) (passed : Prop)
    (fails : FormatError → Prop) (after : FormatSet → Prop) : Prop where
  ok : ∀ t, m.run s = .ok () t → passed ∧ after t
  error : ∀ e t, m.run s = .error e t → fails e

namespace FormatSet.Edit.Decides

variable {m : Edit Unit} {f : Unit → Edit Unit} {s t : FormatSet} {e : FormatError}
  {passed passed' : Prop} {fails fails' : FormatError → Prop} {after : FormatSet → Prop}

theorem of_ok (h : m.run s = .ok () t) (hpassed : passed) (hafter : after t) :
    m.Decides s passed fails after := by
  constructor
  · intro u hu
    cases h.symm.trans hu
    exact ⟨hpassed, hafter⟩
  · intro e u hu
    cases h.symm.trans hu

theorem of_error (h : m.run s = .error e t) (hfails : fails e) :
    m.Decides s passed fails after := by
  constructor
  · intro u hu
    cases h.symm.trans hu
  · intro e' u hu
    cases h.symm.trans hu
    exact hfails

theorem bind_of_ok (h : m.run s = .ok () t) (hf : (f ()).Decides t passed fails after) :
    Edit.Decides (m >>= f) s passed fails after := by
  have hrun : (m >>= f).run s = (f ()).run t := by rw [EStateM.run_bind, h]
  constructor
  · intro u hu
    exact hf.ok u (hrun.symm.trans hu)
  · intro e u hu
    exact hf.error e u (hrun.symm.trans hu)

theorem bind_of_error (h : m.run s = .error e t) (hfails : fails e) :
    Edit.Decides (m >>= f) s passed fails after :=
  of_error (by rw [EStateM.run_bind, h]) hfails

theorem imp (h : m.Decides s passed fails after) (hpassed : passed → passed')
    (hfails : ∀ e, fails e → fails' e) : m.Decides s passed' fails' after := by
  constructor
  · intro t ht
    exact (h.ok t ht).imp_left hpassed
  · intro e t ht
    exact hfails e (h.error e t ht)

end FormatSet.Edit.Decides

/-- The edit decides about one check. -/
abbrev FormatSet.Edit.DecidesCheck (m : Edit Unit) (s : FormatSet) (c : Check)
    (after : FormatSet → Prop) : Prop :=
  m.Decides s c.Passed c.Fails after

/-- The edit decides about a row of checks. -/
abbrev FormatSet.Edit.DecidesChecks (m : Edit Unit) (s : FormatSet) (cs : List Check)
    (after : FormatSet → Prop) : Prop :=
  m.Decides s (∀ c ∈ cs, c.Passed) (Check.FirstFails cs) after

namespace Check

variable {s : FormatSet} {c : Check} {cs : List Check} {P Q : FormatSet → Prop}

theorem decides_singleton {m : Edit Unit} (h : m.DecidesCheck s c P) :
    m.DecidesChecks s [c] P := by
  refine h.imp ?_ ?_
  · intro hpassed
    exact List.forall_mem_singleton.mpr hpassed
  · intro e hfails
    exact .here hfails

/-- The checks that come later are performed if the first one is passed. -/
theorem decides_bind {m : Edit Unit} {f : Unit → Edit Unit} (hm : m.DecidesCheck s c P)
    (hf : ∀ t, P t → (f ()).DecidesChecks t cs Q) : Edit.DecidesChecks (m >>= f) s (c :: cs) Q := by
  cases hrun : m.run s with
  | error e t => exact .bind_of_error hrun (.here (hm.error e t hrun))
  | ok _ t =>
    obtain ⟨hpassed, hafter⟩ := hm.ok t hrun
    refine (Edit.Decides.bind_of_ok hrun (hf t hafter)).imp ?_ ?_
    · intro hothers
      exact List.forall_mem_cons.mpr ⟨hpassed, hothers⟩
    · intro e hfails
      exact .later hpassed hfails

/-! ### Loops over the entries of a table -/

section Entries

variable {α : Type} {table : Table α} {done rest : List (String × α)} {key : String} {value : α}

variable (hkeys : ∀ key e, c.fault key e → table.contains key = true)
include hkeys

theorem exists_entry {e : FormatError} (h : c.fault key e) :
    ∃ value, (key, value) ∈ table.entries := by
  obtain ⟨value, hvalue⟩ := Option.isSome_iff_exists.mp (hkeys key e h)
  exact ⟨value, Table.get?_eq_some_iff.mp hvalue⟩

theorem passed_of_entries (h : ∀ entry ∈ table.entries, ∀ e, ¬c.fault entry.1 e) : c.Passed := by
  intro key e hfault
  obtain ⟨value, hvalue⟩ := exists_entry hkeys hfault
  exact h _ hvalue e hfault

/-- The first entry at fault has the smallest key at fault. -/
theorem fails_of_entry (hsplit : table.entries = done ++ (key, value) :: rest)
    (hdone : ∀ entry ∈ done, ∀ e, ¬c.fault entry.1 e) {e : FormatError} (h : c.fault key e) :
    c.Fails e := by
  refine ⟨key, h, ?_⟩
  intro other hlt e' hfault
  obtain ⟨v, hv⟩ := exists_entry hkeys hfault
  have hascending := table.ascending
  rw [hsplit] at hascending hv
  exact hdone _ ((Table.mem_before_iff hascending).mpr ⟨hv, hlt⟩) e' hfault

variable {f : String → α → Edit Unit} {I : List (String × α) → FormatSet → Prop}
  (hstep : ∀ done key value t, table.get? key = some value → done.lookup key = none →
    I done t → (f key value).Decides t (∀ e, ¬c.fault key e) (c.fault key)
      (I (done ++ [(key, value)])))
include hstep

theorem decides_entries_from (hsplit : table.entries = done ++ rest)
    (hdone : ∀ entry ∈ done, ∀ e, ¬c.fault entry.1 e) (hs : I done s) :
    Edit.DecidesCheck (rest.forM fun entry => f entry.1 entry.2) s c (I table.entries) := by
  rw [List.forM_eq_forM]
  -- The induction is on the entries that are left. Those that are done have passed.
  induction rest generalizing done s with
  | nil =>
    rw [List.append_nil] at hsplit
    rw [← hsplit] at hdone hs
    exact .of_ok rfl (passed_of_entries hkeys hdone) hs
  | cons entry rest ih =>
    obtain ⟨key, value⟩ := entry
    have hvalue : table.get? key = some value := by
      rw [Table.get?_eq_some_iff, hsplit]
      simp
    have hfirst := hstep done key value s hvalue (Table.lookup_before hsplit) hs
    rw [List.forM_cons]
    cases hrun : (f key value).run s with
    | error e t =>
      exact .bind_of_error hrun (fails_of_entry hkeys hsplit hdone (hfirst.error e t hrun))
    | ok _ t =>
      obtain ⟨hpassed, hafter⟩ := hfirst.ok t hrun
      have hdone' : ∀ entry ∈ done ++ [(key, value)], ∀ e, ¬c.fault entry.1 e :=
        List.forall_mem_append.mpr ⟨hdone, List.forall_mem_singleton.mpr hpassed⟩
      exact .bind_of_ok hrun (ih (by simp [hsplit]) hdone' hafter)

/-- If each step decides whether its key is at fault, the loop performs the check. The invariant is
about the entries that are done, and none of these has the key of the next one. -/
theorem decides_entries (hs : I [] s) :
    Edit.DecidesCheck (table.entries.forM fun entry => f entry.1 entry.2) s c (I table.entries) :=
  decides_entries_from hkeys hstep (List.nil_append _).symm nofun hs

end Entries

end Check

namespace Declaration

variable {d : Declaration} {s t : FormatSet}

/-! ### Formats and declared symbols -/

/-- The set has compiled formats for some texts, the given symbols, and no default. -/
structure Holds (formats symbols : String → Option String) (s : FormatSet) : Prop where
  formats : ∀ name, Option.Rel Compiles (formats name) (s.formats.get? name)
  symbols : ∀ symbol, s.symbols.get? symbol = symbols symbol
  default : s.defaultName = none

theorem Holds.empty : Holds (fun _ => none) (fun _ => none) .empty :=
  ⟨fun _ => .none, fun _ => rfl, rfl⟩

section Step

variable {done : List (String × String)}

theorem decides_insert {name text : String} (htext : d.formats.get? name = some text)
    (hnew : done.lookup name = none) (hs : Holds (List.lookup · done) (fun _ => none) s) :
    (insert name text).Decides s (∀ e, ¬d.FormatFault name e) (d.FormatFault name)
      (Holds (List.lookup · (done ++ [(name, text)])) fun _ => none) := by
  by_cases hname : name = defaultFormat
  · have hrun : (insert name text).run s = .error .reservedName s := by
      rw [run_insert, if_pos hname]
    exact .of_error hrun (.reserved (Option.isSome_of_eq_some htext) hname)
  cases hcompile : Pattern.compile text with
  | error cause =>
    have hrun : (insert name text).run s = .error (.pattern name cause) s := by
      rw [run_insert, if_neg hname, hcompile]
    exact .of_error hrun (.pattern htext hname hcompile)
  | ok p =>
    refine .of_ok (insert_eq_ok_iff.mpr ⟨hname, p, hcompile, rfl⟩) ?_ ?_
    · rintro e (⟨-, hreserved⟩ | ⟨htext', -, hcause⟩)
      · exact hname hreserved
      · cases htext.symm.trans htext'
        cases hcompile.symm.trans hcause
    · refine ⟨?_, hs.symbols, hs.default⟩
      intro other
      rw [Table.lookup_append_singleton hnew, Table.get?_insert]
      split
      · exact .some hcompile
      · exact hs.formats other

/-- A declared symbol is never taken, because its key comes only once. -/
theorem decides_addSymbol {symbol name : String} (hname : d.symbols.get? symbol = some name)
    (hnew : done.lookup symbol = none) (hs : Holds d.formats.get? (List.lookup · done) s) :
    (addSymbol symbol name).Decides s (∀ e, ¬d.SymbolFault symbol e) (d.SymbolFault symbol)
      (Holds d.formats.get? (List.lookup · (done ++ [(symbol, name)]))) := by
  have hfree : (s.symbols.get? symbol).all (· = name) = true := by
    rw [hs.symbols, hnew, Option.all_none]
  have hstored : s.formats.contains name = d.formats.contains name :=
    contains_of_compiles hs.formats name
  cases hdeclared : d.formats.contains name with
  | false =>
    have hrun : (addSymbol symbol name).run s = .error (.formatNotFound name) s := by
      simp [run_addSymbol, hstored, hdeclared]
    exact .of_error hrun (.missing hname hdeclared)
  | true =>
    have hrun : (addSymbol symbol name).run s =
        .ok () { s with symbols := s.symbols.insert symbol name } := by
      rw [run_addSymbol, hstored, hdeclared, if_pos rfl, if_pos hfree]
    refine .of_ok hrun ?_ ?_
    · rintro e ⟨hname', hmissing⟩
      cases hname.symm.trans hname'
      rw [hdeclared] at hmissing
      cases hmissing
    · refine ⟨hs.formats, ?_, hs.default⟩
      intro other
      rw [Table.lookup_append_singleton hnew, Table.get?_insert]
      split
      · rfl
      · exact hs.symbols other

end Step

/-! ### Derived symbols -/

section Derivation

variable (hs : Holds d.formats.get? d.symbols.get? s)
include hs

theorem Holds.lacksSymbol_iff {name : String} :
    s.formats.LacksSymbol s.symbols name ↔ d.formats.LacksSymbol d.symbols name := by
  simp only [Table.LacksSymbol, contains_of_compiles hs.formats, hs.symbols]

theorem Holds.collides_iff {name : String} :
    s.formats.Collides s.symbols name ↔ d.formats.Collides d.symbols name := by
  have hcontains : s.symbols.contains (deriveSymbol name) =
      d.symbols.contains (deriveSymbol name) := by
    rw [Table.contains, hs.symbols, Table.contains]
  constructor
  · rintro ⟨hderivable, htaken⟩
    simp only [hcontains, hs.lacksSymbol_iff] at htaken
    exact ⟨hderivable, htaken⟩
  · rintro ⟨hderivable, htaken⟩
    simp only [← hcontains, ← hs.lacksSymbol_iff] at htaken
    exact ⟨hderivable, htaken⟩

theorem Holds.describesNames (hgenerate : d.generateSymbols = false) :
    d.DescribesNames s := by
  refine ⟨hs.formats, ?_⟩
  intro symbol name
  rw [hs.symbols]
  constructor
  · intro h
    exact .declared h
  · rintro (h | ⟨hgenerate'⟩)
    · exact h
    · rw [hgenerate] at hgenerate'
      cases hgenerate'

theorem Holds.describesNames_of_derives (hgenerate : d.generateSymbols = true)
    (ht : Derives s.unsymbolised s t) : d.DescribesNames t := by
  refine ⟨ht.formats ▸ hs.formats, ?_⟩
  intro symbol name
  rw [ht.get?_eq_some_iff, hs.symbols, hs.lacksSymbol_iff, hs.collides_iff]
  constructor
  · rintro (h | ⟨hlacks, rfl, hderivable, hfree⟩)
    · exact .declared h
    · exact .derived hgenerate hlacks hderivable hfree
  · rintro (h | ⟨-, hlacks, hderivable, hfree⟩)
    · exact .inl h
    · exact .inr ⟨hlacks, rfl, hderivable, hfree⟩

theorem decides_generateSymbols (hgenerate : d.generateSymbols = true) :
    (FormatSet.generateSymbols d.ignoreSymbolErrors).DecidesCheck s d.derivationCheck
      fun t => d.DescribesNames t ∧ t.defaultName = none := by
  cases hrun : (FormatSet.generateSymbols d.ignoreSymbolErrors).run s with
  | ok _ t =>
    have hderives := derives_generateSymbols hrun
    refine .of_ok hrun ?_ ⟨hs.describesNames_of_derives hgenerate hderives,
      hderives.default.trans hs.default⟩
    rintro name e ⟨-, hstrict, hlacks, hcollides⟩
    rw [hstrict] at hrun
    rw [← hs.lacksSymbol_iff] at hlacks
    rw [← hs.collides_iff] at hcollides
    exact generateSymbols_strict_eq_ok hrun hlacks hcollides
  | error e t =>
    refine .of_error hrun ?_
    cases hstrict : d.ignoreSymbolErrors with
    | true =>
      obtain ⟨u, hu⟩ := generateSymbols_lenient s
      rw [hstrict, hu] at hrun
      cases hrun
    | false =>
      rw [hstrict] at hrun
      obtain ⟨name, hlacks, hcollides, hbefore, rfl⟩ := generateSymbols_strict_eq_error hrun
      simp only [hs.lacksSymbol_iff, hs.collides_iff] at hlacks hcollides hbefore
      refine ⟨name, .collision hgenerate hstrict hlacks hcollides, ?_⟩
      rintro other hlt e' ⟨-, -, hlacks', hcollides'⟩
      exact hbefore other hlt hlacks' hcollides'

theorem decides_deriveSymbols : d.deriveSymbols.DecidesCheck s d.derivationCheck
    fun t => d.DescribesNames t ∧ t.defaultName = none := by
  unfold deriveSymbols
  cases hgenerate : d.generateSymbols with
  | true => exact decides_generateSymbols hs hgenerate
  | false =>
    refine .of_ok rfl ?_ ⟨hs.describesNames hgenerate, hs.default⟩
    rintro name e ⟨hgenerate'⟩
    rw [hgenerate] at hgenerate'
    cases hgenerate'

end Derivation

/-! ### The default -/

section Default

variable (hs : d.DescribesNames s)
include hs

theorem DescribesNames.resolveName?_eq_some_iff {key name : String} :
    s.resolveName? key = some name ↔ d.StandsFor key name := by
  rw [resolveName?, Option.or_eq_some_iff, hs.symbols, Option.eq_none_iff_forall_ne_some,
    contains_of_compiles hs.formats]
  simp only [ne_eq, hs.symbols, Option.ite_none_right_eq_some, Option.some.injEq]
  constructor
  · rintro (h | ⟨hsymbol, hname, rfl⟩)
    · exact .symbol h
    · exact .name hsymbol hname
  · rintro (h | ⟨hsymbol, hname⟩)
    · exact .inl h
    · exact .inr ⟨hsymbol, hname, rfl⟩

theorem DescribesNames.resolveName?_eq_none_iff {key : String} : s.resolveName? key = none ↔
    (∀ name, ¬d.Abbreviates key name) ∧ d.formats.contains key = false := by
  rw [FormatSet.resolveName?_eq_none_iff, contains_of_compiles hs.formats, Bool.not_eq_true,
    Bool.not_eq_true, Table.contains, Option.isSome_eq_false_iff, Option.isNone_iff_eq_none,
    Option.eq_none_iff_forall_ne_some]
  simp only [ne_eq, hs.symbols]

theorem decides_chooseDefault (hdefault : s.defaultName = none) :
    d.chooseDefault.DecidesCheck s d.defaultCheck d.Describes := by
  unfold chooseDefault
  cases hkey : d.defaultName with
  | none =>
    refine .of_ok rfl ?_ ⟨hs, by simp [hdefault, hkey]⟩
    rintro key e ⟨hkey'⟩
    cases hkey.symm.trans hkey'
  | some key =>
    cases hname : s.resolveName? key with
    | none =>
      have hrun : (setDefault key).run s = .error (.formatNotFound key) s := by
        rw [run_setDefault, hname]
      refine .of_error hrun ?_
      obtain ⟨hsymbol, hmissing⟩ := hs.resolveName?_eq_none_iff.mp hname
      refine ⟨key, .missing hkey hsymbol hmissing, ?_⟩
      -- The default is the only key that can be at fault.
      rintro other hlt e ⟨hother⟩
      cases hkey.symm.trans hother
      exact String.lt_irrefl _ hlt
    | some name =>
      have hrun : (setDefault key).run s = .ok () { s with defaultName := some name } := by
        rw [run_setDefault, hname]
      refine .of_ok hrun ?_ ⟨⟨hs.formats, hs.symbols⟩, ?_⟩
      · rintro other e ⟨hother, hsymbol, hmissing⟩
        cases hkey.symm.trans hother
        cases hname.symm.trans (hs.resolveName?_eq_none_iff.mpr ⟨hsymbol, hmissing⟩)
      · intro other
        simp [hkey, ← hs.resolveName?_eq_some_iff, hname]

end Default

/-! ### The phases together -/

theorem decides_edits (d : Declaration) :
    d.edits.DecidesChecks .empty d.checks d.Describes := by
  rw [edits]
  refine Check.decides_bind (P := Holds d.formats.get? fun _ => none) ?_ fun s hs => ?_
  · refine Check.decides_entries (I := fun done => Holds (List.lookup · done) fun _ => none)
      ?_ ?_ Holds.empty
    · rintro name e (⟨h, -⟩ | ⟨h, -, -⟩)
      · exact h
      · exact Option.isSome_of_eq_some h
    · intro done name text t htext hnew ht
      exact decides_insert htext hnew ht
  refine Check.decides_bind (P := Holds d.formats.get? d.symbols.get?) ?_ fun t ht => ?_
  · refine Check.decides_entries (I := fun done => Holds d.formats.get? (List.lookup · done))
      ?_ ?_ hs
    · rintro symbol e ⟨h, -⟩
      exact Option.isSome_of_eq_some h
    · intro done symbol name t hname hnew ht
      exact decides_addSymbol hname hnew ht
  refine Check.decides_bind (decides_deriveSymbols ht) fun u hu => ?_
  exact Check.decides_singleton (decides_chooseDefault hu.1 hu.2)

/-! ### Loading -/

theorem of_load_eq_ok (h : d.load = .ok s) : d.Consistent ∧ d.Describes s := by
  obtain ⟨hpassed, hdescribes⟩ := (decides_edits d).ok s (load_eq_ok_iff.mp h)
  exact ⟨consistent_iff.mpr hpassed, hdescribes⟩

theorem of_load_eq_error {e : FormatError} (h : d.load = .error e) : d.Refused e := by
  obtain ⟨t, ht⟩ := load_eq_error_iff.mp h
  exact (decides_edits d).error e t ht

theorem exists_load_iff : (∃ s, d.load = .ok s) ↔ d.Consistent := by
  constructor
  · rintro ⟨s, h⟩
    exact (of_load_eq_ok h).1
  · intro hd
    cases h : d.load with
    | ok s => exact ⟨s, rfl⟩
    | error e => exact absurd hd (of_load_eq_error h).not_consistent

theorem load_eq_ok_iff_describes : d.load = .ok s ↔ d.Consistent ∧ d.Describes s := by
  constructor
  · intro h
    exact of_load_eq_ok h
  · rintro ⟨hd, hs⟩
    obtain ⟨t, ht⟩ := exists_load_iff.mpr hd
    rw [ht, (of_load_eq_ok ht).2.unique hs]

theorem load_eq_error_iff_refused {e : FormatError} : d.load = .error e ↔ d.Refused e := by
  constructor
  · intro h
    exact of_load_eq_error h
  · intro h
    cases hload : d.load with
    | ok s => exact absurd (of_load_eq_ok hload).1 h.not_consistent
    | error e' => rw [(of_load_eq_error hload).unique h]

end Declaration

theorem FormatSet.ofRon_eq_load {text : String} {d : Declaration}
    (hd : Declaration.ofRon? text = some d) : ofRon text = d.load := by
  rw [ofRon, hd]

/-- A declaration is loaded if and only if it is consistent, and the set is the one that it
describes. Any other declaration is refused for the first failure of a check; that a symbol is taken
can only be found when symbols are derived. -/
theorem FormatSet.ofRon_of_declaration {text : String} {d : Declaration}
    (hd : Declaration.ofRon? text = some d) :
    ((∃ s, ofRon text = .ok s) ↔ d.Consistent) ∧
      (∀ s, ofRon text = .ok s ↔ d.Consistent ∧ d.Describes s) ∧
      (∀ e, ofRon text = .error e ↔ d.Refused e) ∧
      ∀ symbol name, ofRon text = .error (.duplicateSymbol symbol name) →
        d.DerivationFault name (.duplicateSymbol symbol name) := by
  rw [ofRon_eq_load hd]
  refine ⟨Declaration.exists_load_iff, fun _ => Declaration.load_eq_ok_iff_describes,
    fun _ => Declaration.load_eq_error_iff_refused, ?_⟩
  intro symbol name h
  exact (Declaration.load_eq_error_iff_refused.mp h).duplicateSymbol

/-- The default is a symbol that is not declared but derived. -/
theorem FormatSet.ofRon_of_declaration_derived_default :
    ∃ (text : String) (d : Declaration) (s : FormatSet),
      text = "(formats: \x7b\"a\": \"\x7bx\x7d\", \"b_c\": \"\x7by\x7d\"\x7d, " ++
        "symbols: \x7b\"s\": \"a\"\x7d, default: Some(\"bc\"), generate_symbols: true)" ∧
      Declaration.ofRon? text = some d ∧ d.symbols.contains "bc" = false ∧
      d.defaultName = some "bc" ∧ d.Consistent ∧ d.Describes s ∧ ofRon text = .ok s ∧
      s.names = [("a", some "s"), ("b_c", some "bc")] ∧ s.defaultName = some "b_c" := by
  let text := "(formats: \x7b\"a\": \"\x7bx\x7d\", \"b_c\": \"\x7by\x7d\"\x7d, " ++
    "symbols: \x7b\"s\": \"a\"\x7d, default: Some(\"bc\"), generate_symbols: true)"
  have hloaded : (Declaration.ofRon? text).any (fun d =>
      d.symbols.contains "bc" = false ∧ d.defaultName = some "bc" ∧ d.load.toOption.any fun s =>
        s.names = [("a", some "s"), ("b_c", some "bc")] ∧ s.defaultName = some "b_c") = true := by
    decide +kernel
  simp only [Option.any_eq_true, decide_eq_true_eq] at hloaded
  obtain ⟨d, hd, hsymbols, hdefault, s, hs, hnames, hname⟩ := hloaded
  have hload : ofRon text = .ok s := by
    rw [ofRon_eq_load hd]
    cases h : d.load with
    | ok t => simpa [h, Except.toOption] using hs
    | error e => simp [h, Except.toOption] at hs
  obtain ⟨hconsistent, hdescribes⟩ := ((ofRon_of_declaration hd).2.1 s).mp hload
  exact ⟨text, d, s, rfl, hd, hsymbols, hdefault, hconsistent, hdescribes, hload, hnames, hname⟩

end SlotPattern
