import SlotPattern.Proofs.SymbolAssignment

/-!
# What a declaration describes

Whether a declaration can be loaded is a question about its texts alone, and so is the set that it
describes. Its formats, symbols, derived symbols and default are checked in this order. The first of
these checks that is not passed decides about the error, and there the smallest key at fault.
-/

namespace SlotPattern

open FormatSet (deriveSymbol)

/-! ### Checks -/

/-- A check of keys. It tells which keys are at fault, each for one error. -/
structure Check where
  fault : String → FormatError → Prop
  unique : ∀ {key e e'}, fault key e → fault key e' → e = e'

namespace Check

variable {c : Check} {cs : List Check} {e e' : FormatError}

/-- No key is at fault. -/
def Passed (c : Check) : Prop :=
  ∀ key e, ¬c.fault key e

/-- The smallest key at fault has the error. -/
def Fails (c : Check) (e : FormatError) : Prop :=
  ∃ key, c.fault key e ∧ ∀ other < key, ∀ e', ¬c.fault other e'

theorem Fails.not_passed (h : c.Fails e) : ¬c.Passed := by
  obtain ⟨key, hkey, -⟩ := h
  intro hpassed
  exact hpassed key e hkey

theorem Fails.unique (h : c.Fails e) (h' : c.Fails e') : e = e' := by
  obtain ⟨key, hkey, hbefore⟩ := h
  obtain ⟨key', hkey', hbefore'⟩ := h'
  by_cases hlt : key < key'
  · exact absurd hkey (hbefore' key hlt e)
  · by_cases heq : key = key'
    · subst heq
      exact c.unique hkey hkey'
    · exact absurd hkey' (hbefore key' (Table.lt_of_not_lt_of_ne hlt heq) e')

/-- The first of some checks that is not passed fails with the error. -/
inductive FirstFails : List Check → FormatError → Prop
  | here {c : Check} {cs : List Check} {e : FormatError} (h : c.Fails e) : FirstFails (c :: cs) e
  | later {c : Check} {cs : List Check} {e : FormatError} (hpassed : c.Passed)
      (h : FirstFails cs e) : FirstFails (c :: cs) e

theorem FirstFails.exists_fails (h : FirstFails cs e) : ∃ c ∈ cs, c.Fails e := by
  induction h with
  | here h => exact ⟨_, List.mem_cons_self, h⟩
  | later _ _ ih =>
    obtain ⟨c, hc, h⟩ := ih
    exact ⟨c, List.mem_cons_of_mem _ hc, h⟩

theorem FirstFails.unique (h : FirstFails cs e) (h' : FirstFails cs e') : e = e' := by
  induction h with
  | here h =>
    cases h' with
    | here h' => exact h.unique h'
    | later hpassed => exact absurd hpassed h.not_passed
  | later hpassed _ ih =>
    cases h' with
    | here h' => exact absurd hpassed h'.not_passed
    | later _ h' => exact ih h'

end Check

namespace Declaration

variable {d : Declaration} {s t : FormatSet} {e e' : FormatError}

/-! ### Symbols and names -/

/-- The symbol abbreviates the format, as declared or by derivation. -/
inductive Abbreviates (d : Declaration) : String → String → Prop
  | declared {symbol name : String} (h : d.symbols.get? symbol = some name) :
      Abbreviates d symbol name
  | derived {name : String} (hgenerate : d.generateSymbols = true)
      (hlacks : d.formats.LacksSymbol d.symbols name)
      (hderivable : deriveSymbol name ≠ "") (hfree : ¬d.formats.Collides d.symbols name) :
      Abbreviates d (deriveSymbol name) name

/-- The key is a symbol of the format, or no symbol but the name of the format. -/
inductive StandsFor (d : Declaration) : String → String → Prop
  | symbol {key name : String} (h : d.Abbreviates key name) : StandsFor d key name
  | name {key : String} (hsymbol : ∀ name, ¬d.Abbreviates key name)
      (h : d.formats.contains key = true) : StandsFor d key key

/-! ### What there is to check -/

/-- A format has the reserved name, or its pattern does not compile. -/
inductive FormatFault (d : Declaration) (name : String) : FormatError → Prop
  | reserved (h : d.formats.contains name = true) (hname : name = defaultFormat) :
      FormatFault d name .reservedName
  | pattern {text : String} {cause : ParseError} (h : d.formats.get? name = some text)
      (hname : name ≠ defaultFormat) (hcause : Pattern.compile text = .error cause) :
      FormatFault d name (.pattern name cause)

/-- A declared symbol stands for a format that is not declared. -/
inductive SymbolFault (d : Declaration) (symbol : String) : FormatError → Prop
  | missing {name : String} (h : d.symbols.get? symbol = some name)
      (hname : d.formats.contains name = false) : SymbolFault d symbol (.formatNotFound name)

/-- Symbols are to be derived without leniency, and the format collides. -/
inductive DerivationFault (d : Declaration) (name : String) : FormatError → Prop
  | collision (hgenerate : d.generateSymbols = true) (hstrict : d.ignoreSymbolErrors = false)
      (hlacks : d.formats.LacksSymbol d.symbols name)
      (hcollides : d.formats.Collides d.symbols name) :
      DerivationFault d name (.duplicateSymbol (deriveSymbol name) name)

/-- The default is neither a symbol nor the name of a format. -/
inductive DefaultFault (d : Declaration) (key : String) : FormatError → Prop
  | missing (h : d.defaultName = some key) (hsymbol : ∀ name, ¬d.Abbreviates key name)
      (hname : d.formats.contains key = false) : DefaultFault d key (.formatNotFound key)

/-- The check of the formats. -/
def formatCheck (d : Declaration) : Check where
  fault := d.FormatFault
  unique h h' := by
    cases h with
    | reserved _ hname =>
      cases h' with
      | reserved => rfl
      | pattern _ hname' => exact absurd hname hname'
    | pattern h hname hcause =>
      cases h' with
      | reserved _ hname' => exact absurd hname' hname
      | pattern h' _ hcause' =>
        cases h.symm.trans h'
        cases hcause.symm.trans hcause'
        rfl

/-- The check of the declared symbols. -/
def symbolCheck (d : Declaration) : Check where
  fault := d.SymbolFault
  unique h h' := by
    obtain ⟨h, -⟩ := h
    obtain ⟨h', -⟩ := h'
    cases h.symm.trans h'
    rfl

/-- The check of the formats for which a symbol is to be derived. -/
def derivationCheck (d : Declaration) : Check where
  fault := d.DerivationFault
  unique h h' := by
    cases h
    cases h'
    rfl

/-- The check of the default. -/
def defaultCheck (d : Declaration) : Check where
  fault := d.DefaultFault
  unique h h' := by
    cases h
    cases h'
    rfl

/-- The checks that a declaration has to pass, in their order. -/
def checks (d : Declaration) : List Check :=
  [d.formatCheck, d.symbolCheck, d.derivationCheck, d.defaultCheck]

/-! ### Consistent declarations -/

/-- No format has the reserved name, every pattern compiles, the symbols stand for declared formats,
no format collides where that matters, and the default is a symbol or the name of a format. -/
structure Consistent (d : Declaration) : Prop where
  reserved : d.formats.contains defaultFormat = false
  patterns : ∀ name, ∀ text ∈ d.formats.get? name, ∃ p, Pattern.compile text = .ok p
  targets : ∀ symbol, ∀ name ∈ d.symbols.get? symbol, d.formats.contains name = true
  derivation : d.generateSymbols = true → d.ignoreSymbolErrors = true ∨
    ∀ name, d.formats.LacksSymbol d.symbols name → ¬d.formats.Collides d.symbols name
  default : ∀ key ∈ d.defaultName,
    (∃ name, d.Abbreviates key name) ∨ d.formats.contains key = true

theorem passed_formatCheck_iff : d.formatCheck.Passed ↔
    d.formats.contains defaultFormat = false ∧
      ∀ name, ∀ text ∈ d.formats.get? name, ∃ p, Pattern.compile text = .ok p := by
  constructor
  · intro hpassed
    have hreserved : d.formats.contains defaultFormat = false := by
      rw [← Bool.not_eq_true]
      intro h
      exact hpassed _ _ (.reserved h rfl)
    refine ⟨hreserved, ?_⟩
    intro name text htext
    cases hcompile : Pattern.compile text with
    | ok p => exact ⟨p, rfl⟩
    | error cause =>
      refine absurd (.pattern htext ?_ hcompile) (hpassed name _)
      rintro rfl
      rw [Table.contains, Option.mem_def.mp htext] at hreserved
      cases hreserved
  · rintro ⟨hreserved, hpatterns⟩ name e (⟨h, rfl⟩ | ⟨h, -, hcause⟩)
    · rw [hreserved] at h
      cases h
    · obtain ⟨p, hp⟩ := hpatterns name _ h
      rw [hcause] at hp
      cases hp

theorem passed_symbolCheck_iff : d.symbolCheck.Passed ↔
    ∀ symbol, ∀ name ∈ d.symbols.get? symbol, d.formats.contains name = true := by
  constructor
  · intro hpassed symbol name hname
    rw [← Bool.not_eq_false]
    intro h
    exact hpassed symbol _ (.missing hname h)
  · rintro htargets symbol e ⟨h, hname⟩
    rw [htargets symbol _ h] at hname
    cases hname

theorem passed_derivationCheck_iff : d.derivationCheck.Passed ↔
    (d.generateSymbols = true → d.ignoreSymbolErrors = true ∨
      ∀ name, d.formats.LacksSymbol d.symbols name → ¬d.formats.Collides d.symbols name) := by
  constructor
  · intro hpassed hgenerate
    cases hstrict : d.ignoreSymbolErrors with
    | true => exact .inl rfl
    | false =>
      right
      intro name hlacks hcollides
      exact hpassed name _ (.collision hgenerate hstrict hlacks hcollides)
  · rintro hderivation name e ⟨hgenerate, hstrict, hlacks, hcollides⟩
    rcases hderivation hgenerate with hlenient | hnone
    · rw [hstrict] at hlenient
      cases hlenient
    · exact hnone name hlacks hcollides

theorem passed_defaultCheck_iff : d.defaultCheck.Passed ↔
    ∀ key ∈ d.defaultName,
      (∃ name, d.Abbreviates key name) ∨ d.formats.contains key = true := by
  constructor
  · intro hpassed key hkey
    by_cases hsymbol : ∃ name, d.Abbreviates key name
    · exact .inl hsymbol
    · right
      rw [← Bool.not_eq_false]
      intro hname
      exact hpassed key _ (.missing hkey (not_exists.mp hsymbol) hname)
  · rintro hdefault key e ⟨h, hsymbol, hname⟩
    rcases hdefault key h with ⟨name, habbreviates⟩ | h
    · exact hsymbol name habbreviates
    · rw [hname] at h
      cases h

/-- A declaration is consistent if it passes all checks. -/
theorem consistent_iff : d.Consistent ↔ ∀ c ∈ d.checks, c.Passed := by
  simp only [checks, List.forall_mem_cons, List.not_mem_nil, false_imp_iff, implies_true, and_true,
    passed_formatCheck_iff, passed_symbolCheck_iff, passed_derivationCheck_iff,
    passed_defaultCheck_iff]
  constructor
  · rintro ⟨hreserved, hpatterns, htargets, hderivation, hdefault⟩
    exact ⟨⟨hreserved, hpatterns⟩, htargets, hderivation, hdefault⟩
  · rintro ⟨⟨hreserved, hpatterns⟩, htargets, hderivation, hdefault⟩
    exact ⟨hreserved, hpatterns, htargets, hderivation, hdefault⟩

/-- The error is that of the first check that is not passed. -/
def Refused (d : Declaration) (e : FormatError) : Prop :=
  Check.FirstFails d.checks e

theorem Refused.not_consistent (h : d.Refused e) : ¬d.Consistent := by
  obtain ⟨c, hc, hfails⟩ := Check.FirstFails.exists_fails h
  intro hd
  exact hfails.not_passed (consistent_iff.mp hd c hc)

/-- That a symbol is taken is an error of the derivation. -/
theorem Refused.duplicateSymbol {symbol name : String}
    (h : d.Refused (.duplicateSymbol symbol name)) :
    d.DerivationFault name (.duplicateSymbol symbol name) := by
  obtain ⟨c, hc, key, hfault, -⟩ := Check.FirstFails.exists_fails h
  simp only [checks, List.mem_cons, List.not_mem_nil, or_false] at hc
  rcases hc with rfl | rfl | rfl | rfl
  · cases hfault
  · cases hfault
  · obtain ⟨hgenerate, hstrict, hlacks, hcollides⟩ := hfault
    exact .collision hgenerate hstrict hlacks hcollides
  · cases hfault

/-! ### The set described -/

/-- The pattern is what the text compiles to. -/
def Compiles (text : String) (p : Pattern) : Prop :=
  Pattern.compile text = .ok p

/-- The set holds the declared formats, compiled, and the declared and derived symbols. -/
structure DescribesNames (d : Declaration) (s : FormatSet) : Prop where
  formats : ∀ name, Option.Rel Compiles (d.formats.get? name) (s.formats.get? name)
  symbols : ∀ symbol name, s.symbols.get? symbol = some name ↔ d.Abbreviates symbol name

/-- The set holds what is declared, and as its default the name of the format for which the declared
default stands. -/
structure Describes (d : Declaration) (s : FormatSet) : Prop extends DescribesNames d s where
  default : ∀ name, s.defaultName = some name ↔ ∃ key ∈ d.defaultName, d.StandsFor key name

theorem isSome_of_compiles {text : Option String} {p : Option Pattern}
    (h : Option.Rel Compiles text p) : p.isSome = text.isSome := by
  cases h <;> rfl

theorem contains_of_compiles {texts : Table String}
    (h : ∀ name, Option.Rel Compiles (texts.get? name) (s.formats.get? name)) (name : String) :
    s.formats.contains name = texts.contains name :=
  isSome_of_compiles (h name)

theorem eq_of_compiles {text : Option String} {p q : Option Pattern}
    (hp : Option.Rel Compiles text p) (hq : Option.Rel Compiles text q) : p = q := by
  cases hp with
  | none =>
    cases hq
    rfl
  | some hp =>
    cases hq with
    | some hq =>
      cases hp.symm.trans hq
      rfl

/-- A declaration describes one set. -/
theorem Describes.unique (hs : d.Describes s) (ht : d.Describes t) : s = t := by
  have hformats : s.formats = t.formats := by
    ext1 name
    exact eq_of_compiles (hs.formats name) (ht.formats name)
  have hsymbols : s.symbols = t.symbols := by
    ext symbol name
    rw [hs.symbols, ht.symbols]
  have hdefault : s.defaultName = t.defaultName := by
    ext name
    rw [hs.default, ht.default]
  exact FormatSet.ext hformats hsymbols hdefault

end Declaration

end SlotPattern
