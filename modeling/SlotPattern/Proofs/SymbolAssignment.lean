import SlotPattern.Proofs.DerivedSymbols
import SlotPattern.Proofs.FailedCalls

/-!
# First come, first served

Symbols are derived for the formats that have none, in the order of their names, and a symbol goes
to the first format for which it is derived. That can be said without the loop: a format goes
without its symbol if the set has the symbol already, or if a smaller name without a symbol leads to
the same one.
-/

namespace SlotPattern

/-! ### Formats without a symbol -/

namespace Table

open FormatSet (deriveSymbol)

variable {α : Type}

/-- The format is in the table, and no symbol stands for it. -/
def LacksSymbol (formats : Table α) (symbols : Table String) (name : String) : Prop :=
  formats.contains name = true ∧ ∀ symbol, symbols.get? symbol ≠ some name

/-- A symbol can be derived for the format, but that is there already, or a smaller format without
a symbol comes first. -/
structure Collides (formats : Table α) (symbols : Table String) (name : String) : Prop where
  derivable : deriveSymbol name ≠ ""
  taken : symbols.contains (deriveSymbol name) = true ∨
    ∃ other < name, formats.LacksSymbol symbols other ∧ deriveSymbol other = deriveSymbol name

end Table

namespace FormatSet

variable {s t u : FormatSet} {name symbol : String} {before after rest : List String}

theorem symbolOf?_eq_none_iff :
    s.symbolOf? name = none ↔ ∀ symbol, s.symbols.get? symbol ≠ some name := by
  rw [symbolOf?, Option.map_eq_none_iff, List.find?_eq_none]
  constructor
  · intro h symbol hsymbol
    simpa using h _ (Table.get?_eq_some_iff.mp hsymbol)
  · rintro h ⟨symbol, other⟩ hentry hother
    obtain rfl : other = name := by simpa using hother
    exact h symbol (Table.get?_eq_some_iff.mpr hentry)

theorem mem_unsymbolised : name ∈ s.unsymbolised ↔ s.formats.LacksSymbol s.symbols name := by
  rw [unsymbolised, List.mem_filter, ← Table.contains_iff_mem_keys, Option.isNone_iff_eq_none,
    symbolOf?_eq_none_iff, Table.LacksSymbol]

/-! ### The first of some names -/

theorem isSome_firstDeriving_iff {names : List String} :
    (firstDeriving names symbol).isSome = true ↔
      symbol ≠ "" ∧ ∃ name ∈ names, deriveSymbol name = symbol := by
  by_cases hempty : symbol = "" <;> simp [firstDeriving, hempty]

theorem firstDeriving_unsymbolised_iff : firstDeriving s.unsymbolised symbol = some name ↔
    symbol ≠ "" ∧ s.formats.LacksSymbol s.symbols name ∧ deriveSymbol name = symbol ∧
      ∀ other < name, s.formats.LacksSymbol s.symbols other → deriveSymbol other ≠ symbol := by
  rw [firstDeriving, Option.ite_none_left_eq_some, List.find?_eq_some_iff_append]
  refine and_congr_right fun _ => ?_
  constructor
  · rintro ⟨hname, before, after, hsplit, hbefore⟩
    refine ⟨mem_unsymbolised.mp (by simp [hsplit]), by simpa using hname, ?_⟩
    intro other hlt hother
    have hmem := (mem_before_iff hsplit).mpr ⟨mem_unsymbolised.mpr hother, hlt⟩
    simpa using hbefore other hmem
  · rintro ⟨hlacks, hname, hfirst⟩
    obtain ⟨before, after, hsplit⟩ := List.append_of_mem (mem_unsymbolised.mpr hlacks)
    refine ⟨by simpa using hname, before, after, hsplit, ?_⟩
    intro other hother
    obtain ⟨hmem, hlt⟩ := (mem_before_iff hsplit).mp hother
    simpa using hfirst other hlt (mem_unsymbolised.mp hmem)

/-! ### The loop -/

theorem collides_iff (hsplit : s.unsymbolised = before ++ name :: after)
    (h : Derives before s u) :
    s.formats.Collides s.symbols name ↔
      deriveSymbol name ≠ "" ∧ u.symbols.contains (deriveSymbol name) = true := by
  have hearlier : (∃ other < name, s.formats.LacksSymbol s.symbols other ∧
        deriveSymbol other = deriveSymbol name) ↔
      ∃ other ∈ before, deriveSymbol other = deriveSymbol name := by
    simp only [mem_before_iff hsplit, mem_unsymbolised, and_assoc, and_left_comm]
  have htaken : u.symbols.contains (deriveSymbol name) = true ↔
      s.symbols.contains (deriveSymbol name) = true ∨
        deriveSymbol name ≠ "" ∧ ∃ other ∈ before, deriveSymbol other = deriveSymbol name := by
    rw [Table.contains, h.symbols, Option.isSome_or, Bool.or_eq_true, isSome_firstDeriving_iff]
    rfl
  rw [htaken, ← hearlier]
  constructor
  · rintro ⟨hderivable, htaken⟩
    exact ⟨hderivable, htaken.imp_right fun hother => ⟨hderivable, hother⟩⟩
  · rintro ⟨hderivable, htaken⟩
    exact ⟨hderivable, htaken.imp_right fun hother => hother.2⟩

/-- When its turn comes, a format is refused its symbol exactly if it collides. -/
theorem addDerivedSymbol_eq_error_iff (hsplit : s.unsymbolised = before ++ name :: after)
    (h : Derives before s u) :
    (∃ e v, (addDerivedSymbol false name).run u = .error e v) ↔
      s.formats.Collides s.symbols name := by
  rw [collides_iff hsplit h, run_addDerivedSymbol]
  by_cases hderivable : deriveSymbol name = ""
  · simp [hderivable]
  · cases u.symbols.contains (deriveSymbol name) <;> simp [hderivable]

theorem not_collides_of_forM {names more : List String} (hsplit : s.unsymbolised = names ++ more)
    (h : EStateM.run (names.forM (addDerivedSymbol false)) s = .ok ⟨⟩ t) (hname : name ∈ names) :
    ¬s.formats.Collides s.symbols name := by
  obtain ⟨before, after, rfl⟩ := List.append_of_mem hname
  rw [List.forM_eq_forM, List.forM_append, run_bind_eq_ok_iff] at h
  obtain ⟨_, u, hbefore, h⟩ := h
  rw [List.forM_cons, run_bind_eq_ok_iff] at h
  obtain ⟨_, v, hpassed, -⟩ := h
  rw [List.append_assoc, List.cons_append] at hsplit
  rw [← addDerivedSymbol_eq_error_iff hsplit (derives_forM hbefore), hpassed]
  rintro ⟨e, v, ⟨⟩⟩

theorem generateSymbols_lenient (s : FormatSet) : ∃ t, (generateSymbols true).run s = .ok () t := by
  cases h : (generateSymbols true).run s with
  | ok _ t => exact ⟨t, rfl⟩
  | error e t =>
    obtain ⟨before, name, after, u, -, -, hname⟩ := run_forM_eq_error h
    cases (addDerivedSymbol_eq_error hname).1

theorem generateSymbols_strict_eq_ok (h : (generateSymbols false).run s = .ok () t)
    (hname : s.formats.LacksSymbol s.symbols name) : ¬s.formats.Collides s.symbols name :=
  not_collides_of_forM (List.append_nil _).symm h (mem_unsymbolised.mpr hname)

/-- The failure is about the smallest format that collides. -/
theorem generateSymbols_strict_eq_error {e : FormatError}
    (h : (generateSymbols false).run s = .error e t) :
    ∃ name, s.formats.LacksSymbol s.symbols name ∧ s.formats.Collides s.symbols name ∧
      (∀ other < name, s.formats.LacksSymbol s.symbols other →
        ¬s.formats.Collides s.symbols other) ∧
      e = .duplicateSymbol (deriveSymbol name) name := by
  obtain ⟨before, name, after, u, hsplit, hbefore, hname⟩ := run_forM_eq_error h
  have hcollides := (addDerivedSymbol_eq_error_iff hsplit (derives_forM hbefore)).mp ⟨e, t, hname⟩
  obtain ⟨-, -, rfl⟩ := addDerivedSymbol_eq_error hname
  refine ⟨name, mem_unsymbolised.mp (by simp [hsplit]), hcollides, ?_, rfl⟩
  intro other hlt hother
  have hmem := (mem_before_iff hsplit).mpr ⟨mem_unsymbolised.mpr hother, hlt⟩
  exact not_collides_of_forM hsplit hbefore hmem

/-! ### The result -/

/-- What a set becomes by deriving is determined. -/
theorem Derives.unique {names : List String} (ht : Derives names s t) (hu : Derives names s u) :
    t = u := by
  have hsymbols : t.symbols = u.symbols := by
    ext1 symbol
    rw [ht.symbols, hu.symbols]
  exact FormatSet.ext (ht.formats.trans hu.formats.symm) hsymbols (ht.default.trans hu.default.symm)

/-- The entries are those that were there and one for each format that lacked a symbol, has one to
derive and does not collide. -/
theorem Derives.get?_eq_some_iff (h : Derives s.unsymbolised s t) :
    t.symbols.get? symbol = some name ↔
      s.symbols.get? symbol = some name ∨
        (s.formats.LacksSymbol s.symbols name ∧ deriveSymbol name = symbol ∧ symbol ≠ "" ∧
          ¬s.formats.Collides s.symbols name) := by
  rw [h.symbols, Option.or_eq_some_iff, firstDeriving_unsymbolised_iff]
  refine or_congr_right ?_
  constructor
  · rintro ⟨hfree, hne, hlacks, rfl, hfirst⟩
    refine ⟨hlacks, rfl, hne, ?_⟩
    rintro ⟨-, htaken | ⟨other, hlt, hother, heq⟩⟩
    · exact Option.not_isSome_iff_eq_none.mpr hfree htaken
    · exact hfirst other hlt hother heq
  · rintro ⟨hlacks, rfl, hne, hcollides⟩
    refine ⟨?_, hne, hlacks, rfl, fun other hlt hother heq => ?_⟩
    · exact Option.not_isSome_iff_eq_none.mp fun htaken => hcollides ⟨hne, .inl htaken⟩
    · exact hcollides ⟨hne, .inr ⟨other, hlt, hother, heq⟩⟩

theorem Derives.lacksSymbol {names : List String} (h : Derives names s t)
    (hname : t.formats.LacksSymbol t.symbols name) : s.formats.LacksSymbol s.symbols name := by
  refine ⟨h.formats ▸ hname.1, fun symbol hsymbol => hname.2 symbol ?_⟩
  rw [h.symbols, hsymbol, Option.some_or]

/-- Deriving again finds nothing to give: a symbol that could be derived is taken. -/
theorem Derives.again (h : Derives s.unsymbolised s t) : Derives t.unsymbolised t t := by
  refine ⟨rfl, rfl, fun symbol => ?_⟩
  cases hfree : t.symbols.get? symbol with
  | some _ => rfl
  | none =>
    rw [h.symbols, Option.or_eq_none_iff] at hfree
    rw [Option.none_or, eq_comm, Option.eq_none_iff_forall_ne_some]
    intro name hname
    obtain ⟨hne, hlacks, hderive, -⟩ := firstDeriving_unsymbolised_iff.mp hname
    have hsome : (firstDeriving s.unsymbolised symbol).isSome = true := isSome_firstDeriving_iff.mpr
      ⟨hne, name, mem_unsymbolised.mpr (h.lacksSymbol hlacks), hderive⟩
    rw [hfree.2] at hsome
    cases hsome

/-- Deriving symbols with leniency always succeeds. It keeps every entry, and of the formats without
a symbol exactly those get theirs that have one to derive and do not collide; doing it again changes
nothing. Without leniency it comes to the same set if no format collides, and otherwise fails for
the smallest one that does. -/
theorem generateSymbols_first_come (s : FormatSet) :
    ∃ t, (generateSymbols true).run s = .ok () t ∧
      (t.formats = s.formats ∧ t.defaultName = s.defaultName) ∧
      (∀ symbol name, t.symbols.get? symbol = some name ↔
        s.symbols.get? symbol = some name ∨
          (s.formats.LacksSymbol s.symbols name ∧ deriveSymbol name = symbol ∧ symbol ≠ "" ∧
            ¬s.formats.Collides s.symbols name)) ∧
      (generateSymbols true).run t = .ok () t ∧
      (∀ u, (generateSymbols false).run s = .ok () u ↔
        (∀ name, s.formats.LacksSymbol s.symbols name → ¬s.formats.Collides s.symbols name) ∧
          u = t) ∧
      ((∃ name, s.formats.LacksSymbol s.symbols name ∧ s.formats.Collides s.symbols name) →
        ∃ name u, (s.formats.LacksSymbol s.symbols name ∧ s.formats.Collides s.symbols name ∧
            ∀ other < name, s.formats.LacksSymbol s.symbols other →
              ¬s.formats.Collides s.symbols other) ∧
          (generateSymbols false).run s =
            .error (.duplicateSymbol (deriveSymbol name) name) u) := by
  obtain ⟨t, ht⟩ := generateSymbols_lenient s
  have hderives := derives_generateSymbols ht
  refine ⟨t, ht, ⟨hderives.formats, hderives.default⟩, ?_, ?_, ?_, ?_⟩
  · intro symbol name
    exact hderives.get?_eq_some_iff
  · obtain ⟨u, hu⟩ := generateSymbols_lenient t
    rw [hu, (derives_generateSymbols hu).unique hderives.again]
  · intro u
    constructor
    · intro h
      have hu : u = t := (derives_generateSymbols h).unique hderives
      exact ⟨fun name => generateSymbols_strict_eq_ok h, hu⟩
    · rintro ⟨hnone, rfl⟩
      cases h : (generateSymbols false).run s with
      | ok _ v => rw [(derives_generateSymbols h).unique hderives]
      | error e v =>
        obtain ⟨name, hlacks, hcollides, -, -⟩ := generateSymbols_strict_eq_error h
        exact absurd hcollides (hnone name hlacks)
  · rintro ⟨name, hlacks, hcollides⟩
    cases h : (generateSymbols false).run s with
    | ok _ u => exact absurd hcollides (generateSymbols_strict_eq_ok h hlacks)
    | error e u =>
      obtain ⟨smallest, hlacks, hcollides, hbefore, rfl⟩ := generateSymbols_strict_eq_error h
      exact ⟨smallest, u, ⟨hlacks, hcollides, hbefore⟩, rfl⟩

end FormatSet

end SlotPattern
