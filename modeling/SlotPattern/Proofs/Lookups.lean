import SlotPattern.Proofs.DerivedSymbols
import SlotPattern.Proofs.Reachable

/-!
# What lookups find

A key is looked for as `default`, among the symbols and among the names, in this order. So symbols
hide names, and `default` hides a symbol of that spelling. A format that is stored is found by the
keys that lead to its name. A set that gets further symbols, from derivation or from a set that it
is merged into, has to be asked which of its names they hide.
-/

namespace SlotPattern.FormatSet

variable {s t : FormatSet} {key name : String} {p : Pattern} {added : String → Option String}

/-! ### The three kinds of keys -/

theorem lookupDefault_eq_ok_iff :
    s.lookupDefault = .ok p ↔ s.defaultName.bind s.formats.get? = some p := by
  rw [lookupDefault]
  cases s.defaultName.bind s.formats.get? <;> simp

theorem lookup_eq_ok_iff (hkey : key ≠ defaultFormat) :
    s.lookup key = .ok p ↔ (s.resolveName? key).bind s.formats.get? = some p := by
  rw [lookup, if_neg hkey]
  cases (s.resolveName? key).bind s.formats.get? <;> simp

theorem lookup_default_iff :
    s.lookup defaultFormat = .ok p ↔ s.defaultName.bind s.formats.get? = some p := by
  rw [lookup, if_pos rfl, lookupDefault_eq_ok_iff]

theorem resolveName?_symbol (h : s.symbols.get? key = some name) :
    s.resolveName? key = some name := by
  rw [resolveName?, h, Option.some_or]

theorem resolveName?_eq_none_iff :
    s.resolveName? key = none ↔ ¬s.symbols.contains key = true ∧ ¬s.formats.contains key = true := by
  refine Option.or_eq_none_iff.trans (and_congr Option.not_isSome_iff_eq_none.symm ?_)
  simp

theorem lookup_symbol_iff (hkey : key ≠ defaultFormat) (h : s.symbols.get? key = some name) :
    s.lookup key = .ok p ↔ s.formats.get? name = some p := by
  rw [lookup_eq_ok_iff hkey, resolveName?_symbol h, Option.bind_some]

theorem lookup_format_iff (hkey : key ≠ defaultFormat) (h : s.symbols.get? key = none) :
    s.lookup key = .ok p ↔ s.formats.get? key = some p := by
  rw [lookup_eq_ok_iff hkey, resolveName?, h, Option.none_or, Table.contains]
  cases hp : s.formats.get? key <;> simp [hp]

/-! ### Symbols -/

/-- In a reachable set a symbol leads to the stored format that it abbreviates, and a lookup finds
that format. Only the symbol `default` does not work, unless the default format has the pattern
anyway. -/
theorem lookup_registered_symbol (hs : s.Reachable) {symbol : String}
    (h : s.symbols.get? symbol = some name) :
    s.resolveName? symbol = some name ∧ ∃ p, s.formats.get? name = some p ∧
      (s.lookup symbol = .ok p ↔ symbol ≠ defaultFormat ∨ s.lookupDefault = .ok p) := by
  obtain ⟨p, hp⟩ := Option.isSome_iff_exists.mp (hs.consistent.symbols symbol name h)
  refine ⟨resolveName?_symbol h, p, hp, ?_⟩
  by_cases hdefault : symbol = defaultFormat
  · rw [hdefault, lookup_default_iff, lookupDefault_eq_ok_iff]
    simp
  · exact iff_of_true ((lookup_symbol_iff hdefault h).mpr hp) (.inl hdefault)

/-- A derived symbol leads to the format that it is derived from, although a default is set. -/
theorem lookup_registered_symbol_derived : ∃ (s : FormatSet) (p : Pattern), s.Reachable ∧
    s.symbols.get? "fl" = some "first_last" ∧ s.defaultName = some "other" ∧
      s.formats.get? "first_last" = some p ∧ s.lookup "fl" = .ok p := by
  let s := (Call.setDefault "o").edit.after ((Call.generateSymbols false).edit.after
    ((Call.insert "other" "\x7bb\x7d").edit.after
      ((Call.insert "first_last" "\x7ba\x7d").edit.after .empty)))
  have hs : s.Reachable := (((Reachable.empty.call _).call _).call _).call _
  have hsymbol : s.symbols.get? "fl" = some "first_last" := by decide +kernel
  obtain ⟨-, p, hp, hlookup⟩ := lookup_registered_symbol hs hsymbol
  exact ⟨s, p, hs, hsymbol, by decide +kernel, hp, hlookup.mpr (.inl (by decide))⟩

/-- The symbol `default` is registered for a format, but no default is set. -/
theorem not_lookup_registered_symbol :
    ¬∀ s : FormatSet, s.Reachable → ∀ symbol name, s.symbols.get? symbol = some name →
      ∃ p, s.formats.get? name = some p ∧ s.lookup symbol = .ok p := by
  intro hall
  let s := (Call.addSymbol "default" "a").edit.after
    ((Call.insert "a" "\x7bx\x7d").edit.after .empty)
  have hs : s.Reachable := (Reachable.empty.call _).call _
  have hsymbol : s.symbols.get? defaultFormat = some "a" := by decide +kernel
  have hdefault : s.defaultName = none := by decide +kernel
  obtain ⟨p, -, hp⟩ := hall s hs defaultFormat "a" hsymbol
  rw [lookup_default_iff, hdefault] at hp
  cases hp

/-! ### Further symbols -/

/-- `t` has what `s` has, and perhaps more. Symbols of `s` stay, and behind them stand those that
are `added`. -/
structure Extends (added : String → Option String) (s t : FormatSet) : Prop where
  formats : ∀ name p, s.formats.get? name = some p → t.formats.get? name = some p
  default : ∀ name, s.defaultName = some name → t.defaultName = some name
  symbols : ∀ symbol, t.symbols.get? symbol = (s.symbols.get? symbol).or (added symbol)

/-- What a key finds it still finds in a larger set, unless it is a name that is hidden by an added
symbol for another pattern. -/
theorem Extends.lookup_iff (h : Extends added s t) (hp : s.lookup key = .ok p) :
    t.lookup key = .ok p ↔ key = defaultFormat ∨ s.symbols.contains key = true ∨
      ∀ name ∈ added key, t.formats.get? name = some p := by
  by_cases hkey : key = defaultFormat
  · subst hkey
    obtain ⟨name, hname, hformat⟩ := Option.bind_eq_some_iff.mp (lookup_default_iff.mp hp)
    refine iff_of_true (lookup_default_iff.mpr ?_) (.inl rfl)
    rw [h.default name hname, Option.bind_some, h.formats name p hformat]
  rw [or_iff_right hkey, Table.contains]
  cases hsymbol : s.symbols.get? key with
  | some name =>
    have ht : t.symbols.get? key = some name := by rw [h.symbols, hsymbol, Option.some_or]
    have hformat := (lookup_symbol_iff hkey hsymbol).mp hp
    exact iff_of_true ((lookup_symbol_iff hkey ht).mpr (h.formats name p hformat)) (.inl rfl)
  | none =>
    have hformat := (lookup_format_iff hkey hsymbol).mp hp
    have hadded : t.symbols.get? key = added key := by rw [h.symbols, hsymbol, Option.none_or]
    cases hname : added key with
    | none =>
      rw [hname] at hadded
      simp [lookup_format_iff hkey hadded, h.formats key p hformat]
    | some name =>
      rw [hname] at hadded
      simp [lookup_symbol_iff hkey hadded]

/-- A key that finds something in a set finds something wherever the set is kept. -/
theorem KeptIn.exists_lookup (h : s.KeptIn t) (ht : t.Consistent) (hp : s.lookup key = .ok p) :
    ∃ q, t.lookup key = .ok q := by
  by_cases hkey : key = defaultFormat
  · subst hkey
    obtain ⟨name, hname, -⟩ := Option.bind_eq_some_iff.mp (lookup_default_iff.mp hp)
    obtain ⟨q, hq⟩ := ht.exists_lookupDefault (h.default (by simp [hname]))
    exact ⟨q, lookup_default_iff.mpr (lookupDefault_eq_ok_iff.mp hq)⟩
  cases hlookup : t.lookup key with
  | ok q => exact ⟨q, rfl⟩
  | error e =>
    -- The key would have to lead nowhere, although it leads somewhere in `s`.
    obtain ⟨hsymbol, hformat⟩ :=
      resolveName?_eq_none_iff.mp ((ht.lookup_eq_error_iff hkey).mp ⟨e, hlookup⟩)
    have hnone : s.resolveName? key = none :=
      resolveName?_eq_none_iff.mpr ⟨mt (h.symbols key) hsymbol, mt (h.formats key) hformat⟩
    rw [lookup_eq_ok_iff hkey, hnone] at hp
    cases hp

/-! ### Inserting -/

section Stored

variable (hformats : t.formats = s.formats.insert name p)
include hformats

theorem bind_get?_stored (leads : Option String) : leads.bind t.formats.get? =
    if leads = some name then some p else leads.bind s.formats.get? := by
  cases leads <;> simp [hformats, Table.get?_insert]

/-- A key that does not lead to the stored format leads where it has led before. -/
theorem resolveName?_stored (hsymbols : t.symbols = s.symbols)
    (hleads : t.resolveName? key ≠ some name) : t.resolveName? key = s.resolveName? key := by
  simp only [resolveName?, hsymbols] at hleads ⊢
  cases hsymbol : s.symbols.get? key with
  | some other => rfl
  | none =>
    have hne : key ≠ name := by
      rintro rfl
      simp [hsymbol, hformats] at hleads
    have hstored : t.formats.contains key = s.formats.contains key := by
      rw [hformats, Table.contains, Table.get?_insert, if_neg hne, Table.contains]
    rw [hstored]

end Stored

/-- When a format has been stored, the lookups that lead to its name find it, by name, by symbol or
as the default. Every other lookup finds what it has found before, or fails as before. -/
theorem lookup_insert {text : String} (hrun : (insert name text).run s = .ok () t) :
    t.symbols = s.symbols ∧ t.defaultName = s.defaultName ∧
      ∃ p, Pattern.compile text = .ok p ∧ ∀ key, t.lookup key =
        if key = defaultFormat ∧ t.defaultName = some name ∨
            key ≠ defaultFormat ∧ t.resolveName? key = some name then .ok p
        else s.lookup key := by
  obtain ⟨-, p, hp, ht⟩ := insert_eq_ok_iff.mp hrun
  have hformats : t.formats = s.formats.insert name p := by rw [ht]
  have hsymbols : t.symbols = s.symbols := by rw [ht]
  have hdefault : t.defaultName = s.defaultName := by rw [ht]
  refine ⟨hsymbols, hdefault, p, hp, ?_⟩
  intro key
  by_cases hkey : key = defaultFormat
  · simp only [hkey, lookup, lookupDefault, if_true, bind_get?_stored hformats, hdefault]
    by_cases hleads : s.defaultName = some name <;> simp [hleads]
  · simp only [hkey, lookup, if_false, bind_get?_stored hformats]
    by_cases hleads : t.resolveName? key = some name
    · simp [hkey, hleads]
    · have hsame := resolveName?_stored hformats hsymbols hleads
      rw [hsame] at hleads ⊢
      simp [hkey, hleads]

/-- A symbol and the default lead to the format that is replaced. The symbol hides a format of its
own name, so it is the new pattern that is found by it. -/
theorem lookup_insert_behind_symbol : ∃ (s t : FormatSet) (p : Pattern), s.Reachable ∧
    s.names = [("first_last", some "fl"), ("fl", none)] ∧ s.defaultName = some "first_last" ∧
      (insert "first_last" "\x7bb\x7d").run s = .ok () t ∧
      Pattern.compile "\x7bb\x7d" = .ok p ∧ t.lookup "fl" = .ok p ∧
      t.lookup defaultFormat = .ok p ∧ t.lookup "missing" = s.lookup "missing" := by
  let s := (Call.setDefault "fl").edit.after ((Call.addSymbol "fl" "first_last").edit.after
    ((Call.insert "fl" "\x7bc\x7d").edit.after
      ((Call.insert "first_last" "\x7ba\x7d").edit.after .empty)))
  let t := (insert "first_last" "\x7bb\x7d").after s
  have hs : s.Reachable := (((Reachable.empty.call _).call _).call _).call _
  have hrun : (insert "first_last" "\x7bb\x7d").run s = .ok () t :=
    Edit.run_eq_ok_after (by decide +kernel)
  obtain ⟨-, -, p, hp, hlookup⟩ := lookup_insert hrun
  have hsymbol : t.resolveName? "fl" = some "first_last" := by decide +kernel
  have hdefault : t.defaultName = some "first_last" := by decide +kernel
  have hmissing : t.resolveName? "missing" = none := by decide +kernel
  refine ⟨s, t, p, hs, by decide +kernel, by decide +kernel, hrun, hp, ?_, ?_, ?_⟩
  · rw [hlookup, if_pos (.inr ⟨by decide, hsymbol⟩)]
  · rw [hlookup, if_pos (.inl ⟨rfl, hdefault⟩)]
  · rw [hlookup, if_neg (by simp [hmissing, defaultFormat])]

/-! ### Deriving symbols -/

theorem Derives.extends {names : List String} (h : Derives names s t) :
    Extends (firstDeriving names) s t := by
  refine ⟨fun name p hp => ?_, fun name hname => ?_, h.symbols⟩
  · rw [h.formats, hp]
  · rw [h.default, hname]

/-- What a key finds it still finds when symbols have been derived. It finds something else only if
it is a name, and the symbol derived for the first of the formats that it is derived from. -/
theorem lookup_generateSymbols (hs : s.Reachable) {lenient : Bool}
    (hrun : (generateSymbols lenient).run s = .ok () t) (hp : s.lookup key = .ok p) :
    (∃ q, t.lookup key = .ok q) ∧
      (t.lookup key = .ok p ↔ key = defaultFormat ∨ s.symbols.contains key = true ∨
        ∀ name ∈ firstDeriving s.unsymbolised key, s.formats.get? name = some p) := by
  have hderives := derives_generateSymbols hrun
  have hchanges := changes_generateSymbols lenient s
  rw [Edit.after_eq_of_ok hrun] at hchanges
  refine ⟨hchanges.keptIn.exists_lookup (hs.consistent.changes hchanges) hp, ?_⟩
  rw [hderives.extends.lookup_iff hp, hderives.formats]

/-- The symbol derived for the first format is the name of the second, which has the same
pattern. -/
theorem lookup_generateSymbols_equal_patterns : ∃ (s t : FormatSet) (p : Pattern),
    s.Reachable ∧ s.names = [("first_last", none), ("fl", none)] ∧
      (generateSymbols false).run s = .ok () t ∧ s.lookup "fl" = .ok p ∧
      t.symbols.get? "fl" = some "first_last" ∧ t.lookup "fl" = .ok p := by
  let s := (Call.insert "fl" "\x7ba\x7d").edit.after
    ((Call.insert "first_last" "\x7ba\x7d").edit.after .empty)
  let p : Pattern := ⟨[.slot ⟨[⟨[.name "a"], .unconstrained⟩]⟩]⟩
  have hs : s.Reachable := (Reachable.empty.call _).call _
  have hrun : (generateSymbols false).run s = .ok () ((generateSymbols false).after s) :=
    Edit.run_eq_ok_after (by decide +kernel)
  have hp : s.lookup "fl" = .ok p :=
    (lookup_format_iff (by decide) (by decide +kernel)).mpr (by decide +kernel)
  have hfirst : ∀ name ∈ firstDeriving s.unsymbolised "fl", s.formats.get? name = some p := by
    decide +kernel
  exact ⟨s, _, p, hs, by decide +kernel, hrun, hp, by decide +kernel,
    (lookup_generateSymbols hs hrun hp).2.mpr (.inr (.inr hfirst))⟩

/-- The symbol derived for the first format is the name of the second, which cannot be found by it
any more. -/
theorem not_lookup_generateSymbols :
    ¬∀ s : FormatSet, s.Reachable → ∀ (lenient : Bool) (t : FormatSet) (key : String) (p : Pattern),
      (generateSymbols lenient).run s = .ok () t → s.lookup key = .ok p → t.lookup key = .ok p := by
  intro hall
  let s := (Call.insert "fl" "\x7bb\x7d").edit.after
    ((Call.insert "first_last" "\x7ba\x7d").edit.after .empty)
  have hs : s.Reachable := (Reachable.empty.call _).call _
  have hrun : (generateSymbols false).run s = .ok () ((generateSymbols false).after s) :=
    Edit.run_eq_ok_after (by decide +kernel)
  have hkey : "fl" ≠ defaultFormat := by decide
  have hbefore : s.lookup "fl" = .ok ⟨[.slot ⟨[⟨[.name "b"], .unconstrained⟩]⟩]⟩ :=
    (lookup_format_iff hkey (by decide +kernel)).mpr (by decide +kernel)
  have hsymbol : ((generateSymbols false).after s).symbols.get? "fl" = some "first_last" := by
    decide +kernel
  have hafter := hall s hs false _ "fl" _ hrun hbefore
  rw [lookup_symbol_iff hkey hsymbol] at hafter
  exact absurd hafter (by decide +kernel)

/-! ### Merging -/

theorem extends_merge (s other : FormatSet) : Extends s.symbols.get? other (s.merge other) := by
  refine ⟨fun name p hp => ?_, fun name hname => ?_, fun symbol => Table.get?_merge ..⟩
  · rw [merge, Table.get?_merge, hp, Option.some_or]
  · rw [merge, hname, Option.some_or]

/-- What a key finds in a set that is merged into another it finds in both together. It finds
something else only if it is a name, and a symbol of the other set for another pattern. -/
theorem lookup_merge {other : FormatSet} (hs : s.Reachable) (hother : other.Reachable)
    (hp : other.lookup key = .ok p) :
    (∃ q, (s.merge other).lookup key = .ok q) ∧
      ((s.merge other).lookup key = .ok p ↔
        key = defaultFormat ∨ other.symbols.contains key = true ∨
          ∀ name ∈ s.symbols.get? key, (s.merge other).formats.get? name = some p) :=
  ⟨(keptIn_merge_right s other).exists_lookup (hs.merge hother).consistent hp,
    (extends_merge s other).lookup_iff hp⟩

/-- A name of the second set is a symbol of the first one, but the format for which it stands comes
from the second set too and has the same pattern. -/
theorem lookup_merge_overridden_target : ∃ (s other : FormatSet) (p : Pattern),
    s.Reachable ∧ other.Reachable ∧ s.symbols.get? "fl" = some "first_last" ∧
      other.symbols.get? "fl" = none ∧ other.lookup "fl" = .ok p ∧
      s.formats.get? "first_last" ≠ some p ∧ (s.merge other).lookup "fl" = .ok p := by
  let s := (Call.addSymbol "fl" "first_last").edit.after
    ((Call.insert "first_last" "\x7ba\x7d").edit.after .empty)
  let other := (Call.insert "fl" "\x7bb\x7d").edit.after
    ((Call.insert "first_last" "\x7bb\x7d").edit.after .empty)
  let p : Pattern := ⟨[.slot ⟨[⟨[.name "b"], .unconstrained⟩]⟩]⟩
  have hs : s.Reachable := (Reachable.empty.call _).call _
  have hother : other.Reachable := (Reachable.empty.call _).call _
  have hp : other.lookup "fl" = .ok p :=
    (lookup_format_iff (by decide) (by decide +kernel)).mpr (by decide +kernel)
  have htarget : ∀ name ∈ s.symbols.get? "fl", (s.merge other).formats.get? name = some p := by
    decide +kernel
  exact ⟨s, other, p, hs, hother, by decide +kernel, by decide +kernel, hp, by decide +kernel,
    (lookup_merge hs hother hp).2.mpr (.inr (.inr htarget))⟩

/-- A name of the second set is a symbol of the first one, and symbols come first. -/
theorem not_lookup_merge :
    ¬∀ s other : FormatSet, s.Reachable → other.Reachable → ∀ (key : String) (p : Pattern),
      other.lookup key = .ok p → (s.merge other).lookup key = .ok p := by
  intro hall
  let s := (Call.addSymbol "fl" "first_last").edit.after
    ((Call.insert "first_last" "\x7ba\x7d").edit.after .empty)
  let other := (Call.insert "fl" "\x7bb\x7d").edit.after .empty
  have hs : s.Reachable := (Reachable.empty.call _).call _
  have hother : other.Reachable := Reachable.empty.call _
  have hkey : "fl" ≠ defaultFormat := by decide
  have hbefore : other.lookup "fl" = .ok ⟨[.slot ⟨[⟨[.name "b"], .unconstrained⟩]⟩]⟩ :=
    (lookup_format_iff hkey (by decide +kernel)).mpr (by decide +kernel)
  have hsymbol : (s.merge other).symbols.get? "fl" = some "first_last" := by decide +kernel
  have hafter := hall s other hs hother "fl" _ hbefore
  rw [lookup_symbol_iff hkey hsymbol] at hafter
  exact absurd hafter (by decide +kernel)

end SlotPattern.FormatSet
