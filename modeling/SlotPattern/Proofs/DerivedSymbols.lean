import SlotPattern.Proofs.Changes

/-!
# Derived symbols

Deriving symbols goes through the formats that have none, in the order of their names. When it
succeeds, nothing but new symbols has come to the set: a symbol that was there stays, and of the
names from which one symbol is derived the first gets it.
-/

namespace SlotPattern.FormatSet

variable {s t u : FormatSet} {name : String} {names : List String} {lenient : Bool}

/-! ### Which name gets a symbol -/

/-- The first of some names from which a symbol is derived. The empty symbol is never given. -/
def firstDeriving (names : List String) (symbol : String) : Option String :=
  if symbol = "" then none else names.find? (deriveSymbol · = symbol)

@[simp] theorem firstDeriving_nil (symbol : String) : firstDeriving [] symbol = none := by
  simp [firstDeriving]

theorem firstDeriving_append (names more : List String) (symbol : String) :
    firstDeriving (names ++ more) symbol =
      (firstDeriving names symbol).or (firstDeriving more symbol) := by
  by_cases hempty : symbol = ""
  · simp [firstDeriving, hempty]
  · simp [firstDeriving, hempty, List.find?_append]

theorem firstDeriving_singleton (name symbol : String) :
    firstDeriving [name] symbol =
      if deriveSymbol name = symbol ∧ symbol ≠ "" then some name else none := by
  by_cases hempty : symbol = "" <;> by_cases hname : deriveSymbol name = symbol <;>
    simp [firstDeriving, hempty, hname]

/-! ### Sets with symbols derived for some names -/

/-- `t` is `s` with the symbols derived for some names, one after the other, where they are free. -/
structure Derives (names : List String) (s t : FormatSet) : Prop where
  formats : t.formats = s.formats
  default : t.defaultName = s.defaultName
  symbols : ∀ symbol,
    t.symbols.get? symbol = (s.symbols.get? symbol).or (firstDeriving names symbol)

theorem Derives.refl (s : FormatSet) : Derives [] s s :=
  ⟨rfl, rfl, fun symbol => by simp⟩

theorem Derives.trans {more : List String} (h : Derives names s t) (hmore : Derives more t u) :
    Derives (names ++ more) s u := by
  refine ⟨hmore.formats.trans h.formats, hmore.default.trans h.default, fun symbol => ?_⟩
  rw [hmore.symbols, h.symbols, firstDeriving_append, Option.or_assoc]

theorem derives_addDerivedSymbol (h : (addDerivedSymbol lenient name).run s = .ok () t) :
    Derives [name] s t := by
  rw [run_addDerivedSymbol] at h
  split at h
  next hempty =>
    cases h
    refine ⟨rfl, rfl, fun symbol => ?_⟩
    rw [firstDeriving_singleton, hempty, if_neg fun h => h.2 h.1.symm, Option.or_none]
  next hempty =>
    split at h
    next htaken =>
      -- The symbol is taken, so nothing has been given.
      cases lenient with
      | false => cases h
      | true =>
        cases h
        refine ⟨rfl, rfl, fun symbol => ?_⟩
        rw [firstDeriving_singleton]
        split
        next heq => rw [← heq.1, Option.or_of_isSome htaken]
        next => rw [Option.or_none]
    next hfree =>
      cases h
      refine ⟨rfl, rfl, fun symbol => ?_⟩
      rw [Table.get?_insert, firstDeriving_singleton]
      by_cases heq : symbol = deriveSymbol name
      · have hnone : s.symbols.get? symbol = none := by
          rw [heq]
          exact Option.not_isSome_iff_eq_none.mp hfree
        rw [if_pos heq, hnone, if_pos ⟨heq.symm, heq ▸ hempty⟩, Option.none_or]
      · rw [if_neg heq, if_neg fun h => heq h.1.symm, Option.or_none]

theorem derives_forM (h : EStateM.run (names.forM (addDerivedSymbol lenient)) s = .ok ⟨⟩ t) :
    Derives names s t := by
  induction names generalizing s with
  | nil =>
    cases h
    exact .refl _
  | cons name names ih =>
    rw [List.forM_eq_forM, List.forM_cons, run_bind_eq_ok_iff] at h
    obtain ⟨_, u, hfirst, hrest⟩ := h
    exact (derives_addDerivedSymbol hfirst).trans (ih hrest)

/-- Deriving symbols gives each free symbol to the first format without one that it is derived
from, and does nothing else. -/
theorem derives_generateSymbols (h : (generateSymbols lenient).run s = .ok () t) :
    Derives s.unsymbolised s t :=
  derives_forM h

end SlotPattern.FormatSet
