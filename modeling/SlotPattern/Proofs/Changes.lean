import Mathlib.Logic.Relation
import SlotPattern.FormatSet.Ron

/-!
# What the edits of a format set change

All that an edit does to a format set, whether it succeeds or fails, is to make changes of three
kinds: it stores a format, gives a format a symbol, or sets the default. No change takes anything
away.
-/

namespace SlotPattern.FormatSet

/-! ### Changes -/

/-- One change of a format set. A format may replace another of its name, but a symbol stays with
its format. -/
inductive Change (s : FormatSet) : FormatSet → Prop
  | format {name : String} (p : Pattern) (hname : name ≠ defaultFormat) :
      Change s { s with formats := s.formats.insert name p }
  | symbol {symbol name : String} (hname : s.formats.contains name = true)
      (hfree : ∀ other ∈ s.symbols.get? symbol, other = name) :
      Change s { s with symbols := s.symbols.insert symbol name }
  | default {key name : String} (h : s.resolveName? key = some name) :
      Change s { s with defaultName := some name }

/-- What any number of changes makes of a format set. -/
abbrev Changes : FormatSet → FormatSet → Prop := Relation.ReflTransGen Change

/-- The names and symbols of `s` are in `t` too, and if `s` has a default, so has `t`. -/
structure KeptIn (s t : FormatSet) : Prop where
  formats : ∀ name, s.formats.contains name = true → t.formats.contains name = true
  symbols : ∀ symbol, s.symbols.contains symbol = true → t.symbols.contains symbol = true
  default : s.defaultName ≠ none → t.defaultName ≠ none

theorem KeptIn.refl (s : FormatSet) : s.KeptIn s :=
  ⟨fun _ h => h, fun _ h => h, fun h => h⟩

theorem KeptIn.trans {s t u : FormatSet} (hst : s.KeptIn t) (htu : t.KeptIn u) : s.KeptIn u := by
  constructor
  · intro name h
    exact htu.formats name (hst.formats name h)
  · intro symbol h
    exact htu.symbols symbol (hst.symbols symbol h)
  · intro h
    exact htu.default (hst.default h)

theorem Change.keptIn {s t : FormatSet} (h : Change s t) : s.KeptIn t := by
  cases h with
  | format =>
    exact { KeptIn.refl s with
      formats := fun _ hname => (Table.contains_insert ..).mpr (.inr hname) }
  | symbol =>
    exact { KeptIn.refl s with
      symbols := fun _ hsymbol => (Table.contains_insert ..).mpr (.inr hsymbol) }
  | default => exact { KeptIn.refl s with default := fun _ => by simp }

theorem Changes.keptIn {s t : FormatSet} (h : Changes s t) : s.KeptIn t := by
  induction h with
  | refl => exact .refl s
  | tail _ hchange ih => exact ih.trans hchange.keptIn

/-- A symbol that a set has stays with its format. -/
theorem Changes.get?_symbols {s t : FormatSet} (h : Changes s t) {symbol name : String}
    (hname : s.symbols.get? symbol = some name) : t.symbols.get? symbol = some name := by
  induction h with
  | refl => exact hname
  | tail _ hchange ih =>
    cases hchange with
    | format => exact ih
    | symbol _ hfree =>
      rw [Table.get?_insert]
      split
      next heq => rw [hfree name (heq ▸ ih)]
      next => exact ih
    | default => exact ih

theorem keptIn_merge_left (s other : FormatSet) : s.KeptIn (s.merge other) := by
  constructor
  · intro name h
    exact (Table.contains_merge ..).mpr (.inl h)
  · intro symbol h
    exact (Table.contains_merge ..).mpr (.inl h)
  · intro h
    simp [merge, h]

theorem keptIn_merge_right (s other : FormatSet) : other.KeptIn (s.merge other) := by
  constructor
  · intro name h
    exact (Table.contains_merge ..).mpr (.inr h)
  · intro symbol h
    exact (Table.contains_merge ..).mpr (.inr h)
  · intro h
    simp [merge, h]

/-! ### What edits leave behind -/

/-- The set that an edit leaves behind, whether it succeeds or fails. -/
def Edit.after {α : Type} (m : Edit α) (s : FormatSet) : FormatSet :=
  match m.run s with
  | .ok _ t => t
  | .error _ t => t

section Edits

variable {α β : Type} {s t : FormatSet}

theorem Edit.after_eq_of_ok {m : Edit α} {a : α} (h : m.run s = .ok a t) : m.after s = t := by
  rw [after, h]

theorem Edit.after_eq_of_error {m : Edit α} {e : FormatError} (h : m.run s = .error e t) :
    m.after s = t := by
  rw [after, h]

theorem Edit.run_eq_ok_after {m : Edit Unit}
    (h : (match m.run s with
      | .ok _ _ => true
      | .error _ _ => false) = true) : m.run s = .ok () (m.after s) := by
  cases hrun : m.run s with
  | ok _ t => rw [Edit.after_eq_of_ok hrun]
  | error e t => simp [hrun] at h

theorem run_bind_eq_ok_iff {m : Edit α} {f : α → Edit β} {b : β} :
    (m >>= f).run s = .ok b t ↔ ∃ a u, m.run s = .ok a u ∧ (f a).run u = .ok b t := by
  rw [EStateM.run_bind]
  cases m.run s with
  | error => simp
  | ok a u =>
    constructor
    · intro h
      exact ⟨a, u, rfl, h⟩
    · rintro ⟨_, _, ⟨⟩, h⟩
      exact h

theorem run_bind_eq_error_iff {m : Edit α} {f : α → Edit β} {e : FormatError} :
    (m >>= f).run s = .error e t ↔
      m.run s = .error e t ∨ ∃ a u, m.run s = .ok a u ∧ (f a).run u = .error e t := by
  rw [EStateM.run_bind]
  cases m.run s with
  | error => simp
  | ok a u =>
    constructor
    · intro h
      exact .inr ⟨a, u, rfl, h⟩
    · rintro (⟨⟨⟩⟩ | ⟨_, _, ⟨⟩, h⟩)
      exact h

/-- If the first of two edits fails, nothing comes after it. -/
theorem changes_bind {m : Edit α} {f : α → Edit β} (hm : Changes s (m.after s))
    (hf : ∀ a t, m.run s = .ok a t → Changes t ((f a).after t)) :
    Changes s (Edit.after (m >>= f) s) := by
  rw [Edit.after, EStateM.run_bind]
  cases h : m.run s with
  | error e t =>
    rw [Edit.after_eq_of_error h] at hm
    exact hm
  | ok a t =>
    rw [Edit.after_eq_of_ok h] at hm
    exact hm.trans (hf a t h)

/-- Each edit of a row may rely on what the changes before it have kept. -/
theorem changes_forM {as : List α} {f : α → Edit PUnit}
    (h : ∀ a ∈ as, ∀ t, Changes s t → Changes t ((f a).after t)) :
    Changes s (Edit.after (as.forM f) s) := by
  rw [List.forM_eq_forM]
  induction as generalizing s with
  | nil => exact .refl
  | cons a as ih =>
    rw [List.forM_cons]
    have hfirst := h a List.mem_cons_self s .refl
    refine changes_bind hfirst fun _ t ht => ih fun b hb u hu => ?_
    rw [Edit.after_eq_of_ok ht] at hfirst
    exact h b (List.mem_cons_of_mem a hb) u (hfirst.trans hu)

/-! ### What the edits change -/

theorem changes_insert (name pattern : String) (s : FormatSet) :
    Changes s ((insert name pattern).after s) := by
  rw [Edit.after, run_insert]
  by_cases hname : name = defaultFormat
  · rw [if_pos hname]
  · rw [if_neg hname]
    cases Pattern.compile pattern with
    | ok p => exact .single (.format p hname)
    | error e => exact .refl

theorem changes_addSymbol (symbol name : String) (s : FormatSet) :
    Changes s ((addSymbol symbol name).after s) := by
  rw [Edit.after, run_addSymbol]
  by_cases hname : s.formats.contains name = true
  · rw [if_pos hname]
    by_cases hfree : (s.symbols.get? symbol).all (· = name) = true
    · rw [if_pos hfree]
      refine .single (.symbol hname fun other hother => ?_)
      rw [Option.mem_def.mp hother] at hfree
      simpa using hfree
    · rw [if_neg hfree]
  · rw [if_neg hname]

theorem changes_addDerivedSymbol (lenient : Bool) {name : String}
    (hname : s.formats.contains name = true) :
    Changes s ((addDerivedSymbol lenient name).after s) := by
  rw [Edit.after, run_addDerivedSymbol]
  by_cases hempty : deriveSymbol name = ""
  · rw [if_pos hempty]
  rw [if_neg hempty]
  by_cases htaken : s.symbols.contains (deriveSymbol name) = true
  · rw [if_pos htaken]
    cases lenient <;> exact .refl
  · rw [if_neg htaken]
    refine .single (.symbol hname fun other hother => absurd ?_ htaken)
    rw [Table.contains, Option.mem_def.mp hother]
    rfl

theorem changes_forM_addDerivedSymbol (lenient : Bool) {names : List String}
    (hnames : ∀ name ∈ names, s.formats.contains name = true) :
    Changes s (Edit.after (names.forM (addDerivedSymbol lenient)) s) :=
  changes_forM fun name hname _ ht =>
    changes_addDerivedSymbol lenient (ht.keptIn.formats name (hnames name hname))

theorem contains_of_mem_unsymbolised {name : String} (h : name ∈ s.unsymbolised) :
    s.formats.contains name = true :=
  Table.contains_iff_mem_keys.mpr (List.mem_filter.mp h).1

theorem run_generateSymbols (lenient : Bool) (s : FormatSet) :
    (generateSymbols lenient).run s =
      EStateM.run (s.unsymbolised.forM (addDerivedSymbol lenient)) s := rfl

theorem changes_generateSymbols (lenient : Bool) (s : FormatSet) :
    Changes s ((generateSymbols lenient).after s) := by
  rw [Edit.after, run_generateSymbols]
  exact changes_forM_addDerivedSymbol lenient fun _ hname => contains_of_mem_unsymbolised hname

theorem changes_setDefault (key : String) (s : FormatSet) :
    Changes s ((setDefault key).after s) := by
  rw [Edit.after, run_setDefault]
  cases h : s.resolveName? key with
  | none => exact .refl
  | some name => exact .single (.default h)

theorem changes_deriveSymbols (d : Declaration) (s : FormatSet) :
    Changes s (d.deriveSymbols.after s) := by
  unfold Declaration.deriveSymbols
  cases d.generateSymbols with
  | true => exact changes_generateSymbols _ s
  | false => exact .refl

theorem changes_chooseDefault (d : Declaration) (s : FormatSet) :
    Changes s (d.chooseDefault.after s) := by
  unfold Declaration.chooseDefault
  cases d.defaultName with
  | none => exact .refl
  | some key => exact changes_setDefault key s

theorem changes_edits (d : Declaration) (s : FormatSet) : Changes s (d.edits.after s) := by
  rw [Declaration.edits]
  refine changes_bind (changes_forM fun e _ t _ => changes_insert e.1 e.2 t) fun _ t _ => ?_
  refine changes_bind (changes_forM fun e _ u _ => changes_addSymbol e.1 e.2 u) fun _ u _ => ?_
  exact changes_bind (changes_deriveSymbols d u) fun _ v _ => changes_chooseDefault d v

/-! ### Loading -/

theorem load_eq_ok_iff {d : Declaration} : d.load = .ok s ↔ d.edits.run .empty = .ok () s := by
  unfold Declaration.load
  cases d.edits.run .empty <;> simp

theorem load_eq_error_iff {d : Declaration} {e : FormatError} :
    d.load = .error e ↔ ∃ t, d.edits.run .empty = .error e t := by
  unfold Declaration.load
  cases d.edits.run .empty <;> simp

theorem ofRon_eq_ok_iff {text : String} :
    ofRon text = .ok s ↔ ∃ d, Declaration.ofRon? text = some d ∧ d.load = .ok s := by
  rw [ofRon]
  cases Declaration.ofRon? text <;> simp

theorem changes_ofRon {text : String} (h : ofRon text = .ok s) : Changes .empty s := by
  obtain ⟨d, -, hd⟩ := ofRon_eq_ok_iff.mp h
  rw [← Edit.after_eq_of_ok (load_eq_ok_iff.mp hd)]
  exact changes_edits d .empty

end Edits

end SlotPattern.FormatSet
