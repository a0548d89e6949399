import SlotPattern.Proofs.Lookups

/-!
# Stored patterns

A format set compiles a text before it stores anything, and no other edit puts a pattern into a set.
So all that a lookup can find in a reachable set has been compiled from some text.
-/

namespace SlotPattern.FormatSet

/-! ### What edits keep -/

/-- What an edit leaves behind has the property `P` if the set before has it. -/
def Edit.Keeps {α : Type} (P : FormatSet → Prop) (m : Edit α) : Prop :=
  ∀ s, P s → P (m.after s)

section Keeps

variable {α β : Type} {P : FormatSet → Prop}

theorem Edit.Keeps.pure (a : α) : Edit.Keeps P (pure a : Edit α) := by
  intro s hs
  exact hs

theorem Edit.Keeps.bind {m : Edit α} {f : α → Edit β} (hm : m.Keeps P)
    (hf : ∀ a, (f a).Keeps P) : Edit.Keeps P (m >>= f) := by
  intro s hs
  have hfirst := hm s hs
  rw [Edit.after, EStateM.run_bind]
  cases hrun : m.run s with
  | error e t =>
    rw [Edit.after_eq_of_error hrun] at hfirst
    exact hfirst
  | ok a t =>
    rw [Edit.after_eq_of_ok hrun] at hfirst
    exact hf a t hfirst

theorem Edit.Keeps.forM {as : List α} {f : α → Edit PUnit} (hf : ∀ a, (f a).Keeps P) :
    Edit.Keeps P (as.forM f) := by
  rw [List.forM_eq_forM]
  induction as with
  | nil => exact Edit.Keeps.pure _
  | cons a as ih =>
    rw [List.forM_cons]
    exact (hf a).bind fun _ => ih

end Keeps

/-! ### Compiled patterns -/

/-- Every stored pattern is what some text compiles to. -/
def Compiled (s : FormatSet) : Prop :=
  ∀ name, ∀ p ∈ s.formats.get? name, ∃ text, Pattern.compile text = .ok p

namespace Compiled

variable {s t : FormatSet}

theorem empty : Compiled .empty := by
  intro name p hp
  cases hp

theorem insert {name text : String} {p : Pattern} (hs : s.Compiled)
    (hp : Pattern.compile text = .ok p) :
    Compiled { s with formats := s.formats.insert name p } := by
  intro other q hq
  simp only [Table.get?_insert, Option.mem_def] at hq
  split at hq
  · cases hq
    exact ⟨text, hp⟩
  · exact hs other q hq

theorem merge (hs : s.Compiled) (ht : t.Compiled) : (s.merge t).Compiled := by
  intro name p hp
  rw [Option.mem_def, FormatSet.merge, Table.get?_merge, Option.or_eq_some_iff] at hp
  rcases hp with hp | ⟨-, hp⟩
  · exact ht name p hp
  · exact hs name p hp

end Compiled

theorem keeps_compiled_insert (name pattern : String) : (insert name pattern).Keeps Compiled := by
  intro s hs
  rw [Edit.after, run_insert]
  by_cases hname : name = defaultFormat
  · rw [if_pos hname]
    exact hs
  · rw [if_neg hname]
    cases hp : Pattern.compile pattern with
    | ok p => exact hs.insert hp
    | error e => exact hs

/-! ### Edits that store nothing -/

section Formats

variable {formats : Table Pattern}

theorem keeps_formats_addSymbol (symbol name : String) :
    (addSymbol symbol name).Keeps (·.formats = formats) := by
  intro s hs
  rw [Edit.after, run_addSymbol]
  by_cases hname : s.formats.contains name = true
  · rw [if_pos hname]
    by_cases hfree : (s.symbols.get? symbol).all (· = name) = true
    · rw [if_pos hfree]
      exact hs
    · rw [if_neg hfree]
      exact hs
  · rw [if_neg hname]
    exact hs

theorem keeps_formats_addDerivedSymbol (lenient : Bool) (name : String) :
    (addDerivedSymbol lenient name).Keeps (·.formats = formats) := by
  intro s hs
  rw [Edit.after, run_addDerivedSymbol]
  by_cases hempty : deriveSymbol name = ""
  · rw [if_pos hempty]
    exact hs
  rw [if_neg hempty]
  by_cases htaken : s.symbols.contains (deriveSymbol name) = true
  · rw [if_pos htaken]
    cases lenient <;> exact hs
  · rw [if_neg htaken]
    exact hs

theorem keeps_formats_generateSymbols (lenient : Bool) :
    (generateSymbols lenient).Keeps (·.formats = formats) := by
  intro s hs
  rw [Edit.after, run_generateSymbols]
  exact Edit.Keeps.forM (keeps_formats_addDerivedSymbol lenient) s hs

theorem keeps_formats_setDefault (key : String) :
    (setDefault key).Keeps (·.formats = formats) := by
  intro s hs
  rw [Edit.after, run_setDefault]
  cases s.resolveName? key <;> exact hs

end Formats

theorem Edit.Keeps.compiled {m : Edit Unit} (h : ∀ formats, m.Keeps (·.formats = formats)) :
    m.Keeps Compiled := by
  intro s hs name p hp
  have hformats : (m.after s).formats = s.formats := h s.formats s rfl
  rw [hformats] at hp
  exact hs name p hp

/-! ### Reachable sets -/

theorem keeps_compiled_call (c : Call) : c.edit.Keeps Compiled := by
  cases c with
  | insert name pattern => exact keeps_compiled_insert name pattern
  | addSymbol symbol name => exact .compiled fun _ => keeps_formats_addSymbol symbol name
  | generateSymbols lenient => exact .compiled fun _ => keeps_formats_generateSymbols lenient
  | setDefault key => exact .compiled fun _ => keeps_formats_setDefault key

theorem keeps_compiled_deriveSymbols (d : Declaration) : d.deriveSymbols.Keeps Compiled := by
  unfold Declaration.deriveSymbols
  cases d.generateSymbols with
  | true => exact keeps_compiled_call (.generateSymbols _)
  | false => exact .pure _

theorem keeps_compiled_chooseDefault (d : Declaration) : d.chooseDefault.Keeps Compiled := by
  unfold Declaration.chooseDefault
  cases d.defaultName with
  | none => exact .pure _
  | some key => exact keeps_compiled_call (.setDefault key)

theorem keeps_compiled_edits (d : Declaration) : d.edits.Keeps Compiled := by
  rw [Declaration.edits]
  refine .bind (.forM fun e => keeps_compiled_insert e.1 e.2) fun _ => ?_
  refine .bind (.forM fun e => keeps_compiled_call (.addSymbol e.1 e.2)) fun _ => ?_
  exact .bind (keeps_compiled_deriveSymbols d) fun _ => keeps_compiled_chooseDefault d

theorem compiled_ofRon {text : String} {s : FormatSet} (h : ofRon text = .ok s) : s.Compiled := by
  obtain ⟨d, -, hd⟩ := ofRon_eq_ok_iff.mp h
  rw [← Edit.after_eq_of_ok (load_eq_ok_iff.mp hd)]
  exact keeps_compiled_edits d _ .empty

theorem Reachable.compiled {s : FormatSet} (h : s.Reachable) : s.Compiled := by
  induction h with
  | empty => exact .empty
  | load h => exact compiled_ofRon h
  | @call s _ c ih => exact keeps_compiled_call c s ih
  | merge _ _ ih ihother => exact ih.merge ihother

/-- What a key finds has been compiled. -/
theorem Compiled.of_lookup {s : FormatSet} (hs : s.Compiled) {key : String} {p : Pattern}
    (hp : s.lookup key = .ok p) : ∃ text, Pattern.compile text = .ok p := by
  by_cases hkey : key = defaultFormat
  · subst hkey
    obtain ⟨name, -, hname⟩ := Option.bind_eq_some_iff.mp (lookup_default_iff.mp hp)
    exact hs name p hname
  · obtain ⟨name, -, hname⟩ := Option.bind_eq_some_iff.mp ((lookup_eq_ok_iff hkey).mp hp)
    exact hs name p hname

end SlotPattern.FormatSet
