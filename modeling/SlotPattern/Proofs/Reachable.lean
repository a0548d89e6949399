import SlotPattern.Proofs.Changes

/-!
# Reachable format sets

A program comes to a format set by loading it, by calls, which may fail, and by merging. The names in
such a set lead somewhere: its symbols and its default stand for stored formats, and none of them is
ever lost.
-/

namespace SlotPattern.FormatSet

/-! ### Calls and merges -/

/-- A call that edits a format set. -/
inductive Call
  | insert (name pattern : String)
  | addSymbol (symbol name : String)
  | generateSymbols (lenient : Bool)
  | setDefault (key : String)

/-- The edit that a call makes. -/
def Call.edit : Call → Edit Unit
  | insert name pattern => FormatSet.insert name pattern
  | addSymbol symbol name => FormatSet.addSymbol symbol name
  | generateSymbols lenient => FormatSet.generateSymbols lenient
  | setDefault key => FormatSet.setDefault key

theorem changes_call (c : Call) (s : FormatSet) : Changes s (c.edit.after s) := by
  cases c with
  | insert name pattern => exact changes_insert name pattern s
  | addSymbol symbol name => exact changes_addSymbol symbol name s
  | generateSymbols lenient => exact changes_generateSymbols lenient s
  | setDefault key => exact changes_setDefault key s

/-- The format sets that a program can come to. What a failed call leaves behind is one of them. -/
inductive Reachable : FormatSet → Prop
  | empty : Reachable .empty
  | load {text : String} {s : FormatSet} (h : ofRon text = .ok s) : Reachable s
  | call {s : FormatSet} (h : Reachable s) (c : Call) : Reachable (c.edit.after s)
  | merge {s other : FormatSet} (h : Reachable s) (hother : Reachable other) :
      Reachable (s.merge other)

/-- What becomes of a format set by calls, and by merging other sets into it or it into others. -/
inductive Evolves (s : FormatSet) : FormatSet → Prop
  | refl : Evolves s s
  | call {t : FormatSet} (h : Evolves s t) (c : Call) : Evolves s (c.edit.after t)
  | mergeOther {t other : FormatSet} (h : Evolves s t) (hother : Reachable other) :
      Evolves s (t.merge other)
  | mergeInto {t other : FormatSet} (h : Evolves s t) (hother : Reachable other) :
      Evolves s (other.merge t)

/-! ### Names lead to formats -/

/-- No format has the reserved name, and symbols and the default stand for stored formats. -/
structure Consistent (s : FormatSet) : Prop where
  reserved : s.formats.contains defaultFormat = false
  symbols : ∀ symbol, ∀ name ∈ s.symbols.get? symbol, s.formats.contains name = true
  default : ∀ name ∈ s.defaultName, s.formats.contains name = true

namespace Consistent

variable {s t : FormatSet}

theorem empty : Consistent .empty := by
  refine ⟨rfl, fun _ _ h => ?_, fun _ h => ?_⟩ <;> cases h

theorem contains_of_resolveName? (h : s.Consistent) {key name : String}
    (hname : s.resolveName? key = some name) : s.formats.contains name = true := by
  rw [resolveName?, Option.or_eq_some_iff] at hname
  rcases hname with hsymbol | ⟨-, hformat⟩
  · exact h.symbols key name hsymbol
  · obtain ⟨hkey, heq⟩ := Option.ite_none_right_eq_some.mp hformat
    exact Option.some.inj heq ▸ hkey

theorem change (h : s.Consistent) (hchange : Change s t) : t.Consistent := by
  cases hchange with
  | @format name p hname =>
    have hkeep {other : String} (ho : s.formats.contains other = true) :
        (s.formats.insert name p).contains other = true :=
      (Table.contains_insert ..).mpr (.inr ho)
    refine ⟨?_, fun symbol other ho => hkeep (h.symbols symbol other ho),
      fun other ho => hkeep (h.default other ho)⟩
    rw [← Bool.not_eq_true, Table.contains_insert, h.reserved]
    simpa using Ne.symm hname
  | @symbol symbol name hname _ =>
    refine ⟨h.reserved, fun other target ht => ?_, h.default⟩
    simp only [Table.get?_insert, Option.mem_def] at ht
    split at ht
    · cases ht
      exact hname
    · exact h.symbols other target ht
  | default hname =>
    refine ⟨h.reserved, h.symbols, fun _ hother => ?_⟩
    cases hother
    exact h.contains_of_resolveName? hname

theorem changes (h : s.Consistent) (hchanges : Changes s t) : t.Consistent := by
  induction hchanges with
  | refl => exact h
  | tail _ hchange ih => exact ih.change hchange

theorem merge (h : s.Consistent) (ht : t.Consistent) : (s.merge t).Consistent := by
  have hleft := (keptIn_merge_left s t).formats
  have hright := (keptIn_merge_right s t).formats
  refine ⟨?_, fun symbol name hname => ?_, fun name hname => ?_⟩
  · rw [← Bool.not_eq_true, FormatSet.merge, Table.contains_merge, h.reserved, ht.reserved]
    simp
  · rw [Option.mem_def, FormatSet.merge, Table.get?_merge, Option.or_eq_some_iff] at hname
    rcases hname with hname | ⟨-, hname⟩
    · exact hright name (ht.symbols symbol name hname)
    · exact hleft name (h.symbols symbol name hname)
  · rw [Option.mem_def, FormatSet.merge, Option.or_eq_some_iff] at hname
    rcases hname with hname | ⟨-, hname⟩
    · exact hright name (ht.default name hname)
    · exact hleft name (h.default name hname)

theorem lookup_eq_error_iff (h : s.Consistent) {key : String} (hkey : key ≠ defaultFormat) :
    (∃ e, s.lookup key = .error e) ↔ s.resolveName? key = none := by
  rw [lookup, if_neg hkey]
  cases hname : s.resolveName? key with
  | none => simp
  | some name =>
    obtain ⟨p, hp⟩ := Option.isSome_iff_exists.mp (h.contains_of_resolveName? hname)
    simp [hp]

theorem exists_lookupDefault (h : s.Consistent) (hdefault : s.defaultName ≠ none) :
    ∃ p, s.lookupDefault = .ok p := by
  obtain ⟨name, hname⟩ := Option.ne_none_iff_exists'.mp hdefault
  obtain ⟨p, hp⟩ := Option.isSome_iff_exists.mp (h.default name hname)
  exact ⟨p, by simp [lookupDefault, hname, hp]⟩

end Consistent

theorem Reachable.consistent {s : FormatSet} (h : s.Reachable) : s.Consistent := by
  induction h with
  | empty => exact .empty
  | load h => exact Consistent.empty.changes (changes_ofRon h)
  | @call s _ c ih => exact ih.changes (changes_call c s)
  | merge _ _ ih ihother => exact ih.merge ihother

theorem Evolves.keptIn {s t : FormatSet} (h : s.Evolves t) : s.KeptIn t := by
  induction h with
  | refl => exact .refl s
  | @call t _ c ih => exact ih.trans (changes_call c t).keptIn
  | @mergeOther t other _ _ ih => exact ih.trans (keptIn_merge_left t other)
  | @mergeInto t other _ _ ih => exact ih.trans (keptIn_merge_right other t)

/-! ### Where a default comes from -/

theorem defaultName_setDefault {key : String} {s t : FormatSet}
    (h : (setDefault key).run s = .ok () t) : t.defaultName ≠ none := by
  rw [run_setDefault] at h
  cases hname : s.resolveName? key with
  | none => simp [hname] at h
  | some name =>
    simp only [hname] at h
    cases h
    simp

theorem defaultName_load {d : Declaration} {s : FormatSet} (h : d.load = .ok s)
    (hdefault : d.defaultName ≠ none) : s.defaultName ≠ none := by
  obtain ⟨key, hkey⟩ := Option.ne_none_iff_exists'.mp hdefault
  have hrun := load_eq_ok_iff.mp h
  simp only [Declaration.edits, run_bind_eq_ok_iff] at hrun
  obtain ⟨-, -, -, -, -, -, -, t, -, hset⟩ := hrun
  rw [Declaration.chooseDefault, hkey] at hset
  exact defaultName_setDefault hset

/-- At some time on the way to the set a default has been set: by what it was loaded from, by a
call, or in a set merged into it. -/
inductive DefaultWasSet : FormatSet → Prop
  | load {text : String} {d : Declaration} {s : FormatSet} (hd : Declaration.ofRon? text = some d)
      (h : d.load = .ok s) (hdefault : d.defaultName ≠ none) : DefaultWasSet s
  | set {key : String} {s t : FormatSet} (hs : Reachable s)
      (h : (setDefault key).run s = .ok () t) : DefaultWasSet t
  | call {s : FormatSet} (h : DefaultWasSet s) (c : Call) : DefaultWasSet (c.edit.after s)
  | mergeLeft {s other : FormatSet} (h : DefaultWasSet s) (hother : Reachable other) :
      DefaultWasSet (s.merge other)
  | mergeRight {s other : FormatSet} (hs : Reachable s) (h : DefaultWasSet other) :
      DefaultWasSet (s.merge other)

theorem DefaultWasSet.defaultName_ne_none {s : FormatSet} (h : s.DefaultWasSet) :
    s.defaultName ≠ none := by
  induction h with
  | load _ h hdefault => exact defaultName_load h hdefault
  | set _ h => exact defaultName_setDefault h
  | @call s _ c ih => exact (changes_call c s).keptIn.default ih
  | mergeLeft _ _ ih => exact (keptIn_merge_left ..).default ih
  | mergeRight _ _ ih => exact (keptIn_merge_right ..).default ih

/-! ### Integrity -/

/-- Names in a reachable set lead to stored formats, so lookups fail only where nothing was stored,
and whatever happens to the set, no name or symbol is lost, nor is the last default. -/
theorem Reachable.integrity {s : FormatSet} (h : s.Reachable) :
    s.Consistent ∧
      (∀ key, ∀ name ∈ s.resolveName? key, s.formats.contains name = true) ∧
      (∀ key, key ≠ defaultFormat →
        ((∃ e, s.lookup key = .error e) ↔ s.resolveName? key = none)) ∧
      (∀ e, s.lookupDefault = .error e → ¬s.DefaultWasSet) ∧
      ∀ t, s.Evolves t → s.KeptIn t := by
  have hs := h.consistent
  refine ⟨hs, fun _ _ hname => hs.contains_of_resolveName? hname,
    fun _ hkey => hs.lookup_eq_error_iff hkey, fun e he hset => ?_, fun _ ht => ht.keptIn⟩
  obtain ⟨p, hp⟩ := hs.exists_lookupDefault hset.defaultName_ne_none
  rw [hp] at he
  cases he

/-- The third call fails behind its first symbol, which the last call makes use of. -/
theorem Reachable.integrity_behind_failed_call :
    ∃ s : FormatSet, s.Reachable ∧
      s.names = [("first_last", some "fl"), ("full_long", none)] ∧
      s.defaultName = some "first_last" ∧
      s.Consistent ∧
      (∀ key, ∀ name ∈ s.resolveName? key, s.formats.contains name = true) ∧
      (∀ key, key ≠ defaultFormat →
        ((∃ e, s.lookup key = .error e) ↔ s.resolveName? key = none)) ∧
      (∀ e, s.lookupDefault = .error e → ¬s.DefaultWasSet) ∧
      ∀ t, s.Evolves t → s.KeptIn t := by
  have hs := Reachable.empty.call (.insert "first_last" "\x7ba\x7d")
    |>.call (.insert "full_long" "\x7bb\x7d")
    |>.call (.generateSymbols false)
    |>.call (.setDefault "fl")
  exact ⟨_, hs, by decide +kernel, by decide +kernel, hs.integrity⟩

end SlotPattern.FormatSet
