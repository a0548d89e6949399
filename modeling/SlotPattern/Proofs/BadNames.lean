import SlotPattern.Proofs.FirstFault

/-!
# Names that are reported as bad

A name that is reported is no plain identifier, and the text at which it is reported starts with it.
There is one exception. Sources are checked when the whole atom before the operator has been read,
so a bad source in a group is reported at the opening parenthesis of the group.
-/

namespace SlotPattern

open Grammar Name

/-! ### Sources -/

/-- Is the value a name with subscripts? -/
def Value.IsSubscripted (v : Value) : Prop :=
  ∃ identifier subscripts, v.text = identifier ++ subscripts ∧ IdentifierText identifier ∧
    SubscriptsText subscripts ∧ subscripts ≠ []

theorem Grammar.ImproperSource.isPlain_eq_false {cs : List Char} {v : Value}
    (h : ImproperSource cs v) : v.isPlain = false := by
  obtain ⟨-, hv⟩ := h
  simpa using List.find?_some hv

/-- A member that is no plain identifier is the mark `?` or has subscripts. -/
theorem Grammar.ImproperSource.nothing_or_isSubscripted {cs : List Char} {v : Value}
    (h : ImproperSource cs v) : v = .nothing ∨ v.IsSubscripted := by
  have hplain := h.isPlain_eq_false
  obtain ⟨hgroup, hv⟩ := h
  obtain ⟨text, hmember⟩ := exists_text_of_alternativesText hgroup v (List.mem_of_find?_eq_some hv)
  cases hmember with
  | nothing => exact .inl rfl
  | @name text hname =>
    obtain ⟨identifier, keys⟩ := hname
    refine .inr ⟨_, _, String.toList_ofList, identifier, keys, ?_⟩
    rintro rfl
    rw [List.append_nil, Value.isPlain, Value.text, String.toList_ofList,
      isIdentifier_iff.mpr identifier] at hplain
    cases hplain

/-! ### Where bad names are reported -/

theorem Grammar.FaultText.exists_name {first : Bool} {offset place : Nat} {cs : List Char}
    {name : String} (h : FaultText first offset cs ⟨.invalidIdentifier name, place⟩) :
    isIdentifier name.toList = false ∧ ∃ before after, cs = before ++ after ∧
      place = offset + utf8Length before ∧
      (name.toList <+: after ∨
        (first = false ∧ ∃ lead v, before = '{' :: lead ∧ OptionStart false lead ∧
          ImproperSource after v ∧ name = toString v)) := by
  cases h with
  | @slot body cs _ hbody hread =>
    have hplace := add_utf8Length_cons (c := '{') rfl offset
    rcases Slot.read_eq_error hread with
      (hpoints | ⟨-, hfault⟩) | ⟨hfirst, lead, after, v, rfl, hlead, hsource, he⟩
    · obtain ⟨before, c, after, item, behind, rfl, rfl, htext, -, -, hname, hstart⟩ :=
        hpoints.exists_char
      rw [htext] at hstart
      refine ⟨hname, '{' :: before, c :: after ++ '}' :: cs, by simp, (hplace before).symm, .inl ?_⟩
      exact hstart.trans (List.prefix_append _ _)
    · rcases hfault with hfault | hfault <;> cases hfault
    · cases he
      refine ⟨?_, '{' :: lead, after ++ '}' :: cs, by simp, (hplace lead).symm, .inr ?_⟩
      · rw [Value.toList_toString]
        exact hsource.isPlain_eq_false
      · exact ⟨hfirst, lead, v, rfl, hlead, hsource.append _, rfl⟩

namespace Pattern

/-- Behind the text a constraint can start: it ends in an open slot where an option starts, and a
pattern with another slot is before this one. -/
def ConstraintStart (before : String) : Prop :=
  ∃ (front : String) (p : Pattern) (lead : List Char), compile front = .ok p ∧ p.slots ≠ [] ∧
    OptionStart false lead ∧ before = front ++ String.ofList ('{' :: lead)

/-- A name that is reported as invalid is no plain identifier. It is the text at the place that is
reported, or the first member that is no plain identifier in the group of sources there. -/
theorem compile_eq_invalidIdentifier {s name : String} {offset : Nat}
    (h : compile s = .error ⟨.invalidIdentifier name, offset⟩) :
    isIdentifier name.toList = false ∧
      ∃ before after : String, s = before ++ after ∧ before.utf8ByteSize = offset ∧
        ((∃ rest, after = name ++ rest) ∨
          ConstraintStart before ∧ ∃ v : Value, ImproperSource after.toList v ∧ name = toString v ∧
            (v = .nothing ∨ v.IsSubscripted)) := by
  rw [compile_eq_error_iff] at h
  obtain ⟨text, rest, items, hsplit, htext, hfault⟩ := h
  obtain ⟨hname, front, after, rfl, rfl, hwhere⟩ := hfault.exists_name
  refine ⟨hname, String.ofList (text ++ front), String.ofList after, ?_, ?_, ?_⟩
  · rw [← String.ofList_append, List.append_assoc, ← hsplit, String.ofList_toList]
  · rw [← utf8Length_eq_utf8ByteSize, utf8Length_append, Nat.zero_add]
  · rcases hwhere with ⟨behind, rfl⟩ | ⟨hfirst, lead, v, rfl, hlead, hsource, rfl⟩
    · refine .inl ⟨String.ofList behind, ?_⟩
      rw [String.ofList_append, String.ofList_toList]
    · refine .inr ⟨?_, v, ?_, rfl, hsource.nothing_or_isSubscripted⟩
      · refine ⟨String.ofList text, ofItems items, lead, compile_patternText htext, ?_, hlead,
          String.ofList_append ..⟩
        intro hslots
        have hnone := isFirst_items hslots
        rw [items_ofItems] at hnone
        rw [List.append_nil, hnone] at hfirst
        cases hfirst
      · rw [String.toList_ofList]
        exact hsource

/-- The mark in the group is no source. It is not the text at the place that is reported. -/
theorem compile_eq_invalidIdentifier_in_group :
    compile "é\x7bx\x7d\x7b(b|?|a[0])~c\x7d" = .error ⟨.invalidIdentifier "?", 6⟩ ∧
      isIdentifier "?".toList = false ∧
      ∃ before after : String, "é\x7bx\x7d\x7b(b|?|a[0])~c\x7d" = before ++ after ∧
        before.utf8ByteSize = 6 ∧ ConstraintStart before ∧
        ∃ v : Value, ImproperSource after.toList v ∧ "?" = toString v := by
  have herror : compile "é\x7bx\x7d\x7b(b|?|a[0])~c\x7d" = .error ⟨.invalidIdentifier "?", 6⟩ := by
    decide +kernel
  obtain ⟨hname, before, after, hsplit, hoffset, hwhere⟩ := compile_eq_invalidIdentifier herror
  refine ⟨herror, hname, before, after, hsplit, hoffset, ?_⟩
  rcases hwhere with ⟨rest, rfl⟩ | ⟨hstart, v, hsource, htext, -⟩
  · have htext := congrArg String.toList hsplit
    rw [String.toList_append] at htext
    have hcut : "é\x7bx\x7d\x7b".toList ++ "(b|?|a[0])~c\x7d".toList =
        before.toList ++ ("?" ++ rest).toList := by
      rw [← htext]
      decide +kernel
    have hlength : utf8Length "é\x7bx\x7d\x7b".toList = utf8Length before.toList := by
      rw [utf8Length_eq_utf8ByteSize before.toList, String.ofList_toList, hoffset]
      decide +kernel
    obtain ⟨-, hafter⟩ := append_inj_of_utf8Length hcut hlength
    rw [String.toList_append] at hafter
    exact absurd (List.cons.inj hafter).1 (by decide)
  · exact ⟨hstart, v, hsource, htext⟩

end Pattern

end SlotPattern
