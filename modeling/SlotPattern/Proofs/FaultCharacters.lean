import SlotPattern.Proofs.FirstFault

/-!
# The character at which a fault is reported

The offset of an error is that of a character of the text, and the kind of the fault tells which
characters this can be. A slot is reported as open only where the text does not close it, never
while the body of a slot is read.
-/

namespace SlotPattern

open Grammar

/-- The characters at which a fault can be reported. A bad name is reported where an atom starts. -/
def Fault.PointsAt : Fault → Char → Prop
  | .unterminatedSlot, c => c = '{'
  | .unmatchedBrace, c => c = '}'
  | .emptyGroup, c => c = '|' ∨ c = ')'
  | .emptyOption, c => c = '|' ∨ c = '}'
  | .invalidIdentifier _, c => StartsAtom c
  | .constraintOnFirstSlot, c => c = '>' ∨ c = '~'
  | .conflictingConstraintOperators, c => c = '>' ∨ c = '~'
  | .danglingConstraint, c => c = '>' ∨ c = '~' ∨ c = '|' ∨ c = '}'
  | .danglingEscape, c => c = '\\'
  | .malformedGroup, c => c ≠ '{' ∧ c ≠ '}' ∧ c ≠ '|' ∧ c ≠ '\\'

theorem Operator.toChar_cases (op : Operator) : op.toChar = '>' ∨ op.toChar = '~' := by
  cases op
  · exact .inl rfl
  · exact .inr rfl

/-- In a body, a fault about a lexeme is reported at a character of the right kind. -/
theorem Fault.Concerns.pointsAt {fault : Fault} {item : Lexeme} {behind : List Char} {c : Char}
    (h : fault.Concerns item behind) (hchar : item.StartsWith c) (hbrace : c ≠ '{' ∧ c ≠ '}') :
    fault.PointsAt c := by
  cases fault with
  | emptyGroup =>
    rcases h with rfl | rfl
    · exact .inl (hchar.eq_of_text rfl rfl)
    · exact .inr (hchar.eq_of_text rfl rfl)
  | emptyOption =>
    obtain rfl := h
    exact .inl (hchar.eq_of_text rfl rfl)
  | invalidIdentifier name => exact hchar.startsAtom h.1
  | constraintOnFirstSlot | conflictingConstraintOperators =>
    obtain ⟨op, rfl⟩ := h
    obtain rfl := hchar.eq_of_text rfl rfl
    exact op.toChar_cases
  | danglingConstraint =>
    rcases h with rfl | ⟨op, rfl⟩
    · exact .inr (.inr (.inl (hchar.eq_of_text rfl rfl)))
    · obtain rfl := hchar.eq_of_text rfl rfl
      exact op.toChar_cases.imp_right .inl
  | danglingEscape =>
    obtain rfl := h
    exact hchar.eq_of_text rfl rfl
  | malformedGroup =>
    obtain ⟨hbar, hescape⟩ := h
    refine ⟨hbrace.1, hbrace.2, ?_, ?_⟩
    · rintro rfl
      exact hbar (hchar.lexeme_eq_of_not_isWordChar nofun).symm
    · rintro rfl
      exact hescape (hchar.lexeme_eq_of_not_isWordChar nofun).symm
  | unterminatedSlot =>
    rcases h with rfl | rfl
    · exact absurd (hchar.eq_of_text rfl rfl) hbrace.1
    · exact absurd (hchar.eq_of_text rfl rfl) hbrace.2
  | unmatchedBrace => exact h.elim

theorem Grammar.FaultText.exists_char {first : Bool} {offset : Nat} {cs : List Char}
    {e : ParseError} (h : FaultText first offset cs e) :
    ∃ before c after, cs = before ++ c :: after ∧ e.offset = offset + utf8Length before ∧
      e.fault.PointsAt c := by
  cases h with
  | @dangling cs => exact ⟨[], '\\', cs, rfl, rfl, rfl⟩
  | @unmatched cs => exact ⟨[], '}', cs, rfl, rfl, rfl⟩
  | unterminated => exact ⟨[], '{', _, rfl, rfl, rfl⟩
  | @slot body cs _ hbody hread =>
    have hplace := add_utf8Length_cons (c := '{') rfl offset
    rcases Slot.read_eq_error hread with
      (hpoints | ⟨hoffset, hfault⟩) | ⟨-, lead, after, v, rfl, -, hsource, rfl⟩
    · obtain ⟨before, c, after, item, behind, rfl, hoffset, -, hchar, hfault⟩ := hpoints.exists_char
      have hc := hbody c (List.mem_append_right _ List.mem_cons_self)
      refine ⟨'{' :: before, c, after ++ '}' :: cs, by simp, hoffset.trans (hplace before).symm, ?_⟩
      exact hfault.pointsAt hchar hc
    · refine ⟨'{' :: body, '}', cs, rfl, hoffset.trans (hplace body).symm, ?_⟩
      rcases hfault with hfault | hfault <;> rw [hfault]
      · exact .inr rfl
      · exact .inr (.inr (.inr rfl))
    · obtain ⟨rest, rfl⟩ := hsource.exists_cons
      exact ⟨'{' :: lead, '(', rest ++ '}' :: cs, by simp, (hplace lead).symm, .inr (.inl rfl)⟩

namespace Pattern

/-- An error is reported at a character of the text, and its kind tells which characters this can
be. While the body of a slot is read no slot is reported as open. -/
theorem compile_error_at_character {s : String} {e : ParseError} (h : compile s = .error e) :
    (∃ (before after : String) (c : Char), s = before ++ String.singleton c ++ after ∧
        before.utf8ByteSize = e.offset ∧ e.offset < s.utf8ByteSize ∧ e.fault.PointsAt c) ∧
      ∀ (first : Bool) (stop offset : Nat) (body : List Char) (error : ParseError), BraceFree body →
        Slot.read first stop (lexed offset body) = .error error →
          error.fault ≠ .unterminatedSlot := by
  refine ⟨?_, fun first stop offset body error hbody hread =>
    (Slot.fault_ne_of_read_eq_error hbody hread).1⟩
  rw [compile_eq_error_iff] at h
  obtain ⟨text, rest, items, hsplit, -, hfault⟩ := h
  obtain ⟨front, c, after, rfl, hoffset, hc⟩ := hfault.exists_char
  have hs : s = String.ofList (text ++ front) ++ String.singleton c ++ String.ofList after := by
    rw [← String.ofList_toList (s := s), hsplit, ← List.append_assoc, String.ofList_append,
      String.ofList_cons, ← String.append_assoc]
  have hsize : (String.ofList (text ++ front)).utf8ByteSize = e.offset := by
    rw [← utf8Length_eq_utf8ByteSize, utf8Length_append, hoffset, Nat.zero_add]
  refine ⟨_, _, c, hs, hsize, ?_, hc⟩
  rw [hs, String.utf8ByteSize_append, String.utf8ByteSize_append, hsize,
    String.utf8ByteSize_singleton]
  have hpos := c.utf8Size_pos
  omega

/-- The target of the constraint is missing where the closing brace stands. -/
theorem compile_error_at_character_missing_target :
    compile "é\x7bx\x7d\x7ba>\x7d" = .error ⟨.danglingConstraint, 8⟩ ∧
      (∃ (before after : String) (c : Char),
        "é\x7bx\x7d\x7ba>\x7d" = before ++ String.singleton c ++ after ∧ before.utf8ByteSize = 8 ∧
          8 < "é\x7bx\x7d\x7ba>\x7d".utf8ByteSize ∧ Fault.danglingConstraint.PointsAt c) ∧
      BraceFree ['a', '>'] ∧
      Slot.read false 8 (lexed 6 ['a', '>']) = .error ⟨.danglingConstraint, 8⟩ ∧
      Fault.danglingConstraint ≠ .unterminatedSlot := by
  have herror : compile "é\x7bx\x7d\x7ba>\x7d" = .error ⟨.danglingConstraint, 8⟩ := by
    decide +kernel
  have hbody : BraceFree ['a', '>'] := by simp
  have hread : Slot.read false 8 (lexed 6 ['a', '>']) = .error ⟨.danglingConstraint, 8⟩ := rfl
  obtain ⟨hchar, hslot⟩ := compile_error_at_character herror
  exact ⟨herror, hchar, hbody, hread, hslot false 8 6 _ _ hbody hread⟩

end Pattern

end SlotPattern
