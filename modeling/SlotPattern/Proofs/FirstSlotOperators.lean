import SlotPattern.Proofs.FirstFault

/-!
# Operators in the first slot

The first slot of a pattern has nothing to look back to, so no text with an operator in it compiles.
The error says so if the reader gets to the operator where an option starts or ends. It is another
one if the operator stands in a group, or if something before it cannot be read.
-/

namespace SlotPattern

open Grammar

/-! ### Texts without operators -/

/-- A text without operators. -/
def OperatorFree (cs : List Char) : Prop := ∀ c ∈ cs, (Token.ofChar c).isOperator = false

@[simp] theorem operatorFree_nil : OperatorFree [] := List.forall_mem_nil _

@[simp] theorem operatorFree_cons {c : Char} {cs : List Char} :
    OperatorFree (c :: cs) ↔ (Token.ofChar c).isOperator = false ∧ OperatorFree cs :=
  List.forall_mem_cons

@[simp] theorem operatorFree_append {cs ds : List Char} :
    OperatorFree (cs ++ ds) ↔ OperatorFree cs ∧ OperatorFree ds := List.forall_mem_append

theorem isOperator_toChar (op : Operator) : (Token.ofChar op.toChar).isOperator = true := by
  cases op <;> rfl

theorem isOperator_of_isWordChar {c : Char} (h : IsWordChar c) :
    (Token.ofChar c).isOperator = false := by
  rw [IsWordChar] at h
  rw [h]
  rfl

/-- The first operator of a text splits it in one way. -/
theorem OperatorFree.append_cons_inj {xs ys us vs : List Char} {op op' : Operator}
    (hx : OperatorFree xs) (hy : OperatorFree ys)
    (h : xs ++ op.toChar :: us = ys ++ op'.toChar :: vs) : xs = ys := by
  have hfree {cs : List Char} (hcs : OperatorFree cs) :
      ∀ c ∈ cs, ¬(Token.ofChar c).isOperator = true := by
    intro c hc
    rw [Bool.not_eq_true]
    exact hcs c hc
  exact (append_cons_inj_of_forall (hfree hx) (hfree hy) (isOperator_toChar op)
    (isOperator_toChar op') h).1

theorem AtomText.operatorFree {cs : List Char} {vs : List Value} (h : AtomText cs vs) :
    OperatorFree cs := by
  cases h with
  | member h =>
    intro c hc
    rcases h.char_cases c hc with hword | rfl
    · exact isOperator_of_isWordChar hword
    · rfl
  | @group group vs h =>
    have hgroup : OperatorFree group := by
      intro c hc
      rcases groupText_char_cases h c hc with hword | rfl | rfl
      · exact isOperator_of_isWordChar hword
      · rfl
      · rfl
    refine operatorFree_cons.mpr ⟨rfl, operatorFree_append.mpr ⟨hgroup, ?_⟩⟩
    exact operatorFree_cons.mpr ⟨rfl, operatorFree_nil⟩

/-- No option of the first slot has an operator. -/
theorem operatorFree_of_bodyText {cs : List Char} {os : List SlotOption} (h : BodyText true cs os) :
    OperatorFree cs := by
  have hoption {ds : List Char} {o : SlotOption} (h : OptionText true ds o) : OperatorFree ds := by
    cases h with
    | unconstrained h => exact AtomText.operatorFree h
  exact AlternativesText.forall_mem hoption rfl h

theorem operatorFree_of_optionStart {cs : List Char} (h : OptionStart true cs) :
    OperatorFree cs := by
  cases h with
  | opening => exact operatorFree_nil
  | bar h =>
    refine operatorFree_append.mpr ⟨operatorFree_of_bodyText h, ?_⟩
    exact operatorFree_cons.mpr ⟨rfl, operatorFree_nil⟩

/-! ### Reading the first slot -/

section Slot

variable {stop offset : Nat} {front rest : List Char} {op : Operator}

theorem lexed_operator_cons (offset : Nat) (op : Operator) (rest : List Char) :
    lexed offset (op.toChar :: rest) = ⟨.operator op, offset⟩ :: lexed (offset + 1) rest := by
  cases op <;> exact lexed_symbol_cons _ _ rfl

/-- An operator where an option starts is reported. -/
theorem Slot.read_operator_of_optionStart (h : OptionStart true front) :
    Slot.read true stop (lexed offset (front ++ op.toChar :: rest)) =
      .error ⟨.constraintOnFirstSlot, offset + utf8Length front⟩ := by
  rw [Slot.read_optionStart_eq_error_iff h, lexed_operator_cons, ← List.nil_append (_ :: _)]
  exact Slot.read_eq_error_of_option rfl nofun fun _ _ => rfl

/-- An operator behind an option is reported. -/
theorem Slot.read_operator_of_bodyText {os : List SlotOption} (h : BodyText true front os) :
    Slot.read true stop (lexed offset (front ++ op.toChar :: rest)) =
      .error ⟨.constraintOnFirstSlot, offset + utf8Length front⟩ := by
  obtain ⟨lead, option, o, rfl, hlead, hoption⟩ := exists_last_option h
  rw [List.append_assoc, Slot.read_optionStart_eq_error_iff hlead,
    lexed_append_symbol _ _ _ (isWord_lexeme_operator op), lexeme_operator, utf8Length_append,
    ← Nat.add_assoc]
  refine Slot.read_eq_error_of_option (passAll_optionText hoption _) nofun fun stop' more => ?_
  cases hoption with
  | unconstrained hatom =>
    exact SlotOption.read_append_atomText hatom
      (read_atomText hatom true stop' _ (endsValue_cons rfl))

/-- If a constraint on the first slot is reported, then at an operator where an option starts or
ends. -/
theorem Slot.operator_of_read_eq_error {cs : List Char} {place : Nat}
    (h : Slot.read true stop (lexed offset cs) = .error ⟨.constraintOnFirstSlot, place⟩) :
    ∃ front op rest, cs = front ++ Operator.toChar op :: rest ∧ place = offset + utf8Length front ∧
      (OptionStart true front ∨ ∃ os, BodyText true front os) := by
  obtain ⟨lead, option, rest, stop', rfl, hlead, -, -, hread⟩ :=
    Slot.exists_option_of_read_eq_error h
  have hfault := OptionFault.of_read hread
  generalize hls : lexed (offset + utf8Length lead) option = ls at hfault
  generalize he : (⟨.constraintOnFirstSlot, place⟩ : ParseError) = e at hfault
  cases hfault with
  | @noSource op _ _ =>
    cases he
    obtain ⟨ds, rfl, rfl⟩ := exists_cons_of_lexed_eq_operator hls
    exact ⟨lead, op, ds ++ rest, rfl, rfl, .inl hlead⟩
  | atom hne h =>
    -- An atom has this fault only if it starts with an operator, and then the option does.
    subst he
    obtain ⟨op, mark, more, hop⟩ := (Atom.read_eq_error h).2 rfl
    exact absurd hop (hne op mark more)
  | @unexpected _ _ _ l _ hl =>
    obtain ⟨item, mark⟩ := l
    cases item with
    | operator op => exact absurd rfl (hl op)
    | _ => cases he
  | @firstSlot _ _ _ op _ _ h =>
    cases he
    subst hls
    obtain ⟨as, bs, rfl, hatom, -, hbs⟩ := Atom.read_lexed_eq_ok h
    obtain ⟨ds, rfl, rfl⟩ := exists_cons_of_lexed_eq_operator hbs.symm
    refine ⟨lead ++ as, op, ds ++ rest, by simp, ?_, .inr (hlead.bodyText (.unconstrained hatom))⟩
    rw [utf8Length_append, Nat.add_assoc]
  | constraint hfirst => cases hfirst

/-- A body of the first slot with an operator is not read. That a constraint stands there is
reported exactly if an option starts or ends in front of the first operator, and then at this
operator. -/
theorem Slot.read_first_operator (hfront : OperatorFree front) :
    ∃ e, Slot.read true stop (lexed offset (front ++ op.toChar :: rest)) = .error e ∧
      (e.fault = .constraintOnFirstSlot ↔
        OptionStart true front ∨ ∃ os, BodyText true front os) ∧
      (e.fault = .constraintOnFirstSlot → e.offset = offset + utf8Length front) := by
  generalize hread : Slot.read true stop (lexed offset (front ++ op.toChar :: rest)) = result
  cases result with
  | ok s =>
    -- The text of a body of the first slot has no operator.
    have hop := operatorFree_of_bodyText (read_eq_ok_iff.mp hread) op.toChar
      (List.mem_append_right _ List.mem_cons_self)
    rw [isOperator_toChar] at hop
    cases hop
  | error e =>
    have hplace : e.fault = .constraintOnFirstSlot →
        e.offset = offset + utf8Length front ∧
          (OptionStart true front ∨ ∃ os, BodyText true front os) := by
      intro hfault
      obtain ⟨fault, place⟩ := e
      subst hfault
      obtain ⟨front', op', rest', hsplit, rfl, hstart⟩ := Slot.operator_of_read_eq_error hread
      have hfree : OperatorFree front' := by
        rcases hstart with hstart | ⟨os, hos⟩
        · exact operatorFree_of_optionStart hstart
        · exact operatorFree_of_bodyText hos
      obtain rfl := hfront.append_cons_inj hfree hsplit
      exact ⟨rfl, hstart⟩
    refine ⟨e, rfl, ⟨fun h => (hplace h).2, ?_⟩, fun h => (hplace h).1⟩
    rintro (hstart | ⟨os, hos⟩)
    · rw [Slot.read_operator_of_optionStart hstart] at hread
      cases hread
      rfl
    · rw [Slot.read_operator_of_bodyText hos] at hread
      cases hread
      rfl

end Slot

namespace Pattern

/-- A text with an operator in its first slot does not compile. The error says that this is what is
wrong exactly if before the first operator there are options that can be read, or options and a bar,
or nothing; then it is reported at this operator. -/
theorem compile_operator_in_first_slot {before : String} {p : Pattern}
    (hbefore : compile before = .ok p) (hslots : p.slots = []) {front rest : List Char}
    {op : Operator} (hfront : OperatorFree front) (hbody : BraceFree (front ++ op.toChar :: rest))
    (after : List Char) :
    ∃ e, compile (before ++
          String.ofList ('{' :: (front ++ op.toChar :: rest ++ '}' :: after))) = .error e ∧
      (e.fault = .constraintOnFirstSlot ↔
        OptionStart true front ∨ ∃ os, BodyText true front os) ∧
      (e.fault = .constraintOnFirstSlot →
        e.offset = before.utf8ByteSize + 1 + utf8Length front) := by
  obtain ⟨e, hread, hstart, hplace⟩ := Slot.read_first_operator hfront
  refine ⟨e, compile_slot_eq_error hbefore hbody after ?_, hstart, hplace⟩
  rw [isFirst_items hslots]
  exact hread

/-- The operator is behind an option that can be read; that the third option has no end does not
matter. -/
theorem compile_operator_in_first_slot_behind_option :
    ∃ p, compile "é" = .ok p ∧ p.slots = [] ∧ OperatorFree ['a', '|', 'b'] ∧
      BraceFree (['a', '|', 'b'] ++ Operator.requires.toChar :: ['|', '(']) ∧
      compile ("é" ++ String.ofList
          ('{' :: (['a', '|', 'b'] ++ Operator.requires.toChar :: ['|', '('] ++ '}' :: ['\\']))) =
        .error ⟨.constraintOnFirstSlot, 6⟩ ∧
      (OptionStart true ['a', '|', 'b'] ∨ ∃ os, BodyText true ['a', '|', 'b'] os) ∧
      6 = "é".utf8ByteSize + 1 + utf8Length ['a', '|', 'b'] := by
  have hbefore : compile "é" = .ok ⟨[.literal "é"]⟩ := by decide +kernel
  have hfront : OperatorFree ['a', '|', 'b'] := by
    simp only [operatorFree_cons, operatorFree_nil]
    decide
  have hbody : BraceFree (['a', '|', 'b'] ++ Operator.requires.toChar :: ['|', '(']) := by
    simp [Operator.toChar]
  have herror : compile ("é" ++ String.ofList
      ('{' :: (['a', '|', 'b'] ++ Operator.requires.toChar :: ['|', '('] ++ '}' :: ['\\']))) =
      .error ⟨.constraintOnFirstSlot, 6⟩ := by decide +kernel
  obtain ⟨e, he, hiff, hplace⟩ := compile_operator_in_first_slot hbefore rfl hfront hbody ['\\']
  obtain rfl : ⟨.constraintOnFirstSlot, 6⟩ = e := Except.error.inj (herror.symm.trans he)
  exact ⟨_, hbefore, rfl, hfront, hbody, herror, hiff.mp rfl, hplace rfl⟩

/-- An operator in a group of the first slot is reported as a fault of the group. -/
theorem not_compile_operator_in_first_slot :
    ¬∀ (before : String) (p : Pattern) (body after : List Char), compile before = .ok p →
      p.slots = [] → BraceFree body → '>' ∈ body ∨ '~' ∈ body →
      ∃ offset, compile (before ++ String.ofList ('{' :: (body ++ '}' :: after))) =
        .error ⟨.constraintOnFirstSlot, offset⟩ := by
  intro h
  have hnothing : compile "" = .ok ⟨[]⟩ := by decide +kernel
  obtain ⟨offset, hconstraint⟩ :=
    h "" ⟨[]⟩ ['(', 'a', '>', 'b', ')'] [] hnothing rfl (by simp) (.inl (by decide))
  have hgroup : compile "\x7b(a>b)\x7d" = .error ⟨.malformedGroup, 3⟩ := by decide +kernel
  cases hgroup.symm.trans hconstraint

end Pattern

end SlotPattern
