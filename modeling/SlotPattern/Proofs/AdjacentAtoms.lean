import SlotPattern.Proofs.FirstFault

/-!
# Atoms that touch

Where a pattern has come to the end of a group, an option has been read that may end there. An atom
right behind the group is reported where it starts, whatever it is and whatever follows it. What is
reported depends on how it starts: a mark is a bad name by itself.
-/

namespace SlotPattern

theorem Operator.toChar_ne_closeGroup (op : Operator) : op.toChar ≠ ')' := by
  cases op <;> decide

/-! ### Texts up to the end of a group -/

namespace Grammar

theorem MemberText.closeGroup_notMem {cs : List Char} {v : Value} (h : MemberText cs v) :
    ')' ∉ cs := by
  intro hmem
  rcases h.char_cases _ hmem with hword | hmark
  · cases hword
  · cases hmark

theorem closeGroup_notMem_groupText {cs : List Char} {vs : List Value}
    (h : AlternativesText MemberText cs vs) : ')' ∉ cs := by
  intro hmem
  rcases groupText_char_cases h _ hmem with hword | hmark | hbar
  · cases hword
  · cases hmark
  · cases hbar

/-- Nothing of an atom is behind the end of a group. -/
theorem AtomText.eq_nil_of_closeGroup {cs ds : List Char} {vs : List Value}
    (h : AtomText (cs ++ ')' :: ds) vs) : ds = [] := by
  generalize htext : cs ++ ')' :: ds = text at h
  cases h with
  | member h => exact absurd (htext ▸ List.mem_append_cons_self) h.closeGroup_notMem
  | @group group vs h =>
    rcases List.eq_nil_or_concat ds with hds | ⟨es, e, rfl⟩
    · exact hds
    have hgroup : cs ++ ')' :: es = '(' :: group := by
      rw [List.concat_eq_append, ← List.cons_append, ← List.append_assoc, ← List.cons_append]
        at htext
      exact List.append_inj_left' htext rfl
    have hmem : ')' ∈ '(' :: group := hgroup ▸ List.mem_append_cons_self
    rcases List.mem_cons.mp hmem with hopen | hmem
    · cases hopen
    · exact absurd hmem (closeGroup_notMem_groupText h)

/-- Where a group of an option ends, an option may end. -/
theorem OptionText.exists_closeGroup {first : Bool} {cs ds : List Char} {o : SlotOption}
    (h : OptionText first (cs ++ ')' :: ds) o) : ∃ o', OptionText first (cs ++ [')']) o' := by
  generalize htext : cs ++ ')' :: ds = text at h
  cases h with
  | unconstrained h =>
    subst htext
    obtain rfl := h.eq_nil_of_closeGroup
    exact ⟨_, .unconstrained h⟩
  | @constrained xs ys _ _ op source target =>
    -- The group is the target, or the source with which the option ends too soon.
    rcases append_cons_eq_append_cons op.toChar_ne_closeGroup htext.symm with
      ⟨ts, rfl, rfl⟩ | ⟨ts, rfl, -⟩
    · obtain rfl := target.eq_nil_of_closeGroup
      rw [List.append_assoc, List.cons_append]
      exact ⟨_, .constrained op source target⟩
    · obtain ⟨hatom, -⟩ := source
      obtain rfl := hatom.eq_nil_of_closeGroup
      exact ⟨_, .unconstrained hatom⟩

/-- Where a group of a body ends, an option may end. -/
theorem exists_option_of_closeGroup {first : Bool} {cs ds : List Char} {os : List SlotOption}
    (h : BodyText first (cs ++ ')' :: ds) os) :
    ∃ lead option o, cs = lead ++ option ∧ OptionStart first lead ∧
      OptionText first (option ++ [')']) o := by
  generalize htext : cs ++ ')' :: ds = text at h
  induction h generalizing cs with
  | one h =>
    subst htext
    obtain ⟨o, ho⟩ := h.exists_closeGroup
    exact ⟨[], cs, o, rfl, .opening, ho⟩
  | more h _ ih =>
    rcases append_cons_eq_append_cons (by decide) htext.symm with ⟨ts, rfl, htail⟩ | ⟨ts, rfl, -⟩
    · obtain ⟨lead, option, o, rfl, hlead, ho⟩ := ih htail.symm
      exact ⟨_, option, o, by simp, hlead.cons h, ho⟩
    · obtain ⟨o, ho⟩ := h.exists_closeGroup
      exact ⟨[], cs, o, rfl, .opening, ho⟩

end Grammar

open Grammar

/-! ### Reading past the end of a group -/

section Reading

variable {first : Bool} {cs : List Char} {l : Located Lexeme}

/-- What follows a group is not read with it. -/
theorem read_atomText_closeGroup {vs : List Value} (h : AtomText (cs ++ [')']) vs) (first : Bool)
    (stop offset : Nat) (rest : List (Located Lexeme)) :
    Atom.read first stop (lexed offset (cs ++ [')']) ++ rest) = .ok (⟨vs, offset⟩, rest) := by
  generalize htext : cs ++ [')'] = text at h
  cases h with
  | member h => exact absurd (htext ▸ List.mem_append_cons_self) h.closeGroup_notMem
  | group h => exact read_group h first stop offset rest

theorem unexpected_of_opensAtom (hl : l.item.opensAtom = true) (first : Bool) :
    unexpected first l = unexpected false l := by
  obtain ⟨item, offset⟩ := l
  cases item with
  | operator op => cases hl
  | _ => rfl

/-- An atom behind a target that ends with its group is reported. -/
theorem readTarget_closeGroup {vs : List Value} (h : AtomText (cs ++ [')']) vs) (op : Operator)
    {source : Atom} {names : List String} (hsource : source.sources = .ok names) (stop offset : Nat)
    (rest : List (Located Lexeme)) :
    SlotOption.readTarget op source stop (lexed offset (cs ++ [')']) ++ l :: rest) =
      .error (unexpected false l) := by
  unfold SlotOption.readTarget
  split
  next heq => exact absurd heq (by simp)
  next heq => exact absurd heq (lexed_atomText_ne_operator h)
  next =>
    rw [hsource, read_atomText_closeGroup h, ok_bind, ok_bind]

/-- An atom behind an option that ends with a group is reported. -/
theorem SlotOption.read_closeGroup {o : SlotOption} (h : OptionText first (cs ++ [')']) o)
    (hl : l.item.opensAtom = true) (stop offset : Nat) (rest : List (Located Lexeme)) :
    SlotOption.read first stop (lexed offset (cs ++ [')']) ++ l :: rest) =
      .error (unexpected first l) := by
  generalize htext : cs ++ [')'] = text at h
  cases h with
  | unconstrained h =>
    subst htext
    rw [SlotOption.read_append_atomText h (read_atomText_closeGroup h first stop offset _)]
    obtain ⟨item, mark⟩ := l
    cases item with
    | operator op => cases hl
    | _ => rfl
  | @constrained source target names _ op hsource htarget =>
    obtain ⟨hatom, plain⟩ := hsource
    obtain ⟨ts, -, rfl⟩ | ⟨ts, -, hnil⟩ :=
      append_cons_eq_append_cons op.toChar_ne_closeGroup htext.symm
    · obtain ⟨mark, next, hlexed⟩ := lexed_append_operator offset source op (ts ++ [')'])
      rw [hlexed, List.append_assoc, List.cons_append, SlotOption.read_append_atomText hatom
        (read_atomText hatom false stop offset (endsValue_cons rfl))]
      exact readTarget_closeGroup htarget op (sources_eq_ok_iff.mpr ⟨rfl, plain⟩) stop _ rest
    · simp at hnil

theorem lexed_append_closeGroup (offset : Nat) (cs ds : List Char) :
    lexed offset (cs ++ ')' :: ds) =
      lexed offset (cs ++ [')']) ++ lexed (offset + utf8Length cs + 1) ds := by
  rw [lexed_append_symbol _ _ _ rfl, lexed_append_symbol _ _ _ rfl, List.append_assoc]
  rfl

/-- A character with which an atom may start is the start of a lexeme that is one. -/
theorem StartsAtom.lexed_cons {c : Char} (hc : StartsAtom c) (offset : Nat) (cs : List Char) :
    ∃ item rest, lexed offset (c :: cs) = ⟨item, offset⟩ :: rest ∧ item.opensAtom = true ∧
      unexpected false ⟨item, offset⟩ =
        ⟨if c = '?' then .invalidIdentifier "?" else .malformedGroup, offset⟩ := by
  rcases hc with rfl | rfl | hword
  · exact ⟨.optional, _, lexed_symbol_cons _ _ rfl, rfl, rfl⟩
  · exact ⟨.openGroup, _, lexed_symbol_cons _ _ rfl, rfl, rfl⟩
  · have hmark : c ≠ '?' := by
      rintro rfl
      cases hword
    obtain ⟨⟨item, place⟩, rest, hlexed⟩ :=
      List.exists_cons_of_ne_nil (lexed_cons_ne_nil offset c cs)
    obtain ⟨_, _, heq, rfl, hitem⟩ := exists_char_of_lexed_eq_cons hlexed
    obtain ⟨rfl, rfl⟩ := List.cons.inj heq
    obtain ⟨text, rfl⟩ : ∃ text, item = .word text := by
      cases hitem with
      | char hitem =>
        rw [hword] at hitem
        exact ⟨_, hitem.symm⟩
      | word _ hitem =>
        cases item with
        | word text => exact ⟨text, rfl⟩
        | _ => cases hitem
    refine ⟨.word text, rest, hlexed, rfl, ?_⟩
    rw [if_neg hmark]
    rfl

/-- An atom right behind a group is reported, if the body could be one up to there. -/
theorem Slot.read_adjacent_atoms {stop offset : Nat} {ds : List Char} {os : List SlotOption}
    (h : BodyText first (cs ++ ')' :: ds) os) {c : Char} (hc : StartsAtom c) (rest : List Char) :
    Slot.read first stop (lexed offset (cs ++ ')' :: c :: rest)) =
      .error ⟨if c = '?' then .invalidIdentifier "?" else .malformedGroup,
        offset + utf8Length cs + 1⟩ := by
  obtain ⟨lead, option, o, rfl, hlead, hoption⟩ := exists_option_of_closeGroup h
  obtain ⟨item, more, hlexed, hopens, hfault⟩ :=
    hc.lexed_cons (offset + utf8Length lead + utf8Length option + 1) rest
  rw [List.append_assoc, Slot.read_optionStart_eq_error_iff hlead, lexed_append_closeGroup, hlexed,
    utf8Length_append, ← Nat.add_assoc, ← hfault, ← unexpected_of_opensAtom hopens first]
  refine Slot.read_eq_error_of_option (passAll_optionText hoption _) ?_ fun stop' rest =>
    SlotOption.read_closeGroup hoption hopens stop' _ rest
  rintro rfl
  cases hopens

end Reading

/-! ### Compiling -/

namespace Pattern

/-- If a text that compiles goes on with a slot, and the whole compiles, what the slot starts with
is the start of a body. -/
theorem exists_bodyText_append {before : String} {p q : Pattern} (h : compile before = .ok p)
    {body tail : List Char} (hbody : BraceFree body)
    (hq : compile (before ++ String.ofList ('{' :: (body ++ tail))) = .ok q) :
    ∃ ds os, BodyText (Scan.isFirst p.items.reverse) (body ++ ds) os := by
  rw [compile, map_eq_ok_iff] at hq
  obtain ⟨items, hscan, -⟩ := hq
  rw [Scan.run_tokenize, String.toList_append, String.toList_ofList,
    Scan.resume_append (compile_eq_ok_iff.mp h).1 _ rfl, List.append_nil,
    Scan.resume_eq_ok_iff] at hscan
  obtain ⟨more, htext, -⟩ := hscan
  -- The slot of the whole text goes on up to the next brace, which has to close it.
  obtain ⟨ds, rest, rfl, hds, hrest⟩ := exists_braceFree_append tail
  have hfree : BraceFree (body ++ ds) := braceFree_append.mpr ⟨hbody, hds⟩
  rw [← List.append_assoc] at htext
  rcases hrest with rfl | hopen | ⟨after, rfl⟩
  · exact absurd htext (not_patternText_unterminated hfree (.inl rfl))
  · exact absurd htext (not_patternText_unterminated hfree (.inr hopen))
  · obtain ⟨os, -, -, hos, -⟩ := (patternText_slot hfree).mp htext
    exact ⟨ds, os, hos⟩

/-- An atom right behind a group of a slot is reported where it starts, if the text up to the end of
the group is the start of a pattern (there a closing parenthesis in a slot always ends a group). It
is reported as a bad name if it starts with a mark, and else as a part of a malformed group. -/
theorem compile_adjacent_atoms {before : String} {p q : Pattern} (hbefore : compile before = .ok p)
    {body tail : List Char} (hbody : BraceFree body)
    (hq : compile (before ++ String.ofList ('{' :: (body ++ ')' :: tail))) = .ok q)
    {c : Char} (hc : StartsAtom c) {rest : List Char} (hrest : BraceFree rest) (after : List Char) :
    compile (before ++ String.ofList ('{' :: (body ++ ')' :: c :: rest ++ '}' :: after))) =
      .error ⟨if c = '?' then .invalidIdentifier "?" else .malformedGroup,
        before.utf8ByteSize + 1 + utf8Length body + 1⟩ := by
  have hclose : BraceFree (body ++ [')']) := by simp [hbody]
  have htext : body ++ ')' :: tail = body ++ [')'] ++ tail := by simp
  rw [htext] at hq
  obtain ⟨ds, os, hos⟩ := exists_bodyText_append hbefore hclose hq
  rw [List.append_assoc, List.singleton_append] at hos
  have hfree : BraceFree (body ++ ')' :: c :: rest) := by
    simp [hbody, hrest, hc.ne_brace]
  exact compile_slot_eq_error hbefore hfree after (Slot.read_adjacent_atoms hos hc rest)

/-- A name behind a group that is a target. The operator behind it does not matter. -/
theorem compile_adjacent_atoms_name :
    ∃ p q, compile "é\x7bx\x7d" = .ok p ∧ BraceFree ['x', '>', '(', 'a'] ∧
      compile ("é\x7bx\x7d" ++ String.ofList ('{' :: (['x', '>', '(', 'a'] ++ ')' :: ['}']))) =
        .ok q ∧
      StartsAtom 'b' ∧ BraceFree ['>'] ∧
      compile ("é\x7bx\x7d" ++
          String.ofList ('{' :: (['x', '>', '(', 'a'] ++ ')' :: 'b' :: ['>'] ++ '}' :: ['\\']))) =
        .error ⟨.malformedGroup, 11⟩ := by
  have hbefore : compile "é\x7bx\x7d" =
      .ok ⟨[.literal "é", .slot ⟨[⟨[.name "x"], .unconstrained⟩]⟩]⟩ := by decide +kernel
  have hbody : BraceFree ['x', '>', '(', 'a'] := by simp
  have hopen : compile ("é\x7bx\x7d" ++
      String.ofList ('{' :: (['x', '>', '(', 'a'] ++ ')' :: ['}']))) =
      .ok ⟨[.literal "é", .slot ⟨[⟨[.name "x"], .unconstrained⟩]⟩,
        .slot ⟨[⟨[.name "a"], .requires ["x"]⟩]⟩]⟩ := by decide +kernel
  have hname : StartsAtom 'b' := .inr (.inr rfl)
  have hrest : BraceFree ['>'] := by simp
  have hsize : "é\x7bx\x7d".utf8ByteSize = 5 := by decide +kernel
  have herror := compile_adjacent_atoms hbefore hbody hopen hname hrest ['\\']
  rw [hsize] at herror
  exact ⟨_, _, hbefore, hbody, hopen, hname, hrest, herror⟩

/-- A mark behind the group is reported as a bad name. -/
theorem not_compile_adjacent_atoms :
    ¬∀ (before : String) (p q : Pattern) (body tail : List Char) (c : Char)
        (rest after : List Char),
      compile before = .ok p → BraceFree body →
      compile (before ++ String.ofList ('{' :: (body ++ ')' :: tail))) = .ok q →
      StartsAtom c → BraceFree rest →
      compile (before ++ String.ofList ('{' :: (body ++ ')' :: c :: rest ++ '}' :: after))) =
        .error ⟨.malformedGroup, before.utf8ByteSize + 1 + utf8Length body + 1⟩ := by
  intro h
  have hopen : compile "\x7b(a)\x7d" =
      .ok ⟨[.slot ⟨[⟨[.name "a"], .unconstrained⟩]⟩]⟩ := by decide +kernel
  have hnothing : compile "" = .ok ⟨[]⟩ := by decide +kernel
  have hmark := h "" _ _ ['(', 'a'] ['}'] '?' [] [] hnothing (by simp) hopen (.inl rfl) (by simp)
  have hname : compile "\x7b(a)?\x7d" = .error ⟨.invalidIdentifier "?", 4⟩ := by decide +kernel
  cases hname.symm.trans hmark

end Pattern

end SlotPattern
