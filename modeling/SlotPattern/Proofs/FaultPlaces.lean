import SlotPattern.Proofs.OptionCuts

/-!
# Where faults of values and atoms are reported

A fault is reported at one of the lexemes that are read, or at the end of an option where an atom is
missing. Which lexemes a fault can be about depends on its kind, and the text of a bad name starts
where the name is reported.
-/

namespace SlotPattern

open Grammar

variable {ε α β : Type}

/-! ### Where a sequence fails -/

theorem bind_eq_error_iff {x : Except ε α} {f : α → Except ε β} {e : ε} :
    x >>= f = .error e ↔ x = .error e ∨ ∃ a, x = .ok a ∧ f a = .error e := by
  cases x <;> simp [bind, Except.bind]

/-! ### What a fault is about -/

/-- Can the fault be about the lexeme, with the given text behind it? A brace too many is no fault
of a slot's body. -/
def Fault.Concerns : Fault → Lexeme → List Char → Prop
  | .emptyGroup, l, _ => l = .bar ∨ l = .closeGroup
  | .emptyOption, l, _ => l = .bar
  | .invalidIdentifier name, l, after =>
    l.opensAtom = true ∧ Name.isIdentifier name.toList = false ∧ name.toList <+: l.text ++ after
  | .constraintOnFirstSlot, l, _ => ∃ op, l = .operator op
  | .conflictingConstraintOperators, l, _ => ∃ op, l = .operator op
  | .danglingConstraint, l, _ => l = .bar ∨ ∃ op, l = .operator op
  | .danglingEscape, l, _ => l = .escape
  | .malformedGroup, l, _ => l ≠ .bar ∧ l ≠ .escape
  | .unterminatedSlot, l, _ => l = .openSlot ∨ l = .closeSlot
  | .unmatchedBrace, _, _ => False

/-- The error is reported at one of the lexemes, which its fault can be about. -/
def ParseError.PointsInto (e : ParseError) (ls : List (Located Lexeme)) : Prop :=
  ∃ front l rest, ls = front ++ l :: rest ∧ e.offset = l.offset ∧
    e.fault.Concerns l.item (spelling rest)

/-- The error is reported at one of the lexemes, or at the end of what they spell, where an option
or the target of a constraint is missing. -/
def ParseError.PointsUpTo (e : ParseError) (stop : Nat) (ls : List (Located Lexeme)) : Prop :=
  e.PointsInto ls ∨ (e.offset = stop ∧ (e.fault = .emptyOption ∨ e.fault = .danglingConstraint))

section PointsInto

variable {e : ParseError} {stop : Nat} {l : Located Lexeme} {ls rest : List (Located Lexeme)}

theorem Fault.Concerns.append {fault : Fault} {item : Lexeme} {after : List Char}
    (h : fault.Concerns item after) (more : List Char) : fault.Concerns item (after ++ more) := by
  cases fault with
  | invalidIdentifier name =>
    obtain ⟨hopens, hname, hstart⟩ := h
    exact ⟨hopens, hname, hstart.trans ⟨more, List.append_assoc ..⟩⟩
  | _ => exact h

theorem ParseError.PointsInto.mono (h : e.PointsInto ls) (hpart : ls <:+: rest) :
    e.PointsInto rest := by
  obtain ⟨front, l, back, rfl, hoffset, hfault⟩ := h
  obtain ⟨before, after, rfl⟩ := hpart
  refine ⟨before ++ front, l, back ++ after, by simp, hoffset, ?_⟩
  rw [spelling, List.flatMap_append]
  exact hfault.append _

theorem ParseError.PointsUpTo.mono (h : e.PointsUpTo stop ls) (hpart : ls <:+: rest) :
    e.PointsUpTo stop rest :=
  h.imp_left fun h => h.mono hpart

theorem ParseError.PointsInto.head {fault : Fault} (h : fault.Concerns l.item (spelling rest)) :
    ParseError.PointsInto ⟨fault, l.offset⟩ (l :: rest) :=
  ⟨[], l, rest, rfl, rfl, h⟩

theorem ParseError.PointsInto.cons (h : e.PointsInto rest) (l : Located Lexeme) :
    e.PointsInto (l :: rest) :=
  h.mono (List.suffix_cons l rest).isInfix

/-! ### Values -/

theorem isIdentifier_eq_false_of_not_isInner {cs : List Char} {c : Char} (hc : c ∈ cs)
    (hinner : Name.isInner c = false) : Name.isIdentifier cs = false := by
  rw [Bool.eq_false_iff, ne_eq, Name.isIdentifier_iff]
  intro h
  rw [h.isInner c hc] at hinner
  cases hinner

theorem isIdentifier_eq_false_of_not_isValueName {cs : List Char}
    (h : Name.isValueName cs = false) : Name.isIdentifier cs = false := by
  rw [Bool.eq_false_iff, ne_eq, Name.isIdentifier_iff]
  intro hplain
  rw [Name.isValueName_iff.mpr hplain.nameText] at h
  cases h

/-- A bad name is the word, or the word and the mark behind it. -/
theorem readName_eq_error {text : List Char} {offset : Nat}
    (h : Value.readName text offset rest = .error e) :
    e.PointsInto (⟨.word text, offset⟩ :: rest) ∧ ∃ name, e.fault = .invalidIdentifier name := by
  unfold Value.readName at h
  split at h
  next mark rest =>
    cases h
    refine ⟨.head ⟨rfl, ?_, ?_⟩, _, rfl⟩
    · rw [String.toList_ofList]
      exact isIdentifier_eq_false_of_not_isInner (List.mem_append_right _ List.mem_cons_self) rfl
    · rw [String.toList_ofList, spelling_cons, ← List.append_assoc]
      exact List.prefix_append _ _
  next =>
    split at h
    · cases h
    next hname =>
      cases h
      refine ⟨.head ⟨rfl, ?_, ?_⟩, _, rfl⟩
      · rw [String.toList_ofList]
        exact isIdentifier_eq_false_of_not_isValueName (Bool.eq_false_iff.mpr hname)
      · rw [String.toList_ofList]
        exact List.prefix_append _ _

/-- A bad name that starts with a mark is the mark and the word behind it. -/
theorem readNothing_eq_error {offset : Nat} (h : Value.readNothing offset rest = .error e) :
    e.PointsInto (⟨.optional, offset⟩ :: rest) ∧ ∃ name, e.fault = .invalidIdentifier name := by
  unfold Value.readNothing at h
  split at h
  next text place rest =>
    cases h
    refine ⟨.head ⟨rfl, ?_, ?_⟩, _, rfl⟩
    · rw [String.toList_ofList]
      exact isIdentifier_eq_false_of_not_isInner List.mem_cons_self rfl
    · rw [String.toList_ofList, spelling_cons]
      exact List.prefix_append _ _
  next => cases h

theorem readMember_eq_error (h : Value.readMember l rest = .error e) :
    e.PointsInto (l :: rest) ∧ e.fault ≠ .constraintOnFirstSlot := by
  obtain ⟨item, offset⟩ := l
  cases item with
  | word text =>
    obtain ⟨hpoints, name, hname⟩ := readName_eq_error h
    exact ⟨hpoints, hname ▸ nofun⟩
  | optional =>
    obtain ⟨hpoints, name, hname⟩ := readNothing_eq_error h
    exact ⟨hpoints, hname ▸ nofun⟩
  | bar =>
    cases h
    exact ⟨.head (.inl rfl), nofun⟩
  | closeGroup =>
    cases h
    exact ⟨.head (.inr rfl), nofun⟩
  | escape =>
    cases h
    exact ⟨.head rfl, nofun⟩
  | openGroup | operator | openSlot | closeSlot =>
    cases h
    exact ⟨.head ⟨nofun, nofun⟩, nofun⟩

/-! ### Groups and atoms -/

/-- A fault of a group is reported at its opening parenthesis or behind it. None is about
constraints. -/
theorem readGroup_eq_error {opened : Nat} {ls : List (Located Lexeme)}
    (h : Atom.readGroup opened ls = .error e) :
    (e = ⟨.malformedGroup, opened⟩ ∨ e.PointsInto ls) ∧ e.fault ≠ .constraintOnFirstSlot := by
  induction ls using Atom.readGroup.induct with
  | case1 =>
    cases h
    exact ⟨.inl rfl, by simp⟩
  | case2 l rest ih =>
    rw [Atom.readGroup, bind_eq_error_iff] at h
    rcases h with h | ⟨v, -, h⟩
    · exact (readMember_eq_error h).imp_left .inr
    · split at h
      · cases h
        exact ⟨.inl rfl, by simp⟩
      next offset more =>
        rcases bind_eq_error_iff.mp h with h | ⟨_, -, h⟩
        · exact (ih h).imp_left (.imp_right fun h => (h.cons _).cons l)
        · cases h
      · cases h
      next offset left =>
        cases h
        have hhead : ParseError.PointsInto ⟨.danglingEscape, offset⟩ (⟨.escape, offset⟩ :: left) :=
          .head rfl
        exact ⟨.inr (hhead.cons l), by simp⟩
      next item offset left hbar hclose hescape =>
        cases h
        have hhead : ParseError.PointsInto ⟨.malformedGroup, offset⟩ (⟨item, offset⟩ :: left) :=
          .head ⟨hbar, hescape⟩
        exact ⟨.inr (hhead.cons l), by simp⟩

/-- In front of an operator an atom of the first slot is not what is wrong with it. -/
theorem Atom.read_eq_error {first : Bool} {ls : List (Located Lexeme)}
    (h : Atom.read first stop ls = .error e) :
    e.PointsUpTo stop ls ∧
      (e.fault = .constraintOnFirstSlot →
        ∃ op offset rest, ls = ⟨.operator op, offset⟩ :: rest) := by
  match ls with
  | [] =>
    cases h
    exact ⟨.inr ⟨rfl, .inl rfl⟩, nofun⟩
  | ⟨.openGroup, offset⟩ :: rest =>
    rcases bind_eq_error_iff.mp h with h | ⟨_, -, h⟩
    · obtain ⟨rfl | h, hne⟩ := readGroup_eq_error h
      · exact ⟨.inl (.head ⟨nofun, nofun⟩), nofun⟩
      · exact ⟨.inl (h.cons _), fun heq => absurd heq hne⟩
    · cases h
  | ⟨.word text, offset⟩ :: rest =>
    rcases bind_eq_error_iff.mp h with h | ⟨_, -, h⟩
    · obtain ⟨hpoints, name, hname⟩ := readName_eq_error h
      exact ⟨.inl hpoints, hname ▸ nofun⟩
    · cases h
  | ⟨.optional, offset⟩ :: rest =>
    rcases bind_eq_error_iff.mp h with h | ⟨_, -, h⟩
    · obtain ⟨hpoints, name, hname⟩ := readNothing_eq_error h
      exact ⟨.inl hpoints, hname ▸ nofun⟩
    · cases h
  | ⟨.operator op, offset⟩ :: rest =>
    cases h
    refine ⟨.inl (.head ?_), fun _ => ⟨op, offset, rest, rfl⟩⟩
    cases first <;> exact ⟨op, rfl⟩
  | ⟨.escape, offset⟩ :: rest | ⟨.bar, offset⟩ :: rest =>
    cases h
    exact ⟨.inl (.head rfl), nofun⟩
  | ⟨.closeGroup, offset⟩ :: rest =>
    cases h
    exact ⟨.inl (.head ⟨nofun, nofun⟩), nofun⟩
  | ⟨.openSlot, offset⟩ :: rest =>
    cases h
    exact ⟨.inl (.head (.inl rfl)), nofun⟩
  | ⟨.closeSlot, offset⟩ :: rest =>
    cases h
    exact ⟨.inl (.head (.inr rfl)), nofun⟩

/-! ### What an atom leaves -/

theorem pass_of_readMember {v : Value} (h : Value.readMember l rest = .ok v) (grouped : Bool) :
    l.item.pass grouped = some grouped := by
  obtain ⟨item, offset⟩ := l
  cases item with
  | word | optional => rfl
  | _ => cases h

theorem readGroup_eq_ok {opened : Nat} {ls left : List (Located Lexeme)} {vs : List Value}
    (h : Atom.readGroup opened ls = .ok (vs, left)) :
    ∃ front, ls = front ++ left ∧ passAll true front = some false := by
  induction ls using Atom.readGroup.induct generalizing vs with
  | case1 => cases h
  | case2 l rest ih =>
    obtain ⟨v, hv, ⟨offset, more, _, rfl, hmore, -⟩ | ⟨offset, rfl, -⟩⟩ := readGroup_cons h
    · obtain ⟨front, rfl, hfront⟩ := ih hmore
      refine ⟨l :: ⟨.bar, offset⟩ :: front, rfl, ?_⟩
      exact Option.bind_eq_some_iff.mpr ⟨true, pass_of_readMember hv true, hfront⟩
    · refine ⟨[l, ⟨.closeGroup, offset⟩], rfl, ?_⟩
      exact Option.bind_eq_some_iff.mpr ⟨true, pass_of_readMember hv true, rfl⟩

/-- An atom starts with its first lexeme, and its bars are all in its group. -/
theorem Atom.read_eq_ok {first : Bool} {left : List (Located Lexeme)} {a : Atom}
    (h : Atom.read first stop ls = .ok (a, left)) :
    ∃ l front, ls = l :: front ++ left ∧ a.offset = l.offset ∧
      passAll false (l :: front) = some false := by
  match ls with
  | [] => cases h
  | ⟨.openGroup, offset⟩ :: rest =>
    obtain ⟨⟨vs, left'⟩, hvs, h⟩ := bind_eq_ok_iff.mp h
    cases h
    obtain ⟨front, rfl, hfront⟩ := readGroup_eq_ok hvs
    exact ⟨_, front, rfl, rfl, hfront⟩
  | ⟨.word text, offset⟩ :: rest | ⟨.optional, offset⟩ :: rest =>
    obtain ⟨v, -, h⟩ := bind_eq_ok_iff.mp h
    cases h
    exact ⟨_, [], rfl, rfl, rfl⟩
  | ⟨.closeGroup, _⟩ :: _ | ⟨.bar, _⟩ :: _ | ⟨.operator _, _⟩ :: _ | ⟨.escape, _⟩ :: _
  | ⟨.openSlot, _⟩ :: _ | ⟨.closeSlot, _⟩ :: _ => cases h

/-- What an atom leaves is a part of what it was read from. -/
theorem Atom.left_part {first : Bool} {left : List (Located Lexeme)} {a : Atom}
    (h : Atom.read first stop ls = .ok (a, left)) : left <:+: ls := by
  obtain ⟨l, front, rfl, -, -⟩ := Atom.read_eq_ok h
  exact (List.suffix_append _ _).isInfix

theorem Atom.passAll_left {first after : Bool} {left : List (Located Lexeme)} {a : Atom}
    (h : Atom.read first stop ls = .ok (a, left)) (hpass : passAll false ls = some after) :
    passAll false left = some after := by
  obtain ⟨l, front, rfl, -, hfront⟩ := Atom.read_eq_ok h
  rw [passAll_append, hfront] at hpass
  exact hpass

theorem ne_bar_of_passAll {after : Bool} (h : passAll false (l :: rest) = some after) :
    l.item ≠ .bar := by
  intro hbar
  obtain ⟨_, hl, -⟩ := Option.bind_eq_some_iff.mp h
  dsimp only at hl
  rw [hbar] at hl
  cases hl

/-- What has been read as an atom is the text of one. -/
theorem Atom.read_lexed_eq_ok {first : Bool} {offset : Nat} {cs : List Char} {a : Atom}
    (h : Atom.read first stop (lexed offset cs) = .ok (a, rest)) :
    ∃ as bs, cs = as ++ bs ∧ AtomText as a.values ∧ a.offset = offset ∧
      rest = lexed (offset + utf8Length as) bs := by
  obtain ⟨l, front, hsplit, hoffset, -⟩ := Atom.read_eq_ok h
  obtain ⟨as, bs, rfl, hfront, rfl⟩ := lexed_eq_append hsplit
  obtain ⟨-, -, -, hl, -⟩ := exists_char_of_lexed_eq_cons hfront.symm
  obtain ⟨ds, hds, hatom⟩ := atomText_of_read h
  rw [spelling_lexed, spelling_lexed, List.append_cancel_right_eq] at hds
  exact ⟨as, bs, rfl, hds ▸ hatom, hoffset.trans hl, rfl⟩

theorem unexpected_pointsInto {first : Bool} (hl : l.item ≠ .bar) (rest : List (Located Lexeme)) :
    (unexpected first l).PointsInto (l :: rest) := by
  obtain ⟨item, offset⟩ := l
  cases item with
  | operator op => cases first <;> exact .head ⟨op, rfl⟩
  | escape => exact .head rfl
  | optional => exact .head ⟨rfl, rfl, List.prefix_append ['?'] _⟩
  | openGroup | closeGroup | word => exact .head ⟨nofun, nofun⟩
  | openSlot => exact .head (.inl rfl)
  | closeSlot => exact .head (.inr rfl)
  | bar => exact absurd rfl hl

/-- Where only an operator may follow an atom, no bar does, so what follows can be reported. -/
theorem unexpected_pointsInto_of_read {first after : Bool} {a : Atom}
    (h : Atom.read first stop ls = .ok (a, l :: rest)) (hpass : passAll false ls = some after) :
    (unexpected first l).PointsInto ls :=
  (unexpected_pointsInto (ne_bar_of_passAll (Atom.passAll_left h hpass)) rest).mono
    (Atom.left_part h)

end PointsInto

/-! ### Where lexemes stand -/

/-- An error that is reported at a lexeme is reported at a character of the text. The lexeme is this
character, or a word that starts with it. -/
theorem ParseError.PointsInto.exists_char {e : ParseError} {offset : Nat} {cs : List Char}
    (h : e.PointsInto (lexed offset cs)) :
    ∃ before c after item behind, cs = before ++ c :: after ∧
      e.offset = offset + utf8Length before ∧ item.text ++ behind = c :: after ∧
      item.StartsWith c ∧ e.fault.Concerns item behind := by
  obtain ⟨front, l, rest, hsplit, hoffset, hfault⟩ := h
  obtain ⟨before, ds, rfl, -, hds⟩ := lexed_eq_append hsplit
  obtain ⟨c, after, rfl, hplace, hchar⟩ := exists_char_of_lexed_eq_cons hds.symm
  refine ⟨before, c, after, l.item, spelling rest, rfl, hoffset.trans hplace, ?_, hchar, hfault⟩
  rw [← spelling_cons, hds, spelling_lexed]

end SlotPattern
