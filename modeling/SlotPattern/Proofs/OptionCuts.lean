import SlotPattern.Proofs.SlotReading

/-!
# Options in a body

The lexemes of a text can be split only where the text itself can, so the options that a body is cut
into are parts of its text. A body is read option by option: behind options that have been read, the
rest is read as if nothing stood before it, and the first option that cannot be read decides the
error.
-/

namespace SlotPattern

open Grammar

/-! ### Splitting the lexemes of a text -/

/-- Only the first of the other lexemes can become part of the one put before them. -/
theorem Lexeme.attach_append (l : Located Lexeme) {ls : List (Located Lexeme)} (hne : ls ≠ [])
    (rest : List (Located Lexeme)) :
    Lexeme.attach l (ls ++ rest) = Lexeme.attach l ls ++ rest := by
  obtain ⟨a, ls, rfl⟩ := List.exists_cons_of_ne_nil hne
  obtain ⟨l, offset⟩ := l
  obtain ⟨a, _⟩ := a
  cases l <;> cases a <;> rfl

theorem Lexeme.attach_cases (l : Located Lexeme) (ls : List (Located Lexeme)) :
    Lexeme.attach l ls = l :: ls ∨
      ∃ text more place rest, l.item = .word text ∧ ls = ⟨.word more, place⟩ :: rest ∧
        Lexeme.attach l ls = ⟨.word (text ++ more), l.offset⟩ :: rest := by
  unfold Lexeme.attach
  split
  next text more place rest hl => exact .inr ⟨text, more, place, rest, hl, rfl, rfl⟩
  next => exact .inl rfl

theorem isWordChar_of_isWord {c : Char} (h : (Token.ofChar c).lexeme.isWord = true) :
    IsWordChar c := by
  obtain ⟨t, rfl, ht⟩ := Token.exists_toChar_eq c
  rw [IsWordChar]
  rw [ht] at h ⊢
  cases t <;> first | rfl | cases h

theorem lexed_cons (offset : Nat) (c : Char) (cs : List Char) :
    lexed offset (c :: cs) =
      Lexeme.attach ⟨(Token.ofChar c).lexeme, offset⟩ (lexed (offset + c.utf8Size) cs) := by
  rw [lexed, tokensFrom_cons, lexemes_cons]
  rfl

theorem lexed_eq_append {offset : Nat} {cs : List Char} {front back : List (Located Lexeme)}
    (h : lexed offset cs = front ++ back) :
    ∃ as bs, cs = as ++ bs ∧ front = lexed offset as ∧
      back = lexed (offset + utf8Length as) bs := by
  induction cs generalizing offset front with
  | nil =>
    obtain ⟨rfl, rfl⟩ := List.append_eq_nil_iff.mp h.symm
    exact ⟨[], [], rfl, rfl, rfl⟩
  | cons c cs ih =>
    cases front with
    | nil => exact ⟨[], c :: cs, rfl, rfl, h.symm⟩
    | cons l front =>
      rw [lexed_cons] at h
      -- What is in front of the split keeps its lexemes when the rest is taken away.
      have hsplit (front' : List (Located Lexeme))
          (hrest : lexed (offset + c.utf8Size) cs = front' ++ back)
          (hnil : front' = [] → l :: front = [⟨(Token.ofChar c).lexeme, offset⟩]) :
          ∃ as bs, c :: cs = as ++ bs ∧ l :: front = lexed offset as ∧
            back = lexed (offset + utf8Length as) bs := by
        obtain ⟨as, bs, rfl, rfl, hback⟩ := ih hrest
        refine ⟨c :: as, bs, rfl, ?_, by rw [hback, utf8Length_cons, Nat.add_assoc]⟩
        rw [lexed_cons]
        by_cases hne : lexed (offset + c.utf8Size) as = []
        · rw [hnil hne, hne]
          cases (Token.ofChar c).lexeme <;> rfl
        · rw [hrest, Lexeme.attach_append _ hne] at h
          exact (List.append_cancel_right h).symm
      rcases Lexeme.attach_cases ⟨(Token.ofChar c).lexeme, offset⟩
        (lexed (offset + c.utf8Size) cs) with halone | ⟨_, more, place, _, -, hword, hjoined⟩
      · rw [halone] at h
        obtain ⟨rfl, hrest⟩ := List.cons.inj h
        refine hsplit front hrest fun hnil => ?_
        rw [hnil]
      · rw [hjoined] at h
        obtain ⟨rfl, rfl⟩ := List.cons.inj h
        exact hsplit (⟨.word more, place⟩ :: front) hword nofun

/-- Is the lexeme the character, or a word that starts with it? -/
inductive Lexeme.StartsWith (l : Lexeme) (c : Char) : Prop
  | char (h : (Token.ofChar c).lexeme = l)
  | word (hc : IsWordChar c) (hl : l.isWord = true)

/-- May an atom start with the character? -/
def StartsAtom (c : Char) : Prop := c = '?' ∨ c = '(' ∨ IsWordChar c

theorem StartsAtom.ne_brace {c : Char} (h : StartsAtom c) : c ≠ '{' ∧ c ≠ '}' := by
  rcases h with rfl | rfl | hword
  · decide
  · decide
  · constructor <;> rintro rfl <;> cases hword

namespace Lexeme.StartsWith

variable {l : Lexeme} {c : Char}

theorem lexeme_eq_of_symbol (h : l.StartsWith c) (hl : l.isWord = false) :
    (Token.ofChar c).lexeme = l := by
  cases h with
  | char h => exact h
  | word _ hword =>
    rw [hl] at hword
    cases hword

theorem lexeme_eq_of_not_isWordChar (h : l.StartsWith c) (hc : ¬IsWordChar c) :
    (Token.ofChar c).lexeme = l := by
  cases h with
  | char h => exact h
  | word hword _ => exact absurd hword hc

theorem text_eq (h : l.StartsWith c) (hl : l.isWord = false) : l.text = [c] := by
  rw [← h.lexeme_eq_of_symbol hl, Token.text_lexeme, Token.toChar_ofChar]

theorem eq_of_text {d : Char} (h : l.StartsWith c) (hl : l.isWord = false) (hd : l.text = [d]) :
    c = d := by
  rw [h.text_eq hl] at hd
  exact (List.cons.inj hd).1

theorem startsAtom (h : l.StartsWith c) (hl : l.opensAtom = true) : StartsAtom c := by
  cases h with
  | word hc _ => exact .inr (.inr hc)
  | char h =>
    obtain ⟨t, rfl, ht⟩ := Token.exists_toChar_eq c
    rw [← h, ht] at hl
    cases t with
    | optional => exact .inl rfl
    | openGroup => exact .inr (.inl rfl)
    | char c => exact .inr (.inr ht)
    | _ => cases hl

end Lexeme.StartsWith

/-- The first lexeme of a text stands where the text does. It is the first character, or a word that
starts with it. -/
theorem exists_char_of_lexed_eq_cons {offset : Nat} {cs : List Char} {l : Located Lexeme}
    {rest : List (Located Lexeme)} (h : lexed offset cs = l :: rest) :
    ∃ c ds, cs = c :: ds ∧ l.offset = offset ∧ l.item.StartsWith c := by
  cases cs with
  | nil => cases h
  | cons c ds =>
    refine ⟨c, ds, rfl, ?_⟩
    rw [lexed_cons] at h
    rcases Lexeme.attach_cases ⟨(Token.ofChar c).lexeme, offset⟩
      (lexed (offset + c.utf8Size) ds) with halone | ⟨text, _, _, _, htext, -, hjoined⟩
    · rw [halone] at h
      cases h
      exact ⟨rfl, .char rfl⟩
    · rw [hjoined] at h
      cases h
      refine ⟨rfl, .word (isWordChar_of_isWord ?_) rfl⟩
      rw [show (Token.ofChar c).lexeme = .word text from htext]
      rfl

theorem lexed_cons_ne_nil (offset : Nat) (c : Char) (cs : List Char) :
    lexed offset (c :: cs) ≠ [] := by
  intro hnil
  have htext := spelling_lexed offset (c :: cs)
  rw [hnil] at htext
  cases htext

/-- A symbol at the start of a text is its first character. -/
theorem exists_cons_of_lexed_eq_symbol {offset place : Nat} {cs : List Char} {item : Lexeme}
    {rest : List (Located Lexeme)} (hitem : item.isWord = false)
    (h : lexed offset cs = ⟨item, place⟩ :: rest) :
    ∃ c ds, cs = c :: ds ∧ item.text = [c] ∧ place = offset ∧
      rest = lexed (offset + c.utf8Size) ds := by
  obtain ⟨c, ds, rfl, rfl, hc⟩ := exists_char_of_lexed_eq_cons h
  have hsymbol : (Token.ofChar c).lexeme.isWord = false := hc.lexeme_eq_of_symbol hitem ▸ hitem
  rw [lexed_symbol_cons _ _ hsymbol] at h
  exact ⟨c, ds, rfl, hc.text_eq hitem, rfl, (List.cons.inj h).2.symm⟩

theorem exists_cons_of_lexed_eq_operator {offset place : Nat} {cs : List Char} {op : Operator}
    {rest : List (Located Lexeme)} (h : lexed offset cs = ⟨.operator op, place⟩ :: rest) :
    ∃ ds, cs = op.toChar :: ds ∧ place = offset := by
  obtain ⟨c, ds, rfl, hc, hplace, -⟩ := exists_cons_of_lexed_eq_symbol rfl h
  obtain rfl : op.toChar = c := (List.cons.inj hc).1
  exact ⟨ds, rfl, hplace⟩

/-! ### The first option of a body -/

namespace OptionBody

/-- The first option that is cut from a body ends at the first bar outside groups, or with the
body. -/
theorem exists_cut (stop : Nat) (grouped : Bool) (ls : List (Located Lexeme)) :
    ∃ b bs, cut stop grouped ls = b :: bs ∧ (∃ after, passAll grouped b.lexemes = some after) ∧
      ((ls = b.lexemes ∧ b.stop = stop ∧ bs = []) ∨
        ∃ rest, ls = b.lexemes ++ ⟨.bar, b.stop⟩ :: rest ∧ bs = cut stop false rest) := by
  induction ls generalizing grouped with
  | nil => exact ⟨⟨[], stop⟩, [], rfl, ⟨grouped, rfl⟩, .inl ⟨rfl, rfl, rfl⟩⟩
  | cons l ls ih =>
    cases hpass : l.item.pass grouped with
    | none =>
      obtain ⟨item, offset⟩ := l
      obtain ⟨rfl, rfl⟩ := Lexeme.eq_bar_of_pass_eq_none hpass
      exact ⟨⟨[], offset⟩, cut stop false ls, cut_bar stop offset ls, ⟨false, rfl⟩,
        .inr ⟨ls, rfl, rfl⟩⟩
    | some after =>
      obtain ⟨b, bs, hcut, ⟨last, hb⟩, hends⟩ := ih after
      refine ⟨b.prepend [l], bs, ?_, ⟨last, ?_⟩, ?_⟩
      · rw [cut_pass stop hpass, hcut, List.modifyHead_cons]
      · exact Option.bind_eq_some_iff.mpr ⟨after, hpass, hb⟩
      · rcases hends with ⟨rfl, hstop, rfl⟩ | ⟨rest, rfl, rfl⟩
        · exact .inl ⟨rfl, hstop, rfl⟩
        · exact .inr ⟨rest, rfl, rfl⟩

/-- What can be passed in front of a lexeme that is no bar is in the first option with it. -/
theorem exists_cut_append {front rest : List (Located Lexeme)} {l : Located Lexeme}
    (hfront : passAll false front = some false) (hl : l.item ≠ .bar) (stop : Nat) :
    ∃ stop' more bs, cut stop false (front ++ l :: rest) = ⟨front ++ l :: more, stop'⟩ :: bs := by
  obtain ⟨⟨ls, stop'⟩, bs, hcut, -, hends⟩ := exists_cut stop false (l :: rest)
  obtain ⟨more, rfl⟩ : ∃ more, ls = l :: more := by
    cases ls with
    | nil =>
      rcases hends with ⟨hnil, -⟩ | ⟨_, hbar, -⟩
      · cases hnil
      · cases hbar
        exact absurd rfl hl
    | cons l' more =>
      obtain rfl : l = l' := by
        rcases hends with ⟨hls, -⟩ | ⟨_, hls, -⟩ <;> exact (List.cons.inj hls).1
      exact ⟨more, rfl⟩
  exact ⟨stop', more, bs, by rw [cut_append stop hfront, hcut, List.modifyHead_cons]; rfl⟩

theorem exists_cut_lexed (stop offset : Nat) (cs : List Char) :
    ∃ option stop' bs, cut stop false (lexed offset cs) = ⟨lexed offset option, stop'⟩ :: bs ∧
      (∃ after, passAll false (lexed offset option) = some after) ∧
      ((cs = option ∧ stop' = stop ∧ bs = []) ∨
        ∃ rest, cs = option ++ '|' :: rest ∧ stop' = offset + utf8Length option ∧
          bs = cut stop false (lexed (offset + utf8Length option + 1) rest)) := by
  obtain ⟨⟨ls, stop'⟩, bs, hcut, hpass, ⟨hls, hstop, rfl⟩ | ⟨rest, hls, rfl⟩⟩ :=
    exists_cut stop false (lexed offset cs)
  · dsimp only at hls hstop hpass
    subst hls hstop
    exact ⟨cs, stop', [], hcut, hpass, .inl ⟨rfl, rfl, rfl⟩⟩
  · obtain ⟨option, ds, rfl, hoption, hds⟩ := lexed_eq_append hls
    dsimp only at hoption hpass
    subst hoption
    obtain ⟨c, rest, rfl, hc, rfl, rfl⟩ := exists_cons_of_lexed_eq_symbol rfl hds.symm
    cases hc
    exact ⟨option, _, _, hcut, hpass, .inr ⟨rest, rfl, rfl, rfl⟩⟩

end OptionBody

/-! ### Where options start -/

namespace Grammar

/-- A text of a body behind which an option starts: nothing, or options and a bar. -/
inductive OptionStart (first : Bool) : List Char → Prop
  | opening : OptionStart first []
  | bar {cs : List Char} {os : List SlotOption} (h : BodyText first cs os) :
      OptionStart first (cs ++ ['|'])

theorem OptionStart.cons {first : Bool} {cs lead : List Char} {o : SlotOption}
    (h : OptionText first cs o) (hlead : OptionStart first lead) :
    OptionStart first (cs ++ '|' :: lead) := by
  cases hlead with
  | opening => exact .bar (.one h)
  | @bar ds os hds =>
    rw [← List.cons_append, ← List.append_assoc]
    exact .bar (.more h hds)

theorem AlternativesText.snoc {α : Type} {R : List Char → α → Prop} {cs ds : List Char}
    {as : List α} {a : α} (h : AlternativesText R cs as) (ha : R ds a) :
    AlternativesText R (cs ++ '|' :: ds) (as ++ [a]) := by
  induction h with
  | one h => exact .more h (.one ha)
  | more h _ ih =>
    rw [List.append_assoc, List.cons_append, List.cons_append]
    exact .more h ih

/-- Where an option starts, an option makes a body. -/
theorem OptionStart.bodyText {first : Bool} {lead cs : List Char} {o : SlotOption}
    (hlead : OptionStart first lead) (h : OptionText first cs o) :
    ∃ os, BodyText first (lead ++ cs) os := by
  cases hlead with
  | opening => exact ⟨[o], .one h⟩
  | @bar ds os hds =>
    rw [List.append_assoc]
    exact ⟨os ++ [o], hds.snoc h⟩

/-- Before the last option of a body an option starts. -/
theorem exists_last_option {first : Bool} {cs : List Char} {os : List SlotOption}
    (h : BodyText first cs os) :
    ∃ lead option o, cs = lead ++ option ∧ OptionStart first lead ∧ OptionText first option o := by
  induction h with
  | @one cs o h => exact ⟨[], cs, o, rfl, .opening, h⟩
  | @more cs ds o os h _ ih =>
    obtain ⟨lead, option, o, rfl, hlead, hoption⟩ := ih
    exact ⟨cs ++ '|' :: lead, option, o, by simp, hlead.cons h, hoption⟩

end Grammar

/-! ### The characters of options -/

namespace Grammar

theorem MemberText.char_cases {cs : List Char} {v : Value} (h : MemberText cs v) :
    ∀ c ∈ cs, IsWordChar c ∨ c = '?' := by
  cases h with
  | name h => exact fun c hc => .inl (h.isWordChar c hc)
  | nothing => exact fun c hc => .inr (List.mem_singleton.mp hc)

theorem groupText_char_cases {cs : List Char} {vs : List Value}
    (h : AlternativesText MemberText cs vs) : ∀ c ∈ cs, IsWordChar c ∨ c = '?' ∨ c = '|' :=
  h.forall_mem (fun h c hc => (h.char_cases c hc).imp_right .inl) (.inr (.inr rfl))

end Grammar

/-! ### The first option that cannot be read -/

theorem mapM_cons_eq_error_iff {ε α β : Type} {f : α → Except ε β} {a : α} {as : List α} {e : ε} :
    (a :: as).mapM f = .error e ↔ f a = .error e ∨ ∃ b, f a = .ok b ∧ as.mapM f = .error e := by
  rw [List.mapM_cons]
  cases f a with
  | error e' => simp [bind, Except.bind]
  | ok b => cases as.mapM f <;> simp [bind, Except.bind, pure, Except.pure]

theorem mapM_cons_eq_error_of_ok {ε α β : Type} {f : α → Except ε β} {a : α} {b : β} {as : List α}
    {e : ε} (h : f a = .ok b) : (a :: as).mapM f = .error e ↔ as.mapM f = .error e := by
  rw [mapM_cons_eq_error_iff, h]
  simp

theorem Slot.read_eq_error_iff {first : Bool} {stop : Nat} {ls : List (Located Lexeme)}
    {e : ParseError} :
    Slot.read first stop ls = .error e ↔
      (OptionBody.cut stop false ls).mapM (fun b => SlotOption.read first b.stop b.lexemes) =
        .error e := by
  rw [Slot.read]
  cases (OptionBody.cut stop false ls).mapM fun b => SlotOption.read first b.stop b.lexemes <;>
    simp [bind, Except.bind, pure, Except.pure]

/-- Options in front of a body do not change its error. -/
theorem Slot.read_optionStart_eq_error_iff {first : Bool} {lead cs : List Char} {e : ParseError}
    (h : OptionStart first lead) (stop offset : Nat) :
    Slot.read first stop (lexed offset (lead ++ cs)) = .error e ↔
      Slot.read first stop (lexed (offset + utf8Length lead) cs) = .error e := by
  cases h with
  | opening => exact Iff.rfl
  | @bar ds os h =>
    rw [Slot.read_eq_error_iff, Slot.read_eq_error_iff]
    induction h generalizing offset with
    | @one ds o h =>
      rw [List.append_assoc, List.singleton_append, OptionBody.cut_optionText h,
        utf8Length_append, ← Nat.add_assoc]
      exact mapM_cons_eq_error_of_ok (read_optionText h _ offset)
    | @more ds es o os h _ ih =>
      have hlength : offset + utf8Length (ds ++ '|' :: es ++ ['|']) =
          offset + utf8Length ds + 1 + utf8Length (es ++ ['|']) := by
        rw [List.append_assoc, List.cons_append, utf8Length_append, ← Nat.add_assoc,
          add_utf8Length_cons rfl]
      rw [hlength, ← ih, List.append_assoc, List.append_assoc, List.cons_append,
        ← List.append_assoc, OptionBody.cut_optionText h]
      exact mapM_cons_eq_error_of_ok (read_optionText h _ offset)

/-- An option that cannot be read, whatever follows it, is an error of the body that starts with
it. -/
theorem Slot.read_eq_error_of_option {first : Bool} {stop : Nat}
    {front rest : List (Located Lexeme)} {l : Located Lexeme} {e : ParseError}
    (hfront : passAll false front = some false) (hl : l.item ≠ .bar)
    (h : ∀ stop' more, SlotOption.read first stop' (front ++ l :: more) = .error e) :
    Slot.read first stop (front ++ l :: rest) = .error e := by
  obtain ⟨stop', more, bs, hcut⟩ := OptionBody.exists_cut_append hfront hl stop
  rw [Slot.read_eq_error_iff, hcut, mapM_cons_eq_error_iff]
  exact .inl (h stop' more)

/-- The error of a body is that of its first option that cannot be read. This option ends at a bar
or with the body, and all of its own bars are in groups. -/
theorem Slot.exists_option_of_read_eq_error {first : Bool} {stop offset : Nat} {cs : List Char}
    {e : ParseError} (h : Slot.read first stop (lexed offset cs) = .error e) :
    ∃ lead option rest stop', cs = lead ++ (option ++ rest) ∧ OptionStart first lead ∧
      (∃ after, passAll false (lexed (offset + utf8Length lead) option) = some after) ∧
      ((rest = [] ∧ stop' = stop) ∨
        (∃ ds, rest = '|' :: ds) ∧ stop' = offset + utf8Length (lead ++ option)) ∧
      SlotOption.read first stop' (lexed (offset + utf8Length lead) option) = .error e := by
  obtain ⟨option, stop', bs, hcut, hpass, hends⟩ := OptionBody.exists_cut_lexed stop offset cs
  rw [Slot.read_eq_error_iff, hcut, mapM_cons_eq_error_iff] at h
  rcases h with h | ⟨o, ho, h⟩
  · rcases hends with ⟨rfl, hstop, -⟩ | ⟨rest, rfl, hstop, -⟩
    · exact ⟨[], cs, [], stop', (List.append_nil cs).symm, .opening, hpass, .inl ⟨rfl, hstop⟩, h⟩
    · exact ⟨[], option, _, stop', rfl, .opening, hpass, .inr ⟨⟨rest, rfl⟩, hstop⟩, h⟩
  · -- The first option has been read, so the error is that of the body behind its bar.
    have hoption : OptionText first option o := spelling_lexed offset option ▸ optionText_of_read ho
    rcases hends with ⟨-, -, rfl⟩ | ⟨rest, rfl, -, rfl⟩
    · cases h
    rw [← Slot.read_eq_error_iff] at h
    obtain ⟨lead, option', rest', stop'', rfl, hlead, hpass', hends', hread⟩ :=
      exists_option_of_read_eq_error h
    have hplace (ds : List Char) : offset + utf8Length (option ++ '|' :: ds) =
        offset + utf8Length option + 1 + utf8Length ds := by
      rw [utf8Length_append, ← Nat.add_assoc, add_utf8Length_cons rfl]
    refine ⟨option ++ '|' :: lead, option', rest', stop'', by simp, hlead.cons hoption, ?_, ?_, ?_⟩
    · rw [hplace]
      exact hpass'
    · rw [List.append_assoc, List.cons_append, hplace]
      exact hends'
    · rw [hplace]
      exact hread
termination_by cs.length
decreasing_by simp_all; omega

end SlotPattern
