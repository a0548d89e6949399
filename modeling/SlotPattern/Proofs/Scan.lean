import SlotPattern.Proofs.SlotReading

/-!
# Scanning a pattern

A scan passes one token at a time. Here it is described in larger steps, from one place in literal
text to the next: past a character, an escape or a whole slot, or to the fault that stops it. Every
text has one of the shapes that these steps need, so proofs about scans go by induction on the shape
of the text.
-/

namespace SlotPattern

open Grammar

/-! ### Shapes of a text -/

/-- What a text starts with, and the same of what follows it. -/
inductive TextShape : List Char → Prop
  | nil : TextShape []
  | plain {c : Char} {cs : List Char} (hc : IsPlain c) (rest : TextShape cs) : TextShape (c :: cs)
  | escaped {c : Char} {cs : List Char} (hc : c = '{' ∨ c = '}') (rest : TextShape cs) :
      TextShape ('\\' :: c :: cs)
  | dangling {cs : List Char} (hcs : ∀ c ∈ cs.head?, c ≠ '{' ∧ c ≠ '}') : TextShape ('\\' :: cs)
  | unmatched {cs : List Char} : TextShape ('}' :: cs)
  | slot {body cs : List Char} (hbody : BraceFree body) (rest : TextShape cs) :
      TextShape ('{' :: (body ++ '}' :: cs))
  | unterminated {body cs : List Char} (hbody : BraceFree body)
      (hcs : cs = [] ∨ ∃ ds, cs = '{' :: ds) : TextShape ('{' :: (body ++ cs))

/-- A text is free of braces up to the first of them. -/
theorem exists_braceFree_append (cs : List Char) :
    ∃ body rest, cs = body ++ rest ∧ BraceFree body ∧
      (rest = [] ∨ (∃ ds, rest = '{' :: ds) ∨ ∃ ds, rest = '}' :: ds) := by
  induction cs with
  | nil => exact ⟨[], [], rfl, braceFree_nil, .inl rfl⟩
  | cons c cs ih =>
    by_cases hopen : c = '{'
    · exact ⟨[], _, rfl, braceFree_nil, .inr (.inl ⟨cs, by rw [hopen]⟩)⟩
    by_cases hclose : c = '}'
    · exact ⟨[], _, rfl, braceFree_nil, .inr (.inr ⟨cs, by rw [hclose]⟩)⟩
    obtain ⟨body, rest, rfl, hbody, hrest⟩ := ih
    exact ⟨c :: body, rest, rfl, braceFree_cons.mpr ⟨⟨hopen, hclose⟩, hbody⟩, hrest⟩

/-- Every text has a shape. -/
theorem textShape (cs : List Char) : TextShape cs := by
  match cs with
  | [] => exact .nil
  | c :: cs =>
    by_cases hescape : c = '\\'
    · subst hescape
      match cs with
      | [] => exact .dangling fun _ h => by cases h
      | d :: cs =>
        by_cases hd : d = '{' ∨ d = '}'
        · exact .escaped hd (textShape cs)
        · refine .dangling fun e he => ?_
          cases he
          exact not_or.mp hd
    by_cases hclose : c = '}'
    · subst hclose
      exact .unmatched
    by_cases hopen : c = '{'
    · subst hopen
      obtain ⟨body, rest, hcs, hbody, hrest⟩ := exists_braceFree_append cs
      rw [hcs]
      rcases hrest with rfl | hrest | ⟨ds, rfl⟩
      · exact .unterminated hbody (.inl rfl)
      · exact .unterminated hbody (.inr hrest)
      · exact .slot hbody (textShape ds)
    · exact .plain ⟨hopen, hclose, hescape⟩ (textShape cs)
termination_by cs.length
decreasing_by
  · simp only [List.length_cons]
    omega
  · simp only [hcs, List.length_cons, List.length_append]
    omega
  · simp

namespace Scan

/-! ### Large steps -/

/-- The items of a pattern whose scan has come to `s` and goes on with the text `cs`. -/
def resume (s : Scan) (offset : Nat) (cs : List Char) : Except ParseError (List Item) :=
  (tokensFrom offset cs).foldlM step s >>= finish

/-- The scan in literal text behind the given items, the latest first. -/
def inText (found : List Item) : Scan := ⟨.text, found⟩

/-- Is the next slot the first one behind these items? -/
def isFirst (found : List Item) : Bool := !found.any Item.isSlot

@[simp] theorem isFirst_nil : isFirst [] = true := rfl

@[simp] theorem isFirst_char (c : Char) (found : List Item) :
    isFirst (.char c :: found) = isFirst found := rfl

@[simp] theorem isFirst_slot (s : Slot) (found : List Item) :
    isFirst (.slot s :: found) = false := rfl

theorem run_tokenize (text : String) : run (tokenize text) = (inText []).resume 0 text.toList := rfl

theorem resume_nil (found : List Item) (offset : Nat) :
    (inText found).resume offset [] = .ok found.reverse := rfl

theorem resume_cons (s : Scan) (offset : Nat) (c : Char) (cs : List Char) :
    s.resume offset (c :: cs) =
      s.step ⟨.ofChar c, offset⟩ >>= fun s => s.resume (offset + c.utf8Size) cs := by
  rw [resume, tokensFrom_cons, List.foldlM_cons, bind_assoc]
  rfl

theorem step_inText_plain (found : List Item) (offset : Nat) {c : Char} (hc : IsPlain c) :
    (inText found).step ⟨.ofChar c, offset⟩ = .ok (inText (.char c :: found)) := by
  obtain ⟨t, rfl, ht⟩ := Token.exists_toChar_eq c
  rw [ht]
  obtain ⟨hopen, hclose, hescape⟩ := hc
  cases t <;> first | rfl | exact absurd rfl hopen | exact absurd rfl hclose |
    exact absurd rfl hescape

theorem resume_plain (found : List Item) (offset : Nat) {c : Char} (hc : IsPlain c)
    (cs : List Char) :
    (inText found).resume offset (c :: cs) =
      (inText (.char c :: found)).resume (offset + c.utf8Size) cs := by
  rw [resume_cons, step_inText_plain found offset hc, ok_bind]

theorem resume_escaped (found : List Item) (offset : Nat) {c : Char} (hc : c = '{' ∨ c = '}')
    (cs : List Char) :
    (inText found).resume offset ('\\' :: c :: cs) =
      (inText (.char c :: found)).resume (offset + 2) cs := by
  rcases hc with rfl | rfl <;> rfl

theorem resume_unmatched (found : List Item) (offset : Nat) (cs : List Char) :
    (inText found).resume offset ('}' :: cs) = .error ⟨.unmatchedBrace, offset⟩ := rfl

theorem resume_dangling (found : List Item) (offset : Nat) {cs : List Char}
    (hcs : ∀ c ∈ cs.head?, c ≠ '{' ∧ c ≠ '}') :
    (inText found).resume offset ('\\' :: cs) = .error ⟨.danglingEscape, offset⟩ := by
  cases cs with
  | nil => rfl
  | cons c cs =>
    obtain ⟨hopen, hclose⟩ := hcs c rfl
    have hstep : (⟨.escaped offset, found⟩ : Scan).step ⟨.ofChar c, offset + 1⟩ =
        .error ⟨.danglingEscape, offset⟩ := by
      obtain ⟨t, rfl, ht⟩ := Token.exists_toChar_eq c
      rw [ht]
      cases t <;> first | rfl | exact absurd rfl hopen | exact absurd rfl hclose
    rw [resume_cons]
    exact (resume_cons _ _ _ _).trans (congrArg (· >>= _) hstep)

/-- A scan collects the body of a slot up to the next brace. -/
theorem resume_body (found : List Item) (opened offset : Nat) (before : List (Located Token))
    {body : List Char} (hbody : BraceFree body) (cs : List Char) :
    (⟨.slot opened before, found⟩ : Scan).resume offset (body ++ cs) =
      (⟨.slot opened ((tokensFrom offset body).reverse ++ before), found⟩ : Scan).resume
        (offset + utf8Length body) cs := by
  induction body generalizing offset before with
  | nil => rfl
  | cons c body ih =>
    obtain ⟨⟨hopen, hclose⟩, hbody⟩ := braceFree_cons.mp hbody
    have hstep : (⟨.slot opened before, found⟩ : Scan).step ⟨.ofChar c, offset⟩ =
        .ok ⟨.slot opened (⟨.ofChar c, offset⟩ :: before), found⟩ := by
      obtain ⟨t, rfl, ht⟩ := Token.exists_toChar_eq c
      rw [ht]
      cases t <;> first | rfl | exact absurd rfl hopen | exact absurd rfl hclose
    rw [List.cons_append, resume_cons, hstep, ok_bind, ih _ _ hbody, tokensFrom_cons,
      List.reverse_cons, List.append_assoc, List.singleton_append, utf8Length_cons, Nat.add_assoc]

theorem resume_slot (found : List Item) (offset : Nat) {body : List Char}
    (hbody : BraceFree body) (cs : List Char) :
    (inText found).resume offset ('{' :: (body ++ '}' :: cs)) =
      Slot.read (isFirst found) (offset + 1 + utf8Length body) (lexed (offset + 1) body) >>=
        fun s => (inText (.slot s :: found)).resume (offset + 1 + utf8Length body + 1) cs := by
  have hopen : (inText found).resume offset ('{' :: (body ++ '}' :: cs)) =
      (⟨.slot offset [], found⟩ : Scan).resume (offset + 1) (body ++ '}' :: cs) := rfl
  rw [hopen, resume_body _ _ _ _ hbody, List.append_nil, resume_cons]
  simp only [step, List.reverse_reverse]
  exact bind_assoc _ _ _

theorem resume_unterminated (found : List Item) (offset : Nat) {body cs : List Char}
    (hbody : BraceFree body) (hcs : cs = [] ∨ ∃ ds, cs = '{' :: ds) :
    (inText found).resume offset ('{' :: (body ++ cs)) = .error ⟨.unterminatedSlot, offset⟩ := by
  have hopen : (inText found).resume offset ('{' :: (body ++ cs)) =
      (⟨.slot offset [], found⟩ : Scan).resume (offset + 1) (body ++ cs) := rfl
  rw [hopen, resume_body _ _ _ _ hbody]
  rcases hcs with rfl | ⟨ds, rfl⟩ <;> rfl

/-! ### Scans and the grammar -/

/-- A scan succeeds on exactly the texts of the grammar, and finds the items that they stand for. -/
theorem resume_eq_ok_iff {cs : List Char} {found items : List Item} {offset : Nat} :
    (inText found).resume offset cs = .ok items ↔
      ∃ more, PatternText (isFirst found) cs more ∧ items = found.reverse ++ more := by
  induction textShape cs generalizing found offset with
  | nil =>
    rw [resume_nil, Except.ok.injEq]
    simp [eq_comm]
  | @plain c cs hc _ ih =>
    simp only [resume_plain _ _ hc, ih, patternText_plain hc, isFirst_char]
    constructor
    · rintro ⟨more, hmore, rfl⟩
      exact ⟨_, ⟨more, rfl, hmore⟩, by simp⟩
    · rintro ⟨_, ⟨more, rfl, hmore⟩, rfl⟩
      exact ⟨more, hmore, by simp⟩
  | @escaped c cs hc _ ih =>
    simp only [resume_escaped _ _ hc, ih, patternText_escaped hc, isFirst_char]
    constructor
    · rintro ⟨more, hmore, rfl⟩
      exact ⟨_, ⟨more, rfl, hmore⟩, by simp⟩
    · rintro ⟨_, ⟨more, rfl, hmore⟩, rfl⟩
      exact ⟨more, hmore, by simp⟩
  | dangling hcs =>
    rw [resume_dangling _ _ hcs]
    simp [not_patternText_dangling hcs]
  | unmatched =>
    rw [resume_unmatched]
    simp [not_patternText_unmatched]
  | @slot body cs hbody _ ih =>
    simp only [resume_slot _ _ hbody, bind_eq_ok_iff, read_eq_ok_iff, ih, patternText_slot hbody]
    constructor
    · rintro ⟨s, hs, more, hmore, rfl⟩
      exact ⟨_, ⟨s.options, more, rfl, hs, hmore⟩, by simp⟩
    · rintro ⟨_, ⟨options, more, rfl, hs, hmore⟩, rfl⟩
      exact ⟨⟨options⟩, hs, more, hmore, by simp⟩
  | unterminated hbody hcs =>
    rw [resume_unterminated _ _ hbody hcs]
    simp [not_patternText_unterminated hbody hcs]

end Scan

end SlotPattern
