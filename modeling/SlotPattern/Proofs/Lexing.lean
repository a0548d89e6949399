import SlotPattern.Pattern.Lexeme
import SlotPattern.Proofs.Name

/-!
# Tokens and lexemes of a text

How a text that is put together from others is cut into tokens and lexemes, and that nothing of a
text is lost when it is cut.
-/

namespace SlotPattern

/-! ### Tokens -/

/-- How many bytes the text takes in UTF-8. -/
def utf8Length : List Char → Nat
  | [] => 0
  | c :: cs => c.utf8Size + utf8Length cs

@[simp] theorem utf8Length_nil : utf8Length [] = 0 := rfl

@[simp] theorem utf8Length_cons (c : Char) (cs : List Char) :
    utf8Length (c :: cs) = c.utf8Size + utf8Length cs := rfl

@[simp] theorem utf8Length_append (cs ds : List Char) :
    utf8Length (cs ++ ds) = utf8Length cs + utf8Length ds := by
  induction cs with
  | nil => simp
  | cons c cs ih => rw [List.cons_append, utf8Length_cons, utf8Length_cons, ih, Nat.add_assoc]

/-- Behind a character of one byte, a place is counted from the next offset. -/
theorem add_utf8Length_cons {c : Char} (hc : c.utf8Size = 1) (offset : Nat) (cs : List Char) :
    offset + utf8Length (c :: cs) = offset + 1 + utf8Length cs := by
  rw [utf8Length_cons, hc, Nat.add_assoc]

theorem utf8Length_eq_utf8ByteSize (cs : List Char) :
    utf8Length cs = (String.ofList cs).utf8ByteSize := by
  induction cs with
  | nil => rfl
  | cons c cs ih =>
    rw [utf8Length_cons, ih, String.ofList_cons, String.utf8ByteSize_append,
      String.utf8ByteSize_singleton]

theorem tokensFrom_append (offset : Nat) (cs ds : List Char) :
    tokensFrom offset (cs ++ ds) =
      tokensFrom offset cs ++ tokensFrom (offset + utf8Length cs) ds := by
  induction cs generalizing offset with
  | nil => rfl
  | cons c cs ih =>
    rw [List.cons_append, tokensFrom_cons, tokensFrom_cons, ih, utf8Length_cons, Nat.add_assoc,
      List.cons_append]

/-- Every character is that of its token. -/
theorem Token.exists_toChar_eq (c : Char) : ∃ t : Token, t.toChar = c ∧ Token.ofChar c = t :=
  ⟨_, Token.toChar_ofChar c, rfl⟩

/-! ### Symbols and words -/

/-- Is the lexeme a word? -/
def Lexeme.isWord : Lexeme → Bool
  | .word _ => true
  | _ => false

/-- Is the character part of a word wherever it stands in a slot? -/
def IsWordChar (c : Char) : Prop := Token.ofChar c = .char c

theorem isWordChar_of_isInner {c : Char} (h : Name.isInner c = true) : IsWordChar c := by
  unfold IsWordChar Token.ofChar
  -- The special characters may not stand inside an identifier.
  split <;> first | rfl | exact absurd h (by decide)

theorem Name.NameText.isWordChar {cs : List Char} (h : Name.NameText cs) :
    ∀ c ∈ cs, IsWordChar c := by
  intro c hc
  rcases h.char_cases c hc with hc | rfl | rfl
  · exact isWordChar_of_isInner hc
  · rfl
  · rfl

theorem Lexeme.attach_symbol {l : Located Lexeme} (h : l.item.isWord = false)
    (ls : List (Located Lexeme)) : Lexeme.attach l ls = l :: ls := by
  obtain ⟨l, offset⟩ := l
  cases l <;> first | rfl | cases h

/-- A symbol keeps apart what stands before it and what follows. -/
theorem Lexeme.attach_append_symbol (l : Located Lexeme) {s : Located Lexeme}
    (h : s.item.isWord = false) (ls rest : List (Located Lexeme)) :
    Lexeme.attach l (ls ++ s :: rest) = Lexeme.attach l ls ++ s :: rest := by
  obtain ⟨l, offset⟩ := l
  obtain ⟨s, _⟩ := s
  cases ls with
  | nil => cases l <;> cases s <;> first | rfl | cases h
  | cons a ls =>
    obtain ⟨a, _⟩ := a
    cases l <;> cases a <;> rfl

theorem lexemes_append_symbol (ts us : List (Located Token)) {t : Located Token}
    (h : t.item.lexeme.isWord = false) :
    lexemes (ts ++ t :: us) = lexemes ts ++ ⟨t.item.lexeme, t.offset⟩ :: lexemes us := by
  induction ts with
  | nil =>
    rw [List.nil_append, lexemes_cons, Lexeme.attach_symbol h, lexemes_nil, List.nil_append]
  | cons a ts ih =>
    rw [List.cons_append, lexemes_cons, lexemes_cons, ih, Lexeme.attach_append_symbol _ h]

/-! ### The lexemes of a text -/

/-- The lexemes of a text that starts at a given offset. -/
def lexed (offset : Nat) (cs : List Char) : List (Located Lexeme) :=
  lexemes (tokensFrom offset cs)

/-- A symbol in a text is a lexeme of its own. -/
theorem lexed_append_symbol (offset : Nat) (cs ds : List Char) {c : Char}
    (h : (Token.ofChar c).lexeme.isWord = false) :
    lexed offset (cs ++ c :: ds) =
      lexed offset cs ++ ⟨(Token.ofChar c).lexeme, offset + utf8Length cs⟩ ::
        lexed (offset + utf8Length cs + c.utf8Size) ds := by
  rw [lexed, tokensFrom_append, tokensFrom_cons, lexemes_append_symbol _ _ h]
  rfl

theorem lexed_symbol_cons (offset : Nat) (ds : List Char) {c : Char}
    (h : (Token.ofChar c).lexeme.isWord = false) :
    lexed offset (c :: ds) =
      ⟨(Token.ofChar c).lexeme, offset⟩ :: lexed (offset + c.utf8Size) ds :=
  lexed_append_symbol offset [] ds h

/-- Characters of words that touch are one word. -/
theorem lexed_word (offset : Nat) {cs : List Char} (hne : cs ≠ [])
    (h : ∀ c ∈ cs, IsWordChar c) : lexed offset cs = [⟨.word cs, offset⟩] := by
  induction cs generalizing offset with
  | nil => exact absurd rfl hne
  | cons c cs ih =>
    obtain ⟨hc, hcs⟩ := List.forall_mem_cons.mp h
    rw [lexed, tokensFrom_cons, lexemes_cons, hc]
    cases cs with
    | nil => rfl
    | cons d cs =>
      have hrest : lexemes (tokensFrom (offset + c.utf8Size) (d :: cs)) = _ :=
        ih _ (List.cons_ne_nil d cs) hcs
      rw [hrest]
      rfl

/-! ### The text of lexemes -/

/-- The characters of a lexeme. -/
def Lexeme.text : Lexeme → List Char
  | .word text => text
  | .optional => ['?']
  | .openGroup => ['(']
  | .closeGroup => [')']
  | .bar => ['|']
  | .operator op => [op.toChar]
  | .escape => ['\\']
  | .openSlot => ['{']
  | .closeSlot => ['}']

/-- The characters of a row of lexemes. -/
def spelling (ls : List (Located Lexeme)) : List Char :=
  ls.flatMap (·.item.text)

@[simp] theorem spelling_nil : spelling [] = [] := rfl

@[simp] theorem spelling_cons (l : Located Lexeme) (ls : List (Located Lexeme)) :
    spelling (l :: ls) = l.item.text ++ spelling ls := List.flatMap_cons

theorem spelling_attach (l : Located Lexeme) (ls : List (Located Lexeme)) :
    spelling (Lexeme.attach l ls) = l.item.text ++ spelling ls := by
  unfold Lexeme.attach
  split
  · simp [Lexeme.text, *]
  · exact spelling_cons _ _

theorem Token.text_lexeme (t : Token) : t.lexeme.text = [t.toChar] := by
  cases t <;> rfl

/-- A text can be read off its lexemes. -/
@[simp] theorem spelling_lexed (offset : Nat) (cs : List Char) :
    spelling (lexed offset cs) = cs := by
  induction cs generalizing offset with
  | nil => rfl
  | cons c cs ih =>
    have hrest : spelling (lexemes (tokensFrom (offset + c.utf8Size) cs)) = cs := ih _
    rw [lexed, tokensFrom_cons, lexemes_cons, spelling_attach, hrest, Token.text_lexeme,
      Token.toChar_ofChar]
    rfl

end SlotPattern
