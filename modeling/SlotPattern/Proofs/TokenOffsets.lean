import SlotPattern.Proofs.Lexing

/-!
# The places of tokens

Every character of a pattern is one token, and a token stands where its character does: behind the
bytes of the characters before it. So the pattern can be read off its tokens, and their offsets
ascend.
-/

namespace SlotPattern

variable {offset : Nat} {cs : List Char} {t : Located Token}

theorem map_toChar_tokensFrom (offset : Nat) (cs : List Char) :
    (tokensFrom offset cs).map (·.item.toChar) = cs := by
  induction cs generalizing offset with
  | nil => rfl
  | cons c cs ih => rw [tokensFrom_cons, List.map_cons, Token.toChar_ofChar, ih]

/-- A token is the one that its character stands for. -/
theorem ofChar_toChar_of_mem_tokensFrom (h : t ∈ tokensFrom offset cs) :
    Token.ofChar t.item.toChar = t.item := by
  induction cs generalizing offset with
  | nil => cases h
  | cons c cs ih =>
    rcases List.mem_cons.mp h with rfl | h
    · exact congrArg Token.ofChar (Token.toChar_ofChar c)
    · exact ih h

/-! ### Offsets -/

theorem map_offset_tokensFrom (offset : Nat) (cs : List Char) :
    (tokensFrom offset cs).map (·.offset) =
      (List.range cs.length).map fun k => offset + utf8Length (cs.take k) := by
  induction cs generalizing offset with
  | nil => rfl
  | cons c cs ih =>
    rw [tokensFrom_cons, List.map_cons, ih, List.length_cons, List.range_succ_eq_map, List.map_cons,
      List.map_map]
    congr 1
    apply List.map_congr_left
    intro k _
    rw [Function.comp_apply, List.take_succ_cons, utf8Length_cons, Nat.add_assoc]

/-- A token starts within the text. -/
theorem offset_of_mem_tokensFrom (h : t ∈ tokensFrom offset cs) :
    offset ≤ t.offset ∧ t.offset < offset + utf8Length cs := by
  induction cs generalizing offset with
  | nil => cases h
  | cons c cs ih =>
    have hsize := c.utf8Size_pos
    rw [utf8Length_cons]
    rcases List.mem_cons.mp h with rfl | h
    · change offset ≤ offset ∧ offset < _
      omega
    · have hrest := ih h
      omega

theorem pairwise_offset_tokensFrom (offset : Nat) (cs : List Char) :
    (tokensFrom offset cs).Pairwise fun t u => t.offset < u.offset := by
  induction cs generalizing offset with
  | nil => exact .nil
  | cons c cs ih =>
    rw [tokensFrom_cons]
    refine .cons ?_ (ih _)
    intro u hu
    have hbehind := (offset_of_mem_tokensFrom hu).1
    have hsize := c.utf8Size_pos
    change offset < u.offset
    omega

/-- Nothing of a pattern is lost in its tokens, and each of them is the one that its character
stands for. The offset of a token is the number of bytes before it, so the offsets start at zero,
ascend and stay below the number of bytes of the pattern. -/
theorem tokenize_faithful (p : String) :
    String.ofList ((tokenize p).map (·.item.toChar)) = p ∧
      (tokenize p).map (·.offset) =
        ((List.range p.length).map fun k => (String.ofList (p.toList.take k)).utf8ByteSize) ∧
      (∀ t ∈ (tokenize p).head?, t.offset = 0) ∧
      ((tokenize p).Pairwise fun t u => t.offset < u.offset) ∧
      ∀ t ∈ tokenize p, t.offset < p.utf8ByteSize ∧ Token.ofChar t.item.toChar = t.item := by
  refine ⟨?_, ?_, ?_, pairwise_offset_tokensFrom 0 p.toList, ?_⟩
  · rw [tokenize, map_toChar_tokensFrom, String.ofList_toList]
  · rw [tokenize, map_offset_tokensFrom, String.length_toList]
    apply List.map_congr_left
    intro k _
    rw [Nat.zero_add, utf8Length_eq_utf8ByteSize]
  · intro t ht
    rw [tokenize] at ht
    cases hp : p.toList with
    | nil => simp [hp] at ht
    | cons c cs =>
      rw [hp, tokensFrom_cons, List.head?_cons, Option.mem_some] at ht
      rw [← ht]
  · intro t ht
    refine ⟨?_, ofChar_toChar_of_mem_tokensFrom ht⟩
    have hbelow := (offset_of_mem_tokensFrom ht).2
    rwa [Nat.zero_add, utf8Length_eq_utf8ByteSize, String.ofList_toList] at hbelow

/-- The brace stands behind a character of two bytes. -/
theorem tokenize_faithful_behind_two_bytes :
    (⟨.char 'é', 0⟩ : Located Token) ∈ (tokenize "é\x7b").head? ∧
      (⟨.openSlot, 2⟩ : Located Token) ∈ tokenize "é\x7b" ∧
      (tokenize "é\x7b").map (·.offset) = [0, 2] ∧
      (⟨.char 'é', 0⟩ : Located Token).offset = 0 ∧
      2 < "é\x7b".utf8ByteSize ∧ Token.ofChar Token.openSlot.toChar = .openSlot := by
  have hfirst : (⟨.char 'é', 0⟩ : Located Token) ∈ (tokenize "é\x7b").head? := by decide
  have hbrace : (⟨.openSlot, 2⟩ : Located Token) ∈ tokenize "é\x7b" := by decide
  obtain ⟨-, hoffsets, hzero, -, htokens⟩ := tokenize_faithful "é\x7b"
  exact ⟨hfirst, hbrace, hoffsets.trans (by decide), hzero _ hfirst, htokens _ hbrace⟩

end SlotPattern
