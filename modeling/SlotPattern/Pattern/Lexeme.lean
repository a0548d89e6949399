import SlotPattern.Token

/-!
# Lexemes of a slot

Inside a slot, plain characters that touch form a word, and every symbol stands for itself.
-/

namespace SlotPattern

/-- A word or a symbol in the body of a slot. -/
inductive Lexeme
  | word (text : List Char)
  | optional
  | openGroup
  | closeGroup
  | bar
  | operator (op : Operator)
  | escape
  | openSlot
  | closeSlot
  deriving DecidableEq

/-- The lexeme of one token. -/
def Token.lexeme : Token → Lexeme
  | .optional => .optional
  | .openGroup => .openGroup
  | .closeGroup => .closeGroup
  | .bar => .bar
  | .operator op => .operator op
  | .escape => .escape
  | .char c => .word [c]
  | .openSlot => .openSlot
  | .closeSlot => .closeSlot

/-- Puts a lexeme before others. Two words that come together are one, which starts where the first
does. -/
def Lexeme.attach (l : Located Lexeme) (ls : List (Located Lexeme)) : List (Located Lexeme) :=
  match l.item, ls with
  | .word text, ⟨.word more, _⟩ :: rest => ⟨.word (text ++ more), l.offset⟩ :: rest
  | _, _ => l :: ls

/-- The lexemes of a slot's body. -/
def lexemes (body : List (Located Token)) : List (Located Lexeme) :=
  body.foldr (fun t ls => Lexeme.attach ⟨t.item.lexeme, t.offset⟩ ls) []

@[simp] theorem lexemes_nil : lexemes [] = [] := rfl

@[simp] theorem lexemes_cons (t : Located Token) (body : List (Located Token)) :
    lexemes (t :: body) = Lexeme.attach ⟨t.item.lexeme, t.offset⟩ (lexemes body) := rfl

end SlotPattern
