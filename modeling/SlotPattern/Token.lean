/-!
# Tokens

Every character of a pattern is a token of its own: a symbol with a meaning, or a plain character.
A token carries the byte offset at which it stands.
-/

namespace SlotPattern

/-- The two constraint operators. -/
inductive Operator
  /-- `>`: eligible only after one of the sources. -/
  | requires
  /-- `~`: eligible only without any of the sources. -/
  | excludes
  deriving DecidableEq

/-- The symbol of an operator. -/
def Operator.toChar : Operator → Char
  | .requires => '>'
  | .excludes => '~'

/-- What a character of a pattern stands for. -/
inductive Token
  | openSlot
  | closeSlot
  | openGroup
  | closeGroup
  | bar
  | operator (op : Operator)
  | escape
  | optional
  | char (c : Char)
  deriving DecidableEq

namespace Token

/-- The token of a character. -/
def ofChar (c : Char) : Token :=
  match c with
  | '{' => .openSlot
  | '}' => .closeSlot
  | '(' => .openGroup
  | ')' => .closeGroup
  | '|' => .bar
  | '>' => .operator .requires
  | '~' => .operator .excludes
  | '\\' => .escape
  | '?' => .optional
  | c => .char c

/-- The character of a token. -/
def toChar : Token → Char
  | .openSlot => '{'
  | .closeSlot => '}'
  | .openGroup => '('
  | .closeGroup => ')'
  | .bar => '|'
  | .operator op => op.toChar
  | .escape => '\\'
  | .optional => '?'
  | .char c => c

@[simp] theorem toChar_ofChar (c : Char) : (ofChar c).toChar = c := by
  unfold ofChar
  split <;> rfl

/-- Is the token a constraint operator? -/
def isOperator : Token → Bool
  | .operator _ => true
  | _ => false

end Token

/-- Something found in a pattern, and the byte offset at which it starts. -/
structure Located (α : Type) where
  item : α
  offset : Nat
  deriving DecidableEq

/-- The tokens of a text that starts at a given offset. -/
def tokensFrom (offset : Nat) : List Char → List (Located Token)
  | [] => []
  | c :: cs => ⟨.ofChar c, offset⟩ :: tokensFrom (offset + c.utf8Size) cs

@[simp] theorem tokensFrom_nil (offset : Nat) : tokensFrom offset [] = [] := rfl

@[simp] theorem tokensFrom_cons (offset : Nat) (c : Char) (cs : List Char) :
    tokensFrom offset (c :: cs) = ⟨.ofChar c, offset⟩ :: tokensFrom (offset + c.utf8Size) cs := rfl

/-- The tokens of a pattern, one for each character. -/
def tokenize (pattern : String) : List (Located Token) :=
  tokensFrom 0 pattern.toList

end SlotPattern
