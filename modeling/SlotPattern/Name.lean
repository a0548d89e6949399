import SlotPattern.Text.Letters

/-!
# Names

A value name is an identifier, which names the data that it is drawn from, and any number of
subscripts in brackets: `first_name[0]`.
-/

namespace SlotPattern.Name

open Text

/-- May an identifier start with the character? -/
def isStart (c : Char) : Bool :=
  isAlphabetic c || c == '_'

/-- May the character stand inside an identifier or a subscript? -/
def isInner (c : Char) : Bool :=
  isAlphanumeric c || c == '_'

/-- Is the text an identifier? -/
def isIdentifier : List Char → Bool
  | [] => false
  | c :: cs => isStart c && cs.all isInner

/-- Where a reader of subscripts stands: between two of them, right after an opening bracket, or
behind a character inside the brackets. -/
inductive Bracket
  | outside
  | opened
  | inside
  deriving DecidableEq

/-- Moves past a character, if it may stand there. -/
def Bracket.step (b : Bracket) (c : Char) : Option Bracket :=
  match b with
  | .outside => if c = '[' then some .opened else none
  | .opened => if isInner c then some .inside else none
  | .inside => if c = ']' then some .outside else if isInner c then some .inside else none

/-- Is the text a row of subscripts `[…]`, each with something in it? -/
def isSubscripts (cs : List Char) : Bool :=
  cs.foldlM Bracket.step .outside == some .outside

/-- The part of a name before its subscripts. -/
def base (cs : List Char) : List Char :=
  cs.takeWhile (· != '[')

/-- Is the text an identifier with subscripts? -/
def isValueName (cs : List Char) : Bool :=
  isIdentifier (base cs) && isSubscripts (cs.dropWhile (· != '['))

theorem isInner_of_isStart {c : Char} (h : isStart c = true) : isInner c = true := by
  simp only [isStart, isInner, Bool.or_eq_true] at h ⊢
  exact h.imp_left isAlphanumeric_of_isAlphabetic

end SlotPattern.Name
