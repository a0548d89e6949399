import SlotPattern.Ron.Text

/-!
# Readers of RON

A reader takes characters from the front of a text, or fails. This module holds the readers of
space, of words and of lists, from which the others are made. White space and comments may stand
between any two parts.
-/

namespace SlotPattern.Ron

/-- A reader takes characters from the front of a text, or fails. -/
abbrev Reader := StateT (List Char) Option

namespace Reader

/-! ### Characters, space and words -/

/-- The next character, if the text has not ended. It is left where it is. -/
def peek : Reader (Option Char) := do
  return (← get).head?

@[simp] theorem run_peek (text : List Char) : peek.run text = some (text.head?, text) := rfl

/-- Takes `n` characters if the text meets a condition, and tells whether it does. -/
def takeIf (n : Nat) (condition : List Char → Bool) : Reader Bool := do
  let text ← get
  if condition text then
    set (text.drop n)
    return true
  else
    return false

@[simp] theorem run_takeIf (n : Nat) (condition : List Char → Bool) (text : List Char) :
    (takeIf n condition).run text =
      some (if condition text then (true, text.drop n) else (false, text)) := by
  cases h : condition text <;> simp [takeIf, h]

/-- Takes the given characters if they come next, and tells whether they do. -/
def accept (cs : List Char) : Reader Bool :=
  takeIf cs.length fun text => text.take cs.length = cs

/-- Takes the given characters, which have to come next. -/
def expect (cs : List Char) : Reader Unit := do
  unless ← accept cs do failure

/-- Where a reader of space stands: between comments, in a line comment, or in a block comment
within `depth` others. -/
inductive Gap
  | blank
  | line
  | block (depth : Nat)

/-- Is the character white space? -/
def isBlank (c : Char) : Bool :=
  c == ' ' || c == '\t' || c == '\n' || c == '\r'

/-- Drops white space and comments. A block comment has to be closed, and a slash has to start a
comment. -/
def dropSpace : Gap → List Char → Option (List Char)
  | .blank, '/' :: '/' :: rest => dropSpace .line rest
  | .blank, '/' :: '*' :: rest => dropSpace (.block 0) rest
  | .blank, '/' :: _ => none
  | .blank, c :: rest => if isBlank c then dropSpace .blank rest else some (c :: rest)
  | .line, '\n' :: rest => dropSpace .blank rest
  | .line, _ :: rest => dropSpace .line rest
  | .block depth, '/' :: '*' :: rest => dropSpace (.block (depth + 1)) rest
  | .block 0, '*' :: '/' :: rest => dropSpace .blank rest
  | .block (depth + 1), '*' :: '/' :: rest => dropSpace (.block depth) rest
  | .block depth, _ :: rest => dropSpace (.block depth) rest
  | .block _, [] => none
  | _, [] => some []

/-- Takes white space and comments. -/
def space : Reader Unit := do
  set (← dropSpace .blank (← get))

@[simp] theorem run_space (text : List Char) :
    space.run text = (dropSpace .blank text).map fun rest => ((), rest) := by
  cases h : dropSpace .blank text <;> simp [space, h]

/-- Takes a comma if one comes next, with the space around it, and tells whether one does. -/
def comma : Reader Bool := do
  space
  if ← accept [','] then
    space
    return true
  else
    return false

/-- May the character start an identifier? -/
def isWordStart (c : Char) : Bool :=
  c.isAlpha || c == '_'

/-- May the character continue an identifier? -/
def isWordInner (c : Char) : Bool :=
  c.isAlphanum || c == '_'

/-- May the character stand in a raw identifier? -/
def isRawInner (c : Char) : Bool :=
  isWordInner c || c == '.' || c == '+' || c == '-'

/-- Splits an identifier off a text, plain or raw (`r#…`). A plain one may not run into a character
that only a raw one can hold. -/
def splitIdentifier? (text : List Char) : Option (List Char × List Char) :=
  match text with
  | 'r' :: '#' :: rest =>
    let word := rest.takeWhile isRawInner
    if word = [] then none else some (word, rest.dropWhile isRawInner)
  | ['r'] => none
  | 'r' :: '"' :: _ => none
  | c :: _ =>
    let word := text.takeWhile isWordInner
    if isWordStart c ∧ word = text.takeWhile isRawInner then
      some (word, text.dropWhile isWordInner)
    else none
  | [] => none

/-- Takes what a splitting function splits off the front of the text. -/
def split {α : Type} (f : List Char → Option (α × List Char)) : Reader α := do
  let (a, rest) ← f (← get)
  set rest
  return a

@[simp] theorem run_split {α : Type} (f : List Char → Option (α × List Char)) (text : List Char) :
    (split f).run text = f text := by
  cases h : f text <;> simp [split, h]

/-- Takes an identifier. -/
def identifier : Reader String :=
  String.ofList <$> split splitIdentifier?

/-- Does the text start with the given word as a whole? -/
def startsWithWord (word text : List Char) : Bool :=
  text.take word.length = word && (text.drop word.length).head?.all fun c => !isWordInner c

/-- Takes the given word if it comes next as a whole, and tells whether it does. -/
def acceptWord (word : List Char) : Reader Bool :=
  takeIf word.length (startsWithWord word)

/-- Takes a text in quotation marks. -/
def text : Reader String :=
  String.ofList <$> split readText

/-- Takes what stands behind the word `Some`: something in parentheses, behind which a comma may
stand. With `implicitSome` the parentheses may be missing. -/
def behindSome {α : Type} (implicitSome : Bool) (inner : Reader α) : Reader α := do
  space
  if ← accept ['('] then
    space
    let a ← inner
    let _ ← comma
    expect [')']
    return a
  else if implicitSome then inner
  else failure

/-! ### Lists -/

/-- Takes items that are separated by commas, up to a closing character. A comma may follow the last
item. Every item takes characters, so the length of the text bounds the number of rounds. -/
def itemsWithin {α : Type} (close : Char) (item : Reader α) : Nat → Reader (List α)
  | 0 => failure
  | rounds + 1 => do
    space
    match ← peek with
    | none => failure
    | some c =>
      if c = close then
        expect [close]
        return []
      else
        let a ← item
        if ← comma then
          return a :: (← itemsWithin close item rounds)
        else
          expect [close]
          return [a]

/-- Takes items that are separated by commas, and the closing character behind them. -/
def items {α : Type} (close : Char) (item : Reader α) : Reader (List α) := do
  itemsWithin close item ((← get).length + 1)

/-- Takes a colon, with the space around it. -/
def colon : Reader Unit := do
  space
  expect [':']
  space

/-- Takes a key and a value with a colon between them. -/
def pair {α β : Type} (key : Reader α) (value : Reader β) : Reader (α × β) := do
  let k ← key
  colon
  return (k, ← value)

end Reader

end SlotPattern.Ron
