import SlotPattern.Ron.Number

/-!
# Data in RON

A datum that nobody asks for is passed over, but it has to be one: a number, a text, a character, a
truth value, something optional, a name, a list, a map, or a tuple or a record with or without a
name. Data may nest to a fixed depth only.
-/

namespace SlotPattern.Ron

namespace Reader

/-- Drops what a function drops from the front of the text, and tells whether it drops anything. -/
def dropIf (f : List Char → Option (List Char)) : Reader Bool := do
  match f (← get) with
  | some rest => do
    set rest
    return true
  | none => return false

@[simp] theorem run_dropIf (f : List Char → Option (List Char)) (text : List Char) :
    (dropIf f).run text = some (match f text with
      | some rest => (true, rest)
      | none => (false, text)) := by
  cases h : f text <;> simp [dropIf, h]

/-- Does a record follow an opening parenthesis, and not a tuple? A record starts with an identifier
and a colon. -/
def startsRecord (text : List Char) : Option Bool :=
  match splitIdentifier? text with
  | none => some false
  | some (_, rest) => do return (← (← dropSpace .blank rest).head?) == ':'

/-- Passes over a tuple or a record, behind its opening parenthesis. -/
def composite (member : Reader Unit) : Reader Unit := do
  space
  if ← startsRecord (← get) then
    let _ ← items ')' (pair identifier member)
  else
    let _ ← items ')' member

/-- Passes over a datum that starts with neither a word nor a number. Only with a reader of members
may it be composite. -/
def bare (member? : Option (Reader Unit)) : Reader Unit := do
  match ← peek with
  | some '(' => do
    expect ['(']
    composite (← member?)
  | some '[' => do
    expect ['[']
    let _ ← items ']' (← member?)
  | some '{' => do
    expect ['{']
    let member ← member?
    let _ ← items '}' (pair member member)
  | some '\'' => do
    let _ ← split readChar
  | _ => do
    let _ ← text

/-- Passes over a datum. What stands behind `Some` is read by `inner`, and the members of a
composite datum by `member?`. With `implicitSome` the parentheses behind `Some` may be missing. -/
def datumWith (implicitSome : Bool) (inner : Reader Unit) (member? : Option (Reader Unit)) :
    Reader Unit := do
  if ← acceptWord "true".toList then return ()
  else if ← acceptWord "false".toList then return ()
  else if ← acceptWord "Some".toList then behindSome implicitSome inner
  else if ← acceptWord "None".toList then return ()
  else if ← accept "()".toList then return ()
  else if ← dropIf dropNumber? then return ()
  else if ← dropIf (fun text => (splitIdentifier? text).map (·.2)) then
    space
    if ← accept ['('] then composite (← member?)
  else bare member?

/-- Passes over a datum that may nest `depth` deep. A composite datum costs one level, each of its
members another, and `Some` one. -/
def datum (implicitSome : Bool) : Nat → Reader Unit
  | 0 => datumWith implicitSome failure none
  | 1 => datumWith implicitSome (datum implicitSome 0) (some failure)
  | depth + 2 =>
    datumWith implicitSome (datum implicitSome (depth + 1)) (some (datum implicitSome depth))

end Reader

end SlotPattern.Ron
