import SlotPattern.Pattern.Basic
import SlotPattern.Pattern.Error
import SlotPattern.Pattern.Lexeme
import SlotPattern.Pattern.Printer

/-!
# The body of a slot

The body is cut into options at the bars outside groups. An option is an atom, or a source atom, an
operator and a target atom; an atom is a value or a group of values in parentheses. Each function
here reads its lexemes from left to right and reports the first fault that it meets.
-/

namespace SlotPattern

/-! ### Values -/

/-- Reads a word as a value name; `rest` follows it. A mark `?` right behind the word would be part
of the name. -/
def Value.readName (text : List Char) (offset : Nat) (rest : List (Located Lexeme)) :
    Except ParseError Value :=
  match rest with
  | ⟨.optional, _⟩ :: _ => .error ⟨.invalidIdentifier (String.ofList (text ++ ['?'])), offset⟩
  | _ =>
    if Name.isValueName text then .ok (.name (String.ofList text))
    else .error ⟨.invalidIdentifier (String.ofList text), offset⟩

/-- Reads a mark `?`; `rest` follows it. A word right behind the mark would make it part of a
name. -/
def Value.readNothing (offset : Nat) (rest : List (Located Lexeme)) : Except ParseError Value :=
  match rest with
  | ⟨.word text, _⟩ :: _ => .error ⟨.invalidIdentifier (String.ofList ('?' :: text)), offset⟩
  | _ => .ok .nothing

/-! ### Groups and atoms -/

/-- The distinct values of an atom, and the offset at which it starts. -/
structure Atom where
  values : List Value
  offset : Nat

/-- Reads one member of a group; `rest` follows it. -/
def Value.readMember (l : Located Lexeme) (rest : List (Located Lexeme)) :
    Except ParseError Value :=
  match l.item with
  | .word text => Value.readName text l.offset rest
  | .optional => Value.readNothing l.offset rest
  | .bar | .closeGroup => .error ⟨.emptyGroup, l.offset⟩
  | .escape => .error ⟨.danglingEscape, l.offset⟩
  | .openGroup | .operator _ | .openSlot | .closeSlot => .error ⟨.malformedGroup, l.offset⟩

/-- Reads the members of the group opened at a given offset, up to its closing parenthesis, and
returns them with what is left. -/
def Atom.readGroup (opened : Nat) :
    List (Located Lexeme) → Except ParseError (List Value × List (Located Lexeme))
  | [] => .error ⟨.malformedGroup, opened⟩
  | l :: rest => do
    let v ← Value.readMember l rest
    match rest with
    | [] => .error ⟨.malformedGroup, opened⟩
    | ⟨.bar, _⟩ :: more => do
      let (vs, left) ← Atom.readGroup opened more
      pure (v :: vs, left)
    | ⟨.closeGroup, _⟩ :: left => pure ([v], left)
    | ⟨.escape, offset⟩ :: _ => .error ⟨.danglingEscape, offset⟩
    | ⟨_, offset⟩ :: _ => .error ⟨.malformedGroup, offset⟩

/-- The fault of a lexeme that cannot stand where it does. In the first slot no operator may stand
anywhere. -/
def unexpected (first : Bool) (l : Located Lexeme) : ParseError :=
  match l.item with
  | .operator _ =>
    ⟨if first then .constraintOnFirstSlot else .conflictingConstraintOperators, l.offset⟩
  | .escape => ⟨.danglingEscape, l.offset⟩
  | .optional => ⟨.invalidIdentifier "?", l.offset⟩
  | .openSlot | .closeSlot => ⟨.unterminatedSlot, l.offset⟩
  | .openGroup | .closeGroup | .bar | .word _ => ⟨.malformedGroup, l.offset⟩

/-- Reads an atom of an option that ends at `stop`, and returns it with what is left. Repeated
members of a group count once. -/
def Atom.read (first : Bool) (stop : Nat) :
    List (Located Lexeme) → Except ParseError (Atom × List (Located Lexeme))
  | [] => .error ⟨.emptyOption, stop⟩
  | ⟨.openGroup, offset⟩ :: rest => do
    let (vs, left) ← Atom.readGroup offset rest
    pure (⟨vs.eraseDups, offset⟩, left)
  | ⟨.word text, offset⟩ :: rest => do
    let v ← Value.readName text offset rest
    pure (⟨[v], offset⟩, rest)
  | ⟨.optional, offset⟩ :: rest => do
    let v ← Value.readNothing offset rest
    pure (⟨[v], offset⟩, rest)
  | ⟨.bar, offset⟩ :: _ => .error ⟨.emptyOption, offset⟩
  | l :: _ => .error (unexpected first l)

/-- A value as the source of a constraint: a plain identifier. -/
def Value.source (offset : Nat) (v : Value) : Except ParseError String :=
  match v with
  | .name text =>
    if Name.isIdentifier text.toList then .ok text
    else .error ⟨.invalidIdentifier text, offset⟩
  | .nothing => .error ⟨.invalidIdentifier "?", offset⟩

/-- The names of an atom that stands before an operator. -/
def Atom.sources (a : Atom) : Except ParseError (List String) :=
  a.values.mapM (Value.source a.offset)

/-! ### Options and slots -/

/-- The constraint that an operator puts on its target. -/
def Operator.constraint : Operator → List String → Constraint
  | .requires => .requires
  | .excludes => .excludes

/-- Reads what follows the operator behind the atom `source`. -/
def SlotOption.readTarget (op : Operator) (source : Atom) (stop : Nat)
    (rest : List (Located Lexeme)) : Except ParseError SlotOption :=
  match rest with
  | [] => .error ⟨.danglingConstraint, stop⟩
  | ⟨.operator _, offset⟩ :: _ => .error ⟨.conflictingConstraintOperators, offset⟩
  | _ => do
    let names ← source.sources
    let (target, left) ← Atom.read false stop rest
    match left with
    | [] => pure ⟨target.values, op.constraint names⟩
    | l :: _ => .error (unexpected false l)

/-- Reads the option that `ls` spells and that ends at `stop`. In the first slot a constraint has
nothing to look back to. -/
def SlotOption.read (first : Bool) (stop : Nat) (ls : List (Located Lexeme)) :
    Except ParseError SlotOption :=
  match ls with
  | ⟨.operator _, offset⟩ :: _ =>
    .error ⟨if first then .constraintOnFirstSlot else .danglingConstraint, offset⟩
  | _ => do
    let (a, rest) ← Atom.read first stop ls
    match rest with
    | [] => pure ⟨a.values, .unconstrained⟩
    | ⟨.operator op, offset⟩ :: rest =>
      if first then .error ⟨.constraintOnFirstSlot, offset⟩
      else SlotOption.readTarget op a stop rest
    | l :: _ => .error (unexpected first l)

/-- A part of a slot's body between bars, and the offset of what ends it. -/
structure OptionBody where
  lexemes : List (Located Lexeme)
  stop : Nat

/-- Cuts a body that ends at `stop` at its bars. A bar inside a group belongs to the group:
`grouped` tells whether a parenthesis is open. -/
def OptionBody.cut (stop : Nat) (grouped : Bool) : List (Located Lexeme) → List OptionBody
  | [] => [⟨[], stop⟩]
  | l :: ls =>
    if l.item = .bar ∧ grouped = false then
      ⟨[], l.offset⟩ :: OptionBody.cut stop false ls
    else
      let grouped := match l.item with
        | .openGroup => true
        | .closeGroup => false
        | _ => grouped
      (OptionBody.cut stop grouped ls).modifyHead fun b => ⟨l :: b.lexemes, b.stop⟩

/-- Reads the slot whose body is `ls` and whose closing brace stands at `stop`. -/
def Slot.read (first : Bool) (stop : Nat) (ls : List (Located Lexeme)) :
    Except ParseError Slot := do
  let options ← (OptionBody.cut stop false ls).mapM fun b => SlotOption.read first b.stop b.lexemes
  pure ⟨options⟩

end SlotPattern
