import SlotPattern.Pattern.Basic
import SlotPattern.Token

/-!
# The canonical text of a pattern

A pattern is written with parentheses only around several values or sources, and with a backslash
before each brace of its literal text.
-/

namespace SlotPattern

/-- Several items with bars between them. -/
def alternatives (items : List (List Char)) : List Char :=
  ['|'].intercalate items

/-- One item bare, or several in parentheses. -/
def atomText (items : List (List Char)) : List Char :=
  if 1 < items.length then '(' :: alternatives items ++ [')'] else alternatives items

/-- The characters of a value. -/
def Value.text : Value → List Char
  | .name text => text.toList
  | .nothing => ['?']

/-- The sources of a constraint and its operator. -/
def Constraint.text : Constraint → List Char
  | .unconstrained => []
  | .requires names => atomText (names.map String.toList) ++ [Operator.requires.toChar]
  | .excludes names => atomText (names.map String.toList) ++ [Operator.excludes.toChar]

/-- The characters of an option. -/
def SlotOption.text (o : SlotOption) : List Char :=
  o.constraint.text ++ atomText (o.values.map Value.text)

/-- The characters of a slot, braces included. -/
def Slot.text (s : Slot) : List Char :=
  '{' :: alternatives (s.options.map SlotOption.text) ++ ['}']

/-- A literal character, with a backslash before a brace. -/
def literalCharText (c : Char) : List Char :=
  if c = '{' ∨ c = '}' then ['\\', c] else [c]

/-- The characters of a segment. -/
def Segment.text : Segment → List Char
  | .literal text => text.toList.flatMap literalCharText
  | .slot s => s.text

/-- The characters of a pattern. -/
def Pattern.text (p : Pattern) : List Char :=
  p.segments.flatMap Segment.text

instance : ToString Value := ⟨fun v => String.ofList v.text⟩

instance : ToString SlotOption := ⟨fun o => String.ofList o.text⟩

instance : ToString Slot := ⟨fun s => String.ofList s.text⟩

instance : ToString Pattern := ⟨fun p => String.ofList p.text⟩

end SlotPattern
