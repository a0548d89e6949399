import SlotPattern.Name

/-!
# Patterns

A pattern is literal text with slots in it. A slot offers options, and an option offers values,
under a constraint on the names that earlier slots chose.
-/

namespace SlotPattern

/-- A value that a slot can take. -/
inductive Value
  /-- A name for which a data source supplies text later. -/
  | name (text : String)
  /-- The mark `?`: the slot renders nothing. -/
  | nothing
  deriving DecidableEq

namespace Value

/-- The name that the value carries. -/
def name? : Value → Option String
  | .name text => some text
  | .nothing => none

@[simp] theorem name?_name (text : String) : (name text).name? = some text := rfl

@[simp] theorem name?_nothing : nothing.name? = none := rfl

/-- The key of the data that the value is drawn from: its name without subscripts. -/
def key? (v : Value) : Option String :=
  v.name?.map fun text => String.ofList (Name.base text.toList)

/-- Is the value the mark `?`? -/
def isNothing : Value → Bool
  | .name _ => false
  | .nothing => true

end Value

/-- When an option is eligible, in terms of the names chosen before. -/
inductive Constraint
  | unconstrained
  /-- One of the sources has been chosen. -/
  | requires (sources : List String)
  /-- None of the sources has been chosen. -/
  | excludes (sources : List String)
  deriving DecidableEq

namespace Constraint

/-- The names that the constraint looks for. -/
def sources : Constraint → List String
  | .unconstrained => []
  | .requires names => names
  | .excludes names => names

/-- Is there a constraint at all? -/
def isConstrained : Constraint → Bool
  | .unconstrained => false
  | _ => true

end Constraint

/-- One of the alternatives of a slot: values that share a constraint. -/
structure SlotOption where
  values : List Value
  constraint : Constraint
  deriving DecidableEq

/-- A place in a pattern that takes one of the values of its options. -/
structure Slot where
  options : List SlotOption
  deriving DecidableEq

/-- The values of all options, in the order in which they are declared. -/
def Slot.values (s : Slot) : List Value :=
  s.options.flatMap (·.values)

/-- A part of a pattern. -/
inductive Segment
  | literal (text : String)
  | slot (slot : Slot)
  deriving DecidableEq

/-- The slot of a segment, if it is one. -/
def Segment.slot? : Segment → Option Slot
  | .literal _ => none
  | .slot s => some s

/-- Literal text and slots, in their order. -/
structure Pattern where
  segments : List Segment
  deriving DecidableEq

namespace Pattern

/-- The slots of a pattern, from left to right. -/
def slots (p : Pattern) : List Slot :=
  p.segments.filterMap Segment.slot?

/-- Every value of every slot, as often as it is declared. -/
def values (p : Pattern) : List Value :=
  p.slots.flatMap Slot.values

/-- The distinct names that the pattern can choose, in the order of their first declaration. -/
def valueNames (p : Pattern) : List String :=
  (p.values.filterMap Value.name?).eraseDups

/-- The distinct keys of the data that the pattern can draw from, in the order of their first
declaration. -/
def keys (p : Pattern) : List String :=
  (p.values.filterMap Value.key?).eraseDups

end Pattern

end SlotPattern
