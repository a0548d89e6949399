import SlotPattern.Pattern.Printer

/-!
# Warnings about a pattern

A pattern may be valid and yet not do what its author meant: a slot may never show anything, or a
constraint may make no difference. A constraint makes no difference when none of its sources is a
value of an earlier slot.
-/

namespace SlotPattern

/-- Something about a pattern that is valid but probably not meant. Slots are counted from zero. -/
inductive Warning
  | noSlots
  /-- Every value of the slot is `?`. -/
  | rendersNothing (slot : Nat)
  /-- Every option of the slot has a constraint. -/
  | mayRenderNothing (slot : Nat)
  /-- The option requires a name that cannot have been chosen. -/
  | neverEligible (slot : Nat) (option : SlotOption)
  /-- The option excludes only names that cannot have been chosen. -/
  | alwaysEligible (slot : Nat) (option : SlotOption)
  deriving DecidableEq

/-- The wording of a warning. -/
def Warning.message : Warning → String
  | .noSlots => "pattern has no slots"
  | .rendersNothing i => "slot " ++ toString i ++ " can only render nothing"
  | .mayRenderNothing i =>
    "slot " ++ toString i ++ " has no unconstrained option and may render nothing"
  | .neverEligible i o =>
    "slot " ++ toString i ++ ": no source of '" ++ toString o ++
      "' appears in an earlier slot, so it is never eligible"
  | .alwaysEligible i o =>
    "slot " ++ toString i ++ ": no source of '" ++ toString o ++
      "' appears in an earlier slot, so it is always eligible"

/-- The names among the values of a slot. -/
def Slot.names (s : Slot) : List String :=
  s.values.filterMap Value.name?

/-- The warning about an option of slot `i`, when earlier slots have the names `earlier`. -/
def SlotOption.lint (i : Nat) (earlier : List String) (o : SlotOption) : Option Warning :=
  if o.constraint.sources.any earlier.contains then none
  else
    match o.constraint with
    | .unconstrained => none
    | .requires _ => some (.neverEligible i o)
    | .excludes _ => some (.alwaysEligible i o)

/-- The warning about slot `i` as a whole. -/
def Slot.lint (i : Nat) (s : Slot) : Option Warning :=
  if s.values.all Value.isNothing then some (.rendersNothing i)
  else if s.options.all (·.constraint.isConstrained) then some (.mayRenderNothing i)
  else none

/-- The warnings about the slots from number `i` on, when the slots before have the names `earlier`.
-/
def lintSlots (i : Nat) (earlier : List String) : List Slot → List Warning
  | [] => []
  | s :: rest =>
    (s.lint i).toList ++ s.options.filterMap (SlotOption.lint i earlier) ++
      lintSlots (i + 1) (earlier ++ s.names) rest

/-- The warnings about a pattern: for each slot the one about the slot first, then those about its
options. -/
def Pattern.lint (p : Pattern) : List Warning :=
  (if p.slots = [] then [.noSlots] else []) ++ lintSlots 0 [] p.slots

end SlotPattern
