/-!
# Faults of a pattern text

What can be wrong with the text of a pattern, and where it shows.
-/

namespace SlotPattern

/-- What is wrong with the text of a pattern. -/
inductive Fault
  | unterminatedSlot
  | unmatchedBrace
  | emptyGroup
  | emptyOption
  | invalidIdentifier (text : String)
  | constraintOnFirstSlot
  | conflictingConstraintOperators
  | danglingConstraint
  | danglingEscape
  | malformedGroup
  deriving DecidableEq

/-- The wording of a fault. -/
def Fault.message : Fault → String
  | .unterminatedSlot => "unterminated parameter slot"
  | .unmatchedBrace => "unmatched closing brace"
  | .emptyGroup => "empty group"
  | .emptyOption => "empty option"
  | .invalidIdentifier text => "invalid identifier '" ++ text ++ "'"
  | .constraintOnFirstSlot => "the first slot of a pattern cannot contain a constraint"
  | .conflictingConstraintOperators => "constraint operators must be separated by a value"
  | .danglingConstraint => "constraint operator is missing its source or its target"
  | .danglingEscape => "a backslash must be followed by a brace"
  | .malformedGroup => "malformed group syntax"

/-- A fault, and the byte offset of the character at which it was found. -/
structure ParseError where
  fault : Fault
  offset : Nat
  deriving DecidableEq

/-- The wording of an error. -/
def ParseError.message (e : ParseError) : String :=
  e.fault.message ++ " at offset " ++ toString e.offset

end SlotPattern
