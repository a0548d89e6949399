/-!
# Unsigned numbers in decimal

A number is read from decimal digits with at most one plus sign before them, and has to fit in 64
bits. The first fault from the left is reported.
-/

namespace SlotPattern.Text

/-- Why a text is not an unsigned number of 64 bits. -/
inductive DecimalError
  | empty
  | invalidDigit
  | tooLarge
  deriving DecidableEq

/-- The wording of the fault. -/
def DecimalError.message : DecimalError → String
  | .empty => "cannot parse integer from empty string"
  | .invalidDigit => "invalid digit found in string"
  | .tooLarge => "number too large to fit in target type"

/-- The number whose digits are those of `n` followed by `c`. -/
def appendDigit (n : Nat) (c : Char) : Except DecimalError Nat :=
  if c.isDigit then
    let next := 10 * n + (c.toNat - '0'.toNat)
    if next < UInt64.size then .ok next else .error .tooLarge
  else
    .error .invalidDigit

/-- Reads an unsigned number of 64 bits. A plus sign may stand before the digits, but not alone. -/
def readUnsigned (s : String) : Except DecimalError UInt64 :=
  match s.toList with
  | [] => .error .empty
  | ['+'] => .error .invalidDigit
  | '+' :: digits => UInt64.ofNat <$> digits.foldlM appendDigit 0
  | digits => UInt64.ofNat <$> digits.foldlM appendDigit 0

end SlotPattern.Text
