/-!
# Sets of code points as ascending ranges

A set of code points is given by the closed ranges that make it up, in ascending order.
-/

namespace SlotPattern.Text

/-- Does `n` lie in one of the ranges? They ascend, so the search ends at the first that starts
after `n`. -/
def inRanges (n : Nat) : List (Nat × Nat) → Bool
  | [] => false
  | (lo, hi) :: rest => if n < lo then false else n ≤ hi || inRanges n rest

end SlotPattern.Text
