import SlotPattern.Table
import SlotPattern.Text.Quoted
import SlotPattern.Text.Tenths

/-!
# The variety of a sample

How often each distinct text occurs in a list of samples, the most frequent first.
-/

namespace SlotPattern

/-- Counts one more occurrence of a sample. -/
def countSample (counts : Table Nat) (sample : String) : Table Nat :=
  counts.insert sample ((counts.get? sample).getD 0 + 1)

/-- How often each distinct text occurs in a list of samples. -/
def tally (samples : List String) : Table Nat :=
  samples.foldl countSample .empty

/-- A text, and how often it occurs. -/
structure Frequency where
  text : String
  count : Nat
  deriving DecidableEq

namespace Frequency

/-- Does a row come before another, or is it the same? The greater count comes first, and of equal
counts the smaller text. -/
def before (a b : Frequency) : Bool :=
  b.count < a.count || (a.count == b.count && a.text ≤ b.text)

/-- The texts that have been counted, ranked. -/
def ranking (counts : Table Nat) : List Frequency :=
  (counts.entries.map fun e => ⟨e.1, e.2⟩).mergeSort before

/-- The share of `count` among `total` in percent. -/
def percent (count total : Nat) : Float :=
  count.toFloat / total.toFloat * 100.0

/-- A row of the report on `total` samples. -/
def row (total : Nat) (f : Frequency) : String :=
  Text.flushRight 6 (toString f.count) ++ " " ++
    Text.flushRight 5 (Text.oneDecimal (percent f.count total)) ++ "%  " ++ Text.quote f.text

end Frequency

/-- The report on the variety of a list of samples, as lines. -/
def varietyReport (samples : List String) : List String :=
  let counts := tally samples
  ["", "=== Variety ===", "",
    toString samples.length ++ " samples, " ++ toString counts.size ++ " distinct outputs"] ++
    (Frequency.ranking counts).map (Frequency.row samples.length)

end SlotPattern
