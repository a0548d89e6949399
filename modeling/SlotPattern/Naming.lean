import SlotPattern.Table

/-!
# Sequential names

Instances are named after their kind and numbered within it: `Name0`, `Name1`, `Other0`. The numbers
have 64 bits.
-/

namespace SlotPattern

/-- How many names each kind has been given so far; a kind that is missing has none. -/
structure NamingSequence where
  counters : Table UInt64

namespace NamingSequence

/-- The sequence that has named nothing. -/
def empty : NamingSequence := ⟨.empty⟩

/-- How many names the kind has been given. -/
def count (s : NamingSequence) (kind : String) : UInt64 :=
  (s.counters.get? kind).getD 0

/-- The next name of a kind, and the sequence after it. -/
def next (s : NamingSequence) (kind : String) : String × NamingSequence :=
  (kind ++ toString (s.count kind), ⟨s.counters.insert kind (s.count kind + 1)⟩)

@[simp] theorem count_empty (kind : String) : empty.count kind = 0 := rfl

theorem next_fst (s : NamingSequence) (kind : String) :
    (s.next kind).1 = kind ++ toString (s.count kind) := rfl

theorem count_next (s : NamingSequence) (kind other : String) :
    (s.next kind).2.count other = if other = kind then s.count kind + 1 else s.count other := by
  simp only [next, count, Table.get?_insert]
  split <;> rfl

end NamingSequence

end SlotPattern
