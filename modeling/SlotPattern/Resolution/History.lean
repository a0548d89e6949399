import SlotPattern.Pattern.Basic

/-!
# What a constraint looks back to

While a pattern is resolved, the names chosen so far are recorded. A constraint looks at all of
them, or only at what the slot drawn last has chosen.
-/

namespace SlotPattern

/-- How far back a constraint looks. -/
inductive Lookback
  /-- To every name chosen before. -/
  | history
  /-- To the name that the slot drawn last has chosen, if it chose one. -/
  | previousSlot
  deriving DecidableEq

/-- A word that is no lookback. -/
structure LookbackError where
  word : String
  deriving DecidableEq

/-- The wording of the error. -/
def LookbackError.message (e : LookbackError) : String :=
  "unknown lookback '" ++ e.word ++ "': expected 'history' or 'previous'"

/-- Reads a lookback by name. -/
def Lookback.ofString (s : String) : Except LookbackError Lookback :=
  if s = "history" then .ok .history
  else if s = "previous" ∨ s = "previous_slot" then .ok .previousSlot
  else .error ⟨s⟩

/-- What has been chosen so far: every name, the latest first, and the choice of the slot drawn
last. -/
structure History where
  chosen : List String
  previous : Option String
  deriving DecidableEq

namespace History

/-- The history before any slot. -/
def empty : History := ⟨[], none⟩

/-- Records the choice of a slot: a name, or none if it drew `?`. -/
def record (h : History) (choice : Option String) : History :=
  ⟨choice.toList ++ h.chosen, choice⟩

/-- The names that a constraint sees. -/
def visible (h : History) : Lookback → List String
  | .history => h.chosen
  | .previousSlot => h.previous.toList

@[simp] theorem visible_empty (lookback : Lookback) : empty.visible lookback = [] := by
  cases lookback <;> rfl

@[simp] theorem visible_history_record (h : History) (choice : Option String) :
    (h.record choice).visible .history = choice.toList ++ h.visible .history := rfl

@[simp] theorem visible_previousSlot_record (h : History) (choice : Option String) :
    (h.record choice).visible .previousSlot = choice.toList := rfl

/-- Does a constraint see the name? -/
def contains (h : History) (lookback : Lookback) (name : String) : Bool :=
  (h.visible lookback).contains name

@[simp] theorem contains_iff_mem_visible {h : History} {lookback : Lookback} {name : String} :
    h.contains lookback name = true ↔ name ∈ h.visible lookback := by
  simp [contains]

/-- Does a constraint see one of the names? -/
def containsAny (h : History) (lookback : Lookback) (names : List String) : Bool :=
  names.any (h.contains lookback)

end History

/-- Is an option with this constraint eligible? -/
def Constraint.isEligible (c : Constraint) (h : History) (lookback : Lookback) : Bool :=
  match c with
  | .unconstrained => true
  | .requires names => h.containsAny lookback names
  | .excludes names => !h.containsAny lookback names

/-- The options of a slot that are eligible. -/
def Slot.eligible (s : Slot) (h : History) (lookback : Lookback) : List SlotOption :=
  s.options.filter fun o => o.constraint.isEligible h lookback

/-- The distinct values of the eligible options, in the order of their declaration. -/
def Slot.candidates (s : Slot) (h : History) (lookback : Lookback) : List Value :=
  ((s.eligible h lookback).flatMap (·.values)).eraseDups

theorem Slot.mem_candidates {s : Slot} {h : History} {lookback : Lookback} {v : Value} :
    v ∈ s.candidates h lookback ↔
      ∃ o ∈ s.options, o.constraint.isEligible h lookback = true ∧ v ∈ o.values := by
  simp [candidates, eligible, and_assoc]

end SlotPattern
