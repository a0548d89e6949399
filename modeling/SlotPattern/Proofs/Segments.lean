import Mathlib.Data.List.Chain
import SlotPattern.Pattern.Parser

/-!
# Items and segments

A pattern can be taken apart into the characters of its literal text and its slots. Putting these
together again merges the characters that touch, and there is only one pattern in which they are
merged: no literal is empty, and none stands next to another.
-/

namespace SlotPattern

/-- Is the segment literal text? -/
def Segment.isLiteral : Segment → Bool
  | .literal _ => true
  | .slot _ => false

/-- The items of a segment. -/
def Segment.items : Segment → List Item
  | .literal text => text.toList.map .char
  | .slot s => [.slot s]

/-- At most one of two neighbouring segments is literal text. -/
def Segment.Apart (a b : Segment) : Prop := ¬(a.isLiteral = true ∧ b.isLiteral = true)

namespace Pattern

/-- The items of a pattern. -/
def items (p : Pattern) : List Item :=
  p.segments.flatMap Segment.items

/-- Literal text that touches is one literal. -/
structure Merged (p : Pattern) : Prop where
  nonempty : ∀ text, .literal text ∈ p.segments → text ≠ ""
  apart : p.segments.IsChain Segment.Apart

theorem apart_slot_left (s : Slot) (b : Segment) : Segment.Apart (.slot s) b := by
  rintro ⟨h, -⟩
  cases h

theorem apart_slot_right (a : Segment) (s : Slot) : Segment.Apart a (.slot s) := by
  rintro ⟨-, h⟩
  cases h

theorem isChain_slot_cons {s : Slot} {segments : List Segment} :
    (Segment.slot s :: segments).IsChain Segment.Apart ↔ segments.IsChain Segment.Apart := by
  cases segments with
  | nil => simp
  | cons b segments =>
    rw [List.isChain_cons_cons]
    exact and_iff_right (apart_slot_left s b)

theorem isChain_cons_slot_cons {a : Segment} {s : Slot} {segments : List Segment} :
    (a :: .slot s :: segments).IsChain Segment.Apart ↔ segments.IsChain Segment.Apart := by
  rw [List.isChain_cons_cons, isChain_slot_cons]
  exact and_iff_right (apart_slot_right a s)

/-! ### Putting items together -/

/-- The segments that collected literal characters make, the latest character first. -/
def flush (literal : List Char) : List Segment :=
  if literal = [] then [] else [.literal (String.ofList literal.reverse)]

@[simp] theorem flush_nil : flush [] = [] := rfl

theorem flush_reverse {text : String} (h : text ≠ "") :
    flush text.toList.reverse = [.literal text] := by
  have hne : text.toList.reverse ≠ [] := by
    intro hnil
    exact h (String.toList_eq_nil_iff.mp (List.reverse_eq_nil_iff.mp hnil))
  rw [flush, if_neg hne, List.reverse_reverse, String.ofList_toList]

theorem flush_eq_nil_or (literal : List Char) :
    flush literal = [] ∨ ∃ text, text ≠ "" ∧ flush literal = [.literal text] := by
  rw [flush]
  split
  next => exact .inl rfl
  next hne =>
    refine .inr ⟨_, fun h => hne ?_, rfl⟩
    exact List.reverse_eq_nil_iff.mp (String.ofList_eq_empty_iff.mp h)

theorem flatMap_items_flush (literal : List Char) :
    (flush literal).flatMap Segment.items = literal.reverse.map .char := by
  rw [flush]
  split <;> simp [Segment.items, *]

theorem segmentsOf_nil (literal : List Char) : segmentsOf literal [] = flush literal := rfl

theorem segmentsOf_char (literal : List Char) (c : Char) (items : List Item) :
    segmentsOf literal (.char c :: items) = segmentsOf (c :: literal) items := rfl

theorem segmentsOf_slot (literal : List Char) (s : Slot) (items : List Item) :
    segmentsOf literal (.slot s :: items) = flush literal ++ .slot s :: segmentsOf [] items := by
  rw [segmentsOf, flush]
  split <;> rfl

theorem flatMap_items_segmentsOf (literal : List Char) (items : List Item) :
    (segmentsOf literal items).flatMap Segment.items = literal.reverse.map .char ++ items := by
  induction items generalizing literal with
  | nil => rw [segmentsOf_nil, flatMap_items_flush, List.append_nil]
  | cons item items ih =>
    cases item with
    | char c => simp [segmentsOf_char, ih]
    | slot s => simp [segmentsOf_slot, flatMap_items_flush, Segment.items, ih]

theorem nonempty_of_mem_flush {literal : List Char} {text : String}
    (h : .literal text ∈ flush literal) : text ≠ "" := by
  rcases flush_eq_nil_or literal with hflush | ⟨text', hne, hflush⟩
  · rw [hflush] at h
    cases h
  · rw [hflush, List.mem_singleton] at h
    cases h
    exact hne

theorem nonempty_segmentsOf {literal : List Char} {items : List Item} {text : String}
    (h : .literal text ∈ segmentsOf literal items) : text ≠ "" := by
  induction items generalizing literal with
  | nil => exact nonempty_of_mem_flush h
  | cons item items ih =>
    cases item with
    | char c => exact ih h
    | slot s =>
      rw [segmentsOf_slot, List.mem_append, List.mem_cons] at h
      rcases h with h | h | h
      · exact nonempty_of_mem_flush h
      · cases h
      · exact ih h

theorem apart_segmentsOf (literal : List Char) (items : List Item) :
    (segmentsOf literal items).IsChain Segment.Apart := by
  induction items generalizing literal with
  | nil =>
    rw [segmentsOf_nil]
    rcases flush_eq_nil_or literal with hflush | ⟨text, -, hflush⟩
    · rw [hflush]
      exact .nil
    · rw [hflush]
      exact .singleton _
  | cons item items ih =>
    cases item with
    | char c => exact ih _
    | slot s =>
      rw [segmentsOf_slot]
      rcases flush_eq_nil_or literal with hflush | ⟨text, -, hflush⟩
      · rw [hflush]
        exact isChain_slot_cons.mpr (ih [])
      · rw [hflush]
        exact isChain_cons_slot_cons.mpr (ih [])

theorem items_ofItems (items : List Item) : (ofItems items).items = items :=
  flatMap_items_segmentsOf [] items

theorem merged_ofItems (items : List Item) : (ofItems items).Merged :=
  ⟨fun _ h => nonempty_segmentsOf h, apart_segmentsOf [] items⟩

/-! ### There is one way to merge -/

theorem segmentsOf_append (literal cs : List Char) (items : List Item) :
    segmentsOf literal (cs.map .char ++ items) = segmentsOf (cs.reverse ++ literal) items := by
  induction cs generalizing literal with
  | nil => rfl
  | cons c cs ih =>
    rw [List.map_cons, List.cons_append, segmentsOf_char, ih, List.reverse_cons, List.append_assoc,
      List.singleton_append]

theorem segmentsOf_flatMap_items {segments : List Segment}
    (nonempty : ∀ text, .literal text ∈ segments → text ≠ "")
    (apart : segments.IsChain Segment.Apart) :
    segmentsOf [] (segments.flatMap Segment.items) = segments := by
  match segments with
  | [] => rfl
  | .slot s :: rest =>
    have hrest := segmentsOf_flatMap_items
      (fun text h => nonempty text (List.mem_cons_of_mem _ h)) (isChain_slot_cons.mp apart)
    rw [List.flatMap_cons, Segment.items, List.singleton_append, segmentsOf_slot, hrest]
    rfl
  | .literal text :: rest =>
    have hflush := flush_reverse (nonempty text List.mem_cons_self)
    rw [List.flatMap_cons, Segment.items, segmentsOf_append, List.append_nil]
    match rest with
    | [] => exact hflush
    | .literal _ :: rest => exact absurd ⟨rfl, rfl⟩ (List.isChain_cons_cons.mp apart).1
    | .slot s :: rest =>
      have hnonempty : ∀ text, .literal text ∈ rest → text ≠ "" := fun text h =>
        nonempty text (List.mem_cons_of_mem _ (List.mem_cons_of_mem _ h))
      have hrest := segmentsOf_flatMap_items hnonempty (isChain_cons_slot_cons.mp apart)
      rw [List.flatMap_cons, Segment.items, List.singleton_append, segmentsOf_slot, hflush, hrest]
      rfl

theorem ofItems_items {p : Pattern} (h : p.Merged) : ofItems p.items = p :=
  congrArg Pattern.mk (segmentsOf_flatMap_items h.nonempty h.apart)

/-- A pattern is put together from its items if its literal text is merged. -/
theorem ofItems_eq_iff {items : List Item} {p : Pattern} :
    ofItems items = p ↔ p.items = items ∧ p.Merged := by
  constructor
  · rintro rfl
    exact ⟨items_ofItems items, merged_ofItems items⟩
  · rintro ⟨rfl, h⟩
    exact ofItems_items h

end Pattern

end SlotPattern
