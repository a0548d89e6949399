import SlotPattern.Pattern.SlotBody

/-!
# Reading a pattern

A pattern is scanned token by token. The scan stands in literal text, behind a backslash, or inside a
slot, whose body it collects up to the closing brace and then reads as a whole.
-/

namespace SlotPattern

/-- A pattern in its smallest parts: a character of literal text, or a slot. -/
inductive Item
  | char (c : Char)
  | slot (slot : Slot)
  deriving DecidableEq

/-- Is the item a slot? -/
def Item.isSlot : Item → Bool
  | .char _ => false
  | .slot _ => true

namespace Pattern

/-- The segments of a row of items, where `literal` holds the literal characters before them, the
latest first. -/
def segmentsOf (literal : List Char) : List Item → List Segment
  | [] => if literal = [] then [] else [.literal (String.ofList literal.reverse)]
  | .char c :: items => segmentsOf (c :: literal) items
  | .slot s :: items =>
    if literal = [] then .slot s :: segmentsOf [] items
    else .literal (String.ofList literal.reverse) :: .slot s :: segmentsOf [] items

/-- The pattern that a row of items makes up: literal characters that touch are one segment. -/
def ofItems (items : List Item) : Pattern :=
  ⟨segmentsOf [] items⟩

end Pattern

/-- Where a scan of a pattern stands. -/
inductive Place
  /-- In literal text. -/
  | text
  /-- Behind the backslash at the given offset. -/
  | escaped (backslash : Nat)
  /-- In the slot opened at the given offset, behind these tokens of its body, the latest first. -/
  | slot (opened : Nat) (body : List (Located Token))

/-- A scan of a pattern: where it stands, and the items that it has found, the latest first. -/
structure Scan where
  place : Place
  items : List Item

namespace Scan

/-- The scan of a pattern before its first token. -/
def start : Scan := ⟨.text, []⟩

/-- Passes one token. -/
def step (s : Scan) (t : Located Token) : Except ParseError Scan :=
  match s.place with
  | .text =>
    match t.item with
    | .escape => .ok ⟨.escaped t.offset, s.items⟩
    | .openSlot => .ok ⟨.slot t.offset [], s.items⟩
    | .closeSlot => .error ⟨.unmatchedBrace, t.offset⟩
    | plain => .ok ⟨.text, .char plain.toChar :: s.items⟩
  | .escaped backslash =>
    match t.item with
    | .openSlot | .closeSlot => .ok ⟨.text, .char t.item.toChar :: s.items⟩
    | _ => .error ⟨.danglingEscape, backslash⟩
  | .slot opened body =>
    match t.item with
    | .openSlot => .error ⟨.unterminatedSlot, opened⟩
    | .closeSlot => do
      let first := !s.items.any Item.isSlot
      let slot ← Slot.read first t.offset (lexemes body.reverse)
      pure ⟨.text, .slot slot :: s.items⟩
    | _ => .ok ⟨.slot opened (t :: body), s.items⟩

/-- The items found, once the text has ended. It may not end behind a backslash or inside a slot. -/
def finish (s : Scan) : Except ParseError (List Item) :=
  match s.place with
  | .text => .ok s.items.reverse
  | .escaped backslash => .error ⟨.danglingEscape, backslash⟩
  | .slot opened _ => .error ⟨.unterminatedSlot, opened⟩

/-- The items of a row of tokens. -/
def run (ts : List (Located Token)) : Except ParseError (List Item) := do
  let s ← ts.foldlM step start
  s.finish

end Scan

/-- Compiles the text of a pattern. -/
def Pattern.compile (text : String) : Except ParseError Pattern :=
  Pattern.ofItems <$> Scan.run (tokenize text)

end SlotPattern
