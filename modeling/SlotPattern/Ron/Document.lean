import SlotPattern.Ron.Reader

/-!
# Documents in RON

A document is one datum. Before it there may be headers that switch extensions of the notation on,
of which only `implicit_some` makes a difference here. Behind it there may be only space, but the
datum is read before what follows it is looked at.
-/

namespace SlotPattern.Ron

/-- An extension of the notation. -/
inductive Extension
  | unwrapNewtypes
  | implicitSome
  | unwrapVariantNewtypes
  deriving DecidableEq

/-- The extension of a given name. -/
def Extension.ofString? (s : String) : Option Extension :=
  if s = "unwrap_newtypes" then some .unwrapNewtypes
  else if s = "implicit_some" then some .implicitSome
  else if s = "unwrap_variant_newtypes" then some .unwrapVariantNewtypes
  else none

namespace Reader

/-- Takes the given parts in turn, with space behind each. -/
def expectSpaced (parts : List (List Char)) : Reader Unit :=
  parts.forM fun part => do
    expect part
    space

/-- Does a character of an identifier come next? -/
def atWord : Reader Bool := do
  return (← peek).any isWordInner

/-- Takes the names of extensions, separated by commas. A comma may follow the last name. -/
def extensionsWithin : Nat → Reader (List Extension)
  | 0 => failure
  | rounds + 1 => do
    let extension ← Extension.ofString? (← identifier)
    let hadComma ← comma
    if ← atWord then
      if hadComma then return extension :: (← extensionsWithin rounds) else failure
    else
      return [extension]

/-- Takes a header that switches extensions on: `#![enable(…)]`. -/
def header : Reader (List Extension) := do
  expectSpaced ["#".toList, "!".toList, "[".toList, "enable".toList, "(".toList]
  let extensions ← extensionsWithin ((← get).length + 1)
  space
  expectSpaced [")".toList, "]".toList]
  return extensions

/-- Takes headers as long as they come. -/
def headersWithin : Nat → Reader (List Extension)
  | 0 => failure
  | rounds + 1 => do
    if (← peek) = some '#' then
      let extensions ← header
      space
      return extensions ++ (← headersWithin rounds)
    else
      return []

/-- Takes the headers of a document and then what `body` takes. The body is told whether `Some` may
be left out. -/
def document {α : Type} (body : Bool → Reader α) : Reader α := do
  space
  let extensions ← headersWithin ((← get).length + 1)
  body (extensions.contains .implicitSome)

end Reader

/-- What is read from the front of a text, and whether the text ends behind it. -/
structure Document (α : Type) where
  value : α
  ended : Bool

namespace Document

/-- Reads a document whose datum is read by `body`. -/
def read? {α : Type} (body : Bool → Reader α) (s : String) : Option (Document α) :=
  match (Reader.document body).run s.toList with
  | some (a, rest) => some ⟨a, Reader.dropSpace .blank rest = some []⟩
  | none => none

/-- The value of a document, if the text ends behind it. -/
def whole? {α : Type} (d : Document α) : Option α :=
  if d.ended then some d.value else none

end Document

end SlotPattern.Ron
