import SlotPattern.FormatSet.Declaration
import SlotPattern.Ron.Datum
import SlotPattern.Ron.Document

/-!
# Format sets in RON

A declaration of a format set is a record, named `FormatSet` or without a name. Its formats have to
be given; everything else may be missing. A field may not be given twice, and a field of another
name is passed over.
-/

namespace SlotPattern

/-! ### Values of fields -/

namespace Ron.Reader

/-- Takes a truth value. -/
def truth : Reader Bool := do
  if ← acceptWord "true".toList then return true
  else if ← acceptWord "false".toList then return false
  else failure

/-- Takes a map of texts; of two entries with one key the later one counts. -/
def textTable : Reader (Table String) := do
  expect ['{']
  Table.ofList <$> items '}' (pair text text)

/-- Takes a text that may be missing. A text may touch the word `Some` before it. With `implicitSome`
it stands for itself. -/
def optionalText (implicitSome : Bool) : Reader (Option String) := do
  if ← accept "None".toList then return none
  else if ← accept "Some".toList then some <$> behindSome implicitSome text
  else if implicitSome then some <$> text
  else failure

end Ron.Reader

/-! ### Declarations -/

namespace Declaration

open Ron

/-- A field of a declaration, with its value. -/
inductive Field
  | formats (table : Table String)
  | symbols (table : Table String)
  | defaultName (name : Option String)
  | generateSymbols (value : Bool)
  | ignoreSymbolErrors (value : Bool)
  /-- A field that means nothing to a declaration. -/
  | other

namespace Field

/-- How deep data of other fields may nest: 128 levels, of which the record and its field take
two. -/
def depthLimit : Nat := 126

/-- Takes the value of the field with the given name. -/
def readValue (implicitSome : Bool) (name : String) : Reader Field :=
  if name = "formats" then formats <$> Reader.textTable
  else if name = "symbols" then symbols <$> Reader.textTable
  else if name = "default" then defaultName <$> Reader.optionalText implicitSome
  else if name = "generate_symbols" then generateSymbols <$> Reader.truth
  else if name = "ignore_symbol_errors" then ignoreSymbolErrors <$> Reader.truth
  else do
    Reader.datum implicitSome depthLimit
    return other

/-- Takes a field. -/
def read (implicitSome : Bool) : Reader Field := do
  let name ← Reader.identifier
  Reader.colon
  readValue implicitSome name

/-- The formats that the field declares. -/
def formats? : Field → Option (Table String)
  | formats table => some table
  | _ => none

/-- The symbols that the field declares. -/
def symbols? : Field → Option (Table String)
  | symbols table => some table
  | _ => none

/-- The default that the field declares. -/
def defaultName? : Field → Option (Option String)
  | defaultName name => some name
  | _ => none

/-- Whether symbols are to be derived, if the field tells. -/
def generateSymbols? : Field → Option Bool
  | generateSymbols value => some value
  | _ => none

/-- Whether collisions of derived symbols are passed over, if the field tells. -/
def ignoreSymbolErrors? : Field → Option Bool
  | ignoreSymbolErrors value => some value
  | _ => none

end Field

/-- The only one of some values, or `missing` if there is none. There may not be several. -/
def only? {α : Type} (missing : Option α) : List α → Option α
  | [] => missing
  | [a] => some a
  | _ => none

/-- The declaration that has the given fields. -/
def ofFields? (fields : List Field) : Option Declaration := do
  return {
    formats := ← only? none (fields.filterMap Field.formats?)
    symbols := ← only? (some .empty) (fields.filterMap Field.symbols?)
    defaultName := ← only? (some none) (fields.filterMap Field.defaultName?)
    generateSymbols := ← only? (some false) (fields.filterMap Field.generateSymbols?)
    ignoreSymbolErrors := ← only? (some false) (fields.filterMap Field.ignoreSymbolErrors?) }

/-- Takes a declaration. -/
def read (implicitSome : Bool) : Reader Declaration := do
  if ← Reader.atWord then
    let name ← Reader.identifier
    unless name = "FormatSet" do failure
  Reader.space
  Reader.expect ['(']
  let fields ← Reader.items ')' (Field.read implicitSome)
  ofFields? fields

/-- The declaration in a text. -/
def ofRon? (text : String) : Option Declaration := do
  (← Document.read? read text).whole?

end Declaration

/-- Loads the format set that a text declares. -/
def FormatSet.ofRon (text : String) : Except FormatError FormatSet :=
  match Declaration.ofRon? text with
  | some d => d.load
  | none => .error .malformedDeclaration

end SlotPattern
