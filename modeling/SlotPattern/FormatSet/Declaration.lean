import SlotPattern.FormatSet.Basic

/-!
# Declared format sets

A declaration lists formats and symbols as text. Loading it makes the edits one after the other:
formats and symbols in the order of their names, then the derived symbols, then the default.
-/

namespace SlotPattern

/-- What a format set is to hold, before anything has been compiled. -/
structure Declaration where
  formats : Table String
  symbols : Table String
  defaultName : Option String
  generateSymbols : Bool
  ignoreSymbolErrors : Bool

namespace Declaration

/-! ### The phases -/

/-- Stores the declared formats. -/
def insertFormats (d : Declaration) : FormatSet.Edit Unit :=
  d.formats.entries.forM fun e => FormatSet.insert e.1 e.2

/-- Adds the declared symbols. -/
def addSymbols (d : Declaration) : FormatSet.Edit Unit :=
  d.symbols.entries.forM fun e => FormatSet.addSymbol e.1 e.2

/-- Derives symbols, if that is asked for. -/
def deriveSymbols (d : Declaration) : FormatSet.Edit Unit :=
  if d.generateSymbols then FormatSet.generateSymbols d.ignoreSymbolErrors else pure ()

/-- Sets the default, if there is to be one. -/
def chooseDefault (d : Declaration) : FormatSet.Edit Unit :=
  match d.defaultName with
  | some key => FormatSet.setDefault key
  | none => pure ()

/-- The edits that a declaration asks for, in four phases. -/
def edits (d : Declaration) : FormatSet.Edit Unit := do
  d.insertFormats
  d.addSymbols
  d.deriveSymbols
  d.chooseDefault

/-! ### Loading -/

/-- The format set that a declaration describes. -/
def load (d : Declaration) : Except FormatError FormatSet :=
  match d.edits.run .empty with
  | .ok _ s => .ok s
  | .error e _ => .error e

end Declaration

end SlotPattern
