import SlotPattern.Pattern.Parser
import SlotPattern.Table

/-!
# Sets of named patterns

A format set holds compiled patterns by name, abbreviations of the names, and the name of one format
that is the default. The edits of a set can fail; what a failed edit leaves behind can be seen, so
an edit is a computation on the set rather than a function that returns a new one.
-/

namespace SlotPattern

/-- Formats by name, names by symbol, and the name of the default format. -/
@[ext] structure FormatSet where
  formats : Table Pattern
  symbols : Table String
  defaultName : Option String

/-- Why a format set refuses something. -/
inductive FormatError
  /-- The pattern of the named format does not compile. -/
  | pattern (name : String) (cause : ParseError)
  | reservedName
  | formatNotFound (name : String)
  | noDefaultFormat
  /-- The symbol for the format is taken. -/
  | duplicateSymbol (symbol format : String)
  /-- The text does not declare a format set. -/
  | malformedDeclaration
  deriving DecidableEq

/-- The wording of an error. -/
def FormatError.message : FormatError → String
  | .pattern name cause => "format '" ++ name ++ "': " ++ cause.message
  | .reservedName => "'default' is a reserved format name"
  | .formatNotFound name => "'" ++ name ++ "' is not an available symbol or format name"
  | .noDefaultFormat => "no default format is set"
  | .duplicateSymbol symbol format =>
    "can't create symbol '" ++ symbol ++ "' for format '" ++ format ++ "': symbol already exists"
  | .malformedDeclaration => "RON deserialization error"

/-- The name that stands for the default format. -/
def defaultFormat : String := "default"

namespace FormatSet

/-- The set without formats. -/
def empty : FormatSet := ⟨.empty, .empty, none⟩

/-- How many formats the set holds. -/
def size (s : FormatSet) : Nat :=
  s.formats.size

/-- Is there no format in the set? -/
def isEmpty (s : FormatSet) : Bool :=
  s.formats.entries.isEmpty

/-! ### Lookups -/

/-- The first symbol, in the order of symbols, that abbreviates a name. -/
def symbolOf? (s : FormatSet) (name : String) : Option String :=
  (s.symbols.entries.find? (·.2 = name)).map (·.1)

/-- Every format name with its symbol, in the order of names. -/
def names (s : FormatSet) : List (String × Option String) :=
  s.formats.keys.map fun name => (name, s.symbolOf? name)

/-- The format name that a symbol or a format name stands for. Symbols come first. -/
def resolveName? (s : FormatSet) (key : String) : Option String :=
  (s.symbols.get? key).or (if s.formats.contains key then some key else none)

/-- The format of the default name. -/
def lookupDefault (s : FormatSet) : Except FormatError Pattern :=
  match s.defaultName.bind s.formats.get? with
  | some p => .ok p
  | none => .error .noDefaultFormat

/-- The format that a name, a symbol or `default` stands for. -/
def lookup (s : FormatSet) (key : String) : Except FormatError Pattern :=
  if key = defaultFormat then s.lookupDefault
  else
    match (s.resolveName? key).bind s.formats.get? with
    | some p => .ok p
    | none => .error (.formatNotFound key)

/-! ### Edits -/

/-- A change of a format set that can fail. -/
abbrev Edit := EStateM FormatError FormatSet

/-- Compiles a pattern and stores it under a name, instead of any format of that name. -/
def insert (name pattern : String) : Edit Unit := do
  if name = defaultFormat then throw .reservedName
  match Pattern.compile pattern with
  | .ok p => modify fun s => { s with formats := s.formats.insert name p }
  | .error e => throw (.pattern name e)

theorem run_insert (name pattern : String) (s : FormatSet) :
    (insert name pattern).run s =
      if name = defaultFormat then .error .reservedName s
      else
        match Pattern.compile pattern with
        | .ok p => .ok () { s with formats := s.formats.insert name p }
        | .error e => .error (.pattern name e) s := by
  by_cases h : name = defaultFormat
  · simp [insert, h]
  · cases hc : Pattern.compile pattern <;> simp [insert, h, hc]

theorem insert_eq_ok_iff {name pattern : String} {s t : FormatSet} :
    (insert name pattern).run s = .ok () t ↔
      name ≠ defaultFormat ∧ ∃ p, Pattern.compile pattern = .ok p ∧
        t = { s with formats := s.formats.insert name p } := by
  rw [run_insert]
  by_cases hname : name = defaultFormat
  · simp [hname]
  · cases hp : Pattern.compile pattern <;> simp [hname, eq_comm]

/-- Makes a symbol the abbreviation of a format. It may be so already. -/
def addSymbol (symbol name : String) : Edit Unit := do
  let s ← get
  unless s.formats.contains name do throw (.formatNotFound name)
  match s.symbols.get? symbol with
  | some other => if other ≠ name then throw (.duplicateSymbol symbol name)
  | none => pure ()
  set { s with symbols := s.symbols.insert symbol name }

theorem run_addSymbol (symbol name : String) (s : FormatSet) :
    (addSymbol symbol name).run s =
      if s.formats.contains name then
        if (s.symbols.get? symbol).all (· = name) then
          .ok () { s with symbols := s.symbols.insert symbol name }
        else .error (.duplicateSymbol symbol name) s
      else .error (.formatNotFound name) s := by
  simp only [addSymbol, EStateM.run_bind, EStateM.run_get]
  cases h : s.formats.contains name with
  | false => simp
  | true =>
    cases hs : s.symbols.get? symbol with
    | none => simp
    | some other => by_cases ho : other = name <;> simp [ho]

/-- The symbol made of the first character of each word of a name; words are separated by `_`. -/
def deriveSymbol (name : String) : String :=
  String.ofList ((name.toList.splitOn '_').filterMap List.head?)

/-- Gives a format its derived symbol. If that is taken the edit fails, or leaves the format as it
is when `lenient`; an empty symbol is never given. -/
def addDerivedSymbol (lenient : Bool) (name : String) : Edit Unit := do
  let s ← get
  let symbol := deriveSymbol name
  if symbol = "" then pure ()
  else if s.symbols.contains symbol then
    if lenient then pure () else throw (.duplicateSymbol symbol name)
  else
    set { s with symbols := s.symbols.insert symbol name }

theorem run_addDerivedSymbol (lenient : Bool) (name : String) (s : FormatSet) :
    (addDerivedSymbol lenient name).run s =
      if deriveSymbol name = "" then .ok () s
      else if s.symbols.contains (deriveSymbol name) then
        if lenient then .ok () s else .error (.duplicateSymbol (deriveSymbol name) name) s
      else .ok () { s with symbols := s.symbols.insert (deriveSymbol name) name } := by
  simp only [addDerivedSymbol, EStateM.run_bind, EStateM.run_get]
  by_cases he : deriveSymbol name = ""
  · simp [he]
  · cases hs : s.symbols.contains (deriveSymbol name) <;> cases lenient <;> simp [he]

/-- The names of the formats that no symbol abbreviates. -/
def unsymbolised (s : FormatSet) : List String :=
  s.formats.keys.filter fun name => (s.symbolOf? name).isNone

/-- Gives every format without a symbol its derived one, in the order of names. -/
def generateSymbols (lenient : Bool) : Edit Unit := do
  let s ← get
  s.unsymbolised.forM (addDerivedSymbol lenient)

/-- Makes the format that a name or a symbol stands for the default. -/
def setDefault (key : String) : Edit Unit := do
  let s ← get
  match s.resolveName? key with
  | some name => set { s with defaultName := some name }
  | none => throw (.formatNotFound key)

theorem run_setDefault (key : String) (s : FormatSet) :
    (setDefault key).run s =
      match s.resolveName? key with
      | some name => .ok () { s with defaultName := some name }
      | none => .error (.formatNotFound key) s := by
  cases h : s.resolveName? key <;> simp [setDefault, h]

/-- Both sets together. Where they differ about a format, a symbol or the default, the second
decides. -/
def merge (s other : FormatSet) : FormatSet :=
  ⟨s.formats.merge other.formats, s.symbols.merge other.symbols,
    other.defaultName.or s.defaultName⟩

end FormatSet

end SlotPattern
