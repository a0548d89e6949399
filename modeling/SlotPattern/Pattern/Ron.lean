import SlotPattern.Pattern.Parser
import SlotPattern.Ron.Document

/-!
# Patterns in RON

A pattern is kept as the text that it is written as, and compiled again when it is read.
-/

namespace SlotPattern

/-- Why a document holds no pattern. -/
inductive PatternDocumentError
  /-- It is not a text, or not a text alone. -/
  | notText
  /-- It is a text that does not compile. -/
  | parse (cause : ParseError)
  deriving DecidableEq

namespace Pattern

/-- Writes a pattern as a document. -/
def toRon (p : Pattern) : String :=
  Ron.writeText (toString p)

/-- Reads a pattern from a document. The text is compiled before what follows it is looked at. -/
def ofRon (s : String) : Except PatternDocumentError Pattern :=
  match Ron.Document.read? (fun _ => Ron.Reader.text) s with
  | none => .error .notText
  | some d =>
    match compile d.value with
    | .ok p => if d.ended then .ok p else .error .notText
    | .error e => .error (.parse e)

end Pattern

end SlotPattern
