import SlotPattern.FormatSet.Ron
import SlotPattern.Tool.Files

/-!
# Files that declare format sets
-/

namespace SlotPattern.Tool

/-- Why a format set cannot be loaded from a file. -/
inductive LoadError
  | file (cause : FileError)
  | format (cause : FormatError)
  deriving DecidableEq

/-- The wording of a load error. -/
def LoadError.message : LoadError → String
  | .file cause => "IO error: " ++ cause.message
  | .format cause => cause.message

/-- Loads the format set that the text of a file declares. -/
def loadFormats (text : Except FileError String) : Except LoadError FormatSet :=
  match text with
  | .error e => .error (.file e)
  | .ok text =>
    match FormatSet.ofRon text with
    | .ok s => .ok s
    | .error e => .error (.format e)

end SlotPattern.Tool
