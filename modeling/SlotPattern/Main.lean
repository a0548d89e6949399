import SlotPattern.Tool.Linter
import SlotPattern.Tool.Preview

/-!
# The command line

`preview …` and `lint …` run the tools on the files that can be reached from the working directory.
-/

namespace SlotPattern

open Tool

/-- The directory with the given entries. Of the files below it only those that the linter loads are
read. -/
partial def readDirectory (entries : Array IO.FS.DirEntry) : IO FileTree := do
  let trees ← entries.toList.mapM fun entry => do
    if ← entry.path.isDir then
      return (entry.fileName, ← readDirectory (← entry.path.readDir))
    else if Linter.hasRonExtension entry.fileName then
      return (entry.fileName, .file (← IO.FS.readBinFile entry.path))
    else
      return (entry.fileName, .file .empty)
  return .directory trees

/-- The file at a path, or the directory there: `deep` tells whether with its entries. -/
def readTree (deep : Bool) (path : String) : IO FileTree := do
  let here ← IO.FS.realPath path
  if ← here.isDir then
    if deep then readDirectory (← here.readDir) else return .directory []
  else
    return .file (← IO.FS.readBinFile path)

/-- The number of the system's error for a name that is too long. -/
def nameTooLongNumber : UInt32 := 36

/-- Why the system refuses to open a path, if it does. -/
def refusal? (path : String) : IO (Option FileError) := do
  try
    IO.FS.withFile path .read fun _ => pure ()
    return none
  catch
    | .inappropriateType .. => return some .notDirectory
    | .invalidArgument _ number _ =>
      return some (if number = nameTooLongNumber then .nameTooLong else .notFound)
    | _ => return some .notFound

/-- What stands at a path, or why nothing can be read there. -/
def findTree (deep : Bool) (path : String) : IO (Except FileError FileTree) := do
  match ← refusal? path with
  | some e => return .error e
  | none => return .ok (← readTree deep path)

/-- Runs one of the tools. -/
def runTool : List String → IO Outcome
  | "preview" :: args => do
    let text ← match Preview.neededFile? args with
      | some path => do pure ((← findTree false path).bind FileTree.text)
      | none => pure (.error .notFound)
    return Preview.run (fun _ => text) args
  | "lint" :: args => do
    let tree ← match args with
      | path :: _ => findTree true path
      | [] => pure (.error .notFound)
    return Linter.run (fun _ => tree) args
  | _ => return ⟨1, [], ["Usage: slot_pattern (preview | lint) <arguments>"]⟩

end SlotPattern

/-- Runs the tool that the first argument names, prints what it prints and exits as it does. -/
def main (args : List String) : IO UInt32 := do
  let outcome ← SlotPattern.runTool args
  IO.print outcome.stdout
  IO.eprint outcome.stderr
  return outcome.code.toUInt32
