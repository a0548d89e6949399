import SlotPattern.Lint
import SlotPattern.Tool.FormatFile
import SlotPattern.Tool.Outcome

/-!
# The lint tool

The linter loads the format sets of one file, or of all files with the extension `ron` below a
directory, and reports what is wrong with them and what may be.
-/

namespace SlotPattern.Tool.Linter

/-- How the tool is called. -/
def usage : String := "Usage: format_linter <format_file_or_dir>"

/-! ### Finding files -/

/-- The path of an entry of a directory. -/
def joinPath (directory name : String) : String :=
  if directory.endsWith "/" then directory ++ name else directory ++ "/" ++ name

/-- Has a file name the extension `ron`, with something before it? -/
def hasRonExtension (name : String) : Bool :=
  name.endsWith ".ron" && name != ".ron"

mutual

/-- The contents of the files with the extension `ron` below a directory at `path`, by their paths.
-/
def ronFiles (path : String) : FileTree → List (String × ByteArray)
  | .file _ => []
  | .directory entries => ronFilesAmong path entries

/-- The same for the entries of the directory. -/
def ronFilesAmong (path : String) : List (String × FileTree) → List (String × ByteArray)
  | [] => []
  | (name, .file contents) :: rest =>
    if hasRonExtension name then (joinPath path name, contents) :: ronFilesAmong path rest
    else ronFilesAmong path rest
  | (name, .directory entries) :: rest =>
    ronFiles (joinPath path name) (.directory entries) ++ ronFilesAmong path rest

end

/-- The files to be linted when `tree` stands at `path`: the file itself, whatever its name, or
those below the directory. -/
def inputs (path : String) (tree : FileTree) : List (String × ByteArray) :=
  match tree with
  | .file contents => [(path, contents)]
  | .directory _ => ronFiles path tree

/-! ### Findings -/

/-- A format set, and the path of the file that declares it. -/
structure LoadedSet where
  path : String
  set : FormatSet

/-- Loads the format set of the file at `path`; a failure is reported with the path. -/
def load (path : String) (contents : ByteArray) : Except String LoadedSet :=
  match loadFormats (FileTree.file contents).text with
  | .ok set => .ok ⟨path, set⟩
  | .error e => .error (path ++ ": " ++ e.message)

/-- The warnings about a format set. -/
def LoadedSet.warnings (l : LoadedSet) : List String :=
  (if l.set.isEmpty then [l.path ++ ": no formats defined"] else []) ++
    l.set.formats.entries.flatMap fun e =>
      e.2.lint.map fun w => l.path ++ ": format '" ++ e.1 ++ "': " ++ w.message

/-- What the linter has found: the sets that it could load, and a message for every file that it
could not. -/
structure Findings where
  sets : List LoadedSet
  errors : List String

namespace Findings

/-- What is found in files. -/
def ofFiles (files : List (String × ByteArray)) : Findings :=
  let results := files.map fun f => load f.1 f.2
  ⟨results.filterMap Except.toOption, results.filterMap fun
    | .ok _ => none
    | .error message => some message⟩

/-- The warnings about the sets. -/
def warnings (f : Findings) : List String :=
  f.sets.flatMap LoadedSet.warnings

/-- How many formats have been loaded. -/
def formatCount (f : Findings) : Nat :=
  f.sets.foldl (fun count l => count + l.set.size) 0

/-- The exit code: a run fails exactly if a file could not be loaded. -/
def code (f : Findings) : Nat :=
  if f.errors = [] then 0 else 1

/-- The report on the findings, as lines. -/
def report (f : Findings) : List String :=
  (f.sets.map fun l => "  Loaded: " ++ l.path) ++
  ["Loaded " ++ toString f.formatCount ++ " formats from " ++ toString f.sets.length ++ " files",
    "", "=== Format Lint Report ===", ""] ++
  (if f.errors = [] ∧ f.warnings = [] then ["All checks passed!"] else []) ++
  f.warnings.map ("WARNING: " ++ ·) ++
  f.errors.map ("ERROR: " ++ ·) ++
  ["", "Summary: " ++ toString f.errors.length ++ " errors, " ++
    toString f.warnings.length ++ " warnings"]

/-- The outcome of a run with these findings. -/
def outcome (f : Findings) : Outcome :=
  ⟨f.code, f.report, []⟩

end Findings

/-- The outcome of a run with the given arguments. `find` gives what stands at a path. -/
def run (find : String → Except FileError FileTree) (args : List String) : Outcome :=
  match args with
  | [] => .success [usage]
  | path :: _ =>
    if asksForHelp args then .success [usage]
    else
      match find path with
      | .ok tree => (Findings.ofFiles (inputs path tree)).outcome
      | .error _ => ⟨1, [], ["ERROR: Path '" ++ path ++ "' does not exist"]⟩

end SlotPattern.Tool.Linter
