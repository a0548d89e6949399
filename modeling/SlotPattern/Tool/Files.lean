/-!
# Files

The part of a file system that a tool can see: a tree of directories and files, in which paths are
followed from the working directory. Nothing is known of what is outside the tree.
-/

namespace SlotPattern.Tool

/-- A file, or a directory with its entries by name. -/
inductive FileTree
  | file (contents : ByteArray)
  | directory (entries : List (String × FileTree))

/-- Why a file cannot be read. -/
inductive FileError
  | notFound
  | notDirectory
  | isDirectory
  /-- The path, or a name in it, is longer than the system allows. -/
  | nameTooLong
  | notUtf8
  deriving DecidableEq

/-- The wording of a file error. -/
def FileError.message : FileError → String
  | .notFound => "No such file or directory (os error 2)"
  | .notDirectory => "Not a directory (os error 20)"
  | .isDirectory => "Is a directory (os error 21)"
  | .nameTooLong => "File name too long (os error 36)"
  | .notUtf8 => "stream did not contain valid UTF-8"

namespace FileTree

/-- How many bytes the name of a file may have. -/
def maxNameSize : Nat := 255

/-- How many bytes a path may have. -/
def maxPathSize : Nat := 4095

/-- A directory outside the tree. Nothing can be found in it. -/
def unknownDirectory : FileTree := .directory []

/-- Follows the parts of a path from `here`, whose known ancestors are `above`, the nearest first.
-/
def follow (above : List FileTree) (here : FileTree) : List String → Except FileError FileTree
  | [] => .ok here
  | part :: parts =>
    match here with
    | .file _ => .error .notDirectory
    | .directory entries =>
      if part = "" ∨ part = "." then follow above here parts
      else if part = ".." then
        match above with
        | [] => follow [] unknownDirectory parts
        | parent :: above => follow above parent parts
      else if maxNameSize < part.utf8ByteSize then .error .nameTooLong
      else
        match entries.lookup part with
        | some there => follow (here :: above) there parts
        | none => .error .notFound

/-- What stands at a path. An absolute path starts outside the tree, any other at the tree. -/
def find (t : FileTree) (path : String) : Except FileError FileTree :=
  if path = "" then .error .notFound
  else if maxPathSize < path.utf8ByteSize then .error .nameTooLong
  else
    let start := if path.toList.head? = some '/' then unknownDirectory else t
    follow [] start ((path.toList.splitOn '/').map String.ofList)

/-- The text of a file. -/
def text : FileTree → Except FileError String
  | .directory _ => .error .isDirectory
  | .file contents =>
    match String.fromUTF8? contents with
    | some text => .ok text
    | none => .error .notUtf8

/-- The text of the file at a path. -/
def readText (t : FileTree) (path : String) : Except FileError String := do
  let there ← t.find path
  there.text

end FileTree

end SlotPattern.Tool
