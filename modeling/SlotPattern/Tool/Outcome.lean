/-!
# Runs of a tool

A tool is called with arguments, and a run of it leaves behind an exit code, and lines on standard
output and standard error.
-/

namespace SlotPattern.Tool

/-- Does a call ask for help? One without arguments does. -/
def asksForHelp : List String → Bool
  | [] => true
  | arg :: _ => arg = "--help" || arg = "-h"

/-- The exit code of a run and the lines that it prints. -/
structure Outcome where
  code : Nat
  out : List String
  err : List String
  deriving DecidableEq

namespace Outcome

/-- A successful run that prints some lines. -/
def success (out : List String) : Outcome := ⟨0, out, []⟩

/-- Lines as one text, each with a line break behind it. -/
def joinLines (lines : List String) : String :=
  String.join (lines.map (· ++ "\n"))

/-- The text on standard output. -/
def stdout (o : Outcome) : String := joinLines o.out

/-- The text on standard error. -/
def stderr (o : Outcome) : String := joinLines o.err

end Outcome

end SlotPattern.Tool
