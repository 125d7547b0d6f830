import Stencil.CommandLine

/-!
# The program

The outer layer of the command line: it reads files, prints and sets the exit
status.
-/

open Stencil CommandLine

/-- The text of a file, if it can be read. -/
def readText (path : String) : IO (Option String) := do
  try
    return some (← IO.FS.readFile path)
  catch _ =>
    return none

/-- Run the program on the arguments of the command line. -/
def main (arguments : List String) : IO UInt32 := do
  match ← run readText arguments with
  | .printed text =>
    IO.print text
    return 0
  | .failed failure =>
    IO.eprintln ("Error: " ++ failure.message)
    return 1
  | .misused =>
    IO.eprint usageText
    return 2
