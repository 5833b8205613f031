/-
This file is the program: it reads the document that the command line names and prints a play of it.
-/

import StepSequencer.CommandLine

open StepSequencer

/-- Prints a play of the document that the arguments name; a reason why nothing can be played goes
to standard error. -/
def main (arguments : List String) : IO UInt32 := do
  let asked := CommandLine.ofArguments arguments
  match asked.document with
  | none =>
    IO.eprintln "no document given"
    return 1
  | some path =>
    match printout (← IO.FS.readFile path) asked.playable with
    | .error reason =>
      IO.eprintln reason
      return 1
    | .ok printed =>
      printed.warnings.forM IO.eprintln
      printed.lines.forM IO.println
      return 0
