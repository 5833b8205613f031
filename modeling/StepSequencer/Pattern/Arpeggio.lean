/-
This file cycles through a pool of notes, one note for each step.
-/

import StepSequencer.Pattern.Euclid

namespace StepSequencer.Pattern

/-- The name of the generator in documents and messages. -/
def arpeggiateName : String := "arpeggiate"

/-- What a cycle of notes is made from. -/
structure Arpeggio where
  notes : List String
  length : Nat

/-- The step lines of a cycle of notes. -/
def Arpeggio.generate (arpeggio : Arpeggio) : Except PatternFault (List String) :=
  if arpeggio.notes.isEmpty then .error (.emptyPool arpeggiateName)
  else .ok ((List.range arpeggio.length).map fun index =>
    noteLine (arpeggio.notes.getD (index % arpeggio.notes.length) ""))

end StepSequencer.Pattern
