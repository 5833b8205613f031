/-
This file makes the step lines of a generated part from the header of its block. Counts are whole
numbers: a fraction is cut off, and a value that is no number counts as left out.
-/

import StepSequencer.Header.Metadata
import StepSequencer.Pattern.Arpeggio

namespace StepSequencer.Pattern

/-- A number cut to a signed 64-bit integer: towards zero, at the nearer end when it is out of
range, and zero when it is no number. -/
def toInteger (value : Float) : Int :=
  match Numeric.decode value with
  | .notANumber => 0
  | .infinite negative => if negative then -Nat.pow 2 63 else Nat.pow 2 63 - 1
  | .finite negative magnitude =>
    if negative then max (-Nat.pow 2 63) (-magnitude.floor)
    else min (Nat.pow 2 63 - 1) magnitude.floor

/-- The whole number of a key. -/
def integer? (metadata : Metadata) (key : String) : Option Int :=
  (metadata.number? key).map toInteger

/-- The notes of a list with commas; blanks around notes and empty notes are dropped. -/
def notePool (list : String) : List String :=
  (((Text.splitWhere (fun character => character == ',') list.toList).map Text.trim).filter
    fun note => !note.isEmpty).map String.ofList

/-- A parameter that must be there. -/
def required {Value : Type} (generator parameter : String) (value : Option Value) :
    Except PatternFault Value :=
  match value with
  | some value => .ok value
  | none => .error (.missingParameter generator parameter)

/-- Reads what an even spread of pulses is made from. -/
def Euclid.ofMetadata (metadata : Metadata) : Except PatternFault Euclid := do
  let pulses ← required euclideanName "pulses" (integer? metadata "pulses")
  let steps ← required euclideanName "steps" (integer? metadata "steps")
  let notes ← required euclideanName "note" ((metadata.text? "note").or (metadata.text? "notes"))
  return {
    pulses, steps
    notes := notePool notes
    rotation := (integer? metadata "rotation").getD 0
    seed := UInt64.ofInt ((integer? metadata "seed").getD 0) }

/-- Reads what a cycle of notes is made from. -/
def Arpeggio.ofMetadata (metadata : Metadata) : Except PatternFault Arpeggio := do
  let notes ← required arpeggiateName "notes" (metadata.text? "notes")
  let length := (integer? metadata "length").getD 1
  if length < 0 then .error .negativeCount
  else return ⟨notePool notes, length.toNat⟩

/-- The step lines that the named generator makes. -/
def generate (name : String) (metadata : Metadata) : Except PatternFault (List String) :=
  if name = euclideanName then Euclid.ofMetadata metadata >>= (·.generate)
  else if name = arpeggiateName then Arpeggio.ofMetadata metadata >>= Arpeggio.generate
  else .error (.unknownGenerator name)

end StepSequencer.Pattern
