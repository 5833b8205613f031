/-
This file spreads pulses over steps as evenly as possible. A bucket fills by the number of pulses at
every step and gives a pulse whenever it holds as many as there are steps. The pattern is then
rotated to the right, around its end; every pulse gets a note of the pool, drawn from the stream
that a source of numbers has for the seed when the pool has a choice.
-/

import StepSequencer.Fault
import StepSequencer.Pattern.Draw

namespace StepSequencer.Pattern

/-- The steps of a bucket that holds `level` and fills by `pulses` up to `steps`. -/
def fillBucket (pulses steps : Nat) : Nat → Nat → List Bool
  | 0, _ => []
  | count + 1, level =>
    if steps ≤ level + pulses then true :: fillBucket pulses steps count (level + pulses - steps)
    else false :: fillBucket pulses steps count (level + pulses)

/-- An even spread of pulses over steps. -/
def spread (pulses steps : Nat) : List Bool := fillBucket pulses steps steps 0

/-- Rotates a list to the right, around its end; negative amounts rotate to the left. -/
def rotate {Item : Type} (items : List Item) (amount : Int) : List Item :=
  let shift := (amount % items.length).toNat
  items.drop (items.length - shift) ++ items.take (items.length - shift)

/-- A step line that sounds a note for one step. -/
def noteLine (note : String) : String := note ++ ":1"

/-- The name of the generator in documents and messages. -/
def euclideanName : String := "euclidean"

/-- What an even spread of pulses is made from. -/
structure Euclid where
  pulses : Int
  steps : Int
  /-- One note for every pulse, or several to draw from. -/
  notes : List String
  rotation : Int
  seed : UInt64

section Sounded

variable (source : NumberSource)

/-- Draws a note of the pool; a pool of one note needs no draw. -/
def drawNote (notes : List String) (place : source.Place) : String × source.Place :=
  if notes.length ≤ 1 then (notes.headD "", place)
  else
    let (index, later) := source.below notes.length place
    (notes.getD index "", later)

/-- Gives every pulse a line with a note, and every other step an empty line. -/
def sounded (notes : List String) : List Bool → source.Place → List String
  | [], _ => []
  | false :: rest, place => "" :: sounded notes rest place
  | true :: rest, place =>
    let (note, later) := drawNote source notes place
    noteLine note :: sounded notes rest later

end Sounded

/-- The step lines of an even spread, whose notes are drawn from a source of numbers: from the
cipher unless another one is given. -/
def Euclid.generate (euclid : Euclid) (source : NumberSource := cipherSource) :
    Except PatternFault (List String) :=
  if euclid.pulses < 0 ∨ euclid.steps < 0 then .error .negativeCount
  else if euclid.steps < euclid.pulses then
    .error (.pulsesExceedSteps euclid.pulses euclid.steps)
  else if euclid.notes.isEmpty then .error (.emptyPool euclideanName)
  else
    let pattern := rotate (spread euclid.pulses.toNat euclid.steps.toNat) euclid.rotation
    .ok (sounded source euclid.notes pattern (source.ofSeed euclid.seed))

end StepSequencer.Pattern
