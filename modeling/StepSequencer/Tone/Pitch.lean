/-
This file holds pitch names and their numbers. A pitch name is a letter with at most one accidental;
in an octave it becomes the number `12 * octave + semitone`, so that `c5` is 60. Numbers run from 0
to 127. The semitone of a name is not wrapped: `cb` lies one below `c` of the same octave.
-/

import StepSequencer.Fault

namespace StepSequencer

/-- The seven letters of the scale. -/
inductive Letter where
  | a | b | c | d | e | f | g
deriving DecidableEq

/-- A letter as it is written. -/
def Letter.char : Letter → Char
  | .a => 'a'
  | .b => 'b'
  | .c => 'c'
  | .d => 'd'
  | .e => 'e'
  | .f => 'f'
  | .g => 'g'

/-- Reads a letter in lower case. -/
def Letter.ofLower? : Char → Option Letter
  | 'a' => some .a
  | 'b' => some .b
  | 'c' => some .c
  | 'd' => some .d
  | 'e' => some .e
  | 'f' => some .f
  | 'g' => some .g
  | _ => none

/-- Reads a letter in either case. -/
def Letter.ofChar? (character : Char) : Option Letter := Letter.ofLower? character.toLower

/-- Semitones above `c`. -/
def Letter.semitone : Letter → Int
  | .c => 0
  | .d => 2
  | .e => 4
  | .f => 5
  | .g => 7
  | .a => 9
  | .b => 11

/-- A raised or lowered letter. -/
inductive Accidental where
  | sharp
  | flat
deriving DecidableEq

/-- An accidental as it is written. -/
def Accidental.char : Accidental → Char
  | .sharp => '#'
  | .flat => 'b'

/-- The accidental that a character writes. -/
def Accidental.ofChar? : Char → Option Accidental
  | '#' => some .sharp
  | 'b' => some .flat
  | _ => none

/-- The semitones by which an accidental moves a pitch. -/
def Accidental.semitone : Accidental → Int
  | .sharp => 1
  | .flat => -1

/-- A letter with at most one accidental, independent of any octave. -/
structure PitchName where
  letter : Letter
  accidental : Option Accidental
deriving DecidableEq

/-- Reads a letter in either case and at most one accidental, and nothing else. -/
def PitchName.ofChars? : List Char → Option PitchName
  | [letter] => (Letter.ofChar? letter).map fun letter => ⟨letter, none⟩
  | [letter, accidental] =>
    match Letter.ofChar? letter, Accidental.ofChar? accidental with
    | some letter, some accidental => some ⟨letter, some accidental⟩
    | _, _ => none
  | _ => none

/-- The characters of the accidental, if there is one. -/
def PitchName.accidentalChars (name : PitchName) : List Char :=
  (name.accidental.map Accidental.char).toList

/-- The name in lower case, as notes are written. -/
def PitchName.chars (name : PitchName) : List Char := name.letter.char :: name.accidentalChars

/-- The name with its letter in upper case, as chords are written. -/
def PitchName.upperChars (name : PitchName) : List Char :=
  name.letter.char.toUpper :: name.accidentalChars

/-- A pitch name as it is written, in lower case. -/
def PitchName.text (name : PitchName) : String := String.ofList name.chars

/-- Semitones above `c` of the same octave; `cb` is at -1 and `b#` at 12. -/
def PitchName.semitone (name : PitchName) : Int :=
  name.letter.semitone + (name.accidental.map Accidental.semitone).getD 0

/-- Semitones above the nearest `c` below. -/
def PitchName.pitchClass (name : PitchName) : Nat := (name.semitone % 12).toNat

/-- Whether a number fits a signed 32-bit word. -/
def fitsWord (value : Int) : Bool := -Nat.pow 2 31 ≤ value && value < Nat.pow 2 31

/-- Checks that a pitch number lies between 0 and 127. -/
def checkPitch (pitch : Int) : Except (Failure SyntaxFault) UInt8 :=
  if 0 ≤ pitch ∧ pitch ≤ 127 then .ok (UInt8.ofNat pitch.toNat)
  else .error (.fault (.pitchOutOfRange pitch))

/-- The number of the name in an octave. Both steps of the sum are taken in 32-bit words, and the
computation breaks down where one of them does not fit. -/
def PitchName.inOctave (name : PitchName) (octave : Int) : Except (Failure SyntaxFault) UInt8 :=
  if fitsWord (octave * 12) && fitsWord (octave * 12 + name.semitone) then
    checkPitch (octave * 12 + name.semitone)
  else .error (.breakdown .pitchOverflow)

/-- The twelve names of the chromatic scale, written with sharps. -/
def chromaticNames : List String :=
  ["c", "c#", "d", "d#", "e", "f", "f#", "g", "g#", "a", "a#", "b"]

/-- The name of a pitch number with its octave, so that 60 is `c5`. -/
def pitchText (pitch : UInt8) : String :=
  chromaticNames.getD (pitch.toNat % 12) "" ++ toString (pitch.toNat / 12)

end StepSequencer
