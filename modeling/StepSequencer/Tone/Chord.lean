/-
This file holds chord qualities and the voicing of chords. A quality is a symbol with the semitones
of its tones above the root; the table below lists every quality that a chord may have. A chord is
voiced upward from its root in octave 5. A slash bass sits in octave 4: it is left out only when its
pitch class is already in the chord and it would not be the lowest tone.
-/

import StepSequencer.Tone.Pitch

namespace StepSequencer

/-- A chord symbol behind its root, with the semitones above the root that it stands for. -/
structure Quality where
  symbol : String
  intervals : List Nat
deriving DecidableEq

/-- Every quality that a chord may have. -/
def Quality.table : List Quality := [
  -- Triads
  ⟨"", [0, 4, 7]⟩,
  ⟨"M", [0, 4, 7]⟩,
  ⟨"maj", [0, 4, 7]⟩,
  ⟨"m", [0, 3, 7]⟩,
  ⟨"min", [0, 3, 7]⟩,
  ⟨"dim", [0, 3, 6]⟩,
  ⟨"aug", [0, 4, 8]⟩,
  ⟨"+", [0, 4, 8]⟩,
  ⟨"sus2", [0, 2, 7]⟩,
  ⟨"sus4", [0, 5, 7]⟩,
  ⟨"sus", [0, 5, 7]⟩,
  -- Sixths
  ⟨"6", [0, 4, 7, 9]⟩,
  ⟨"m6", [0, 3, 7, 9]⟩,
  ⟨"69", [0, 4, 7, 9, 14]⟩,
  ⟨"m69", [0, 3, 7, 9, 14]⟩,
  -- Sevenths
  ⟨"7", [0, 4, 7, 10]⟩,
  ⟨"M7", [0, 4, 7, 11]⟩,
  ⟨"maj7", [0, 4, 7, 11]⟩,
  ⟨"m7", [0, 3, 7, 10]⟩,
  ⟨"min7", [0, 3, 7, 10]⟩,
  ⟨"mM7", [0, 3, 7, 11]⟩,
  ⟨"dim7", [0, 3, 6, 9]⟩,
  ⟨"m7b5", [0, 3, 6, 10]⟩,
  ⟨"aug7", [0, 4, 8, 10]⟩,
  ⟨"7#5", [0, 4, 8, 10]⟩,
  ⟨"7b5", [0, 4, 6, 10]⟩,
  ⟨"7b9", [0, 4, 7, 10, 13]⟩,
  ⟨"7#9", [0, 4, 7, 10, 15]⟩,
  ⟨"7sus4", [0, 5, 7, 10]⟩,
  ⟨"7sus2", [0, 2, 7, 10]⟩,
  -- Added tones
  ⟨"add9", [0, 4, 7, 14]⟩,
  ⟨"madd9", [0, 3, 7, 14]⟩,
  ⟨"add11", [0, 4, 7, 17]⟩,
  ⟨"add2", [0, 2, 4, 7]⟩,
  ⟨"add4", [0, 4, 5, 7]⟩,
  -- Extensions
  ⟨"9", [0, 4, 7, 10, 14]⟩,
  ⟨"M9", [0, 4, 7, 11, 14]⟩,
  ⟨"m9", [0, 3, 7, 10, 14]⟩,
  ⟨"11", [0, 4, 7, 10, 14, 17]⟩,
  ⟨"M11", [0, 4, 7, 11, 14, 17]⟩,
  ⟨"m11", [0, 3, 7, 10, 14, 17]⟩,
  ⟨"13", [0, 4, 7, 10, 14, 17, 21]⟩,
  ⟨"M13", [0, 4, 7, 11, 14, 17, 21]⟩,
  ⟨"m13", [0, 3, 7, 10, 14, 17, 21]⟩]

/-- The quality with the given symbol. -/
def Quality.ofSymbol? (symbol : String) : Option Quality :=
  Quality.table.find? fun quality => quality.symbol == symbol

/-- The octave of a chord's root. -/
def rootOctave : Int := 5

/-- The octave of a slash bass. -/
def bassOctave : Int := 4

/-- Whether a bass tone below or among the tones of a chord is left out: some tone has its pitch
class already, and it would not be the lowest. -/
def bassOmitted (bass : PitchName) (bassPitch : UInt8) (tones : List UInt8) : Bool :=
  tones.any (fun tone => tone.toNat % 12 == bass.pitchClass) &&
    !tones.all (fun tone => bassPitch < tone)

/-- The pitches of a chord, the bass first when it sounds. -/
def voiceChord (root : PitchName) (quality : Quality) (bass : Option PitchName) :
    Except (Failure SyntaxFault) (List UInt8) := do
  let base ← root.inOctave rootOctave
  let tones ← quality.intervals.mapM fun (interval : Nat) => checkPitch (base.toNat + interval)
  match bass with
  | none => return tones
  | some bass =>
    let bassPitch ← bass.inOctave bassOctave
    return if bassOmitted bass bassPitch tones then tones else bassPitch :: tones

end StepSequencer
