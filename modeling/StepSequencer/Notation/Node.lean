/-
This file holds what a step line says: notes and chords, each with the number of steps it is held.
A node is read from tokens and written back in its one canonical form. Reading checks everything, so
that the pitches of an accepted node always exist.
-/

import StepSequencer.Notation.Token
import StepSequencer.Tone.Chord

namespace StepSequencer

/-- What a node sounds. -/
inductive Tone where
  | note (name : PitchName) (octave : Nat)
  | chord (root : PitchName) (quality : Quality) (bass : Option PitchName)
deriving DecidableEq

/-- A note or chord of a step line. Without a hold it rings on. -/
structure Node where
  tone : Tone
  hold : Option Nat
deriving DecidableEq

/-- The pitches of a tone, the bass of a chord first. -/
def Tone.pitches : Tone → Except (Failure SyntaxFault) (List UInt8)
  | .note name octave => do return [← name.inOctave octave]
  | .chord root quality bass => voiceChord root quality bass

/-- The pitches of a node. -/
def Node.pitches (node : Node) : Except (Failure SyntaxFault) (List UInt8) := node.tone.pitches

/-- The decimal digits of a number. -/
def natChars (value : Nat) : List Char := Nat.toDigits 10 value

/-- A tone as it is written: notes in lower case, chords in upper case. -/
def Tone.chars : Tone → List Char
  | .note name octave => name.chars ++ natChars octave
  | .chord root quality bass =>
    root.upperChars ++ quality.symbol.toList ++
      match bass with
      | some bass => '/' :: bass.upperChars
      | none => []

/-- A node as it is written, its hold behind a colon. -/
def Node.chars (node : Node) : List Char :=
  node.tone.chars ++
    match node.hold with
    | some steps => ':' :: natChars steps
    | none => []

/-- A node as text, in the notation that step lines use. -/
def Node.text (node : Node) : String := String.ofList node.chars

namespace Notation

/-- A number that a step line may contain, below `bound`. -/
def readNumber (bound : Nat) (digits : List Char) : Except (Failure SyntaxFault) Nat :=
  match Numeric.readNaturalBelow? bound digits with
  | some value => .ok value
  | none => .error (.fault (.invalidNumber (String.ofList digits)))

/-- Reads the hold at the front of some tokens: a colon with a number behind it, or nothing. -/
def readHold : List Token → Except (Failure SyntaxFault) (Option Nat)
  | .colon :: .number digits :: _ => do return some (← readNumber (Nat.pow 2 32) digits)
  | .colon :: _ => .error (.fault .missingDuration)
  | _ => .ok none

/-- The number of tokens that a hold takes. -/
def holdLength (hold : Option Nat) : Nat := if hold.isSome then 2 else 0

/-- Cuts a chord symbol at its first slash. -/
def splitSlash : List Char → List Char × Option (List Char)
  | [] => ([], none)
  | character :: rest =>
    if character == '/' then ([], some rest)
    else ((character :: (splitSlash rest).1), (splitSlash rest).2)

/-- Reads a root and the quality behind it. -/
def readRoot (symbol chord : List Char) :
    Except (Failure SyntaxFault) (PitchName × List Char) :=
  match chord with
  | [] => .error (.fault (.invalidChordRoot (String.ofList symbol)))
  | letter :: rest =>
    match Letter.ofChar? letter with
    | none => .error (.fault (.invalidChordRoot (String.ofList [letter])))
    | some name =>
      match rest with
      | [] => .ok (⟨name, none⟩, [])
      | character :: quality =>
        match Accidental.ofChar? character with
        | some accidental => .ok (⟨name, some accidental⟩, quality)
        | none => .ok (⟨name, none⟩, rest)

/-- Reads the bass behind a slash. -/
def readBass : Option (List Char) → Except (Failure SyntaxFault) (Option PitchName)
  | none => .ok none
  | some text =>
    match PitchName.ofChars? text with
    | some bass => .ok (some bass)
    | none => .error (.fault (.invalidBass (String.ofList text)))

/-- Reads a quality by its symbol. -/
def readQuality (symbol : List Char) : Except (Failure SyntaxFault) Quality :=
  match Quality.ofSymbol? (String.ofList symbol) with
  | some quality => .ok quality
  | none => .error (.fault (.invalidChordQuality (String.ofList symbol)))

/-- Reads a chord symbol; the bass is checked before the root and the quality. -/
def readChord (symbol : List Char) : Except (Failure SyntaxFault) Tone := do
  let bass ← readBass (splitSlash symbol).2
  let (root, rest) ← readRoot symbol (splitSlash symbol).1
  let quality ← readQuality rest
  return .chord root quality bass

/-- Checks that a node has pitches. -/
def checkNode (node : Node) : Except (Failure SyntaxFault) Node := do
  let _ ← node.pitches
  return node

/-- Reads the octave at the front of some tokens, which must follow a pitch name. -/
def readOctave (name : PitchName) : List Token → Except (Failure SyntaxFault) Nat
  | .number digits :: _ => readNumber (Nat.pow 2 31) digits
  | _ => .error (.fault (.missingOctave name.text))

/-- Reads the nodes of some tokens behind the first `skip`. Numbers and colons on their own are
passed over. -/
def nodesAfter : Nat → List Token → Except (Failure SyntaxFault) (List Node)
  | _, [] => .ok []
  | skip + 1, _ :: rest => nodesAfter skip rest
  | 0, .illegal fault :: _ => .error (.fault fault)
  | 0, .number _ :: rest => nodesAfter 0 rest
  | 0, .colon :: rest => nodesAfter 0 rest
  | 0, .note name :: rest => do
    let octave ← readOctave name rest
    let hold ← readHold (rest.drop 1)
    let node ← checkNode ⟨.note name octave, hold⟩
    return node :: (← nodesAfter (1 + holdLength hold) rest)
  | 0, .chord symbol :: rest => do
    let tone ← readChord symbol
    let hold ← readHold rest
    let node ← checkNode ⟨tone, hold⟩
    return node :: (← nodesAfter (holdLength hold) rest)

/-- The nodes of a step line. -/
def readNodes (line : List Char) : Except (Failure SyntaxFault) (List Node) :=
  nodesAfter 0 (tokens line)

end Notation

end StepSequencer
