/-
This file cuts a step line into the tokens of the step notation: pitch names in lower case, chord
symbols in upper case, runs of digits and colons. Every other character is skipped, so that rests
may be drawn with any of them. A letter that can start neither a note nor a chord ends the line with
a fault.
-/

import StepSequencer.Numeric.Reading
import StepSequencer.Text.Alphabetic
import StepSequencer.Text.Blank
import StepSequencer.Text.Lowercase
import StepSequencer.Tone.Pitch

namespace StepSequencer.Notation

/-- A token of the step notation. -/
inductive Token where
  /-- A letter with its accidental, in lower case. -/
  | note (name : PitchName)
  /-- A chord symbol up to the next colon or white space. -/
  | chord (symbol : List Char)
  | number (digits : List Char)
  | colon
  /-- What no token can start with; nothing follows it. -/
  | illegal (fault : SyntaxFault)

/-- Whether a character raises or lowers the letter before it. -/
def isAccidental (character : Char) : Bool := (Accidental.ofChar? character).isSome

/-- Whether a character belongs to the chord symbol before it. -/
def continuesSymbol (character : Char) : Bool :=
  !(character == ':') && !Text.isBlank character

/-- Whether a letter can be the root of a chord. -/
def isRootLetter (character : Char) : Bool := 'A' ≤ character && character ≤ 'G'

/-- The tokens of a line behind its first `skip` characters. A token of several characters lets the
reader skip those that it has taken already. -/
def tokensAfter : Nat → List Char → List Token
  | _, [] => []
  | skip + 1, _ :: rest => tokensAfter skip rest
  | 0, character :: rest =>
    if character == ':' then .colon :: tokensAfter 0 rest
    else if Numeric.isAsciiDigit character then
      let digits := rest.takeWhile Numeric.isAsciiDigit
      .number (character :: digits) :: tokensAfter digits.length rest
    else if Text.isLowercase character then
      let accidentals := rest.takeWhile isAccidental
      match PitchName.ofChars? (character :: accidentals) with
      | some name => .note name :: tokensAfter accidentals.length rest
      | none => [.illegal (.invalidNote (String.ofList (character :: accidentals)))]
    else if Text.isAlphabetic character then
      if isRootLetter character then
        let symbol := rest.takeWhile continuesSymbol
        .chord (character :: symbol) :: tokensAfter symbol.length rest
      else [.illegal (.invalidChordRoot (String.ofList [character]))]
    else tokensAfter 0 rest

/-- The tokens of a step line. -/
def tokens (line : List Char) : List Token := tokensAfter 0 line

end StepSequencer.Notation
