/-
This file cuts a block header into tokens: words, colons, numbers, truth values and quoted texts. A
run that starts like a number but contains a letter is a word, so that `8th-triplet` stays whole. A
quote that is never closed takes the rest of the line.
-/

import StepSequencer.Numeric.Reading
import StepSequencer.Text.Alphabetic
import StepSequencer.Text.Blank
import StepSequencer.Text.Number
import StepSequencer.Text.Quoted

namespace StepSequencer.Header

/-- A token of a header. -/
inductive Token where
  | identifier (text : List Char)
  | colon
  | number (literal : List Char)
  | boolean (value : Bool)
  | quoted (text : List Char)
  /-- The rest of the line behind a quote that is never closed, the quote included. -/
  | unterminated (text : List Char)
deriving DecidableEq

/-- A truth value as it is written. -/
def booleanText (value : Bool) : String := if value then "true" else "false"

/-- A token as a message shows it. -/
def Token.text : Token → String
  | .identifier text => String.ofList text
  | .colon => ":"
  | .number literal => String.ofList literal
  | .boolean value => booleanText value
  | .quoted text => Text.quoted (String.ofList text)
  | .unterminated text => String.ofList text

/-- The first token as a message shows it; behind the last one the line ends. -/
def headText : List Token → String
  | token :: _ => token.text
  | [] => "end of line"

/-- Whether a character can stand inside a run that starts like a number. -/
def continuesRun (character : Char) : Bool :=
  Text.isAlphabetic character || Text.isNumber character || "_-.".toList.contains character

/-- Whether a character can stand inside a number behind its first character. -/
def continuesNumber (character : Char) : Bool :=
  Numeric.isAsciiDigit character || character == '.'

/-- Whether a character can stand inside a word. -/
def continuesWord (character : Char) : Bool :=
  !Text.isBlank character && !(character == ':')

/-- Whether a character opens a quoted text. -/
def isQuote (character : Char) : Bool := "\"'".toList.contains character

/-- Whether a number starts with `character` when `rest` follows it. -/
def startsNumber (character : Char) (rest : List Char) : Bool :=
  Numeric.isAsciiDigit character || (character == '-' && (rest.head?.any Numeric.isAsciiDigit))

/-- The token of a word: a truth value, or an identifier. -/
def wordToken (word : List Char) : Token :=
  if word = "true".toList then .boolean true
  else if word = "false".toList then .boolean false
  else .identifier word

/-- The tokens of a line behind its first `skip` characters. -/
def tokensAfter : Nat → List Char → List Token
  | _, [] => []
  | skip + 1, _ :: rest => tokensAfter skip rest
  | 0, character :: rest =>
    if Text.isBlank character then tokensAfter 0 rest
    else if character == ':' then .colon :: tokensAfter 0 rest
    else if isQuote character then
      let inside := rest.takeWhile fun other => !(other == character)
      if inside.length < rest.length then .quoted inside :: tokensAfter (inside.length + 1) rest
      else [.unterminated (character :: rest)]
    else if startsNumber character rest then
      let run := rest.takeWhile continuesRun
      if run.any Text.isAlphabetic then
        .identifier (character :: run) :: tokensAfter run.length rest
      else
        let literal := rest.takeWhile continuesNumber
        .number (character :: literal) :: tokensAfter literal.length rest
    else
      let word := rest.takeWhile continuesWord
      wordToken (character :: word) :: tokensAfter word.length rest

/-- The tokens of a header line. -/
def tokens (line : List Char) : List Token := tokensAfter 0 line

end StepSequencer.Header
