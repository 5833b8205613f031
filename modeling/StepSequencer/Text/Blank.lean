/-
This file holds the white space of the Unicode standard (the property White_Space), and the two
things that texts are cut by it: trimming at the ends and splitting into words.
-/

import StepSequencer.Text.Ranges

namespace StepSequencer.Text

/-- The 25 characters with the property White_Space. -/
def blankRanges : CodeRanges :=
  [(0x9, 0xd), (0x20, 0x20), (0x85, 0x85), (0xa0, 0xa0), (0x1680, 0x1680), (0x2000, 0x200a),
   (0x2028, 0x2029), (0x202f, 0x202f), (0x205f, 0x205f), (0x3000, 0x3000)]

/-- Whether a character is white space. -/
def isBlank (character : Char) : Bool := blankRanges.holds character.toNat

/-- A text without the white space at its front. -/
def trimStart (text : List Char) : List Char := text.dropWhile isBlank

/-- A text without the white space at its end. -/
def trimEnd (text : List Char) : List Char := (text.reverse.dropWhile isBlank).reverse

/-- A text without the white space at its ends. -/
def trim (text : List Char) : List Char := trimEnd (trimStart text)

/-- Splits a text into the pieces between two separators; there is always at least one piece. -/
def splitWhere (separates : Char → Bool) : List Char → List (List Char)
  | [] => [[]]
  | character :: rest =>
    if separates character then [] :: splitWhere separates rest
    else match splitWhere separates rest with
      | [] => [[character]]
      | piece :: pieces => (character :: piece) :: pieces

/-- The words of a text: its longest runs without white space. -/
def words (text : List Char) : List (List Char) :=
  (splitWhere isBlank text).filter fun word => !word.isEmpty

end StepSequencer.Text
