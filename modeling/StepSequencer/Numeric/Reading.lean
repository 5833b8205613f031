/-
This file reads the text of a floating-point number: an optional sign, then `inf`, `infinity` or
`nan` in any case, or decimal digits with at most one point and an optional decimal exponent. At
least one digit must stand before or after the point. The value is rounded correctly from the exact
decimal, so a number that is too large reads as infinity.
-/

import StepSequencer.Numeric.Binary64

namespace StepSequencer.Numeric

/-- The value of a decimal digit. -/
def digitValue (digit : Char) : Nat := digit.toNat - '0'.toNat

/-- Whether the character is one of `0` to `9`. -/
def isAsciiDigit (character : Char) : Bool := '0' ≤ character && character ≤ '9'

/-- The value of a run of decimal digits; no digits have the value zero. -/
def digitsValue (digits : List Char) : Nat :=
  digits.foldl (fun value digit => 10 * value + digitValue digit) 0

/-- Reads a run of decimal digits that may not be empty and contains nothing else. -/
def readNatural? (text : List Char) : Option Nat :=
  if !text.isEmpty && text.all isAsciiDigit then some (digitsValue text) else none

/-- Reads a natural number that must stay below `bound`. -/
def readNaturalBelow? (bound : Nat) (text : List Char) : Option Nat :=
  (readNatural? text).filter (· < bound)

/-- Takes the sign off the front of a text: whether it is negative, and the rest. -/
def splitSign : List Char → Bool × List Char
  | '-' :: rest => (true, rest)
  | '+' :: rest => (false, rest)
  | text => (false, text)

/-- Reads the exponent mark and the exponent behind the digits; no mark means exponent zero. -/
def readExponent? : List Char → Option Int
  | [] => some 0
  | mark :: rest =>
    if mark == 'e' || mark == 'E' then
      let (negative, digits) := splitSign rest
      (readNatural? digits).map fun value => if negative then -(value : Int) else value
    else none

/-- The number `digits * 10 ^ exponent`. Exponents far outside the range are answered directly. -/
def ofDecimal (digits : Nat) (exponent : Int) : Float :=
  let length : Int := (Nat.toDigits 10 digits).length
  if digits = 0 then 0.0
  else if 400 < length + exponent then 1.0 / 0.0
  else if length + exponent < -400 then 0.0
  else Float.ofScientific digits (exponent < 0) exponent.natAbs

/-- Reads digits with at most one point and an optional exponent. -/
def readUnsigned? (text : List Char) : Option Float :=
  let whole := text.takeWhile isAsciiDigit
  let rest := text.dropWhile isAsciiDigit
  let fraction := match rest with
    | '.' :: places => places.takeWhile isAsciiDigit
    | _ => []
  let tail := match rest with
    | '.' :: places => places.dropWhile isAsciiDigit
    | _ => rest
  if whole.isEmpty && fraction.isEmpty then none
  else (readExponent? tail).map fun exponent =>
    ofDecimal (digitsValue (whole ++ fraction)) (exponent - fraction.length)

/-- The ASCII lower case of a text. -/
def asciiLower (text : List Char) : List Char := text.map Char.toLower

/-- Reads a floating-point number in any of its spellings. -/
def readFloat? (text : List Char) : Option Float :=
  let (negative, rest) := splitSign text
  let magnitude :=
    if asciiLower rest ∈ ["inf".toList, "infinity".toList] then some (1.0 / 0.0)
    else if asciiLower rest = "nan".toList then some (0.0 / 0.0)
    else readUnsigned? rest
  magnitude.map fun value => if negative then -value else value

end StepSequencer.Numeric
