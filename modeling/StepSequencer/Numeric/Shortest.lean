/-
This file writes a floating-point number with the fewest decimal digits that still identify it.
The real numbers that round to a given number form an interval. For one, two, ... seventeen digits
the two neighbours of the number on the decimal grid of that precision are tested against the
interval by exact integer arithmetic; the first grid with a hit wins, of two hits the closer one,
and of two equally close ones the larger.
-/

import StepSequencer.Numeric.Binary64

namespace StepSequencer.Numeric

/-- The decimal number `digits * 10 ^ exponent`. -/
structure Decimal where
  digits : Nat
  exponent : Int
deriving DecidableEq

/-- Compares the decimal with `mantissa * 2 ^ exponent`, exactly. -/
def Decimal.compareBinary (decimal : Decimal) (mantissa : Nat) (exponent : Int) : Ordering :=
  compare (decimal.digits * Nat.pow 10 decimal.exponent.toNat * Nat.pow 2 (-exponent).toNat)
    (mantissa * Nat.pow 2 exponent.toNat * Nat.pow 10 (-decimal.exponent).toNat)

/-- Whether the decimal lies among the reals that round to the magnitude. The ends of that interval
are halfway to the two neighbours; they belong to it exactly when the mantissa is even. -/
def Magnitude.readsBack (magnitude : Magnitude) (decimal : Decimal) : Bool :=
  let lower := 4 * magnitude.mantissa - (if magnitude.narrowBelow then 1 else 2)
  let upper := 4 * magnitude.mantissa + 2
  let endsIncluded := magnitude.mantissa % 2 == 0
  let fromLower := decimal.compareBinary lower (magnitude.exponent - 2)
  let fromUpper := decimal.compareBinary upper (magnitude.exponent - 2)
  (fromLower == .gt || (endsIncluded && fromLower == .eq)) &&
    (fromUpper == .lt || (endsIncluded && fromUpper == .eq))

/-- Walks up from `candidate` to the first power of ten that exceeds the magnitude. -/
def Magnitude.raiseScale (magnitude : Magnitude) : Nat → Int → Int
  | 0, candidate => candidate
  | steps + 1, candidate =>
    if (Decimal.mk 1 candidate).compareBinary magnitude.mantissa magnitude.exponent == .gt then
      candidate
    else magnitude.raiseScale steps (candidate + 1)

/-- The least power of ten that exceeds the magnitude. The estimate from the binary logarithm is at
most two too small and never too large. -/
def Magnitude.scale (magnitude : Magnitude) : Int :=
  let binary : Int := magnitude.exponent + magnitude.mantissa.log2
  magnitude.raiseScale 4 (Int.fdiv (binary * 30103) 100000)

/-- The largest natural number whose product with `10 ^ exponent` does not exceed the magnitude. -/
def Magnitude.quotientAt (magnitude : Magnitude) (exponent : Int) : Nat :=
  magnitude.mantissa * Nat.pow 2 magnitude.exponent.toNat * Nat.pow 10 (-exponent).toNat /
    (Nat.pow 2 (-magnitude.exponent).toNat * Nat.pow 10 exponent.toNat)

/-- The neighbour of the magnitude on the grid of step `10 ^ exponent` that identifies it. -/
def Magnitude.onGrid (magnitude : Magnitude) (exponent : Int) : Option Decimal :=
  let below : Decimal := ⟨magnitude.quotientAt exponent, exponent⟩
  let above : Decimal := ⟨below.digits + 1, exponent⟩
  match magnitude.readsBack below, magnitude.readsBack above with
  | true, true =>
    -- The midpoint of the two candidates decides which one is closer.
    if (Decimal.mk (2 * below.digits + 1) exponent).compareBinary (2 * magnitude.mantissa)
        magnitude.exponent == .gt then some below
    else some above
  | true, false => some below
  | false, true => some above
  | false, false => none

/-- The decimal value of the magnitude itself, which always identifies it. -/
def Magnitude.exactly (magnitude : Magnitude) : Decimal :=
  ⟨magnitude.mantissa * Nat.pow 2 magnitude.exponent.toNat * Nat.pow 5 (-magnitude.exponent).toNat,
    -(-magnitude.exponent).toNat⟩

/-- The decimal with the fewest digits, at most seventeen, that identifies a positive magnitude. -/
def Magnitude.shortest (magnitude : Magnitude) : Decimal :=
  let scale := magnitude.scale
  let found := (List.range 17).findSome? fun (count : Nat) => magnitude.onGrid (scale - (count + 1))
  found.getD magnitude.exactly

/-- The text of a decimal without an exponent: zeros fill the places up to the point. -/
def Decimal.positional (decimal : Decimal) : List Char :=
  let digits := Nat.toDigits 10 decimal.digits
  if 0 ≤ decimal.exponent then digits ++ List.replicate decimal.exponent.toNat '0'
  else
    let places := (-decimal.exponent).toNat
    let padded := List.replicate (places + 1 - digits.length) '0' ++ digits
    padded.take (padded.length - places) ++ '.' :: padded.drop (padded.length - places)

/-- Drops zeros behind the point, and the point itself when nothing follows it. -/
def trimFraction (text : List Char) : List Char :=
  if text.contains '.' then
    let kept := (text.reverse.dropWhile (· == '0'))
    (kept.dropWhile (· == '.')).reverse
  else text

/-- The sign in front of a negative number, the negative zero included. -/
def signed (negative : Bool) (text : List Char) : List Char :=
  if negative then '-' :: text else text

/-- Numbers are written with the fewest digits that identify them, always positionally, and whole
numbers without a point. -/
def floatText (value : Float) : String :=
  match decode value with
  | .notANumber => "NaN"
  | .infinite negative => String.ofList (signed negative ['i', 'n', 'f'])
  | .finite negative magnitude =>
    if magnitude.mantissa = 0 then String.ofList (signed negative ['0'])
    else String.ofList (signed negative (trimFraction magnitude.shortest.positional))

/-- A number with exactly three decimal places; the exact value is rounded, ties to even. -/
def threePlaces (value : Float) : List Char :=
  match decode value with
  | .notANumber => ['N', 'a', 'N']
  | .infinite negative => signed negative ['i', 'n', 'f']
  | .finite negative magnitude =>
    signed negative (Decimal.mk (magnitude.roundedTimes 1000) (-3)).positional

end StepSequencer.Numeric
