/-
This file reads a floating-point number as an exact quantity: a sign and a natural mantissa times
a power of two, or an infinity, or no number at all. All later arithmetic that must be exact
(rounding to nanoseconds, fixed places, shortest digits) happens on this form, over natural
numbers. The rounding of a quotient to the nearest integer is defined here too, with ties going to
the even neighbour.
-/

namespace StepSequencer.Numeric

/-- The magnitude of a finite number: `mantissa * 2 ^ exponent`. -/
structure Magnitude where
  mantissa : Nat
  exponent : Int
  /-- The gap to the next smaller number is half the gap to the next larger one. -/
  narrowBelow : Bool
deriving DecidableEq

/-- What the bits of a floating-point number stand for. -/
inductive Decoded where
  | finite (negative : Bool) (magnitude : Magnitude)
  | infinite (negative : Bool)
  | notANumber
deriving DecidableEq

/-- The magnitude with the given exponent and fraction fields. -/
def Magnitude.ofFields (exponent fraction : Nat) : Magnitude :=
  if exponent = 0 then ⟨fraction, -1074, false⟩
  else ⟨Nat.pow 2 52 + fraction, (exponent : Int) - 1075, fraction == 0 && exponent > 1⟩

/-- Splits the 64 bits into sign, eleven bits of exponent and 52 bits of fraction. -/
def decode (value : Float) : Decoded :=
  let bits := value.toBits.toNat
  let negative := Nat.pow 2 63 ≤ bits
  let exponent := bits / Nat.pow 2 52 % Nat.pow 2 11
  let fraction := bits % Nat.pow 2 52
  if exponent = 2047 then
    if fraction = 0 then .infinite negative else .notANumber
  else .finite negative (Magnitude.ofFields exponent fraction)

/-- The quotient rounded to the nearest natural number; a tie goes to the even neighbour. -/
def roundHalfEven (numerator denominator : Nat) : Nat :=
  let quotient := numerator / denominator
  let remainder := numerator % denominator
  if 2 * remainder < denominator then quotient
  else if denominator < 2 * remainder then quotient + 1
  else if quotient % 2 = 0 then quotient
  else quotient + 1

/-- `magnitude * factor`, rounded to the nearest natural number. -/
def Magnitude.roundedTimes (magnitude : Magnitude) (factor : Nat) : Nat :=
  roundHalfEven (magnitude.mantissa * factor * Nat.pow 2 magnitude.exponent.toNat)
    (Nat.pow 2 (-magnitude.exponent).toNat)

/-- The largest natural number that does not exceed the magnitude. -/
def Magnitude.floor (magnitude : Magnitude) : Nat :=
  magnitude.mantissa * Nat.pow 2 magnitude.exponent.toNat / Nat.pow 2 (-magnitude.exponent).toNat

/-- Whether the magnitude is a natural number. -/
def Magnitude.isWhole (magnitude : Magnitude) : Bool :=
  magnitude.mantissa * Nat.pow 2 magnitude.exponent.toNat %
    Nat.pow 2 (-magnitude.exponent).toNat == 0

/-- A number that can serve as a tempo: finite and greater than zero. -/
def isPositiveFinite (value : Float) : Bool :=
  match decode value with
  | .finite false magnitude => 0 < magnitude.mantissa
  | _ => false

end StepSequencer.Numeric
