/-
This file says which rational number a floating-point number stands for. The decoder of the library
and the standard model of floating point take the same bits apart, so that they agree on the value;
the model is what arithmetic is defined on. What a canonical mantissa and exponent are packed into
stands for them again, and for nothing finite if the exponent is too large.
-/

import StepSequencer.Numeric.Binary64
import Mathlib

namespace StepSequencer.Numeric

open Float.Model (UnpackedFloat Format)
open Float.Model.UnpackedFloat

/-! ### Values -/

/-- The rational number with a sign, a mantissa and an exponent. -/
def signedValue (sign : Sign) (mantissa : Nat) (exponent : Int) : ℚ :=
  match sign with
  | .positive => mantissa * 2 ^ exponent
  | .negative => -(mantissa * 2 ^ exponent)

theorem signedValue_zero (sign : Sign) (exponent : Int) : signedValue sign 0 exponent = 0 := by
  cases sign <;> simp [signedValue]

theorem signedValue_le (sign : Sign) (mantissa : Nat) (exponent : Int) :
    signedValue sign mantissa exponent ≤ mantissa * 2 ^ exponent := by
  have nonneg : (0 : ℚ) ≤ mantissa * 2 ^ exponent := by positivity
  cases sign with
  | positive => exact le_rfl
  | negative => exact (neg_nonpos.mpr nonneg).trans nonneg

theorem signedValue_ne_zero (sign : Sign) {mantissa : Nat} (pos : 0 < mantissa) (exponent : Int) :
    signedValue sign mantissa exponent ≠ 0 := by
  have nonzero : (mantissa : ℚ) * 2 ^ exponent ≠ 0 := by positivity
  cases sign with
  | positive => exact nonzero
  | negative => exact neg_ne_zero.mpr nonzero

theorem signedValue_pos_iff {sign : Sign} {mantissa : Nat} {exponent : Int} :
    0 < signedValue sign mantissa exponent ↔ sign = .positive ∧ 0 < mantissa := by
  cases sign with
  | positive =>
    rw [signedValue, mul_pos_iff_of_pos_right (by positivity), Nat.cast_pos]
    exact (and_iff_right rfl).symm
  | negative =>
    have nonneg : (0 : ℚ) ≤ mantissa * 2 ^ exponent := by positivity
    exact iff_of_false (not_lt.mpr (neg_nonpos.mpr nonneg)) nofun

/-- The sign of a decoded number. -/
def signOf (negative : Bool) : Sign := if negative then .negative else .positive

/-- The rational number that a decoded number stands for, if it is finite. -/
def Decoded.value? : Decoded → Option ℚ
  | .finite negative magnitude =>
    some (signedValue (signOf negative) magnitude.mantissa magnitude.exponent)
  | .infinite _ => none
  | .notANumber => none

/-- The rational number that a floating-point number stands for, if it is finite. -/
def value? (number : Float) : Option ℚ := (decode number).value?

/-- The rational number that the parts of a floating-point number stand for, if it is finite. -/
def unpackedValue? : UnpackedFloat → Option ℚ
  | .zero _ => some 0
  | .finite sign mantissa exponent _ => some (signedValue sign mantissa exponent)
  | .infinity _ => none
  | .notANumber => none

theorem value?_of_decode {number : Float} {mantissa : Nat} {exponent : Int} {narrowBelow : Bool}
    (decoded : decode number = .finite false ⟨mantissa, exponent, narrowBelow⟩) :
    value? number = some ((mantissa : ℚ) * 2 ^ exponent) :=
  congrArg Decoded.value? decoded

/-! ### The fields of the bits -/

section Fields

variable (bits : BitVec (Format.numBits .binary64))

theorem toNat_unpackExponent :
    (unpackExponent bits).toNat = bits.toNat / 2 ^ 52 % 2 ^ 11 := by
  rw [unpackExponent_def, BitVec.extractLsb'_toNat, Nat.shiftRight_eq_div_pow]

theorem toNat_unpackMantissa :
    (unpackMantissa bits).toNat = bits.toNat % 2 ^ 52 := by
  rw [unpackMantissa_def, BitVec.extractLsb'_toNat]
  rfl

theorem ofBitVec_unpackSign :
    Sign.ofBitVec (unpackSign bits) =
      signOf (decide (2 ^ 63 ≤ bits.toNat)) := by
  have positive : unpackSign bits = 0#1 ↔ ¬ 2 ^ 63 ≤ bits.toNat := by
    have below : bits.toNat < 2 ^ 64 := bits.isLt
    rw [unpackSign_def, BitVec.toNat_eq, BitVec.extractLsb'_toNat, Nat.shiftRight_eq_div_pow]
    show bits.toNat / 2 ^ 63 % 2 ^ 1 = 0 ↔ ¬ 2 ^ 63 ≤ bits.toNat
    omega
  by_cases negative : 2 ^ 63 ≤ bits.toNat
  · rw [decide_eq_true negative, Sign.ofBitVec, if_neg fun zero => positive.mp zero negative]
    rfl
  · rw [decide_eq_false negative, Sign.ofBitVec, if_pos (positive.mpr negative)]
    rfl

theorem toNat_append_one {width : Nat} (low : BitVec width) :
    (1#1 ++ low).toNat = 2 ^ width + low.toNat := by
  rw [BitVec.toNat_append, ← Nat.shiftLeft_add_eq_or_of_lt low.isLt, BitVec.toNat_one (by decide),
    Nat.one_shiftLeft]

/-- What is unpacked from bits stands for what their fields say. -/
theorem unpackedValue?_unpack :
    unpackedValue? (unpack .binary64 bits) =
      if (unpackExponent bits).toNat = 2047 then none
      else
        let magnitude := Magnitude.ofFields (unpackExponent bits).toNat
          (unpackMantissa bits).toNat
        some (signedValue (Sign.ofBitVec (unpackSign bits)) magnitude.mantissa
          magnitude.exponent) := by
  have special_iff : unpackExponent bits = -1#_ ↔
      (unpackExponent bits).toNat = 2047 := BitVec.toNat_eq
  have least_iff : unpackExponent bits = 0#_ ↔
      (unpackExponent bits).toNat = 0 := BitVec.toNat_eq
  have empty_iff : unpackMantissa bits = 0#_ ↔
      (unpackMantissa bits).toNat = 0 := BitVec.toNat_eq
  unfold unpack Magnitude.ofFields
  dsimp only
  by_cases special : unpackExponent bits = -1#_
  · rw [if_pos special, if_pos (special_iff.mp special)]
    split <;> rfl
  rw [if_neg special, if_neg (mt special_iff.mpr special)]
  by_cases least : unpackExponent bits = 0#_
  · rw [if_pos least, if_pos (least_iff.mp least)]
    by_cases empty : unpackMantissa bits = 0#_
    · rw [dif_pos empty, empty_iff.mp empty, signedValue_zero]
      rfl
    · rw [dif_neg empty, least]
      rfl
  · rw [if_neg least, if_neg (mt least_iff.mpr least)]
    show some (signedValue _ _ _) = _
    rw [toNat_append_one]
    rfl

end Fields

/-- A floating-point number stands for the same as the parts that it is unpacked into. -/
theorem value?_eq (number : Float) : value? number = unpackedValue? number.toModel.unpack := by
  show (decode number).value? = unpackedValue? (unpack .binary64 number.toBits.toBitVec)
  rw [unpackedValue?_unpack, toNat_unpackExponent, toNat_unpackMantissa, ofBitVec_unpackSign]
  unfold decode
  rw [apply_ite Decoded.value?]
  refine if_congr Iff.rfl ?_ rfl
  split <;> rfl

/-! ### Canonical parts -/

/-- A mantissa fills its places unless the exponent is the least one. -/
def Full (mantissa : Nat) (exponent : Int) : Prop := 2 ^ 52 ≤ mantissa ∨ exponent = -1074

/-- A mantissa and an exponent as numbers have them, but for the greatest exponent. -/
structure Canonical (mantissa : Nat) (exponent : Int) : Prop where
  mantissa_lt : mantissa < 2 ^ 53
  least_le : -1074 ≤ exponent
  full : Full mantissa exponent

theorem full_of_unpack {bits : BitVec 64} {sign : Sign} {mantissa : Nat} {exponent : Int}
    {pos : 0 < mantissa} (unpacked : unpack .binary64 bits = .finite sign mantissa exponent pos) :
    Full mantissa exponent := by
  unfold unpack at unpacked
  dsimp only at unpacked
  split at unpacked
  · split at unpacked <;> cases unpacked
  split at unpacked
  next least =>
    split at unpacked
    · cases unpacked
    · obtain ⟨_, _, rfl⟩ := UnpackedFloat.finite.inj unpacked
      rw [least]
      exact .inr rfl
  next =>
    obtain ⟨_, rfl, _⟩ := UnpackedFloat.finite.inj unpacked
    rw [toNat_append_one]
    exact .inl (Nat.le_add_right _ _)

theorem unpackedValue?_unpack_packComponents (sign : Sign) (exponent : BitVec 11)
    (mantissa : BitVec 52) :
    unpackedValue? (unpack .binary64 (packComponents .binary64 sign exponent mantissa)) =
      if exponent.toNat = 2047 then none
      else
        let magnitude := Magnitude.ofFields exponent.toNat mantissa.toNat
        some (signedValue sign magnitude.mantissa magnitude.exponent) := by
  rw [unpackedValue?_unpack, unpackExponent_packComponents, unpackMantissa_packComponents,
    unpackSign_packComponents, Sign.ofBitVec_toBitVec]

theorem value?_ofModel_pack (unpacked : UnpackedFloat) :
    value? (.ofModel (.pack unpacked)) =
      unpackedValue? (unpack .binary64 (pack .binary64 unpacked)) :=
  value?_eq _

theorem biasedExponent_eq (exponent : Int) :
    exponent + Format.exponentBias .binary64 + (52 : Nat) = exponent + 1075 := by
  rw [show Format.exponentBias .binary64 = 1023 from rfl]
  omega

section Packing

variable {sign : Sign} {mantissa : Nat} {exponent : Int} (pos : 0 < mantissa)

/-- What canonical parts are packed into stands for them. -/
theorem value?_pack_of_le (canonical : Canonical mantissa exponent) (le : exponent ≤ 971) :
    value? (.ofModel (.pack (.finite sign mantissa exponent pos))) =
      some (signedValue sign mantissa exponent) := by
  obtain ⟨below, least, full⟩ := canonical
  rw [value?_ofModel_pack]
  unfold pack
  dsimp only
  rw [biasedExponent_eq, if_neg (by omega), show Format.mantissaBits .binary64 = 53 from rfl]
  by_cases normal : 2 ^ 52 ≤ mantissa
  · have log : mantissa.log2 = 52 := by
      rw [Nat.log2_eq_iff pos.ne']
      omega
    rw [if_pos (by omega), unpackedValue?_unpack_packComponents, BitVec.toNat_ofNat,
      BitVec.toNat_ofNat, Nat.mod_eq_of_lt (a := (exponent + 1075).toNat) (by omega),
      if_neg (by omega), Magnitude.ofFields, if_neg (by omega)]
    dsimp only
    congr 2
    · show 2 ^ 52 + mantissa % 2 ^ 52 = mantissa
      omega
    · omega
  · have log : mantissa.log2 < 52 := by
      rw [Nat.log2_lt pos.ne']
      omega
    obtain rfl : exponent = -1074 := full.resolve_left normal
    rw [if_neg (by omega), unpackedValue?_unpack_packComponents, BitVec.toNat_ofNat,
      BitVec.toNat_ofNat, if_neg (by decide), Nat.mod_eq_of_lt (a := mantissa) (by omega)]
    rfl

/-- Parts with too large an exponent are packed into an infinity. -/
theorem value?_pack_of_lt (lt : 971 < exponent) :
    value? (.ofModel (.pack (.finite sign mantissa exponent pos))) = none := by
  rw [value?_ofModel_pack]
  unfold pack
  dsimp only
  rw [biasedExponent_eq, if_pos (by omega), packedInfinity, unpackedValue?_unpack_packComponents]
  rfl

end Packing

/-! ### Zero and the positive numbers -/

section Positive

variable {number : Float} {value : ℚ}

/-- What stands for a number is a zero, or it is finite with full parts. -/
theorem unpack_eq_of_known (known : value? number = some value) :
    (∃ sign, number.toModel.unpack = .zero sign ∧ value = 0) ∨
      ∃ sign mantissa exponent pos, number.toModel.unpack = .finite sign mantissa exponent pos ∧
        Full mantissa exponent ∧ value = signedValue sign mantissa exponent := by
  rw [value?_eq] at known
  cases unpacked : number.toModel.unpack with
  | infinity sign => rw [unpacked] at known; cases known
  | notANumber => rw [unpacked] at known; cases known
  | zero sign =>
    rw [unpacked] at known
    exact .inl ⟨sign, rfl, (Option.some.inj known).symm⟩
  | finite sign mantissa exponent pos =>
    rw [unpacked] at known
    exact .inr ⟨sign, mantissa, exponent, pos, rfl, full_of_unpack unpacked,
      (Option.some.inj known).symm⟩

theorem exists_unpack_of_zero (known : value? number = some 0) :
    ∃ sign, number.toModel.unpack = .zero sign := by
  rcases unpack_eq_of_known known with
    ⟨sign, unpacked, -⟩ | ⟨sign, mantissa, exponent, pos, -, -, zero⟩
  · exact ⟨sign, unpacked⟩
  · exact absurd zero.symm (signedValue_ne_zero sign pos exponent)

theorem exists_unpack_of_pos (known : value? number = some value) (pos : 0 < value) :
    ∃ mantissa exponent mantissaPos,
      number.toModel.unpack = .finite .positive mantissa exponent mantissaPos ∧
        Full mantissa exponent ∧ value = mantissa * 2 ^ exponent := by
  rcases unpack_eq_of_known known with
    ⟨_, -, rfl⟩ | ⟨sign, mantissa, exponent, mantissaPos, unpacked, full, rfl⟩
  · exact absurd pos (lt_irrefl 0)
  · obtain ⟨rfl, -⟩ := signedValue_pos_iff.mp pos
    exact ⟨mantissa, exponent, mantissaPos, unpacked, full, rfl⟩

/-- What can serve as a tempo is what stands for a number greater than zero. -/
theorem isPositiveFinite_iff :
    isPositiveFinite number = true ↔ ∃ value, value? number = some value ∧ 0 < value := by
  unfold isPositiveFinite value?
  rcases decode number with ⟨negative, magnitude⟩ | negative | _
  · simp only [Decoded.value?, Option.some.injEq, exists_eq_left', signedValue_pos_iff]
    cases negative <;> simp [signOf]
  · exact iff_of_false nofun (by rintro ⟨_, known, _⟩; cases known)
  · exact iff_of_false nofun (by rintro ⟨_, known, _⟩; cases known)

theorem bounds_of_decode {negative : Bool} {magnitude : Magnitude}
    (decoded : decode number = .finite negative magnitude) :
    magnitude.mantissa < 2 ^ 53 ∧ magnitude.exponent ≤ 971 := by
  unfold decode at decoded
  simp only [Nat.pow_eq] at decoded
  split at decoded
  · split at decoded <;> cases decoded
  · obtain ⟨-, rfl⟩ := Decoded.finite.inj decoded
    unfold Magnitude.ofFields
    rw [Nat.pow_eq]
    split <;> dsimp only <;> omega

theorem value_lt (known : value? number = some value) : value < 2 ^ 1024 := by
  unfold value? at known
  cases decoded : decode number with
  | infinite => rw [decoded] at known; cases known
  | notANumber => rw [decoded] at known; cases known
  | finite negative magnitude =>
    rw [decoded] at known
    obtain ⟨below, least⟩ := bounds_of_decode decoded
    obtain rfl := Option.some.inj known
    calc signedValue (signOf negative) magnitude.mantissa magnitude.exponent
        ≤ magnitude.mantissa * 2 ^ magnitude.exponent := signedValue_le _ _ _
      _ < 2 ^ 53 * 2 ^ magnitude.exponent := by
          gcongr
          exact_mod_cast below
      _ ≤ 2 ^ 53 * 2 ^ (971 : Int) := by
          gcongr
          norm_num
      _ = (2 : ℚ) ^ 1024 := by
          rw [← zpow_natCast, ← zpow_natCast, ← zpow_add₀ (by norm_num)]
          rfl

end Positive

end StepSequencer.Numeric
