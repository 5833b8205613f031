/-
This file says how far a product, a quotient and a converted whole number may be from the exact
result. Arithmetic first finds a mantissa with a round bit and a sticky bit, which bracket the exact
quantity; shifting to the last place that a number can keep leaves the quantity bracketed, so that
rounding misses it by at most half that place. Far from the ends of the range this is a relative
error, and the errors of one operation after another multiply.
-/

import StepSequencer.Proofs.NumberValues

namespace StepSequencer.Numeric

open Float.Model (UnpackedFloat Format totalExponent)
open Float.Model.UnpackedFloat

/-! ### Mantissas with further bits -/

/-- What the bit behind the last place stands for. -/
def halfOf (bit : Bool) : ℚ := if bit then 1 / 2 else 0

theorem halfOf_true : halfOf true = 1 / 2 := rfl

theorem halfOf_false : halfOf false = 0 := rfl

theorem halfOf_nonneg (bit : Bool) : 0 ≤ halfOf bit := by
  cases bit <;> norm_num [halfOf]

theorem cast_eq_two_mul_halves (mantissa : Nat) :
    (mantissa : ℚ) = 2 * ((mantissa / 2 : Nat) + halfOf (mantissa % 2 != 0)) := by
  have parts : (mantissa : ℚ) = 2 * (mantissa / 2 : Nat) + (mantissa % 2 : Nat) := by
    exact_mod_cast (Nat.div_add_mod mantissa 2).symm
  rw [parts]
  rcases Nat.mod_two_eq_zero_or_one mantissa with even | odd
  · rw [even]
    norm_num [halfOf]
  · rw [odd]
    norm_num [halfOf]
    ring

/-- A mantissa with its two further bits has an exact quantity between its ends: from the round bit
on, for half a place if the sticky bit is set. -/
structure Brackets (extended : ExtendedMantissa) (exact : ℚ) : Prop where
  low_le : extended.mantissa + halfOf extended.roundBit ≤ exact
  le_high : exact ≤ extended.mantissa + halfOf extended.roundBit + halfOf extended.stickyBit

namespace Brackets

variable {extended : ExtendedMantissa} {exact : ℚ}

theorem shiftRightOne (brackets : Brackets extended exact) :
    Brackets extended.shiftRightOne (exact / 2) := by
  obtain ⟨low, high⟩ := brackets
  have halves := cast_eq_two_mul_halves extended.mantissa
  have bits : halfOf extended.roundBit + halfOf extended.stickyBit ≤
      2 * halfOf (extended.roundBit || extended.stickyBit) := by
    cases extended.roundBit <;> cases extended.stickyBit <;> norm_num [halfOf]
  have nonneg := halfOf_nonneg extended.roundBit
  constructor
  · show ((extended.mantissa / 2 : Nat) : ℚ) + halfOf (extended.mantissa % 2 != 0) ≤ exact / 2
    linarith
  · show exact / 2 ≤ ((extended.mantissa / 2 : Nat) : ℚ) + halfOf (extended.mantissa % 2 != 0) +
      halfOf (extended.roundBit || extended.stickyBit)
    linarith

theorem shiftRight (brackets : Brackets extended exact) (count : Nat) :
    Brackets (extended >>> count) (exact / 2 ^ count) := by
  induction count with
  | zero =>
    rw [pow_zero, div_one]
    exact brackets
  | succ count inductionHypothesis =>
    rw [pow_succ, ← div_div]
    exact inductionHypothesis.shiftRightOne

theorem abs_roundedMantissa_sub_le (brackets : Brackets extended exact) :
    |(extended.roundedMantissa : ℚ) - exact| ≤ 1 / 2 := by
  obtain ⟨mantissa, roundBit, stickyBit⟩ := extended
  obtain ⟨low, high⟩ := brackets
  rw [abs_le]
  cases roundBit <;> cases stickyBit <;> simp only [halfOf_true, halfOf_false] at low high
  · show -(1 / 2) ≤ (mantissa : ℚ) - exact ∧ (mantissa : ℚ) - exact ≤ 1 / 2
    constructor <;> linarith
  · show -(1 / 2) ≤ (mantissa : ℚ) - exact ∧ (mantissa : ℚ) - exact ≤ 1 / 2
    constructor <;> linarith
  · show -(1 / 2) ≤ ((mantissa + mantissa % 2 : Nat) : ℚ) - exact ∧
      ((mantissa + mantissa % 2 : Nat) : ℚ) - exact ≤ 1 / 2
    rcases Nat.mod_two_eq_zero_or_one mantissa with parity | parity <;> rw [parity] <;>
      push_cast <;> constructor <;> linarith
  · show -(1 / 2) ≤ ((mantissa + 1 : Nat) : ℚ) - exact ∧ ((mantissa + 1 : Nat) : ℚ) - exact ≤ 1 / 2
    push_cast
    constructor <;> linarith

theorem of_exact (mantissa : Nat) :
    Brackets (ExtendedMantissa.ofMantissaAndAccuracy mantissa .exact) mantissa := by
  constructor <;> simp [ExtendedMantissa.ofMantissaAndAccuracy, halfOf]

/-- A quotient lies where twice its remainder says. -/
theorem of_quotient {numerator denominator : Nat} (pos : 0 < denominator) :
    Brackets (ExtendedMantissa.ofMantissaAndAccuracy (numerator / denominator)
      (accuracyOfFraction (numerator % denominator) denominator)) (numerator / denominator) := by
  have below := Nat.mod_lt numerator pos
  have castPos : (0 : ℚ) < denominator := by exact_mod_cast pos
  have parts : (numerator : ℚ) / denominator =
      (numerator / denominator : Nat) + (numerator % denominator : Nat) / denominator := by
    field_simp
    exact_mod_cast (Nat.div_add_mod numerator denominator).symm
  rw [parts]
  generalize numerator / denominator = quotient at *
  generalize numerator % denominator = rest at *
  have nonneg : 0 ≤ (rest : ℚ) / denominator := by positivity
  have within : (rest : ℚ) / denominator ≤ 1 := by
    rw [div_le_one castPos]
    exact_mod_cast below.le
  unfold accuracyOfFraction
  split
  · next none =>
    rw [none, Nat.cast_zero, zero_div, add_zero]
    exact of_exact quotient
  · rcases lt_trichotomy (2 * rest) denominator with less | same | more
    · have half : (rest : ℚ) / denominator ≤ 1 / 2 := by
        rw [div_le_div_iff₀ castPos (by norm_num)]
        exact_mod_cast (by omega : rest * 2 ≤ 1 * denominator)
      rw [compare_lt_iff_lt.mpr less]
      constructor <;> norm_num [ExtendedMantissa.ofMantissaAndAccuracy, halfOf] <;> linarith
    · have half : (rest : ℚ) / denominator = 1 / 2 := by
        rw [div_eq_div_iff castPos.ne' (by norm_num)]
        exact_mod_cast (by omega : rest * 2 = 1 * denominator)
      rw [compare_eq_iff_eq.mpr same]
      constructor <;> norm_num [ExtendedMantissa.ofMantissaAndAccuracy, halfOf] <;> linarith
    · have half : 1 / 2 ≤ (rest : ℚ) / denominator := by
        rw [div_le_div_iff₀ (by norm_num) castPos]
        exact_mod_cast (by omega : 1 * denominator ≤ rest * 2)
      rw [compare_gt_iff_gt.mpr more]
      constructor <;> norm_num [ExtendedMantissa.ofMantissaAndAccuracy, halfOf] <;> linarith

end Brackets

theorem mantissa_shiftRight (extended : ExtendedMantissa) (count : Nat) :
    (extended >>> count).mantissa = extended.mantissa / 2 ^ count := by
  induction count with
  | zero => exact (Nat.div_one _).symm
  | succ count inductionHypothesis =>
    show (extended >>> count).mantissa / 2 = _
    rw [inductionHypothesis, Nat.div_div_eq_div_mul, pow_succ]

theorem mantissa_ofMantissaAndAccuracy (mantissa : Nat) (accuracy : Accuracy) :
    (ExtendedMantissa.ofMantissaAndAccuracy mantissa accuracy).mantissa = mantissa := by
  cases accuracy with
  | exact => rfl
  | inexact order => cases order <;> rfl

theorem mantissa_le_roundedMantissa (extended : ExtendedMantissa) :
    extended.mantissa ≤ extended.roundedMantissa := by
  obtain ⟨mantissa, roundBit, stickyBit⟩ := extended
  cases roundBit <;> cases stickyBit
  · exact Nat.le_refl _
  · exact Nat.le_refl _
  · exact Nat.le_add_right _ _
  · exact Nat.le_add_right _ _

theorem roundedMantissa_le_mantissa_add_one (extended : ExtendedMantissa) :
    extended.roundedMantissa ≤ extended.mantissa + 1 := by
  obtain ⟨mantissa, roundBit, stickyBit⟩ := extended
  cases roundBit <;> cases stickyBit
  · exact Nat.le_succ _
  · exact Nat.le_succ _
  · exact Nat.add_le_add_left (Nat.le_of_lt_succ (Nat.mod_lt _ (by decide))) _
  · exact Nat.le_refl _

/-! ### The last place of a number -/

/-- The exponent of the last place that can be kept of a quantity. -/
def unitExponent (mantissa : Nat) (exponent : Int) : Int :=
  max (mantissa.log2 + exponent - 52) (-1074)

/-- What is kept of a mantissa, in units of the last place. -/
def unitMantissa (mantissa : Nat) (exponent : Int) (accuracy : Accuracy) : Nat :=
  (ExtendedMantissa.ofMantissaAndAccuracy mantissa accuracy >>>
    (unitExponent mantissa exponent - exponent).toNat).roundedMantissa

/-- A mantissa has all the places that can be kept. -/
def Ample (mantissa : Nat) (exponent : Int) : Prop := 2 ^ 52 ≤ mantissa ∨ exponent ≤ -1074

theorem targetExponent_eq (total : Int) :
    Format.targetExponent .binary64 total = max (total - 53) (-1074) := rfl

theorem shiftToTargetExponent_eq (mantissa : Nat) (exponent : Int) (accuracy : Accuracy) :
    shiftToTargetExponent .binary64 mantissa exponent accuracy =
      (ExtendedMantissa.ofMantissaAndAccuracy mantissa accuracy >>>
        (unitExponent mantissa exponent - exponent).toNat,
       exponent + (unitExponent mantissa exponent - exponent).toNat) := by
  have target : Format.targetExponent .binary64 (totalExponent mantissa exponent) =
      unitExponent mantissa exponent := by
    rw [targetExponent_eq, totalExponent, unitExponent]
    omega
  unfold shiftToTargetExponent shiftToExponent
  rw [target]

section Units

variable {mantissa : Nat} {exponent : Int} {accuracy : Accuracy} {exact : ℚ}

theorem Ample.le_unitExponent (ample : Ample mantissa exponent) :
    exponent ≤ unitExponent mantissa exponent := by
  unfold unitExponent
  rcases ample with large | small
  · have places := (Nat.le_log2 (by omega)).mpr large
    omega
  · omega

theorem unitMantissa_le (mantissa : Nat) (exponent : Int) (accuracy : Accuracy) :
    unitMantissa mantissa exponent accuracy ≤ 2 ^ 53 := by
  refine (roundedMantissa_le_mantissa_add_one _).trans ?_
  rw [mantissa_shiftRight, mantissa_ofMantissaAndAccuracy, Nat.add_one_le_iff,
    Nat.div_lt_iff_lt_mul (by positivity), ← pow_add]
  refine Nat.lt_log2_self.trans_le (Nat.pow_le_pow_right (by decide) ?_)
  unfold unitExponent
  omega

theorem Ample.full_unitMantissa (ample : Ample mantissa exponent) :
    Full (unitMantissa mantissa exponent accuracy) (unitExponent mantissa exponent) := by
  by_cases least : unitExponent mantissa exponent = -1074
  · exact .inr least
  · have pos : mantissa ≠ 0 := by
      rintro rfl
      refine least ?_
      rw [unitExponent, Nat.log2_zero]
      rcases ample with large | small <;> omega
    refine .inl (le_trans ?_ (mantissa_le_roundedMantissa _))
    rw [mantissa_shiftRight, mantissa_ofMantissaAndAccuracy, Nat.le_div_iff_mul_le (by positivity),
      ← pow_add]
    refine (Nat.pow_le_pow_right (by decide) ?_).trans (Nat.log2_self_le pos)
    have shift := ample.le_unitExponent
    unfold unitExponent at *
    omega

/-- Rounding up may fill one place more than there are; then the mantissa is halved once more, and
nothing is lost. -/
theorem exists_canonical_of_carry (le : mantissa ≤ 2 ^ 53) (least : -1074 ≤ exponent)
    (full : Full mantissa exponent) :
    ∃ finalMantissa finalExponent, Canonical finalMantissa finalExponent ∧
      (finalMantissa : ℚ) * 2 ^ finalExponent = mantissa * 2 ^ exponent ∧
      (shiftToTargetExponent .binary64 mantissa exponent .exact).1.mantissa = finalMantissa ∧
      (shiftToTargetExponent .binary64 mantissa exponent .exact).2 = finalExponent := by
  rw [shiftToTargetExponent_eq]
  dsimp only
  rw [mantissa_shiftRight, mantissa_ofMantissaAndAccuracy]
  rcases le.lt_or_eq with below | rfl
  · have log : mantissa.log2 ≤ 52 := by
      rcases Nat.eq_zero_or_pos mantissa with rfl | pos
      · exact Nat.zero_le _
      · exact Nat.le_of_lt_succ ((Nat.log2_lt pos.ne').mpr below)
    have none : (unitExponent mantissa exponent - exponent).toNat = 0 := by
      unfold unitExponent
      omega
    rw [none, pow_zero, Nat.div_one, Nat.cast_zero, add_zero]
    exact ⟨mantissa, exponent, ⟨below, least, full⟩, rfl, rfl, rfl⟩
  · have one : (unitExponent (2 ^ 53) exponent - exponent).toNat = 1 := by
      rw [unitExponent, Nat.log2_two_pow]
      omega
    rw [one]
    refine ⟨2 ^ 52, exponent + 1, ⟨by decide, by omega, .inl le_rfl⟩, ?_, rfl, rfl⟩
    rw [zpow_add_one₀ (by norm_num)]
    norm_num
    ring

/-- What rounding gives is canonical and is worth what is kept of the mantissa. -/
theorem Ample.roundWithAccuracy_eq (ample : Ample mantissa exponent) (sign : Sign)
    (accuracy : Accuracy) :
    ∃ finalMantissa finalExponent, Canonical finalMantissa finalExponent ∧
      (finalMantissa : ℚ) * 2 ^ finalExponent =
        unitMantissa mantissa exponent accuracy * 2 ^ unitExponent mantissa exponent ∧
      roundWithAccuracy .binary64 sign mantissa exponent accuracy =
        if none : finalMantissa = 0 then .zero sign
        else .finite sign finalMantissa finalExponent (Nat.pos_of_ne_zero none) := by
  have unit : exponent + ((unitExponent mantissa exponent - exponent).toNat : Int) =
      unitExponent mantissa exponent := by
    have shift := ample.le_unitExponent
    omega
  obtain ⟨finalMantissa, finalExponent, canonical, same, rfl, rfl⟩ :=
    exists_canonical_of_carry (unitMantissa_le mantissa exponent accuracy) (le_max_right _ _)
      ample.full_unitMantissa
  refine ⟨_, _, canonical, same, ?_⟩
  -- The first shift ends at the unit, the second one only takes up a carry.
  unfold roundWithAccuracy
  rw [shiftToTargetExponent_eq mantissa]
  dsimp only
  rw [unit]
  rfl

theorem Ample.abs_unitMantissa_sub_le (ample : Ample mantissa exponent)
    (brackets : Brackets (ExtendedMantissa.ofMantissaAndAccuracy mantissa accuracy) exact) :
    |(unitMantissa mantissa exponent accuracy : ℚ) * 2 ^ unitExponent mantissa exponent -
      exact * 2 ^ exponent| ≤ 2 ^ unitExponent mantissa exponent / 2 := by
  have shift : ((unitExponent mantissa exponent - exponent).toNat : Int) =
      unitExponent mantissa exponent - exponent :=
    Int.toNat_of_nonneg (Int.sub_nonneg_of_le ample.le_unitExponent)
  have scaled : exact * 2 ^ exponent =
      exact / 2 ^ (unitExponent mantissa exponent - exponent).toNat *
        2 ^ unitExponent mantissa exponent := by
    rw [← zpow_natCast, shift, zpow_sub₀ (by norm_num)]
    field_simp
  have unit : (0 : ℚ) < 2 ^ unitExponent mantissa exponent := by positivity
  calc |(unitMantissa mantissa exponent accuracy : ℚ) * 2 ^ unitExponent mantissa exponent -
        exact * 2 ^ exponent|
      = |(unitMantissa mantissa exponent accuracy : ℚ) -
          exact / 2 ^ (unitExponent mantissa exponent - exponent).toNat| *
          2 ^ unitExponent mantissa exponent := by
        rw [scaled, ← sub_mul, abs_mul, abs_of_pos unit]
    _ ≤ 1 / 2 * 2 ^ unitExponent mantissa exponent :=
        mul_le_mul_of_nonneg_right (brackets.shiftRight _).abs_roundedMantissa_sub_le unit.le
    _ = 2 ^ unitExponent mantissa exponent / 2 := by ring

end Units

/-! ### One rounding -/

/-- Half the gap between the numbers next to an exact quantity. -/
def halfGap (exact : ℚ) : ℚ := max (exact / 2 ^ 53) (2 ^ (-1075 : Int))

/-- A number comes from rounding an exact quantity that is not negative. It misses the quantity by
at most half a gap, and it is not finite only if the quantity is near the end of the range. -/
structure Rounded (exact : ℚ) (number : Float) : Prop where
  near : ∀ value, value? number = some value → 0 ≤ value ∧ |value - exact| ≤ halfGap exact
  beyond : value? number = none → 2 ^ 1023 ≤ exact

section Rounding

variable {mantissa : Nat} {exponent : Int} {accuracy : Accuracy} {exact : ℚ}

theorem Ample.halfUnit_le_halfGap (ample : Ample mantissa exponent)
    (le : (mantissa : ℚ) ≤ exact) :
    (2 : ℚ) ^ unitExponent mantissa exponent / 2 ≤ halfGap (exact * 2 ^ exponent) := by
  unfold unitExponent halfGap
  rcases le_or_gt (mantissa.log2 + exponent - 52 : Int) (-1074) with least | above
  · rw [max_eq_right least]
    refine le_max_of_le_right (le_of_eq ?_)
    rw [show (-1075 : Int) = -1074 - 1 from rfl, zpow_sub_one₀ (by norm_num)]
    rfl
  · rw [max_eq_left above.le]
    refine le_max_of_le_left ?_
    have pos : mantissa ≠ 0 := by
      rintro rfl
      rw [Nat.log2_zero] at above
      rcases ample with large | small <;> omega
    calc (2 : ℚ) ^ (mantissa.log2 + exponent - 52 : Int) / 2
        = 2 ^ mantissa.log2 * 2 ^ exponent / 2 ^ 53 := by
          rw [zpow_sub₀ (by norm_num), zpow_add₀ (by norm_num), zpow_natCast]
          norm_num
          ring
      _ ≤ exact * 2 ^ exponent / 2 ^ 53 := by
          gcongr
          exact le_trans (by exact_mod_cast Nat.log2_self_le pos) le

theorem Canonical.le_exact_of_lt (canonical : Canonical mantissa exponent) (large : 971 < exponent)
    (near : |(mantissa : ℚ) * 2 ^ exponent - exact| ≤ halfGap exact) : 2 ^ 1023 ≤ exact := by
  have full : 2 ^ 52 ≤ mantissa := canonical.full.resolve_right (by omega)
  have value : (2 : ℚ) ^ 1023 + 2 ^ 1023 ≤ mantissa * 2 ^ exponent :=
    calc (2 : ℚ) ^ 1023 + 2 ^ 1023 = 2 ^ 52 * 2 ^ (972 : Int) := by
          rw [← two_mul, ← pow_succ', ← zpow_natCast, ← zpow_natCast, ← zpow_add₀ (by norm_num)]
          rfl
      _ ≤ (mantissa : ℚ) * 2 ^ exponent := by
        gcongr
        · exact_mod_cast full
        · norm_num
        · omega
  by_contra below
  have gap : halfGap exact ≤ 2 ^ 1023 := by
    refine max_le ?_ ((zpow_le_one_of_nonpos₀ (by norm_num) (by norm_num)).trans
      (one_le_pow₀ (by norm_num)))
    rw [div_le_iff₀ (by positivity)]
    exact (not_le.mp below).le.trans (le_mul_of_one_le_right (by positivity) (by norm_num))
  -- The power is too large to be evaluated.
  generalize (2 : ℚ) ^ 1023 = bound at *
  linarith [(abs_le.mp near).2, not_le.mp below]

/-- A mantissa with all the places that can be kept is rounded to a number near its quantity. -/
theorem Ample.rounded (ample : Ample mantissa exponent)
    (brackets : Brackets (ExtendedMantissa.ofMantissaAndAccuracy mantissa accuracy) exact) :
    Rounded (exact * 2 ^ exponent)
      (.ofModel (.pack (roundWithAccuracy .binary64 .positive mantissa exponent accuracy))) := by
  have le : (mantissa : ℚ) ≤ exact := by
    have low := brackets.low_le
    rw [mantissa_ofMantissaAndAccuracy] at low
    exact (le_add_of_nonneg_right (halfOf_nonneg _)).trans low
  have near := (ample.abs_unitMantissa_sub_le brackets).trans (ample.halfUnit_le_halfGap le)
  obtain ⟨finalMantissa, finalExponent, canonical, same, result⟩ :=
    ample.roundWithAccuracy_eq .positive accuracy
  rw [← same] at near
  rw [result]
  split
  · next none =>
    subst none
    constructor
    · intro value known
      obtain rfl : 0 = value := Option.some.inj ((value?_ofModel_pack _).symm.trans known)
      rw [Nat.cast_zero, zero_mul] at near
      exact ⟨le_rfl, near⟩
    · intro none
      cases (value?_ofModel_pack _).symm.trans none
  · next some =>
    have pos := Nat.pos_of_ne_zero some
    rcases le_or_gt finalExponent 971 with fits | large
    · have told : value? (.ofModel (.pack (.finite .positive _ _ pos))) = _ :=
        value?_pack_of_le pos canonical fits
      constructor
      · intro value known
        obtain rfl := Option.some.inj (told.symm.trans known)
        exact ⟨by unfold signedValue; positivity, near⟩
      · intro none
        cases told.symm.trans none
    · have infinite : value? (.ofModel (.pack (.finite .positive _ _ pos))) = none :=
        value?_pack_of_lt pos large
      constructor
      · intro value known
        cases infinite.symm.trans known
      · exact fun _ => canonical.le_exact_of_lt large near

end Rounding

/-! ### Products and quotients -/

section Operations

variable {first second : Float} {firstValue secondValue : ℚ}

theorem rounded_mul (firstKnown : value? first = some firstValue) (firstPos : 0 < firstValue)
    (secondKnown : value? second = some secondValue) (secondPos : 0 < secondValue) :
    Rounded (firstValue * secondValue) (first * second) := by
  obtain ⟨mantissa, exponent, pos, unpacked, full, rfl⟩ :=
    exists_unpack_of_pos firstKnown firstPos
  obtain ⟨mantissa', exponent', pos', unpacked', full', rfl⟩ :=
    exists_unpack_of_pos secondKnown secondPos
  have product : first * second = .ofModel (.pack (roundWithAccuracy .binary64 .positive
      (mantissa * mantissa') (exponent + exponent') .exact)) := by
    show Float.ofModel (.pack (mul .binary64 first.toModel.unpack second.toModel.unpack)) = _
    rw [unpacked, unpacked']
    rfl
  have ample : Ample (mantissa * mantissa') (exponent + exponent') := by
    rcases full with large | rfl
    · exact .inl (large.trans (Nat.le_mul_of_pos_right _ pos'))
    rcases full' with large | rfl
    · exact .inl (large.trans (Nat.le_mul_of_pos_left _ pos))
    · exact .inr (by decide)
  have exact : (mantissa : ℚ) * 2 ^ exponent * (mantissa' * 2 ^ exponent') =
      (mantissa * mantissa' : Nat) * 2 ^ (exponent + exponent') := by
    rw [zpow_add₀ (by norm_num)]
    push_cast
    ring
  rw [product, exact]
  exact ample.rounded (.of_exact _)

/-- The numerator of a quotient is shifted until the quotient has all the places that can be
kept. -/
theorem exists_divCore_eq {mantissa mantissa' : Nat} (exponent exponent' : Int)
    (pos : 0 < mantissa) (pos' : 0 < mantissa') :
    ∃ numerator unit,
      divCore .binary64 mantissa exponent mantissa' exponent' =
        (numerator / mantissa', unit, accuracyOfFraction (numerator % mantissa') mantissa') ∧
      Ample (numerator / mantissa') unit ∧
      (mantissa : ℚ) * 2 ^ exponent / (mantissa' * 2 ^ exponent') =
        (numerator / mantissa' : ℚ) * 2 ^ unit := by
  refine ⟨_, _, rfl, ?_, ?_⟩
  · rw [targetExponent_eq, totalExponent, totalExponent, Ample, or_iff_not_imp_right]
    intro above
    -- Above the least exponent the shift makes up for a longer denominator, and 53 places more.
    rw [Nat.le_div_iff_mul_le pos', Nat.shiftLeft_eq]
    calc 2 ^ 52 * mantissa' ≤ 2 ^ 52 * 2 ^ (mantissa'.log2 + 1) :=
          Nat.mul_le_mul_left _ Nat.lt_log2_self.le
      _ = 2 ^ (mantissa'.log2 + 53) := by rw [← pow_add, Nat.add_comm 52]
      _ ≤ 2 ^ (mantissa.log2 + _) := Nat.pow_le_pow_right (by decide) (by omega)
      _ = 2 ^ mantissa.log2 * 2 ^ _ := pow_add _ _ _
      _ ≤ mantissa * 2 ^ _ := Nat.mul_le_mul_right _ (Nat.log2_self_le pos.ne')
  · generalize Format.targetExponent _ _ = target
    have shift : ((exponent - exponent' - min (exponent - exponent') target).toNat : Int) =
        exponent - exponent' - min (exponent - exponent') target := by omega
    have castPos : (0 : ℚ) < mantissa' := by exact_mod_cast pos'
    rw [Nat.shiftLeft_eq, Nat.cast_mul, Nat.cast_pow, Nat.cast_two, ← zpow_natCast, shift,
      zpow_sub₀ (by norm_num), zpow_sub₀ (by norm_num)]
    field_simp

theorem rounded_div (firstKnown : value? first = some firstValue) (firstPos : 0 < firstValue)
    (secondKnown : value? second = some secondValue) (secondPos : 0 < secondValue) :
    Rounded (firstValue / secondValue) (first / second) := by
  obtain ⟨mantissa, exponent, pos, unpacked, -, rfl⟩ := exists_unpack_of_pos firstKnown firstPos
  obtain ⟨mantissa', exponent', pos', unpacked', -, rfl⟩ :=
    exists_unpack_of_pos secondKnown secondPos
  obtain ⟨numerator, unit, core, ample, exact⟩ :=
    exists_divCore_eq exponent exponent' pos pos'
  have quotient : first / second = .ofModel (.pack (roundWithAccuracy .binary64 .positive
      (numerator / mantissa') unit (accuracyOfFraction (numerator % mantissa') mantissa'))) := by
    show Float.ofModel (.pack (div .binary64 first.toModel.unpack second.toModel.unpack)) = _
    rw [unpacked, unpacked']
    unfold div
    dsimp only
    rw [core]
    rfl
  rw [quotient, exact]
  exact ample.rounded (.of_quotient pos')

theorem value?_div (first second : Float) :
    value? (first / second) = unpackedValue? (unpack .binary64
      (pack .binary64 (div .binary64 first.toModel.unpack second.toModel.unpack))) :=
  value?_ofModel_pack _

/-- What is not finite is not made finite by a divisor. -/
theorem value?_div_of_none (infinite : value? first = none)
    (secondKnown : value? second = some secondValue) (secondPos : 0 < secondValue) :
    value? (first / second) = none := by
  obtain ⟨_, _, _, unpacked', -, rfl⟩ := exists_unpack_of_pos secondKnown secondPos
  rw [value?_eq] at infinite
  rw [value?_div, unpacked']
  cases unpacked : first.toModel.unpack with
  | infinity sign => exact unpackedValue?_unpack_packComponents _ _ _
  | notANumber => exact unpackedValue?_unpack_packComponents _ _ _
  | zero sign => rw [unpacked] at infinite; cases infinite
  | finite sign mantissa exponent pos => rw [unpacked] at infinite; cases infinite

theorem value?_div_of_zero (zero : value? first = some 0)
    (secondKnown : value? second = some secondValue) (secondPos : 0 < secondValue) :
    value? (first / second) = some 0 := by
  obtain ⟨sign, unpacked⟩ := exists_unpack_of_zero zero
  obtain ⟨_, _, _, unpacked', -, rfl⟩ := exists_unpack_of_pos secondKnown secondPos
  rw [value?_div, unpacked, unpacked']
  refine (unpackedValue?_unpack_packComponents _ _ _).trans (congrArg some ?_)
  exact signedValue_zero _ _

end Operations

/-! ### Whole numbers -/

section Naturals

variable {natural : Nat}

theorem cast_mul_two_pow_mul_zpow (natural count : Nat) :
    ((natural * 2 ^ count : Nat) : ℚ) * 2 ^ (-count : Int) = natural := by
  rw [zpow_neg, zpow_natCast]
  push_cast
  field_simp

theorem rounded_round (pos : 0 < natural) :
    Rounded natural (.ofModel (.pack (round .binary64 .positive natural 0))) := by
  have target : Format.targetExponent .binary64 (totalExponent natural 0) =
      (natural.log2 : Int) - 52 := by
    rw [targetExponent_eq, totalExponent]
    omega
  have count : (0 - ((natural.log2 : Int) - 52)).toNat = 52 - natural.log2 := by omega
  have large : 2 ^ 52 ≤ natural * 2 ^ (52 - natural.log2) :=
    calc 2 ^ 52 ≤ 2 ^ (natural.log2 + (52 - natural.log2)) :=
          Nat.pow_le_pow_right (by decide) (by omega)
      _ = 2 ^ natural.log2 * 2 ^ (52 - natural.log2) := pow_add _ _ _
      _ ≤ natural * 2 ^ (52 - natural.log2) :=
          Nat.mul_le_mul_right _ (Nat.log2_self_le pos.ne')
  have ample : Ample (natural * 2 ^ (52 - natural.log2)) (-(52 - natural.log2 : Nat)) :=
    .inl large
  unfold UnpackedFloat.round decreaseExponent
  rw [target]
  dsimp only
  rw [count, Nat.shiftLeft_eq, zero_sub]
  have rounded := ample.rounded (.of_exact _)
  rwa [cast_mul_two_pow_mul_zpow] at rounded

theorem rounded_toFloat {natural : UInt64} (pos : 0 < natural.toNat) :
    Rounded natural.toNat natural.toFloat := by
  have positive : compare (natural.toNat : Int) 0 = .gt :=
    compare_gt_iff_gt.mpr (by exact_mod_cast pos)
  have converted : natural.toFloat =
      .ofModel (.pack (UnpackedFloat.round .binary64 .positive natural.toNat 0)) := by
    show Float.ofModel (.pack (UnpackedFloat.normalize .binary64 natural.toNat 0 .positive)) = _
    unfold UnpackedFloat.normalize
    rw [positive]
    rfl
  rw [converted]
  exact rounded_round pos

/-- A small whole number is converted and taken once. -/
theorem ofNat_of_lt (small : natural < 2 ^ 53) :
    Float.ofNat natural = natural.toUInt64.toFloat * 1.0 := by
  have some : 0 < Float.exactlyRepresentablePowersOfTen.size := by decide
  have one : Float.exactlyRepresentablePowersOfTen[0] = 1.0 := by
    decide +kernel +revert
  show Float.ofScientific natural false 0 = _
  unfold Float.ofScientific
  rw [dif_pos ⟨small, by decide⟩]
  show natural.toUInt64.toFloat * Float.exactlyRepresentablePowersOfTen[0] = _
  rw [one]

theorem rounded_ofNat_of_le (large : 2 ^ 53 ≤ natural) :
    Rounded natural (Float.ofNat natural) := by
  have converted : Float.ofNat natural = .ofModel (.pack (roundWithAccuracy .binary64 .positive
      (natural <<< 53 * 1) (-53 + 0) .exact)) := by
    show Float.ofScientific natural false 0 = _
    unfold Float.ofScientific
    rw [dif_neg (by omega)]
    show Float.ofModel (.pack (ofScientific .binary64 natural 0)) = _
    unfold ofScientific
    rw [dif_neg (by omega), if_neg (by decide),
      if_neg (by rw [show Format.exponentBits .binary64 = 11 from rfl]; omega),
      if_pos (by decide)]
    rfl
  have ample : Ample (natural * 2 ^ 53) (-(53 : Nat)) := .inl (by omega)
  rw [converted, mul_one, add_zero, Nat.shiftLeft_eq]
  have rounded := ample.rounded (.of_exact _)
  rwa [cast_mul_two_pow_mul_zpow] at rounded

end Naturals

/-! ### Roundings one after another -/

/-- What so many roundings may have made of an exact quantity. -/
structure Near (count : Nat) (exact value : ℚ) : Prop where
  low_le : exact * (1 - 1 / 2 ^ 53) ^ count ≤ value
  le_high : value ≤ exact * (1 + 1 / 2 ^ 53) ^ count

namespace Near

variable {count more : Nat} {exact value factor : ℚ}

theorem refl (exact : ℚ) : Near 0 exact exact := by
  constructor <;> rw [pow_zero, mul_one]

theorem mono (near : Near count exact value) (nonneg : 0 ≤ exact) (le : count ≤ more) :
    Near more exact value where
  low_le := le_trans (mul_le_mul_of_nonneg_left
    (pow_le_pow_of_le_one (by norm_num) (by norm_num) le) nonneg) near.low_le
  le_high := near.le_high.trans (mul_le_mul_of_nonneg_left
    (pow_le_pow_right₀ (by norm_num) le) nonneg)

theorem mul (near : Near count exact value) (nonneg : 0 ≤ factor) :
    Near count (exact * factor) (value * factor) := by
  constructor
  · rw [mul_right_comm]
    exact mul_le_mul_of_nonneg_right near.low_le nonneg
  · rw [mul_right_comm]
    exact mul_le_mul_of_nonneg_right near.le_high nonneg

theorem div (near : Near count exact value) (nonneg : 0 ≤ factor) :
    Near count (exact / factor) (value / factor) := by
  rw [div_eq_mul_inv, div_eq_mul_inv]
  exact near.mul (inv_nonneg.mpr nonneg)

theorem half_le (near : Near count exact value) (nonneg : 0 ≤ exact) (few : count ≤ 4) :
    exact / 2 ≤ value := by
  refine le_trans ?_ (near.mono nonneg few).low_le
  rw [div_eq_mul_inv]
  exact mul_le_mul_of_nonneg_left (by norm_num) nonneg

theorem le_double (near : Near count exact value) (nonneg : 0 ≤ exact) (few : count ≤ 4) :
    value ≤ exact * 2 :=
  (near.mono nonneg few).le_high.trans (mul_le_mul_of_nonneg_left (by norm_num) nonneg)

theorem pos (near : Near count exact value) (pos : 0 < exact) (few : count ≤ 4) : 0 < value :=
  (half_pos pos).trans_le (near.half_le pos.le few)

end Near

/-- A quantity is far from the ends of the range. -/
structure Ordinary (exact : ℚ) : Prop where
  low_le : 2 ^ (-1021 : Int) ≤ exact
  lt_high : exact < 2 ^ (1022 : Int)

theorem Ordinary.pos {exact : ℚ} (ordinary : Ordinary exact) : 0 < exact :=
  ordinary.low_le.trans_lt' (by positivity)

theorem Ordinary.of_bounds {exact : ℚ} (low : 1 / 2 ^ 10 ≤ exact) (high : exact ≤ 2 ^ 100) :
    Ordinary exact where
  low_le := by
    refine le_trans ?_ low
    rw [one_div, ← zpow_natCast, ← zpow_neg]
    exact zpow_le_zpow_right₀ (by norm_num) (by decide)
  lt_high := by
    refine high.trans_lt ?_
    rw [← zpow_natCast]
    exact zpow_lt_zpow_right₀ (by norm_num) (by decide)

theorem halfGap_of_le {exact : ℚ} (le : 2 ^ (-1022 : Int) ≤ exact) :
    halfGap exact = exact / 2 ^ 53 := by
  refine max_eq_left ?_
  rw [le_div_iff₀ (by positivity)]
  refine le_trans (le_of_eq ?_) le
  rw [← zpow_natCast, ← zpow_add₀ (by norm_num)]
  rfl

namespace Rounded

variable {count : Nat} {exact value result : ℚ} {number : Float}

/-- One more rounding of what is near an exact quantity. -/
theorem near_of_known (rounded : Rounded value number) (near : Near count exact value)
    (few : count ≤ 4) (low : 2 ^ (-1021 : Int) ≤ exact) (known : value? number = some result) :
    Near (count + 1) exact result := by
  have nonneg : 0 ≤ exact := low.trans' (by positivity)
  have normal : 2 ^ (-1022 : Int) ≤ value := by
    refine le_trans ?_ (near.half_le nonneg few)
    rw [show (-1022 : Int) = -1021 - 1 from rfl, zpow_sub_one₀ (by norm_num), div_eq_mul_inv]
    exact mul_le_mul_of_nonneg_right low (by norm_num)
  have within := (rounded.near result known).2
  rw [halfGap_of_le normal, abs_le] at within
  constructor
  · calc exact * (1 - 1 / 2 ^ 53) ^ (count + 1)
        = exact * (1 - 1 / 2 ^ 53) ^ count * (1 - 1 / 2 ^ 53) := by ring
      _ ≤ value * (1 - 1 / 2 ^ 53) := mul_le_mul_of_nonneg_right near.low_le (by norm_num)
      _ ≤ result := by linarith [within.1]
  · calc result ≤ value * (1 + 1 / 2 ^ 53) := by linarith [within.2]
      _ ≤ exact * (1 + 1 / 2 ^ 53) ^ count * (1 + 1 / 2 ^ 53) :=
          mul_le_mul_of_nonneg_right near.le_high (by norm_num)
      _ = exact * (1 + 1 / 2 ^ 53) ^ (count + 1) := by ring

theorem exists_near (rounded : Rounded value number) (near : Near count exact value)
    (few : count ≤ 4) (ordinary : Ordinary exact) :
    ∃ result, value? number = some result ∧ Near (count + 1) exact result := by
  cases known : value? number with
  | none =>
    have below : value < 2 ^ 1023 := by
      refine (near.le_double ordinary.pos.le few).trans_lt ?_
      rw [pow_succ, ← zpow_natCast]
      exact mul_lt_mul_of_pos_right ordinary.lt_high (by norm_num)
    exact absurd (rounded.beyond known) (not_le.mpr below)
  | some result => exact ⟨result, rfl, rounded.near_of_known near few ordinary.low_le known⟩

end Rounded

end StepSequencer.Numeric
