/-
This file says which tempos can be played. The tempo of a header must be finite and greater than
zero, but a span must also stay below `2 ^ 64` seconds, and nobody asks whether the time of a part
or of a single pulse does: at a very low tempo reading a part breaks down, and so does the clock
when it asks for the time of a pulse. Next to the limit it is a matter of rounding whether a span
can tell a time; everywhere else the exact quotient of the pulses and the tempo decides.
-/

import StepSequencer.Proofs.Durations
import StepSequencer.Proofs.Expansion
import StepSequencer.Proofs.Pitches
import StepSequencer.Proofs.Roundings

namespace StepSequencer

open Numeric

/-! ### Seconds that a span can tell -/

namespace Numeric

theorem roundHalfEven_one (numerator : Nat) : roundHalfEven numerator 1 = numerator := by
  simp [roundHalfEven, Nat.mod_one]

theorem roundHalfEven_le (numerator denominator : Nat) :
    roundHalfEven numerator denominator ≤ numerator + 1 := by
  have quotient := Nat.div_le_self numerator denominator
  unfold roundHalfEven
  dsimp only
  split_ifs <;> omega

/-- A number below the limit stays there when it is rounded to nanoseconds, since a number with a
fraction is far from the limit. -/
theorem roundedTimes_lt_limit_iff {magnitude : Magnitude} (below : magnitude.mantissa < 2 ^ 53) :
    magnitude.roundedTimes nanosecondsPerSecond < Span.limit ↔
      (magnitude.mantissa : ℚ) * 2 ^ magnitude.exponent < 2 ^ 64 := by
  obtain ⟨mantissa, exponent, narrowBelow⟩ := magnitude
  dsimp only at below ⊢
  unfold Magnitude.roundedTimes Span.limit
  dsimp only
  rw [Nat.pow_eq, Nat.pow_eq]
  rcases Int.le_total 0 exponent with whole | fraction
  · obtain ⟨count, rfl⟩ := Int.eq_ofNat_of_zero_le whole
    rw [show (-(count : Int)).toNat = 0 by omega, Int.toNat_natCast, pow_zero, roundHalfEven_one,
      zpow_natCast, mul_right_comm, Nat.mul_lt_mul_right (by decide)]
    exact_mod_cast Iff.rfl
  · have small : roundHalfEven (mantissa * nanosecondsPerSecond * 2 ^ exponent.toNat)
        (2 ^ (-exponent).toNat) ≤ 2 ^ 53 * nanosecondsPerSecond := by
      rw [show exponent.toNat = 0 by omega, pow_zero, mul_one]
      refine (roundHalfEven_le _ _).trans ?_
      rw [show nanosecondsPerSecond = 1000000000 from rfl]
      omega
    refine iff_of_true (small.trans_lt (by decide)) ?_
    calc (mantissa : ℚ) * 2 ^ exponent ≤ mantissa * 1 := by
          gcongr
          exact zpow_le_one_of_nonpos₀ (by norm_num) fraction
      _ < 2 ^ 64 := by
          rw [mul_one]
          exact_mod_cast below.trans (by decide)

end Numeric

namespace Span

/-- A span can tell a number of seconds that is not negative and below `2 ^ 64`. -/
def Tellable (seconds : Float) : Prop :=
  ∃ value, value? seconds = some value ∧ 0 ≤ value ∧ value < 2 ^ 64

theorem exists_ofSeconds_eq_ok_iff {Fault : Type} {seconds : Float} :
    (∃ span, (ofSeconds seconds : Except (Failure Fault) Span) = .ok span) ↔
      Tellable seconds := by
  unfold ofSeconds Tellable value?
  cases decoded : decode seconds with
  | infinite => exact iff_of_false (by rintro ⟨_, ⟨⟩⟩) (by rintro ⟨_, ⟨⟩, _⟩)
  | notANumber => exact iff_of_false (by rintro ⟨_, ⟨⟩⟩) (by rintro ⟨_, ⟨⟩, _⟩)
  | finite negative magnitude =>
    have known (value : ℚ) : (Decoded.finite negative magnitude).value? = some value ↔
        signedValue (signOf negative) magnitude.mantissa magnitude.exponent = value :=
      ⟨Option.some.inj, congrArg some⟩
    have checked : (∃ span, (check ⟨magnitude.roundedTimes nanosecondsPerSecond⟩ :
        Except (Failure Fault) Span) = .ok span) ↔
        (magnitude.mantissa : ℚ) * 2 ^ magnitude.exponent < 2 ^ 64 := by
      simp only [check_eq_ok_iff, exists_eq_left]
      exact roundedTimes_lt_limit_iff (bounds_of_decode decoded).1
    simp only [known, exists_eq_left']
    cases negative with
    | false =>
      have nonneg : (0 : ℚ) ≤ magnitude.mantissa * 2 ^ magnitude.exponent := by positivity
      rw [if_neg (by simp), checked]
      exact iff_and_self.mpr fun _ => nonneg
    | true =>
      rw [show signedValue (signOf true) magnitude.mantissa magnitude.exponent =
        -(magnitude.mantissa * 2 ^ magnitude.exponent) from rfl]
      by_cases none : magnitude.mantissa = 0
      · rw [if_neg (by simp [none]), checked, none]
        norm_num
      · have pos : (0 : ℚ) < magnitude.mantissa * 2 ^ magnitude.exponent := by positivity
        rw [if_pos (by simp [none])]
        refine iff_of_false (by rintro ⟨_, ⟨⟩⟩) ?_
        rintro ⟨low, _⟩
        linarith

section Limits

variable {exact value : ℚ} {number : Float}

theorem tellable_of_le (rounded : Rounded value number) (near : Near 4 exact value)
    (le : exact ≤ 2 ^ 64 - 2 ^ 14) : Tellable number := by
  have high : value ≤ (2 ^ 64 - 2 ^ 14) * (1 + 1 / 2 ^ 53) ^ 4 :=
    near.le_high.trans (mul_le_mul_of_nonneg_right le (by norm_num))
  have gap : value + halfGap value < 2 ^ 64 := by
    have small : (2 : ℚ) ^ (-1075 : Int) ≤ 1 :=
      zpow_le_one_of_nonpos₀ (by norm_num) (by norm_num)
    rw [halfGap, ← max_add_add_left, max_lt_iff]
    generalize (2 : ℚ) ^ (-1075 : Int) = least at *
    constructor <;> norm_num at high ⊢ <;> linarith
  cases known : value? number with
  | none =>
    have wide : (2 : ℚ) ^ 64 ≤ 2 ^ 1023 := pow_le_pow_right₀ (by norm_num) (by decide)
    have bound := wide.trans (rounded.beyond known)
    norm_num at high bound
    linarith
  | some result =>
    obtain ⟨low, within⟩ := rounded.near result known
    exact ⟨result, known, low, by linarith [(abs_le.mp within).2]⟩

theorem not_tellable_of_le (rounded : Rounded value number) (near : Near 4 exact value)
    (le : 2 ^ 64 + 2 ^ 14 ≤ exact) : ¬ Tellable number := by
  rintro ⟨result, known, -, below⟩
  have low : (2 ^ 64 + 2 ^ 14) * (1 - 1 / 2 ^ 53) ^ 4 ≤ value :=
    le_trans (mul_le_mul_of_nonneg_right le (by norm_num)) near.low_le
  have gap : 2 ^ 64 ≤ value - halfGap value := by
    rw [halfGap_of_le]
    · norm_num at low ⊢
      linarith
    · have small : (2 : ℚ) ^ (-1022 : Int) ≤ 1 :=
        zpow_le_one_of_nonpos₀ (by norm_num) (by norm_num)
      exact small.trans (le_trans (by norm_num) low)
  linarith [(abs_le.mp (rounded.near result known).2).1]

end Limits

end Span

/-! ### The time of pulses -/

namespace Numeric

theorem value?_one : value? 1.0 = some 1 := by
  have decoded : decode 1.0 = .finite false ⟨2 ^ 52, -52, true⟩ := by decide +kernel
  rw [value?_of_decode decoded]
  norm_num

theorem value?_twentyFour : value? 24.0 = some 24 := by
  have decoded : decode 24.0 = .finite false ⟨3 * 2 ^ 51, -48, false⟩ := by decide +kernel
  rw [value?_of_decode decoded]
  norm_num

theorem value?_sixty : value? 60.0 = some 60 := by
  have decoded : decode 60.0 = .finite false ⟨15 * 2 ^ 49, -47, false⟩ := by decide +kernel
  rw [value?_of_decode decoded]
  norm_num

end Numeric

/-- The seconds that a number of pulses takes, as they are computed. -/
def pulsesSeconds (pulses : Nat) (bpm : Float) : Float := Float.ofNat pulses / 24.0 * 60.0 / bpm

/-- The seconds from one pulse to the next, as they are computed. -/
def intervalSeconds (bpm : Float) : Float := 60.0 / bpm / 24.0

section Tempos

variable {pulses : Nat} {bpm : Float} {tempo : ℚ}

/-- A whole number is rounded at most twice. -/
theorem exists_near_ofNat (pos : 0 < pulses) (fits : pulses < 2 ^ 64) :
    ∃ value, value? (Float.ofNat pulses) = some value ∧ Near 2 pulses value := by
  have one : (1 : ℚ) ≤ pulses := by exact_mod_cast pos
  have bound : (pulses : ℚ) ≤ 2 ^ 64 := by exact_mod_cast fits.le
  have ordinary : Ordinary pulses :=
    .of_bounds (one.trans' (by norm_num)) (bound.trans (by norm_num))
  rcases lt_or_ge pulses (2 ^ 53) with small | large
  · have same : pulses.toUInt64.toNat = pulses := Nat.mod_eq_of_lt fits
    have converted : Rounded _ pulses.toUInt64.toFloat := rounded_toFloat (by rwa [same])
    rw [same] at converted
    obtain ⟨value, known, near⟩ := converted.exists_near (.refl _) (by decide) ordinary
    have taken := rounded_mul known (near.pos ordinary.pos (by decide)) value?_one one_pos
    rw [mul_one, ← ofNat_of_lt small] at taken
    exact taken.exists_near near (by decide) ordinary
  · obtain ⟨value, known, near⟩ :=
      (rounded_ofNat_of_le large).exists_near (.refl _) (by decide) ordinary
    exact ⟨value, known, near.mono (by positivity) (by decide)⟩

theorem exists_rounded_pulsesSeconds (known : value? bpm = some tempo) (tempoPos : 0 < tempo)
    (pos : 0 < pulses) (fits : pulses < 2 ^ 64) :
    ∃ value, Rounded value (pulsesSeconds pulses bpm) ∧
      Near 4 (pulses / 24 * 60 / tempo) value := by
  have one : (1 : ℚ) ≤ pulses := by exact_mod_cast pos
  have bound : (pulses : ℚ) ≤ 2 ^ 64 := by exact_mod_cast fits.le
  have ordinaryBeats : Ordinary (pulses / 24 : ℚ) := .of_bounds (by linarith) (by linarith)
  have ordinaryTimes : Ordinary (pulses / 24 * 60 : ℚ) := .of_bounds (by linarith) (by linarith)
  obtain ⟨count, countKnown, near⟩ := exists_near_ofNat pos fits
  have divided :=
    rounded_div countKnown (near.pos (by positivity) (by decide)) value?_twentyFour (by norm_num)
  obtain ⟨beats, beatsKnown, near⟩ :=
    divided.exists_near (near.div (by norm_num)) (by decide) ordinaryBeats
  have taken :=
    rounded_mul beatsKnown (near.pos ordinaryBeats.pos (by decide)) value?_sixty (by norm_num)
  obtain ⟨times, timesKnown, near⟩ :=
    taken.exists_near (near.mul (by norm_num)) (by decide) ordinaryTimes
  exact ⟨times / tempo,
    rounded_div timesKnown (near.pos ordinaryTimes.pos (by decide)) known tempoPos,
    near.div tempoPos.le⟩

theorem tellable_pulsesSeconds (known : value? bpm = some tempo) (tempoPos : 0 < tempo)
    (fits : pulses < 2 ^ 64) (le : pulses / 24 * 60 / tempo ≤ 2 ^ 64 - 2 ^ 14) :
    Span.Tellable (pulsesSeconds pulses bpm) := by
  rcases Nat.eq_zero_or_pos pulses with rfl | pos
  -- No pulses take exactly no time; there is no relative error to speak of.
  · have zero : value? (Float.ofNat 0 / 24.0 * 60.0) = some 0 := by
      have decoded : decode (Float.ofNat 0 / 24.0 * 60.0) = .finite false ⟨0, -1074, false⟩ := by
        decide +kernel
      rw [value?_of_decode decoded]
      norm_num
    exact ⟨0, value?_div_of_zero zero known tempoPos, le_rfl, by norm_num⟩
  · obtain ⟨value, rounded, near⟩ := exists_rounded_pulsesSeconds known tempoPos pos fits
    exact Span.tellable_of_le rounded near le

theorem not_tellable_pulsesSeconds (known : value? bpm = some tempo) (tempoPos : 0 < tempo)
    (fits : pulses < 2 ^ 64) (le : 2 ^ 64 + 2 ^ 14 ≤ pulses / 24 * 60 / tempo) :
    ¬ Span.Tellable (pulsesSeconds pulses bpm) := by
  rcases Nat.eq_zero_or_pos pulses with rfl | pos
  · norm_num at le
  · obtain ⟨value, rounded, near⟩ := exists_rounded_pulsesSeconds known tempoPos pos fits
    exact Span.not_tellable_of_le rounded near le

/-- No tempo is so high that the time of a beat would be rounded away. -/
theorem le_sixty_div (known : value? bpm = some tempo) (tempoPos : 0 < tempo) :
    2 ^ (-1021 : Int) ≤ 60 / tempo := by
  rw [le_div_iff₀ tempoPos]
  calc 2 ^ (-1021 : Int) * tempo ≤ 2 ^ (-1021 : Int) * 2 ^ 1024 :=
        mul_le_mul_of_nonneg_left (value_lt known).le (by positivity)
    _ = (2 : ℚ) ^ (3 : Int) := by
        rw [← zpow_natCast, ← zpow_add₀ (by norm_num)]
        rfl
    _ ≤ 60 := by norm_num

theorem rounded_intervalSeconds (known : value? bpm = some tempo) (tempoPos : 0 < tempo)
    {beat : ℚ} (beatKnown : value? (60.0 / bpm) = some beat) :
    Rounded (beat / 24) (intervalSeconds bpm) ∧ Near 4 (60 / tempo / 24) (beat / 24) := by
  have pos : 0 < 60 / tempo := by positivity
  have near := (rounded_div value?_sixty (by norm_num) known tempoPos).near_of_known (.refl _)
    (by decide) (le_sixty_div known tempoPos) beatKnown
  exact ⟨rounded_div beatKnown (near.pos pos (by decide)) value?_twentyFour (by norm_num),
    (near.mono pos.le (by decide)).div (by norm_num)⟩

theorem tellable_intervalSeconds (known : value? bpm = some tempo) (tempoPos : 0 < tempo)
    (le : 60 / tempo / 24 ≤ 2 ^ 64 - 2 ^ 14) : Span.Tellable (intervalSeconds bpm) := by
  cases beatKnown : value? (60.0 / bpm) with
  | none =>
    -- The time of a beat is beyond all numbers only if a pulse is far beyond the limit.
    have beyond := (rounded_div value?_sixty (by norm_num) known tempoPos).beyond beatKnown
    have wide : (2 : ℚ) ^ 70 ≤ 60 / tempo :=
      le_trans (pow_le_pow_right₀ (by norm_num) (by decide)) beyond
    rw [div_le_iff₀ (by norm_num)] at le
    exact absurd (wide.trans le) (by norm_num)
  | some beat =>
    obtain ⟨rounded, near⟩ := rounded_intervalSeconds known tempoPos beatKnown
    exact Span.tellable_of_le rounded near le

theorem not_tellable_intervalSeconds (known : value? bpm = some tempo) (tempoPos : 0 < tempo)
    (le : 2 ^ 64 + 2 ^ 14 ≤ 60 / tempo / 24) : ¬ Span.Tellable (intervalSeconds bpm) := by
  cases beatKnown : value? (60.0 / bpm) with
  | none =>
    rintro ⟨_, told, _⟩
    cases (value?_div_of_none beatKnown value?_twentyFour (by norm_num)).symm.trans told
  | some beat =>
    obtain ⟨rounded, near⟩ := rounded_intervalSeconds known tempoPos beatKnown
    exact Span.not_tellable_of_le rounded near le

end Tempos

/-! ### Parts -/

section Parts

variable {header : PartHeader} {bpm : Float} {slot : Option Nat} {texts : List String}

theorem Part.exists_read_eq_ok_iff {lines : List (Line (List Struck))}
    (inLines : texts.mapM readPartLine = .ok lines) :
    (∃ part, read header bpm slot texts = .ok part) ↔
      Span.Tellable (pulsesSeconds (Line.slots lines * header.division.pulses) bpm) := by
  have built (part : Part) : read header bpm slot texts = .ok part ↔
      ofLines header bpm slot lines = .ok part := by
    rw [read, inLines]
    rfl
  simp only [built]
  rw [exists_ofLines_eq_ok_iff]
  exact Span.exists_ofSeconds_eq_ok_iff

/-- Lines in the notation are read, or one of them is refused. -/
theorem exists_fault_of_mapM_eq_error {failure : Failure SyntaxFault}
    (accepted : ∀ text ∈ texts, ∃ nodes, Notation.readNodes text.toList = .ok nodes)
    (failed : texts.mapM readPartLine = .error failure) : ∃ cause, failure = .fault cause := by
  obtain ⟨text, member, failed⟩ := exists_of_mapM_eq_error failed
  obtain ⟨nodes, inNotation⟩ := accepted text member
  rcases of_readPartLine_eq_error failed with ⟨cause, _, same⟩ | unread
  · exact ⟨cause, same⟩
  · cases inNotation.symm.trans unread

theorem Part.read_eq_breakdown_iff
    (accepted : ∀ text ∈ texts, ∃ nodes, Notation.readNodes text.toList = .ok nodes) :
    (∃ reason, read header bpm slot texts = .error (.breakdown reason)) ↔
      ∃ lines, texts.mapM readPartLine = .ok lines ∧
        ¬ Span.Tellable (pulsesSeconds (Line.slots lines * header.division.pulses) bpm) := by
  constructor
  · rintro ⟨reason, failed⟩
    cases inLines : texts.mapM readPartLine with
    | error failure =>
      have same : failure = .breakdown reason := by
        rw [read, inLines] at failed
        exact Except.error.inj failed
      obtain ⟨cause, rfl⟩ := exists_fault_of_mapM_eq_error accepted inLines
      cases same
    | ok lines =>
      refine ⟨lines, rfl, fun tellable => ?_⟩
      obtain ⟨part, made⟩ := (exists_read_eq_ok_iff inLines).mpr tellable
      cases failed.symm.trans made
  · rintro ⟨lines, inLines, beyond⟩
    cases made : read header bpm slot texts with
    | ok part => exact absurd ((exists_read_eq_ok_iff inLines).mp ⟨part, made⟩) beyond
    | error failure =>
      rcases of_read_eq_error made with unread | rfl
      · cases inLines.symm.trans unread
      · exact ⟨_, rfl⟩

end Parts

/-! ### Tempos that a header may give -/

/-- What can be played at a tempo. -/
structure Timed (bpm : Float) (tempo : ℚ) : Prop where
  /-- A part is made of lines that can be read exactly if a span can tell its time. -/
  part_exists : ∀ header slot texts lines, texts.mapM readPartLine = .ok lines →
    ((∃ part, Part.read header bpm slot texts = .ok part) ↔
      Span.Tellable (pulsesSeconds (Line.slots lines * header.division.pulses) bpm))
  /-- Lines in the notation break down exactly if they can be read and no span can tell their
  time. -/
  part_breaksDown : ∀ header slot texts,
    (∀ text ∈ texts, ∃ nodes, Notation.readNodes text.toList = .ok nodes) →
      ((∃ reason, Part.read header bpm slot texts = .error (.breakdown reason)) ↔
        ∃ lines, texts.mapM readPartLine = .ok lines ∧
          ¬ Span.Tellable (pulsesSeconds (Line.slots lines * header.division.pulses) bpm))
  interval_exists : ∀ Fault : Type,
    (∃ interval, (pulseInterval bpm : Except (Failure Fault) Span) = .ok interval) ↔
      Span.Tellable (intervalSeconds bpm)
  /-- Away from the limit the exact time of the pulses decides. -/
  pulses_within : ∀ pulses : Nat, pulses < 2 ^ 64 →
    (pulses : ℚ) / 24 * 60 / tempo ≤ 2 ^ 64 - 2 ^ 14 → Span.Tellable (pulsesSeconds pulses bpm)
  pulses_beyond : ∀ pulses : Nat, pulses < 2 ^ 64 →
    2 ^ 64 + 2 ^ 14 ≤ (pulses : ℚ) / 24 * 60 / tempo → ¬ Span.Tellable (pulsesSeconds pulses bpm)
  interval_within : 60 / tempo / 24 ≤ 2 ^ 64 - 2 ^ 14 → Span.Tellable (intervalSeconds bpm)
  interval_beyond : 2 ^ 64 + 2 ^ 14 ≤ 60 / tempo / 24 → ¬ Span.Tellable (intervalSeconds bpm)
  /-- From three beats a minute on nothing that can be counted takes too long. -/
  lively : 3 ≤ tempo → Span.Tellable (intervalSeconds bpm) ∧
    ∀ pulses < 2 ^ 64, Span.Tellable (pulsesSeconds pulses bpm)

namespace Settings

variable {metadata : Metadata} {settings : Settings}

theorem isPositiveFinite_of_ofMetadata (read : ofMetadata metadata = .ok settings) :
    isPositiveFinite settings.bpm = true := by
  obtain ⟨number, _, read⟩ := bind_eq_ok_iff.mp read
  obtain ⟨bpm, checked, read⟩ := bind_eq_ok_iff.mp read
  obtain ⟨sync, _, read⟩ := bind_eq_ok_iff.mp read
  obtain ⟨looping, _, read⟩ := bind_eq_ok_iff.mp read
  obtain rfl := Except.ok.inj read
  unfold checkTempo at checked
  split at checked
  · obtain rfl := Except.ok.inj checked
    assumption
  · cases checked

/-- At a tempo that a header may give, a part is made of lines exactly if a span can tell its time,
and there is a time from one pulse to the next exactly if a span can tell that. -/
theorem exists_timed_of_ofMetadata (read : ofMetadata metadata = .ok settings) :
    ∃ tempo, value? settings.bpm = some tempo ∧ 0 < tempo ∧ Timed settings.bpm tempo := by
  obtain ⟨tempo, known, pos⟩ := isPositiveFinite_iff.mp (isPositiveFinite_of_ofMetadata read)
  refine ⟨tempo, known, pos, ?_⟩
  constructor
  case part_exists => exact fun _ _ _ _ inLines => Part.exists_read_eq_ok_iff inLines
  case part_breaksDown => exact fun _ _ _ accepted => Part.read_eq_breakdown_iff accepted
  case interval_exists => exact fun _ => Span.exists_ofSeconds_eq_ok_iff
  case pulses_within => exact fun _ fits le => tellable_pulsesSeconds known pos fits le
  case pulses_beyond => exact fun _ fits le => not_tellable_pulsesSeconds known pos fits le
  case interval_within => exact tellable_intervalSeconds known pos
  case interval_beyond => exact not_tellable_intervalSeconds known pos
  case lively =>
    intro three
    constructor
    · refine tellable_intervalSeconds known pos ?_
      rw [div_div, div_le_iff₀ (by positivity)]
      linarith
    · intro pulses fits
      have bound : (pulses : ℚ) ≤ 2 ^ 64 := by exact_mod_cast fits.le
      refine tellable_pulsesSeconds known pos fits ?_
      rw [div_le_iff₀ pos]
      linarith

/-- A tempo so low that a single step outlasts every span, though a single pulse does not. -/
theorem exists_timed_of_ofMetadata_standstill :
    ∃ settings tempo,
      ofMetadata ⟨[("bpm", .number 0.000000000000000001)]⟩ = .ok settings ∧
        value? settings.bpm = some tempo ∧ 0 < tempo ∧ Timed settings.bpm tempo ∧
        (∃ reason, Part.read ⟨"a", defaultName, 1, .fourth, []⟩ settings.bpm none ["c5"] =
          .error (.breakdown reason)) ∧
        ∃ interval, (pulseInterval settings.bpm : Except (Failure ClockFault) Span) =
          .ok interval := by
  let settings : Settings := { Settings.default with bpm := 0.000000000000000001 }
  have positive : isPositiveFinite 0.000000000000000001 = true := by decide +kernel
  have decoded : decode 0.000000000000000001 =
      .finite false ⟨5192296858534828, -112, false⟩ := by decide +kernel
  have inNotation : (Notation.readNodes "c5".toList).toOption.isSome = true := by decide +kernel
  have inLines : (["c5"].mapM readPartLine).toOption.map Line.slots = some 1 := by decide +kernel
  have read : ofMetadata ⟨[("bpm", .number 0.000000000000000001)]⟩ = .ok settings := by
    have checked : checkTempo 0.000000000000000001 = .ok 0.000000000000000001 := if_pos positive
    exact bind_eq_ok_iff.mpr ⟨_, rfl, bind_eq_ok_iff.mpr ⟨_, checked, rfl⟩⟩
  obtain ⟨tempo, known, pos, timed⟩ := exists_timed_of_ofMetadata read
  have value : tempo = 5192296858534828 * 2 ^ (-112 : Int) :=
    Option.some.inj (known.symm.trans (value?_of_decode decoded))
  have beyond : ¬ Span.Tellable (pulsesSeconds (1 * 24) settings.bpm) :=
    timed.pulses_beyond (1 * 24) (by norm_num) (by rw [value]; norm_num)
  have within : Span.Tellable (intervalSeconds settings.bpm) :=
    timed.interval_within (by rw [value]; norm_num)
  obtain ⟨lines, someLines, slots⟩ := Option.map_eq_some_iff.mp inLines
  refine ⟨settings, tempo, read, known, pos, timed, ?_, (timed.interval_exists _).mpr within⟩
  refine (timed.part_breaksDown _ _ _ ?_).mpr ⟨lines, toOption_eq_some_iff.mp someLines, ?_⟩
  · intro text member
    obtain rfl := List.mem_singleton.mp member
    obtain ⟨nodes, some⟩ := Option.isSome_iff_exists.mp inNotation
    exact ⟨nodes, toOption_eq_some_iff.mp some⟩
  · rw [slots]
    exact beyond

end Settings

end StepSequencer
