/-
This file says how even an even spread is. Over some steps a bucket gives as many pulses as its
level and all that flows in make whole fills. A spread that is turned around its end is again what a
bucket gives, and only the level at the start is another. So the steps of any window, also one
around the end and also after a rotation, have the pulses of a bucket that starts below its brim,
and two such counts differ by at most one. From this the gaps between neighbouring pulses follow:
where one gap is two steps longer than another, the steps inside it have no pulse, while as many
steps around the shorter one have two.
-/

import StepSequencer.Proofs.GeneratedParts
import Mathlib.Data.List.Rotate

namespace StepSequencer.Pattern

/-! ### The bucket -/

section Bucket

variable {pulses steps level : Nat}

/-- A bucket gives a pulse whenever it is full. -/
theorem count_fillBucket (upTo : pulses ≤ steps) (count : Nat) (below : level < steps) :
    (fillBucket pulses steps count level).count true = (level + count * pulses) / steps := by
  induction count generalizing level with
  | zero =>
    rw [Nat.zero_mul, Nat.add_zero, Nat.div_eq_of_lt below]
    rfl
  | succ count inductionHypothesis =>
    rw [fillBucket, Nat.succ_mul]
    by_cases full : steps ≤ level + pulses
    · have inflow : level + (count * pulses + pulses) =
          level + pulses - steps + count * pulses + steps := by omega
      rw [if_pos full, List.count_cons_self, inductionHypothesis (by omega), inflow,
        Nat.add_div_right _ (Nat.zero_lt_of_lt below)]
    · have inflow : level + (count * pulses + pulses) = level + pulses + count * pulses := by omega
      rw [if_neg full, List.count_cons_of_ne (by decide), inductionHypothesis (by omega), inflow]

/-- What a bucket gives later depends on the level that it has reached by then. -/
theorem fillBucket_add (upTo : pulses ≤ steps) (count later : Nat) (below : level < steps) :
    fillBucket pulses steps (count + later) level =
      fillBucket pulses steps count level ++
        fillBucket pulses steps later ((level + count * pulses) % steps) := by
  induction count generalizing level with
  | zero => simp [fillBucket, Nat.mod_eq_of_lt below]
  | succ count inductionHypothesis =>
    rw [Nat.add_right_comm, fillBucket, fillBucket, Nat.succ_mul]
    by_cases full : steps ≤ level + pulses
    · have inflow : level + (count * pulses + pulses) =
          level + pulses - steps + count * pulses + steps := by omega
      rw [if_pos full, if_pos full, inductionHypothesis (by omega), inflow, Nat.add_mod_right,
        List.cons_append]
    · have inflow : level + (count * pulses + pulses) = level + pulses + count * pulses := by omega
      rw [if_neg full, if_neg full, inductionHypothesis (by omega), inflow, List.cons_append]

theorem length_spread (pulses steps : Nat) : (spread pulses steps).length = steps :=
  length_fillBucket pulses steps steps 0

theorem count_spread (upTo : pulses ≤ steps) : (spread pulses steps).count true = pulses := by
  rcases Nat.eq_zero_or_pos steps with rfl | positive
  · exact (Nat.le_zero.mp upTo).symm
  · rw [spread, count_fillBucket upTo steps positive, Nat.zero_add,
      Nat.mul_div_cancel_left _ positive]

/-- A spread that is turned is what a bucket gives that starts at another level. -/
theorem rotate_spread (upTo : pulses ≤ steps) (start : Nat) :
    (spread pulses steps).rotate start =
      fillBucket pulses steps steps (start * pulses % steps) := by
  rcases Nat.eq_zero_or_pos steps with rfl | positive
  · simp [spread, fillBucket]
  · have within : start % steps < steps := Nat.mod_lt start positive
    have reached : start % steps * pulses % steps = start * pulses % steps := by
      simp [Nat.mul_mod]
    have split : spread pulses steps = fillBucket pulses steps (start % steps) 0 ++
        fillBucket pulses steps (steps - start % steps) (start * pulses % steps) := by
      have added := fillBucket_add upTo (start % steps) (steps - start % steps) positive
      rwa [Nat.add_sub_cancel' within.le, Nat.zero_add, reached] at added
    have emptied : (start * pulses % steps + (steps - start % steps) * pulses) % steps = 0 := by
      rw [← reached, Nat.mod_add_mod, ← Nat.add_mul, Nat.add_sub_cancel' within.le,
        Nat.mul_mod_right]
    have joined := fillBucket_add upTo (steps - start % steps) (start % steps)
      (Nat.mod_lt (start * pulses) positive)
    rw [Nat.sub_add_cancel within.le, emptied] at joined
    have turned := List.rotate_append_length_eq (fillBucket pulses steps (start % steps) 0)
      (fillBucket pulses steps (steps - start % steps) (start * pulses % steps))
    rw [length_fillBucket] at turned
    rw [← List.rotate_mod, length_spread, split, turned, joined]

end Bucket

/-! ### Windows -/

/-- Some steps in a row, around the end where it comes. -/
def window {Item : Type} (items : List Item) (start width : Nat) : List Item :=
  (items.rotate start).take width

section Window

variable {Item : Type} {items : List Item} {start width : Nat}

theorem getElem?_window (within : width ≤ items.length) {ahead : Nat} (inside : ahead < width) :
    (window items start width)[ahead]? = items[(start + ahead) % items.length]? := by
  rw [window, List.getElem?_take_of_lt inside, List.getElem?_rotate (by omega), Nat.add_comm]

theorem window_add (start width later : Nat) (within : width + later ≤ items.length) :
    window items start (width + later) =
      window items start width ++ window items (start + width) later := by
  rw [window, window, window, List.take_add, ← List.rotate_rotate]
  generalize turned : items.rotate start = ahead
  have length : ahead.length = items.length := by rw [← turned, List.length_rotate]
  have behind : later ≤ (ahead.drop width).length := by
    rw [List.length_drop]
    omega
  have front : width ≤ ahead.length := by omega
  rw [List.rotate_eq_drop_append_take front, List.take_append_of_le_length behind]

theorem map_window {Other : Type} (read : Item → Other) (items : List Item) (start width : Nat) :
    (window items start width).map read = window (items.map read) start width := by
  rw [window, window, List.map_take, List.map_rotate]

end Window

/-- A rotation turns a list around its end. -/
theorem rotate_eq_rotate {Item : Type} (items : List Item) (amount : Int) :
    rotate items amount = items.rotate (items.length - (amount % items.length).toNat) :=
  (List.rotate_eq_drop_append_take (Nat.sub_le _ _)).symm

/-- The windows of an even spread have as many pulses as their share of the steps makes whole, or
one more. -/
theorem count_window_spread {pulses steps width : Nat} (upTo : pulses ≤ steps) (start : Nat)
    (within : width ≤ steps) :
    width * pulses / steps ≤ (window (spread pulses steps) start width).count true ∧
      (window (spread pulses steps) start width).count true ≤ width * pulses / steps + 1 := by
  rcases Nat.eq_zero_or_pos steps with rfl | positive
  · simp [window, spread, fillBucket]
  · have below : start * pulses % steps < steps := Nat.mod_lt _ positive
    have split := fillBucket_add upTo width (steps - width) below
    rw [Nat.add_sub_cancel' within, ← rotate_spread upTo] at split
    rw [window, split, List.take_left' (length_fillBucket _ _ _ _),
      count_fillBucket upTo width below]
    constructor
    · exact Nat.div_le_div_right (Nat.le_add_left _ _)
    · rw [← Nat.add_div_left _ positive]
      exact Nat.div_le_div_right (Nat.add_le_add_right below.le _)

/-! ### Generated lines -/

theorem countP_eq_count_map {Item : Type} (test : Item → Bool) (items : List Item) :
    items.countP test = (items.map test).count true := by
  rw [List.count, List.countP_map]
  exact List.countP_congr fun item _ => by simp

/-- Whether a generated line is a pulse; a step without one has an empty line. -/
def isPulse (line : String) : Bool := line != ""

theorem isPulse_choiceLine (choice : Option String) :
    isPulse (choiceLine choice) = choice.isSome := by
  cases choice with
  | none => rfl
  | some entry =>
    have ends : (noteLine entry).toList ≠ [] := by simp [noteLine]
    have filled : noteLine entry ≠ "" := fun empty => ends (empty ▸ rfl)
    simpa [isPulse, choiceLine] using filled

/-- Whether a step has a pulse; the steps go on around the end. -/
def PulseAt (lines : List String) (step : Nat) : Prop :=
  ∃ line ∈ lines[step % lines.length]?, isPulse line = true

instance (lines : List String) (step : Nat) : Decidable (PulseAt lines step) :=
  inferInstanceAs (Decidable (∃ line ∈ lines[step % lines.length]?, _))

/-- Whether the pulse at a step is followed by the next one after a number of steps. A single pulse
is followed by itself. -/
structure Gap (lines : List String) (step gap : Nat) : Prop where
  starts : PulseAt lines step
  positive : 0 < gap
  ends : PulseAt lines (step + gap)
  between : ∀ ahead < gap, 0 < ahead → ¬ PulseAt lines (step + ahead)

/-- Whether pulses are spread as evenly as can be: no window has two pulses more than another one of
the same width, and no gap is two steps longer than another. -/
structure EvenlySpread (lines : List String) : Prop where
  windows : ∀ width ≤ lines.length, ∀ start other,
    (window lines start width).countP isPulse ≤ (window lines other width).countP isPulse + 1
  gaps : ∀ step other gap shorter, Gap lines step gap → Gap lines other shorter →
    gap ≤ shorter + 1

section Gaps

variable {lines : List String} {step gap : Nat}

theorem PulseAt.length_pos (pulse : PulseAt lines step) : 0 < lines.length := by
  obtain ⟨line, found, _⟩ := pulse
  exact Nat.zero_lt_of_lt (List.getElem?_eq_some_iff.mp found).1

theorem pulseAt_add_length (step : Nat) :
    PulseAt lines (step + lines.length) ↔ PulseAt lines step := by
  rw [PulseAt, PulseAt, Nat.add_mod_right]

/-- The next pulse is met at the latest after all steps. -/
theorem Gap.le_length (next : Gap lines step gap) : gap ≤ lines.length := by
  by_contra beyond
  exact next.between lines.length (Nat.not_le.mp beyond) next.starts.length_pos
    ((pulseAt_add_length step).mpr next.starts)

theorem window_one (step : Nat) (some : 0 < lines.length) :
    window lines step 1 = lines[step % lines.length]?.toList := by
  rw [window, List.take_one, List.head?_eq_getElem?, List.getElem?_rotate some, Nat.zero_add]

/-- The window of a single step counts its pulse. -/
theorem PulseAt.countP_window_one (pulse : PulseAt lines step) :
    (window lines step 1).countP isPulse = 1 := by
  have some := pulse.length_pos
  obtain ⟨line, found, sounds⟩ := pulse
  rw [window_one step some, Option.mem_def.mp found]
  simp [sounds]

/-- A gap from the first step behind its pulse on has no pulse. -/
theorem Gap.countP_window_eq_zero (next : Gap lines step gap) {width : Nat} (inside : width < gap) :
    (window lines (step + 1) width).countP isPulse = 0 := by
  rw [List.countP_eq_zero]
  intro line member sounds
  have within : width ≤ lines.length := (inside.trans_le next.le_length).le
  obtain ⟨ahead, found⟩ := List.mem_iff_getElem?.mp member
  have before : ahead < width := by
    have bound := (List.getElem?_eq_some_iff.mp found).1
    rw [window, List.length_take] at bound
    omega
  rw [getElem?_window within before, Nat.add_assoc] at found
  exact next.between (1 + ahead) (by omega) (by omega) ⟨line, found, sounds⟩

/-- The window from one pulse to the next one has two. -/
theorem Gap.two_le_countP_window (next : Gap lines step gap) (short : gap < lines.length) :
    2 ≤ (window lines step (gap + 1)).countP isPulse := by
  obtain ⟨inner, rfl⟩ := Nat.exists_eq_add_of_lt next.positive
  have first := next.starts.countP_window_one
  have last := next.ends.countP_window_one
  rw [window_add step _ 1 (by omega), List.countP_append, last, Nat.zero_add, Nat.add_comm inner,
    window_add step 1 inner (by omega), List.countP_append, first]
  omega

/-- If windows have the same pulses up to one, gaps have the same steps up to one. -/
theorem gap_le_of_windows
    (windows : ∀ width ≤ lines.length, ∀ start other,
      (window lines start width).countP isPulse ≤ (window lines other width).countP isPulse + 1)
    {other shorter : Nat} (longNext : Gap lines step gap) (next : Gap lines other shorter) :
    gap ≤ shorter + 1 := by
  by_contra longer
  have inside : shorter + 1 < gap := Nat.not_le.mp longer
  have whole := longNext.le_length
  have none := longNext.countP_window_eq_zero inside
  have two := next.two_le_countP_window (by omega)
  have close := windows (shorter + 1) (by omega) other (step + 1)
  omega

end Gaps

/-! ### Even spreads as generated lines -/

namespace Euclid

/-- Whether an even spread can be generated: there are no more pulses than steps, and some notes. -/
structure Possible (euclid : Euclid) : Prop where
  positive : 0 ≤ euclid.pulses
  upTo : euclid.pulses ≤ euclid.steps
  notes : euclid.notes ≠ []

/-- The lines of an even spread that draws from a source. -/
def lines (source : NumberSource) (euclid : Euclid) : List String :=
  (euclid.choices source).map choiceLine

variable {euclid : Euclid}

theorem Possible.generate_eq (possible : euclid.Possible) (source : NumberSource) :
    euclid.generate source = .ok (euclid.lines source) := by
  obtain ⟨positive, upTo, notes⟩ := possible
  have counts : ¬ (euclid.pulses < 0 ∨ euclid.steps < 0) := by omega
  rw [generate, if_neg counts, if_neg (Int.not_lt.mpr upTo), if_neg (by simpa using notes)]
  exact congrArg _ (sounded_eq_map _ _ _ _)

/-- The lines that are pulses are those of the pattern. -/
theorem map_isPulse_lines (source : NumberSource) (euclid : Euclid) :
    (euclid.lines source).map isPulse = euclid.pattern := by
  rw [lines, List.map_map,
    ← map_isSome_drawn source euclid.notes euclid.pattern (source.ofSeed euclid.seed)]
  exact List.map_congr_left fun choice _ => isPulse_choiceLine choice

theorem length_lines (source : NumberSource) (euclid : Euclid) :
    (euclid.lines source).length = euclid.steps.toNat := by
  rw [lines, List.length_map, length_choices]

theorem countP_window_lines (source : NumberSource) (euclid : Euclid) (start width : Nat) :
    (window (euclid.lines source) start width).countP isPulse =
      (window euclid.pattern start width).count true := by
  rw [countP_eq_count_map, map_window, map_isPulse_lines]

/-- A window of the pattern is one of the spread before it was rotated. -/
theorem exists_window_pattern (euclid : Euclid) (start width : Nat) :
    ∃ turned, window euclid.pattern start width =
      window (spread euclid.pulses.toNat euclid.steps.toNat) turned width := by
  rw [pattern, rotate_eq_rotate, window, List.rotate_rotate]
  exact ⟨_, rfl⟩

theorem Possible.count_pattern (possible : euclid.Possible) :
    euclid.pattern.count true = euclid.pulses.toNat := by
  rw [pattern, rotate_eq_rotate, (List.rotate_perm _ _).count_eq,
    count_spread (Int.toNat_le_toNat possible.upTo)]

/-- The windows of the lines, in numbers. -/
theorem Possible.countP_window (possible : euclid.Possible) (source : NumberSource) {width : Nat}
    (within : width ≤ euclid.steps.toNat) (start : Nat) :
    width * euclid.pulses.toNat / euclid.steps.toNat ≤
        (window (euclid.lines source) start width).countP isPulse ∧
      (window (euclid.lines source) start width).countP isPulse ≤
        width * euclid.pulses.toNat / euclid.steps.toNat + 1 := by
  obtain ⟨turned, same⟩ := euclid.exists_window_pattern start width
  rw [countP_window_lines, same]
  exact count_window_spread (Int.toNat_le_toNat possible.upTo) turned within

/-- An even spread is generated whenever it is possible. It has all its steps and all its pulses,
and it is as even as can be, whatever its rotation, its notes and its seed, and whatever source it
draws from. -/
theorem generate_evenlySpread (possible : euclid.Possible) (source : NumberSource) :
    ∃ lines, euclid.generate source = .ok lines ∧ (lines.length : Int) = euclid.steps ∧
      (lines.countP isPulse : Int) = euclid.pulses ∧ EvenlySpread lines := by
  have windows : ∀ width ≤ (euclid.lines source).length, ∀ start other,
      (window (euclid.lines source) start width).countP isPulse ≤
        (window (euclid.lines source) other width).countP isPulse + 1 := by
    intro width within start other
    rw [length_lines] at within
    exact (possible.countP_window source within start).2.trans
      (Nat.succ_le_succ (possible.countP_window source within other).1)
  refine ⟨_, possible.generate_eq source, ?steps, ?pulses, windows,
    fun _ _ _ _ => gap_le_of_windows windows⟩
  case steps =>
    rw [length_lines]
    exact Int.toNat_of_nonneg (possible.positive.trans possible.upTo)
  case pulses =>
    rw [countP_eq_count_map, map_isPulse_lines, possible.count_pattern]
    exact Int.toNat_of_nonneg possible.positive

/-- Five pulses in thirteen steps, turned to the left. They cannot all be equally far apart: one is
followed after two steps, another one after three. -/
theorem generate_evenlySpread_unequalGaps :
    ∃ euclid : Euclid, euclid.Possible ∧ ∃ lines, euclid.generate cipherSource = .ok lines ∧
      lines.length = 13 ∧ lines.countP isPulse = 5 ∧ EvenlySpread lines ∧
      Gap lines 2 2 ∧ Gap lines 4 3 := by
  have possible : Possible ⟨5, 13, ["c#4", "Bb7#9"], -3, 7⟩ := ⟨by decide, by decide, by decide⟩
  obtain ⟨lines, done, length, pulses, even⟩ := generate_evenlySpread possible cipherSource
  have known : lines = ["", "", "c#4:1", "", "c#4:1", "", "", "Bb7#9:1", "", "c#4:1", "", "",
      "c#4:1"] :=
    Option.some.inj ((toOption_eq_some_iff.mpr done).symm.trans (by decide +kernel))
  refine ⟨_, possible, lines, done, Int.ofNat.inj length, Int.ofNat.inj pulses, even, ?_, ?_⟩
  · subst known
    exact ⟨by decide, by decide, by decide, by decide⟩
  · subst known
    exact ⟨by decide, by decide, by decide, by decide⟩

end Euclid

end StepSequencer.Pattern
