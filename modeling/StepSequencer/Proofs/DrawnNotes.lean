/-
This file says that the places of an even spread and its notes do not depend on each other. Where
the pulses lie is a matter of the counts and of the rotation, which moves every pulse by the same
number of steps around the end. What they sound is a matter of the pool and of the seed: a note is
drawn at a pulse and nowhere else, so the pulses read in the order of their steps are the notes of
one stream from its start, however many rests lie between them.
-/

import StepSequencer.Proofs.EvenSpread
import Mathlib.Data.Int.ModEq

namespace StepSequencer.Pattern

/-! ### Places -/

/-- The steps that have a pulse. -/
def pulsePositions (lines : List String) : Finset Nat :=
  (Finset.range lines.length).filter fun step => PulseAt lines step

/-- Where a step is moved to by a rotation around the end of some steps. -/
def movedStep (steps : Nat) (amount : Int) (step : Nat) : Nat := ((step + amount) % steps).toNat

theorem movedStep_lt {steps : Nat} (positive : 0 < steps) (amount : Int) (step : Nat) :
    movedStep steps amount step < steps := by
  have below := Int.emod_lt_of_pos (step + amount) (Int.natCast_pos.mpr positive)
  have atLeast := Int.emod_nonneg (step + amount) (Int.natCast_ne_zero.mpr positive.ne')
  rw [movedStep]
  omega

/-- Moves add up. -/
theorem movedStep_movedStep {steps : Nat} (positive : 0 < steps) (amount more : Int) (step : Nat) :
    movedStep steps more (movedStep steps amount step) = movedStep steps (amount + more) step := by
  have atLeast := Int.emod_nonneg (step + amount) (Int.natCast_ne_zero.mpr positive.ne')
  rw [movedStep, movedStep, movedStep, Int.toNat_of_nonneg atLeast, Int.emod_add_emod,
    Int.add_assoc]

theorem movedStep_zero {steps step : Nat} (within : step < steps) :
    movedStep steps 0 step = step := by
  rw [movedStep, Int.add_zero, ← Int.natCast_emod, Nat.mod_eq_of_lt within, Int.toNat_natCast]

/-- What stands at a step after a rotation stood so many steps before it. -/
theorem getElem?_rotate {Item : Type} (items : List Item) (amount : Int) {step : Nat}
    (within : step < items.length) :
    (rotate items amount)[step]? = items[movedStep items.length (-amount) step]? := by
  have positive : 0 < items.length := Nat.zero_lt_of_lt within
  have below := Int.emod_lt_of_pos amount (Int.natCast_pos.mpr positive)
  have atLeast := Int.emod_nonneg amount (Int.natCast_ne_zero.mpr positive.ne')
  have back : ((step + (items.length - (amount % items.length).toNat) : Nat) : Int) =
      step - amount % items.length + items.length := by omega
  have same : (step + (items.length - (amount % items.length).toNat)) % items.length =
      movedStep items.length (-amount) step := by
    rw [movedStep, ← Int.sub_eq_add_neg, ← Int.toNat_natCast (_ % items.length), Int.natCast_emod,
      back, Int.add_emod_right, Int.sub_emod_emod]
  rw [rotate_eq_rotate, List.getElem?_rotate within, same]

/-- Amounts that are equal up to whole turns move alike. -/
theorem movedStep_congr {steps : Nat} {amount other : Int} (same : amount % steps = other % steps)
    (step : Nat) : movedStep steps amount step = movedStep steps other step := by
  rw [movedStep, movedStep, Int.add_emod, same, ← Int.add_emod]

theorem mem_pulsePositions_iff {lines : List String} {step : Nat} :
    step ∈ pulsePositions lines ↔ (lines.map isPulse)[step]? = some true := by
  rw [pulsePositions, Finset.mem_filter, Finset.mem_range, PulseAt, List.getElem?_map,
    Option.map_eq_some_iff]
  constructor
  · rintro ⟨within, line, found, sounds⟩
    rw [Nat.mod_eq_of_lt within] at found
    exact ⟨line, found, sounds⟩
  · rintro ⟨line, found, sounds⟩
    have within := (List.getElem?_eq_some_iff.mp found).1
    rw [Nat.mod_eq_of_lt within]
    exact ⟨within, line, found, sounds⟩

namespace Euclid

variable {source : NumberSource}

/-- A step has a pulse if the spread has one so many steps before it. -/
theorem mem_pulsePositions_lines_iff {euclid : Euclid} {step : Nat} :
    step ∈ pulsePositions (euclid.lines source) ↔ step < euclid.steps.toNat ∧
      (spread euclid.pulses.toNat euclid.steps.toNat)[
        movedStep euclid.steps.toNat (-euclid.rotation) step]? = some true := by
  rw [mem_pulsePositions_iff, map_isPulse_lines, pattern]
  have length := length_spread euclid.pulses.toNat euclid.steps.toNat
  by_cases within : step < euclid.steps.toNat
  · rw [getElem?_rotate _ _ (length.symm ▸ within), length]
    exact (and_iff_right within).symm
  · have beyond : (rotate (spread euclid.pulses.toNat euclid.steps.toNat)
        euclid.rotation)[step]? = none := by
      rw [List.getElem?_eq_none_iff, length_rotate, length]
      exact Nat.not_lt.mp within
    simp [beyond, within]

variable {first second : Euclid}

/-- The difference of two rotations moves the pulses of one to those of the other. -/
theorem pulsePositions_lines_eq_image (pulses : first.pulses = second.pulses)
    (steps : first.steps = second.steps) :
    pulsePositions (second.lines source) = (pulsePositions (first.lines source)).image
      (movedStep first.steps.toNat (second.rotation - first.rotation)) := by
  ext step
  rw [Finset.mem_image]
  simp only [mem_pulsePositions_lines_iff, ← pulses, ← steps]
  constructor
  · rintro ⟨within, pulse⟩
    have positive := Nat.zero_lt_of_lt within
    have atHome : first.rotation - second.rotation + -first.rotation = -second.rotation := by omega
    have andBack : first.rotation - second.rotation + (second.rotation - first.rotation) = 0 := by
      omega
    refine ⟨movedStep first.steps.toNat (first.rotation - second.rotation) step,
      ⟨movedStep_lt positive _ _, ?_⟩, ?_⟩
    · rwa [movedStep_movedStep positive, atHome]
    · rw [movedStep_movedStep positive, andBack, movedStep_zero within]
  · rintro ⟨before, ⟨within, pulse⟩, rfl⟩
    have positive := Nat.zero_lt_of_lt within
    have atHome : second.rotation - first.rotation + -second.rotation = -first.rotation := by omega
    refine ⟨movedStep_lt positive _ _, ?_⟩
    rwa [movedStep_movedStep positive, atHome]

/-- Whole turns change nothing. -/
theorem pulsePositions_lines_congr (pulses : first.pulses = second.pulses)
    (steps : first.steps = second.steps) (counts : 0 ≤ first.steps)
    (turns : first.rotation % first.steps = second.rotation % first.steps) :
    pulsePositions (second.lines source) = pulsePositions (first.lines source) := by
  have backwards : -second.rotation % first.steps.toNat = -first.rotation % first.steps.toNat := by
    rw [Int.toNat_of_nonneg counts]
    exact (Int.ModEq.neg turns).symm
  ext step
  simp only [mem_pulsePositions_lines_iff, ← pulses, ← steps, movedStep_congr backwards]

end Euclid

/-! ### Notes -/

section Stream

variable (source : NumberSource) (notes : List String)

/-- The place in a stream behind some drawn notes. -/
def placeBehind (count : Nat) (place : source.Place) : source.Place :=
  (fun place => (drawNote source notes place).2)^[count] place

/-- The notes of a pool that a source gives for a seed, counted from 0. -/
def noteAt (seed : UInt64) (index : Nat) : String :=
  (drawNote source notes (placeBehind source notes index (source.ofSeed seed))).1

/-- Rests draw nothing: the pulses have the notes of the stream one after another. -/
theorem filter_isPulse_drawn (pattern : List Bool) (place : source.Place) :
    ((drawn source notes pattern place).map choiceLine).filter isPulse =
      (List.range (pattern.count true)).map fun index =>
        noteLine (drawNote source notes (placeBehind source notes index place)).1 := by
  induction pattern generalizing place with
  | nil => rfl
  | cons pulse rest inductionHypothesis =>
    cases pulse with
    | false =>
      rw [drawn, List.map_cons, List.filter_cons_of_neg (by decide), inductionHypothesis,
        List.count_cons_of_ne (by decide)]
    | true =>
      have sounds : isPulse (choiceLine (some (drawNote source notes place).1)) = true :=
        isPulse_choiceLine _
      rw [drawn, List.map_cons, List.filter_cons_of_pos sounds, inductionHypothesis,
        List.count_cons_self, List.range_succ_eq_map, List.map_cons, List.map_map]
      rfl

end Stream

namespace Euclid

variable {source : NumberSource} {first second : Euclid}

theorem Possible.filter_isPulse_lines (possible : first.Possible) :
    (first.lines source).filter isPulse = (List.range first.pulses.toNat).map fun index =>
      noteLine (noteAt source first.notes first.seed index) := by
  rw [lines, choices, filter_isPulse_drawn, possible.count_pattern]
  rfl

/-- Of two generations with one pool and one seed, the one with fewer pulses has the first notes of
the other. -/
theorem Possible.filter_isPulse_prefix (possible : first.Possible) (alsoPossible : second.Possible)
    (notes : first.notes = second.notes) (seed : first.seed = second.seed)
    (fewer : first.pulses ≤ second.pulses) :
    (first.lines source).filter isPulse <+: (second.lines source).filter isPulse := by
  have bound : first.pulses.toNat ≤ second.pulses.toNat := Int.toNat_le_toNat fewer
  rw [possible.filter_isPulse_lines, alsoPossible.filter_isPulse_lines, notes, seed,
    ← Nat.min_eq_left bound, ← List.take_range]
  exact (List.take_prefix _ _).map _

/-- What a line sounds is from the pool. -/
theorem Possible.exists_note (possible : first.Possible) {line : String}
    (member : line ∈ first.lines source) (sounds : line ≠ "") :
    ∃ note ∈ first.notes, line = note ++ ":1" := by
  obtain ⟨choice, chosen, rfl⟩ := List.mem_map.mp member
  cases choice with
  | none => exact absurd rfl sounds
  | some note => exact ⟨note, mem_of_mem_drawn source possible.notes chosen, rfl⟩

/-- Rotation and seed of even spreads act apart. With the same counts, the difference of the
rotations moves the pulses of one generation to those of the other, and whole turns change nothing,
whatever the pools and the seeds are. A line that is a pulse holds a note of the pool for one step.
With one pool and one seed, two generations have the same notes in the order of their steps for as
long as both have pulses, whatever the counts and the rotations are: the notes are those of one
stream, which only depends on pool and seed. All this holds for every source of numbers. -/
theorem rotation_and_seed_act_apart (source : NumberSource) (possible : first.Possible)
    (alsoPossible : second.Possible) :
    ∃ lines others, first.generate source = .ok lines ∧ second.generate source = .ok others ∧
      (first.pulses = second.pulses → first.steps = second.steps →
        pulsePositions others = (pulsePositions lines).image
          (movedStep first.steps.toNat (second.rotation - first.rotation)) ∧
        (first.rotation % first.steps = second.rotation % first.steps →
          pulsePositions others = pulsePositions lines)) ∧
      (∀ line ∈ lines, line ≠ "" → ∃ note ∈ first.notes, line = note ++ ":1") ∧
      lines.filter isPulse = ((List.range first.pulses.toNat).map fun index =>
        noteLine (noteAt source first.notes first.seed index)) ∧
      (first.notes = second.notes → first.seed = second.seed →
        lines.filter isPulse <+: others.filter isPulse ∨
          others.filter isPulse <+: lines.filter isPulse) := by
  refine ⟨_, _, possible.generate_eq source, alsoPossible.generate_eq source, ?places,
    fun line => possible.exists_note, possible.filter_isPulse_lines, ?common⟩
  case places =>
    intro pulses steps
    exact ⟨pulsePositions_lines_eq_image pulses steps, pulsePositions_lines_congr pulses steps
      (possible.positive.trans possible.upTo)⟩
  case common =>
    intro notes seed
    rcases Int.le_total first.pulses second.pulses with fewer | fewer
    · exact .inl (possible.filter_isPulse_prefix alsoPossible notes seed fewer)
    · exact .inr (alsoPossible.filter_isPulse_prefix possible notes.symm seed.symm fewer)

/-- Three pulses in eight steps. -/
def threeInEight : Euclid := ⟨3, 8, ["c2", "d2", "e2"], 1, 7⟩

/-- The same counts, turned to the left, with another pool and another seed. -/
def threeTurnedBack : Euclid := ⟨3, 8, ["g4", "F#m7b5/E"], -9, 40⟩

/-- Other counts and another rotation, with the first pool and its seed. -/
def fiveInThirteen : Euclid := ⟨5, 13, ["c2", "d2", "e2"], -9, 7⟩

/-- The pulses at the steps 0, 3 and 6 move ten steps to the left, to 6, 1 and 4. The three notes of
the first generation are the first three of the last one. -/
theorem rotation_and_seed_act_apart_threeInEight :
    threeInEight.Possible ∧ threeTurnedBack.Possible ∧ fiveInThirteen.Possible ∧
      (∃ lines others, threeInEight.generate cipherSource = .ok lines ∧
        threeTurnedBack.generate cipherSource = .ok others ∧
        pulsePositions lines = {0, 3, 6} ∧ pulsePositions others = {6, 1, 4} ∧
        pulsePositions others = (pulsePositions lines).image (movedStep 8 (-10))) ∧
      ∃ lines others, threeInEight.generate cipherSource = .ok lines ∧
        fiveInThirteen.generate cipherSource = .ok others ∧
        lines.filter isPulse = ["c2:1", "c2:1", "d2:1"] ∧
        (lines.filter isPulse <+: others.filter isPulse ∨
          others.filter isPulse <+: lines.filter isPulse) := by
  have three : threeInEight.Possible := ⟨by decide, by decide, by decide⟩
  have turned : threeTurnedBack.Possible := ⟨by decide, by decide, by decide⟩
  have five : fiveInThirteen.Possible := ⟨by decide, by decide, by decide⟩
  have known : (threeInEight.generate cipherSource).toOption =
      some ["c2:1", "", "", "c2:1", "", "", "d2:1", ""] := by decide +kernel
  refine ⟨three, turned, five, ?_, ?_⟩
  · obtain ⟨lines, others, done, also, places, _⟩ :=
      rotation_and_seed_act_apart cipherSource three turned
    have moved := (places rfl rfl).1
    have first : pulsePositions lines = {0, 3, 6} := by
      rw [toOption_eq_some_iff.mpr done] at known
      rw [Option.some.inj known]
      decide
    refine ⟨lines, others, done, also, first, ?_, moved⟩
    rw [moved, first]
    decide
  · obtain ⟨lines, others, done, also, _, _, _, common⟩ :=
      rotation_and_seed_act_apart cipherSource three five
    refine ⟨lines, others, done, also, ?_, common rfl rfl⟩
    rw [toOption_eq_some_iff.mpr done] at known
    rw [Option.some.inj known]
    decide

end Euclid

end StepSequencer.Pattern
