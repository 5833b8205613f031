/-
This file is about the shape of arrangements. Arrangements nest, so a statement about all of them is
proved by induction on the nesting: it may be assumed for every arrangement among the voices. The
stages of an arrangement come from its lines, and this file says what that is worth: the pacer of
such a stage has one pulse a step and is at least as long as every part beside it. Last, the pulses
of an arrangement, which are defined along its structure, are put as sums and bounds over lists.
-/

import StepSequencer.Score.Playable

namespace StepSequencer

/-! ### Induction on the nesting -/

namespace Stage

def arrangements (voices : List Playable) : List (Arrangement Playable) :=
  voices.filterMap Playable.arrangement?

@[simp]
theorem arrangements_part (single : Part) (voices : List Playable) :
    arrangements (.part single :: voices) = arrangements voices := rfl

@[simp]
theorem arrangements_arrangement (inner : Arrangement Playable) (voices : List Playable) :
    arrangements (.arrangement inner :: voices) = inner :: arrangements voices := rfl

@[simp]
theorem parts_part (single : Part) (voices : List Playable) :
    parts (.part single :: voices) = single :: parts voices := rfl

@[simp]
theorem parts_arrangement (inner : Arrangement Playable) (voices : List Playable) :
    parts (.arrangement inner :: voices) = parts voices := rfl

@[simp]
theorem mem_arrangements {voices : List Playable} {inner : Arrangement Playable} :
    inner ∈ arrangements voices ↔ .arrangement inner ∈ voices := by
  rw [arrangements, List.mem_filterMap]
  constructor
  · rintro ⟨voice, member, found⟩
    cases voice with
    | part single => exact absurd found (by simp [Playable.arrangement?])
    | arrangement other =>
      obtain rfl : other = inner := Option.some.inj found
      exact member
  · intro member
    exact ⟨.arrangement inner, member, rfl⟩

@[simp]
theorem mem_parts {voices : List Playable} {part : Part} :
    part ∈ parts voices ↔ .part part ∈ voices := by
  rw [parts, List.mem_filterMap]
  constructor
  · rintro ⟨voice, member, found⟩
    cases voice with
    | part single =>
      obtain rfl : single = part := Option.some.inj found
      exact member
    | arrangement other => exact absurd found (by simp [Playable.part?])
  · intro member
    exact ⟨.part part, member, rfl⟩

end Stage

namespace Arrangement

theorem sizeOf_lt_of_nested {arrangement inner : Arrangement Playable} {stage : Stage Playable}
    (member : stage ∈ arrangement.stages) (voice : inner ∈ Stage.arrangements stage.voices) :
    sizeOf inner < sizeOf arrangement := by
  have inVoices : sizeOf (Playable.arrangement inner) < sizeOf stage.voices :=
    List.sizeOf_lt_of_mem (Stage.mem_arrangements.mp voice)
  have inStages : sizeOf stage < sizeOf arrangement.stages := List.sizeOf_lt_of_mem member
  cases arrangement
  cases stage
  simp only [Arrangement.mk.sizeOf_spec, Stage.mk.sizeOf_spec,
    Playable.arrangement.sizeOf_spec] at inVoices inStages ⊢
  omega

/-- What holds for an arrangement as soon as it holds for every arrangement among its voices holds
for all arrangements. -/
theorem nesting_induction {motive : Arrangement Playable → Prop}
    (step : ∀ arrangement : Arrangement Playable,
      (∀ stage ∈ arrangement.stages, ∀ inner ∈ Stage.arrangements stage.voices, motive inner) →
        motive arrangement)
    (arrangement : Arrangement Playable) : motive arrangement :=
  step arrangement fun _ member inner voice =>
    have := sizeOf_lt_of_nested member voice
    nesting_induction step inner
termination_by sizeOf arrangement

/-- A stage of an arrangement, or of one that is nested in it at any depth. -/
inductive HasStage : Arrangement Playable → Stage Playable → Prop
  | own {arrangement : Arrangement Playable} {stage : Stage Playable}
      (member : stage ∈ arrangement.stages) : HasStage arrangement stage
  | nested {arrangement inner : Arrangement Playable} {outer stage : Stage Playable}
      (member : outer ∈ arrangement.stages) (voice : inner ∈ Stage.arrangements outer.voices)
      (deeper : HasStage inner stage) : HasStage arrangement stage

end Arrangement

/-! ### Stages that come from lines -/

/-- The stages that lines give: sounding copies and silent ones. -/
inductive Stage.Expanded : Stage Playable → Prop
  | sounding (voices : List Playable) : Expanded (Stage.ofVoices voices)
  | silent (voices : List Playable) : Expanded (Stage.ofVoices voices).rest

/-- Whether all stages of an arrangement, nested ones included, come from lines. -/
def Arrangement.Formed (arrangement : Arrangement Playable) : Prop :=
  ∀ stage, arrangement.HasStage stage → stage.Expanded

namespace Arrangement.Formed

theorem own {arrangement : Arrangement Playable} (formed : arrangement.Formed)
    {stage : Stage Playable} (member : stage ∈ arrangement.stages) : stage.Expanded :=
  formed stage (.own member)

theorem nested {arrangement : Arrangement Playable} (formed : arrangement.Formed)
    {stage : Stage Playable} (member : stage ∈ arrangement.stages)
    {inner : Arrangement Playable} (voice : inner ∈ Stage.arrangements stage.voices) :
    inner.Formed :=
  fun _ deeper => formed _ (.nested member voice deeper)

theorem inner_of_hasStage {arrangement : Arrangement Playable} (formed : arrangement.Formed)
    {stage : Stage Playable} (has : arrangement.HasStage stage) {inner : Arrangement Playable}
    (voice : inner ∈ Stage.arrangements stage.voices) : inner.Formed := by
  induction has with
  | own member => exact formed.nested member voice
  | nested member outer deeper inductionHypothesis =>
    exact inductionHypothesis (formed.nested member outer) voice

end Arrangement.Formed

theorem le_greatest {numbers : List Nat} {number : Nat} (member : number ∈ numbers) :
    number ≤ greatest numbers := by
  induction numbers with
  | nil => cases member
  | cons head rest inductionHypothesis =>
    rcases List.mem_cons.mp member with rfl | inRest
    · exact Nat.le_max_left _ _
    · exact Nat.le_trans (inductionHypothesis inRest) (Nat.le_max_right _ _)

namespace Part

@[simp]
theorem pacer_length (length : Nat) (due : Nat → List Message) :
    (pacer length due).length = length := by
  simp [pacer, Part.length]

@[simp]
theorem pacer_division (length : Nat) (due : Nat → List Message) :
    (pacer length due).division = .pulse := rfl

end Part

namespace Stage.Expanded

theorem pacer_division {stage : Stage Playable} (expanded : stage.Expanded) :
    stage.pacer.division = .pulse := by
  cases expanded <;> rfl

/-- A pacer is at least as long as every part beside it. -/
theorem pulses_le {stage : Stage Playable} (expanded : stage.Expanded) {part : Part}
    (member : part ∈ Stage.parts stage.voices) : part.pulses ≤ stage.pacer.length := by
  cases expanded with
  | sounding voices =>
    rw [Stage.ofVoices, Part.pacer_length]
    exact le_greatest (List.mem_map_of_mem member)
  | silent voices => cases member

end Stage.Expanded

/-! ### Pulses as sums and bounds -/

namespace Playable

theorem arrangementPulses_eq (arrangement : Arrangement Playable) :
    arrangementPulses arrangement = stagesPulses arrangement.stages := by
  cases arrangement
  rfl

theorem stagePulses_eq (stage : Stage Playable) :
    stagePulses stage = max stage.pacer.length (voicesPulses stage.voices) := by
  cases stage
  rfl

theorem stagesPulses_append (stages later : List (Stage Playable)) :
    stagesPulses (stages ++ later) = stagesPulses stages + stagesPulses later := by
  induction stages with
  | nil => exact (Nat.zero_add _).symm
  | cons stage rest inductionHypothesis =>
    rw [List.cons_append, stagesPulses, stagesPulses, inductionHypothesis, Nat.add_assoc]

/-- The nested arrangements among some voices are over by a pulse when each of them is. -/
theorem voicesPulses_le_iff {voices : List Playable} {bound : Nat} :
    voicesPulses voices ≤ bound ↔
      ∀ inner ∈ Stage.arrangements voices, arrangementPulses inner ≤ bound := by
  induction voices with
  | nil => simp [voicesPulses, Stage.arrangements]
  | cons voice rest inductionHypothesis =>
    have split : voicesPulses (voice :: rest) ≤ bound ↔
        pulses voice ≤ bound ∧ voicesPulses rest ≤ bound := by
      rw [voicesPulses]
      exact Nat.max_le
    rw [split, inductionHypothesis]
    cases voice <;> simp [pulses]

/-- A stage is over by a pulse when its pacer and all its nested arrangements are. -/
theorem stagePulses_le_iff {stage : Stage Playable} {bound : Nat} :
    stagePulses stage ≤ bound ↔ stage.pacer.length ≤ bound ∧
      ∀ inner ∈ Stage.arrangements stage.voices, arrangementPulses inner ≤ bound := by
  rw [stagePulses_eq, Nat.max_le, voicesPulses_le_iff]

end Playable

end StepSequencer
