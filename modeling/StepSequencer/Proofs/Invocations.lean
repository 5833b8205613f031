/-
This file finds nested arrangements inside a play. A stage holds the stages of the arrangements
among its voices, and theirs in turn, and each of them begins a fixed number of pulses after the
stage that holds it. At such a pulse the player of the outermost arrangement contains a player that
stands in the inner stage, and what that one sends is part of what everybody sends. The other way
round, whatever player is contained in the outermost one has been found this way.
-/

import StepSequencer.Proofs.Performances

namespace StepSequencer

/-! ### Stages inside stages -/

/-- The stages that play while a stage does, with the pulses after which they begin: the stage
itself, and the stages of arrangements among its voices at any depth. -/
inductive Stage.Holds : Stage Playable → Nat → Stage Playable → Prop
  | self {stage : Stage Playable} : Holds stage 0 stage
  | nested {outer next stage : Stage Playable} {inner : Arrangement Playable}
      {before later : List (Stage Playable)} {offset : Nat}
      (voice : inner ∈ Stage.arrangements outer.voices)
      (split : inner.stages = before ++ next :: later) (deeper : Holds next offset stage) :
      Holds outer (Playable.stagesPulses before + offset) stage

/-- The stages at any depth of an arrangement, with the pulses after which they begin. -/
inductive Arrangement.Reaches (arrangement : Arrangement Playable) :
    Nat → Stage Playable → Prop
  | through {before later : List (Stage Playable)} {outer stage : Stage Playable} {offset : Nat}
      (split : arrangement.stages = before ++ outer :: later) (holds : outer.Holds offset stage) :
      Reaches arrangement (Playable.stagesPulses before + offset) stage

/-- A player that is found in the stage of another one, at any depth, or is that one itself. -/
inductive Player.Contains : Player → Player → Prop
  | self {player : Player} : Contains player player
  | nested {run : StageRun Player} {between inner : Player} (member : between ∈ run.nested)
      (deeper : Contains between inner) : Contains (.inStage run) inner

theorem Arrangement.arrangementPulses_split {arrangement : Arrangement Playable}
    {before later : List (Stage Playable)} {stage : Stage Playable}
    (split : arrangement.stages = before ++ stage :: later) :
    Playable.arrangementPulses arrangement =
      Playable.stagesPulses before + Playable.stagePulses stage + Playable.stagesPulses later := by
  rw [Playable.arrangementPulses_eq, split, Playable.stagesPulses_append, Playable.stagesPulses,
    Nat.add_assoc]

namespace Stage.Holds

/-- A stage ends before the one that holds it, or with it. -/
theorem end_le {outer stage : Stage Playable} {offset : Nat} (holds : outer.Holds offset stage) :
    offset + Playable.stagePulses stage ≤ Playable.stagePulses outer := by
  induction holds with
  | self => rw [Nat.zero_add]
  | nested voice split deeper inductionHypothesis =>
    have inside := (Playable.stagePulses_le_iff.mp (Nat.le_refl _)).2 _ voice
    rw [Arrangement.arrangementPulses_split split] at inside
    omega

theorem hasStage {arrangement : Arrangement Playable} {outer stage : Stage Playable} {offset : Nat}
    (holds : outer.Holds offset stage) (member : outer ∈ arrangement.stages) :
    arrangement.HasStage stage := by
  induction holds generalizing arrangement with
  | self => exact .own member
  | nested voice split deeper inductionHypothesis =>
    exact .nested member voice (inductionHypothesis (by simp [split]))

end Stage.Holds

theorem Arrangement.Reaches.hasStage {arrangement : Arrangement Playable} {begun : Nat}
    {stage : Stage Playable} (reaches : arrangement.Reaches begun stage) :
    arrangement.HasStage stage := by
  cases reaches with
  | through split holds => exact holds.hasStage (by simp [split])

/-! ### Players inside players -/

namespace Stage

/-- A player in a stage contains one in every stage that this one holds, from the pulse at which
that one begins until it is over. What the inner one sends is part of what the outer one sends. -/
theorem Holds.contains_runAt {ports : Nat → Port} {outer stage : Stage Playable}
    {offset elapsed : Nat} (holds : outer.Holds offset stage)
    (formed : ∀ inner ∈ arrangements outer.voices, inner.Formed)
    (opened : ∀ pulse, (ports pulse).Open) (within : elapsed < Playable.stagePulses stage)
    (slot : Option Nat) (index count : Nat) (later : List (Stage Playable)) :
    ∃ innerSlot innerIndex innerCount innerLater inner,
      inner = .inStage (stage.runAt (fun pulse => ports (offset + pulse)) innerSlot innerIndex
        innerCount innerLater elapsed) ∧
      (Player.inStage (outer.runAt ports slot index count later (offset + elapsed))).Contains
        inner ∧
      deliveries (inner.pulse (ports (offset + elapsed))).2 <:+:
        deliveries ((Player.inStage (outer.runAt ports slot index count later
          (offset + elapsed))).pulse (ports (offset + elapsed))).2 := by
  induction holds generalizing ports slot index count later with
  | self =>
    simp only [Nat.zero_add]
    exact ⟨slot, index, count, later, _, rfl, .self, List.infix_rfl⟩
  | @nested outer next stage inner before behind offset voice split deeper inductionHypothesis =>
    have innerFormed := formed inner voice
    have played := Player.playedFor_within innerFormed opened split
      (Nat.lt_of_lt_of_le (Nat.add_lt_add_left within offset) deeper.end_le)
    obtain ⟨innerSlot, innerIndex, innerCount, innerLater, player, same, contained, sent⟩ :=
      inductionHypothesis (fun _ member => innerFormed.nested (by simp [split]) member)
        (fun pulse => opened (Playable.stagesPulses before + pulse)) within inner.slot
        before.length (Playable.stagesPulses before) behind
    simp only [← Nat.add_assoc] at played same contained sent
    refine ⟨innerSlot, innerIndex, innerCount, innerLater, player, same, .nested ?_ contained, ?_⟩
    · exact List.mem_filterMap.mpr ⟨inner, voice, by rw [played]; rfl⟩
    · refine sent.trans ?_
      rw [← Player.deliveries_advance, ← Player.deliveries_advance, deliveries_runAt opened,
        ← played]
      exact List.infix_append_of_infix_right
        (List.infix_of_mem_flatten (List.mem_map.mpr ⟨inner, voice, rfl⟩))

/-- Every player that is contained in a player in a stage is in a stage that this one holds. -/
theorem holds_of_contains {ports : Nat → Port} {outer : Stage Playable} {slot : Option Nat}
    {index count elapsed : Nat} {later : List (Stage Playable)} {run : StageRun Player}
    (contained : (Player.inStage (outer.runAt ports slot index count later elapsed)).Contains
      (.inStage run)) (formed : ∀ inner ∈ arrangements outer.voices, inner.Formed)
    (opened : ∀ pulse, (ports pulse).Open) (within : elapsed < Playable.stagePulses outer) :
    ∃ offset stage innerElapsed innerSlot innerIndex innerCount innerLater,
      outer.Holds offset stage ∧ innerElapsed < Playable.stagePulses stage ∧
        elapsed = offset + innerElapsed ∧
        run = stage.runAt (fun pulse => ports (offset + pulse)) innerSlot innerIndex innerCount
          innerLater innerElapsed := by
  generalize playing : Player.inStage (outer.runAt ports slot index count later elapsed) = player
    at contained
  generalize inside : Player.inStage run = inner at contained
  induction contained generalizing ports outer slot index count later elapsed with
  | self =>
    subst playing
    cases inside
    exact ⟨0, outer, elapsed, slot, index, count, later, .self, within, (Nat.zero_add _).symm,
      by simp only [Nat.zero_add]⟩
  | nested member deeper inductionHypothesis =>
    cases playing
    obtain ⟨arrangement, voice, found⟩ := List.mem_filterMap.mp member
    have arrangementFormed := formed arrangement voice
    obtain ⟨before, next, behind, rest, split, inNext, rfl, same⟩ :=
      Player.exists_stage_of_playing arrangementFormed opened
        (Progress.player?_eq_some_iff.mp found)
    obtain ⟨offset, stage, innerElapsed, innerSlot, innerIndex, innerCount, innerLater, holds,
      inStage, rfl, standing⟩ := inductionHypothesis
        (fun _ voice => arrangementFormed.nested (by simp [split]) voice)
        (fun pulse => opened (Playable.stagesPulses before + pulse)) inNext
        same.symm inside
    refine ⟨_, stage, innerElapsed, innerSlot, innerIndex, innerCount, innerLater,
      .nested voice split holds, inStage, (Nat.add_assoc _ _ _).symm, ?_⟩
    simpa only [Nat.add_assoc] using standing

end Stage

/-! ### Players inside plays -/

namespace Performance

variable {ports : Nat → Port} {arrangement : Arrangement Playable}

/-- A play contains a player in every stage that its arrangement reaches, in every pass, from the
pulse at which that stage begins until it is over. -/
theorem contains_within (formed : arrangement.Formed) (opened : ∀ pulse, (ports pulse).Open)
    (looping : Bool) (pass : Nat) (reached : pass = 0 ∨ looping = true) {begun : Nat}
    {stage : Stage Playable} (reaches : arrangement.Reaches begun stage) {start : Nat}
    (begins : start = pass * Playable.arrangementPulses arrangement + begun) {elapsed : Nat}
    (within : elapsed < Playable.stagePulses stage) :
    ∃ player slot index count later inner,
      playedFor ports arrangement looping (start + elapsed) = .ongoing
        ⟨arrangement, looping, pass * Playable.arrangementPulses arrangement, player, false⟩ ∧
      inner = .inStage (stage.runAt (fun pulse => ports (start + pulse)) slot index count later
        elapsed) ∧
      player.Contains inner ∧
      deliveries (inner.pulse (ports (start + elapsed))).2 <:+:
        sentAt ports arrangement looping (start + elapsed) := by
  obtain @⟨before, behind, outer, _, offset, split, holds⟩ := reaches
  have inOuter := Nat.lt_of_lt_of_le (Nat.add_lt_add_left within offset) holds.end_le
  have state := playedFor_within formed opened looping pass reached split rfl inOuter
  have sent := sentAt_eq_deliveries_pulse formed opened looping pass reached split rfl inOuter
  obtain ⟨slot, index, count, later, inner, same, contained, part⟩ := holds.contains_runAt
    (fun _ voice => formed.nested (by simp [split]) voice)
    (fun pulse => opened (pass * Playable.arrangementPulses arrangement +
      Playable.stagesPulses before + pulse)) within arrangement.slot before.length
    (pass * Playable.arrangementPulses arrangement + Playable.stagesPulses before) behind
  rw [← Nat.add_assoc] at begins
  subst begins
  simp only [← Nat.add_assoc] at state sent same contained part
  exact ⟨_, slot, index, count, later, inner, state, same, contained, sent ▸ part⟩

/-- Every player that a play contains is in a stage that its arrangement reaches. -/
theorem reaches_of_contains (formed : arrangement.Formed) (opened : ∀ pulse, (ports pulse).Open)
    {looping : Bool} {pulses : Nat}
    (lasts : pulses < Playable.arrangementPulses arrangement ∨
      looping = true ∧ 0 < Playable.arrangementPulses arrangement)
    {performance : Performance}
    (state : playedFor ports arrangement looping pulses = .ongoing performance)
    {run : StageRun Player} (contained : performance.player.Contains (.inStage run)) :
    ∃ pass begun stage elapsed slot index count later, (pass = 0 ∨ looping = true) ∧
      arrangement.Reaches begun stage ∧ elapsed < Playable.stagePulses stage ∧
      pulses = pass * Playable.arrangementPulses arrangement + begun + elapsed ∧
      run = stage.runAt
        (fun pulse => ports (pass * Playable.arrangementPulses arrangement + begun + pulse))
        slot index count later elapsed := by
  obtain ⟨reached, before, outer, behind, inOuter, split, within, time⟩ := exists_place lasts
  rw [time, playedFor_within formed opened looping _ reached split rfl within] at state
  cases state
  obtain ⟨offset, stage, elapsed, slot, index, count, later, holds, inStage, rfl, same⟩ :=
    Stage.holds_of_contains contained (fun _ voice => formed.nested (by simp [split]) voice)
      (fun pulse => opened (_ + pulse)) within
  simp only [← Nat.add_assoc] at time same
  refine ⟨_, _, stage, elapsed, slot, index, count, later, reached, .through split holds, inStage,
    ?_, ?_⟩
  · rwa [← Nat.add_assoc]
  · simpa only [← Nat.add_assoc] using same

end Performance

end StepSequencer
