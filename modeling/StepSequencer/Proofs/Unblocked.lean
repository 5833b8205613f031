/-
This file follows plays at ports that hold nobody back. A performer is blocked only while a held
port keeps its messages back, so nobody in such a play is ever blocked, at whatever depth and in
whatever step. That is why a play that is told to end has ended at once: every performer is finished
with the step it has started, no stage goes on, and moving on sends nothing.
-/

import StepSequencer.Proofs.Sending

namespace StepSequencer

/-- Whether nobody in the stage of a player is blocked. -/
inductive Player.Unblocked : Player → Prop
  | inStage {run : StageRun Player}
      (performers : ∀ performer ∈ run.performers, performer.unsent = [])
      (nested : ∀ player ∈ run.nested, Unblocked player) : Unblocked (.inStage run)

/-- Whether nobody is blocked in a player that goes on, if it goes on. -/
def Progress.Unblocked (progress : Progress) : Prop :=
  ∀ player, progress = .playing player → player.Unblocked

/-- Whether nobody is blocked in a play that goes on, if it goes on. -/
def Outcome.Unblocked (outcome : Outcome) : Prop :=
  ∀ performance, outcome = .ongoing performance → performance.player.Unblocked

namespace Performer

theorem unsent_pulse {performer : Performer} (unblocked : performer.unsent = []) {port : Port}
    (free : port.held = false) (count : Nat) : (performer.pulse port count).1.unsent = [] := by
  rw [pulse]
  split
  · exact unblocked
  · split
    · exact unblocked
    · rw [startStep, free]
      exact unblocked

/-- Whoever is told to end and is not blocked is finished. -/
theorem finished_of_unsent {performer : Performer} (unblocked : performer.unsent = []) :
    performer.finished true = true := by
  simp [finished, blocked, unblocked]

end Performer

namespace Player

/-! ### Nobody gets blocked -/

theorem unblocked_enterStages_of_voices (slot : Option Nat) (index count : Nat)
    (stages : List (Stage Playable))
    (nested : ∀ stage ∈ stages, ∀ inner ∈ Stage.arrangements stage.voices,
      (enterArrangement inner).1.Unblocked) :
    (enterStages slot index count stages).1.Unblocked := by
  induction stages generalizing index with
  | nil => rintro _ ⟨⟩
  | cons stage later inductionHypothesis =>
    have behind := inductionHypothesis (index + 1)
      fun other member => nested other (List.mem_cons_of_mem _ member)
    rw [enterStages_cons]
    split
    · exact behind
    · rintro _ ⟨⟩
      refine .inStage (List.forall_mem_map.mpr fun part _ => rfl) fun player member => ?_
      simp only [enterVoices_eq] at member
      obtain ⟨inner, voice, entered⟩ := List.mem_filterMap.mp member
      exact nested stage List.mem_cons_self inner voice player
        (Progress.player?_eq_some_iff.mp entered)

theorem unblocked_enterArrangement (arrangement : Arrangement Playable) :
    (enterArrangement arrangement).1.Unblocked := by
  induction arrangement using Arrangement.nesting_induction with
  | step arrangement inductionHypothesis =>
    rw [enterArrangement_eq]
    exact unblocked_enterStages_of_voices _ _ _ _ inductionHypothesis

theorem unblocked_enterStages (slot : Option Nat) (index count : Nat)
    (stages : List (Stage Playable)) : (enterStages slot index count stages).1.Unblocked :=
  unblocked_enterStages_of_voices slot index count stages fun _ _ inner _ =>
    unblocked_enterArrangement inner

theorem Unblocked.settle {player : Player} (unblocked : player.Unblocked) (cancelled : Bool) :
    (player.settle cancelled).1.Unblocked := by
  induction unblocked with
  | @inStage run performers nested inductionHypothesis =>
    obtain ⟨slot, index, later, count, stageRun, players, broken⟩ := run
    rw [Player.settle, settleAll_eq]
    dsimp only
    split
    · split
      · rintro _ ⟨⟩
      · rw [leaveStage]
        split
        · rintro _ ⟨⟩
        · exact unblocked_enterStages slot (index + 1) count later
    · rintro _ ⟨⟩
      refine .inStage performers fun player member => ?_
      obtain ⟨progress, moved, goesOn⟩ := List.mem_filterMap.mp member
      obtain ⟨other, inStage, rfl⟩ := List.mem_map.mp moved
      exact inductionHypothesis other inStage player (Progress.player?_eq_some_iff.mp goesOn)

theorem Unblocked.pulse {player : Player} (unblocked : player.Unblocked) {port : Port}
    (free : port.held = false) : (player.pulse port).1.Unblocked := by
  induction unblocked with
  | @inStage run performers nested inductionHypothesis =>
    obtain ⟨slot, index, later, count, stageRun, players, broken⟩ := run
    rw [Player.pulse, pulseAll_eq]
    refine .inStage ?_ (List.forall_mem_map.mpr inductionHypothesis)
    rw [List.map_map]
    exact List.forall_mem_map.mpr fun performer member =>
      Performer.unsent_pulse (performers performer member) free count

/-! ### Whoever is told to end ends -/

/-- A player that is told to end comes to its end at once, and so do all players inside it. -/
theorem Unblocked.settle_ne_playing {player : Player} (unblocked : player.Unblocked)
    (other : Player) : (player.settle true).1 ≠ .playing other := by
  induction unblocked generalizing other with
  | @inStage run performers nested inductionHypothesis =>
    obtain ⟨slot, index, later, count, stageRun, players, broken⟩ := run
    have alone : ((players.map fun player => (player.settle true).1).filterMap
        Progress.player?).isEmpty = true := by
      rw [List.isEmpty_iff, List.filterMap_map, List.filterMap_eq_nil_iff]
      intro player member
      cases goesOn : (player.settle true).1 with
      | playing other => exact absurd goesOn (inductionHypothesis player member other)
      | finished _ | broken _ => simp [goesOn, Progress.player?]
    have done : stageRun.all (Performer.finished true) = true :=
      List.all_eq_true.mpr fun performer member =>
        Performer.finished_of_unsent (performers performer member)
    rw [Player.settle, settleAll_eq]
    dsimp only
    rw [done, alone, Bool.and_self, if_pos rfl]
    split <;> rintro ⟨⟩

end Player

namespace Performance

theorem unblocked_beginPass (arrangement : Arrangement Playable) (looping : Bool) (count : Nat) :
    (beginPass arrangement looping count).1.Unblocked := by
  have entered := Player.unblocked_enterStages arrangement.slot 0 count arrangement.stages
  rw [beginPass]
  generalize Player.enterStages arrangement.slot 0 count arrangement.stages = result at entered ⊢
  obtain ⟨progress, sounds⟩ := result
  cases progress with
  | playing player =>
    rintro _ ⟨⟩
    exact entered player rfl
  | finished _ | broken _ => rintro _ ⟨⟩

variable {performance : Performance}

theorem unblocked_settle (unblocked : performance.player.Unblocked) :
    performance.settle.1.Unblocked := by
  have moved := unblocked.settle (performance.token || performance.player.broken?.isSome)
  rw [settle]
  generalize performance.player.settle _ = result at moved ⊢
  obtain ⟨progress, sounds⟩ := result
  cases progress with
  | playing player =>
    rintro _ ⟨⟩
    exact moved player rfl
  | broken message => rintro _ ⟨⟩
  | finished count =>
    dsimp only
    split
    · exact unblocked_beginPass performance.arrangement true count
    · rintro _ ⟨⟩

theorem unblocked_pulse (unblocked : performance.player.Unblocked) {port : Port}
    (free : port.held = false) : (performance.pulse port).1.Unblocked := by
  rw [pulse]
  split
  · rintro _ ⟨⟩
    exact unblocked
  · exact unblocked_settle (unblocked.pulse free)

/-- A play whose players have been told to end begins no other pass. It goes on as long as they do,
and nobody tells them otherwise. -/
theorem playing_of_settle {other : Performance} (told : performance.token = true)
    (goesOn : performance.settle.1 = .ongoing other) :
    other.token = true ∧ (performance.player.settle true).1 = .playing other.player := by
  rw [settle, told, Bool.true_or] at goesOn
  dsimp only at goesOn
  generalize performance.player.settle true = result at goesOn ⊢
  obtain ⟨progress, sounds⟩ := result
  cases progress with
  | playing player =>
    cases goesOn
    exact ⟨rfl, rfl⟩
  | broken message => cases goesOn
  | finished count =>
    dsimp only at goesOn
    rw [Bool.not_true, Bool.and_false, Bool.false_and, if_neg Bool.false_ne_true] at goesOn
    cases goesOn

theorem settle_ne_ongoing (told : performance.token = true)
    (unblocked : performance.player.Unblocked) (other : Performance) :
    performance.settle.1 ≠ .ongoing other := fun goesOn =>
  unblocked.settle_ne_playing other.player (playing_of_settle told goesOn).2

/-- A play that is told to end ends at once. -/
theorem cancel_ne_ongoing (unblocked : performance.player.Unblocked) (other : Performance) :
    performance.cancel.1 ≠ .ongoing other := by
  have told : ({ performance with token := true } : Performance).token = true := rfl
  exact settle_ne_ongoing told unblocked other

end Performance

end StepSequencer
