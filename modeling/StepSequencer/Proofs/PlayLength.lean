/-
This file proves how long plays last. The pulses of an arrangement are defined along its structure:
a stage counts as many as its pacer or as its longest nested arrangement, and an arrangement as many
as its stages together. Here that number is what a play takes. Each stage lasts its own pulses from
whatever count it is entered with, so the stages and the passes of a play begin at fixed pulses.
-/

import StepSequencer.Proofs.Invocations
import StepSequencer.Proofs.Loading

namespace StepSequencer

open Playable (arrangementPulses stagePulses stagesPulses)

/-- Whether a player is in a stage of a given number, has counted so many pulses, has some stages
still before it, and whether everybody who performs a part of the stage is finished. -/
def Player.At (player : Player) (index count : Nat) (later : List (Stage Playable))
    (performed : Prop) : Prop :=
  ∃ run, player = .inStage run ∧ run.index = index ∧ run.count = count ∧ run.later = later ∧
    (run.performers.all (Performer.finished false) = true ↔ performed)

namespace Performance

theorem at_runAt {stage : Stage Playable} (expanded : stage.Expanded) (ports : Nat → Port)
    (slot : Option Nat) (index count : Nat) (later : List (Stage Playable)) (elapsed : Nat) :
    (Player.inStage (stage.runAt ports slot index count later elapsed)).At index (count + elapsed)
      later (stage.pacer.length ≤ elapsed) :=
  ⟨_, rfl, rfl, rfl, rfl, expanded.finished_performersAt count elapsed⟩

variable {ports : Nat → Port} {arrangement : Arrangement Playable}

/-- A play that loops over an arrangement with pulses goes on for ever, pass by pass. -/
theorem playedFor_looping (formed : arrangement.Formed) (opened : ∀ pulse, (ports pulse).Open)
    (positive : 0 < arrangementPulses arrangement) (pulses : Nat) :
    ∃ player, playedFor ports arrangement true pulses =
      .ongoing ⟨arrangement, true,
        pulses / arrangementPulses arrangement * arrangementPulses arrangement, player, false⟩ := by
  have lasts : pulses < arrangementPulses arrangement ∨
      true = true ∧ 0 < arrangementPulses arrangement := .inr ⟨rfl, positive⟩
  obtain ⟨reached, before, stage, later, elapsed, split, within, time⟩ := exists_place lasts
  have state := playedFor_within formed opened true _ reached split rfl within
  rw [← time] at state
  exact ⟨_, state⟩

/-- Until a stage of a formed arrangement is over its player is in it, and then it enters the next
stages, whatever the count with which the stage was entered. -/
theorem after_enterStages (formed : arrangement.Formed) (opened : ∀ pulse, (ports pulse).Open)
    {stage : Stage Playable} (has : arrangement.HasStage stage) (slot : Option Nat)
    (index count : Nat) (later : List (Stage Playable)) {elapsed : Nat}
    (within : elapsed ≤ stagePulses stage) :
    after Progress.advance ports (Player.enterStages slot index count (stage :: later)).1 elapsed =
      if elapsed < stagePulses stage then
        .playing (.inStage (stage.runAt ports slot index count later elapsed))
      else (Player.enterStages slot (index + 1) (count + elapsed) later).1 :=
  (formed stage has).after_enterStages opened
    (fun _ voice => Player.keepsTime (formed.inner_of_hasStage has voice) opened) slot index count
    later elapsed within

/-- How long a play lasts. A stage at any depth lasts its pulses, whatever count it is entered with:
until they have passed its player is in it, and then it enters the next stages; the performers of
the parts end with the pacer at the latest. In a play every stage of every pass, at any depth,
begins when the passes and the stages before it are over. A play that does not loop is over after
exactly its pulses. One that loops is over at once when it has no pulses, and else goes on for
ever, each pass beginning afresh behind the pulses of those before it. -/
structure PlayLength (ports : Nat → Port) (arrangement : Arrangement Playable) : Prop where
  stage_lasts : ∀ stage, arrangement.HasStage stage → ∀ slot index count later,
    (∀ elapsed < stagePulses stage, ∃ player,
      after Progress.advance ports (Player.enterStages slot index count (stage :: later)).1
          elapsed = .playing player ∧
        player.At index (count + elapsed) later (stage.pacer.length ≤ elapsed)) ∧
    after Progress.advance ports (Player.enterStages slot index count (stage :: later)).1
        (stagePulses stage) =
      (Player.enterStages slot (index + 1) (count + stagePulses stage) later).1
  stage_in_play : ∀ looping pass, pass = 0 ∨ looping = true → ∀ before stage later,
    arrangement.stages = before ++ stage :: later → ∀ elapsed < stagePulses stage, ∃ player,
      playedFor ports arrangement looping
          (pass * arrangementPulses arrangement + stagesPulses before + elapsed) =
        .ongoing ⟨arrangement, looping, pass * arrangementPulses arrangement, player, false⟩ ∧
      player.At before.length
        (pass * arrangementPulses arrangement + stagesPulses before + elapsed) later
        (stage.pacer.length ≤ elapsed)
  nested_stage_in_play : ∀ looping pass, pass = 0 ∨ looping = true → ∀ begun stage,
    arrangement.Reaches begun stage → ∀ elapsed < stagePulses stage,
      ∃ player slot index count later inner,
        playedFor ports arrangement looping
            (pass * arrangementPulses arrangement + begun + elapsed) =
          .ongoing ⟨arrangement, looping, pass * arrangementPulses arrangement, player, false⟩ ∧
        player.Contains inner ∧
        after Progress.advance
            (fun pulse => ports (pass * arrangementPulses arrangement + begun + pulse))
            (Player.enterStages slot index count (stage :: later)).1 elapsed = .playing inner
  over_iff : ∀ pulses, playedFor ports arrangement false pulses = .over ↔
    arrangementPulses arrangement ≤ pulses
  looping_over : arrangementPulses arrangement = 0 → playedFor ports arrangement true 0 = .over
  looping_ongoing : 0 < arrangementPulses arrangement → ∀ pulses, ∃ player,
    playedFor ports arrangement true pulses =
      .ongoing ⟨arrangement, true,
        pulses / arrangementPulses arrangement * arrangementPulses arrangement, player, false⟩
  pass_begins : 0 < arrangementPulses arrangement → ∀ pass,
    playedFor ports arrangement true (pass * arrangementPulses arrangement) =
      (beginPass arrangement true (pass * arrangementPulses arrangement)).1

/-- A play of what a document gives to play has this length, when nobody waits or breaks and every
pulse is processed before the next one. -/
theorem play_length (loaded : arrangement.Loaded) (opened : ∀ pulse, (ports pulse).Open) :
    PlayLength ports arrangement := by
  obtain ⟨formed, _⟩ := loaded.formed_and_authored
  constructor
  case stage_lasts =>
    intro stage has slot index count later
    refine ⟨fun elapsed within => ?_, ?_⟩
    · rw [after_enterStages formed opened has slot index count later within.le, if_pos within]
      exact ⟨_, rfl, at_runAt (formed stage has) ports slot index count later elapsed⟩
    · rw [after_enterStages formed opened has slot index count later (Nat.le_refl _),
        if_neg (Nat.lt_irrefl _)]
  case stage_in_play =>
    intro looping pass reached before stage later split elapsed within
    have expanded := formed.own (show stage ∈ arrangement.stages by simp [split])
    exact ⟨_, playedFor_within formed opened looping pass reached split rfl within,
      at_runAt expanded _ _ _ _ _ _⟩
  case nested_stage_in_play =>
    intro looping pass reached begun stage reaches elapsed within
    obtain ⟨player, slot, index, count, later, inner, state, rfl, contained, _⟩ :=
      contains_within formed opened looping pass reached reaches rfl within
    refine ⟨player, slot, index, count, later, _, state, contained, ?_⟩
    rw [after_enterStages formed (fun pulse => opened _) reaches.hasStage slot index count later
      within.le, if_pos within]
  case over_iff => exact playedFor_eq_over_iff formed opened
  case looping_over => exact beginPass_of_pulses_eq_zero formed opened true 0
  case looping_ongoing => exact playedFor_looping formed opened
  case pass_begins =>
    exact fun positive pass => playedFor_passes formed opened true positive pass (.inr rfl)

/-- A play with a rest and a nested arrangement: for the silent copy the 8 pulses of the part, and
24 for the arrangement beside it. -/
theorem play_length_nestSample :
    ∃ arrangement : Arrangement Playable, arrangement.Loaded ∧
      playedFor (fun _ => Port.free) arrangement false 31 ≠ .over ∧
      playedFor (fun _ => Port.free) arrangement false 32 = .over := by
  obtain ⟨nest, _, _, _, loaded, _, _, _, _, long, _⟩ := Sequence.nestSample_stages
  have isOver := (play_length loaded fun _ => Port.free_open).over_iff
  rw [long] at isOver
  exact ⟨nest, loaded, mt (isOver 31).mp (by decide), (isOver 32).mpr (by decide)⟩

end Performance

end StepSequencer
