/-
This file compares nested arrangements with arrangements that play alone. Wherever a play has a
stage with nested arrangements in it, at whatever depth and in whatever pass, their players are just
those that playing each of them from the top, without looping, would have by then, and they send
what those would send. Neither the count of the outer players nor the other voices come into it.
-/

import StepSequencer.Proofs.Invocations
import StepSequencer.Proofs.Loading

namespace StepSequencer

open Playable (arrangementPulses stagePulses stagesPulses)

/-- The player of a play that goes on. -/
def Outcome.player? : Outcome → Option Player
  | .ongoing performance => some performance.player
  | _ => none

namespace Performance

variable {ports : Nat → Port} {arrangement : Arrangement Playable}

/-! ### Plays without looping -/

/-- A play that does not loop is what its player makes of it. -/
theorem playedFor_or_over (formed : arrangement.Formed) (opened : ∀ pulse, (ports pulse).Open)
    (pulses : Nat) :
    (∃ player, Player.playedFor ports arrangement pulses = .playing player ∧
      (playedFor ports arrangement false pulses).player? = some player ∧
      sentAt ports arrangement false pulses = deliveries (player.pulse (ports pulses)).2) ∨
    (Player.playedFor ports arrangement pulses = .finished (arrangementPulses arrangement) ∧
      playedFor ports arrangement false pulses = .over) := by
  rcases Nat.lt_or_ge pulses (arrangementPulses arrangement) with early | late
  · rw [Playable.arrangementPulses_eq] at early
    obtain ⟨before, stage, later, elapsed, split, within, rfl⟩ := Player.exists_stage_at early
    have begins : stagesPulses before =
        0 * arrangementPulses arrangement + stagesPulses before := by
      rw [Nat.zero_mul, Nat.zero_add]
    refine .inl ⟨_, Player.playedFor_within formed opened split within, ?_,
      sentAt_eq_deliveries_pulse formed opened false 0 (.inl rfl) split begins within⟩
    rw [playedFor_within formed opened false 0 (.inl rfl) split begins within]
    rfl
  · exact .inr ⟨(Player.keepsTime formed opened).finished pulses late,
      playedFor_eq_over formed opened (.inl rfl) late⟩

theorem playedFor_player? (formed : arrangement.Formed) (opened : ∀ pulse, (ports pulse).Open)
    (pulses : Nat) :
    (playedFor ports arrangement false pulses).player? =
      (Player.playedFor ports arrangement pulses).player? := by
  rcases playedFor_or_over formed opened pulses with ⟨player, played, alone, _⟩ | ⟨played, alone⟩
  · rw [played, alone]
    rfl
  · rw [played, alone]
    rfl

theorem sentAt_eq_player (formed : arrangement.Formed) (opened : ∀ pulse, (ports pulse).Open)
    (pulse : Nat) :
    sentAt ports arrangement false pulse =
      deliveries (soundsAt Progress.advance ports (Player.enterArrangement arrangement).1
        pulse) := by
  rw [soundsAt, ← Player.playedFor]
  rcases playedFor_or_over formed opened pulse with ⟨player, played, _, sent⟩ | ⟨played, isOver⟩
  · rw [sent, played, Player.deliveries_advance]
  · rw [sentAt_of_over isOver, played]
    rfl

/-! ### Nested plays -/

/-- The players of the nested arrangements of a stage, as if each of them were played alone from the
pulse at which the stage begins. -/
def playersAlone (ports : Nat → Port) (stage : Stage Playable) (start elapsed : Nat) :
    List Player :=
  (Stage.arrangements stage.voices).filterMap fun inner =>
    (playedFor (fun pulse => ports (start + pulse)) inner false elapsed).player?

theorem nestedAt_eq_playersAlone {stage : Stage Playable}
    (formed : ∀ inner ∈ Stage.arrangements stage.voices, inner.Formed)
    (opened : ∀ pulse, (ports pulse).Open) (start elapsed : Nat) :
    stage.nestedAt (fun pulse => ports (start + pulse)) elapsed =
      playersAlone ports stage start elapsed :=
  List.filterMap_congr fun inner voice =>
    (playedFor_player? (formed inner voice) (fun pulse => opened (start + pulse)) elapsed).symm

/-- How nested arrangements play. In every stage that a play reaches, at any depth and in any pass,
the nested players are those of plays of their arrangements alone that began with the stage, and
besides what the parts of the stage have due, what it sends is what these plays send. No player is
nested in a play anywhere else. A nested arrangement plays once in the stage, for its own pulses,
and then neither has a player nor sends anything. -/
structure NestedPlays (ports : Nat → Port) (outer : Arrangement Playable) : Prop where
  plays_alone : ∀ looping pass, pass = 0 ∨ looping = true → ∀ begun stage,
    outer.Reaches begun stage → ∀ start, start = pass * arrangementPulses outer + begun →
    ∀ elapsed < stagePulses stage, ∃ player run count,
      playedFor ports outer looping (start + elapsed) =
        .ongoing ⟨outer, looping, pass * arrangementPulses outer, player, false⟩ ∧
      player.Contains (.inStage run) ∧ run.nested = playersAlone ports stage start elapsed ∧
      deliveries ((Player.inStage run).pulse (ports (start + elapsed))).2 =
        (stage.cast.flatMap fun part =>
          ((ports (start + elapsed)).deliver (part.due count (count + elapsed))).sounds) ++
        ((Stage.arrangements stage.voices).flatMap fun inner =>
          sentAt (fun pulse => ports (start + pulse)) inner false elapsed) ∧
      deliveries ((Player.inStage run).pulse (ports (start + elapsed))).2 <:+:
        sentAt ports outer looping (start + elapsed)
  sends_alone : ∀ begun stage, outer.Reaches begun stage →
    ∀ inner ∈ Stage.arrangements stage.voices, ∀ start elapsed player,
    (playedFor (fun pulse => ports (start + pulse)) inner false elapsed).player? = some player →
      deliveries (player.pulse (ports (start + elapsed))).2 =
        sentAt (fun pulse => ports (start + pulse)) inner false elapsed
  nowhere_else : ∀ looping pulses performance run,
    playedFor ports outer looping pulses = .ongoing performance →
    performance.player.Contains (.inStage run) →
      ∃ pass begun stage elapsed, (pass = 0 ∨ looping = true) ∧ outer.Reaches begun stage ∧
        elapsed < stagePulses stage ∧
        pulses = pass * arrangementPulses outer + begun + elapsed ∧
        run.nested = playersAlone ports stage (pass * arrangementPulses outer + begun) elapsed
  ends_alone : ∀ begun stage, outer.Reaches begun stage →
    ∀ inner ∈ Stage.arrangements stage.voices, arrangementPulses inner ≤ stagePulses stage ∧
      ∀ start elapsed,
        ((playedFor (fun pulse => ports (start + pulse)) inner false elapsed).player? = none ↔
          arrangementPulses inner ≤ elapsed) ∧
        (arrangementPulses inner ≤ elapsed →
          sentAt (fun pulse => ports (start + pulse)) inner false elapsed = [])

/-- Nested arrangements play as they would alone, when nobody waits or breaks and every pulse is
processed before the next one. -/
theorem nested_plays (formed : arrangement.Formed) (opened : ∀ pulse, (ports pulse).Open) :
    NestedPlays ports arrangement := by
  have shifted (start : Nat) : ∀ pulse, (ports (start + pulse)).Open := fun pulse => opened _
  have innerFormed {begun : Nat} {stage : Stage Playable}
      (reaches : arrangement.Reaches begun stage) :
      ∀ inner ∈ Stage.arrangements stage.voices, inner.Formed :=
    fun _ voice => formed.inner_of_hasStage reaches.hasStage voice
  constructor
  case plays_alone =>
    intro looping pass reached begun stage reaches start begins elapsed within
    obtain ⟨player, slot, index, count, later, inner, state, rfl, contained, part⟩ :=
      contains_within formed opened looping pass reached reaches begins within
    refine ⟨player, _, count, state, contained,
      nestedAt_eq_playersAlone (innerFormed reaches) opened start elapsed, ?_, part⟩
    rw [← Player.deliveries_advance]
    refine (Stage.deliveries_runAt (shifted start) slot index count later elapsed).trans ?_
    congr 1
    exact List.flatMap_congr fun inner voice =>
      (sentAt_eq_player (innerFormed reaches inner voice) (shifted start) elapsed).symm
  case sends_alone =>
    intro begun stage reaches inner voice start elapsed player alone
    rcases playedFor_or_over (innerFormed reaches inner voice) (shifted start) elapsed with
      ⟨other, _, same, sent⟩ | ⟨_, isOver⟩
    · obtain rfl : other = player := Option.some.inj (same.symm.trans alone)
      exact sent.symm
    · rw [isOver] at alone
      cases alone
  case nowhere_else =>
    intro looping pulses performance run state contained
    have lasts : pulses < arrangementPulses arrangement ∨
        looping = true ∧ 0 < arrangementPulses arrangement := by
      by_contra ended
      obtain ⟨late, ends⟩ := not_or.mp ended
      rw [not_and_or, Bool.not_eq_true, Nat.pos_iff_ne_zero, not_not] at ends
      rw [playedFor_eq_over formed opened ends (Nat.not_lt.mp late)] at state
      cases state
    obtain ⟨pass, begun, stage, elapsed, slot, index, count, later, reached, reaches, within, time,
      rfl⟩ := reaches_of_contains formed opened lasts state contained
    exact ⟨pass, begun, stage, elapsed, reached, reaches, within, time,
      nestedAt_eq_playersAlone (innerFormed reaches) opened _ elapsed⟩
  case ends_alone =>
    intro begun stage reaches inner voice
    refine ⟨(Playable.stagePulses_le_iff.mp (Nat.le_refl _)).2 inner voice, fun start elapsed => ?_⟩
    have single := innerFormed reaches inner voice
    constructor
    · rw [playedFor_player? single (shifted start)]
      exact (Player.keepsTime single (shifted start)).player?_eq_none_iff elapsed
    · exact fun late => sentAt_of_over (playedFor_eq_over single (shifted start) (.inl rfl) late)

/-- In the second pass of a looping play, 16 pulses after the nested arrangement began there, its
player is the one that it has 16 pulses after it began to play alone. -/
theorem nested_plays_nestSample :
    ∃ outer inner : Arrangement Playable, outer.Formed ∧ ∃ player run alone,
      playedFor (fun _ => Port.free) outer true 56 = .ongoing ⟨outer, true, 32, player, false⟩ ∧
      player.Contains (.inStage run) ∧ run.nested = [alone] ∧
      (playedFor (fun _ => Port.free) inner false 16).player? = some alone ∧
      deliveries (alone.pulse Port.free).2 = sentAt (fun _ => Port.free) inner false 16 := by
  obtain ⟨nest, chain, silent, sounding, loaded, stages, voices, rests, sounds, long, lasts⟩ :=
    Sequence.nestSample_stages
  have formed := loaded.formed_and_authored.1
  have nested := nested_plays formed fun _ => Port.free_open
  have reaches : nest.Reaches 8 sounding := by
    have through := Arrangement.Reaches.through stages .self
    rwa [rests] at through
  have voice : chain ∈ Stage.arrangements sounding.voices := voices ▸ List.mem_cons_self
  have playing := mt ((nested.ends_alone 8 sounding reaches chain voice).2 40 16).1.mp
    (by rw [lasts]; decide)
  obtain ⟨alone, found⟩ := Option.ne_none_iff_exists'.mp playing
  obtain ⟨player, run, _, state, contained, same, _⟩ :=
    nested.plays_alone true 1 (.inr rfl) 8 sounding reaches 40 (by rw [long]) 16
      (by rw [sounds]; decide)
  rw [long] at state
  refine ⟨nest, chain, formed, player, run, alone, state, contained, ?_, found,
    nested.sends_alone 8 sounding reaches chain voice 40 16 alone found⟩
  rw [same, playersAlone, voices]
  exact List.filterMap_cons_some found

end Performance

end StepSequencer
