/-
This file says what can become of a play while it runs. Nobody but the play itself ends it, and no
other play takes its place at once: what an engine plays afterwards is still the same play, with its
edition and its sync mode. Its clock drives it until its players have ended, and players that have
ended do not come back.
-/

import StepSequencer.Proofs.Effects

namespace StepSequencer

namespace Play

/-- Whether the players of a play have ended, and its clock has been stopped. -/
def Ended (play : Play) : Prop := play.phase = .silencing ∨ play.phase = .lost

theorem not_ended_of_performing {play : Play} {performance : Performance}
    (performing : play.phase = .performing performance) : ¬play.Ended := by
  rintro (silencing | lost)
  · exact nomatch performing.symm.trans silencing
  · exact nomatch performing.symm.trans lost

/-- Whether a play can go on as another one. -/
structure Continues (play next : Play) : Prop where
  edition : next.edition = play.edition
  sync : next.sync = play.sync
  clocked : next.clocked = play.clocked ∨ next.Ended
  ended : play.Ended → next.Ended

theorem Continues.refl (play : Play) : play.Continues play := ⟨rfl, rfl, .inl rfl, id⟩

theorem Continues.trans {first second third : Play} (continues : first.Continues second)
    (alsoContinues : second.Continues third) : first.Continues third where
  edition := alsoContinues.edition.trans continues.edition
  sync := alsoContinues.sync.trans continues.sync
  clocked := by
    rcases alsoContinues.clocked with same | ended
    · rw [same]
      exact continues.clocked.imp_right alsoContinues.ended
    · exact .inr ended
  ended := alsoContinues.ended ∘ continues.ended

/-- A play that has not ended goes on with its clock as it is, whatever becomes of its players. -/
theorem continues_of_not_ended {play : Play} (running : ¬play.Ended) (phase : Phase) :
    play.Continues { play with phase } :=
  ⟨rfl, rfl, .inl rfl, fun ended => absurd ended running⟩

/-- A play that has ended goes on as such, with its clock or without. -/
theorem continues_of_ended (play : Play) (clocked : Bool) {phase : Phase}
    (ended : phase = .silencing ∨ phase = .lost) : play.Continues { play with clocked, phase } :=
  ⟨rfl, rfl, .inr ended, fun _ => ended⟩

end Play

namespace Engine

/-- Whether the play of an engine, if any, goes on as the one of another engine, unless it is
over. -/
def Continues (engine after : Engine) : Prop :=
  ∀ next, after.play = some next → ∃ play, engine.play = some play ∧ play.Continues next

theorem Continues.trans {first second third : Engine} (continues : first.Continues second)
    (alsoContinues : second.Continues third) : first.Continues third := by
  intro last present
  obtain ⟨next, between, behind⟩ := alsoContinues last present
  obtain ⟨play, playing, before⟩ := continues next between
  exact ⟨play, playing, before.trans behind⟩

theorem continues_of_play_eq {engine after : Engine} (same : after.play = engine.play) :
    engine.Continues after := fun next present => ⟨next, same ▸ present, .refl next⟩

theorem Continues.refl (engine : Engine) : engine.Continues engine := continues_of_play_eq rfl

theorem continues_of_some {engine after : Engine} {play next : Play}
    (playing : engine.play = some play) (present : after.play = some next)
    (continues : play.Continues next) : engine.Continues after := by
  intro other found
  obtain rfl := Option.some.inj (present.symm.trans found)
  exact ⟨play, playing, continues⟩

theorem continues_of_none {engine after : Engine} (ended : after.play = none) :
    engine.Continues after := fun _ present => nomatch ended.symm.trans present

theorem play_hearAll (engine : Engine) (edition : Nat) (sounds : List Sound) :
    (engine.hearAll edition sounds).play = engine.play := by
  induction sounds generalizing engine with
  | nil => rfl
  | cons sound rest inductionHypothesis =>
    refine (inductionHypothesis _).trans ?_
    cases sound <;> rfl

theorem play_announce (engine : Engine) (sync : SyncMode) (message : Message) :
    (engine.announce sync message).1.play = engine.play := by
  obtain ⟨events, faults, announced⟩ := engine.announce_eq sync message
  rw [announced]

theorem play_setPhase (engine : Engine) (phase : Phase) :
    (engine.setPhase phase).play = engine.play.map fun play => { play with phase } := rfl

/-! ### The ends of plays -/

/-- After its cleanup a play is over, unless the cleanup itself broke. -/
theorem play_silenceAndClose (engine : Engine) (play : Play) :
    (engine.silenceAndClose play).play = none ∨
      (engine.silenceAndClose play).play =
        engine.play.map fun play => { play with phase := .lost } := by
  rw [silenceAndClose_eq]
  dsimp only
  split
  · exact .inr (by rw [play_setPhase, play_hearAll])
  · split
    · exact .inr (by rw [play_setPhase, play_announce, play_hearAll])
    · exact .inl rfl

theorem continues_silenceAndClose (engine : Engine) (play : Play) :
    engine.Continues (engine.silenceAndClose play) := by
  rcases engine.play_silenceAndClose play with ended | lost
  · exact continues_of_none ended
  · intro next present
    obtain ⟨before, playing, rfl⟩ := Option.map_eq_some_iff.mp (lost.symm.trans present)
    exact ⟨before, playing, before.continues_of_ended _ (.inr rfl)⟩

theorem play_stopClock {engine : Engine} {play : Play} (playing : engine.play = some play) :
    (engine.stopClock play).play = some { play with clocked := false } := by
  obtain ⟨edition, sync, clocked, phase⟩ := play
  unfold stopClock
  cases clocked with
  | true =>
    rw [if_pos rfl]
    dsimp only
    split <;> rfl
  | false => exact playing

/-- After the cleanup has begun, a play has ended, if it is not over. -/
theorem play_finish {engine : Engine} {play : Play} (playing : engine.play = some play) :
    (engine.finish play).play = none ∨ ∃ phase, (phase = .silencing ∨ phase = .lost) ∧
      (engine.finish play).play = some { play with clocked := false, phase } := by
  have unclocked := play_stopClock playing
  unfold finish
  dsimp only
  split
  · refine .inr ⟨.silencing, .inl rfl, ?_⟩
    rw [play_setPhase, unclocked, Option.map_some]
  · rcases (engine.stopClock play).play_silenceAndClose play with ended | lost
    · exact .inl ended
    · rw [unclocked] at lost
      exact .inr ⟨.lost, .inr rfl, lost⟩

theorem continues_finish {engine : Engine} {play : Play} (playing : engine.play = some play) :
    engine.Continues (engine.finish play) := by
  rcases play_finish playing with gone | ⟨phase, ended, present⟩
  · exact continues_of_none gone
  · exact continues_of_some playing present (play.continues_of_ended false ended)

theorem continues_conclude (engine : Engine) : engine.Continues engine.conclude := by
  unfold conclude
  split
  next play playing =>
    split
    next message _ =>
      have failed : (engine.fail (.crash (Port.breakText message))).play = some play := playing
      exact continues_finish failed
    · exact continues_finish playing
    · exact .refl engine
  next => exact .refl engine

/-! ### Moves -/

variable {engine : Engine} {play : Play}

theorem continues_follow (playing : engine.play = some play) (running : ¬play.Ended)
    (result : Outcome × List Sound) :
    engine.Continues (engine.follow play result) :=
  continues_of_some playing (by rw [follow, play_setPhase, play_hearAll, playing, Option.map_some])
    (play.continues_of_not_ended running (phaseOf result.1))

theorem continues_deliverPulse (engine : Engine) : engine.Continues engine.deliverPulse := by
  unfold deliverPulse
  split
  next play playing =>
    split
    next performance performing =>
      exact continues_follow playing (Play.not_ended_of_performing performing) _
    next => exact .refl engine
  next => exact .refl engine

theorem continues_outsidePulse (engine : Engine) : engine.Continues engine.outsidePulse :=
  engine.continues_deliverPulse.trans (continues_conclude _)

theorem continues_tick (engine : Engine) : engine.Continues engine.tick := by
  rw [tick_eq]
  split
  · split
    · exact (engine.continues_deliverPulse.trans (continues_of_play_eq (play_announce _ _ _))).trans
        (continues_conclude _)
    · exact .refl engine
  · exact .refl engine

theorem continues_stop (engine : Engine) : engine.Continues engine.stop := by
  unfold stop
  split
  next play playing =>
    split
    next performance performing =>
      exact (continues_follow playing (Play.not_ended_of_performing performing) _).trans
        (continues_conclude _)
    next => exact .refl engine
  next => exact .refl engine

theorem continues_resume (engine : Engine) (port : Port) :
    engine.Continues (engine.resume port) := by
  unfold resume
  split
  next play playing =>
    split
    next performance performing =>
      exact (continues_follow playing (Play.not_ended_of_performing performing) _).trans
        (continues_conclude _)
    · exact engine.continues_silenceAndClose play
    · exact .refl engine
  next => exact .refl engine

theorem continues_setPort (engine : Engine) (port : Port) :
    engine.Continues (engine.setPort port) := by
  rw [setPort_eq]
  split
  · exact .refl engine
  · exact continues_resume { engine with port } port

theorem continues_configure (engine : Engine) (settings : PlaySettings) :
    engine.Continues (engine.configure settings) := by
  obtain ⟨events, faults, configured, _⟩ := engine.configure_eq settings
  exact continues_of_play_eq (by rw [configured])

theorem continues_reload (engine : Engine) (document : String) :
    engine.Continues (engine.reload document).1 := by
  unfold reload
  cases Sequence.load document with
  | ok sequence => exact engine.continues_stop.trans (continues_configure _ _)
  | error failure => exact engine.continues_stop

end Engine

end StepSequencer
