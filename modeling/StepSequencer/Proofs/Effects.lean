/-
This file bounds what an engine does of its own accord. When it begins a play, goes on with it or
ends it, it changes its play, notes events and faults, and publishes the ends of plays on its
stopped bus. Everything else about it stays as it was: its settings and its selection, what it is
connected to, and whether it listens.
-/

import StepSequencer.Proofs.Likeness

namespace StepSequencer

namespace Engine

/-- What an engine can become of its own accord. -/
inductive Becomes : Engine → Engine → Prop
  | change (engine : Engine) (play : Option Play) (events : List Event) (faults : FaultQueue) :
      Becomes engine { engine with play, events, faults }
  | publish (engine : Engine) : Becomes engine { engine with
      stoppedBus := (engine.stoppedBus.publish engine.exchange).1
      exchange := (engine.stoppedBus.publish engine.exchange).2 }
  | trans {engine between after : Engine} (first : Becomes engine between)
      (second : Becomes between after) : Becomes engine after

/-- What an engine keeps of its own accord. -/
structure Keeps (engine after : Engine) : Prop where
  settings : after.settings = engine.settings
  selection : after.selection = engine.selection
  wiring : after.wiring = engine.wiring
  port : after.port = engine.port
  clock : after.clock = engine.clock
  spawnFaults : after.spawnFaults = engine.spawnFaults
  playBus : after.playBus = engine.playBus
  stopBus : after.stopBus = engine.stopBus
  listening : after.listening = engine.listening
  hearsSync : after.hearsSync = engine.hearsSync

theorem Becomes.keeps {engine after : Engine} (becomes : engine.Becomes after) :
    engine.Keeps after := by
  induction becomes with
  | change | publish => exact ⟨rfl, rfl, rfl, rfl, rfl, rfl, rfl, rfl, rfl, rfl⟩
  | trans _ _ first second =>
    exact ⟨second.settings.trans first.settings, second.selection.trans first.selection,
      second.wiring.trans first.wiring, second.port.trans first.port,
      second.clock.trans first.clock, second.spawnFaults.trans first.spawnFaults,
      second.playBus.trans first.playBus,
      second.stopBus.trans first.stopBus, second.listening.trans first.listening,
      second.hearsSync.trans first.hearsSync⟩

theorem Becomes.refl (engine : Engine) : engine.Becomes engine :=
  .change engine engine.play engine.events engine.faults

/-! ### What is noted -/

theorem becomes_note (engine : Engine) (events : List Event) :
    engine.Becomes (engine.note events) := .change engine engine.play _ engine.faults

theorem becomes_fail (engine : Engine) (cause : PlaybackFault) :
    engine.Becomes (engine.fail cause) := .change engine engine.play _ _

theorem becomes_hearAll (engine : Engine) (edition : Nat) (sounds : List Sound) :
    engine.Becomes (engine.hearAll edition sounds) := by
  induction sounds generalizing engine with
  | nil => exact .refl engine
  | cons sound rest inductionHypothesis =>
    have first : engine.Becomes (hear edition engine sound) := by
      cases sound with
      | step slot index => exact engine.becomes_note _
      | messages sent => exact engine.becomes_note _
      | refusal message => exact engine.becomes_fail _
    exact first.trans (inductionHypothesis _)

theorem becomes_setPhase (engine : Engine) (phase : Phase) :
    engine.Becomes (engine.setPhase phase) := .change engine _ engine.events engine.faults

theorem becomes_announce (engine : Engine) (sync : SyncMode) (message : Message) :
    engine.Becomes (engine.announce sync message).1 := by
  obtain ⟨events, faults, announced⟩ := engine.announce_eq sync message
  rw [announced]
  exact .change engine engine.play events faults

/-! ### The ends of plays -/

theorem becomes_close (engine : Engine) : engine.Becomes engine.close :=
  (Becomes.change engine none (engine.events ++ [.stopped]) engine.faults).trans
    ((Becomes.publish _).trans (.change _ none (engine.events ++ [.stopped] ++ [.noticed]) _))

theorem becomes_silenceAndClose (engine : Engine) (play : Play) :
    engine.Becomes (engine.silenceAndClose play) := by
  have silenced := engine.becomes_hearAll play.edition (engine.port.deliver silence).sounds
  rw [silenceAndClose_eq]
  dsimp only
  split
  · exact silenced.trans (becomes_setPhase _ _)
  · have announced := silenced.trans (becomes_announce _ play.sync .stop)
    split
    · exact announced.trans (becomes_setPhase _ _)
    · exact announced.trans (becomes_close _)

theorem becomes_stopClock (engine : Engine) (play : Play) :
    engine.Becomes (engine.stopClock play) := by
  unfold stopClock
  split
  · split
    · exact .change engine _ _ _
    · exact .change engine _ engine.events engine.faults
  · exact .refl engine

theorem becomes_finish (engine : Engine) (play : Play) : engine.Becomes (engine.finish play) := by
  unfold finish
  dsimp only
  split
  · exact (engine.becomes_stopClock play).trans (becomes_setPhase _ _)
  · exact (engine.becomes_stopClock play).trans (becomes_silenceAndClose _ _)

theorem becomes_conclude (engine : Engine) : engine.Becomes engine.conclude := by
  unfold conclude
  split
  · split
    · exact (engine.becomes_fail _).trans (becomes_finish _ _)
    · exact engine.becomes_finish _
    · exact .refl engine
  · exact .refl engine

/-! ### Moves -/

theorem becomes_follow (engine : Engine) (play : Play) (result : Outcome × List Sound) :
    engine.Becomes (engine.follow play result) :=
  (engine.becomes_hearAll play.edition result.2).trans (becomes_setPhase _ _)

theorem becomes_deliverPulse (engine : Engine) : engine.Becomes engine.deliverPulse := by
  unfold deliverPulse
  split
  · split
    · exact engine.becomes_follow _ _
    · exact .refl engine
  · exact .refl engine

theorem becomes_outsidePulse (engine : Engine) : engine.Becomes engine.outsidePulse :=
  engine.becomes_deliverPulse.trans (becomes_conclude _)

theorem becomes_tick (engine : Engine) : engine.Becomes engine.tick := by
  rw [tick_eq]
  split
  · split
    · exact (engine.becomes_deliverPulse.trans (becomes_announce _ _ _)).trans (becomes_conclude _)
    · exact .refl engine
  · exact .refl engine

theorem becomes_stop (engine : Engine) : engine.Becomes engine.stop := by
  unfold stop
  split
  · split
    · exact (engine.becomes_follow _ _).trans (becomes_conclude _)
    · exact .refl engine
  · exact .refl engine

theorem becomes_resume (engine : Engine) (port : Port) :
    engine.Becomes (engine.resume port) := by
  unfold resume
  split
  · split
    · exact (engine.becomes_follow _ _).trans (becomes_conclude _)
    · exact engine.becomes_silenceAndClose _
    · exact .refl engine
  · exact .refl engine

theorem becomes_perform (engine : Engine) (play : Play) (selection : Selection) :
    engine.Becomes (engine.perform play selection) := by
  unfold perform
  split
  · exact (engine.becomes_follow _ _).trans (becomes_conclude _)
  · exact (engine.becomes_fail _).trans (becomes_finish _ _)

theorem becomes_startClocked (engine : Engine) (play : Play) (selection : Selection) :
    engine.Becomes (engine.startClocked play selection) := by
  unfold startClocked
  split
  · exact (engine.becomes_fail _).trans (becomes_finish _ _)
  · exact (Becomes.change engine _ engine.events engine.faults).trans (becomes_perform _ _ _)

theorem becomes_startPlay (engine : Engine) (selection : Selection) :
    engine.Becomes (engine.startPlay selection) := by
  have playing := Becomes.change engine (some (engine.newPlay selection)) engine.events
    engine.faults
  rw [startPlay_eq]
  dsimp only
  split
  · exact playing.trans (becomes_perform _ _ _)
  · have announced := playing.trans (becomes_announce _ (engine.newPlay selection).sync .start)
    split
    · exact announced.trans (becomes_setPhase _ _)
    · exact announced.trans (becomes_startClocked _ _ _)

theorem becomes_launch (engine : Engine) (selection : Selection) :
    engine.Becomes (engine.launch selection) := by
  unfold launch
  split
  · exact engine.becomes_startPlay _
  · exact engine.becomes_fail _

theorem becomes_start (engine : Engine) : engine.Becomes engine.start := by
  unfold start
  split
  · exact engine.becomes_launch _
  · exact .refl engine

end Engine

end StepSequencer
