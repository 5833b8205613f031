/-
This file proves that it makes no difference to the notes where the pulses come from. A play with a
clock of its own, whether it leads others or not, gets a pulse with every tick; a play that follows
gets one with every clock message from outside. To an observer to whom transport does not count,
both plays look the same, pulse by pulse, from the start to the end and beyond. What has to be known
of a play with a clock is that the clock drives it until its cleanup begins.
-/

import StepSequencer.Proofs.Continuing
import StepSequencer.Proofs.Loading
import StepSequencer.Playback.Studio

namespace StepSequencer

/-- The attention of somebody who listens to the notes and watches the steps, and does not care for
transport. -/
def Attention.toNotes : Attention where
  transport := false
  editions := true

/-! ### Plays that a clock drives -/

/-- Whether the clock of an engine drives a play, or the players of the play have ended. -/
def Play.Driven (play : Play) : Prop :=
  play.clocked = true ∨ play.phase = .silencing ∨ play.phase = .lost

/-- A play that a clock drives is driven by it until its players have ended. -/
theorem Play.Driven.continues {play next : Play} (driven : play.Driven)
    (continues : play.Continues next) : next.Driven := by
  rcases driven with clock | ended
  · exact continues.clocked.imp_left fun same => same.trans clock
  · exact .inr (continues.ended ended)

namespace Engine

variable {engine : Engine}

/-- Whether a clock drives the play of an engine until its players have ended. -/
def Driven (engine : Engine) : Prop := ∀ play, engine.play = some play → play.Driven

theorem driven_of_stopped (stopped : engine.play = none) : engine.Driven :=
  fun _ playing => nomatch stopped.symm.trans playing

theorem driven_of_ended {play : Play} (playing : engine.play = some play) (ended : play.Ended) :
    engine.Driven := fun _ present => Option.some.inj (playing.symm.trans present) ▸ .inr ended

theorem Driven.continues (driven : engine.Driven) {after : Engine}
    (continues : engine.Continues after) : after.Driven := by
  intro next present
  obtain ⟨play, playing, goesOn⟩ := continues next present
  exact (driven play playing).continues goesOn

theorem driven_finish {play : Play} (playing : engine.play = some play) :
    (engine.finish play).Driven := by
  rcases play_finish playing with gone | ⟨phase, ended, present⟩
  · exact driven_of_stopped gone
  · exact driven_of_ended present ended

theorem continues_perform {play : Play} (playing : engine.play = some play)
    (running : ¬play.Ended) (selection : Selection) :
    engine.Continues (engine.perform play selection) := by
  unfold perform
  split
  · exact (continues_follow playing running _).trans (continues_conclude _)
  next reason _ =>
    have failed : (engine.fail (.crash reason)).play = some play := playing
    exact continues_finish failed

theorem driven_startClocked {play : Play} (playing : engine.play = some play)
    (running : ¬play.Ended) (selection : Selection) :
    (engine.startClocked play selection).Driven := by
  unfold startClocked
  split
  · have failed : (engine.fail (.clock .alreadyRunning)).play = some play := playing
    exact driven_finish failed
  · have clocked : Driven { engine with play := some { play with clocked := true } } := by
      rintro _ ⟨⟩
      exact .inl rfl
    have still : ¬{ play with clocked := true }.Ended := running
    exact clocked.continues (continues_perform rfl still selection)

theorem newPlay_not_ended (engine : Engine) (selection : Selection) :
    ¬(engine.newPlay selection).Ended := by
  rintro (silencing | lost) <;> contradiction

theorem driven_startPlay (leads : engine.settings.sync ≠ .follower) (selection : Selection) :
    (engine.startPlay selection).Driven := by
  have announced : (announce { engine with play := some (engine.newPlay selection) }
      (engine.newPlay selection).sync .start).1.play = some (engine.newPlay selection) :=
    play_announce _ _ _
  rw [startPlay_eq]
  dsimp only
  rw [if_neg (show (engine.newPlay selection).sync ≠ .follower from leads)]
  split
  · exact driven_of_ended (by rw [play_setPhase, announced, Option.map_some]) (.inr rfl)
  · exact driven_startClocked announced (engine.newPlay_not_ended selection) selection

theorem Driven.launch (driven : engine.Driven) (leads : engine.settings.sync ≠ .follower)
    (selection : Selection) : (engine.launch selection).Driven := by
  unfold Engine.launch
  split
  · exact driven_startPlay leads selection
  · exact driven

theorem Driven.start (driven : engine.Driven) (leads : engine.settings.sync ≠ .follower) :
    engine.start.Driven := by
  unfold Engine.start
  split
  next selection _ _ => exact driven.launch leads selection
  next => exact driven

/-! ### Pulses from outside -/

/-- While an engine is stopped, clock messages do nothing. -/
theorem handleSync_timingClock (engine : Engine) :
    engine.handleSync Message.timingClock.bytes =
      if engine.state = .playing then engine.outsidePulse else engine := by
  have read : Message.ofBytes? Message.timingClock.bytes = some .timingClock := by decide
  unfold handleSync
  rw [read]
  cases engine.state <;> rfl

theorem becomes_timingClock (engine : Engine) :
    engine.Becomes (engine.handleSync Message.timingClock.bytes) := by
  rw [handleSync_timingClock]
  split
  · exact engine.becomes_outsidePulse
  · exact .refl engine

theorem outsidePulse_of_ended {play : Play} (playing : engine.play = some play)
    (ended : play.phase = .silencing ∨ play.phase = .lost) : engine.outsidePulse = engine := by
  unfold outsidePulse conclude deliverPulse
  rcases ended with silencing | lost
  · simp [playing, silencing]
  · simp [playing, lost]

/-- To an observer to whom transport does not count, a tick of an engine that a clock drives looks
like a clock message from outside. -/
theorem Alike.tick_handleSync {attention : Attention} {first second : Engine}
    (alike : Alike attention first second) (ignored : attention.transport = false)
    (driven : first.Driven) :
    Alike attention first.tick (second.handleSync Message.timingClock.bytes) := by
  rw [handleSync_timingClock]
  rcases alike.plays with ⟨stopped, alsoStopped⟩ | ⟨play, other, playing, alsoPlaying, same⟩
  · rw [tick_eq, stopped, state, alsoStopped]
    exact alike
  · have plays : second.state = .playing := by
      rw [state, alsoPlaying]
      rfl
    rw [if_pos plays]
    by_cases clock : play.clocked = true
    · exact alike.tick_outsidePulse ignored playing clock
    · have ended := (driven play playing).resolve_left clock
      rw [tick_eq, playing, outsidePulse_of_ended alsoPlaying (same.phase ▸ ended)]
      dsimp only
      rw [if_neg clock]
      exact alike

end Engine

/-! ### Studios -/

/-- Something that moves a play on or changes whether there is one. -/
inductive Prompt where
  | start
  | pulse
  | stop

/-- A prompt for an engine whose pulses come from its own clock. -/
def Prompt.byClock : Prompt → Action
  | .start => .start
  | .pulse => .tick
  | .stop => .stop

/-- A prompt for an engine whose pulses come from outside. -/
def Prompt.byTransport : Prompt → Action
  | .start => .start
  | .pulse => .handleSync Message.timingClock.bytes
  | .stop => .stop

/-- What is heard and seen of a studio. -/
structure Scene where
  /-- What has gone to the voice port, one list for each sender. -/
  voices : List (List Message)
  cursors : Cursors
  state : PlayState
deriving DecidableEq

namespace Studio

/-- What is heard and seen after each of some prompts, when they come in one of two ways. -/
def scenes (way : Prompt → Action) : Studio → List Prompt → List Scene
  | _, [] => []
  | studio, prompt :: rest =>
    let prompted := studio.act (way prompt)
    let looked := prompted.look.2
    ⟨prompted.look.1.filterMap Event.voice?, looked.cursors, looked.engine.state⟩ ::
      scenes way looked rest

/-- Whether two studios look the same though the engine of the first one is driven by a clock, and
that of the second one from outside. -/
structure Parallel (first second : Studio) : Prop where
  alike : Engine.Alike .toNotes first.engine second.engine
  driven : first.engine.Driven
  selection : first.engine.selection = second.engine.selection
  looping : first.engine.settings.looping = second.engine.settings.looping
  leads : first.engine.settings.sync ≠ .follower
  starts : first.engine.clock.failsToStart = false
  alsoStarts : second.engine.clock.failsToStart = false
  edition : first.edition = second.edition
  cursors : first.cursors = second.cursors

/-- Cursors move with the steps that are seen by an observer to whom editions count. -/
theorem foldl_moveCursor_seen {attention : Attention} (counts : attention.editions = true)
    (edition : Nat) (cursors : Cursors) (events : List Event) :
    (attention.seen events).foldl (moveCursor edition) cursors =
      events.foldl (moveCursor edition) cursors := by
  induction events generalizing cursors with
  | nil => rfl
  | cons event rest inductionHypothesis =>
    rw [← List.singleton_append, attention.seen_append, List.foldl_append, List.foldl_append,
      inductionHypothesis]
    congr 1
    cases event with
    | sync message =>
      cases counted : attention.transport <;>
        simp [Attention.seen, Attention.seen?, counted, moveCursor]
    | step source slot index => simp [Attention.seen, Attention.seen?, counts]
    | voice _ | fault _ | stopped | noticed => rfl

namespace Parallel

variable {first second : Studio} (parallel : Parallel first second)
include parallel

theorem becomes {engine other : Engine} (becomes : first.engine.Becomes engine)
    (alsoBecomes : second.engine.Becomes other) (driven : engine.Driven)
    (alike : Engine.Alike .toNotes engine other) :
    Parallel { first with engine } { second with engine := other } := by
  have keeps := becomes.keeps
  have alsoKeeps := alsoBecomes.keeps
  refine ⟨alike, driven, ?_, ?_, ?_, ?_, ?_, parallel.edition, parallel.cursors⟩
  · exact keeps.selection.trans (parallel.selection.trans alsoKeeps.selection.symm)
  · rw [keeps.settings, alsoKeeps.settings, parallel.looping]
  · rw [keeps.settings]
    exact parallel.leads
  · rw [keeps.clock]
    exact parallel.starts
  · rw [alsoKeeps.clock]
    exact parallel.alsoStarts

theorem start : Parallel (first.act .start) (second.act .start) := by
  refine parallel.becomes first.engine.becomes_start second.engine.becomes_start
    (parallel.driven.start parallel.leads) (parallel.alike.start ?_ parallel.looping nofun
      fun _ => ⟨parallel.starts, parallel.alsoStarts⟩)
  rw [parallel.selection]
  cases second.engine.selection with
  | none => exact .none
  | some selection => exact .some ⟨rfl, fun _ => rfl⟩

/-- Whatever the source of the pulses, studios that look the same go on to look the same. -/
theorem act (prompt : Prompt) :
    Parallel (first.act prompt.byClock) (second.act prompt.byTransport) := by
  cases prompt with
  | start => exact parallel.start
  | pulse =>
    exact parallel.becomes first.engine.becomes_tick second.engine.becomes_timingClock
      (parallel.driven.continues first.engine.continues_tick)
      (parallel.alike.tick_handleSync rfl parallel.driven)
  | stop =>
    exact parallel.becomes first.engine.becomes_stop second.engine.becomes_stop
      (parallel.driven.continues first.engine.continues_stop) parallel.alike.stop

theorem cursors_look : first.look.2.cursors = second.look.2.cursors := by
  have seen := parallel.alike.events
  show first.engine.events.foldl (moveCursor first.edition) first.cursors =
    second.engine.events.foldl (moveCursor second.edition) second.cursors
  have counts : Attention.toNotes.editions = true := rfl
  rw [← foldl_moveCursor_seen counts, seen, foldl_moveCursor_seen counts, parallel.edition,
    parallel.cursors]

theorem look : Parallel first.look.2 second.look.2 :=
  { parallel with alike := parallel.alike.look, cursors := parallel.cursors_look }

theorem voices_look :
    first.look.1.filterMap Event.voice? = second.look.1.filterMap Event.voice? := by
  have seen := parallel.alike.events
  show first.engine.events.filterMap Event.voice? = second.engine.events.filterMap Event.voice?
  rw [← Attention.toNotes.filterMap_voice?_seen, seen, Attention.filterMap_voice?_seen]

theorem scenes (prompts : List Prompt) :
    first.scenes Prompt.byClock prompts = second.scenes Prompt.byTransport prompts := by
  induction prompts generalizing first second with
  | nil => rfl
  | cons prompt rest inductionHypothesis =>
    have prompted := parallel.act prompt
    unfold Studio.scenes
    dsimp only
    rw [prompted.voices_look, prompted.cursors_look, prompted.look.alike.state_eq,
      inductionHypothesis prompted.look]

end Parallel

/-- A stopped engine looks the same whether it is set up to follow or not. -/
theorem parallel_configure {studio : Studio} (stopped : studio.engine.state = .stopped)
    (starts : studio.engine.clock.failsToStart = false)
    (unbroken : ∀ message, message.isTransport = true →
      studio.engine.port.reply message ≠ .broken) {sync : SyncMode} (leads : sync ≠ .follower)
    (bpm : Float) (looping : Bool) :
    Parallel (studio.act (.configure ⟨bpm, looping, sync⟩))
      (studio.act (.configure ⟨bpm, looping, .follower⟩)) := by
  have none := Engine.play_eq_none_of_stopped stopped
  have self : Engine.Alike .toNotes studio.engine studio.engine :=
    ⟨none ▸ .none, rfl, nofun, nofun, rfl, fun _ => unbroken, rfl⟩
  have alike := self.configure ⟨bpm, looping, sync⟩ ⟨bpm, looping, .follower⟩
  obtain ⟨events, faults, configured, _⟩ := studio.engine.configure_eq ⟨bpm, looping, sync⟩
  obtain ⟨others, kept, alsoConfigured, _⟩ :=
    studio.engine.configure_eq ⟨bpm, looping, .follower⟩
  unfold Studio.act Engine.act
  dsimp only
  rw [configured, alsoConfigured] at alike ⊢
  exact ⟨alike, Engine.driven_of_stopped none, rfl, rfl, leads, starts, starts, rfl, rfl⟩

/-- It makes no difference to the voices, the steps and the states of plays whether their pulses
come from a clock of their own or, message by message, from outside. While nothing plays, clock
messages from outside do nothing. -/
theorem scenes_byClock_eq_byTransport {studio : Studio} (stopped : studio.engine.state = .stopped)
    (starts : studio.engine.clock.failsToStart = false)
    (unbroken : ∀ message, message.isTransport = true →
      studio.engine.port.reply message ≠ .broken) {sync : SyncMode} (leads : sync ≠ .follower)
    (bpm : Float) (looping : Bool) (prompts : List Prompt) :
    (studio.act (.configure ⟨bpm, looping, sync⟩)).scenes Prompt.byClock prompts =
        (studio.act (.configure ⟨bpm, looping, .follower⟩)).scenes Prompt.byTransport prompts ∧
      ∀ idle : Studio, idle.engine.state = .stopped →
        idle.act (.handleSync Message.timingClock.bytes) = idle := by
  refine ⟨parallel_configure stopped starts unbroken leads bpm looping |>.scenes prompts,
    fun idle still => ?_⟩
  have unmoved : idle.engine.act (.handleSync Message.timingClock.bytes) = idle.engine := by
    refine idle.engine.handleSync_timingClock.trans (if_neg ?_)
    rw [still]
    decide
  unfold Studio.act
  rw [unmoved]

/-- A playable of a document is played by a leader and by a follower. -/
theorem scenes_byClock_eq_byTransport_chainSample :
    ∃ (sequence : Sequence) (playable : Playable) (studio : Studio),
      Sequence.load Sequence.chainSample = .ok sequence ∧ playable ∈ sequence.playables ∧
      studio = (⟨Engine.ofWiring ⟨true, true⟩, sequence, 0, sequence.clearCursors⟩ : Studio).act
        (.select ⟨0, playable⟩) ∧
      (studio.scenes Prompt.byClock [.start, .pulse]).map Scene.voices =
        [[], [[.noteOn 0 60 100]]] ∧
      studio.engine.state = .stopped ∧ studio.engine.clock.failsToStart = false ∧
      (∀ message, message.isTransport = true → studio.engine.port.reply message ≠ .broken) ∧
      ∀ (bpm : Float) (prompts : List Prompt),
        (studio.act (.configure ⟨bpm, true, .leader⟩)).scenes Prompt.byClock prompts =
          (studio.act (.configure ⟨bpm, true, .follower⟩)).scenes Prompt.byTransport prompts := by
  let chosen (sequence : Sequence) (playable : Playable) : Studio :=
    (⟨Engine.ofWiring ⟨true, true⟩, sequence, 0, sequence.clearCursors⟩ : Studio).act
      (.select ⟨0, playable⟩)
  obtain ⟨sequence, loaded, found⟩ := Sequence.exists_load_eq_ok Sequence.chainSample
    (show ((Sequence.load Sequence.chainSample).toOption.any fun sequence =>
      sequence.playables.any fun playable =>
        decide (((chosen sequence playable).scenes Prompt.byClock [.start, .pulse]).map
          Scene.voices = [[], [[.noteOn 0 60 100]]])) = true by decide +kernel)
  obtain ⟨playable, member, computed⟩ := List.any_eq_true.mp found
  have unbroken : ∀ message, message.isTransport = true → Port.free.reply message ≠ .broken :=
    fun message _ => by simp [Port.reply, Port.free, Port.startsWithAny]
  have stopped : (chosen sequence playable).engine.state = .stopped := rfl
  have leads : SyncMode.leader ≠ .follower := nofun
  exact ⟨sequence, playable, chosen sequence playable, loaded, member, rfl,
    of_decide_eq_true computed, stopped, rfl, unbroken, fun bpm prompts =>
      (scenes_byClock_eq_byTransport stopped rfl unbroken leads bpm true prompts).1⟩

end Studio

end StepSequencer
