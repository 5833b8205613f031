/-
This file says what can come of an action. An action asks an engine for one of four moves, or for
none: to start, to stop, to tick, or to take a pulse from outside. A move that finds or begins a
play either leads the play on or ends it. In both cases the events of the move are known: what the
players make known, what a leader announces, and at the end of a play faults and the cleanup.
-/

import StepSequencer.Proofs.Notices
import StepSequencer.Proofs.Sending

namespace StepSequencer

/-! ### Ports at which plays can begin and end -/

/-- A port that holds nobody back and takes whatever plays begin and end with. It may refuse notes,
and notes may break their senders. -/
structure Port.Clears (port : Port) : Prop where
  free : port.held = false
  transport : ∀ message, message.isTransport = true → port.reply message = .taken
  silence : ∀ message ∈ StepSequencer.silence, port.reply message = .taken

theorem Port.free_clears : Port.free.Clears where
  free := rfl
  transport message _ := by simp [Port.reply, Port.free, Port.startsWithAny]
  silence message _ := by simp [Port.reply, Port.free, Port.startsWithAny]

theorem Port.deliver_eq_of_taken {port : Port} {messages : List Message}
    (taken : ∀ message ∈ messages, port.reply message = .taken) :
    port.deliver messages = ⟨messages, [], none⟩ := by
  induction messages with
  | nil => rfl
  | cons message rest inductionHypothesis =>
    rw [deliver, taken message List.mem_cons_self,
      inductionHypothesis fun other member => taken other (List.mem_cons_of_mem _ member)]

/-! ### What actions ask for -/

/-- What an action asks of an engine. -/
inductive Move where
  /-- Nothing that concerns a play. -/
  | idle
  | start
  | stop
  /-- A tick of the clock. -/
  | tick
  /-- A pulse from outside. -/
  | pulse
deriving DecidableEq

namespace Engine

/-- Whether a signal on the play bus reaches the engine. -/
def hearsPlay (engine : Engine) : Bool :=
  { engine with exchange := (engine.playBus.publish engine.exchange).2 }.signalled Listening.play

/-- Whether a signal on the stop bus reaches the engine. -/
def hearsStop (engine : Engine) : Bool :=
  { engine with exchange := (engine.stopBus.publish engine.exchange).2 }.signalled Listening.stop

/-- The selection that a start plays while the engine is stopped: none if a play gets no thread. -/
def startable? (engine : Engine) : Option Selection :=
  match engine.spawnFaults.play with
  | none => engine.selection
  | some _ => none

/-- What a transport message asks of an engine. -/
def moveOfBytes (engine : Engine) (bytes : List UInt8) : Move :=
  match Message.ofBytes? bytes, engine.state with
  | some .start, .stopped => if engine.hearsPlay then .start else .idle
  | some .stop, .playing => if engine.hearsStop then .stop else .idle
  | some .timingClock, .playing => .pulse
  | _, _ => .idle

/-- What an action asks of an engine. -/
def moveOf (engine : Engine) : Action → Move
  | .start => .start
  | .stop => .stop
  | .requestPlay => if engine.hearsPlay then .start else .idle
  | .requestStop => if engine.hearsStop then .stop else .idle
  | .tick => .tick
  | .inject bytes => if engine.hearsSync then engine.moveOfBytes bytes else .idle
  | .handleSync bytes => engine.moveOfBytes bytes
  | _ => .idle

/-- The engine after a move. -/
def move (engine : Engine) : Move → Engine
  | .idle => engine
  | .start => engine.start
  | .stop => engine.stop
  | .tick => engine.tick
  | .pulse => engine.outsidePulse

/-- What an action may change before its move: the settings, the selection, and what the engine
listens to. Nothing happens to a play, nothing but faults is noted, and the stopped bus is quiet. -/
structure Prepares (engine : Engine) (action : Action) (between : Engine) : Prop where
  play : between.play = engine.play
  wiring : between.wiring = engine.wiring
  port : between.port = engine.port
  spawnFaults : between.spawnFaults = engine.spawnFaults
  events : ∃ causes : List PlaybackFault, between.events = engine.events ++ causes.map .fault
  selection : ∀ selection, between.selection = some selection →
    engine.selection = some selection ∨ action = .select selection
  settled : engine.moveOf action ≠ .idle →
    between.selection = engine.selection ∧ between.settings = engine.settings
  watched : ∀ number, engine.Watched number → engine.Offered number 0 between

/-- Nothing that matters to a play is changed when an engine listens to its buses. -/
theorem Prepares.of_listening {engine : Engine} {action : Action} {exchange : Exchange}
    {playBus stopBus : Bus} {listening : Option Listening} {hearsSync : Bool}
    (watched : ∀ number, engine.Watched number →
      engine.Offered number 0 { engine with exchange, playBus, stopBus, listening, hearsSync }) :
    engine.Prepares action { engine with exchange, playBus, stopBus, listening, hearsSync } where
  play := rfl
  wiring := rfl
  port := rfl
  spawnFaults := rfl
  events := ⟨[], (List.append_nil _).symm⟩
  selection := fun _ same => .inl same
  settled := fun _ => ⟨rfl, rfl⟩
  watched := watched

theorem Prepares.refl (engine : Engine) (action : Action) : engine.Prepares action engine :=
  .of_listening fun _ watched => watched.offered rfl rfl rfl rfl rfl

/-- An action that makes a move does not change what a start plays. -/
theorem Prepares.startable?_eq {engine between : Engine} {action : Action}
    (prepares : engine.Prepares action between) (asked : engine.moveOf action ≠ .idle) :
    between.startable? = engine.startable? := by
  unfold startable?
  rw [prepares.spawnFaults, (prepares.settled asked).1]

theorem takeSignal_eq (engine : Engine) (channel : Listening → Nat) :
    ∃ exchange, engine.takeSignal channel = { engine with exchange } := by
  rw [takeSignal]
  split
  · exact ⟨_, rfl⟩
  · exact ⟨engine.exchange, rfl⟩

theorem requestPlay_eq_move (engine : Engine) (action : Action) :
    ∃ between, engine.Prepares action between ∧
      engine.requestPlay = between.move (if engine.hearsPlay then .start else .idle) := by
  let published : Engine := { engine with
    playBus := (engine.playBus.publish engine.exchange).1
    exchange := (engine.playBus.publish engine.exchange).2 }
  have heard : published.signalled Listening.play = engine.hearsPlay := rfl
  show ∃ between, _ ∧ (if published.signalled Listening.play then
    (published.takeSignal Listening.play).start else published) = _
  rw [heard]
  cases engine.hearsPlay with
  | false => exact ⟨published, .of_listening fun _ watched => watched.publish_play, rfl⟩
  | true =>
    obtain ⟨exchange, taken⟩ := published.takeSignal_eq Listening.play
    refine ⟨_, taken ▸ .of_listening fun number watched => taken ▸ ?_, rfl⟩
    have offered := watched.publish_play
    exact offered.trans <| offered.watched.takeSignal fun listening listens =>
      (watched.listening listening listens).1

theorem requestStop_eq_move (engine : Engine) (action : Action) :
    ∃ between, engine.Prepares action between ∧
      engine.requestStop = between.move (if engine.hearsStop then .stop else .idle) := by
  let published : Engine := { engine with
    stopBus := (engine.stopBus.publish engine.exchange).1
    exchange := (engine.stopBus.publish engine.exchange).2 }
  have heard : published.signalled Listening.stop = engine.hearsStop := rfl
  show ∃ between, _ ∧ (if published.signalled Listening.stop then
    (published.takeSignal Listening.stop).stop else published) = _
  rw [heard]
  cases engine.hearsStop with
  | false => exact ⟨published, .of_listening fun _ watched => watched.publish_stop, rfl⟩
  | true =>
    obtain ⟨exchange, taken⟩ := published.takeSignal_eq Listening.stop
    refine ⟨_, taken ▸ .of_listening fun number watched => taken ▸ ?_, rfl⟩
    have offered := watched.publish_stop
    exact offered.trans <| offered.watched.takeSignal fun listening listens =>
      (watched.listening listening listens).2

theorem handleSync_eq_move (engine : Engine) (action : Action) (bytes : List UInt8) :
    ∃ between, engine.Prepares action between ∧
      engine.handleSync bytes = between.move (engine.moveOfBytes bytes) := by
  have unchanged := Prepares.refl engine action
  rw [handleSync, moveOfBytes]
  generalize Message.ofBytes? bytes = message
  generalize engine.state = state
  match message, state with
  | none, _ => exact ⟨engine, unchanged, rfl⟩
  | some .start, .stopped => exact engine.requestPlay_eq_move action
  | some .stop, .playing => exact engine.requestStop_eq_move action
  | some .timingClock, .playing => exact ⟨engine, unchanged, rfl⟩
  | some .start, .playing | some .stop, .stopped | some .timingClock, .stopped
  | some (.noteOn _ _ _), _ | some (.noteOff _ _), _ | some (.control _ _ _), _ =>
    exact ⟨engine, unchanged, rfl⟩

/-- An action prepares the engine, and then makes the move that it asks for. -/
theorem act_eq_move (engine : Engine) (action : Action) :
    ∃ between, engine.Prepares action between ∧
      engine.act action = between.move (engine.moveOf action) := by
  have same := Prepares.refl engine action
  cases action with
  | select selection =>
    exact ⟨engine.select selection, ⟨rfl, rfl, rfl, rfl, ⟨[], (List.append_nil _).symm⟩,
      fun other chosen => .inr (congrArg Action.select (Option.some.inj chosen)),
      fun asked => absurd rfl asked, fun _ watched => watched.offered rfl rfl rfl rfl rfl⟩,
      rfl⟩
  | configure settings =>
    refine ⟨engine.configure settings, ?_, rfl⟩
    rw [configure]
    split
    · exact ⟨rfl, rfl, rfl, rfl, ⟨[], (List.append_nil _).symm⟩, fun _ chosen => .inl chosen,
        fun asked => absurd rfl asked, fun _ watched => watched.offered rfl rfl rfl rfl rfl⟩
    · exact ⟨rfl, rfl, rfl, rfl, ⟨[.clock (.invalidTempo settings.bpm)], rfl⟩,
        fun _ chosen => .inl chosen, fun asked => absurd rfl asked,
        fun _ watched => watched.offered rfl rfl rfl rfl rfl⟩
  | start => exact ⟨engine, same, rfl⟩
  | stop => exact ⟨engine, same, rfl⟩
  | requestPlay => exact engine.requestPlay_eq_move _
  | requestStop => exact engine.requestStop_eq_move _
  | tick => exact ⟨engine, same, rfl⟩
  | listen => exact ⟨engine.listen, .of_listening fun _ watched => watched.listen, rfl⟩
  | listenSync =>
    refine ⟨engine.act .listenSync, ?_, rfl⟩
    rw [act, listenSync]
    split
    next listening heard =>
      split at heard
      · exact Except.ok.inj heard ▸ same
      · split at heard
        · exact nomatch heard
        · exact Except.ok.inj heard ▸ .of_listening fun _ watched =>
            watched.offered rfl rfl rfl rfl rfl
    next => exact same
  | stopSync =>
    exact ⟨engine.stopSync, .of_listening fun _ watched => watched.offered rfl rfl rfl rfl rfl, rfl⟩
  | inject bytes =>
    rw [act, inject, moveOf]
    split
    · exact engine.handleSync_eq_move _ bytes
    · exact ⟨engine, same, rfl⟩
  | handleSync bytes => exact engine.handleSync_eq_move _ bytes

theorem handleSync_of_pulse {engine : Engine} {bytes : List UInt8}
    (pulse : engine.moveOfBytes bytes = .pulse) :
    engine.handleSync bytes = engine.outsidePulse := by
  rw [moveOfBytes] at pulse
  rw [handleSync]
  generalize Message.ofBytes? bytes = message at pulse ⊢
  generalize engine.state = state at pulse ⊢
  match message, state with
  | some .timingClock, .playing => rfl
  | some .start, .stopped | some .stop, .playing =>
    dsimp only at pulse
    split at pulse <;> exact nomatch pulse
  | none, _ | some .start, .playing | some .stop, .stopped | some .timingClock, .stopped
  | some (.noteOn _ _ _), _ | some (.noteOff _ _), _ | some (.control _ _ _), _ =>
    exact nomatch pulse

/-- An action that asks for a pulse brings one, and does nothing else. -/
theorem act_of_pulse {engine : Engine} {action : Action} (pulse : engine.moveOf action = .pulse) :
    engine.act action = engine.outsidePulse := by
  cases action with
  | inject bytes =>
    rw [moveOf] at pulse
    rw [act, inject]
    split
    next hears =>
      rw [if_pos hears] at pulse
      exact handleSync_of_pulse pulse
    next deaf =>
      rw [if_neg deaf] at pulse
      exact nomatch pulse
  | handleSync bytes => exact handleSync_of_pulse pulse
  | requestPlay | requestStop =>
    rw [moveOf] at pulse
    split at pulse <;> exact nomatch pulse
  | select _ | configure _ | start | stop | tick | listen | listenSync | stopSync =>
    exact nomatch pulse

/-! ### What moves lead to -/

variable {engine : Engine}

/-- An engine that has noted some events and kept some faults. -/
def grown (engine : Engine) (events : List Event) (faults : FaultQueue) : Engine :=
  { engine with events := engine.events ++ events, faults }

/-- An engine whose play is over: it has noted some events and kept some faults, is stopped, and has
published the stop. -/
def ended (engine : Engine) (events : List Event) (faults : FaultQueue) : Engine :=
  { engine with
    play := none
    events := engine.events ++ events
    faults
    stoppedBus := (engine.stoppedBus.publish engine.exchange).1
    exchange := (engine.stoppedBus.publish engine.exchange).2 }

/-- An engine at some point of a play. -/
def during (engine : Engine) (play : Play) (phase : Phase) : Engine :=
  { engine with play := some { play with phase } }

@[simp]
theorem grown_grown (engine : Engine) (events behind : List Event) (faults kept : FaultQueue) :
    (engine.grown events faults).grown behind kept = engine.grown (events ++ behind) kept := by
  rw [grown, grown, grown, List.append_assoc]

@[simp]
theorem ended_grown (engine : Engine) (events behind : List Event) (faults kept : FaultQueue) :
    (engine.grown events faults).ended behind kept = engine.ended (events ++ behind) kept := by
  rw [grown, ended, ended, List.append_assoc]

@[simp]
theorem grown_during (engine : Engine) (play : Play) (phase : Phase) (events : List Event)
    (faults : FaultQueue) :
    (engine.during play phase).grown events faults =
      (engine.grown events faults).during play phase := rfl

@[simp]
theorem ended_during (engine : Engine) (play : Play) (phase : Phase) (events : List Event)
    (faults : FaultQueue) :
    (engine.during play phase).ended events faults = engine.ended events faults := rfl

theorem Watched.grown_during {number : Nat} (watched : engine.Watched number)
    (events : List Event) (faults : FaultQueue) (play : Play) (phase : Phase) :
    engine.Offered number 0 ((engine.grown events faults).during play phase) :=
  watched.offered rfl rfl rfl rfl rfl

theorem Watched.ended {number : Nat} (watched : engine.Watched number) (events : List Event)
    (faults : FaultQueue) : engine.Offered number 1 (engine.ended events faults) :=
  have published := watched.publish_stopped
  have closed : Offered _ number 0 (engine.ended events faults) :=
    published.watched.offered rfl rfl rfl rfl rfl
  ⟨closed.watched, published.channel⟩

theorem grown_nil (engine : Engine) : engine.grown [] engine.faults = engine := by
  rw [grown, List.append_nil]

theorem note_eq_grown (engine : Engine) (events : List Event) :
    engine.note events = engine.grown events engine.faults := rfl

theorem fail_eq_grown (engine : Engine) (cause : PlaybackFault) :
    engine.fail cause = engine.grown [.fault cause] (engine.faults.push cause) := rfl

end Engine

/-- What is noted when somebody who plays a document makes something known. -/
def Event.ofSound (edition : Nat) : Sound → Event
  | .step slot index => .step edition slot index
  | .messages sent => .voice sent
  | .refusal message => .fault (.port (.send (Port.refusalText message)))

/-- What a leader with a sync output notes when it sends a transport message; others send none. -/
def transportEvents (wiring : Wiring) (sync : SyncMode) (message : Message) : List Event :=
  if wiring.syncOutput && sync = .leader then [.sync message] else []

theorem transportEvents_of_ne_leader {wiring : Wiring} {sync : SyncMode} {message : Message}
    (follows : sync ≠ .leader) : transportEvents wiring sync message = [] :=
  if_neg fun both => follows (of_decide_eq_true (Bool.and_eq_true_iff.mp both).2)

/-- What is noted when a play ends: the messages that end every note, the stop that a leader
announces, and then that the engine is stopped and has published it. -/
def closingEvents (wiring : Wiring) (sync : SyncMode) : List Event :=
  .voice silence :: transportEvents wiring sync .stop ++ [.stopped, .noticed]

namespace Engine

variable {engine : Engine}

theorem hearAll_eq_grown (engine : Engine) (edition : Nat) (sounds : List Sound) :
    ∃ faults, engine.hearAll edition sounds =
      engine.grown (sounds.map (Event.ofSound edition)) faults := by
  induction sounds generalizing engine with
  | nil => exact ⟨engine.faults, engine.grown_nil.symm⟩
  | cons sound rest inductionHypothesis =>
    obtain ⟨kept, heard⟩ : ∃ kept, hear edition engine sound =
        engine.grown [Event.ofSound edition sound] kept := by
      cases sound <;> exact ⟨_, rfl⟩
    obtain ⟨faults, behind⟩ := inductionHypothesis (hear edition engine sound)
    refine ⟨faults, behind.trans ?_⟩
    rw [heard, grown_grown]
    rfl

theorem sendSync_eq_grown (engine : Engine) (clears : engine.port.Clears) (message : Message)
    (transport : message.isTransport = true) (sync : SyncMode) :
    (if sync = .leader then (engine.sendSync message).1 else engine) =
        engine.grown (transportEvents engine.wiring sync message) engine.faults ∧
      (engine.sendSync message).2 = false := by
  have taken := clears.transport message transport
  rw [sendSync, transportEvents]
  cases wired : engine.wiring.syncOutput <;> by_cases leads : sync = .leader <;>
    simp [taken, leads, grown_nil, note_eq_grown]

theorem close_eq_ended (engine : Engine) :
    engine.close = engine.ended [.stopped, .noticed] engine.faults := by
  have together : engine.events ++ [Event.stopped] ++ [.noticed] =
      engine.events ++ [.stopped, .noticed] := List.append_assoc _ _ _
  rw [ended, ← together]
  rfl

theorem silenceAndClose_eq_ended (engine : Engine) (clears : engine.port.Clears) (play : Play) :
    engine.silenceAndClose play =
      engine.ended (closingEvents engine.wiring play.sync) engine.faults := by
  have silenced : engine.hearAll play.edition (engine.port.deliver silence).sounds =
      engine.grown [.voice silence] engine.faults := by
    rw [Port.deliver_eq_of_taken clears.silence]
    rfl
  obtain ⟨sent, unbroken⟩ :=
    (engine.grown [.voice silence] engine.faults).sendSync_eq_grown clears .stop rfl play.sync
  rw [silenceAndClose, silenced, Port.deliver_eq_of_taken clears.silence]
  dsimp only [Option.isSome_none]
  rw [if_neg Bool.false_ne_true, unbroken, if_neg Bool.false_ne_true, ← apply_ite close, sent,
    grown_grown, close_eq_ended, ended_grown]
  rfl

theorem stopClock_eq (engine : Engine) (play : Play) :
    ∃ (causes : List PlaybackFault) (faults : FaultQueue) (running : Option Play),
      engine.stopClock play = { engine.grown (causes.map .fault) faults with play := running } := by
  rw [stopClock]
  split
  · split
    · exact ⟨[.clock .join], _, _, rfl⟩
    · exact ⟨[], engine.faults, _, by rw [List.map_nil, grown_nil]⟩
  · exact ⟨[], engine.faults, engine.play, engine.grown_nil.symm⟩

theorem finish_eq_ended (engine : Engine) (clears : engine.port.Clears) (play : Play) :
    ∃ (causes : List PlaybackFault) (faults : FaultQueue), engine.finish play =
      engine.ended (causes.map .fault ++ closingEvents engine.wiring play.sync) faults := by
  obtain ⟨causes, faults, running, unclocked⟩ := engine.stopClock_eq play
  refine ⟨causes, faults, ?_⟩
  rw [finish, unclocked]
  exact (if_neg (clears.free ▸ Bool.false_ne_true)).trans <|
    (silenceAndClose_eq_ended { engine.grown _ faults with play := running } clears play).trans
      (engine.ended_grown _ _ faults faults)

end Engine

/-- What may be noted while players play, besides transport messages: steps, faults, and allowed
messages. -/
def Event.Performs (allowed : Message → Prop) : Event → Prop
  | .voice sent => ∀ message ∈ sent, allowed message
  | .step _ _ _ | .fault _ => True
  | .sync _ | .stopped | .noticed => False

theorem Event.performs_ofSound {allowed : Message → Prop} {sound : Sound}
    (sends : sound.Sends allowed) (edition : Nat) :
    (Event.ofSound edition sound).Performs allowed := by
  cases sound with
  | messages sent => exact sends
  | step slot index => trivial
  | refusal message => trivial

namespace Engine

variable {engine : Engine} {play : Play} {allowed : Message → Prop}

/-- What a move makes of an engine with a play, when some events are noted on the way: the play goes
on with allowed messages only, or it is over, after faults and the cleanup. -/
inductive Advances (allowed : Message → Prop) (engine : Engine) (play : Play)
    (heard : List Event) : Engine → Prop
  | goesOn (performance : Performance) (faults : FaultQueue) (sends : performance.Sends allowed) :
      Advances allowed engine play heard
        ((engine.grown heard faults).during play (.performing performance))
  | ends (causes : List PlaybackFault) (faults : FaultQueue) :
      Advances allowed engine play heard (engine.ended
        (heard ++ (causes.map .fault ++ closingEvents engine.wiring play.sync)) faults)

theorem Advances.of_play {running : Option Play} {heard : List Event} {after : Engine}
    (advances : { engine with play := running }.Advances allowed play heard after) :
    engine.Advances allowed play heard after := by
  cases advances with
  | goesOn performance faults sends => exact .goesOn performance faults sends
  | ends causes faults => exact .ends causes faults

theorem Advances.of_grown {before heard : List Event} {faults : FaultQueue} {after : Engine}
    (advances : (engine.grown before faults).Advances allowed play heard after) :
    engine.Advances allowed play (before ++ heard) after := by
  cases advances with
  | goesOn performance faults sends =>
    rw [grown_grown]
    exact .goesOn performance faults sends
  | ends causes faults =>
    rw [ended_grown, ← List.append_assoc]
    exact .ends causes faults

theorem finish_during (clears : engine.port.Clears) (play : Play) (phase : Phase)
    (heard : List Event) (due : List PlaybackFault) (faults : FaultQueue) :
    ∃ (causes : List PlaybackFault) (kept : FaultQueue),
      ((engine.grown (heard ++ due.map .fault) faults).during play phase).finish
          { play with phase } =
        engine.ended (heard ++ (causes.map .fault ++ closingEvents engine.wiring play.sync))
          kept := by
  obtain ⟨causes, kept, finished⟩ := ((engine.grown (heard ++ due.map .fault) faults).during play
    phase).finish_eq_ended clears { play with phase }
  refine ⟨due ++ causes, kept, ?_⟩
  rw [finished, ended_during, ended_grown, List.append_assoc, ← List.append_assoc (due.map _),
    ← List.map_append]
  rfl

/-- Once nobody plays any more, the cleanup follows. -/
theorem conclude_of_over (clears : engine.port.Clears) (play : Play) {outcome : Outcome}
    (ends : ∀ performance, outcome ≠ .ongoing performance) (heard : List Event)
    (faults : FaultQueue) :
    ∃ (causes : List PlaybackFault) (kept : FaultQueue),
      ((engine.grown heard faults).during play (phaseOf outcome)).conclude =
        engine.ended (heard ++ (causes.map .fault ++ closingEvents engine.wiring play.sync))
          kept := by
  match outcome, ends with
  | .ongoing performance, ends => exact absurd rfl (ends performance)
  | .over, _ =>
    have finished := finish_during clears play (.ending none) heard [] faults
    rw [List.map_nil, List.append_nil] at finished
    exact finished
  | .broken message, _ =>
    have finished := finish_during clears play (.ending (some message)) heard
      [.crash (Port.breakText message)] (faults.push (.crash (Port.breakText message)))
    rw [List.map_singleton, ← grown_grown engine heard _ faults] at finished
    exact finished

theorem advances_conclude (clears : engine.port.Clears) (play : Play) {outcome : Outcome}
    (sends : outcome.Sends allowed) (heard : List Event) (faults : FaultQueue) :
    engine.Advances allowed play heard
      ((engine.grown heard faults).during play (phaseOf outcome)).conclude := by
  by_cases plays : ∃ performance, outcome = .ongoing performance
  · obtain ⟨performance, rfl⟩ := plays
    exact .goesOn performance faults (sends performance rfl)
  · obtain ⟨causes, kept, ended⟩ :=
      conclude_of_over clears play (not_exists.mp plays) heard faults
    exact ended ▸ .ends causes kept

theorem follow_eq_during (playing : engine.play = some play) (result : Outcome × List Sound) :
    ∃ faults, engine.follow play result =
      (engine.grown (result.2.map (Event.ofSound play.edition)) faults).during play
        (phaseOf result.1) := by
  obtain ⟨faults, heard⟩ := engine.hearAll_eq_grown play.edition result.2
  refine ⟨faults, ?_⟩
  rw [follow, heard, setPhase, grown, playing]
  rfl

theorem follow_eq (playing : engine.play = some play) {result : Outcome × List Sound}
    (emits : Performance.Emits allowed result) :
    ∃ heard faults, (∀ event ∈ heard, event.Performs allowed) ∧
      engine.follow play result = (engine.grown heard faults).during play (phaseOf result.1) := by
  obtain ⟨faults, followed⟩ := follow_eq_during playing result
  exact ⟨_, faults, List.forall_mem_map.mpr fun sound member =>
    Event.performs_ofSound (emits.sounds sound member) play.edition, followed⟩

theorem follow_advances (clears : engine.port.Clears) (playing : engine.play = some play)
    {result : Outcome × List Sound} (emits : Performance.Emits allowed result) :
    ∃ heard, (∀ event ∈ heard, event.Performs allowed) ∧
      engine.Advances allowed play heard (engine.follow play result).conclude := by
  obtain ⟨heard, faults, performs, followed⟩ := follow_eq playing emits
  exact ⟨heard, performs, followed ▸ advances_conclude clears play emits.outcome heard faults⟩

/-! ### The moves -/

/-- While an engine is stopped, nothing but a start does anything. -/
theorem move_eq_self (stopped : engine.play = none) (move : Move) (other : move ≠ .start) :
    engine.move move = engine := by
  cases move with
  | idle => rfl
  | start => exact absurd rfl other
  | stop => rw [Engine.move, stop, stopped]
  | tick => rw [Engine.move, tick, stopped]
  | pulse =>
    have undelivered : engine.deliverPulse = engine := by rw [deliverPulse, stopped]
    rw [Engine.move, outsidePulse, undelivered, conclude, stopped]

/-- A start plays what is startable. -/
theorem start_of_startable (stopped : engine.play = none) {selection : Selection}
    (startable : engine.startable? = some selection) :
    engine.selection = some selection ∧ engine.start = engine.startPlay selection := by
  unfold startable? at startable
  split at startable
  next threaded =>
    refine ⟨startable, ?_⟩
    rw [start, stopped, startable]
    dsimp only
    rw [launch, threaded]
  next => cases startable

/-- A start of nothing that is startable leads to nothing but a fault, if a play gets no thread. -/
theorem start_of_not_startable (stopped : engine.play = none)
    (unstartable : engine.startable? = none) :
    ∃ (causes : List PlaybackFault) (faults : FaultQueue),
      engine.start = engine.grown (causes.map .fault) faults := by
  rw [start, stopped]
  cases selected : engine.selection with
  | none => exact ⟨[], engine.faults, engine.grown_nil.symm⟩
  | some selection =>
    unfold startable? at unstartable
    dsimp only
    rw [launch]
    cases refused : engine.spawnFaults.play with
    | none =>
      rw [refused, selected] at unstartable
      cases unstartable
    | some reason => exact ⟨[.crash reason], _, engine.fail_eq_grown _⟩

/-- An action on a stopped engine that starts no play leads to nothing but faults. -/
theorem act_of_stopped (stopped : engine.play = none) {action : Action}
    (unstartable : engine.moveOf action = .start → engine.startable? = none) :
    (engine.act action).play = none ∧
      ∃ causes : List PlaybackFault,
        (engine.act action).events = engine.events ++ causes.map .fault := by
  obtain ⟨between, prepares, acted⟩ := engine.act_eq_move action
  have still : between.play = none := prepares.play.trans stopped
  obtain ⟨causes, noted⟩ := prepares.events
  by_cases asked : engine.moveOf action = .start
  · have unstartable := (prepares.startable?_eq (asked ▸ nofun)).trans (unstartable asked)
    obtain ⟨more, faults, started⟩ := start_of_not_startable still unstartable
    rw [acted, asked, Engine.move, started]
    refine ⟨still, causes ++ more, ?_⟩
    rw [List.map_append, ← List.append_assoc, ← noted]
    rfl
  · rw [acted, move_eq_self still _ asked]
    exact ⟨still, causes, noted⟩

theorem stop_advances (clears : engine.port.Clears) (playing : engine.play = some play)
    {performance : Performance} (performing : play.phase = .performing performance)
    (sends : performance.Sends allowed) : ∃ heard, (∀ event ∈ heard, event.Performs allowed) ∧
      engine.Advances allowed play heard engine.stop := by
  rw [stop, playing]
  dsimp only
  rw [performing]
  exact follow_advances clears playing sends.cancel

theorem deliverPulse_eq (playing : engine.play = some play)
    {performance : Performance} (performing : play.phase = .performing performance) :
    engine.deliverPulse = engine.follow play (performance.pulse engine.port) := by
  rw [deliverPulse, playing]
  dsimp only
  rw [performing]

theorem outsidePulse_advances (clears : engine.port.Clears) (playing : engine.play = some play)
    {performance : Performance} (performing : play.phase = .performing performance)
    (sends : performance.Sends allowed) : ∃ heard, (∀ event ∈ heard, event.Performs allowed) ∧
      engine.Advances allowed play heard engine.outsidePulse := by
  rw [outsidePulse, deliverPulse_eq playing performing]
  exact follow_advances clears playing (sends.pulse engine.port)

/-- A tick of a clock that drives the play gives a pulse, and then a leader announces it, even if
the play has ended with the pulse. -/
theorem tick_advances (clears : engine.port.Clears) (playing : engine.play = some play)
    (clocked : play.clocked = true) {performance : Performance}
    (performing : play.phase = .performing performance) (sends : performance.Sends allowed) :
    ∃ heard, (∀ event ∈ heard, event.Performs allowed) ∧ engine.Advances allowed play
      (heard ++ transportEvents engine.wiring play.sync .timingClock) engine.tick := by
  have emits := sends.pulse engine.port
  obtain ⟨heard, faults, performs, followed⟩ := follow_eq playing emits
  refine ⟨heard, performs, ?_⟩
  have announced := (((engine.grown heard faults).during play
    (phaseOf (performance.pulse engine.port).1)).sendSync_eq_grown clears .timingClock rfl
      play.sync).1
  rw [tick, playing]
  dsimp only
  rw [if_pos clocked, deliverPulse_eq playing performing, followed, announced, grown_during,
    grown_grown]
  exact advances_conclude clears play emits.outcome _ faults

theorem tick_of_not_clocked (playing : engine.play = some play) (unclocked : play.clocked = false) :
    engine.tick = engine := by
  rw [tick, playing]
  dsimp only
  rw [if_neg (Bool.eq_false_iff.mp unclocked)]

/-- A failure before the players have begun ends a play, whether its clock has started or not. -/
theorem finish_advances (engine : Engine) (clears : engine.port.Clears) (play : Play)
    (clocked : Bool) (cause : PlaybackFault) :
    engine.Advances allowed { play with clocked } [] ((engine.fail cause).finish play) := by
  obtain ⟨causes, faults, finished⟩ := (engine.fail cause).finish_eq_ended clears play
  rw [finished, fail_eq_grown, ended_grown]
  exact .ends (cause :: causes) faults

theorem perform_advances (engine : Engine) (clears : engine.port.Clears)
    (playing : engine.play = some play) {selection : Selection}
    (sends : selection.playable.arranged.Sends allowed) :
    ∃ heard, (∀ event ∈ heard, event.Performs allowed) ∧
      engine.Advances allowed play heard (engine.perform play selection) := by
  rw [perform]
  split
  · exact follow_advances clears playing
      (Performance.emits_start sends engine.settings.looping)
  · exact ⟨[], nofun, engine.finish_advances clears play play.clocked _⟩

theorem startClocked_advances (engine : Engine) (clears : engine.port.Clears) (play : Play)
    {selection : Selection} (sends : selection.playable.arranged.Sends allowed) :
    ∃ heard, (∀ event ∈ heard, event.Performs allowed) ∧ engine.Advances allowed
      { play with clocked := true } heard (engine.startClocked play selection) := by
  rw [startClocked]
  split
  · exact ⟨[], nofun, engine.finish_advances clears play true _⟩
  · obtain ⟨heard, performs, advances⟩ := perform_advances
      { engine with play := some { play with clocked := true } } clears rfl sends
    exact ⟨heard, performs, advances.of_play⟩

/-- A start of a play begins it with the present sync mode, which a leader announces. The play of a
leader has a clock. -/
theorem start_advances (clears : engine.port.Clears) (stopped : engine.play = none)
    {selection : Selection} (startable : engine.startable? = some selection)
    (sends : selection.playable.arranged.Sends allowed) :
    ∃ (play : Play) (heard : List Event), play.sync = engine.settings.sync ∧
      (play.sync = .leader → play.clocked = true) ∧
      (∀ event ∈ heard, event.Performs allowed) ∧ engine.Advances allowed play
        (transportEvents engine.wiring engine.settings.sync .start ++ heard) engine.start := by
  let play (sync : SyncMode) : Play := ⟨selection.edition, sync, false, .ending none⟩
  let playing (sync : SyncMode) : Engine := { engine with play := some (play sync) }
  rw [(start_of_startable stopped startable).2, startPlay]
  cases engine.settings.sync with
  | follower =>
    obtain ⟨heard, performs, advances⟩ := (playing .follower).perform_advances clears rfl sends
    rw [transportEvents_of_ne_leader (show SyncMode.follower ≠ .leader from nofun)]
    exact ⟨play .follower, heard, rfl, nofun, performs, advances.of_play⟩
  | none =>
    obtain ⟨heard, performs, advances⟩ :=
      (playing .none).startClocked_advances clears (play .none) sends
    rw [transportEvents_of_ne_leader (show SyncMode.none ≠ .leader from nofun)]
    exact ⟨_, heard, rfl, fun _ => rfl, performs, advances.of_play⟩
  | leader =>
    obtain ⟨announced, unbroken⟩ :=
      (playing .leader).sendSync_eq_grown clears .start rfl .leader
    rw [if_pos rfl] at announced
    dsimp only
    rw [unbroken, if_neg Bool.false_ne_true, announced]
    obtain ⟨heard, performs, advances⟩ :=
      ((playing .leader).grown _ _).startClocked_advances clears (play .leader) sends
    exact ⟨_, heard, rfl, fun _ => rfl, performs, advances.of_grown.of_play⟩

end Engine

end StepSequencer
