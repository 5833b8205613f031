/-
This file holds the engine: it plays what is selected, at its settings, through its ports. A play
captures its settings when it starts. A leader announces the start, sends a clock message with every
tick of its clock, and announces the stop; a follower has no clock and waits for pulses from
outside. However a play ends, its cleanup is the same: the clock stops, sixteen messages end every
note, a leader announces the stop, the state becomes stopped, and the stop is published. A play that
gets no thread of its own never begins, and has nothing to clean up. Signals on the play and stop
buses reach the engine once it listens.
-/

import StepSequencer.Header.Settings
import StepSequencer.Playback.FaultQueue
import StepSequencer.Playback.Player
import StepSequencer.Playback.Switch
import StepSequencer.Score.Sequence

namespace StepSequencer

/-- What can be noticed of an engine, in the order in which it happens. -/
inductive Event where
  /-- One sender has sent messages to the voice port. -/
  | voice (sent : List Message)
  /-- A message has gone to the sync output. -/
  | sync (message : Message)
  /-- A playable of a loaded document has reached a step. -/
  | step (edition slot index : Nat)
  | fault (cause : PlaybackFault)
  /-- The state has become stopped. -/
  | stopped
  /-- The end of a play has been published. -/
  | noticed

/-- The settings that a play captures when it starts. -/
structure PlaySettings where
  bpm : Float
  looping : Bool
  sync : SyncMode

/-- The settings for a play of a document. -/
def Settings.forPlay (settings : Settings) : PlaySettings :=
  ⟨settings.bpm, settings.looping, settings.sync⟩

/-- A playable, with the number of the document that it comes from. -/
structure Selection where
  edition : Nat
  playable : Playable

/-- How far a play has come. -/
inductive Phase where
  | performing (performance : Performance)
  /-- The players have ended, and the cleanup is due. -/
  | ending (broken : Option Message)
  /-- The held port keeps back the cleanup. -/
  | silencing
  /-- The cleanup itself broke, so that the play never ends. -/
  | lost

/-- A play. -/
structure Play where
  edition : Nat
  sync : SyncMode
  /-- Whether the clock of the engine drives the play. -/
  clocked : Bool
  phase : Phase

/-- What an engine is connected to. -/
structure Wiring where
  syncOutput : Bool
  syncInput : Bool
deriving DecidableEq

/-- Faults that the clock of an engine shows. -/
structure ClockHealth where
  failsToStart : Bool
  failsToStop : Bool
deriving DecidableEq

/-- Why a play gets no threads, as far as it gets none. -/
structure SpawnFaults where
  /-- For itself, from its setup to its cleanup. -/
  play : Option String
  players : Option String
deriving DecidableEq

/-- The numbers of the channels on which an engine listens for requests. -/
structure Listening where
  play : Nat
  stop : Nat
deriving DecidableEq

/-- A playback engine. -/
structure Engine where
  settings : PlaySettings
  selection : Option Selection
  /-- The play that is running; none while the engine is stopped. -/
  play : Option Play
  wiring : Wiring
  port : Port
  clock : ClockHealth
  spawnFaults : SpawnFaults
  exchange : Exchange
  playBus : Bus
  stopBus : Bus
  stoppedBus : Bus
  listening : Option Listening
  /-- Whether the sync input is listened to. -/
  hearsSync : Bool
  faults : FaultQueue
  /-- What has happened since somebody looked. -/
  events : List Event

namespace Engine

/-- An engine at rest with nothing selected. -/
def ofWiring (wiring : Wiring) : Engine where
  settings := Settings.default.forPlay
  selection := none
  play := none
  wiring
  port := Port.free
  clock := ⟨false, false⟩
  spawnFaults := ⟨none, none⟩
  exchange := Exchange.empty
  playBus := Bus.empty
  stopBus := Bus.empty
  stoppedBus := Bus.empty
  listening := none
  hearsSync := false
  faults := FaultQueue.ofCapacity FaultQueue.engineCapacity
  events := []

/-- Whether a play is running. -/
def state (engine : Engine) : PlayState := if engine.play.isSome then .playing else .stopped

/-- Notes what has happened. -/
def note (engine : Engine) (events : List Event) : Engine :=
  { engine with events := engine.events ++ events }

/-- Notes a failure and keeps it for whoever asks. -/
def fail (engine : Engine) (cause : PlaybackFault) : Engine :=
  { engine.note [.fault cause] with faults := engine.faults.push cause }

/-- Notes what players of a document have made known. -/
def hear (edition : Nat) (engine : Engine) : Sound → Engine
  | .step slot index => engine.note [.step edition slot index]
  | .messages sent => engine.note [.voice sent]
  | .refusal message => engine.fail (.port (.send (Port.refusalText message)))

/-- Notes what players of a document have made known, in order. -/
def hearAll (engine : Engine) (edition : Nat) (sounds : List Sound) : Engine :=
  sounds.foldl (hear edition) engine

/-- Changes how far the running play has come. -/
def setPhase (engine : Engine) (phase : Phase) : Engine :=
  { engine with play := engine.play.map fun play => { play with phase } }

/-- Sends a message to the sync output, if there is one, and says whether the sender broke. -/
def sendSync (engine : Engine) (message : Message) : Engine × Bool :=
  if !engine.wiring.syncOutput then (engine, false)
  else match engine.port.reply message with
    | .taken => (engine.note [.sync message], false)
    | .refused => (engine.fail (.port (.send (Port.refusalText message))), false)
    | .broken => (engine, true)

/-- Ends the play: the state becomes stopped, then the stop is published. -/
def close (engine : Engine) : Engine :=
  let stopped := { engine.note [.stopped] with play := none }
  let (bus, exchange) := stopped.stoppedBus.publish stopped.exchange
  { stopped.note [.noticed] with stoppedBus := bus, exchange }

/-- The end of the cleanup of a play: every note is ended, and a leader announces the stop. -/
def silenceAndClose (engine : Engine) (play : Play) : Engine :=
  let delivery := engine.port.deliver silence
  let silenced := engine.hearAll play.edition delivery.sounds
  if delivery.broken.isSome then silenced.setPhase .lost
  else if play.sync = .leader then
    let (announced, broke) := silenced.sendSync .stop
    if broke then announced.setPhase .lost else announced.close
  else silenced.close

/-- Stops the clock, if it drives the play. -/
def stopClock (engine : Engine) (play : Play) : Engine :=
  if play.clocked then
    let unclocked := { engine with play := some { play with clocked := false } }
    if engine.clock.failsToStop then unclocked.fail (.clock .join) else unclocked
  else engine

/-- The cleanup of a play, which waits while the port is held. -/
def finish (engine : Engine) (play : Play) : Engine :=
  let unclocked := engine.stopClock play
  if unclocked.port.held then unclocked.setPhase .silencing
  else unclocked.silenceAndClose play

/-- Cleans up if the players of the running play have ended; a player that broke is reported. -/
def conclude (engine : Engine) : Engine :=
  match engine.play with
  | some play =>
    match play.phase with
    | .ending (some message) =>
      (engine.fail (.crash (Port.breakText message))).finish play
    | .ending none => engine.finish play
    | _ => engine
  | none => engine

/-- The phase of a play whose performance has moved on. -/
def phaseOf : Outcome → Phase
  | .ongoing performance => .performing performance
  | .over => .ending none
  | .broken message => .ending (some message)

/-- Takes over what a step of the running performance has led to. -/
def follow (engine : Engine) (play : Play) (result : Outcome × List Sound) : Engine :=
  (engine.hearAll play.edition result.2).setPhase (phaseOf result.1)

/-- Gives a pulse to the players of the running play. -/
def deliverPulse (engine : Engine) : Engine :=
  match engine.play with
  | some play =>
    match play.phase with
    | .performing performance => engine.follow play (performance.pulse engine.port)
    | _ => engine
  | none => engine

/-- A tick of the clock: a pulse for the players and, from a leader, a clock message, even if the
pulse was the last one. Without a clocked play nothing happens. -/
def tick (engine : Engine) : Engine :=
  match engine.play with
  | some play =>
    if play.clocked then
      let pulsed := engine.deliverPulse
      let timed := if play.sync = .leader then (pulsed.sendSync .timingClock).1 else pulsed
      timed.conclude
    else engine
  | none => engine

/-- A pulse from outside. -/
def outsidePulse (engine : Engine) : Engine := engine.deliverPulse.conclude

/-- Tells the players of the running play to end. -/
def stop (engine : Engine) : Engine :=
  match engine.play with
  | some play =>
    match play.phase with
    | .performing performance => (engine.follow play performance.cancel).conclude
    | _ => engine
  | none => engine

/-- Sets the players of a play going. If they get no thread, the play is cleaned up at once. -/
def perform (engine : Engine) (play : Play) (selection : Selection) : Engine :=
  match engine.spawnFaults.players with
  | none =>
    (engine.follow play
      (Performance.start selection.playable.arranged engine.settings.looping)).conclude
  | some reason => (engine.fail (.crash reason)).finish play

/-- Starts the clock and sets the players going. If the clock fails to start, the play is cleaned
up at once. -/
def startClocked (engine : Engine) (play : Play) (selection : Selection) : Engine :=
  if engine.clock.failsToStart then
    (engine.fail (.clock .alreadyRunning)).finish play
  else
    let clocked := { play with clocked := true }
    { engine with play := some clocked }.perform clocked selection

/-- Starts a play of a selection. -/
def startPlay (engine : Engine) (selection : Selection) : Engine :=
  let play : Play := ⟨selection.edition, engine.settings.sync, false, .ending none⟩
  let playing := { engine with play := some play }
  match play.sync with
  | .follower => playing.perform play selection
  | .none => playing.startClocked play selection
  | .leader =>
    let (announced, broke) := playing.sendSync .start
    if broke then announced.setPhase .lost else announced.startClocked play selection

/-- Starts a play of a selection if it gets a thread. If it gets none, the engine is stopped again
before anything is sent, and the failure is reported; no play ends, so no stop is published. -/
def launch (engine : Engine) (selection : Selection) : Engine :=
  match engine.spawnFaults.play with
  | none => engine.startPlay selection
  | some reason => engine.fail (.crash reason)

/-- Starts what is selected; without a selection or during a play nothing happens. -/
def start (engine : Engine) : Engine :=
  match engine.play, engine.selection with
  | none, some selection => engine.launch selection
  | _, _ => engine

/-- Applies settings, which take effect with the next play. A tempo that the clock does not accept
is reported. -/
def configure (engine : Engine) (settings : PlaySettings) : Engine :=
  let configured := { engine with settings }
  if Numeric.isPositiveFinite settings.bpm then configured
  else configured.fail (.clock (.invalidTempo settings.bpm))

/-- Selects what the next play plays. -/
def select (engine : Engine) (selection : Selection) : Engine :=
  { engine with selection := some selection }

/-- The time of a beat at the present settings. -/
def beat {Fault : Type} (engine : Engine) : Except (Failure Fault) Span :=
  beatInterval engine.settings.bpm

/-- Changes how the port treats messages. A port that is no longer held lets the players and the
cleanup go on. -/
def setPort (engine : Engine) (port : Port) : Engine :=
  let changed := { engine with port }
  if port.held then changed
  else match changed.play with
    | some play =>
      match play.phase with
      | .performing performance => (changed.follow play (performance.release port)).conclude
      | .silencing => changed.silenceAndClose play
      | _ => changed
    | none => changed

/-- A stop that waits until the play has ended. What goes on although it has been told to end is
held back by the port, until another port takes its place. -/
def stopAndWait (engine : Engine) (release : Port) : Engine :=
  if engine.stop.play.isSome then engine.stop.setPort release else engine.stop

/-- Stops the running play, then loads a document and applies its settings. If the document cannot
be loaded, the engine stays stopped with the settings it had. This is the reload where no port holds
the play back, which returns at once; where one does, a stop that waits comes first. -/
def reload (engine : Engine) (document : String) : Engine × Except LoadFailure Sequence :=
  match Sequence.load document with
  | .ok sequence => (engine.stop.configure sequence.settings.forPlay, .ok sequence)
  | .error failure => (engine.stop, .error failure)

/-- Takes the failures that have been kept. -/
def drainFaults (engine : Engine) : List PlaybackFault × Engine :=
  (engine.faults.drain.1, { engine with faults := engine.faults.drain.2 })

/-- Takes what has happened since the last look. -/
def look (engine : Engine) : List Event × Engine := (engine.events, { engine with events := [] })

end Engine

end StepSequencer
