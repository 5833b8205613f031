/-
This file connects the engine to requests from outside: the play and stop buses, and transport
messages. Once an engine listens, a signal on the play bus starts it and one on the stop bus stops
it. Of the transport messages, Start asks for a play while the engine is stopped, Stop asks for a
stop while it plays, and a clock message is a pulse while it plays; everything else is ignored.
-/

import StepSequencer.Playback.Engine

namespace StepSequencer

namespace Engine

/-- The name under which an engine subscribes to its own buses. -/
def listenerName : String := "engine"

/-- Subscribes the engine to its play and stop buses, each with a channel for one signal. -/
def listen (engine : Engine) : Engine :=
  let play := engine.exchange.nextNumber
  let stop := (engine.exchange.connect 1).nextNumber
  { engine with
    exchange := (engine.exchange.connect 1).connect 1
    playBus := engine.playBus.subscribe listenerName play
    stopBus := engine.stopBus.subscribe listenerName stop
    listening := some ⟨play, stop⟩ }

/-- Whether a signal waits in a channel of the engine. -/
def signalled (engine : Engine) (channel : Listening → Nat) : Bool :=
  engine.listening.any fun listening => 0 < (engine.exchange.channel (channel listening)).held

/-- Takes a signal from a channel of the engine. -/
def takeSignal (engine : Engine) (channel : Listening → Nat) : Engine :=
  match engine.listening with
  | some listening =>
    { engine with exchange := engine.exchange.update (channel listening) Channel.take }
  | none => engine

/-- Asks every subscriber of the play bus to start. -/
def requestPlay (engine : Engine) : Engine :=
  let (playBus, exchange) := engine.playBus.publish engine.exchange
  let published := { engine with playBus, exchange }
  if published.signalled Listening.play then (published.takeSignal Listening.play).start
  else published

/-- Asks every subscriber of the stop bus to stop. -/
def requestStop (engine : Engine) : Engine :=
  let (stopBus, exchange) := engine.stopBus.publish engine.exchange
  let published := { engine with stopBus, exchange }
  if published.signalled Listening.stop then (published.takeSignal Listening.stop).stop
  else published

/-- Handles a transport message. -/
def handleSync (engine : Engine) (bytes : List UInt8) : Engine :=
  match Message.ofBytes? bytes, engine.state with
  | some .start, .stopped => engine.requestPlay
  | some .stop, .playing => engine.requestStop
  | some .timingClock, .playing => engine.outsidePulse
  | _, _ => engine

/-- Begins to listen to the sync input. One listener is all that the input allows; without an input
there is nothing to listen to. -/
def listenSync (engine : Engine) : Except PortFault Engine :=
  if !engine.wiring.syncInput then .ok engine
  else if engine.hearsSync then .error .alreadyListening
  else .ok { engine with hearsSync := true }

/-- Ends listening to the sync input. -/
def stopSync (engine : Engine) : Engine := { engine with hearsSync := false }

/-- Bytes that arrive at the sync input, which count only while it is listened to. -/
def inject (engine : Engine) (bytes : List UInt8) : Engine :=
  if engine.hearsSync then engine.handleSync bytes else engine

end Engine

end StepSequencer
