/-
This file lists what can be done to an engine from outside, as data, so that a whole history of an
engine is a list. A clock tick counts as done from outside too: the clock of the engine decides when
it comes, not the engine.
-/

import StepSequencer.Playback.Transport

namespace StepSequencer

/-- Something that is done to an engine. -/
inductive Action where
  | select (selection : Selection)
  | configure (settings : PlaySettings)
  | start
  | stop
  /-- Asks every subscriber of the play bus to start. -/
  | requestPlay
  /-- Asks every subscriber of the stop bus to stop. -/
  | requestStop
  /-- The clock ticks. -/
  | tick
  | listen
  | listenSync
  | stopSync
  /-- Bytes arrive at the sync input. -/
  | inject (bytes : List UInt8)
  /-- Bytes are handed over as if they had arrived at a sync input that is listened to. -/
  | handleSync (bytes : List UInt8)

namespace Engine

/-- The engine after an action. To listen once more to a sync input changes nothing. -/
def act (engine : Engine) : Action → Engine
  | .select selection => engine.select selection
  | .configure settings => engine.configure settings
  | .start => engine.start
  | .stop => engine.stop
  | .requestPlay => engine.requestPlay
  | .requestStop => engine.requestStop
  | .tick => engine.tick
  | .listen => engine.listen
  | .listenSync =>
    match engine.listenSync with
    | .ok listening => listening
    | .error _ => engine
  | .stopSync => engine.stopSync
  | .inject bytes => engine.inject bytes
  | .handleSync bytes => engine.handleSync bytes

/-- The engine after some actions, one after the other. -/
def run (engine : Engine) (actions : List Action) : Engine := actions.foldl act engine

end Engine

end StepSequencer
