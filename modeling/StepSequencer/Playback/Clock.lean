/-
This file holds the clock that ticks at a tempo. It runs at most once at a time. When its work
breaks down at a tick, because the listener does or because the tempo has no pulse interval, the
clock stays marked as running, and stopping it reports the breakdown. A tempo must be finite and
greater than zero.
-/

import StepSequencer.Time.Tempo

namespace StepSequencer

/-- The worker behind a clock that has been started. -/
structure ClockWorker where
  brokenDown : Bool
deriving DecidableEq

/-- A clock. -/
structure TickClock where
  bpm : Float
  running : Bool
  worker : Option ClockWorker

namespace TickClock

/-- A clock at rest; its first tempo is not checked. -/
def ofTempo (bpm : Float) : TickClock := ⟨bpm, false, none⟩

/-- Whether a tempo has a pulse interval. -/
def hasInterval (bpm : Float) : Bool :=
  match (pulseInterval bpm : Except (Failure ClockFault) Span) with
  | .ok _ => true
  | .error _ => false

/-- Starts the clock for a listener that may break down at its first tick. -/
def start (clock : TickClock) (listenerBreaks : Bool) : Except ClockFault TickClock :=
  if clock.running then .error .alreadyRunning
  else .ok { clock with
    running := true
    worker := some ⟨listenerBreaks || !hasInterval clock.bpm⟩ }

/-- The clock after a stop, whatever the stop reports. -/
def stopped (clock : TickClock) : TickClock := { clock with running := false, worker := none }

/-- What a stop reports: a worker that broke down cannot be waited for. -/
def stopFault? (clock : TickClock) : Option ClockFault :=
  clock.worker.bind fun worker => if worker.brokenDown then some .join else none

/-- Checks a tempo. -/
def checkTempo (bpm : Float) : Except ClockFault Float :=
  if Numeric.isPositiveFinite bpm then .ok bpm else .error (.invalidTempo bpm)

/-- Sets the tempo. A running worker breaks down if the tempo has no pulse interval. -/
def setTempo (clock : TickClock) (bpm : Float) : Except ClockFault TickClock := do
  let bpm ← checkTempo bpm
  return { clock with
    bpm
    worker := clock.worker.map fun worker => ⟨worker.brokenDown || !hasInterval bpm⟩ }

end TickClock

end StepSequencer
