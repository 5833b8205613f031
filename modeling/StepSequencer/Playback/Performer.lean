/-
This file plays one part. A performer is offered ticks; with each tick that it accepts it starts the
next step of its part, marks it, and sends the messages of the step. While the port is held the
messages stay unsent: the performer is blocked, one more tick may wait for it, and further ticks are
lost. When the port is released it sends the rest, and starts the step of the waiting tick.
-/

import StepSequencer.Playback.Port
import StepSequencer.Score.Part

namespace StepSequencer

/-- What players make known. -/
inductive Sound where
  /-- The playable at a place of the document has reached a step. -/
  | step (slot : Nat) (index : Nat)
  /-- One sender has sent messages. -/
  | messages (sent : List Message)
  /-- A message was refused. -/
  | refusal (message : Message)
deriving DecidableEq

/-- The mark that a playable has reached a step. -/
def stepSound (slot : Option Nat) (index : Nat) : List Sound :=
  match slot with
  | some slot => [.step slot index]
  | none => []

/-- What a delivery makes known. -/
def Delivery.sounds (delivery : Delivery) : List Sound :=
  (if delivery.taken.isEmpty then [] else [.messages delivery.taken]) ++
    delivery.refused.map .refusal

/-- A part in play. -/
structure Performer where
  part : Part
  /-- The number of steps that have started. -/
  started : Nat
  /-- Whether a tick waits for a blocked performer. -/
  waiting : Bool
  /-- The messages of the current step that the held port keeps back. -/
  unsent : List Message
  /-- The message on which the performer broke. -/
  broken : Option Message

namespace Performer

/-- A performer before the first step of a part. -/
def ofPart (part : Part) : Performer := ⟨part, 0, false, [], none⟩

/-- Whether the performer still sends a step to a held port. -/
def blocked (performer : Performer) : Bool := !performer.unsent.isEmpty

/-- Whether every step has started. -/
def exhausted (performer : Performer) : Bool := performer.part.length ≤ performer.started

/-- Whether the performer has nothing left to do. -/
def finished (cancelled : Bool) (performer : Performer) : Bool :=
  performer.broken.isSome || (!performer.blocked && (cancelled || performer.exhausted))

/-- The messages of the next step. -/
def nextMessages (performer : Performer) : List Message :=
  (performer.part.cues.getD performer.started Cue.silent).messages

/-- The mark of the next step. -/
def nextMark (performer : Performer) : List Sound :=
  stepSound performer.part.slot performer.started

/-- Starts the next step while the port is held: nothing is sent. -/
def startHeld (performer : Performer) : Performer :=
  { performer with started := performer.started + 1, unsent := performer.nextMessages }

/-- Starts the next step and sends its messages. -/
def startFree (port : Port) (performer : Performer) : Performer × List Sound :=
  let delivery := port.deliver performer.nextMessages
  ({ performer with started := performer.started + 1, broken := delivery.broken },
    performer.nextMark ++ delivery.sounds)

/-- Starts the next step. -/
def startStep (port : Port) (performer : Performer) : Performer × List Sound :=
  if port.held then (performer.startHeld, performer.nextMark) else performer.startFree port

/-- Whether a pulse with the given count is a tick of the part. -/
def onTick (count : Nat) (performer : Performer) : Bool :=
  count % performer.part.division.pulses == 0

/-- Gives a pulse to a performer, which ignores it between ticks and behind the last step. -/
def pulse (port : Port) (count : Nat) (performer : Performer) : Performer × List Sound :=
  if performer.broken.isSome || !performer.onTick count || performer.exhausted then (performer, [])
  else if performer.blocked then
    -- One tick can wait, as long as a step is left for it.
    ({ performer with waiting := true }, [])
  else performer.startStep port

/-- Sends what the held port kept back, then starts the step of a waiting tick unless the play is
cancelled. All of it comes from one sender. -/
def release (port : Port) (cancelled : Bool) (performer : Performer) : Performer × List Sound :=
  if !performer.blocked then (performer, [])
  else
    let rest := port.deliver performer.unsent
    let freed := { performer with waiting := false, unsent := [], broken := rest.broken }
    if rest.broken.isSome || !performer.waiting || cancelled then (freed, rest.sounds)
    else
      let next := rest.append (port.deliver freed.nextMessages)
      ({ freed with started := freed.started + 1, broken := next.broken },
        freed.nextMark ++ next.sounds)

end Performer

end StepSequencer
