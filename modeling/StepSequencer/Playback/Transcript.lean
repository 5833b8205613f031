/-
This file writes a play down. An engine is driven by its own clock, and the messages of every pulse
become lines of text behind the number of the pulse. A play that loops is written down once.
-/

import StepSequencer.Playback.Studio

namespace StepSequencer

namespace Engine

/-- What happens during some ticks of the clock, one list of events for each tick. -/
def ticks : Nat → Engine → List (List Event)
  | 0, _ => []
  | count + 1, engine =>
    let (events, looked) := engine.tick.look
    events :: ticks count looked

end Engine

/-- The messages that have gone to the voice port. -/
def Event.voiceMessages : Event → List Message
  | .voice sent => sent
  | _ => []

/-- A message as a line behind the number of its pulse. -/
def transcriptLine (pulse : Nat) (message : Message) : String :=
  toString pulse ++ "  " ++
    match (message.text : Except (Failure ClockFault) String) with
    | .ok text => text
    | .error _ => hexText message.bytes

/-- The lines of a play, pulse by pulse, for the pulses of one pass. -/
def transcript (settings : PlaySettings) (playable : Playable) : List String :=
  let selected := ((Engine.ofWiring ⟨false, false⟩).configure
    { settings with looping := false, sync := .none }).select ⟨0, playable⟩
  let (begun, playing) := selected.start.look
  let pulses := playing.ticks (Playable.arrangementPulses playable.arranged)
  let lines (pulse : Nat) (events : List Event) : List String :=
    (events.flatMap Event.voiceMessages).map (transcriptLine pulse)
  lines 0 begun ++ pulses.zipIdx.flatMap fun entry => lines entry.2 entry.1

end StepSequencer
