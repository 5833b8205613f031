/-
This file relates tempo to time. A beat has 24 pulses; at a tempo in beats per minute a pulse lasts
the sixtieth part of a minute over the tempo, divided by 24. Every quotient is taken in floating
point, in the order written here, and rounded once to nanoseconds.
-/

import StepSequencer.Time.Span

namespace StepSequencer

/-- The pulses of one beat. -/
def pulsesPerBeat : Nat := 24

/-- The time from one pulse to the next. -/
def pulseInterval {Fault : Type} (bpm : Float) : Except (Failure Fault) Span :=
  Span.ofSeconds (60.0 / bpm / 24.0)

/-- The time of a beat: the rounded pulse interval, 24 times. -/
def beatInterval {Fault : Type} (bpm : Float) : Except (Failure Fault) Span := do
  (← pulseInterval bpm).times pulsesPerBeat

/-- The time that a number of pulses takes. -/
def pulsesSpan {Fault : Type} (pulses : Nat) (bpm : Float) : Except (Failure Fault) Span :=
  Span.ofSeconds (Float.ofNat pulses / 24.0 * 60.0 / bpm)

end StepSequencer
