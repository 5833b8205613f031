/-
This file holds spans of time in whole nanoseconds. A span is made from a floating-point number of
seconds by rounding to the nearest nanosecond, ties to even; it must be a number, not negative, and
below `2 ^ 64` seconds. Sums of spans are checked against the same limit. The text of a span gives
minutes and seconds, the seconds with at most three places.
-/

import StepSequencer.Fault

namespace StepSequencer

/-- A span of time. -/
structure Span where
  nanoseconds : Nat
deriving DecidableEq, Inhabited

/-- No time. -/
def Span.zero : Span := ⟨0⟩

/-- The number of nanoseconds in a second. -/
def nanosecondsPerSecond : Nat := Nat.pow 10 9

/-- No span reaches this many nanoseconds. -/
def Span.limit : Nat := Nat.pow 2 64 * nanosecondsPerSecond

/-- The span when it is below the limit. -/
def Span.check {Fault : Type} (span : Span) : Except (Failure Fault) Span :=
  if span.nanoseconds < Span.limit then .ok span else .error (.breakdown .spanOverflow)

/-- The span nearest to a number of seconds. -/
def Span.ofSeconds {Fault : Type} (seconds : Float) : Except (Failure Fault) Span :=
  match Numeric.decode seconds with
  | .finite negative magnitude =>
    if negative && magnitude.mantissa ≠ 0 then .error (.breakdown .spanOverflow)
    else Span.check ⟨magnitude.roundedTimes nanosecondsPerSecond⟩
  | _ => .error (.breakdown .spanOverflow)

/-- The sum of two spans. -/
def Span.add {Fault : Type} (first second : Span) : Except (Failure Fault) Span :=
  Span.check ⟨first.nanoseconds + second.nanoseconds⟩

/-- The sum of a list of spans, from the left. -/
def Span.sum {Fault : Type} (spans : List Span) : Except (Failure Fault) Span :=
  spans.foldlM Span.add Span.zero

/-- The span taken a number of times. -/
def Span.times {Fault : Type} (span : Span) (count : Nat) : Except (Failure Fault) Span :=
  Span.check ⟨span.nanoseconds * count⟩

/-- The longer of two spans. -/
def Span.max (first second : Span) : Span := ⟨Nat.max first.nanoseconds second.nanoseconds⟩

/-- The longest span of a list; nothing lasts no time. -/
def Span.longest (spans : List Span) : Span := spans.foldl Span.max Span.zero

/-- The span as a number of seconds. -/
def Span.seconds (span : Span) : Float :=
  Float.ofNat (span.nanoseconds / nanosecondsPerSecond) +
    Float.ofNat (span.nanoseconds % nanosecondsPerSecond) / 1e9

/-- A number of seconds with at most three places. -/
def secondsText (seconds : Float) : String :=
  String.ofList (Numeric.trimFraction (Numeric.threePlaces seconds)) ++ "s"

/-- The largest whole number that does not exceed a number that is not negative. -/
def wholePart (value : Float) : Float :=
  match Numeric.decode value with
  | .finite _ magnitude => Float.ofNat magnitude.floor
  | _ => value

/-- The text of a span: `2s`, `1.5s`, `1m30s`. -/
def Span.text (span : Span) : String :=
  let total := span.seconds
  if 60.0 ≤ total then
    let minutes := wholePart (total / 60.0)
    Numeric.floatText minutes ++ "m" ++ secondsText (total - minutes * 60.0)
  else secondsText total

end StepSequencer
