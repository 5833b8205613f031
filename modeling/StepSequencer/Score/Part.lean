/-
This file holds parts: one voice that steps through its lines at a fixed division. At every step a
part sends the notes that start there. A note that is held gets its release one pulse before the
step behind the hold, if that pulse still lies in the part; these releases are kept as a schedule,
because it is not the part that sends them. The pacer is a part of one pulse a step that sends the
releases of all parts that sound together.
-/

import StepSequencer.Header.Settings
import StepSequencer.Message
import StepSequencer.Notation.Node
import StepSequencer.Score.Line
import StepSequencer.Time.Tempo

namespace StepSequencer

/-- The messages of a step; releases go out before attacks. -/
structure Cue where
  releases : List Message
  attacks : List Message
deriving DecidableEq

/-- A step that sends nothing. -/
def Cue.silent : Cue := ⟨[], []⟩

/-- The messages of a step in the order in which they go out. -/
def Cue.messages (cue : Cue) : List Message := cue.releases ++ cue.attacks

/-- Messages by the pulse at which they are due, counted from the start of a part. -/
abbrev Schedule := List (Nat × Message)

/-- The messages that are due at a pulse. -/
def Schedule.due (schedule : Schedule) (pulse : Nat) : List Message :=
  (schedule.filter fun entry => entry.1 == pulse).map Prod.snd

/-- A voice on one channel. -/
structure Part where
  name : String
  group : String
  /-- Counted from 1. -/
  channel : UInt8
  division : Division
  texts : List String
  cues : List Cue
  /-- The releases of held notes. -/
  releases : Schedule
  span : Span
  warnings : List Warning
  /-- The place among the playables of its document. -/
  slot : Option Nat

/-- The number of steps. -/
def Part.length (part : Part) : Nat := part.cues.length

/-- The number of pulses that all steps need. -/
def Part.pulses (part : Part) : Nat := part.length * part.division.pulses

/-- What a node sounds once its pitches are known. -/
structure Struck where
  pitches : List UInt8
  hold : Option Nat
deriving DecidableEq

/-- Takes the pitches of a node. -/
def Struck.ofNode (node : Node) : Except (Failure SyntaxFault) Struck := do
  return ⟨← node.pitches, node.hold⟩

/-- The loudness of every note. -/
def velocity : UInt8 := 100

/-- The note-ons of a step. -/
def attacksOf (channel : UInt8) (struck : List Struck) : List Message :=
  struck.flatMap fun sound => sound.pitches.map fun pitch => .noteOn channel pitch velocity

/-- The pulse at which a note that starts at a step is released, one pulse before the step behind
its hold. A note without a hold rings on, and so does one whose release would lie behind the last
pulse. -/
def releasePulse? (division total step : Nat) (hold : Option Nat) : Option Nat :=
  match hold with
  | some (steps + 1) =>
    let pulse := (step + (steps + 1)) * division - 1
    if pulse < total then some pulse else none
  | _ => none

/-- The releases of the notes that start at a step. -/
def releasesOf (channel : UInt8) (division total step : Nat) (struck : List Struck) : Schedule :=
  struck.flatMap fun sound =>
    match releasePulse? division total step sound.hold with
    | some pulse => sound.pitches.map fun pitch => (pulse, .noteOff channel pitch)
    | none => []

/-- Reads a step line of a part; the repeat is checked before the notes. -/
def readPartLine (text : String) : Except (Failure SyntaxFault) (Line (List Struck)) := do
  let repetition ← (Notation.readRepeat text.toList).mapError .fault
  let nodes ← Notation.readNodes text.toList
  return ⟨text, repetition, ← nodes.mapM Struck.ofNode⟩

/-- Builds a part from its header and its lines. -/
def Part.ofLines (header : PartHeader) (bpm : Float) (slot : Option Nat)
    (lines : List (Line (List Struck))) : Except (Failure SyntaxFault) Part := do
  let contents := Line.stepContents id (fun _ => []) lines
  let channel := header.channel - 1
  let division := header.division.pulses
  let total := contents.length * division
  let span ← pulsesSpan total bpm
  return {
    name := header.name
    group := header.group
    channel := header.channel
    division := header.division
    texts := Line.stepTexts lines
    cues := contents.map fun struck => ⟨[], attacksOf channel struck⟩
    releases := contents.zipIdx.flatMap fun entry =>
      releasesOf channel division total entry.2 entry.1
    span
    warnings := header.warnings
    slot }

/-- Reads a part from its header and the text of its lines. -/
def Part.read (header : PartHeader) (bpm : Float) (slot : Option Nat) (lines : List String) :
    Except (Failure SyntaxFault) Part := do
  Part.ofLines header bpm slot (← lines.mapM readPartLine)

/-- A part of one pulse a step that sends only the given releases. -/
def Part.pacer (length : Nat) (due : Nat → List Message) : Part where
  name := "sync"
  group := ""
  channel := 1
  division := .pulse
  texts := List.replicate length ""
  cues := (List.range length).map fun pulse => ⟨due pulse, []⟩
  releases := []
  span := Span.zero
  warnings := []
  slot := none

/-- The title of a part: name, channel and time. -/
def Part.title (part : Part) : String :=
  part.name ++ " (ch:" ++ toString part.channel.toNat ++ ") (" ++ part.span.text ++ ")"

end StepSequencer
