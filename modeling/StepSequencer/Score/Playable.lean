/-
This file holds whatever can be played: parts, and arrangements of parts and further arrangements.
An arrangement is a list of stages. The voices of a stage sound together, and its pacer lasts as
long as the longest of its parts and releases their held notes. A silent copy of a stage has no
voices and a pacer of the same length that releases nothing.
-/

import StepSequencer.Score.Part

namespace StepSequencer

/-- Voices that sound together, with the part that paces them. -/
structure Stage (Voice : Type) where
  voices : List Voice
  pacer : Part

/-- Stages in a row. -/
structure Arrangement (Voice : Type) where
  name : String
  group : String
  texts : List String
  stages : List (Stage Voice)
  span : Span
  warnings : List Warning
  /-- The place among the playables of its document. -/
  slot : Option Nat

/-- A part, or an arrangement of playables. -/
inductive Playable where
  | part (part : Part)
  | arrangement (arrangement : Arrangement Playable)

namespace Playable

/-- The name by which arrangement lines refer to the playable. -/
def name : Playable → String
  | .part single => single.name
  | .arrangement inner => inner.name

/-- The group of the playable. -/
def group : Playable → String
  | .part single => single.group
  | .arrangement inner => inner.group

/-- The texts of the steps. -/
def texts : Playable → List String
  | .part single => single.texts
  | .arrangement inner => inner.texts

/-- The time that one pass takes at the tempo of the document. -/
def span : Playable → Span
  | .part single => single.span
  | .arrangement inner => inner.span

/-- What loading the playable gave rise to. -/
def warnings : Playable → List Warning
  | .part single => single.warnings
  | .arrangement inner => inner.warnings

/-- The place among the playables of the document. -/
def slot : Playable → Option Nat
  | .part single => single.slot
  | .arrangement inner => inner.slot

/-- The playable if it is a part. -/
def part? : Playable → Option Part
  | .part single => some single
  | .arrangement _ => none

/-- The playable if it is an arrangement. -/
def arrangement? : Playable → Option (Arrangement Playable)
  | .part _ => none
  | .arrangement inner => some inner

end Playable

/-- The greatest number of a list, or zero. -/
def greatest (numbers : List Nat) : Nat := numbers.foldr Nat.max 0

namespace Stage

/-- The parts among the voices. -/
def parts (voices : List Playable) : List Part := voices.filterMap Playable.part?

/-- The stage of some voices. Its pacer lasts as long as the longest part and releases what every
part has to release, in the order of the voices. -/
def ofVoices (voices : List Playable) : Stage Playable where
  voices
  pacer := Part.pacer (greatest ((parts voices).map Part.pulses)) fun pulse =>
    (parts voices).flatMap fun part => part.releases.due pulse

/-- A stage of the same length in which nothing sounds. -/
def rest (stage : Stage Playable) : Stage Playable where
  voices := []
  pacer := Part.pacer stage.pacer.length fun _ => []

/-- The time of the longest voice. -/
def span (stage : Stage Playable) : Span := Span.longest (stage.voices.map Playable.span)

end Stage

namespace Arrangement

/-- Builds an arrangement from its lines. -/
def ofLines {Fault : Type} (name group : String) (warnings : List Warning) (slot : Option Nat)
    (lines : List (Line (List Playable))) : Except (Failure Fault) (Arrangement Playable) := do
  let stages := Line.stepContents Stage.ofVoices (fun voices => (Stage.ofVoices voices).rest) lines
  let span ← Span.sum (stages.map Stage.span)
  return { name, group, texts := Line.stepTexts lines, stages, span, warnings, slot }

/-- An arrangement that plays one part once. -/
def solo (part : Part) : Arrangement Playable where
  name := part.name
  group := part.group
  texts := [part.name]
  stages := [Stage.ofVoices [.part part]]
  span := part.span
  warnings := []
  slot := none

/-- The title of an arrangement: name and time. -/
def title (arrangement : Arrangement Playable) : String :=
  arrangement.name ++ " (" ++ arrangement.span.text ++ ")"

end Arrangement

namespace Playable

/-- The title under which the playable is shown. -/
def title : Playable → String
  | .part single => single.title
  | .arrangement inner => inner.title

/-- The arrangement that plays the playable: a part plays alone. -/
def arranged : Playable → Arrangement Playable
  | .part single => Arrangement.solo single
  | .arrangement inner => inner

mutual

/-- The pulses that a voice keeps its stage going by itself. A part does not count, since the pacer
lasts as long as the longest part. -/
def pulses : Playable → Nat
  | .part _ => 0
  | .arrangement inner => arrangementPulses inner

/-- The pulses of an arrangement: the sum over its stages. -/
def arrangementPulses : Arrangement Playable → Nat
  | ⟨_, _, _, stages, _, _, _⟩ => stagesPulses stages

/-- The pulses of stages in a row. -/
def stagesPulses : List (Stage Playable) → Nat
  | [] => 0
  | stage :: rest => stagePulses stage + stagesPulses rest

/-- The pulses of a stage: those of its pacer or of its longest nested arrangement. -/
def stagePulses : Stage Playable → Nat
  | ⟨voices, pacer⟩ => Nat.max pacer.length (voicesPulses voices)

/-- The pulses of the longest nested arrangement among some voices. -/
def voicesPulses : List Playable → Nat
  | [] => 0
  | voice :: rest => Nat.max (pulses voice) (voicesPulses rest)

end

end Playable

end StepSequencer
