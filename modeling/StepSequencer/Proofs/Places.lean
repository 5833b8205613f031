/-
This file forgets where playables stand in their document. A playable remembers its place, and so
does every playable among its voices, at any depth; all else in it is what there is to play. Nothing
else depends on places: an arrangement that is built from voices without places is the arrangement
that is built from the voices, without places.
-/

import StepSequencer.Proofs.Copies
import StepSequencer.Proofs.Stages

namespace StepSequencer

/-- A part without its place. -/
def Part.unplaced (part : Part) : Part := { part with slot := none }

namespace Playable

mutual

/-- A playable without its place, and without those of its voices. -/
def unplaced : Playable → Playable
  | .part single => .part single.unplaced
  | .arrangement inner => .arrangement (unplacedArrangement inner)

/-- An arrangement without its place, and without those of its voices. -/
def unplacedArrangement : Arrangement Playable → Arrangement Playable
  | ⟨name, group, texts, stages, span, warnings, _⟩ =>
    ⟨name, group, texts, unplacedStages stages, span, warnings, none⟩

/-- Stages without the places of their voices. -/
def unplacedStages : List (Stage Playable) → List (Stage Playable)
  | [] => []
  | stage :: rest => unplacedStage stage :: unplacedStages rest

/-- A stage without the places of its voices. A pacer has no place. -/
def unplacedStage : Stage Playable → Stage Playable
  | ⟨voices, pacer⟩ => ⟨unplacedVoices voices, pacer⟩

/-- Voices without their places. -/
def unplacedVoices : List Playable → List Playable
  | [] => []
  | voice :: rest => unplaced voice :: unplacedVoices rest

end

theorem unplacedVoices_eq_map (voices : List Playable) :
    unplacedVoices voices = voices.map unplaced := by
  induction voices with
  | nil => rfl
  | cons voice rest inductionHypothesis =>
    rw [unplacedVoices, inductionHypothesis, List.map_cons]

theorem unplacedStages_eq_map (stages : List (Stage Playable)) :
    unplacedStages stages = stages.map unplacedStage := by
  induction stages with
  | nil => rfl
  | cons stage rest inductionHypothesis =>
    rw [unplacedStages, inductionHypothesis, List.map_cons]

@[simp]
theorem span_unplaced (playable : Playable) : playable.unplaced.span = playable.span := by
  cases playable with
  | part single => rfl
  | arrangement inner => cases inner; rfl

@[simp]
theorem name_unplaced (playable : Playable) : playable.unplaced.name = playable.name := by
  cases playable with
  | part single => rfl
  | arrangement inner => cases inner; rfl

theorem parts_unplaced (voices : List Playable) :
    Stage.parts (voices.map unplaced) = (Stage.parts voices).map Part.unplaced := by
  rw [Stage.parts, Stage.parts, List.filterMap_map, List.map_filterMap]
  congr 1
  funext voice
  cases voice <;> rfl

/-- A stage is made of its voices, so it may be made of them without their places. -/
theorem unplacedStage_ofVoices (voices : List Playable) :
    unplacedStage (Stage.ofVoices voices) = Stage.ofVoices (voices.map unplaced) := by
  have pulses : ((Stage.parts voices).map Part.unplaced).map Part.pulses =
      (Stage.parts voices).map Part.pulses := by
    rw [List.map_map]
    rfl
  have due : (fun pulse => ((Stage.parts voices).map Part.unplaced).flatMap
      fun part => part.releases.due pulse) =
      fun pulse => (Stage.parts voices).flatMap fun part => part.releases.due pulse := by
    funext pulse
    rw [List.flatMap_map]
    rfl
  rw [Stage.ofVoices, Stage.ofVoices, unplacedStage, unplacedVoices_eq_map, parts_unplaced, pulses,
    due]

theorem unplacedStage_rest (stage : Stage Playable) :
    unplacedStage stage.rest = (unplacedStage stage).rest := by
  cases stage
  rfl

@[simp]
theorem span_unplacedStage (stage : Stage Playable) : (unplacedStage stage).span = stage.span := by
  obtain ⟨voices, pacer⟩ := stage
  rw [unplacedStage, unplacedVoices_eq_map, Stage.span, List.map_map]
  exact congrArg Span.longest (List.map_congr_left fun voice _ => span_unplaced voice)

end Playable

/-- A line without the places of its voices. -/
def Line.unplaced (line : Line (List Playable)) : Line (List Playable) :=
  ⟨line.text, line.repetition, line.content.map Playable.unplaced⟩

namespace Line

theorem stepTexts_unplaced (lines : List (Line (List Playable))) :
    stepTexts (lines.map unplaced) = stepTexts lines := by
  rw [stepTexts, List.flatMap_map]
  rfl

theorem stepContents_unplaced (lines : List (Line (List Playable))) :
    (stepContents Stage.ofVoices (fun voices => (Stage.ofVoices voices).rest) lines).map
        Playable.unplacedStage =
      stepContents Stage.ofVoices (fun voices => (Stage.ofVoices voices).rest)
        (lines.map unplaced) := by
  rw [map_stepContents, stepContents, List.flatMap_map]
  simp only [Playable.unplacedStage_rest, Playable.unplacedStage_ofVoices]
  rfl

end Line

/-- To build an arrangement and to forget its place and those of its voices is to build it without
places. -/
theorem Arrangement.ofLines_unplaced {Fault : Type} (name group : String)
    (warnings : List Warning) (slot : Option Nat) (lines : List (Line (List Playable))) :
    (ofLines name group warnings slot lines : Except (Failure Fault) _).map
        Playable.unplacedArrangement =
      ofLines name group warnings none (lines.map Line.unplaced) := by
  have spans (stages : List (Stage Playable)) :
      (stages.map Playable.unplacedStage).map Stage.span = stages.map Stage.span := by
    rw [List.map_map]
    exact List.map_congr_left fun stage _ => Playable.span_unplacedStage stage
  rw [ofLines, ofLines, ← Line.stepContents_unplaced, spans, Line.stepTexts_unplaced]
  generalize Line.stepContents _ _ lines = stages
  cases (Span.sum (stages.map Stage.span) : Except (Failure Fault) Span) with
  | error failure => rfl
  | ok span =>
    show Except.ok _ = Except.ok _
    rw [Playable.unplacedArrangement, Playable.unplacedStages_eq_map]

end StepSequencer
