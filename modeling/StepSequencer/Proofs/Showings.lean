/-
This file says what is shown of a studio to somebody who listens to all of its ports and watches its
steps and its state. The steps are a matter of the studio: they move with what the engine makes
known of the document that is loaded. So if engines look alike, and the studios had reached the same
steps of the same edition, they show the same.
-/

import StepSequencer.Proofs.Histories
import StepSequencer.Proofs.PulseSources

namespace StepSequencer

/-- The attention of somebody to whom everything counts that can be shown. -/
def Attention.toShows : Attention where
  transport := true
  editions := true

/-- What is shown of a studio: what has come out of its engine, and the steps that its playables
have reached. -/
structure Showing extends Output where
  cursors : Cursors
deriving DecidableEq

namespace Studio

theorem Reached.twins {studio : Studio} (reached : studio.Reached) :
    Engine.Twins .toShows studio.engine studio.engine :=
  .refl rfl (Engine.Twins.of_reached reached).attentive

/-- What is shown of a studio since the last look. -/
def showing (studio : Studio) : Showing := { studio.output with cursors := studio.look.2.cursors }

/-- What is shown of a studio whenever something is done to it. -/
def showings : Studio → List Deed → List Showing
  | _, [] => []
  | studio, deed :: rest =>
    (studio.look.2.after deed).showing :: (studio.look.2.after deed).showings rest

/-- Whether the playables of two studios have reached the same steps of the same edition. -/
structure SameSteps (first second : Studio) : Prop where
  edition : first.edition = second.edition
  cursors : first.cursors = second.cursors

namespace SameSteps

variable {first second : Studio} (same : SameSteps first second)

theorem refl (studio : Studio) : SameSteps studio studio := ⟨rfl, rfl⟩

include same

/-- Nothing that is done to studios sets their steps apart before the next look. -/
theorem after (deed : Deed) : SameSteps (first.after deed) (second.after deed) := by
  cases deed with
  | reload document =>
    show SameSteps (first.reload document).2 (second.reload document).2
    unfold Studio.reload Engine.reload
    cases Sequence.load document with
    | ok sequence => exact ⟨congrArg (· + 1) same.edition, rfl⟩
    | error failure => exact ⟨same.edition, same.cursors⟩
  | receive subscriber =>
    have kept (studio : Studio) : SameSteps (studio.receive subscriber).2 studio := by
      unfold receive
      dsimp only
      split <;> exact ⟨rfl, rfl⟩
    exact ⟨(kept first).edition.trans (same.edition.trans (kept second).edition.symm),
      (kept first).cursors.trans (same.cursors.trans (kept second).cursors.symm)⟩
  | act _ | subscribe _ _ _ | unsubscribe _ _ | setPort _ | setClock _ | setSpawnFaults _
  | drainFaults =>
    exact ⟨same.edition, same.cursors⟩

theorem look {attention : Attention} (alike : Engine.Alike attention first.engine second.engine)
    (counts : attention.editions = true) : SameSteps first.look.2 second.look.2 where
  edition := same.edition
  cursors := by
    have seen := alike.events
    show first.engine.events.foldl (moveCursor first.edition) first.cursors =
      second.engine.events.foldl (moveCursor second.edition) second.cursors
    rw [← foldl_moveCursor_seen counts, seen, foldl_moveCursor_seen counts, same.edition,
      same.cursors]

theorem showing_eq (alike : Engine.Alike .toShows first.engine second.engine) :
    first.showing = second.showing := by
  unfold showing
  rw [alike.output_eq rfl, (same.look alike rfl).cursors]

omit same in
/-- Studios with twins whose playables have reached the same steps show the same, whatever is done
to them. -/
theorem showings_eq (same : SameSteps first.look.2 second.look.2)
    (twins : Engine.Twins .toShows first.look.2.engine second.look.2.engine) (deeds : List Deed) :
    first.showings deeds = second.showings deeds := by
  induction deeds generalizing first second with
  | nil => rfl
  | cons deed rest inductionHypothesis =>
    have steps := same.after deed
    have behind := twins.after rfl deed
    exact congrArg₂ List.cons (steps.showing_eq behind.alike)
      (inductionHypothesis (steps.look behind.alike rfl) behind.look)

end SameSteps

end Studio

end StepSequencer
