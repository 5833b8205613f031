/-
This file says where the copies of a line lie. The copies of one line stand behind each other, and
behind those of all lines before it, so every slot of the expanded lines is that of one copy of one
line. Whatever has an entry for each copy is looked up in the same way; the texts and the contents
of the steps are two cases of that.
-/

import StepSequencer.Score.Line
import Mathlib.Algebra.GroupWithZero.Nat

namespace StepSequencer.Line

variable {Content : Type}

/-- The slots that some lines take, one for each copy. -/
def slots (lines : List (Line Content)) : Nat := (lines.map fun line => line.repetition.times).sum

/-- Whether a slot is that of a copy of a line. Slots are counted from 0 and copies from 1. -/
def CopyAt (lines : List (Line Content)) (slot : Nat) (line : Line Content) (copy : Nat) : Prop :=
  ∃ before behind, lines = before ++ line :: behind ∧ 0 < copy ∧ copy ≤ line.repetition.times ∧
    slot + 1 = slots before + copy

theorem slots_cons (line : Line Content) (behind : List (Line Content)) :
    slots (line :: behind) = line.repetition.times + slots behind := by
  rw [slots, List.map_cons, List.sum_cons, slots]

/-- No slot is left over. -/
theorem exists_copyAt {lines : List (Line Content)} {slot : Nat} (within : slot < slots lines) :
    ∃ line copy, CopyAt lines slot line copy := by
  induction lines generalizing slot with
  | nil => cases within
  | cons first rest inductionHypothesis =>
    rw [slots_cons] at within
    by_cases here : slot < first.repetition.times
    · exact ⟨first, slot + 1, [], rest, rfl, slot.succ_pos, here, (Nat.zero_add _).symm⟩
    · have later : slot - first.repetition.times < slots rest := by omega
      obtain ⟨line, copy, before, behind, rfl, positive, upTo, there⟩ := inductionHypothesis later
      refine ⟨line, copy, first :: before, behind, rfl, positive, upTo, ?_⟩
      rw [slots_cons]
      omega

section Expansion

variable {Item : Type} {copies : Line Content → List Item}
  (each : ∀ line, (copies line).length = line.repetition.times)

include each

theorem length_flatMap_copies (lines : List (Line Content)) :
    (lines.flatMap copies).length = slots lines := by
  rw [List.length_flatMap, slots]
  simp only [each]

/-- Whatever has an entry for each copy has that of a copy in its slot. -/
theorem CopyAt.getElem?_flatMap_copies {lines : List (Line Content)} {slot copy : Nat}
    {line : Line Content} (place : CopyAt lines slot line copy) :
    (lines.flatMap copies)[slot]? = (copies line)[copy - 1]? := by
  obtain ⟨before, behind, rfl, positive, upTo, there⟩ := place
  have behindOthers : slot = (before.flatMap copies).length + (copy - 1) := by
    rw [length_flatMap_copies each]
    omega
  have inside : copy - 1 < (copies line).length := by
    rw [each]
    omega
  rw [List.flatMap_append, List.flatMap_cons, behindOthers,
    List.getElem?_append_right (Nat.le_add_right _ _), Nat.add_sub_cancel_left,
    List.getElem?_append_left inside]

end Expansion

theorem length_texts (line : Line Content) :
    (line.repetition.texts line.text).length = line.repetition.times := by
  rw [Repeat.texts, List.length_map, List.length_range]

theorem length_stepTexts (lines : List (Line Content)) : (stepTexts lines).length = slots lines :=
  length_flatMap_copies length_texts lines

/-- The first copy of a line has its text, and the others have none. -/
theorem CopyAt.getElem?_stepTexts {lines : List (Line Content)} {slot copy : Nat}
    {line : Line Content} (place : CopyAt lines slot line copy) :
    (stepTexts lines)[slot]? = some (if copy = 1 then line.text else "") := by
  rw [stepTexts, place.getElem?_flatMap_copies length_texts]
  obtain ⟨_, _, _, positive, upTo, _⟩ := place
  have inside : copy - 1 < line.repetition.times := by omega
  have first : copy - 1 = 0 ↔ copy = 1 := by omega
  simp [Repeat.texts, inside, first]

/-! ### Contents -/

theorem length_contents {Step : Type} (sounding resting : Line Content → Step)
    (line : Line Content) :
    (line.repetition.contents (sounding line) (resting line)).length = line.repetition.times := by
  rw [Repeat.contents, List.length_map, List.length_range]

/-- The copies that sound have what their line gives, and the others what rests. -/
theorem CopyAt.getElem?_flatMap_contents {Step : Type} (sounding resting : Line Content → Step)
    {lines : List (Line Content)} {slot copy : Nat} {line : Line Content}
    (place : CopyAt lines slot line copy) :
    (lines.flatMap fun line =>
        line.repetition.contents (sounding line) (resting line))[slot]? =
      some (if line.repetition.sounds copy then sounding line else resting line) := by
  rw [place.getElem?_flatMap_copies (length_contents sounding resting)]
  obtain ⟨_, _, _, positive, upTo, _⟩ := place
  have inside : copy - 1 < line.repetition.times := by omega
  simp [Repeat.contents, inside, Nat.sub_add_cancel positive]

section StepContents

variable {Step : Type} (sounding resting : Content → Step)

theorem stepContents_cons (line : Line Content) (behind : List (Line Content)) :
    stepContents sounding resting (line :: behind) =
      line.repetition.contents (sounding line.content) (resting line.content) ++
        stepContents sounding resting behind :=
  List.flatMap_cons

theorem length_stepContents (lines : List (Line Content)) :
    (stepContents sounding resting lines).length = slots lines :=
  length_flatMap_copies (length_contents _ _) lines

/-- The steps of some lines lie behind each other, and those of one line are its copies in order. -/
theorem stepContents_getElem? (before behind : List (Line Content)) (line : Line Content)
    {index : Nat} (within : index < line.repetition.times) :
    (stepContents sounding resting (before ++ line :: behind))[slots before + index]? =
      some (if line.repetition.sounds (index + 1) then sounding line.content
        else resting line.content) :=
  CopyAt.getElem?_flatMap_contents _ _
    ⟨before, behind, rfl, index.succ_pos, within, Nat.add_assoc _ _ _⟩

/-- What each step gives is laid out like the steps. -/
theorem map_stepContents {Item : Type} (taken : Step → Item) (lines : List (Line Content)) :
    (stepContents sounding resting lines).map taken =
      lines.flatMap fun line => line.repetition.contents (taken (sounding line.content))
        (taken (resting line.content)) := by
  rw [stepContents, List.map_flatMap]
  congr 1
  funext line
  rw [Repeat.contents, Repeat.contents, List.map_map]
  exact List.map_congr_left fun index _ => apply_ite taken _ _ _

end StepContents

end StepSequencer.Line
