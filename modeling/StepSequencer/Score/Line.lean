/-
This file holds the authored lines of a playable and their expansion. A line has its text, its
repeat and its content; expansion gives as many steps as the repeat asks for, the text on the first
of them and the content on those that sound. Texts and contents are expanded alike, so a step number
denotes the same step in both. The listing of the texts marks the current step.
-/

import StepSequencer.Notation.Repeat

namespace StepSequencer

/-- An authored line whose content has been read. -/
structure Line (Content : Type) where
  text : String
  repetition : Repeat
  content : Content

/-- The texts of the steps of some lines. -/
def Line.stepTexts {Content : Type} (lines : List (Line Content)) : List String :=
  lines.flatMap fun line => line.repetition.texts line.text

/-- The contents of the steps of some lines; `resting` is what a silent copy of a line holds. -/
def Line.stepContents {Content Step : Type} (sounding resting : Content → Step)
    (lines : List (Line Content)) : List Step :=
  lines.flatMap fun line =>
    line.repetition.contents (sounding line.content) (resting line.content)

/-- The step that a playable has reached. The greatest number of 64 bits is kept for no step. -/
def cursorAt (step : Nat) : Option Nat := if step = Nat.pow 2 64 - 1 then none else some step

/-- The steps of a playable, numbered from 1, with a mark on the current one. -/
def listing (texts : List String) (cursor : Option Nat) : String :=
  let width := (toString texts.length).length
  let row (entry : String × Nat) : String :=
    let number := toString (entry.2 + 1)
    (if cursor = some entry.2 then "> " else "  ") ++
      String.ofList (List.replicate (width - number.length) ' ') ++ number ++ "  " ++ entry.1
  String.intercalate "\n" (texts.zipIdx.map row)

end StepSequencer
