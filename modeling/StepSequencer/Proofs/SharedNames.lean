/-
This file compares two ways to look up a name. A word in an arrangement line means the first part
of that name, or the first arrangement of that name if there is no such part: parts come first,
wherever they stand. Whoever selects something to play gets the first playable of the name in
document order. Both ways lead to the same playable unless an arrangement of the name stands before
the first part of the name: then the line has the part, and the selection plays the arrangement.
Playables without a name share one, so this happens even where no name is written twice.
-/

import StepSequencer.Proofs.Accounts

namespace StepSequencer

/-! ### Parts behind arrangements of the same name -/

/-- Whether some playables have an arrangement of a name before the first part of that name. -/
inductive HidesPart (name : String) : List Playable → Prop
  | here {inner : Arrangement Playable} {later : List Playable} (named : inner.name = name)
      (behind : ∃ part ∈ Stage.parts later, part.name = name) :
      HidesPart name (.arrangement inner :: later)
  | further {playable : Playable} {later : List Playable}
      (noPart : ∀ part, playable = .part part → part.name ≠ name) (hides : HidesPart name later) :
      HidesPart name (playable :: later)

namespace HidesPart

variable {name : String} {playables : List Playable}

theorem exists_part (hides : HidesPart name playables) :
    ∃ part ∈ Stage.parts playables, part.name = name := by
  induction hides with
  | here _ behind => exact behind
  | further _ _ inductionHypothesis =>
    obtain ⟨part, member, named⟩ := inductionHypothesis
    exact ⟨part, Stage.mem_parts.mpr (List.mem_cons_of_mem _ (Stage.mem_parts.mp member)), named⟩

theorem nil_iff : HidesPart name [] ↔ False := ⟨nofun, False.elim⟩

theorem cons_part_iff {single : Part} :
    HidesPart name (.part single :: playables) ↔ single.name ≠ name ∧ HidesPart name playables := by
  constructor
  · rintro (_ | ⟨noPart, hides⟩)
    exact ⟨noPart single rfl, hides⟩
  · rintro ⟨other, hides⟩
    exact .further (fun _ same => Playable.part.inj same ▸ other) hides

theorem cons_arrangement_iff {inner : Arrangement Playable} :
    HidesPart name (.arrangement inner :: playables) ↔
      (inner.name = name ∧ ∃ part ∈ Stage.parts playables, part.name = name) ∨
        HidesPart name playables := by
  constructor
  · rintro (⟨named, behind⟩ | ⟨_, hides⟩)
    · exact .inl ⟨named, behind⟩
    · exact .inr hides
  · rintro (⟨named, behind⟩ | hides)
    · exact .here named behind
    · exact .further nofun hides

instance decide (name : String) : (playables : List Playable) → Decidable (HidesPart name playables)
  | [] => decidable_of_iff False nil_iff.symm
  | .part _ :: later =>
    have := decide name later
    decidable_of_iff _ cons_part_iff.symm
  | .arrangement _ :: later =>
    have := decide name later
    decidable_of_iff _ cons_arrangement_iff.symm

end HidesPart

/-- The first playable of a name is the first part of that name, unless an arrangement of the name
stands before that part. -/
theorem find?_eq_some_part_iff {name : String} {playables : List Playable} {part : Part}
    (found : (Stage.parts playables).find? (fun part => part.name == name) = some part) :
    playables.find? (fun playable => playable.name == name) = some (.part part) ↔
      ¬ HidesPart name playables := by
  induction playables with
  | nil => cases found
  | cons playable later inductionHypothesis =>
    cases playable with
    | part single =>
      rw [Stage.parts_part] at found
      by_cases named : single.name = name
      · obtain rfl : single = part := by simpa [named] using found
        exact iff_of_true (by simp [Playable.name, named]) fun hides =>
          (HidesPart.cons_part_iff.mp hides).1 named
      · rw [List.find?_cons_of_neg (by simpa using named)] at found
        simpa [Playable.name, named, HidesPart.cons_part_iff] using inductionHypothesis found
    | arrangement inner =>
      rw [Stage.parts_arrangement] at found
      by_cases named : inner.name = name
      · have behind : part.name = name := by simpa using List.find?_some found
        have hidden : HidesPart name (.arrangement inner :: later) :=
          .here named ⟨part, List.mem_of_find?_eq_some found, behind⟩
        exact iff_of_false (by simp [Playable.name, named]) (not_not_intro hidden)
      · simpa [Playable.name, named, HidesPart.cons_arrangement_iff] using
          inductionHypothesis found

/-- Without a part of a name, the first playable of the name is the first arrangement of it. -/
theorem find?_eq_map_arrangement {name : String} {playables : List Playable}
    (noPart : (Stage.parts playables).find? (fun part => part.name == name) = none) :
    playables.find? (fun playable => playable.name == name) =
      ((Stage.arrangements playables).find? fun inner => inner.name == name).map .arrangement := by
  induction playables with
  | nil => rfl
  | cons playable later inductionHypothesis =>
    cases playable with
    | part single =>
      rw [Stage.parts_part] at noPart
      have other : single.name ≠ name := fun named => by simp [named] at noPart
      rw [List.find?_cons_of_neg (by simpa using other)] at noPart
      rw [Stage.arrangements_part]
      simpa [Playable.name, other] using inductionHypothesis noPart
    | arrangement inner =>
      rw [Stage.arrangements_arrangement]
      by_cases named : inner.name = name
      · simp [Playable.name, named]
      · simpa [Playable.name, named] using inductionHypothesis noPart

/-! ### Words of arrangement lines -/

namespace Sequence

/-- Whether a reference is what a sequence has for a word, with what is found under that name: a
voice is the first playable of the name, unless an arrangement of the name stands before the first
part of it. -/
structure AgreesOn (sequence : Sequence) (word : String) (reference : Document.Reference) :
    Prop where
  answers : sequence.Answers word reference
  found_iff : ∀ voice, reference = .voice voice →
    (sequence.find? word = some voice ↔ ¬ HidesPart word sequence.playables)

theorem Answers.agreesOn {sequence : Sequence} {word : String} {reference : Document.Reference}
    (answers : sequence.Answers word reference) : sequence.AgreesOn word reference := by
  refine ⟨answers, ?_⟩
  rintro voice rfl
  cases answers with
  | part found => exact find?_eq_some_part_iff found
  | arrangement noPart found =>
    have first : sequence.find? word = some (.arrangement _) :=
      (find?_eq_map_arrangement noPart).trans (congrArg _ found)
    refine iff_of_true first fun hides => ?_
    obtain ⟨part, member, named⟩ := hides.exists_part
    exact List.find?_eq_none.mp noPart part member (beq_iff_eq.mpr named)

/-- Whether every arrangement of a sequence is made of the lines of one of some blocks, and the
sequence agrees on every word in them that looks like a name. -/
def AgreesOnWords (sequence : Sequence) (blocks : List Block) : Prop :=
  ∀ arrangement ∈ sequence.arrangements, ∃ block ∈ blocks, block.Heads (.arrangement arrangement) ∧
    ∃ lines, lines.map Line.text = block.steps ∧ sequence.Spells arrangement lines ∧
      ∀ line ∈ lines,
        List.Forall₂ sequence.AgreesOn (Notation.nameWords line.text.toList) line.content

/-- In whatever document is loaded, a word that has a voice means the first playable of that name,
unless an arrangement of the name stands before the first part of it. -/
theorem load_agrees_on_words {document : String} {sequence : Sequence}
    (loaded : load document = .ok sequence) :
    ∃ blocks, Document.readBlocks document = .ok blocks ∧ sequence.AgreesOnWords blocks := by
  obtain ⟨blocks, drafts, built, written, read, done, placed⟩ := exists_built_of_load loaded
  obtain ⟨_, held⟩ := forall₂_holds_of_built read done placed
  refine ⟨blocks, written, fun arrangement member => ?_⟩
  obtain ⟨⟨block, slot⟩, inBlocks, holds, _⟩ :=
    exists_related_of_mem held.flip (Stage.mem_arrangements.mp member)
  obtain ⟨lines, texts, spells⟩ := holds.spells arrangement rfl
  have inDocument : block ∈ blocks :=
    List.mem_of_mem_filter (List.fst_mem_of_mem_zipIdx inBlocks)
  exact ⟨block, inDocument, holds.heads, lines, texts, spells,
    fun line inLines => (spells.answers line inLines).imp fun _ _ => Answers.agreesOn⟩

/-- A document with an arrangement before a part, both of them without a name, and a part before an
arrangement of the same name. -/
def sharedSample : String :=
  "```beef.arrangement\n```\n```beef.part\nc5\n```\n```beef.part name:lead\ne5\n```\n" ++
    "```beef.arrangement name:lead\n```\n```beef.arrangement name:song\ndefault\nlead\n```\n"

theorem load_agrees_on_words_sharedSample :
    ∃ sequence blocks, load sharedSample = .ok sequence ∧
      Document.readBlocks sharedSample = .ok blocks ∧ sequence.AgreesOnWords blocks ∧
      HidesPart "default" sequence.playables ∧ ¬ HidesPart "lead" sequence.playables := by
  obtain ⟨sequence, loaded, hides⟩ := exists_load_eq_ok sharedSample
    (show ((load sharedSample).toOption.any fun sequence =>
      decide (HidesPart "default" sequence.playables ∧
        ¬ HidesPart "lead" sequence.playables)) = true by decide +kernel)
  obtain ⟨blocks, written, agrees⟩ := load_agrees_on_words loaded
  exact ⟨sequence, blocks, loaded, written, agrees, of_decide_eq_true hides⟩

/-- In the sample the first line of the song has a voice, but not the one that its word finds. -/
theorem exists_voice_ne_find? :
    ∃ sequence song voice voices, load sharedSample = .ok sequence ∧
      song ∈ sequence.arrangements ∧ song.texts = ["default", "lead"] ∧
      Notation.nameWords "default".toList = ["default"] ∧
      song.stages.map Stage.voices = [voice] :: voices ∧
      sequence.find? "default" ≠ some voice := by
  obtain ⟨sequence, loaded, known⟩ := exists_load_eq_ok sharedSample
    (show ((load sharedSample).toOption.any fun sequence =>
      decide ((∃ song ∈ sequence.arrangements, song.texts = ["default", "lead"] ∧
          (song.stages.map Stage.voices).map (List.map fun voice => voice.part?.isSome) =
            [[true], [true]]) ∧
        (sequence.find? "default").map (fun found => found.part?.isSome) = some false)) = true by
      decide +kernel)
  obtain ⟨⟨song, member, texts, kinds⟩, found⟩ := of_decide_eq_true known
  obtain ⟨first, voices, stages, isPart, _⟩ := List.map_eq_cons_iff.mp kinds
  obtain ⟨voice, rfl, sounds⟩ := List.map_eq_singleton_iff.mp isPart
  refine ⟨sequence, song, voice, voices, loaded, member, texts, by decide +kernel, stages, ?_⟩
  intro same
  rw [same, Option.map_some, sounds] at found
  cases found

end Sequence

end StepSequencer
