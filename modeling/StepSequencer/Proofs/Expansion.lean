/-
This file says that parts and arrangements expand their lines alike. Both have one slot for each
copy of each line, in order. The first slot of a line has its text and the others have none, and the
slots of the copies that sound have what the line gives while the others have nothing: a part gives
the note-ons of a line, an arrangement its voices. So a number denotes the same copy in the texts
and in the contents, and in a part and in an arrangement.
-/

import StepSequencer.Proofs.Durations
import StepSequencer.Proofs.Releases

namespace StepSequencer

/-- A copy sounds if there is no modulo, or if it divides the position of the copy. -/
theorem Repeat.sounds_iff {repetition : Repeat} {copy : Nat} :
    repetition.sounds copy = true ↔ repetition.modulo = 0 ∨ repetition.modulo ∣ copy := by
  rw [sounds, Bool.or_eq_true, beq_iff_eq, beq_iff_eq, Nat.dvd_iff_mod_eq_zero]

namespace Line

/-! ### Slots -/

section Slots

variable {Content Item : Type}

/-- Whether texts and contents are those of the copies of some lines. There are as many of both as
the lines have slots, and every slot is that of a copy. The first copy of a line has its text and
the others have none; a copy has what its line gives if there is no modulo or if it divides the
position of the copy, and has nothing otherwise. -/
structure LaidOut (lines : List (Line Content)) (given : Line Content → List Item)
    (texts : List String) (contents : List (List Item)) : Prop where
  texts_length : texts.length = slots lines
  contents_length : contents.length = slots lines
  copies : ∀ slot < slots lines, ∃ line copy, CopyAt lines slot line copy
  text : ∀ slot line copy, CopyAt lines slot line copy →
    texts[slot]? = some (if copy = 1 then line.text else "")
  content : ∀ slot line copy, CopyAt lines slot line copy →
    contents[slot]? = some (if line.repetition.modulo = 0 ∨ line.repetition.modulo ∣ copy
      then given line else [])

/-- Whatever is expanded from lines is laid out like them. -/
theorem laidOut_expansion (lines : List (Line Content)) (given : Line Content → List Item) :
    LaidOut lines given (stepTexts lines)
      (lines.flatMap fun line => line.repetition.contents (given line) []) where
  texts_length := length_stepTexts lines
  contents_length := length_flatMap_copies (length_contents given fun _ => []) lines
  copies := fun _ => exists_copyAt
  text := fun _ _ _ place => place.getElem?_stepTexts
  content := fun _ _ _ place => by
    rw [place.getElem?_flatMap_contents given fun _ => []]
    exact congrArg some (if_congr Repeat.sounds_iff rfl rfl)

/-- The texts of the slots do not depend on what the lines give. -/
theorem LaidOut.texts_eq {Other : Type} {lines : List (Line Content)}
    {given : Line Content → List Item} {others : Line Content → List Other}
    {texts otherTexts : List String} {contents : List (List Item)}
    {otherContents : List (List Other)} (layout : LaidOut lines given texts contents)
    (otherLayout : LaidOut lines others otherTexts otherContents) : texts = otherTexts := by
  refine List.ext_getElem? fun slot => ?_
  by_cases within : slot < slots lines
  · obtain ⟨line, copy, place⟩ := exists_copyAt within
    rw [layout.text slot line copy place, otherLayout.text slot line copy place]
  · rw [List.getElem?_eq_none (layout.texts_length ▸ Nat.not_lt.mp within),
      List.getElem?_eq_none (otherLayout.texts_length ▸ Nat.not_lt.mp within)]

end Slots

/-! ### Lines of parts -/

variable {Content : Type}

/-- The nodes that the text of a line names. -/
def nodes (line : Line Content) : List Node :=
  (Notation.readNodes line.text.toList).toOption.getD []

/-- The note-ons of a line on a channel. -/
def attacks (channel : UInt8) (line : Line Content) : List Message :=
  attacksOf channel (line.nodes.map Node.struck)

/-- A line as a part holds it. -/
def played (line : Line Content) : Line (List Struck) :=
  struckLine ⟨line.text, line.repetition, line.nodes⟩

/-- Whether the text of a line is in the notation of parts. -/
def Readable (line : Line Content) : Prop :=
  Notation.readNodes line.text.toList = .ok line.nodes

theorem readable_iff {line : Line Content} :
    line.Readable ↔ ∃ nodes, Notation.readNodes line.text.toList = .ok nodes := by
  constructor
  · intro read
    exact ⟨line.nodes, read⟩
  · rintro ⟨nodes, read⟩
    rw [Readable, Line.nodes, read]
    rfl

/-- The nodes of a line in the notation can all be taken. -/
theorem Readable.pitched_and_taken {line : Line Content} (readable : line.Readable) :
    Pitched line.nodes ∧
      line.nodes.mapM Struck.ofNode = .ok (line.nodes.map Node.struck) := by
  obtain ⟨struck, taken⟩ := Notation.exists_struck_of_readNodes readable
  obtain ⟨pitched, rfl⟩ := pitched_of_mapM_ofNode taken
  exact ⟨pitched, taken⟩

/-- A line in the notation is read as a part holds it. -/
theorem Readable.readPartLine {line : Line Content} (readable : line.Readable)
    (accepted : Notation.readRepeat line.text.toList = .ok line.repetition) :
    readPartLine line.text = .ok line.played :=
  bind_eq_ok_iff.mpr ⟨_, mapError_eq_ok_iff.mpr accepted,
    bind_eq_ok_iff.mpr ⟨_, readable, bind_eq_ok_iff.mpr ⟨_, readable.pitched_and_taken.2, rfl⟩⟩⟩

theorem readable_of_readPartLine {line : Line Content} {played : Line (List Struck)}
    (read : StepSequencer.readPartLine line.text = .ok played) : line.Readable := by
  obtain ⟨_, _, read⟩ := bind_eq_ok_iff.mp read
  obtain ⟨nodes, inNotation, _⟩ := bind_eq_ok_iff.mp read
  exact readable_iff.mpr ⟨nodes, inNotation⟩

/-- The lines of a part give their note-ons where they sound. -/
theorem map_attacksOf_stepContents (channel : UInt8) (lines : List (Line Content)) :
    (stepContents id (fun _ => []) (lines.map played)).map (attacksOf channel) =
      lines.flatMap fun line => line.repetition.contents (line.attacks channel) [] := by
  rw [map_stepContents, List.flatMap_map]
  rfl

theorem stepTexts_played (lines : List (Line Content)) :
    stepTexts (lines.map played) = stepTexts lines := by
  rw [stepTexts, List.flatMap_map]
  rfl

theorem slots_played (lines : List (Line Content)) : slots (lines.map played) = slots lines := by
  rw [slots, List.map_map]
  rfl

end Line

/-! ### Parts -/

namespace Part

variable {Content : Type} {header : PartHeader} {bpm : Float} {slot : Option Nat}
  {lines : List (Line Content)}
  (accepted : ∀ line ∈ lines, Notation.readRepeat line.text.toList = .ok line.repetition)

theorem exists_ofLines_eq_ok_iff {lines : List (Line (List Struck))} :
    (∃ part, ofLines header bpm slot lines = .ok part) ↔
      ∃ time, (pulsesSpan (Line.slots lines * header.division.pulses) bpm :
        Except (Failure SyntaxFault) Span) = .ok time := by
  rw [← Line.length_stepContents id (fun _ => []) lines]
  constructor
  · rintro ⟨part, read⟩
    obtain ⟨time, timed, _⟩ := bind_eq_ok_iff.mp read
    exact ⟨time, timed⟩
  · rintro ⟨time, timed⟩
    exact ⟨_, bind_eq_ok_iff.mpr ⟨time, timed, rfl⟩⟩

theorem texts_of_ofLines {lines : List (Line (List Struck))} {part : Part}
    (read : ofLines header bpm slot lines = .ok part) : part.texts = Line.stepTexts lines := by
  obtain ⟨_, _, read⟩ := bind_eq_ok_iff.mp read
  exact (congrArg Part.texts (Except.ok.inj read)).symm

include accepted in
/-- A part is read from lines exactly if they are in the notation and a part is built of them. -/
theorem read_eq_ok_iff {part : Part} :
    read header bpm slot (lines.map Line.text) = .ok part ↔
      (∀ line ∈ lines, line.Readable) ∧
        ofLines header bpm slot (lines.map Line.played) = .ok part := by
  have allRead (readable : ∀ line ∈ lines, line.Readable) :
      (lines.map Line.text).mapM readPartLine = .ok (lines.map Line.played) :=
    mapM_map_eq_ok fun line member =>
      (readable line member).readPartLine (accepted line member)
  rw [read, bind_eq_ok_iff]
  constructor
  · rintro ⟨values, inLines, built⟩
    have readable : ∀ line ∈ lines, line.Readable := by
      intro line member
      obtain ⟨_, _, read⟩ :=
        exists_related_of_mem (forall₂_of_mapM inLines) (List.mem_map_of_mem member)
      exact Line.readable_of_readPartLine read
    have held : values = lines.map Line.played :=
      Except.ok.inj (inLines.symm.trans (allRead readable))
    exact ⟨readable, held ▸ built⟩
  · rintro ⟨readable, built⟩
    exact ⟨_, allRead readable, built⟩

/-- The steps of a part that is built from lines are laid out like them. -/
theorem laidOut_of_ofLines {part : Part}
    (built : ofLines header bpm slot (lines.map Line.played) = .ok part) :
    Line.LaidOut lines (Line.attacks (header.channel - 1)) part.texts
      (part.cues.map Cue.messages) := by
  obtain ⟨_, _, cues, _⟩ := fields_of_ofLines built
  have sent : part.cues.map Cue.messages =
      (Line.stepContents id (fun _ => []) (lines.map Line.played)).map
        (attacksOf (header.channel - 1)) := by
    rw [cues, List.map_map]
    rfl
  rw [texts_of_ofLines built, Line.stepTexts_played, sent, Line.map_attacksOf_stepContents]
  exact Line.laidOut_expansion lines _

end Part

/-! ### Arrangements -/

/-- The steps of an arrangement that is built from lines are laid out like them. -/
theorem Arrangement.laidOut_of_ofLines {Fault : Type} {name group : String}
    {warnings : List Warning} {slot : Option Nat} {lines : List (Line (List Playable))}
    {arrangement : Arrangement Playable}
    (built : (ofLines name group warnings slot lines : Except (Failure Fault) _) =
      .ok arrangement) :
    Line.LaidOut lines Line.content arrangement.texts (arrangement.stages.map Stage.voices) := by
  have texts : arrangement.texts = Line.stepTexts lines := by
    obtain ⟨_, _, built⟩ := bind_eq_ok_iff.mp built
    exact (congrArg Arrangement.texts (Except.ok.inj built)).symm
  rw [texts, stages_of_ofLines built, Line.map_voices_stepContents]
  exact Line.laidOut_expansion lines Line.content

/-! ### Parts and arrangements -/

/-- How some lines are expanded. A part can be read from their texts exactly if they are in the
notation and the time of all slots can be told, and an arrangement can be built exactly if the time
of the copies that sound is below the limit. The steps of either are laid out like the lines, the
part with the note-ons of the lines and the arrangement with their voices. So both have the same
texts and equally many contents. -/
structure ExpandAlike (lines : List (Line (List Playable))) : Prop where
  part_exists : ∀ header bpm slot,
    (∃ part, Part.read header bpm slot (lines.map Line.text) = .ok part) ↔
      (∀ line ∈ lines, line.Readable) ∧
        ∃ time, (pulsesSpan (Line.slots lines * header.division.pulses) bpm :
          Except (Failure SyntaxFault) Span) = .ok time
  part_laidOut : ∀ header bpm slot part,
    Part.read header bpm slot (lines.map Line.text) = .ok part →
      (∀ line ∈ lines, Pitched line.nodes) ∧
        Line.LaidOut lines (Line.attacks (header.channel - 1)) part.texts
          (part.cues.map Cue.messages)
  arrangement_exists : ∀ (Fault : Type) name group warnings slot,
    (∃ arrangement, (Arrangement.ofLines name group warnings slot lines :
        Except (Failure Fault) _) = .ok arrangement) ↔
      (lines.map fun line => line.repetition.soundingCopies * longestTime line.content).sum <
        Span.limit
  arrangement_laidOut : ∀ (Fault : Type) name group warnings slot arrangement,
    (Arrangement.ofLines name group warnings slot lines : Except (Failure Fault) _) =
        .ok arrangement →
      Line.LaidOut lines Line.content arrangement.texts (arrangement.stages.map Stage.voices)
  same_slots : ∀ header bpm slot part,
    Part.read header bpm slot (lines.map Line.text) = .ok part →
      ∀ (Fault : Type) name group warnings place arrangement,
        (Arrangement.ofLines name group warnings place lines : Except (Failure Fault) _) =
            .ok arrangement →
          part.texts = arrangement.texts ∧ part.cues.length = arrangement.stages.length

/-- Lines whose texts have the repeats of the lines are expanded alike. -/
theorem repeats_expand_alike {lines : List (Line (List Playable))}
    (accepted : ∀ line ∈ lines, Notation.readRepeat line.text.toList = .ok line.repetition) :
    ExpandAlike lines := by
  constructor
  case part_exists =>
    intro header bpm slot
    simp only [Part.read_eq_ok_iff accepted, exists_and_left, Part.exists_ofLines_eq_ok_iff,
      Line.slots_played]
  case part_laidOut =>
    intro header bpm slot part read
    obtain ⟨readable, built⟩ := (Part.read_eq_ok_iff accepted).mp read
    exact ⟨fun line member => (readable line member).pitched_and_taken.1,
      Part.laidOut_of_ofLines built⟩
  case arrangement_exists =>
    intro Fault name group warnings slot
    exact Arrangement.exists_ofLines_eq_ok_iff Fault name group warnings slot lines
  case arrangement_laidOut =>
    intro Fault name group warnings slot arrangement built
    exact Arrangement.laidOut_of_ofLines built
  case same_slots =>
    intro header bpm slot part read Fault name group warnings place arrangement built
    have inPart := Part.laidOut_of_ofLines ((Part.read_eq_ok_iff accepted).mp read).2
    have inArrangement := Arrangement.laidOut_of_ofLines built
    have cues := inPart.contents_length
    have stages := inArrangement.contents_length
    rw [List.length_map] at cues stages
    exact ⟨inPart.texts_eq inArrangement, cues.trans stages.symm⟩

/-- A line of which no copy sounds, one of which every other copy does, an empty one and one of
which all copies sound. -/
theorem repeats_expand_alike_mixedRepeats :
    ∃ (lines : List (Line (List Playable))) (voices : List Playable) (part : Part)
      (arrangement : Arrangement Playable),
      lines = [⟨"c5 *2%3", ⟨2, 3⟩, voices⟩, ⟨"c5:1 e5 *3%2", ⟨3, 2⟩, voices⟩,
        ⟨"", Repeat.once, []⟩, ⟨"g5 *2%0", ⟨2, 0⟩, voices⟩] ∧
      (∀ line ∈ lines, Notation.readRepeat line.text.toList = .ok line.repetition) ∧
      Part.read ⟨"a", defaultName, 1, .eighth, []⟩ 120.0 none (lines.map Line.text) = .ok part ∧
      (Arrangement.ofLines "song" defaultName [] none lines : Except (Failure SyntaxFault) _) =
        .ok arrangement ∧
      part.texts = arrangement.texts ∧ part.cues.length = 8 ∧ arrangement.stages.length = 8 ∧
      part.texts[2]? = some "c5:1 e5 *3%2" ∧ (part.cues.map Cue.messages)[2]? = some [] ∧
      (arrangement.stages.map Stage.voices)[2]? = some [] ∧
      part.texts[3]? = some "" ∧
      (part.cues.map Cue.messages)[3]? = some [.noteOn 0 60 100, .noteOn 0 64 100] ∧
      (arrangement.stages.map Stage.voices)[3]? = some voices := by
  let voices : List Playable := [.part (Part.pacer 1 fun _ => [])]
  let header : PartHeader := ⟨"a", defaultName, 1, .eighth, []⟩
  let chord : Line (List Playable) := ⟨"c5:1 e5 *3%2", ⟨3, 2⟩, voices⟩
  let before : List (Line (List Playable)) := [⟨"c5 *2%3", ⟨2, 3⟩, voices⟩]
  let behind : List (Line (List Playable)) :=
    [⟨"", Repeat.once, []⟩, ⟨"g5 *2%0", ⟨2, 0⟩, voices⟩]
  let lines := before ++ chord :: behind
  have written : ∀ line ∈ lines,
      (Notation.readRepeat line.text.toList).toOption = some line.repetition := by decide +kernel
  have accepted : ∀ line ∈ lines, Notation.readRepeat line.text.toList = .ok line.repetition :=
    fun line member => toOption_eq_some_iff.mp (written line member)
  have inNotation : ∀ line ∈ lines,
      (Notation.readNodes line.text.toList).toOption.isSome = true := by decide +kernel
  have readable : ∀ line ∈ lines, line.Readable := by
    intro line member
    obtain ⟨nodes, read⟩ := Option.isSome_iff_exists.mp (inNotation line member)
    exact Line.readable_iff.mpr ⟨nodes, toOption_eq_some_iff.mp read⟩
  have timed : (pulsesSpan (8 * 12) 120.0 : Except (Failure SyntaxFault) Span).toOption.isSome =
      true := by decide +kernel
  have expanded : ExpandAlike lines := repeats_expand_alike accepted
  obtain ⟨time, inTime⟩ := Option.isSome_iff_exists.mp timed
  obtain ⟨part, read⟩ := (expanded.part_exists header 120.0 none).mpr
    ⟨readable, time, toOption_eq_some_iff.mp inTime⟩
  obtain ⟨arrangement, built⟩ :=
    (expanded.arrangement_exists SyntaxFault "song" defaultName [] none).mpr (by decide)
  have inPart := (expanded.part_laidOut header 120.0 none part read).2
  have inArrangement :=
    expanded.arrangement_laidOut SyntaxFault "song" defaultName [] none arrangement built
  have same := expanded.same_slots header 120.0 none part read SyntaxFault "song" defaultName []
    none arrangement built
  have cues := inPart.contents_length
  rw [List.length_map] at cues
  have first : Line.CopyAt lines 2 chord 1 := ⟨before, behind, rfl, by decide⟩
  have second : Line.CopyAt lines 3 chord 2 := ⟨before, behind, rfl, by decide⟩
  have attacks : chord.attacks (header.channel - 1) = [.noteOn 0 60 100, .noteOn 0 64 100] := by
    decide +kernel
  have rests : ¬ (chord.repetition.modulo = 0 ∨ chord.repetition.modulo ∣ 1) := by decide
  have sounds : chord.repetition.modulo = 0 ∨ chord.repetition.modulo ∣ 2 := by decide
  refine ⟨lines, voices, part, arrangement, rfl, accepted, read, built, same.1, cues,
    same.2.symm.trans cues, inPart.text 2 chord 1 first, ?_, ?_, inPart.text 3 chord 2 second,
    ?_, ?_⟩
  · rw [inPart.content 2 chord 1 first, if_neg rests]
  · rw [inArrangement.content 2 chord 1 first, if_neg rests]
  · rw [inPart.content 3 chord 2 second, if_pos sounds, attacks]
  · rw [inArrangement.content 3 chord 2 second, if_pos sounds]

end StepSequencer
