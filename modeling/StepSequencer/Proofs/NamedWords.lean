/-
This file says what becomes of the words in the lines of an arrangement. Every word that looks like
a name is answered, in the order in which the words stand: by a playable of that name, or by a
warning that tells the name. No other word is answered at all. The names of playables are read by
other rules than the words of lines, so a playable can have a name that does not look like one. A
word that is such a name is dropped: it has no voice, and nothing warns of it.
-/

import StepSequencer.Proofs.Cycles

namespace StepSequencer

/-- The word of which a warning says that it leads to no playable. -/
def Warning.word? : Warning → Option String
  | .unknownReference word | .cyclicReference word => some word
  | .unknownDivision _ | .remark _ => none

namespace Notation

/-- The name words of a line are its words that look like names. -/
theorem mem_nameWords_iff {line word : List Char} :
    String.ofList word ∈ nameWords line ↔ word ∈ Text.words line ∧ looksLikeName word = true := by
  rw [nameWords, List.mem_map_of_injective fun _ _ => String.ofList_inj.mp, List.mem_filter]

end Notation

namespace Document

/-- Whether a reference is an answer to a word when a document has some playables. -/
inductive Reference.Answers (playables : List Playable) (word : String) : Reference → Prop
  | voice {playable : Playable} (known : playable ∈ playables) (named : playable.name = word) :
      Answers playables word (.voice playable)
  | cyclic : Answers playables word (.lost (.cyclicReference word))
  | unknown (nameless : ∀ playable ∈ playables, playable.name ≠ word) :
      Answers playables word (.lost (.unknownReference word))

/-! ### Lines whose words are answered -/

section Answered

variable {playables : List Playable} {words : List String} {references : List Reference}
  (answered : List.Forall₂ (Reference.Answers playables) words references)
include answered

/-- A word that names a playable is answered by a voice, unless it is cut. -/
theorem voiced_or_cut_of_answered {word : String} (member : word ∈ words) {playable : Playable}
    (known : playable ∈ playables) (named : playable.name = word) :
    (∃ voice ∈ references.filterMap Reference.voice?, voice.name = word) ∨
      .cyclicReference word ∈ references.filterMap Reference.warning? := by
  obtain ⟨reference, inLine, answers⟩ := exists_related_of_mem answered member
  cases answers with
  | @voice voice _ namedVoice =>
    exact .inl ⟨voice, List.mem_filterMap.mpr ⟨_, inLine, rfl⟩, namedVoice⟩
  | cyclic => exact .inr (List.mem_filterMap.mpr ⟨_, inLine, rfl⟩)
  | unknown nameless => exact absurd named (nameless playable known)

theorem mem_of_voiced {voice : Playable} (member : voice ∈ references.filterMap Reference.voice?) :
    voice.name ∈ words := by
  obtain ⟨reference, inLine, voiced⟩ := List.mem_filterMap.mp member
  obtain ⟨word, inWords, answers⟩ := exists_related_of_mem answered.flip inLine
  cases answers with
  | cyclic | unknown => cases voiced
  | voice known named =>
    cases voiced
    exact named ▸ inWords

theorem mem_of_warned {warning : Warning}
    (member : warning ∈ references.filterMap Reference.warning?) {word : String}
    (told : warning.word? = some word) : word ∈ words := by
  obtain ⟨reference, inLine, warned⟩ := List.mem_filterMap.mp member
  obtain ⟨other, inWords, answers⟩ := exists_related_of_mem answered.flip inLine
  cases answers with
  | voice => cases warned
  | cyclic | unknown =>
    cases warned
    exact Option.some.inj told ▸ inWords

end Answered

/-! ### The playables of a document -/

theorem Outline.name_of_target? {outline : Outline} {word : String} {target : Nat}
    (refers : outline.target? word = some target) :
    (outline.arrangements.map Prod.fst)[target]? = some word := by
  unfold target? at refers
  split at refers
  · cases refers
  · obtain ⟨within, same, _⟩ := List.findIdx?_eq_some_iff_getElem.mp refers
    rw [List.getElem?_map, List.getElem?_eq_getElem within, Option.map_some, eq_of_beq same]

/-- A name at which no reference leads to an arrangement is none of an arrangement. -/
theorem Outline.not_mem_of_target?_eq_none {outline : Outline} {word : String}
    (noPart : word ∉ outline.parts) (nameless : outline.target? word = none) :
    word ∉ outline.arrangements.map Prod.fst := by
  rw [target?, if_neg noPart] at nameless
  intro member
  obtain ⟨entry, inOutline, rfl⟩ := List.mem_map.mp member
  have other := List.findIdx?_eq_none_iff.mp nameless entry inOutline
  simp at other

theorem part_mem_placeArrangements {drafts : List Draft}
    {arrangements : List (Arrangement Playable)}
    (length : arrangements.length = (draftPending drafts).length) {part : Part}
    (member : part ∈ draftParts drafts) :
    .part part ∈ placeArrangements drafts arrangements := by
  rw [← parts_placeArrangements length] at member
  exact Stage.mem_parts.mp member

section Finished

variable {drafts : List Draft} {built : Built} {arrangements : List (Arrangement Playable)}
  (sound : Built.Sound (draftScope drafts) built)
  (all : List.Forall₂ (fun index arrangement => (index, arrangement) ∈ built)
    (List.range (draftScope drafts).pending.length) arrangements)
include sound all

/-- Whatever has a name in a document has it in the outline. -/
theorem name_mem_outline {playable : Playable}
    (member : playable ∈ placeArrangements drafts arrangements) :
    playable.name ∈ (draftScope drafts).outline.parts ∨
      playable.name ∈ (draftScope drafts).outline.arrangements.map Prod.fst := by
  rcases mem_placeArrangements member with ⟨part, inDrafts, rfl⟩ | ⟨inner, known, rfl⟩
  · exact .inl (List.mem_map_of_mem (mem_draftParts.mpr inDrafts))
  · refine .inr ?_
    rw [← names_of_all sound all]
    exact List.mem_map_of_mem known

theorem answers_of_resolved {index : Nat} {word : String} {reference : Reference}
    (means : Resolved (draftScope drafts) built index word reference) :
    reference.Answers (placeArrangements drafts arrangements) word := by
  have length : arrangements.length = (draftPending drafts).length := by
    simpa [draftScope] using all.length_eq.symm
  cases means with
  | @part part found =>
    have named := List.find?_some found
    exact .voice (part_mem_placeArrangements length (List.mem_of_find?_eq_some found))
      (eq_of_beq named)
  | unknown noPart nameless =>
    refine .unknown fun playable member same => ?_
    rcases name_mem_outline sound all member with inParts | inArrangements
    · exact noPart (same ▸ inParts)
    · exact Outline.not_mem_of_target?_eq_none noPart nameless (same ▸ inArrangements)
  | cyclic => exact .cyclic
  | @arrangement target inner refers known =>
    have found := (mem_built_iff sound all).mp known
    have named := Outline.name_of_target? refers
    rw [← names_of_all sound all, List.getElem?_map, found] at named
    have member := List.mem_of_getElem? found
    rw [← arrangements_placeArrangements length] at member
    exact .voice (Stage.mem_arrangements.mp member) (Option.some.inj named)

end Finished

end Document

/-! ### Words that name playables -/

/-- Whether an arrangement is made of some lines, and answers the words in them when a document has
some playables. -/
structure Arrangement.AnswersWords (arrangement : Arrangement Playable) (playables : List Playable)
    (lines : List (Line (List Document.Reference))) : Prop where
  stages : arrangement.stages = Line.stepContents Stage.ofVoices
    (fun voices => (Stage.ofVoices voices).rest) (lines.map Document.voicedLine)
  warnings : arrangement.warnings = lines.flatMap
    fun line => line.content.filterMap Document.Reference.warning?
  /-- Every word that looks like a name is answered by the reference in its place. -/
  answered : ∀ line ∈ lines, List.Forall₂ (Document.Reference.Answers playables)
    (Notation.nameWords line.text.toList) line.content
  /-- A word that names a playable has a voice or a warning exactly if it looks like a name. -/
  voiced_or_warned_iff : ∀ line ∈ lines, ∀ word ∈ Text.words line.text.toList,
    ∀ playable ∈ playables, playable.name = String.ofList word →
      (((∃ voice ∈ (Document.voicedLine line).content, voice.name = String.ofList word) ∨
          ∃ warning ∈ arrangement.warnings, warning.word? = some (String.ofList word)) ↔
        Notation.looksLikeName word = true)

/-- That an arrangement answers the words that look like names tells which words it answers. -/
theorem Arrangement.answersWords_of_answered {arrangement : Arrangement Playable}
    {playables : List Playable} {lines : List (Line (List Document.Reference))}
    (stages : arrangement.stages = Line.stepContents Stage.ofVoices
      (fun voices => (Stage.ofVoices voices).rest) (lines.map Document.voicedLine))
    (warnings : arrangement.warnings = lines.flatMap
      fun line => line.content.filterMap Document.Reference.warning?)
    (answered : ∀ line ∈ lines, List.Forall₂ (Document.Reference.Answers playables)
      (Notation.nameWords line.text.toList) line.content) :
    arrangement.AnswersWords playables lines := by
  refine ⟨stages, warnings, answered, fun line member word inLine playable known named => ⟨?_, ?_⟩⟩
  · rintro (⟨voice, voiced, same⟩ | ⟨warning, warned, told⟩)
    · have inNames := Document.mem_of_voiced (answered line member) voiced
      rw [same] at inNames
      exact (Notation.mem_nameWords_iff.mp inNames).2
    · -- the warning may stand for another line, but there too only name words are answered
      rw [warnings] at warned
      obtain ⟨other, inLines, warned⟩ := List.mem_flatMap.mp warned
      have inNames := Document.mem_of_warned (answered other inLines) warned told
      exact (Notation.mem_nameWords_iff.mp inNames).2
  · intro looks
    have inNames := Notation.mem_nameWords_iff.mpr ⟨inLine, looks⟩
    refine (Document.voiced_or_cut_of_answered (answered line member) inNames known named).imp_right
      fun cut => ⟨.cyclicReference (String.ofList word), ?_, rfl⟩
    rw [warnings]
    exact List.mem_flatMap.mpr ⟨line, member, cut⟩

namespace Sequence

/-- In whatever document is loaded, a word of an arrangement that names a playable is answered
exactly if it looks like a name. -/
theorem words_are_answered {document : String} {sequence : Sequence}
    (loaded : load document = .ok sequence) :
    ∃ blocks, Document.readBlocks document = .ok blocks ∧
      ∀ (index : Nat) (arrangement : Arrangement Playable),
        sequence.arrangements[index]? = some arrangement →
          ∃ lines : List (Line (List Document.Reference)),
            (Document.outline blocks).arrangements[index]? =
              some (arrangement.name, lines.map Line.text) ∧
            arrangement.AnswersWords sequence.playables lines := by
  obtain ⟨blocks, drafts, built, written, read, done, placed⟩ := exists_built_of_load loaded
  refine ⟨blocks, written, fun index arrangement found => ?_⟩
  obtain ⟨sound, _, all⟩ := Document.keepsSound_buildAll _ [] _ built .nil done
  obtain ⟨lines, texts, stages, warnings, resolved⟩ :=
    Document.exists_resolved_of_all sound all found
  rw [Document.outline_eq_of_readDrafts read] at texts
  refine ⟨lines, texts, Arrangement.answersWords_of_answered stages warnings
    fun line member => (resolved line member).imp fun word reference means => ?_⟩
  rw [placed]
  exact Document.answers_of_resolved sound all means

/-- A document with two parts, of which one has a name that does not look like a name, and with an
arrangement that plays both. -/
def accentSample : String :=
  "```beef .part name:été\nc5\n```\n```beef .part name:kick\nc2\n```\n" ++
    "```beef .arrangement name:song\nété kick\n```\n"

/-- The part of that name is not among the voices of the line, and nothing warns of it. -/
theorem words_are_answered_accent :
    ∃ sequence arrangement lines, load accentSample = .ok sequence ∧
      sequence.playables.map Playable.name = ["été", "kick", "song"] ∧
      sequence.arrangements = [arrangement] ∧
      lines.map Line.text = ["été kick"] ∧
      arrangement.AnswersWords sequence.playables lines ∧
      arrangement.stages.map (fun stage => stage.voices.map Playable.name) = [["kick"]] ∧
      arrangement.warnings = [] := by
  obtain ⟨sequence, loaded, known⟩ := exists_load_eq_ok accentSample
    (show ((load accentSample).toOption.any fun sequence =>
      decide (sequence.playables.map Playable.name = ["été", "kick", "song"] ∧
        sequence.arrangements.map Arrangement.warnings = [[]] ∧
        sequence.arrangements.map (fun arrangement =>
          arrangement.stages.map fun stage => stage.voices.map Playable.name) = [[["kick"]]])) =
        true by
      decide +kernel)
  obtain ⟨names, warnings, voices⟩ := of_decide_eq_true known
  obtain ⟨arrangement, single⟩ := List.length_eq_one_iff.mp
    (by simpa using congrArg List.length warnings)
  rw [single] at warnings voices
  obtain ⟨blocks, written, answers⟩ := words_are_answered loaded
  obtain ⟨lines, texts, answered⟩ := answers 0 arrangement (by rw [single]; rfl)
  have outlined : ((Document.readBlocks accentSample).toOption.map fun blocks =>
      (Document.outline blocks).arrangements) = some [("song", ["été kick"])] := by
    decide +kernel
  rw [written] at outlined
  have entries : (Document.outline blocks).arrangements = [("song", ["été kick"])] :=
    Option.some.inj outlined
  rw [entries] at texts
  refine ⟨sequence, arrangement, lines, loaded, names, single, ?_, answered, ?_, ?_⟩
  · exact (Prod.mk.inj (Option.some.inj texts)).2.symm
  · exact List.singleton_inj.mp voices
  · exact List.singleton_inj.mp warnings

end Sequence

end StepSequencer
