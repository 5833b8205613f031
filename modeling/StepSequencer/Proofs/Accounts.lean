/-
This file proves that a loaded sequence accounts for the whole of its document. Every block that
holds a part or an arrangement has become one playable, in the same order and under the name and the
group of its header, and nothing else is in the sequence. In the lines of an arrangement every word
that looks like a name is answered in its place, by one voice of its line or by one warning of its
arrangement. Other arrangements are built while a line is being resolved, but none of them adds to
the line or takes from it.
-/

import StepSequencer.Proofs.NamedWords

namespace StepSequencer

theorem forall₂_trans {First Second Third : Type} {Related : First → Second → Prop}
    {Further : Second → Third → Prop} {Through : First → Third → Prop} {firsts : List First}
    {seconds : List Second} {thirds : List Third} (related : List.Forall₂ Related firsts seconds)
    (further : List.Forall₂ Further seconds thirds)
    (through : ∀ first second third, Related first second → Further second third →
      Through first third) : List.Forall₂ Through firsts thirds := by
  induction related generalizing thirds with
  | nil =>
    cases further
    exact .nil
  | cons head _ inductionHypothesis =>
    cases further with
    | cons furtherHead rest =>
      exact .cons (through _ _ _ head furtherHead) (inductionHypothesis rest)

/-- Lists that correspond still do when the same places are kept in both. -/
theorem forall₂_filter_filterMap {First Second Kept : Type} {Related : First → Second → Prop}
    {keeps : First → Bool} {pick : Second → Option Kept} {inject : Kept → Second}
    (picked : ∀ second kept, pick second = some kept → inject kept = second)
    (agrees : ∀ first second, Related first second → keeps first = (pick second).isSome)
    {firsts : List First} {seconds : List Second} (related : List.Forall₂ Related firsts seconds) :
    List.Forall₂ Related (firsts.filter keeps) ((seconds.filterMap pick).map inject) := by
  induction related with
  | nil => exact .nil
  | @cons first second _ _ head rest inductionHypothesis =>
    have kept := agrees first second head
    cases found : pick second with
    | none =>
      rw [found] at kept
      rw [List.filter_cons_of_neg (by simp [kept]), List.filterMap_cons_none found]
      exact inductionHypothesis
    | some value =>
      rw [found] at kept
      rw [List.filter_cons_of_pos (by simp [kept]), List.filterMap_cons_some found, List.map_cons,
        picked second value found]
      exact .cons head inductionHypothesis

/-! ### Blocks and what becomes of them -/

/-- Whether a block holds a part, written or generated. -/
def Block.holdsPart (block : Block) : Bool :=
  block.directive ≠ .sequence && block.directive ≠ .arrangement

/-- Whether a block holds an arrangement. -/
def Block.holdsArrangement (block : Block) : Bool := block.directive = .arrangement

/-- Whether a playable is of the kind that a block holds, and has the name and the group that the
header of the block tells. -/
structure Block.Heads (block : Block) (playable : Playable) : Prop where
  part : block.holdsPart = playable.part?.isSome
  arrangement : block.holdsArrangement = playable.arrangement?.isSome
  header : ∃ metadata, Header.readMetadata block.header.toList = .ok metadata ∧
    playable.name = metadata.textOr "name" defaultName ∧
    playable.group = metadata.textOr "group" defaultName

namespace Document

/-- What a block says of the draft that is read from it. -/
theorem exists_metadata_of_readDraft {bpm : Float} {slot : Nat} {block : Block} {draft : Draft}
    (read : readDraft bpm slot block = .ok draft) :
    ∃ metadata, Header.readMetadata block.header.toList = .ok metadata ∧
      ((block.directive = .arrangement ∧ draft =
          .arrangement ⟨ArrangementHeader.ofMetadata metadata, block.steps, block.line, slot⟩) ∨
        (block.directive ≠ .arrangement ∧ ∃ part, draft = .part part ∧ part.slot = some slot ∧
          part.name = metadata.textOr "name" defaultName ∧
          part.group = metadata.textOr "group" defaultName)) := by
  obtain ⟨metadata, located, read⟩ := bind_eq_ok_iff.mp read
  refine ⟨metadata, mapError_eq_ok_iff.mp located, ?_⟩
  split at read
  next arranges =>
    exact .inl ⟨arranges, (Except.ok.inj read).symm⟩
  next other =>
    obtain ⟨header, headed, read⟩ := bind_eq_ok_iff.mp read
    obtain ⟨steps, _, read⟩ := bind_eq_ok_iff.mp read
    obtain ⟨part, found, read⟩ := bind_eq_ok_iff.mp read
    obtain ⟨number, _, headed⟩ := bind_eq_ok_iff.mp (mapError_eq_ok_iff.mp headed)
    obtain ⟨channel, _, headed⟩ := bind_eq_ok_iff.mp headed
    obtain ⟨lines, _, found⟩ := bind_eq_ok_iff.mp (mapError_eq_ok_iff.mp found)
    obtain ⟨span, _, found⟩ := bind_eq_ok_iff.mp found
    obtain rfl := Except.ok.inj headed
    obtain rfl := Except.ok.inj found
    exact .inr ⟨other, _, (Except.ok.inj read).symm, rfl, rfl, rfl⟩

/-- Whether a playable is what a draft becomes when pending arrangements become what fits them. -/
inductive Draft.Becomes (Fits : Pending → Arrangement Playable → Prop) : Draft → Playable → Prop
  | part (single : Part) : Becomes Fits (.part single) (.part single)
  | arrangement {pending : Pending} {arrangement : Arrangement Playable}
      (fits : Fits pending arrangement) :
      Becomes Fits (.arrangement pending) (.arrangement arrangement)

theorem forall₂_placeArrangements {Fits : Pending → Arrangement Playable → Prop}
    {drafts : List Draft} {arrangements : List (Arrangement Playable)}
    (fits : List.Forall₂ Fits (draftPending drafts) arrangements) :
    List.Forall₂ (Draft.Becomes Fits) drafts (placeArrangements drafts arrangements) := by
  induction drafts generalizing arrangements with
  | nil => exact .nil
  | cons draft rest inductionHypothesis =>
    cases draft with
    | part single => exact .cons (.part single) (inductionHypothesis fits)
    | arrangement pending =>
      cases fits with
      | cons head others => exact .cons (.arrangement head) (inductionHypothesis others)

end Document

/-! ### Lines and the answers to their words -/

/-- Whether a reference is the answer of a sequence to a word: the first part of that name, else the
first arrangement of that name, unless that one is cut, else a warning. -/
inductive Sequence.Answers (sequence : Sequence) (word : String) : Document.Reference → Prop
  | part {part : Part} (found : sequence.parts.find? (fun part => part.name == word) = some part) :
      Answers sequence word (.voice (.part part))
  | arrangement {inner : Arrangement Playable}
      (noPart : sequence.parts.find? (fun part => part.name == word) = none)
      (found : sequence.arrangements.find? (fun inner => inner.name == word) = some inner) :
      Answers sequence word (.voice (.arrangement inner))
  | cyclic {inner : Arrangement Playable}
      (noPart : sequence.parts.find? (fun part => part.name == word) = none)
      (found : sequence.arrangements.find? (fun inner => inner.name == word) = some inner) :
      Answers sequence word (.lost (.cyclicReference word))
  | unknown (noPart : sequence.parts.find? (fun part => part.name == word) = none)
      (noArrangement : sequence.arrangements.find? (fun inner => inner.name == word) = none) :
      Answers sequence word (.lost (.unknownReference word))

/-- Whether an arrangement of a sequence is made of some lines, with an answer to each of their
words. -/
structure Sequence.Spells (sequence : Sequence) (arrangement : Arrangement Playable)
    (lines : List (Line (List Document.Reference))) : Prop where
  repetitions : ∀ line ∈ lines, Notation.readRepeat line.text.toList = .ok line.repetition
  /-- Every word that looks like a name has one answer, and nothing else has any. -/
  answers : ∀ line ∈ lines,
    List.Forall₂ sequence.Answers (Notation.nameWords line.text.toList) line.content
  stages : arrangement.stages = Line.stepContents Stage.ofVoices
    (fun voices => (Stage.ofVoices voices).rest) (lines.map Document.voicedLine)
  /-- The copies of a line that sound have all its voices, in the order of the words. -/
  voices : arrangement.stages.map Stage.voices = lines.flatMap fun line =>
    line.repetition.contents (line.content.filterMap Document.Reference.voice?) []
  /-- The warnings of an arrangement come from its own lines, in the order of the words. -/
  warnings : arrangement.warnings = lines.flatMap
    fun line => line.content.filterMap Document.Reference.warning?

/-- Whether an arrangement of a sequence is what a pending one became. -/
structure Sequence.Builds (sequence : Sequence) (pending : Document.Pending)
    (arrangement : Arrangement Playable) : Prop where
  name : arrangement.name = pending.header.name
  group : arrangement.group = pending.header.group
  slot : arrangement.slot = some pending.slot
  spells : ∃ lines, lines.map Line.text = pending.steps ∧ sequence.Spells arrangement lines

/-- Whether a playable of a sequence is what became of a block. -/
structure Sequence.Holds (sequence : Sequence) (block : Block) (playable : Playable) : Prop where
  heads : block.Heads playable
  spells : ∀ arrangement, playable = .arrangement arrangement →
    ∃ lines, lines.map Line.text = block.steps ∧ sequence.Spells arrangement lines

namespace Document

section Finished

variable {scope : Scope} {built : Built} {arrangements : List (Arrangement Playable)}
  (sound : Built.Sound scope built)
  (all : List.Forall₂ (fun index arrangement => (index, arrangement) ∈ built)
    (List.range scope.pending.length) arrangements)
include sound all

/-- A name stands for the same place among the arrangements as in the outline. -/
theorem find?_name_of_all (word : String) :
    arrangements.find? (fun inner => inner.name == word) =
      (scope.outline.arrangements.findIdx? fun entry => entry.1 == word).bind
        fun target => arrangements[target]? := by
  have places : (arrangements.findIdx? fun inner => inner.name == word) =
      scope.outline.arrangements.findIdx? fun entry => entry.1 == word := by
    rw [← Function.comp_def (· == word) Arrangement.name, ← List.findIdx?_map,
      names_of_all sound all, List.findIdx?_map]
    rfl
  rw [List.find?_eq_bind_findIdx?_getElem?, places]

end Finished

section Loaded

variable {scope : Scope} {built : Built} {sequence : Sequence}
  (sound : Built.Sound scope built)
  (all : List.Forall₂ (fun index arrangement => (index, arrangement) ∈ built)
    (List.range scope.pending.length) sequence.arrangements)
  (parts : sequence.parts = scope.parts)
include sound all parts

/-- What a word comes to while arrangements are built is what it stands for in the sequence. -/
theorem sequence_answers_of_resolved {index : Nat} {word : String} {reference : Reference}
    (resolved : Resolved scope built index word reference) : sequence.Answers word reference := by
  have noPart (missing : word ∉ scope.outline.parts) :
      sequence.parts.find? (fun part => part.name == word) = none := by
    rw [parts, List.find?_eq_none]
    intro part member same
    exact missing (List.mem_map.mpr ⟨part, member, eq_of_beq same⟩)
  have target {target : Nat} (refers : scope.outline.target? word = some target) :
      word ∉ scope.outline.parts ∧
        (scope.outline.arrangements.findIdx? fun entry => entry.1 == word) = some target := by
    unfold Outline.target? at refers
    split at refers
    · cases refers
    · exact ⟨‹_›, refers⟩
  cases resolved with
  | part found => exact .part (parts ▸ found)
  | unknown missing nameless =>
    refine .unknown (noPart missing) ?_
    rw [Outline.target?, if_neg missing] at nameless
    rw [find?_name_of_all sound all, nameless]
    rfl
  | cyclic refers back =>
    obtain ⟨missing, found⟩ := target refers
    have within := (List.findIdx?_eq_some_iff_getElem.mp found).1
    have length : scope.outline.arrangements.length = sequence.arrangements.length := by
      simpa [Scope.outline] using all.length_eq
    obtain ⟨inner, there⟩ : ∃ inner, sequence.arrangements[_]? = some inner :=
      ⟨_, List.getElem?_eq_getElem (length ▸ within)⟩
    refine .cyclic (noPart missing) (Eq.trans ?_ there)
    rw [find?_name_of_all sound all, found]
    rfl
  | arrangement refers known =>
    obtain ⟨missing, found⟩ := target refers
    refine .arrangement (noPart missing) ?_
    rw [find?_name_of_all sound all, found]
    exact (mem_built_iff sound all).mp known

theorem builds_of_assemble {index : Nat} {pending : Pending}
    {lines : List (Line (List Reference))} {arrangement : Arrangement Playable}
    (resolved : List.Forall₂ (ResolvedLine scope built index) pending.steps lines)
    (assembled : assemble pending lines = .ok arrangement) :
    sequence.Builds pending arrangement := by
  have said (line : Line (List Reference)) (member : line ∈ lines) :
      ResolvedLine scope built index line.text line := by
    obtain ⟨text, _, line⟩ := exists_related_of_mem resolved.flip member
    exact line.said.symm ▸ line
  have texts : lines.map Line.text = pending.steps := by
    refine List.forall₂_eq_eq_eq ▸ List.forall₂_map_left_iff.mpr ?_
    exact resolved.flip.imp fun _ _ line => line.said
  have stages := Arrangement.stages_of_ofLines assembled
  obtain ⟨name, slot, warnings⟩ := fields_of_assemble assembled
  refine ⟨name, ?group, slot, lines, texts, ?repetitions, ?answers, stages, ?voices, warnings⟩
  case group =>
    obtain ⟨span, _, assembled⟩ := bind_eq_ok_iff.mp assembled
    exact (congrArg Arrangement.group (Except.ok.inj assembled)).symm
  case repetitions => exact fun line member => (said line member).repetition
  case answers =>
    exact fun line member => (said line member).references.imp fun word reference =>
      sequence_answers_of_resolved sound all parts
  case voices =>
    rw [stages, Line.map_voices_stepContents, List.flatMap_map]
    rfl

end Loaded

theorem filter_playableBlocks {keeps : Block → Bool} {blocks : List Block}
    (skips : ∀ block : Block, block.directive = .sequence → keeps block = false) :
    (playableBlocks blocks).filter keeps = blocks.filter keeps := by
  rw [playableBlocks, List.filter_filter]
  refine List.filter_congr fun block _ => ?_
  by_cases settings : block.directive = .sequence
  · simp [skips block settings]
  · simp [settings]

end Document

/-! ### Whole sequences -/

namespace Sequence

/-- Whether a sequence is what some blocks say, all of it and nothing else. -/
structure AccountsFor (sequence : Sequence) (blocks : List Block) : Prop where
  playables : List.Forall₂ sequence.Holds (Document.playableBlocks blocks) sequence.playables
  parts : List.Forall₂ sequence.Holds (blocks.filter Block.holdsPart)
    (sequence.parts.map .part)
  arrangements : List.Forall₂ sequence.Holds (blocks.filter Block.holdsArrangement)
    (sequence.arrangements.map .arrangement)
  /-- Every playable knows its own place. -/
  slots : sequence.playables.map Playable.slot = (List.range sequence.playables.length).map some
  /-- The parts were read first and the arrangements built behind them, each in their order. -/
  collected : ∃ drafts built, Document.readDrafts sequence.settings.bpm blocks = .ok drafts ∧
    sequence.parts = Document.draftParts drafts ∧
    Document.buildAll (Document.draftScope drafts)
      (List.range (Document.draftPending drafts).length) [] = .ok (sequence.arrangements, built)

theorem Holds.of_becomes {sequence : Sequence} {block : Block} {slot : Nat} {bpm : Float}
    {draft : Document.Draft} {playable : Playable} (holds : block.directive ≠ .sequence)
    (read : Document.readDraft bpm slot block = .ok draft)
    (becomes : draft.Becomes sequence.Builds playable) :
    sequence.Holds block playable ∧ playable.slot = some slot := by
  obtain ⟨metadata, header, ⟨arranges, rfl⟩ | ⟨sounds, part, rfl, place, name, group⟩⟩ :=
    Document.exists_metadata_of_readDraft read
  · cases becomes with
    | arrangement builds =>
      have heads : block.Heads (.arrangement _) :=
        ⟨by simp [Block.holdsPart, arranges, Playable.part?],
          by simp [Block.holdsArrangement, arranges, Playable.arrangement?],
          metadata, header, builds.name, builds.group⟩
      refine ⟨⟨heads, ?_⟩, builds.slot⟩
      rintro _ ⟨⟩
      exact builds.spells
  · cases becomes with
    | part =>
      have heads : block.Heads (.part part) :=
        ⟨by simp [Block.holdsPart, holds, sounds, Playable.part?],
          by simp [Block.holdsArrangement, sounds, Playable.arrangement?],
          metadata, header, name, group⟩
      refine ⟨⟨heads, fun arrangement same => ?_⟩, place⟩
      cases same

/-- Whoever reads drafts reads one from each block that does not hold settings. -/
theorem forall₂_of_readDrafts {bpm : Float} {blocks : List Block} {drafts : List Document.Draft}
    (read : Document.readDrafts bpm blocks = .ok drafts) :
    List.Forall₂ (fun entry draft =>
      entry.1.directive ≠ .sequence ∧ Document.readDraft bpm entry.2 entry.1 = .ok draft)
      (Document.playableBlocks blocks).zipIdx drafts := by
  refine (List.forall₂_and_left _ _).mpr ⟨fun entry member => ?_, forall₂_of_mapM read⟩
  exact Document.directive_ne_of_mem (List.fst_mem_of_mem_zipIdx member)

/-- Whatever document is loaded, the blocks of it that hold playables have become the playables of
the sequence, and each stands at the place of its block. -/
theorem forall₂_holds_of_built {blocks : List Block} {drafts : List Document.Draft}
    {built : Document.Built} {sequence : Sequence}
    (read : Document.readDrafts sequence.settings.bpm blocks = .ok drafts)
    (done : Document.buildAll (Document.draftScope drafts)
      (List.range (Document.draftScope drafts).pending.length) [] =
        .ok (sequence.arrangements, built))
    (placed : sequence.playables = Document.placeArrangements drafts sequence.arrangements) :
    sequence.parts = Document.draftParts drafts ∧ List.Forall₂
      (fun entry playable => sequence.Holds entry.1 playable ∧ playable.slot = some entry.2)
      (Document.playableBlocks blocks).zipIdx sequence.playables := by
  obtain ⟨sound, _, all⟩ := Document.keepsSound_buildAll _ [] _ built .nil done
  have length : sequence.arrangements.length = (Document.draftPending drafts).length := by
    simpa [Document.draftScope] using all.length_eq.symm
  have parts : sequence.parts = Document.draftParts drafts := by
    rw [Sequence.parts, placed, Document.parts_placeArrangements length]
  have builds : List.Forall₂ sequence.Builds (Document.draftPending drafts)
      sequence.arrangements := by
    refine (Document.forall₂_pending_of_all sound all).imp fun pending arrangement made => ?_
    obtain ⟨index, lines, resolved, assembled⟩ := made
    exact Document.builds_of_assemble sound all parts resolved assembled
  refine ⟨parts, ?_⟩
  rw [placed]
  exact forall₂_trans (forall₂_of_readDrafts read) (Document.forall₂_placeArrangements builds)
    fun entry draft playable found becomes => Holds.of_becomes found.1 found.2 becomes

/-- Whatever document is loaded, the sequence accounts for all of it. -/
theorem load_accounts_for_document {document : String} {sequence : Sequence}
    (loaded : load document = .ok sequence) :
    ∃ blocks, Document.readBlocks document = .ok blocks ∧ sequence.AccountsFor blocks := by
  obtain ⟨blocks, drafts, built, written, read, done, placed⟩ := exists_built_of_load loaded
  obtain ⟨parts, held⟩ := forall₂_holds_of_built read done placed
  have playables : List.Forall₂ sequence.Holds (Document.playableBlocks blocks)
      sequence.playables := by
    have blocksHeld := List.forall₂_map_left_iff.mpr (held.imp fun _ _ => And.left)
    rwa [List.zipIdx_map_fst] at blocksHeld
  refine ⟨blocks, written, playables, ?parts, ?arrangements, ?slots, drafts, built, read, parts,
    done⟩
  case parts =>
    rw [← Document.filter_playableBlocks fun block settings => by simp [Block.holdsPart, settings]]
    refine forall₂_filter_filterMap (fun playable part same => ?_)
      (fun _ _ holds => holds.heads.part) playables
    cases playable <;> cases same
    rfl
  case arrangements =>
    rw [← Document.filter_playableBlocks fun block settings => by
      simp [Block.holdsArrangement, settings]]
    refine forall₂_filter_filterMap (fun playable arrangement same => ?_)
      (fun _ _ holds => holds.heads.arrangement) playables
    cases playable <;> cases same
    rfl
  case slots =>
    have places : ((Document.playableBlocks blocks).zipIdx.map Prod.snd).map some =
        sequence.playables.map Playable.slot := by
      rw [List.map_map]
      refine List.forall₂_eq_eq_eq ▸ List.forall₂_map_left_iff.mpr ?_
      exact List.forall₂_map_right_iff.mpr (held.imp fun entry playable held => held.2.symm)
    rw [← places, ← playables.length_eq, List.zipIdx_map_snd, List.range_eq_range']

/-- A document whose song is built from a verse that stands behind it and refers back to it. It has
settings, a generated part, a line with a silent copy and a word that names nothing. -/
def foldedSample : String :=
  "```beef .arrangement name:song group:set\nverse kick *2%2\nnobody verse\n```\n" ++
    "```beef .sequence bpm:90\n```\n```beef .part name:kick ch:2\nc2:1\n```\n" ++
    "```beef .arrangement name:verse\nhat song kick\n```\n" ++
    "```beef .func.arpeggiate name:hat notes:\"c5 e5\" length:4\n```\n"

theorem load_accounts_for_document_folded :
    ∃ sequence blocks, load foldedSample = .ok sequence ∧
      Document.readBlocks foldedSample = .ok blocks ∧ sequence.AccountsFor blocks ∧
      sequence.playables.map Playable.name = ["song", "kick", "verse", "hat"] ∧
      sequence.parts.map Part.name = ["kick", "hat"] ∧
      (sequence.arrangements.map fun arrangement =>
        arrangement.stages.map fun stage => stage.voices.map Playable.name) =
          [[[], ["verse", "kick"], ["verse"]], [["hat", "kick"]]] ∧
      sequence.arrangements.map Arrangement.warnings =
        [[.unknownReference "nobody"], [.cyclicReference "song"]] := by
  obtain ⟨sequence, loaded, known⟩ := exists_load_eq_ok foldedSample
    (show ((load foldedSample).toOption.any fun sequence =>
      decide (sequence.playables.map Playable.name = ["song", "kick", "verse", "hat"] ∧
        sequence.parts.map Part.name = ["kick", "hat"] ∧
        (sequence.arrangements.map fun arrangement =>
          arrangement.stages.map fun stage => stage.voices.map Playable.name) =
            [[[], ["verse", "kick"], ["verse"]], [["hat", "kick"]]] ∧
        sequence.arrangements.map Arrangement.warnings =
          [[.unknownReference "nobody"], [.cyclicReference "song"]])) = true by
      decide +kernel)
  obtain ⟨blocks, written, accounts⟩ := load_accounts_for_document loaded
  exact ⟨sequence, blocks, loaded, written, accounts, of_decide_eq_true known⟩

end Sequence

end StepSequencer
