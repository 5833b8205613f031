/-
This file says what can be known of every playable of a loaded document. Parts come from lines of
notes, and arrangements from lines whose voices are playables of the same document, so whatever
holds for parts that are read, and for arrangements as soon as it holds for their voices, holds for
all playables. That is an induction over the order in which references are resolved: an arrangement
is built behind those that it refers to, and kept for whoever refers to it later.
-/

import StepSequencer.Proofs.Copies
import StepSequencer.Proofs.Stages
import StepSequencer.Score.Sequence
import Mathlib.Data.List.Forall2

namespace StepSequencer

/-- A computation in two steps succeeds when both steps do. -/
theorem bind_eq_ok_iff {Fault First Second : Type} {first : Except Fault First}
    {second : First → Except Fault Second} {result : Second} :
    (first >>= second) = .ok result ↔ ∃ value, first = .ok value ∧ second value = .ok result := by
  cases first with
  | error fault =>
    constructor
    · intro broken
      cases broken
    · rintro ⟨_, broken, _⟩
      cases broken
  | ok value =>
    constructor
    · intro rest
      exact ⟨value, rfl, rest⟩
    · rintro ⟨_, ⟨rfl⟩, rest⟩
      exact rest

/-- What fails under another name of its fault still fails. -/
theorem mapError_eq_ok_iff {Fault Other Value : Type} {rename : Fault → Other}
    {result : Except Fault Value} {value : Value} :
    result.mapError rename = .ok value ↔ result = .ok value := by
  cases result with
  | error fault => exact iff_of_false (fun broken => nomatch broken) fun broken => nomatch broken
  | ok other =>
    constructor
    · rintro ⟨rfl⟩
      rfl
    · rintro ⟨rfl⟩
      rfl

theorem toOption_eq_some_iff {Fault Value : Type} {result : Except Fault Value} {value : Value} :
    result.toOption = some value ↔ result = .ok value := by
  cases result with
  | error fault => exact iff_of_false nofun nofun
  | ok other => exact ⟨fun same => congrArg _ (Option.some.inj same), fun same => same ▸ rfl⟩

/-- What a member of a list is related to, when two lists are related member by member. -/
theorem exists_related_of_mem {First Second : Type} {Related : First → Second → Prop}
    {firsts : List First} {seconds : List Second} (related : List.Forall₂ Related firsts seconds)
    {first : First} (member : first ∈ firsts) : ∃ second ∈ seconds, Related first second := by
  induction related with
  | nil => cases member
  | cons head rest inductionHypothesis =>
    rcases List.mem_cons.mp member with rfl | inRest
    · exact ⟨_, List.mem_cons_self, head⟩
    · obtain ⟨second, found, same⟩ := inductionHypothesis inRest
      exact ⟨second, List.mem_cons_of_mem _ found, same⟩

/-- A list is read member by member. -/
theorem forall₂_of_mapM {Fault Text Value : Type} {read : Text → Except Fault Value}
    {texts : List Text} {values : List Value} (done : texts.mapM read = .ok values) :
    List.Forall₂ (fun text value => read text = .ok value) texts values := by
  induction texts generalizing values with
  | nil =>
    obtain rfl : [] = values := Except.ok.inj done
    exact .nil
  | cons text rest inductionHypothesis =>
    rw [List.mapM_cons, bind_eq_ok_iff] at done
    obtain ⟨value, first, done⟩ := done
    obtain ⟨others, behind, done⟩ := bind_eq_ok_iff.mp done
    obtain rfl : value :: others = values := Except.ok.inj done
    exact .cons first (inductionHypothesis behind)

/-- What is read for a list is read for its members. -/
theorem exists_of_mem_mapM {Fault Text Value : Type} {read : Text → Except Fault Value}
    {texts : List Text} {values : List Value} (done : texts.mapM read = .ok values) {value : Value}
    (member : value ∈ values) : ∃ text ∈ texts, read text = .ok value :=
  exists_related_of_mem (forall₂_of_mapM done).flip member

/-- What is written for the members of a list is read if it is read for each of them. -/
theorem mapM_map_eq_ok {Fault Member Text Value : Type} {written : Member → Text}
    {read : Text → Except Fault Value} {value : Member → Value} {members : List Member}
    (each : ∀ member ∈ members, read (written member) = .ok (value member)) :
    (members.map written).mapM read = .ok (members.map value) := by
  induction members with
  | nil => rfl
  | cons first rest inductionHypothesis =>
    obtain ⟨here, behind⟩ := List.forall_mem_cons.mp each
    rw [List.map_cons, List.mapM_cons, here, inductionHypothesis behind]
    rfl

namespace Document

section Induction

/-! ### Resolving references -/

variable {good : Playable → Prop} (scope : Scope)
  (parts : ∀ part ∈ scope.parts, good (.part part))
  (assembled : ∀ (name group : String) (warnings : List Warning) (slot : Option Nat)
    (lines : List (Line (List Playable))) (arrangement : Arrangement Playable),
    (∀ line ∈ lines, ∀ voice ∈ line.content, good voice) →
    (Arrangement.ofLines name group warnings slot lines : Except LoadFailure _) =
        .ok arrangement →
      good (.arrangement arrangement))

/-- Whether all arrangements that are built so far are good. -/
def Built.AllGood (good : Playable → Prop) (built : Built) : Prop :=
  ∀ entry ∈ built, good (.arrangement entry.2)

/-- Whether a step of building keeps what is built good, and gives something good itself. -/
def Keeps {Value : Type} (good : Playable → Prop) (step : Building Value)
    (result : Value → Prop) : Prop :=
  ∀ built value after, Built.AllGood good built → step built = .ok (value, after) →
    Built.AllGood good after ∧ result value

theorem keeps_resolve {path : List Nat} {build : Nat → Building (Arrangement Playable)}
    (building : ∀ index,
      Keeps good (build index) fun arrangement => good (.arrangement arrangement))
    (parts : ∀ part ∈ scope.parts, good (.part part)) (name : String) :
    Keeps good (resolve scope path build name)
      fun reference => ∀ voice, reference.voice? = some voice → good voice := by
  intro built reference after kept done
  rw [resolve] at done
  split at done
  next part found =>
    obtain ⟨rfl, rfl⟩ := Prod.mk.inj (Except.ok.inj done)
    refine ⟨kept, fun voice same => ?_⟩
    obtain rfl : Playable.part part = voice := Option.some.inj same
    exact parts part (List.mem_of_find?_eq_some found)
  next =>
    split at done
    next =>
      obtain ⟨rfl, rfl⟩ := Prod.mk.inj (Except.ok.inj done)
      exact ⟨kept, fun voice same => nomatch same⟩
    next index _ =>
      split at done
      · obtain ⟨rfl, rfl⟩ := Prod.mk.inj (Except.ok.inj done)
        exact ⟨kept, fun voice same => nomatch same⟩
      · obtain ⟨⟨arrangement, behind⟩, first, done⟩ := bind_eq_ok_iff.mp done
        obtain ⟨rfl, rfl⟩ := Prod.mk.inj (Except.ok.inj done)
        obtain ⟨keptBehind, isGood⟩ := building index built arrangement behind kept first
        refine ⟨keptBehind, fun voice same => ?_⟩
        obtain rfl : Playable.arrangement arrangement = voice := Option.some.inj same
        exact isGood

theorem keeps_resolveNames {resolveName : String → Building Reference}
    (resolving : ∀ name, Keeps good (resolveName name)
      fun reference => ∀ voice, reference.voice? = some voice → good voice)
    (names : List String) :
    Keeps good (resolveNames resolveName names)
      fun references => ∀ reference ∈ references,
        ∀ voice, reference.voice? = some voice → good voice := by
  induction names with
  | nil =>
    intro built references after kept done
    obtain ⟨rfl, rfl⟩ := Prod.mk.inj (Except.ok.inj done)
    exact ⟨kept, fun reference member => nomatch member⟩
  | cons name rest inductionHypothesis =>
    intro built references after kept done
    obtain ⟨⟨reference, between⟩, first, done⟩ := bind_eq_ok_iff.mp done
    obtain ⟨⟨others, behind⟩, second, done⟩ := bind_eq_ok_iff.mp done
    obtain ⟨rfl, rfl⟩ := Prod.mk.inj (Except.ok.inj done)
    obtain ⟨keptBetween, headGood⟩ := resolving name built reference between kept first
    obtain ⟨keptBehind, restGood⟩ :=
      inductionHypothesis between others behind keptBetween second
    exact ⟨keptBehind, List.forall_mem_cons.mpr ⟨headGood, restGood⟩⟩

theorem keeps_resolveLines {resolveName : String → Building Reference}
    (resolving : ∀ name, Keeps good (resolveName name)
      fun reference => ∀ voice, reference.voice? = some voice → good voice)
    (line : Nat) (texts : List String) :
    Keeps good (resolveLines line resolveName texts)
      fun lines => ∀ line ∈ lines.map voicedLine, ∀ voice ∈ line.content, good voice := by
  induction texts with
  | nil =>
    intro built lines after kept done
    obtain ⟨rfl, rfl⟩ := Prod.mk.inj (Except.ok.inj done)
    exact ⟨kept, fun line member => nomatch member⟩
  | cons text rest inductionHypothesis =>
    intro built lines after kept done
    obtain ⟨repetition, _, done⟩ := bind_eq_ok_iff.mp done
    obtain ⟨⟨references, between⟩, first, done⟩ := bind_eq_ok_iff.mp done
    obtain ⟨⟨others, behind⟩, second, done⟩ := bind_eq_ok_iff.mp done
    obtain ⟨rfl, rfl⟩ := Prod.mk.inj (Except.ok.inj done)
    obtain ⟨keptBetween, headGood⟩ :=
      keeps_resolveNames resolving _ built references between kept first
    obtain ⟨keptBehind, restGood⟩ :=
      inductionHypothesis between others behind keptBetween second
    refine ⟨keptBehind, List.forall_mem_cons.mpr ⟨fun voice member => ?_, restGood⟩⟩
    obtain ⟨reference, inLine, found⟩ := List.mem_filterMap.mp member
    exact headGood reference inLine voice found

include parts assembled in
theorem keeps_build (depth : Nat) (path : List Nat) (index : Nat) :
    Keeps good (build scope depth path index)
      fun arrangement => good (.arrangement arrangement) := by
  induction depth generalizing path index with
  | zero =>
    intro built arrangement after kept done
    exact nomatch done
  | succ depth inductionHypothesis =>
    intro built arrangement after kept done
    rw [build] at done
    split at done
    next found known =>
      obtain ⟨rfl, rfl⟩ := Prod.mk.inj (Except.ok.inj done)
      obtain ⟨entry, first, rfl⟩ := Option.map_eq_some_iff.mp known
      exact ⟨kept, kept entry (List.mem_of_find?_eq_some first)⟩
    next =>
      split at done
      next => exact nomatch done
      next pending _ =>
        obtain ⟨⟨lines, between⟩, first, done⟩ := bind_eq_ok_iff.mp done
        obtain ⟨other, second, done⟩ := bind_eq_ok_iff.mp done
        obtain ⟨rfl, rfl⟩ := Prod.mk.inj (Except.ok.inj done)
        obtain ⟨keptBetween, voices⟩ := keeps_resolveLines
          (keeps_resolve scope (fun index => inductionHypothesis _ index) parts) _ _
          built lines between kept first
        have isGood := assembled _ _ _ _ _ _ voices second
        exact ⟨List.forall_mem_cons.mpr ⟨isGood, keptBetween⟩, isGood⟩

include parts assembled in
theorem keeps_buildAll (indices : List Nat) :
    Keeps good (buildAll scope indices)
      fun arrangements => ∀ arrangement ∈ arrangements, good (.arrangement arrangement) := by
  induction indices with
  | nil =>
    intro built arrangements after kept done
    obtain ⟨rfl, rfl⟩ := Prod.mk.inj (Except.ok.inj done)
    exact ⟨kept, fun arrangement member => nomatch member⟩
  | cons index rest inductionHypothesis =>
    intro built arrangements after kept done
    obtain ⟨⟨arrangement, between⟩, first, done⟩ := bind_eq_ok_iff.mp done
    obtain ⟨⟨others, behind⟩, second, done⟩ := bind_eq_ok_iff.mp done
    obtain ⟨rfl, rfl⟩ := Prod.mk.inj (Except.ok.inj done)
    obtain ⟨keptBetween, headGood⟩ :=
      keeps_build scope parts assembled _ _ _ built arrangement between kept first
    obtain ⟨keptBehind, restGood⟩ :=
      inductionHypothesis between others behind keptBetween second
    exact ⟨keptBehind, List.forall_mem_cons.mpr ⟨headGood, restGood⟩⟩

end Induction

/-! ### Whole documents -/

theorem mem_placeArrangements {drafts : List Draft} {arrangements : List (Arrangement Playable)}
    {playable : Playable} (member : playable ∈ placeArrangements drafts arrangements) :
    (∃ part, .part part ∈ drafts ∧ playable = .part part) ∨
      ∃ arrangement ∈ arrangements, playable = .arrangement arrangement := by
  induction drafts generalizing arrangements with
  | nil => cases member
  | cons draft rest inductionHypothesis =>
    cases draft with
    | part part =>
      rcases List.mem_cons.mp member with rfl | inRest
      · exact .inl ⟨part, List.mem_cons_self, rfl⟩
      · refine (inductionHypothesis inRest).imp_left fun ⟨other, found, same⟩ => ?_
        exact ⟨other, List.mem_cons_of_mem _ found, same⟩
    | arrangement pending =>
      cases arrangements with
      | nil => cases member
      | cons arrangement others =>
        rcases List.mem_cons.mp member with rfl | inRest
        · exact .inr ⟨arrangement, List.mem_cons_self, rfl⟩
        · rcases inductionHypothesis inRest with ⟨part, found, same⟩ | ⟨other, found, same⟩
          · exact .inl ⟨part, List.mem_cons_of_mem _ found, same⟩
          · exact .inr ⟨other, List.mem_cons_of_mem _ found, same⟩

theorem mem_draftParts {drafts : List Draft} {part : Part} :
    part ∈ draftParts drafts ↔ .part part ∈ drafts := by
  rw [draftParts, List.mem_filterMap]
  constructor
  · rintro ⟨draft, member, found⟩
    cases draft with
    | part other =>
      obtain rfl : other = part := Option.some.inj found
      exact member
    | arrangement pending => exact nomatch found
  · intro member
    exact ⟨.part part, member, rfl⟩

/-- A block that gives a part has its header, and lines for it. -/
theorem exists_header_of_readDraft {bpm : Float} {slot : Nat} {block : Block} {part : Part}
    (found : readDraft bpm slot block = .ok (.part part)) :
    ∃ metadata header texts, Header.readMetadata block.header.toList = .ok metadata ∧
      PartHeader.ofMetadata metadata = .ok header ∧
        Part.read header bpm (some slot) texts = .ok part := by
  obtain ⟨metadata, written, found⟩ := bind_eq_ok_iff.mp found
  split at found
  · exact nomatch found
  · obtain ⟨header, headed, found⟩ := bind_eq_ok_iff.mp found
    obtain ⟨texts, _, found⟩ := bind_eq_ok_iff.mp found
    obtain ⟨other, located, found⟩ := bind_eq_ok_iff.mp found
    obtain rfl : other = part := Draft.part.inj (Except.ok.inj found)
    exact ⟨metadata, header, texts, mapError_eq_ok_iff.mp written, mapError_eq_ok_iff.mp headed,
      mapError_eq_ok_iff.mp located⟩

/-- A part of a document was read from a header and from lines. -/
theorem read_of_mem_readDrafts {bpm : Float} {blocks : List Block} {drafts : List Draft}
    (done : readDrafts bpm blocks = .ok drafts) {part : Part} (member : .part part ∈ drafts) :
    ∃ metadata header slot texts, PartHeader.ofMetadata metadata = .ok header ∧
      Part.read header bpm slot texts = .ok part := by
  obtain ⟨entry, _, found⟩ := exists_of_mem_mapM done member
  obtain ⟨metadata, header, texts, _, headed, read⟩ := exists_header_of_readDraft found
  exact ⟨metadata, header, some entry.2, texts, headed, read⟩

end Document

/-- What holds for every part that is read from lines, and for every arrangement as soon as it holds
for the voices of its lines, holds for every playable of a loaded document. -/
theorem Sequence.load_induction (good : Playable → Prop)
    (parts : ∀ (metadata : Metadata) (header : PartHeader) (bpm : Float) (slot : Option Nat)
      (texts : List String) (part : Part), PartHeader.ofMetadata metadata = .ok header →
      Part.read header bpm slot texts = .ok part → good (.part part))
    (assembled : ∀ (name group : String) (warnings : List Warning) (slot : Option Nat)
      (lines : List (Line (List Playable))) (arrangement : Arrangement Playable),
      (∀ line ∈ lines, ∀ voice ∈ line.content, good voice) →
      (Arrangement.ofLines name group warnings slot lines : Except LoadFailure _) =
          .ok arrangement →
        good (.arrangement arrangement))
    {document : String} {sequence : Sequence} (loaded : Sequence.load document = .ok sequence) :
    ∀ playable ∈ sequence.playables, good playable := by
  obtain ⟨blocks, _, loaded⟩ := bind_eq_ok_iff.mp loaded
  obtain ⟨settings, _, loaded⟩ := bind_eq_ok_iff.mp loaded
  obtain ⟨drafts, read, loaded⟩ := bind_eq_ok_iff.mp loaded
  obtain ⟨playables, resolved, loaded⟩ := bind_eq_ok_iff.mp loaded
  obtain rfl : Sequence.mk settings playables = sequence := Except.ok.inj loaded
  obtain ⟨⟨arrangements, built⟩, all, resolved⟩ := bind_eq_ok_iff.mp resolved
  obtain rfl : Document.placeArrangements drafts arrangements = playables :=
    Except.ok.inj resolved
  have partsGood : ∀ part, .part part ∈ drafts → good (.part part) := fun part member =>
    have ⟨metadata, header, slot, texts, headed, found⟩ :=
      Document.read_of_mem_readDrafts read member
    parts metadata header _ slot texts part headed found
  obtain ⟨_, arrangementsGood⟩ := Document.keeps_buildAll _
    (fun part member => partsGood part (Document.mem_draftParts.mp member)) assembled _
    [] arrangements built (fun entry member => nomatch member) all
  intro playable member
  rcases Document.mem_placeArrangements member with ⟨part, found, rfl⟩ | ⟨inner, found, rfl⟩
  · exact partsGood part found
  · exact arrangementsGood inner found

/-! ### What a document gives to play -/

/-- Whether a part was read from lines of notes. -/
def Part.Authored (part : Part) : Prop :=
  ∃ header bpm slot texts, Part.read header bpm slot texts = .ok part

/-- What a part that is read from lines holds. -/
theorem Part.fields_of_ofLines {header : PartHeader} {bpm : Float} {slot : Option Nat}
    {lines : List (Line (List Struck))} {part : Part}
    (read : Part.ofLines header bpm slot lines = .ok part) :
    part.division = header.division ∧ part.channel = header.channel ∧
      part.cues = (Line.stepContents id (fun _ => []) lines).map
        (fun struck => ⟨[], attacksOf (header.channel - 1) struck⟩) ∧
      part.releases = (Line.stepContents id (fun _ => []) lines).zipIdx.flatMap fun entry =>
        releasesOf (header.channel - 1) header.division.pulses
          ((Line.stepContents id (fun _ => []) lines).length * header.division.pulses)
          entry.2 entry.1 := by
  obtain ⟨span, _, read⟩ := bind_eq_ok_iff.mp read
  obtain rfl := Except.ok.inj read
  exact ⟨rfl, rfl, rfl, rfl⟩

/-- What a part that is read from lines releases: the notes of its steps, at their pulses. -/
theorem Part.mem_releases_iff {header : PartHeader} {bpm : Float} {slot : Option Nat}
    {lines : List (Line (List Struck))} {part : Part}
    (read : Part.ofLines header bpm slot lines = .ok part) {entry : Nat × Message} :
    entry ∈ part.releases ↔ ∃ (step : Nat) (struck : List Struck),
      (Line.stepContents id (fun _ => []) lines)[step]? = some struck ∧
        ∃ sound ∈ struck, ∃ pitch ∈ sound.pitches,
          releasePulse? part.division.pulses part.pulses step sound.hold = some entry.1 ∧
            entry.2 = .noteOff (header.channel - 1) pitch := by
  obtain ⟨division, _, cues, releases⟩ := fields_of_ofLines read
  rw [pulses, Part.length, cues, List.length_map, division, releases]
  constructor
  · intro member
    obtain ⟨⟨struck, step⟩, found, inStep⟩ := List.mem_flatMap.mp member
    obtain ⟨sound, sounding, inSound⟩ := List.mem_flatMap.mp inStep
    split at inSound
    next pulse scheduled =>
      obtain ⟨pitch, pitched, rfl⟩ := List.mem_map.mp inSound
      exact ⟨step, struck, List.mk_mem_zipIdx_iff_getElem?.mp found, sound, sounding, pitch,
        pitched, scheduled, rfl⟩
    next => cases inSound
  · rintro ⟨step, struck, found, sound, sounding, pitch, pitched, scheduled, released⟩
    refine List.mem_flatMap.mpr ⟨(struck, step), List.mk_mem_zipIdx_iff_getElem?.mpr found, ?_⟩
    refine List.mem_flatMap.mpr ⟨sound, sounding, ?_⟩
    rw [scheduled]
    exact List.mem_map.mpr ⟨pitch, pitched, Prod.ext rfl released.symm⟩

/-- Every step of some lines holds what a line gives, sounding or resting. -/
theorem Line.mem_stepContents {Content Step : Type} {sounding resting : Content → Step}
    {lines : List (Line Content)} {step : Step}
    (member : step ∈ Line.stepContents sounding resting lines) :
    ∃ line ∈ lines, step = sounding line.content ∨ step = resting line.content := by
  obtain ⟨line, inLines, copied⟩ := List.mem_flatMap.mp member
  obtain ⟨index, _, same⟩ := List.mem_map.mp copied
  refine ⟨line, inLines, ?_⟩
  split at same
  · exact .inl same.symm
  · exact .inr same.symm

/-- The notes of a part that is read from lines are the pitches of its lines. -/
theorem Part.messages_of_ofLines {header : PartHeader} {bpm : Float} {slot : Option Nat}
    {lines : List (Line (List Struck))} {part : Part}
    (read : Part.ofLines header bpm slot lines = .ok part) :
    (∀ cue ∈ part.cues, ∀ message ∈ cue.messages, ∃ line ∈ lines, ∃ sound ∈ line.content,
      ∃ pitch ∈ sound.pitches, message = .noteOn (header.channel - 1) pitch velocity) ∧
    ∀ entry ∈ part.releases, ∃ line ∈ lines, ∃ sound ∈ line.content,
      ∃ pitch ∈ sound.pitches, entry.2 = .noteOff (header.channel - 1) pitch := by
  have written {struck : List Struck}
      (step : struck ∈ Line.stepContents id (fun _ => []) lines) {sound : Struck}
      (member : sound ∈ struck) : ∃ line ∈ lines, sound ∈ line.content := by
    obtain ⟨line, inLines, rfl | rfl⟩ := Line.mem_stepContents step
    · exact ⟨line, inLines, member⟩
    · cases member
  constructor
  · obtain ⟨_, _, cues, _⟩ := Part.fields_of_ofLines read
    rw [cues]
    refine List.forall_mem_map.mpr fun struck step message member => ?_
    obtain ⟨sound, inStep, attacked⟩ := List.mem_flatMap.mp member
    obtain ⟨pitch, sounds, rfl⟩ := List.mem_map.mp attacked
    obtain ⟨line, inLines, inLine⟩ := written step inStep
    exact ⟨line, inLines, sound, inLine, pitch, sounds, rfl⟩
  · intro entry member
    obtain ⟨step, struck, found, sound, inStep, pitch, sounds, _, released⟩ :=
      (Part.mem_releases_iff read).mp member
    obtain ⟨line, inLines, inLine⟩ := written (List.mem_of_getElem? found) inStep
    exact ⟨line, inLines, sound, inLine, pitch, sounds, released⟩

theorem Part.Authored.exists_lines {part : Part} (authored : part.Authored) :
    ∃ header bpm slot lines, Part.ofLines header bpm slot lines = .ok part := by
  obtain ⟨header, bpm, slot, texts, read⟩ := authored
  obtain ⟨lines, _, read⟩ := bind_eq_ok_iff.mp read
  exact ⟨header, bpm, slot, lines, read⟩

/-- The steps of a part that was read release nothing by themselves. -/
theorem Part.Authored.releases_eq_nil {part : Part} (authored : part.Authored) :
    ∀ cue ∈ part.cues, cue.releases = [] := by
  obtain ⟨header, bpm, slot, lines, read⟩ := authored.exists_lines
  obtain ⟨_, _, cues, _⟩ := Part.fields_of_ofLines read
  rw [cues]
  exact List.forall_mem_map.mpr fun struck _ => rfl

/-- Whether all voices of an arrangement are parts that were read from lines, or arrangements of
such parts at any depth. -/
def Arrangement.Authored (arrangement : Arrangement Playable) : Prop :=
  ∀ stage, arrangement.HasStage stage → ∀ part ∈ Stage.parts stage.voices, part.Authored

/-- Whether an arrangement is what plays when some playable of a document is selected. -/
def Arrangement.Loaded (arrangement : Arrangement Playable) : Prop :=
  ∃ document sequence, Sequence.load document = .ok sequence ∧
    ∃ playable ∈ sequence.playables, playable.arranged = arrangement

/-- To know something of a loaded document it is enough to load it and to look. -/
theorem Sequence.exists_load_eq_ok (document : String) {test : Sequence → Bool}
    (found : ((Sequence.load document).toOption.any test) = true) :
    ∃ sequence, Sequence.load document = .ok sequence ∧ test sequence = true := by
  cases loaded : Sequence.load document with
  | error failure =>
    rw [loaded] at found
    exact nomatch found
  | ok sequence =>
    rw [loaded] at found
    exact ⟨sequence, rfl, found⟩

/-- To find something to play in a document it is enough to load it and to look. -/
theorem Sequence.exists_loaded (document : String) {test : Playable → Bool}
    (found : ((Sequence.load document).toOption.any fun sequence =>
      sequence.playables.any test) = true) :
    ∃ playable, test playable = true ∧ playable.arranged.Loaded := by
  obtain ⟨sequence, loaded, some⟩ := Sequence.exists_load_eq_ok document found
  obtain ⟨playable, member, passed⟩ := List.any_eq_true.mp some
  exact ⟨playable, passed, document, sequence, loaded, playable, member, rfl⟩

theorem Arrangement.stages_of_ofLines {Fault : Type} {name group : String}
    {warnings : List Warning} {slot : Option Nat} {lines : List (Line (List Playable))}
    {arrangement : Arrangement Playable}
    (built : (Arrangement.ofLines name group warnings slot lines : Except (Failure Fault) _) =
      .ok arrangement) :
    arrangement.stages = Line.stepContents Stage.ofVoices
      (fun voices => (Stage.ofVoices voices).rest) lines := by
  obtain ⟨span, _, built⟩ := bind_eq_ok_iff.mp built
  exact (congrArg Arrangement.stages (Except.ok.inj built)).symm

/-- A stage that comes from a line has the voices of the line, or none. -/
theorem Line.map_voices_stepContents (lines : List (Line (List Playable))) :
    (Line.stepContents Stage.ofVoices (fun voices => (Stage.ofVoices voices).rest) lines).map
        Stage.voices =
      lines.flatMap fun line => line.repetition.contents line.content [] :=
  Line.map_stepContents _ _ Stage.voices lines

/-- An arrangement that is built from lines has the stages of those lines. -/
theorem Arrangement.expanded_of_ofLines {Fault : Type} {name group : String}
    {warnings : List Warning} {slot : Option Nat} {lines : List (Line (List Playable))}
    {arrangement : Arrangement Playable}
    (built : (Arrangement.ofLines name group warnings slot lines : Except (Failure Fault) _) =
      .ok arrangement) {stage : Stage Playable} (member : stage ∈ arrangement.stages) :
    stage.Expanded ∧ ∀ voice ∈ stage.voices, ∃ line ∈ lines, voice ∈ line.content := by
  rw [Arrangement.stages_of_ofLines built] at member
  obtain ⟨line, inLines, rfl | rfl⟩ := Line.mem_stepContents member
  · exact ⟨.sounding line.content, fun voice inLine => ⟨line, inLines, inLine⟩⟩
  · exact ⟨.silent line.content, fun voice inLine => nomatch inLine⟩

/-- A part that plays alone has one stage. -/
theorem Arrangement.eq_of_hasStage_solo {part : Part} {stage : Stage Playable}
    (has : (Arrangement.solo part).HasStage stage) : stage = Stage.ofVoices [.part part] := by
  cases has with
  | own member => exact List.mem_singleton.mp member
  | nested member voice deeper =>
    obtain rfl := List.mem_singleton.mp member
    cases voice

/-- The parts of an arrangement that is built from lines, at any depth, are those of the voices of
its lines. -/
theorem Arrangement.parts_of_ofLines {Fault : Type} {good : Part → Prop} {name group : String}
    {warnings : List Warning} {slot : Option Nat} {lines : List (Line (List Playable))}
    {arrangement : Arrangement Playable}
    (voices : ∀ line ∈ lines, ∀ voice ∈ line.content, ∀ stage, voice.arranged.HasStage stage →
      ∀ part ∈ Stage.parts stage.voices, good part)
    (built : (Arrangement.ofLines name group warnings slot lines : Except (Failure Fault) _) =
      .ok arrangement) {stage : Stage Playable} (has : arrangement.HasStage stage) :
    ∀ part ∈ Stage.parts stage.voices, good part := by
  have inner {stage : Stage Playable} (member : stage ∈ arrangement.stages)
      {voice : Playable} (inStage : voice ∈ stage.voices) :
      ∀ stage, voice.arranged.HasStage stage → ∀ part ∈ Stage.parts stage.voices, good part := by
    obtain ⟨line, inLines, inLine⟩ :=
      (Arrangement.expanded_of_ofLines built member).2 voice inStage
    exact voices line inLines voice inLine
  intro part inStage
  cases has with
  | own member =>
    exact inner member (Stage.mem_parts.mp inStage) _ (.own List.mem_cons_self) part
      List.mem_cons_self
  | nested member voice deeper =>
    exact inner member (Stage.mem_arrangements.mp voice) stage deeper part inStage

/-- What holds for every part that is read from a header and from lines holds for every part in
whatever a document gives to play, at any depth. -/
theorem Arrangement.Loaded.part_induction {good : Part → Prop}
    (read : ∀ (metadata : Metadata) (header : PartHeader) (bpm : Float) (slot : Option Nat)
      (texts : List String) (part : Part), PartHeader.ofMetadata metadata = .ok header →
      Part.read header bpm slot texts = .ok part → good part)
    {arrangement : Arrangement Playable} (loaded : arrangement.Loaded) {stage : Stage Playable}
    (has : arrangement.HasStage stage) {part : Part} (voice : part ∈ Stage.parts stage.voices) :
    good part := by
  obtain ⟨document, sequence, done, playable, member, rfl⟩ := loaded
  suffices all : ∀ playable ∈ sequence.playables, ∀ stage, playable.arranged.HasStage stage →
      ∀ part ∈ Stage.parts stage.voices, good part from all playable member stage has part voice
  refine Sequence.load_induction _ ?_ ?_ done
  · intro metadata header bpm slot texts part headed found stage has other inStage
    rw [Arrangement.eq_of_hasStage_solo has] at inStage
    obtain rfl := List.mem_singleton.mp inStage
    exact read metadata header bpm slot texts _ headed found
  · intro name group warnings slot lines arrangement voices built stage has
    exact Arrangement.parts_of_ofLines voices built has

/-- Whatever a document gives to play has stages that come from lines, and parts that were read. -/
theorem Arrangement.Loaded.formed_and_authored {arrangement : Arrangement Playable}
    (loaded : arrangement.Loaded) : arrangement.Formed ∧ arrangement.Authored := by
  refine ⟨?_, fun stage has part voice => loaded.part_induction
    (fun metadata header bpm slot texts part _ found => ⟨header, bpm, slot, texts, found⟩) has
    voice⟩
  obtain ⟨document, sequence, done, playable, member, rfl⟩ := loaded
  refine Sequence.load_induction (fun playable => playable.arranged.Formed) ?_ ?_ done
    playable member
  · intro metadata header bpm slot texts part _ _ stage has
    rw [Arrangement.eq_of_hasStage_solo has]
    exact .sounding _
  · intro name group warnings slot lines arrangement voices built stage has
    cases has with
    | own member => exact (Arrangement.expanded_of_ofLines built member).1
    | nested member voice deeper =>
      obtain ⟨line, inLines, inLine⟩ := (Arrangement.expanded_of_ofLines built member).2 _
        (Stage.mem_arrangements.mp voice)
      exact voices line inLines _ inLine stage deeper

/-- A document whose arrangement plays two parts behind each other. The division of the second one
does not divide the pulses of the first. -/
def Sequence.chainSample : String :=
  "```beef.part name:trip div:8th-triplet\nc5:1\n```\n" ++
  "```beef.part name:quad div:4th-triplet\ng5:1\n```\n" ++
  "```beef.arrangement name:chain\ntrip\nquad\n```\n"

/-- A document with a further arrangement, which rests and then plays the first one and a part. -/
def Sequence.nestSample : String :=
  Sequence.chainSample ++ "```beef.arrangement name:nest\ntrip chain *2%2\n```\n"

/-- What is known of two members of a list is known once it is computed for all members. -/
theorem eq_pair_of_map_eq {Member Fact : Type} {members : List Member} {fact : Member → Fact}
    {first second : Fact} (computed : members.map fact = [first, second]) :
    ∃ one other, members = [one] ++ [other] ∧ fact one = first ∧ fact other = second := by
  obtain ⟨one, rest, rfl, known, computed⟩ := List.map_eq_cons_iff.mp computed
  obtain ⟨other, rfl, otherKnown⟩ := List.map_eq_singleton_iff.mp computed
  exact ⟨one, other, rfl, known, otherKnown⟩

theorem Sequence.nestSample_stages :
    ∃ (nest chain : Arrangement Playable) (silent sounding : Stage Playable), nest.Loaded ∧
      nest.stages = [silent] ++ [sounding] ∧ Stage.arrangements sounding.voices = [chain] ∧
      Playable.stagesPulses [silent] = 8 ∧ Playable.stagePulses sounding = 24 ∧
      Playable.arrangementPulses nest = 32 ∧ Playable.arrangementPulses chain = 24 := by
  obtain ⟨nest, found, loaded⟩ := Sequence.exists_loaded Sequence.nestSample
    (show ((Sequence.load Sequence.nestSample).toOption.any fun sequence =>
      sequence.playables.any fun playable =>
        decide (Playable.arrangementPulses playable.arranged = 32 ∧
          playable.arranged.stages.map (fun stage => (Playable.stagesPulses [stage],
            (Stage.arrangements stage.voices).map Playable.arrangementPulses)) =
          [(8, []), (24, [24])])) = true by decide +kernel)
  obtain ⟨long, stages⟩ := of_decide_eq_true found
  obtain ⟨silent, sounding, split, rests, sounds⟩ := eq_pair_of_map_eq stages
  simp only [Prod.mk.injEq] at rests sounds
  obtain ⟨chain, voices, lasts⟩ := List.map_eq_singleton_iff.mp sounds.2
  exact ⟨nest.arranged, chain, silent, sounding, loaded, split, voices, rests.1, sounds.1, long,
    lasts⟩

end StepSequencer
