/-
This file proves that every note of a document survives the wire. In its bytes a message keeps four
bits of its channel and seven of each number, so only messages that have room there are told by
their bytes. The notes of a document have: the channel of a part was checked when its header was
read, its pitches when its lines were read, and all notes have the same velocity. Arrangements send
what their parts hold, at whatever depth, and their pacers what these parts release.
-/

import StepSequencer.Proofs.Accounts
import StepSequencer.Proofs.Pitches
import StepSequencer.Proofs.Sending

namespace StepSequencer

/-! ### Notes as bytes -/

namespace Message

/-- The bytes of a message with its channel and its data as they are, nothing masked. -/
def plainBytes : Message → List UInt8
  | noteOn channel note velocity => [0x90 + channel, note, velocity]
  | noteOff channel note => [0x80 + channel, note, 0]
  | control channel controller value => [0xB0 + channel, controller, value]
  | timingClock => [0xF8]
  | start => [0xFA]
  | stop => [0xFC]

/-- Whether a message begins or ends a note on a channel, and each of its numbers has room in its
byte. -/
def Fits (channel : UInt8) : Message → Prop
  | noteOn own note velocity =>
    own = channel ∧ own ≤ 15 ∧ note ≤ 127 ∧ 1 ≤ velocity ∧ velocity ≤ 127
  | noteOff own note => own = channel ∧ own ≤ 15 ∧ note ≤ 127
  | _ => False

/-- Whether a note on a channel is told by its bytes. -/
structure Survives (channel : UInt8) (message : Message) : Prop where
  fits : message.Fits channel
  unmasked : message.bytes = message.plainBytes
  readBack : ofBytes? message.bytes = some message

theorem dataByte_of_le {value : UInt8} (small : value ≤ 127) : dataByte value = value :=
  UInt8.mod_eq_of_lt (UInt8.lt_of_le_of_lt small (by decide))

/-- What holds of the sixteen channels holds of every channel. -/
theorem forall_channel (holds : UInt8 → Prop) (each : ∀ value : Fin 16, holds (UInt8.ofNat value))
    {channel : UInt8} (small : channel ≤ 15) : holds channel := by
  have held := each ⟨channel.toNat, Nat.lt_succ_of_le (UInt8.le_iff_toNat_le.mp small)⟩
  rwa [UInt8.ofNat_toNat] at held

/-- A status byte is below those of the transport and tells its kind and its channel. -/
theorem statusByte_of_le {code channel : UInt8} (known : code = 8 ∨ code = 9 ∨ code = 11)
    (small : channel ≤ 15) :
    statusByte (16 * code) channel = 16 * code + channel ∧ 16 * code + channel < 0xF0 ∧
      (16 * code + channel) / 16 = code ∧ (16 * code + channel) % 16 = channel := by
  refine forall_channel (fun channel => statusByte (16 * code) channel = 16 * code + channel ∧
    16 * code + channel < 0xF0 ∧ (16 * code + channel) / 16 = code ∧
      (16 * code + channel) % 16 = channel) ?_ small
  obtain rfl | rfl | rfl := known <;> decide

/-- Below the status bytes of the transport stand those of channels. -/
theorem ofBytes?_of_lt {status : UInt8} (below : status < 0xF0) (first second : UInt8) :
    ofBytes? [status, first, second] = ofChannelBytes? status first second := by
  have other (transport : UInt8) (above : 0xF0 ≤ transport) : status ≠ transport := by
    rintro rfl
    exact absurd below (UInt8.not_lt.mpr above)
  rw [ofBytes?, if_neg (other _ (by decide)), if_neg (other _ (by decide)),
    if_neg (other _ (by decide))]

/-- A note that fits survives. -/
theorem Fits.survives {channel : UInt8} {message : Message} (fits : message.Fits channel) :
    message.Survives channel := by
  cases message with
  | noteOn own note velocity =>
    obtain ⟨_, small, noteSmall, sounds, velocitySmall⟩ := id fits
    obtain ⟨status, below, code, same⟩ := statusByte_of_le (.inr (.inl rfl)) small
    have unmasked : bytes (noteOn own note velocity) = [0x90 + own, note, velocity] := by
      rw [bytes, dataByte_of_le noteSmall, dataByte_of_le velocitySmall]
      exact congrArg (· :: _) status
    refine ⟨fits, unmasked, ?_⟩
    rw [unmasked]
    refine (ofBytes?_of_lt below note velocity).trans ?_
    rw [ofChannelBytes?, if_pos code, same, if_pos (UInt8.lt_of_lt_of_le (by decide) sounds)]
  | noteOff own note =>
    obtain ⟨_, small, noteSmall⟩ := id fits
    obtain ⟨status, below, code, same⟩ := statusByte_of_le (.inl rfl) small
    have unmasked : bytes (noteOff own note) = [0x80 + own, note, 0] := by
      rw [bytes, dataByte_of_le noteSmall]
      exact congrArg (· :: _) status
    refine ⟨fits, unmasked, ?_⟩
    rw [unmasked]
    refine (ofBytes?_of_lt below note 0).trans ?_
    rw [ofChannelBytes?, code, if_neg (by decide), if_pos rfl, same]
  | control | timingClock | start | stop => exact fits.elim

end Message

/-! ### The notes of a part -/

/-- Whether all notes of a part are on its channel and survive the wire. -/
structure Part.SurvivesWire (part : Part) : Prop where
  /-- Counted from 1, as documents write it. -/
  channel : 1 ≤ part.channel ∧ part.channel ≤ 16
  cues : ∀ cue ∈ part.cues, ∀ message ∈ cue.messages, message.Survives (part.channel - 1)
  releases : ∀ entry ∈ part.releases, entry.2.Survives (part.channel - 1)

theorem Part.survivesWire_of_read {metadata : Metadata} {header : PartHeader} {bpm : Float}
    {slot : Option Nat} {texts : List String} {part : Part}
    (headed : PartHeader.ofMetadata metadata = .ok header)
    (read : Part.read header bpm slot texts = .ok part) : part.SurvivesWire := by
  have bounds := bounds_of_checkChannel (PartHeader.checkChannel_of_ofMetadata headed)
  have small : header.channel - 1 ≤ 15 := UInt8.le_iff_toNat_le.mpr
    (Nat.le_of_lt_succ (UInt8.lt_iff_toNat_lt.mp (PartHeader.channel_lt headed)))
  obtain ⟨lines, linesRead, read⟩ := bind_eq_ok_iff.mp read
  have pitchSmall {line : Line (List Struck)} (member : line ∈ lines) :
      ∀ sound ∈ line.content, ∀ pitch ∈ sound.pitches, pitch ≤ 127 :=
    have ⟨_, _, lineRead⟩ := exists_of_mem_mapM linesRead member
    le_of_readPartLine lineRead
  obtain ⟨_, channel, _⟩ := Part.fields_of_ofLines read
  obtain ⟨attacks, releases⟩ := Part.messages_of_ofLines read
  rw [← channel] at bounds small attacks releases
  refine ⟨bounds, fun cue inPart message inCue => ?_, fun entry scheduled => ?_⟩
  · obtain ⟨line, inLines, sound, inLine, pitch, sounds, rfl⟩ := attacks cue inPart message inCue
    exact Message.Fits.survives
      ⟨rfl, small, pitchSmall inLines sound inLine pitch sounds, by decide, by decide⟩
  · obtain ⟨line, inLines, sound, inLine, pitch, sounds, released⟩ := releases entry scheduled
    rw [released]
    exact Message.Fits.survives ⟨rfl, small, pitchSmall inLines sound inLine pitch sounds⟩

/-! ### The notes of a document -/

/-- Whether the header of a block asks for a channel, or says nothing and gets the first one. -/
def Block.HasChannel (block : Block) (channel : UInt8) : Prop :=
  ∃ metadata, Header.readMetadata block.header.toList = .ok metadata ∧
    checkChannel ((metadata.number? "ch").getD 1.0) = .ok channel

namespace Sequence

/-- Whether all notes of a sequence survive the wire, where the sequence was read from some
blocks. -/
structure SurvivesWire (sequence : Sequence) (blocks : List Block) : Prop where
  channels : List.Forall₂ (fun block part => block.HasChannel part.channel)
    (blocks.filter Block.holdsPart) sequence.parts
  parts : ∀ part ∈ sequence.parts, part.SurvivesWire
  /-- At whatever depth a part plays, it is a part of the document. -/
  voices : ∀ playable ∈ sequence.playables, ∀ stage, playable.arranged.HasStage stage →
    ∀ part ∈ Stage.parts stage.voices, part ∈ sequence.parts
  pacers : ∀ playable ∈ sequence.playables, ∀ stage, playable.arranged.HasStage stage →
    ∀ cue ∈ stage.pacer.cues, ∀ message ∈ cue.messages,
      ∃ part ∈ Stage.parts stage.voices, message.Survives (part.channel - 1)

theorem mem_parts_of_hasStage {document : String} {sequence : Sequence}
    (loaded : load document = .ok sequence) :
    ∀ playable ∈ sequence.playables, ∀ stage, playable.arranged.HasStage stage →
      ∀ part ∈ Stage.parts stage.voices, part ∈ sequence.parts := by
  obtain ⟨blocks, drafts, built, _, read, done, placed⟩ := exists_built_of_load loaded
  obtain ⟨parts, _⟩ := forall₂_holds_of_built read done placed
  have solo (part : Part) (member : part ∈ sequence.parts) (stage : Stage Playable)
      (has : (Playable.part part).arranged.HasStage stage) :
      ∀ part ∈ Stage.parts stage.voices, part ∈ sequence.parts := by
    rw [Arrangement.eq_of_hasStage_solo has]
    exact List.forall_mem_singleton.mpr member
  -- Building arrangements keeps the property: their lines have parts of the document as voices.
  obtain ⟨_, arrangements⟩ := @Document.keeps_buildAll
    (fun playable => ∀ stage, playable.arranged.HasStage stage →
      ∀ part ∈ Stage.parts stage.voices, part ∈ sequence.parts)
    _ (fun part member => solo part (parts ▸ member))
    (fun _ _ _ _ _ _ voices assembled _ => Arrangement.parts_of_ofLines voices assembled)
    _ [] _ built nofun done
  rw [placed]
  intro playable member
  rcases Document.mem_placeArrangements member with ⟨part, found, rfl⟩ | ⟨inner, found, rfl⟩
  · exact solo part (parts ▸ Document.mem_draftParts.mpr found)
  · exact arrangements inner found

/-- The blocks that hold parts are those that parts are read from, in the same order. -/
theorem forall₂_draftParts {bpm : Float} {blocks : List Block} {drafts : List Document.Draft}
    (read : Document.readDrafts bpm blocks = .ok drafts) :
    List.Forall₂ (fun block part => ∃ slot, Document.readDraft bpm slot block = .ok (.part part))
      (blocks.filter Block.holdsPart) (Document.draftParts drafts) := by
  have found : List.Forall₂ (fun block draft =>
      block.directive ≠ .sequence ∧ ∃ slot, Document.readDraft bpm slot block = .ok draft)
      ((Document.playableBlocks blocks).zipIdx.map Prod.fst) drafts := by
    refine List.forall₂_map_left_iff.mpr ((forall₂_of_readDrafts read).imp ?_)
    exact fun entry draft found => ⟨found.1, entry.2, found.2⟩
  rw [List.zipIdx_map_fst] at found
  have kept : List.Forall₂ (fun block draft =>
      block.directive ≠ .sequence ∧ ∃ slot, Document.readDraft bpm slot block = .ok draft)
      ((Document.playableBlocks blocks).filter Block.holdsPart)
      ((Document.draftParts drafts).map .part) := by
    refine forall₂_filter_filterMap (fun draft part same => ?_) (fun block draft found => ?_) found
    · cases draft <;> cases same
      rfl
    · obtain ⟨holds, slot, found⟩ := found
      obtain ⟨_, _, ⟨arranges, rfl⟩ | ⟨sounds, part, rfl, _⟩⟩ :=
        Document.exists_metadata_of_readDraft found
      · simp [Block.holdsPart, arranges]
      · simp [Block.holdsPart, holds, sounds]
  rw [← Document.filter_playableBlocks fun block settings => by simp [Block.holdsPart, settings]]
  exact (List.forall₂_map_right_iff.mp kept).imp fun block part found => found.2

theorem hasChannel_of_readDraft {bpm : Float} {slot : Nat} {block : Block} {part : Part}
    (found : Document.readDraft bpm slot block = .ok (.part part)) :
    block.HasChannel part.channel := by
  obtain ⟨metadata, header, texts, written, headed, read⟩ :=
    Document.exists_header_of_readDraft found
  obtain ⟨lines, _, read⟩ := bind_eq_ok_iff.mp read
  rw [(Part.fields_of_ofLines read).2.1]
  exact ⟨metadata, written, PartHeader.checkChannel_of_ofMetadata headed⟩

/-- Every note of a loaded document is on the channel of its block and survives the wire, whether a
part or a pacer sends it. Where every line is in the notation, no part fails for want of a pitch. -/
theorem load_survives_wire {document : String} {sequence : Sequence}
    (loaded : load document = .ok sequence) :
    (∃ blocks, Document.readBlocks document = .ok blocks ∧ sequence.SurvivesWire blocks) ∧
      ∀ (header : PartHeader) (bpm : Float) (slot : Option Nat) (texts : List String)
        (failure : Failure SyntaxFault),
        (∀ text ∈ texts, ∃ nodes, Notation.readNodes text.toList = .ok nodes) →
          Part.read header bpm slot texts = .error failure → ¬ failure.IsPitch := by
  refine ⟨?_, fun _ _ _ _ _ => Part.not_isPitch_of_read⟩
  have voices := mem_parts_of_hasStage loaded
  obtain ⟨blocks, drafts, built, written, read, done, placed⟩ := exists_built_of_load loaded
  obtain ⟨parts, _⟩ := forall₂_holds_of_built read done placed
  have survive : ∀ part ∈ sequence.parts, part.SurvivesWire := by
    intro part member
    obtain ⟨metadata, header, slot, texts, headed, found⟩ :=
      Document.read_of_mem_readDrafts read (Document.mem_draftParts.mp (parts ▸ member))
    exact Part.survivesWire_of_read headed found
  refine ⟨blocks, written, ?channels, survive, voices, ?pacers⟩
  case channels =>
    rw [parts]
    refine (forall₂_draftParts read).imp fun block part found => ?_
    obtain ⟨slot, found⟩ := found
    exact hasChannel_of_readDraft found
  case pacers =>
    intro playable member stage has cue inPacer message inCue
    obtain ⟨formed, _⟩ :=
      Arrangement.Loaded.formed_and_authored ⟨document, sequence, loaded, playable, member, rfl⟩
    obtain ⟨part, voice, entry, scheduled, rfl⟩ := (formed stage has).exists_release inPacer inCue
    exact ⟨part, voice,
      (survive part (voices playable member stage has part voice)).releases entry scheduled⟩

/-- A document with a chord over a bass and a held note on the last channel, which an arrangement
plays inside another one. -/
def deepSample : String :=
  "```beef.part name:low ch:16\nBbm7/e c#4:1\n```\n" ++
    "```beef.arrangement name:inner\nlow\n```\n```beef.arrangement name:outer\ninner\n```\n"

theorem load_survives_wire_deep :
    (∃ sequence blocks, load deepSample = .ok sequence ∧
      Document.readBlocks deepSample = .ok blocks ∧ sequence.SurvivesWire blocks ∧
      (sequence.parts.map fun part => part.cues.flatMap fun cue =>
        cue.messages.map Message.bytes) =
        [[[0x9F, 52, 100], [0x9F, 70, 100], [0x9F, 73, 100], [0x9F, 77, 100], [0x9F, 80, 100],
          [0x9F, 49, 100]]] ∧
      (sequence.arrangements.map fun arrangement => arrangement.stages.flatMap fun stage =>
        stage.pacer.cues.flatMap fun cue => cue.messages.map Message.bytes) =
        [[[0x8F, 49, 0]], []]) ∧
    ∃ failure, Part.read ⟨"low", "default", 16, .fourth, []⟩ 120.0 none ["Bbm7/e c#4:1 *0"] =
      .error failure ∧ ¬ failure.IsPitch := by
  obtain ⟨sequence, loaded, known⟩ := exists_load_eq_ok deepSample
    (show ((load deepSample).toOption.any fun sequence => decide (
      (sequence.parts.map fun part => part.cues.flatMap fun cue =>
        cue.messages.map Message.bytes) =
        [[[0x9F, 52, 100], [0x9F, 70, 100], [0x9F, 73, 100], [0x9F, 77, 100], [0x9F, 80, 100],
          [0x9F, 49, 100]]] ∧
      (sequence.arrangements.map fun arrangement => arrangement.stages.flatMap fun stage =>
        stage.pacer.cues.flatMap fun cue => cue.messages.map Message.bytes) =
        [[[0x8F, 49, 0]], []])) = true by
      decide +kernel)
  obtain ⟨⟨blocks, written, survives⟩, noPitch⟩ := load_survives_wire loaded
  refine ⟨⟨sequence, blocks, loaded, written, survives, of_decide_eq_true known⟩, ?_⟩
  have accepted : ∀ text ∈ ["Bbm7/e c#4:1 *0"],
      ∃ nodes, Notation.readNodes text.toList = .ok nodes := by
    refine List.forall_mem_singleton.mpr ?_
    obtain ⟨nodes, read⟩ := Option.isSome_iff_exists.mp
      (show (Notation.readNodes "Bbm7/e c#4:1 *0".toList).toOption.isSome = true by
        decide +kernel)
    exact ⟨nodes, toOption_eq_some_iff.mp read⟩
  have unread : (Part.read ⟨"low", "default", 16, .fourth, []⟩ 120.0 none
      ["Bbm7/e c#4:1 *0"]).toOption.isNone = true := by
    decide +kernel
  cases failed : Part.read ⟨"low", "default", 16, .fourth, []⟩ 120.0 none ["Bbm7/e c#4:1 *0"] with
  | ok part =>
    rw [failed] at unread
    cases unread
  | error failure => exact ⟨failure, rfl, noPitch _ _ _ _ failure accepted failed⟩

end Sequence

end StepSequencer
