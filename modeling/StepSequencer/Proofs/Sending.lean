/-
This file bounds what a play can send. Whatever goes out is taken from the steps of a part or of a
pacer, so a property that all messages in an arrangement have is a property of everything that its
plays ever send, at whatever port and however often somebody breaks or is told to end. For the
arrangements of a document such a property is that all messages are notes of the sixteen channels.
-/

import StepSequencer.Proofs.Loading
import StepSequencer.Proofs.Performances

namespace StepSequencer

/-! ### Who has which messages -/

section Messages

variable (allowed : Message → Prop)

/-- Whether all messages in the steps of a part are allowed. -/
def Part.Sends (part : Part) : Prop :=
  ∀ cue ∈ part.cues, ∀ message ∈ cue.messages, allowed message

/-- Whether all messages of an arrangement, of its pacers and of nested arrangements are allowed. -/
def Arrangement.Sends (arrangement : Arrangement Playable) : Prop :=
  ∀ stage, arrangement.HasStage stage → ∀ part ∈ stage.cast, part.Sends allowed

/-- Whether all messages of a stage are allowed. -/
structure Stage.Sends (stage : Stage Playable) : Prop where
  cast : ∀ part ∈ stage.cast, part.Sends allowed
  nested : ∀ inner ∈ Stage.arrangements stage.voices, inner.Sends allowed

/-- Whether what somebody makes known contains allowed messages only. -/
def Sound.Sends : Sound → Prop
  | .messages sent => ∀ message ∈ sent, allowed message
  | _ => True

/-- Whether a performer has sent, and will send, allowed messages only. -/
structure Performer.Sends (performer : Performer) : Prop where
  part : performer.part.Sends allowed
  unsent : ∀ message ∈ performer.unsent, allowed message

/-- Whether everybody in the stage of a player has allowed messages only, and so have the stages
that follow. -/
inductive Player.Sends : Player → Prop
  | inStage {run : StageRun Player}
      (performers : ∀ performer ∈ run.performers, performer.Sends allowed)
      (nested : ∀ player ∈ run.nested, Sends player)
      (later : ∀ stage ∈ run.later, stage.Sends allowed) : Sends (.inStage run)

/-- Whether a player goes on with allowed messages only, if it goes on. -/
def Progress.Sends (progress : Progress) : Prop :=
  ∀ player, progress = .playing player → player.Sends allowed

/-- Whether a play has allowed messages only. -/
structure Performance.Sends (performance : Performance) : Prop where
  arrangement : performance.arrangement.Sends allowed
  player : performance.player.Sends allowed

/-- Whether a play goes on with allowed messages only, if it goes on. -/
def Outcome.Sends (outcome : Outcome) : Prop :=
  ∀ performance, outcome = .ongoing performance → performance.Sends allowed

end Messages

variable {allowed : Message → Prop}

theorem Arrangement.Sends.stage {arrangement : Arrangement Playable}
    (sends : arrangement.Sends allowed) {stage : Stage Playable}
    (member : stage ∈ arrangement.stages) : stage.Sends allowed where
  cast := sends stage (.own member)
  nested := fun _ voice _ deeper => sends _ (.nested member voice deeper)

/-! ### What is made known -/

theorem Sound.sends_of_deliveries_eq_nil {sounds : List Sound} (silent : deliveries sounds = []) :
    ∀ sound ∈ sounds, sound.Sends allowed := by
  intro sound member
  cases sound with
  | messages sent => exact absurd rfl (List.filter_eq_nil_iff.mp silent _ member)
  | step slot index => trivial
  | refusal message => trivial

theorem Port.mem_of_mem_taken {port : Port} {messages : List Message} {message : Message}
    (taken : message ∈ (port.deliver messages).taken) : message ∈ messages := by
  induction messages with
  | nil => exact taken
  | cons first rest inductionHypothesis =>
    rw [deliver] at taken
    split at taken
    next => cases taken
    next => exact List.mem_cons_of_mem _ (inductionHypothesis taken)
    next =>
      rcases List.mem_cons.mp taken with rfl | behind
      · exact List.mem_cons_self
      · exact List.mem_cons_of_mem _ (inductionHypothesis behind)

theorem Port.sends_deliver (port : Port) {messages : List Message}
    (all : ∀ message ∈ messages, allowed message) :
    ∀ sound ∈ (port.deliver messages).sounds, sound.Sends allowed := by
  intro sound member
  rcases List.mem_append.mp member with taken | refused
  · split at taken
    · cases taken
    · rw [List.mem_singleton.mp taken]
      exact fun message sent => all message (Port.mem_of_mem_taken sent)
  · obtain ⟨message, _, rfl⟩ := List.mem_map.mp refused
    trivial

/-! ### Performers -/

namespace Performer

theorem sends_ofPart {part : Part} (sends : part.Sends allowed) : (ofPart part).Sends allowed where
  part := sends
  unsent := nofun

variable {performer : Performer}

theorem Sends.nextMessages (sends : performer.Sends allowed) :
    ∀ message ∈ performer.nextMessages, allowed message := by
  intro message member
  rw [Performer.nextMessages, List.getD_eq_getElem?_getD] at member
  cases found : performer.part.cues[performer.started]? with
  | none =>
    rw [found] at member
    cases member
  | some cue =>
    rw [found] at member
    exact sends.part cue (List.mem_of_getElem? found) message member

theorem sends_nextMark : ∀ sound ∈ performer.nextMark, sound.Sends allowed :=
  Sound.sends_of_deliveries_eq_nil (deliveries_stepSound _ _)

/-- At a pulse a performer sends nothing but messages of its part, and keeps nothing else back. -/
theorem Sends.pulse (sends : performer.Sends allowed) (port : Port) (count : Nat) :
    (performer.pulse port count).1.Sends allowed ∧
      ∀ sound ∈ (performer.pulse port count).2, sound.Sends allowed := by
  rw [Performer.pulse]
  split
  · exact ⟨sends, List.forall_mem_nil _⟩
  · split
    · exact ⟨⟨sends.part, sends.unsent⟩, List.forall_mem_nil _⟩
    · rw [startStep]
      split
      · exact ⟨⟨sends.part, sends.nextMessages⟩, sends_nextMark⟩
      · exact ⟨⟨sends.part, sends.unsent⟩, List.forall_mem_append.mpr
          ⟨sends_nextMark, port.sends_deliver sends.nextMessages⟩⟩

end Performer

theorem Stage.Sends.performers {stage : Stage Playable} (sends : stage.Sends allowed) :
    ∀ performer ∈ stage.performers, performer.Sends allowed :=
  List.forall_mem_map.mpr fun part member => Performer.sends_ofPart (sends.cast part member)

/-! ### Players -/

namespace Player

theorem sends_enterStages_of_voices (slot : Option Nat) (index count : Nat)
    (stages : List (Stage Playable)) (sends : ∀ stage ∈ stages, stage.Sends allowed)
    (nested : ∀ stage ∈ stages, ∀ inner ∈ Stage.arrangements stage.voices,
      (enterArrangement inner).1.Sends allowed) :
    (enterStages slot index count stages).1.Sends allowed := by
  induction stages generalizing index with
  | nil => rintro _ ⟨⟩
  | cons stage later inductionHypothesis =>
    have behind := inductionHypothesis (index + 1)
      (fun other member => sends other (List.mem_cons_of_mem _ member))
      (fun other member => nested other (List.mem_cons_of_mem _ member))
    rw [enterStages_cons]
    split
    · exact behind
    · rintro _ ⟨⟩
      refine .inStage (sends stage List.mem_cons_self).performers ?_
        fun other member => sends other (List.mem_cons_of_mem _ member)
      intro player member
      simp only [enterVoices_eq] at member
      obtain ⟨inner, voice, entered⟩ := List.mem_filterMap.mp member
      exact nested stage List.mem_cons_self inner voice player
        (Progress.player?_eq_some_iff.mp entered)

theorem sends_enterArrangement {arrangement : Arrangement Playable}
    (sends : arrangement.Sends allowed) : (enterArrangement arrangement).1.Sends allowed := by
  induction arrangement using Arrangement.nesting_induction with
  | step arrangement inductionHypothesis =>
    rw [enterArrangement_eq]
    exact sends_enterStages_of_voices _ _ _ _ (fun stage member => sends.stage member)
      fun stage member inner voice =>
        inductionHypothesis stage member inner voice ((sends.stage member).nested inner voice)

theorem sends_enterStages (slot : Option Nat) (index count : Nat) {stages : List (Stage Playable)}
    (sends : ∀ stage ∈ stages, stage.Sends allowed) :
    (enterStages slot index count stages).1.Sends allowed :=
  sends_enterStages_of_voices slot index count stages sends fun stage member inner voice =>
    sends_enterArrangement ((sends stage member).nested inner voice)

theorem sends_leaveStage (cancelled : Bool) (slot : Option Nat) (index count : Nat)
    {later : List (Stage Playable)} (sends : ∀ stage ∈ later, stage.Sends allowed) :
    (leaveStage cancelled slot index count later).1.Sends allowed := by
  rw [leaveStage]
  split
  · rintro _ ⟨⟩
  · exact sends_enterStages slot (index + 1) count sends

/-- Moving on leads to nobody with other messages. -/
theorem Sends.settle {player : Player} (sends : player.Sends allowed) (cancelled : Bool) :
    (player.settle cancelled).1.Sends allowed := by
  induction sends with
  | @inStage run performers nested later inductionHypothesis =>
    obtain ⟨slot, index, behind, count, stageRun, players, broken⟩ := run
    rw [Player.settle, settleAll_eq]
    dsimp only
    split
    · split
      · rintro _ ⟨⟩
      · exact sends_leaveStage cancelled slot index count later
    · rintro _ ⟨⟩
      refine .inStage performers ?_ later
      intro player member
      obtain ⟨progress, moved, goesOn⟩ := List.mem_filterMap.mp member
      obtain ⟨other, inStage, rfl⟩ := List.mem_map.mp moved
      exact inductionHypothesis other inStage player (Progress.player?_eq_some_iff.mp goesOn)

/-- At a pulse a player sends nothing but messages of those in its stage. -/
theorem Sends.pulse {player : Player} (sends : player.Sends allowed) (port : Port) :
    (player.pulse port).1.Sends allowed ∧
      ∀ sound ∈ (player.pulse port).2, sound.Sends allowed := by
  induction sends with
  | @inStage run performers nested later inductionHypothesis =>
    obtain ⟨slot, index, behind, count, stageRun, players, broken⟩ := run
    rw [Player.pulse, pulseAll_eq]
    constructor
    · refine .inStage ?_ ?_ later
      · rw [List.map_map]
        exact List.forall_mem_map.mpr fun performer member =>
          ((performers performer member).pulse port count).1
      · exact List.forall_mem_map.mpr fun player member => (inductionHypothesis player member).1
    · refine List.forall_mem_append.mpr ⟨?_, ?_⟩
      · intro sound member
        obtain ⟨_, heard, made⟩ := List.mem_flatMap.mp member
        obtain ⟨performer, inStage, rfl⟩ := List.mem_map.mp heard
        exact ((performers performer inStage).pulse port count).2 sound made
      · intro sound member
        obtain ⟨player, inStage, made⟩ := List.mem_flatMap.mp member
        exact (inductionHypothesis player inStage).2 sound made

end Player

/-! ### Plays -/

namespace Performance

variable {arrangement : Arrangement Playable} {performance : Performance}

theorem sends_beginPass (sends : arrangement.Sends allowed) (looping : Bool) (count : Nat) :
    (beginPass arrangement looping count).1.Sends allowed := by
  have entered := Player.sends_enterStages arrangement.slot 0 count fun _ => sends.stage
  rw [beginPass]
  generalize Player.enterStages arrangement.slot 0 count arrangement.stages = result at entered ⊢
  obtain ⟨progress, sounds⟩ := result
  cases progress with
  | playing player =>
    rintro _ ⟨⟩
    exact ⟨sends, entered player rfl⟩
  | finished pulses => rintro _ ⟨⟩
  | broken message => rintro _ ⟨⟩

theorem deliveries_settle (performance : Performance) : deliveries performance.settle.2 = [] := by
  have silent := Player.deliveries_settle
    (performance.token || performance.player.broken?.isSome) performance.player
  rw [settle]
  generalize performance.player.settle _ = moved at silent ⊢
  obtain ⟨progress, sounds⟩ := moved
  cases progress with
  | playing player => exact silent
  | broken message => exact silent
  | finished count =>
    dsimp only
    split
    · rw [deliveries_append, deliveries_beginPass, List.append_nil]
      exact silent
    · exact silent

theorem Sends.settle (sends : performance.Sends allowed) :
    performance.settle.1.Sends allowed := by
  have moved := sends.player.settle (performance.token || performance.player.broken?.isSome)
  rw [Performance.settle]
  generalize performance.player.settle _ = result at moved ⊢
  obtain ⟨progress, sounds⟩ := result
  cases progress with
  | playing player =>
    rintro _ ⟨⟩
    exact ⟨sends.arrangement, moved player rfl⟩
  | broken message => rintro _ ⟨⟩
  | finished count =>
    dsimp only
    split
    · exact sends_beginPass sends.arrangement true count
    · rintro _ ⟨⟩

/-- Whether something that happens to a play leads on with allowed messages only, and makes nothing
else known. -/
structure Emits (allowed : Message → Prop) (result : Outcome × List Sound) : Prop where
  outcome : result.1.Sends allowed
  sounds : ∀ sound ∈ result.2, sound.Sends allowed

theorem emits_start (sends : arrangement.Sends allowed) (looping : Bool) :
    Emits allowed (start arrangement looping) where
  outcome := sends_beginPass sends looping 0
  sounds := Sound.sends_of_deliveries_eq_nil (deliveries_beginPass arrangement looping 0)

theorem Sends.cancel (sends : performance.Sends allowed) : Emits allowed performance.cancel where
  outcome := Sends.settle ⟨sends.arrangement, sends.player⟩
  sounds := Sound.sends_of_deliveries_eq_nil (deliveries_settle _)

theorem Sends.pulse (sends : performance.Sends allowed) (port : Port) :
    Emits allowed (performance.pulse port) := by
  rw [Performance.pulse]
  split
  · refine ⟨?_, List.forall_mem_nil _⟩
    rintro _ ⟨⟩
    exact sends
  · obtain ⟨player, heard⟩ := sends.player.pulse port
    refine ⟨Sends.settle ⟨sends.arrangement, player⟩, List.forall_mem_append.mpr ⟨heard, ?_⟩⟩
    exact Sound.sends_of_deliveries_eq_nil (deliveries_settle _)

end Performance

/-! ### The messages of documents -/

/-- Whether a message begins or ends a note on one of the sixteen channels. -/
def Message.IsNote : Message → Prop
  | .noteOn channel _ _ => channel < 16
  | .noteOff channel _ => channel < 16
  | _ => False

/-- A channel that is checked is one of sixteen, counted from 1. -/
theorem bounds_of_checkChannel {number : Float} {channel : UInt8}
    (checked : checkChannel number = .ok channel) : 1 ≤ channel ∧ channel ≤ 16 := by
  rw [checkChannel] at checked
  split at checked
  next magnitude _ =>
    split at checked
    next bounds =>
      simp only [Bool.and_eq_true, decide_eq_true_eq] at bounds
      have small : (UInt8.ofNat magnitude.floor).toNat = magnitude.floor :=
        UInt8.toNat_ofNat_of_lt' (Nat.lt_of_le_of_lt bounds.2 (by decide))
      rw [← Except.ok.inj checked, UInt8.le_iff_toNat_le, UInt8.le_iff_toNat_le, small]
      exact ⟨bounds.1.2, bounds.2⟩
    next => exact nomatch checked
  next => exact nomatch checked

/-- The header of a part has the channel that is written, or else the first one. -/
theorem PartHeader.checkChannel_of_ofMetadata {metadata : Metadata} {header : PartHeader}
    (headed : PartHeader.ofMetadata metadata = .ok header) :
    checkChannel ((metadata.number? "ch").getD 1.0) = .ok header.channel := by
  obtain ⟨number, written, headed⟩ := bind_eq_ok_iff.mp headed
  obtain ⟨channel, checked, headed⟩ := bind_eq_ok_iff.mp headed
  obtain rfl : channel = header.channel := congrArg PartHeader.channel (Except.ok.inj headed)
  have same : metadata.number? "ch" = number := by
    unfold Metadata.requireNumber at written
    unfold Metadata.number?
    split at written
    next none => rw [none, ← Except.ok.inj written]
    next value found => rw [found, ← Except.ok.inj written]
    next => cases written
  rw [same]
  exact checked

/-- The channel of a part, counted from 0, is one of sixteen. -/
theorem PartHeader.channel_lt {metadata : Metadata} {header : PartHeader}
    (headed : PartHeader.ofMetadata metadata = .ok header) : header.channel - 1 < 16 := by
  obtain ⟨positive, small⟩ := bounds_of_checkChannel (checkChannel_of_ofMetadata headed)
  have atMost : header.channel.toNat ≤ 16 := UInt8.le_iff_toNat_le.mp small
  rw [UInt8.lt_iff_toNat_lt, UInt8.toNat_sub_of_le _ _ positive]
  exact Nat.lt_of_lt_of_le (Nat.sub_lt (UInt8.le_iff_toNat_le.mp positive) (by decide)) atMost

/-- A part that is read has notes in its steps and in its releases, and nothing else. -/
theorem Part.isNote_of_read {metadata : Metadata} {header : PartHeader} {bpm : Float}
    {slot : Option Nat} {texts : List String} {part : Part}
    (headed : PartHeader.ofMetadata metadata = .ok header)
    (read : Part.read header bpm slot texts = .ok part) :
    part.Sends Message.IsNote ∧ ∀ entry ∈ part.releases, entry.2.IsNote := by
  have bound := PartHeader.channel_lt headed
  obtain ⟨lines, _, read⟩ := bind_eq_ok_iff.mp read
  obtain ⟨attacks, releases⟩ := Part.messages_of_ofLines read
  constructor
  · intro cue inPart message inCue
    obtain ⟨_, _, _, _, pitch, _, rfl⟩ := attacks cue inPart message inCue
    exact bound
  · intro entry scheduled
    obtain ⟨_, _, _, _, pitch, _, released⟩ := releases entry scheduled
    rw [released]
    exact bound

theorem Part.sends_pacer {length : Nat} {due : Nat → List Message}
    (all : ∀ pulse, ∀ message ∈ due pulse, allowed message) :
    (Part.pacer length due).Sends allowed := by
  refine List.forall_mem_map.mpr fun pulse _ message member => ?_
  rw [Cue.messages, List.append_nil] at member
  exact all pulse message member

/-- A pacer sends what the parts beside it release. -/
theorem Stage.Expanded.exists_release {stage : Stage Playable} (expanded : stage.Expanded)
    {cue : Cue} (inPacer : cue ∈ stage.pacer.cues) {message : Message}
    (inCue : message ∈ cue.messages) :
    ∃ part ∈ Stage.parts stage.voices, ∃ entry ∈ part.releases, entry.2 = message := by
  suffices paced : stage.pacer.Sends fun message =>
      ∃ part ∈ Stage.parts stage.voices, ∃ entry ∈ part.releases, entry.2 = message from
    paced cue inPacer message inCue
  cases expanded with
  | sounding voices =>
    refine Part.sends_pacer fun pulse message due => ?_
    obtain ⟨part, voice, released⟩ := List.mem_flatMap.mp due
    obtain ⟨entry, scheduled, rfl⟩ := List.mem_map.mp released
    exact ⟨part, voice, entry, (List.mem_filter.mp scheduled).1, rfl⟩
  | silent voices => exact Part.sends_pacer nofun

/-- Plays of what a document gives to play send notes and nothing else. -/
theorem Arrangement.Loaded.sends_notes {arrangement : Arrangement Playable}
    (loaded : arrangement.Loaded) : arrangement.Sends Message.IsNote := by
  intro stage has part member
  have notes : ∀ part ∈ Stage.parts stage.voices,
      part.Sends Message.IsNote ∧ ∀ entry ∈ part.releases, entry.2.IsNote :=
    fun part voice => loaded.part_induction
      (fun _ _ _ _ _ _ headed read => Part.isNote_of_read headed read) has voice
  rcases List.mem_append.mp member with voice | paced
  · exact (notes part voice).1
  · obtain rfl := List.mem_singleton.mp paced
    intro cue inPacer message inCue
    obtain ⟨part, voice, entry, scheduled, rfl⟩ :=
      (loaded.formed_and_authored.1 stage has).exists_release inPacer inCue
    exact (notes part voice).2 entry scheduled

end StepSequencer
