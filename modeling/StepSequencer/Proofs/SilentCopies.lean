/-
This file compares the copies of one arrangement line. A copy that does not sound is a rest, and a
rest is paced like the copy that sounds, by the longest part of the line. But nested arrangements
can go on for longer than the parts beside them, and a rest knows nothing of them: it lasts as long
as the sounding copy exactly when no nested arrangement outlasts the parts.
-/

import StepSequencer.Proofs.Copies
import StepSequencer.Proofs.PlayLength
import StepSequencer.Proofs.Timetable

namespace StepSequencer

open Playable (arrangementPulses stagePulses stagesPulses voicesPulses)

/-! ### The length of a stage -/

namespace Stage

/-- Whether whoever enters a stage stays in it for just so many pulses, whatever comes behind it and
whatever the count is then, and enters the next stages at the last of them. -/
def Lasts (stage : Stage Playable) (pulses : Nat) : Prop :=
  ∀ ports : Nat → Port, (∀ pulse, (ports pulse).Open) → ∀ slot index count later,
    (∀ elapsed < pulses, ∃ player,
      after Progress.advance ports (Player.enterStages slot index count (stage :: later)).1
          elapsed = .playing player ∧
        player.At index (count + elapsed) later (stage.pacer.length ≤ elapsed)) ∧
    after Progress.advance ports (Player.enterStages slot index count (stage :: later)).1 pulses =
      (Player.enterStages slot (index + 1) (count + pulses) later).1

/-- A stage has one length: with nothing behind it, it cannot be both over and going on. -/
theorem Lasts.not_lt {stage : Stage Playable} {pulses more : Nat} (lasts : stage.Lasts pulses)
    (longer : stage.Lasts more) : ¬ pulses < more := by
  intro before
  obtain ⟨_, isOver⟩ := lasts (fun _ => Port.free) (fun _ => Port.free_open) none 0 0 []
  obtain ⟨goesOn, _⟩ := longer (fun _ => Port.free) (fun _ => Port.free_open) none 0 0 []
  obtain ⟨player, playing, _⟩ := goesOn pulses before
  exact nomatch isOver.symm.trans playing

theorem Lasts.unique {stage : Stage Playable} {pulses others : Nat} (lasts : stage.Lasts pulses)
    (also : stage.Lasts others) : pulses = others :=
  Nat.le_antisymm (Nat.not_lt.mp (also.not_lt lasts)) (Nat.not_lt.mp (lasts.not_lt also))

/-- A stage that comes from a line lasts its pulses. -/
theorem Expanded.lasts {stage : Stage Playable} (expanded : stage.Expanded)
    (formed : ∀ inner ∈ arrangements stage.voices, inner.Formed) :
    stage.Lasts (stagePulses stage) := by
  intro ports opened slot index count later
  have timely : ∀ inner ∈ arrangements stage.voices, Player.KeepsTime ports inner :=
    fun inner voice => Player.keepsTime (formed inner voice) opened
  constructor
  · intro elapsed within
    rw [expanded.after_enterStages opened timely slot index count later elapsed within.le,
      if_pos within]
    exact ⟨_, rfl, Performance.at_runAt expanded ports slot index count later elapsed⟩
  · rw [expanded.after_enterStages opened timely slot index count later _ (Nat.le_refl _),
      if_neg (Nat.lt_irrefl _)]

/-- The pulses of a silent copy: those of the longest part of its line. -/
def silentPulses (voices : List Playable) : Nat := greatest ((parts voices).map Part.pulses)

theorem stagePulses_ofVoices (voices : List Playable) :
    stagePulses (ofVoices voices) = max (silentPulses voices) (voicesPulses voices) := by
  rw [Playable.stagePulses_eq, ofVoices, Part.pacer_length]
  rfl

theorem pacer_length_rest (voices : List Playable) :
    (ofVoices voices).rest.pacer.length = silentPulses voices := by
  rw [rest, ofVoices, Part.pacer_length, Part.pacer_length]
  rfl

theorem stagePulses_rest (voices : List Playable) :
    stagePulses (ofVoices voices).rest = silentPulses voices := by
  rw [Playable.stagePulses_eq, pacer_length_rest]
  exact Nat.max_eq_left (Nat.zero_le _)

/-- A rest sends nothing while it lasts: its pacer has nothing due, and there is nobody else. -/
theorem deliveries_rest {ports : Nat → Port} (opened : ∀ pulse, (ports pulse).Open)
    (voices : List Playable) (slot : Option Nat) (index count : Nat)
    (later : List (Stage Playable)) {elapsed : Nat} (within : elapsed < silentPulses voices) :
    deliveries ((Player.inStage ((ofVoices voices).rest.runAt ports slot index count later
      elapsed)).pulse (ports elapsed)).2 = [] := by
  rw [← pacer_length_rest] at within
  have due := (Expanded.silent voices).due_pacer count within
  rw [← Player.deliveries_advance, deliveries_runAt opened]
  show (List.flatMap _ [(ofVoices voices).rest.pacer]) ++ [] = []
  rw [List.flatMap_singleton, due]
  rfl

end Stage

/-! ### Silent copies and sounding ones -/

/-- How the silent copies of a line compare with the sounding ones. The copies of the line lie in
the arrangement one behind the other, behind those of all lines before it. A silent copy lasts as
long as the longest part of the line; a sounding one goes on until the nested arrangements have
ended too. So the two have one length exactly when no nested arrangement outlasts the parts. In
every play that reaches it, at any depth and in any pass, a silent copy sends nothing. -/
structure SilentCopies (arrangement : Arrangement Playable) (lines : List (Line (List Playable)))
    (line : Line (List Playable)) : Prop where
  copies : ∀ before behind, lines = before ++ line :: behind → ∀ index < line.repetition.times,
    arrangement.stages[(before.map fun other => other.repetition.times).sum + index]? =
      some (if line.repetition.sounds (index + 1) then Stage.ofVoices line.content
        else (Stage.ofVoices line.content).rest)
  silent_lasts : (Stage.ofVoices line.content).rest.Lasts (Stage.silentPulses line.content)
  sounding_lasts : (Stage.ofVoices line.content).Lasts
    (max (Stage.silentPulses line.content) (voicesPulses line.content))
  same_length_iff :
    (∃ pulses, (Stage.ofVoices line.content).rest.Lasts pulses ∧
        (Stage.ofVoices line.content).Lasts pulses) ↔
      ∀ inner ∈ Stage.arrangements line.content,
        arrangementPulses inner ≤ Stage.silentPulses line.content
  sends_nothing : ∀ outer : Arrangement Playable, outer.Loaded → ∀ begun,
    outer.Reaches begun (Stage.ofVoices line.content).rest → ∀ ports : Nat → Port,
    (∀ pulse, (ports pulse).Open) → ∀ looping pass, pass = 0 ∨ looping = true →
    ∀ elapsed < Stage.silentPulses line.content, ∃ player index count later inner,
      Performance.playedFor ports outer looping (pass * arrangementPulses outer + begun + elapsed) =
        .ongoing ⟨outer, looping, pass * arrangementPulses outer, player, false⟩ ∧
      player.Contains inner ∧
      inner.At index (count + elapsed) later (Stage.silentPulses line.content ≤ elapsed) ∧
      deliveries (inner.pulse (ports (pass * arrangementPulses outer + begun + elapsed))).2 = []

/-- What the copies of a line are worth, when its voices come from a document. -/
theorem silent_copy_lasts_iff {Fault : Type} {name group : String} {warnings : List Warning}
    {slot : Option Nat} {lines : List (Line (List Playable))} {line : Line (List Playable)}
    {arrangement : Arrangement Playable}
    (built : (Arrangement.ofLines name group warnings slot lines : Except (Failure Fault) _) =
      .ok arrangement) (loaded : ∀ voice ∈ line.content, voice.arranged.Loaded) :
    SilentCopies arrangement lines line := by
  have formed : ∀ inner ∈ Stage.arrangements line.content, inner.Formed := fun inner voice =>
    (loaded _ (Stage.mem_arrangements.mp voice)).formed_and_authored.1
  have silent : (Stage.ofVoices line.content).rest.Lasts (Stage.silentPulses line.content) :=
    Stage.stagePulses_rest line.content ▸ (Stage.Expanded.silent line.content).lasts nofun
  have sounding := (Stage.Expanded.sounding line.content).lasts formed
  rw [Stage.stagePulses_ofVoices] at sounding
  constructor
  case copies =>
    intro before behind split index within
    rw [Arrangement.stages_of_ofLines built, split]
    exact Line.stepContents_getElem? _ _ before behind line within
  case silent_lasts => exact silent
  case sounding_lasts => exact sounding
  case same_length_iff =>
    rw [← Playable.voicesPulses_le_iff, ← max_eq_left_iff]
    constructor
    · rintro ⟨pulses, rests, sounds⟩
      exact (sounding.unique sounds).trans (rests.unique silent)
    · intro same
      exact ⟨_, silent, same ▸ sounding⟩
  case sends_nothing =>
    intro outer outerLoaded begun reaches ports opened looping pass reached elapsed within
    have outerFormed := outerLoaded.formed_and_authored.1
    have inStage : elapsed < stagePulses (Stage.ofVoices line.content).rest := by
      rwa [Stage.stagePulses_rest]
    obtain ⟨player, innerSlot, index, count, later, inner, state, rfl, contained, _⟩ :=
      Performance.contains_within outerFormed opened looping pass reached reaches rfl inStage
    have place := Performance.at_runAt (Stage.Expanded.silent line.content)
      (fun pulse => ports (pass * arrangementPulses outer + begun + pulse)) innerSlot index count
      later elapsed
    rw [Stage.pacer_length_rest] at place
    exact ⟨player, index, count, later, _, state, contained, place,
      Stage.deliveries_rest (fun pulse => opened _) line.content innerSlot index count later within⟩

/-- A line with two copies of which the first is silent. The parts need 16 pulses, the arrangement
beside them 24, so that the silent copy is 8 pulses short. -/
theorem silent_copy_lasts_iff_chainSample :
    ∃ (arrangement : Arrangement Playable) (voices : List Playable),
      (∀ voice ∈ voices, voice.arranged.Loaded) ∧
      arrangement.stages[0]? = some (Stage.ofVoices voices).rest ∧
      arrangement.stages[1]? = some (Stage.ofVoices voices) ∧
      (Stage.ofVoices voices).rest.Lasts 16 ∧ (Stage.ofVoices voices).Lasts 24 ∧
      ¬ ∃ pulses, (Stage.ofVoices voices).rest.Lasts pulses ∧
        (Stage.ofVoices voices).Lasts pulses := by
  let line (voices : List Playable) : Line (List Playable) :=
    ⟨"trip quad chain *2%2", ⟨2, 2⟩, voices⟩
  let build (voices : List Playable) : Except LoadFailure (Arrangement Playable) :=
    Arrangement.ofLines "late" "default" [] none [line voices]
  obtain ⟨sequence, done, found⟩ := Sequence.exists_load_eq_ok Sequence.chainSample
    (show ((Sequence.load Sequence.chainSample).toOption.any fun sequence =>
      decide ((build sequence.playables).isOk = true ∧
        Stage.silentPulses sequence.playables = 16 ∧
        voicesPulses sequence.playables = 24)) = true by decide +kernel)
  obtain ⟨isBuilt, parts, nested⟩ := of_decide_eq_true found
  obtain ⟨arrangement, built⟩ : ∃ arrangement, build sequence.playables = .ok arrangement := by
    cases result : build sequence.playables with
    | error failure =>
      rw [result] at isBuilt
      exact nomatch isBuilt
    | ok arrangement => exact ⟨arrangement, rfl⟩
  have loaded : ∀ voice ∈ sequence.playables, voice.arranged.Loaded :=
    fun voice member => ⟨Sequence.chainSample, sequence, done, voice, member, rfl⟩
  have compared : SilentCopies _ _ (line sequence.playables) := silent_copy_lasts_iff built loaded
  have copies := compared.copies [] [] rfl
  have silent := compared.silent_lasts
  have sounding := compared.sounding_lasts
  rw [parts] at silent
  rw [parts, nested] at sounding
  have second : (⟨2, 2⟩ : Repeat).sounds 2 = true := rfl
  refine ⟨arrangement, sequence.playables, loaded, copies 0 Nat.two_pos,
    (copies 1 Nat.one_lt_two).trans (congrArg some (if_pos second)), silent, sounding, ?_⟩
  rintro ⟨pulses, rests, sounds⟩
  exact absurd (silent.unique rests) (by rw [← sounding.unique sounds]; decide)

end StepSequencer
