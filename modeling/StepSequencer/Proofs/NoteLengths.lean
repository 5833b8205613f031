/-
This file compares the two messages of a held note. The note-on comes from the part, which waits
until the count is a multiple of its division. The release comes from the pacer, which begins with
the stage. Between them lie the pulses of the hold, less one, and less the wait of the part: a note
has its full length exactly in the stages that begin at a multiple of the division.
-/

import StepSequencer.Proofs.Releases
import StepSequencer.Proofs.Timetable

namespace StepSequencer

/-! ### The messages of a held note -/

namespace Part

/-- Whether a step of a part that was read from lines has a node with a pitch and a hold. -/
def HoldsNote (part : Part) (step : Nat) (pitch : UInt8) (hold : Nat) : Prop :=
  ∃ header bpm slot lines, Part.ofLines header bpm slot lines = .ok part ∧
    ∃ struck, (Line.stepContents id (fun _ => []) lines)[step]? = some struck ∧
      ∃ sound ∈ struck, pitch ∈ sound.pitches ∧ sound.hold = some hold

variable {part : Part} {step hold release : Nat} {pitch : UInt8}

theorem HoldsNote.noteOn_mem (holds : part.HoldsNote step pitch hold) :
    step < part.length ∧
      .noteOn (part.channel - 1) pitch velocity ∈ part.stepMessages step := by
  obtain ⟨header, bpm, slot, lines, read, struck, found, sound, sounding, pitched, _⟩ := holds
  obtain ⟨_, channel, cues, _⟩ := fields_of_ofLines read
  have cue : part.cues[step]? = some ⟨[], attacksOf (header.channel - 1) struck⟩ := by
    rw [cues, List.getElem?_map, found]
    rfl
  obtain ⟨within, _⟩ := List.getElem?_eq_some_iff.mp cue
  refine ⟨within, ?_⟩
  rw [stepMessages, List.getD_eq_getElem?_getD, cue, channel]
  exact List.mem_flatMap.mpr ⟨sound, sounding, List.mem_map_of_mem pitched⟩

/-- The release is scheduled unless it would lie behind the last pulse. -/
theorem HoldsNote.noteOff_mem (holds : part.HoldsNote step pitch hold)
    (scheduled : releasePulse? part.division.pulses part.pulses step (some hold) = some release) :
    .noteOff (part.channel - 1) pitch ∈ part.releases.due release := by
  obtain ⟨header, bpm, slot, lines, read, struck, found, sound, sounding, pitched, held⟩ := holds
  obtain ⟨_, channel, _, _⟩ := fields_of_ofLines read
  rw [← held] at scheduled
  have entry : (release, .noteOff (header.channel - 1) pitch) ∈ part.releases :=
    (mem_releases_iff read).mpr
      ⟨step, struck, found, sound, sounding, pitch, pitched, scheduled, rfl⟩
  rw [Schedule.due, channel]
  exact List.mem_map.mpr ⟨_, List.mem_filter.mpr ⟨entry, beq_self_eq_true release⟩, rfl⟩

/-- Every release of a part that was read belongs to a held note. -/
theorem Authored.exists_holdsNote (authored : part.Authored)
    (entry : (release, .noteOff (part.channel - 1) pitch) ∈ part.releases) :
    ∃ step hold, part.HoldsNote step pitch hold ∧
      releasePulse? part.division.pulses part.pulses step (some hold) = some release := by
  obtain ⟨header, bpm, slot, lines, read⟩ := authored.exists_lines
  obtain ⟨step, struck, found, sound, sounding, other, pitched, scheduled, released⟩ :=
    (mem_releases_iff read).mp entry
  obtain rfl : pitch = other := (Message.noteOff.inj released).2
  cases held : sound.hold with
  | none =>
    rw [held] at scheduled
    cases scheduled
  | some hold =>
    rw [held] at scheduled
    exact ⟨step, hold, ⟨header, bpm, slot, lines, read, struck, found, sound, sounding, pitched,
      held⟩, scheduled⟩

end Part

/-- A release comes one pulse before the step behind the hold, among the pulses of the part. -/
theorem eq_of_releasePulse? {division total step hold release : Nat} (positive : 0 < division)
    (scheduled : releasePulse? division total step (some hold) = some release) :
    release = step * division + (hold * division - 1) ∧ release < total := by
  obtain ⟨_, ⟨rfl⟩, held, rfl, within⟩ := releasePulse?_eq_some_iff.mp scheduled
  refine ⟨?_, within⟩
  have long : 1 ≤ hold * division := Nat.mul_pos held positive
  rw [Nat.add_mul, Nat.add_sub_assoc long]

/-! ### Both messages in a play -/

/-- Whether a sound tells of a message that was offered to the port. -/
def Sound.TellsOf (message : Message) : Sound → Prop
  | .messages sent => message ∈ sent
  | .refusal refused => message = refused
  | .step _ _ => False

/-- Every message of a sender is heard of: it is sent or refused. -/
theorem Port.Open.exists_tellsOf {port : Port} (opened : port.Open) {messages : List Message}
    {message : Message} (member : message ∈ messages) :
    ∃ sound ∈ (port.deliver messages).sounds, sound.TellsOf message := by
  have either : message ∈ (port.deliver messages).taken ∨
      message ∈ (port.deliver messages).refused := by
    induction messages with
    | nil => cases member
    | cons head rest inductionHypothesis =>
      rw [Port.deliver]
      rcases List.mem_cons.mp member with rfl | inRest
      · split
        next broke => exact absurd broke (opened.sound message)
        next => exact .inr List.mem_cons_self
        next => exact .inl List.mem_cons_self
      · have later := inductionHypothesis inRest
        split
        next broke => exact absurd broke (opened.sound head)
        next => exact later.imp_right (List.mem_cons_of_mem _)
        next => exact later.imp_left (List.mem_cons_of_mem _)
  rcases either with taken | refused
  · refine ⟨.messages (port.deliver messages).taken, List.mem_append_left _ ?_, taken⟩
    rw [if_neg (by simpa using List.ne_nil_of_mem taken)]
    exact List.mem_singleton.mpr rfl
  · exact ⟨.refusal message, List.mem_append_right _ (List.mem_map_of_mem refused), rfl⟩

namespace Performance

open Playable (arrangementPulses stagePulses stagesPulses)

variable {ports : Nat → Port} {arrangement : Arrangement Playable}

/-- What a performer of a stage has due at a pulse is heard of in the play. -/
theorem exists_tellsOf_of_due (formed : arrangement.Formed) (opened : ∀ pulse, (ports pulse).Open)
    (looping : Bool) (pass : Nat) (reached : pass = 0 ∨ looping = true)
    {before later : List (Stage Playable)} {stage : Stage Playable}
    (split : arrangement.stages = before ++ stage :: later) {start : Nat}
    (begins : start = pass * arrangementPulses arrangement + stagesPulses before) {elapsed : Nat}
    (within : elapsed < stage.pacer.length) {performing : Part} (inCast : performing ∈ stage.cast)
    {message : Message} (due : message ∈ performing.due start (start + elapsed)) :
    ∃ sound ∈ sentAt ports arrangement looping (start + elapsed), sound.TellsOf message := by
  have inStage : elapsed < stagePulses stage := by
    rw [Playable.stagePulses_eq]
    exact Nat.lt_of_lt_of_le within (Nat.le_max_left _ _)
  obtain ⟨sound, member, told⟩ := (opened (start + elapsed)).exists_tellsOf due
  rw [sentAt_within formed opened looping pass reached split begins inStage]
  exact ⟨sound, List.mem_append_left _ (List.mem_flatMap.mpr ⟨performing, inCast, member⟩), told⟩

/-- How long a held note sounds in a play, when nobody waits or breaks and every pulse is processed
before the next one. Its release goes out one pulse before the step behind its hold, less the wait
with which the part began; so it is held for its authored length exactly in the stages that begin
at a multiple of the division. -/
theorem held_for_authored_length_iff (loaded : arrangement.Loaded)
    (opened : ∀ pulse, (ports pulse).Open) (looping : Bool) (pass : Nat)
    (reached : pass = 0 ∨ looping = true) {before later : List (Stage Playable)}
    {stage : Stage Playable} (split : arrangement.stages = before ++ stage :: later) {start : Nat}
    (begins : start = pass * arrangementPulses arrangement + stagesPulses before) {part : Part}
    (voice : part ∈ Stage.parts stage.voices) {step hold release : Nat} {pitch : UInt8}
    (holds : part.HoldsNote step pitch hold)
    (scheduled : releasePulse? part.division.pulses part.pulses step (some hold) = some release) :
    ∃ on off, on = start + part.division.wait start + step * part.division.pulses ∧
      off = start + release ∧
      (∃ sound ∈ sentAt ports arrangement looping on,
        sound.TellsOf (.noteOn (part.channel - 1) pitch velocity)) ∧
      (∃ sound ∈ sentAt ports arrangement looping off,
        sound.TellsOf (.noteOff (part.channel - 1) pitch)) ∧
      off + part.division.wait start = on + (hold * part.division.pulses - 1) ∧
      (off = on + (hold * part.division.pulses - 1) ↔ part.division.pulses ∣ start) := by
  obtain ⟨formed, _⟩ := loaded.formed_and_authored
  have expanded := formed.own (show stage ∈ arrangement.stages by simp [split])
  have paced := expanded.pulses_le voice
  obtain ⟨inPart, attacked⟩ := holds.noteOn_mem
  obtain ⟨time, fits⟩ := eq_of_releasePulse? part.division.pulses_pos scheduled
  have length : start + release + part.division.wait start =
      start + part.division.wait start + step * part.division.pulses +
        (hold * part.division.pulses - 1) := by omega
  refine ⟨_, _, rfl, rfl, ?_, ?_, length, ?_⟩
  · have short := part.division.wait_lt start
    have fitting : (step + 1) * part.division.pulses ≤ part.pulses :=
      Nat.mul_le_mul_right _ inPart
    rw [Nat.succ_mul] at fitting
    have due := part.due_step start step
    rw [if_pos inPart] at due
    rw [Nat.add_assoc] at due ⊢
    exact exists_tellsOf_of_due formed opened looping pass reached split begins (by omega)
      (List.mem_append_left _ voice) (due ▸ attacked)
  · have due := expanded.due_pacer start (Nat.lt_of_lt_of_le fits paced)
    refine exists_tellsOf_of_due formed opened looping pass reached split begins
      (Nat.lt_of_lt_of_le fits paced) (List.mem_append_right _ List.mem_cons_self) ?_
    rw [due]
    exact List.mem_flatMap.mpr ⟨part, voice, holds.noteOff_mem scheduled⟩
  · rw [← part.division.wait_eq_zero_iff]
    omega

/-- A note that is too short: it begins at pulse 16 and is released at pulse 23, after 7 pulses and
not after 15. -/
theorem held_for_authored_length_chainSample :
    ∃ arrangement : Arrangement Playable, arrangement.Loaded ∧
      (∃ sound ∈ sentAt (fun _ => Port.free) arrangement false 16,
        sound.TellsOf (.noteOn 0 67 velocity)) ∧
      (∃ sound ∈ sentAt (fun _ => Port.free) arrangement false 23,
        sound.TellsOf (.noteOff 0 67)) ∧
      ¬ 23 = 16 + (1 * 16 - 1) := by
  obtain ⟨arrangement, first, second, loaded, flat, split, begun, _, _, _, parts⟩ :=
    chainSample_stages
  obtain ⟨quad, rest, voices, facts, none⟩ := List.map_eq_cons_iff.mp parts
  have voice : quad ∈ Stage.parts second.voices := voices ▸ List.mem_cons_self
  simp only [Prod.mk.injEq] at facts
  obtain ⟨division, channel, releases⟩ := facts
  have authored := loaded.formed_and_authored.2 second (.own (by simp [split])) quad voice
  have entry : (15, .noteOff (quad.channel - 1) 67) ∈ quad.releases := by
    rw [channel, releases]
    exact List.mem_cons_self
  obtain ⟨step, hold, holds, scheduled⟩ := authored.exists_holdsNote entry
  have begins : 8 = 0 * arrangementPulses arrangement + stagesPulses [first] := by
    rw [Nat.zero_mul, flat.stagesPulses_eq (by simp [split]), begun]
  obtain ⟨time, _⟩ := eq_of_releasePulse? quad.division.pulses_pos scheduled
  rw [division] at time
  have positive : hold ≠ 0 := fun zero => by
    subst zero
    cases scheduled
  obtain rfl : step = 0 := by omega
  obtain rfl : hold = 1 := by omega
  have wait : quad.division.wait 8 = 8 := by rw [Division.wait, division]
  obtain ⟨on, off, attack, released, sounds, ends, _, authoredLength⟩ :=
    held_for_authored_length_iff loaded (fun _ => Port.free_open) false 0 (.inl rfl) split begins
      voice holds scheduled
  rw [division] at authoredLength
  rw [wait, Nat.zero_mul] at attack
  subst attack released
  rw [channel] at sounds ends
  exact ⟨arrangement, loaded, sounds, ends, mt authoredLength.mp (by decide)⟩

end Performance

end StepSequencer
