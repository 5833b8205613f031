/-
This file gives the timetable of arrangements whose voices are all parts. Such a stage lasts as long
as its pacer, so the stages before it and the passes before those fix the pulse at which it begins.
From there every step of a part has its pulse: the first one comes at the next multiple of the
division, the others follow at equal distances. The releases of held notes are sent by the pacer, at
their pulse counted from the beginning of the stage. That is all that is ever sent.
-/

import Mathlib
import StepSequencer.Proofs.Loading
import StepSequencer.Proofs.Performances

namespace StepSequencer

open Playable (arrangementPulses stagePulses stagesPulses)

/-! ### What parts and pacers have due -/

namespace Part

/-- The note-ons that are due at a pulse when the part may start at another one: those of the step
that comes as many divisions behind the wait as its number says. -/
def attacksDue (part : Part) (start pulse : Nat) : List Message :=
  (List.range part.length).flatMap fun step =>
    if pulse = start + part.division.wait start + step * part.division.pulses then
      (part.cues.getD step Cue.silent).attacks
    else []

theorem Authored.due_eq_attacksDue {part : Part} (authored : part.Authored) (start pulse : Nat) :
    part.due start pulse = part.attacksDue start pulse := by
  unfold due attacksDue
  refine List.flatMap_congr fun step member => ?_
  have within : step < part.cues.length := List.mem_range.mp member
  have cue : part.cues.getD step Cue.silent ∈ part.cues := by
    rw [List.getD_eq_getElem?_getD, List.getElem?_eq_getElem within, Option.getD_some]
    exact List.getElem_mem within
  rw [stepMessages, Cue.messages, authored.releases_eq_nil _ cue, List.nil_append]

theorem stepMessages_pacer {length step : Nat} (due : Nat → List Message) (within : step < length) :
    (pacer length due).stepMessages step = due step := by
  simp [stepMessages, pacer, Cue.messages, List.getD_eq_getElem?_getD, within]

theorem due_pacer {length elapsed : Nat} (messages : Nat → List Message) (start : Nat)
    (within : elapsed < length) :
    (pacer length messages).due start (start + elapsed) = messages elapsed := by
  have due := due_step (pacer length messages) start elapsed
  rw [pacer_division, Division.wait_pulse, pacer_length, if_pos within,
    stepMessages_pacer messages within] at due
  simpa [Division.pulses] using due

end Part

/-- The pacer releases what the parts beside it have to release. -/
theorem Stage.Expanded.due_pacer {stage : Stage Playable} (expanded : stage.Expanded)
    (start : Nat) {elapsed : Nat} (within : elapsed < stage.pacer.length) :
    stage.pacer.due start (start + elapsed) =
      (Stage.parts stage.voices).flatMap fun part => part.releases.due elapsed := by
  cases expanded with
  | sounding voices =>
    rw [Stage.ofVoices, Part.pacer_length] at within
    exact Part.due_pacer _ start within
  | silent voices =>
    rw [Stage.rest, Part.pacer_length] at within
    exact Part.due_pacer _ start within

/-! ### Stages without nested arrangements -/

/-- Whether all voices of an arrangement are parts. -/
def Arrangement.Flat (arrangement : Arrangement Playable) : Prop :=
  ∀ stage ∈ arrangement.stages, ∀ voice ∈ stage.voices, voice.part?.isSome

instance (arrangement : Arrangement Playable) : Decidable arrangement.Flat :=
  inferInstanceAs (Decidable (∀ stage ∈ arrangement.stages, ∀ voice ∈ stage.voices, _))

/-- The pulses of the pacers of some stages, one after the other. -/
def Stage.pacedPulses (stages : List (Stage Playable)) : Nat :=
  (stages.map fun stage => stage.pacer.length).sum

theorem Arrangement.Flat.arrangements_eq_nil {arrangement : Arrangement Playable}
    (flat : arrangement.Flat) {stage : Stage Playable} (member : stage ∈ arrangement.stages) :
    Stage.arrangements stage.voices = [] := by
  refine List.eq_nil_iff_forall_not_mem.mpr fun inner voice => ?_
  cases flat stage member _ (Stage.mem_arrangements.mp voice)

theorem Arrangement.Flat.stagePulses_eq {arrangement : Arrangement Playable}
    (flat : arrangement.Flat) {stage : Stage Playable} (member : stage ∈ arrangement.stages) :
    stagePulses stage = stage.pacer.length := by
  have alone : Playable.voicesPulses stage.voices ≤ 0 := by
    rw [Playable.voicesPulses_le_iff, flat.arrangements_eq_nil member]
    exact fun inner voice => nomatch voice
  rw [Playable.stagePulses_eq, Nat.le_zero.mp alone, Nat.max_eq_left (Nat.zero_le _)]

theorem Arrangement.Flat.stagesPulses_eq {arrangement : Arrangement Playable}
    (flat : arrangement.Flat) {stages : List (Stage Playable)}
    (own : ∀ stage ∈ stages, stage ∈ arrangement.stages) :
    stagesPulses stages = Stage.pacedPulses stages := by
  induction stages with
  | nil => rfl
  | cons stage rest inductionHypothesis =>
    have behind := inductionHypothesis fun other member => own other (List.mem_cons_of_mem _ member)
    rw [stagesPulses, flat.stagePulses_eq (own stage List.mem_cons_self), behind,
      Stage.pacedPulses, Stage.pacedPulses, List.map_cons, List.sum_cons]

/-! ### The timetable -/

/-- What a stage of parts that began at one pulse sends so many pulses later: every part the
note-ons that it has due, and the pacer the releases of all parts. -/
def Stage.timetable (port : Port) (stage : Stage Playable) (start elapsed : Nat) : List Sound :=
  ((Stage.parts stage.voices).flatMap fun part =>
    (port.deliver (part.attacksDue start (start + elapsed))).sounds) ++
  (port.deliver ((Stage.parts stage.voices).flatMap fun part => part.releases.due elapsed)).sounds

namespace Performance

variable {ports : Nat → Port} {arrangement : Arrangement Playable}

/-- When everything of a play goes out, if all voices are parts. Beginning to play sends nothing.
Every pulse of a play that is not over falls into one of its stages, which began when the passes and
the stages before it were over, and what is sent then is what this stage has in its timetable. When
the play is over nothing is sent. -/
structure Timetable (ports : Nat → Port) (arrangement : Arrangement Playable) : Prop where
  begins_silently : ∀ looping, deliveries (start arrangement looping).2 = []
  place : ∀ looping pulse, pulse < Stage.pacedPulses arrangement.stages ∨
      looping = true ∧ 0 < Stage.pacedPulses arrangement.stages →
    ∃ pass before stage later elapsed, (pass = 0 ∨ looping = true) ∧
      arrangement.stages = before ++ stage :: later ∧ elapsed < stage.pacer.length ∧
      pulse = pass * Stage.pacedPulses arrangement.stages + Stage.pacedPulses before + elapsed
  sends : ∀ looping pass, pass = 0 ∨ looping = true → ∀ before stage later,
    arrangement.stages = before ++ stage :: later → ∀ start,
    start = pass * Stage.pacedPulses arrangement.stages + Stage.pacedPulses before →
    ∀ elapsed < stage.pacer.length,
      sentAt ports arrangement looping (start + elapsed) =
        stage.timetable (ports (start + elapsed)) start elapsed
  ends_silently : ∀ looping pulse,
    looping = false ∨ Stage.pacedPulses arrangement.stages = 0 →
      Stage.pacedPulses arrangement.stages ≤ pulse → sentAt ports arrangement looping pulse = []

/-- Plays of arrangements of parts keep the timetable, when nobody waits or breaks and every pulse
is processed before the next one. -/
theorem timetable (loaded : arrangement.Loaded) (flat : arrangement.Flat)
    (opened : ∀ pulse, (ports pulse).Open) : Timetable ports arrangement := by
  obtain ⟨formed, authored⟩ := loaded.formed_and_authored
  have total : arrangementPulses arrangement = Stage.pacedPulses arrangement.stages := by
    rw [Playable.arrangementPulses_eq, flat.stagesPulses_eq fun _ own => own]
  have begun {before later : List (Stage Playable)} {stage : Stage Playable}
      (split : arrangement.stages = before ++ stage :: later) :
      stagesPulses before = Stage.pacedPulses before :=
    flat.stagesPulses_eq fun other member => split ▸ List.mem_append_left _ member
  constructor
  case begins_silently => exact fun looping => deliveries_beginPass arrangement looping 0
  case place =>
    intro looping pulse lasts
    rw [← total] at lasts ⊢
    obtain ⟨reached, before, stage, later, elapsed, split, within, time⟩ := exists_place lasts
    rw [flat.stagePulses_eq (by simp [split])] at within
    rw [begun split] at time
    exact ⟨_, before, stage, later, elapsed, reached, split, within, time⟩
  case sends =>
    intro looping pass reached before stage later split start begins elapsed within
    have member : stage ∈ arrangement.stages := by simp [split]
    rw [← total, ← begun split] at begins
    rw [sentAt_within formed opened looping pass reached split begins
        (by rwa [flat.stagePulses_eq member]), flat.arrangements_eq_nil member, Stage.cast,
      List.flatMap_nil, List.append_nil, List.flatMap_append, List.flatMap_singleton,
      (formed.own member).due_pacer start within, Stage.timetable]
    congr 1
    refine List.flatMap_congr fun part voice => ?_
    rw [(authored stage (.own member) part voice).due_eq_attacksDue]
  case ends_silently =>
    intro looping pulse ends late
    rw [← total] at ends late
    exact sentAt_of_over (playedFor_eq_over formed opened ends late)

/-- The second stage of the sample begins at pulse 8, and its part waits for 8 pulses more. -/
theorem chainSample_stages :
    ∃ (arrangement : Arrangement Playable) (first second : Stage Playable),
      arrangement.Loaded ∧ arrangement.Flat ∧ arrangement.stages = [first] ++ [second] ∧
      Stage.pacedPulses [first] = 8 ∧ second.pacer.length = 16 ∧
      second.timetable Port.free 8 0 = [] ∧
      second.timetable Port.free 8 8 = [.messages [.noteOn 0 67 100]] ∧
      (Stage.parts second.voices).map (fun part => (part.division.pulses, part.channel,
        part.releases)) = [(16, 1, [(15, .noteOff 0 67)])] := by
  obtain ⟨chain, found, loaded⟩ := Sequence.exists_loaded Sequence.chainSample
    (show ((Sequence.load Sequence.chainSample).toOption.any fun sequence =>
      sequence.playables.any fun playable =>
        decide (playable.arranged.Flat ∧
          playable.arranged.stages.map (fun stage => (stage.pacer.length,
            stage.timetable Port.free 8 0, stage.timetable Port.free 8 8)) =
            [(8, [.messages [.noteOn 0 60 100]], []), (16, [], [.messages [.noteOn 0 67 100]])] ∧
          playable.arranged.stages.map (fun stage => (Stage.parts stage.voices).map fun part =>
            (part.division.pulses, part.channel, part.releases)) =
            [[(8, 1, [(7, .noteOff 0 60)])], [(16, 1, [(15, .noteOff 0 67)])]])) = true by
      decide +kernel)
  obtain ⟨flat, stages, parts⟩ := of_decide_eq_true found
  obtain ⟨first, second, split, begun, facts⟩ := eq_pair_of_map_eq stages
  simp only [Prod.mk.injEq] at begun facts
  rw [split] at parts
  obtain ⟨_, parts⟩ := List.cons.inj parts
  refine ⟨chain.arranged, first, second, loaded, flat, split, ?_, facts.1, facts.2.1, facts.2.2,
    (List.cons.inj parts).1⟩
  rw [Stage.pacedPulses, List.map_singleton, List.sum_singleton]
  exact begun.1

/-- Between the beginning of a stage and its first tick there is nothing in the timetable. -/
theorem timetable_chainSample :
    ∃ arrangement : Arrangement Playable, arrangement.Loaded ∧ arrangement.Flat ∧
      sentAt (fun _ => Port.free) arrangement false 8 = [] ∧
      sentAt (fun _ => Port.free) arrangement false 16 = [.messages [.noteOn 0 67 100]] := by
  obtain ⟨arrangement, first, second, loaded, flat, split, begun, long, waits, starts, _⟩ :=
    chainSample_stages
  have sends := (timetable loaded flat fun _ => Port.free_open).sends false 0 (.inl rfl) [first]
    second [] split 8 (by rw [begun, Nat.zero_mul])
  rw [long] at sends
  refine ⟨arrangement, loaded, flat, ?_, ?_⟩
  · exact (sends 0 (by decide)).trans waits
  · exact (sends 8 (by decide)).trans starts

end Performance

end StepSequencer
