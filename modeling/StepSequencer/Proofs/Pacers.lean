/-
This file says that pacers lose nothing. The pacer of a stage lasts as long as the longest of the
parts beside it, and at each pulse it sends what the parts have to release there, part by part. No
part has a release behind its own last pulse, so none lies behind the last pulse of the pacer
either: whatever the lengths of the parts, and however often a part is among the voices, the pacer
sends just the releases of all of them.
-/

import Mathlib
import StepSequencer.Proofs.Performers
import StepSequencer.Proofs.Releases

namespace StepSequencer

/-! ### The releases of a part -/

/-- Whether a part is among those of a document. -/
def Part.Loaded (part : Part) : Prop :=
  ∃ document sequence, Sequence.load document = .ok sequence ∧ part ∈ sequence.parts

theorem Part.Loaded.authored {part : Part} (loaded : part.Loaded) : part.Authored := by
  obtain ⟨document, sequence, done, member⟩ := loaded
  have voice : Playable.part part ∈ sequence.playables := Stage.mem_parts.mp member
  have played : (Arrangement.solo part).Loaded := ⟨document, sequence, done, _, voice, rfl⟩
  exact played.formed_and_authored.2 _ (.own (List.mem_singleton.mpr rfl)) part List.mem_cons_self

/-- A part releases everything while it lasts. -/
theorem Part.Authored.release_lt {part : Part} (authored : part.Authored) :
    ∀ entry ∈ part.releases, entry.1 < part.pulses := by
  intro entry member
  obtain ⟨header, bpm, slot, lines, read⟩ := authored.exists_lines
  obtain ⟨_, _, _, _, _, _, _, ended, _⟩ := (Part.mem_releases_iff read).mp member
  obtain ⟨_, _, _, _, within⟩ := releasePulse?_eq_some_iff.mp ended
  exact within

/-! ### Pulse by pulse -/

namespace Schedule

/-- Whatever is due before a bound is due at one of the pulses before it. -/
theorem flatMap_due_perm {schedule : Schedule} {bound : Nat}
    (within : ∀ entry ∈ schedule, entry.1 < bound) :
    ((List.range bound).flatMap schedule.due).Perm (schedule.map Prod.snd) := by
  induction schedule with
  | nil => exact .of_eq (List.flatMap_eq_nil_iff.mpr fun _ _ => rfl)
  | cons entry rest inductionHypothesis =>
    obtain ⟨here, behind⟩ := List.forall_mem_cons.mp within
    have split : Schedule.due (entry :: rest) = fun pulse =>
        (if pulse = entry.1 then [entry.2] else []) ++ Schedule.due rest pulse := by
      funext pulse
      rw [← List.singleton_append, due_append, due_singleton]
      simp only [eq_comm]
    have first := Part.flatMap_range_ite bound entry.1 fun _ => [entry.2]
    rw [if_pos here] at first
    rw [split]
    refine (List.flatMap_append_perm _ _ _).symm.trans ?_
    rw [first]
    exact .cons entry.2 (inductionHypothesis behind)

/-- Nothing is due at a bound of all entries, or behind it. -/
theorem due_eq_nil {schedule : Schedule} {bound pulse : Nat}
    (within : ∀ entry ∈ schedule, entry.1 < bound) (beyond : bound ≤ pulse) :
    schedule.due pulse = [] := by
  refine List.map_eq_nil_iff.mpr (List.filter_eq_nil_iff.mpr fun entry member same => ?_)
  exact absurd (within entry member) (Nat.not_lt.mpr (eq_of_beq same ▸ beyond))

/-- The releases of some parts, one part behind the other. -/
def ofParts (parts : List Part) : Schedule := parts.flatMap Part.releases

theorem due_ofParts (parts : List Part) (pulse : Nat) :
    (ofParts parts).due pulse = parts.flatMap fun part => part.releases.due pulse := by
  rw [due, ofParts, List.filter_flatMap, List.map_flatMap]
  rfl

end Schedule

/-! ### The pacer of a stage -/

theorem greatest_eq_max? (numbers : List Nat) : greatest numbers = numbers.max?.getD 0 := by
  induction numbers with
  | nil => rfl
  | cons number rest inductionHypothesis =>
    rw [greatest, List.foldr_cons, ← greatest, inductionHypothesis, List.max?_cons]
    cases rest.max? with
    | none => exact Nat.max_zero number
    | some greater => rfl

/-- Whether the pacer of a stage sends the releases of some parts. It has one pulse a step and is as
long as the longest part. At each pulse it starts no note and releases what the parts release there,
in their order. No part has a release behind its own last pulse, so the table of all their releases
has nothing behind the last pulse of the pacer: what the pacer sends are the releases of all parts,
none of them lost and none sent twice. -/
structure Stage.SendsReleasesOf (stage : Stage Playable) (parts : List Part) : Prop where
  division : stage.pacer.division.pulses = 1
  length : stage.pacer.length = (parts.map Part.pulses).max?.getD 0
  cues : ∀ pulse < stage.pacer.length, stage.pacer.cues[pulse]? =
    some ⟨parts.flatMap fun part => part.releases.due pulse, []⟩
  within : ∀ part ∈ parts, part.pulses ≤ stage.pacer.length ∧
    ∀ entry ∈ part.releases, entry.1 < part.pulses
  table : ∀ pulse : Nat, (Schedule.ofParts parts).calendar[pulse]? =
    Calendar.filled? ((stage.pacer.cues[pulse]?.map Cue.releases).getD [])
  sent : (stage.pacer.cues.flatMap Cue.releases).Perm
    (parts.flatMap fun part => part.releases.map Prod.snd)
  count : (stage.pacer.cues.map fun cue => cue.releases.length).sum =
    (parts.map fun part => part.releases.length).sum

/-- The pacer of some voices sends the releases of all parts among them. -/
theorem Stage.ofVoices_sendsReleasesOf {voices : List Playable}
    (loaded : ∀ part ∈ Stage.parts voices, part.Loaded) :
    (Stage.ofVoices voices).SendsReleasesOf (Stage.parts voices) := by
  have paced : (Stage.ofVoices voices).pacer.cues =
      (List.range (Stage.ofVoices voices).pacer.length).map fun pulse =>
        ⟨(Schedule.ofParts (Stage.parts voices)).due pulse, []⟩ := by
    simp [Stage.ofVoices, Part.pacer, Part.length, Schedule.due_ofParts]
  have within : ∀ part ∈ Stage.parts voices, part.pulses ≤ (Stage.ofVoices voices).pacer.length ∧
      ∀ entry ∈ part.releases, entry.1 < part.pulses := fun part voice =>
    ⟨(Stage.Expanded.sounding voices).pulses_le voice, (loaded part voice).authored.release_lt⟩
  have allWithin : ∀ entry ∈ Schedule.ofParts (Stage.parts voices),
      entry.1 < (Stage.ofVoices voices).pacer.length := by
    intro entry member
    obtain ⟨part, voice, released⟩ := List.mem_flatMap.mp member
    exact Nat.lt_of_lt_of_le ((within part voice).2 entry released) (within part voice).1
  have sent : ((Stage.ofVoices voices).pacer.cues.flatMap Cue.releases).Perm
      ((Stage.parts voices).flatMap fun part => part.releases.map Prod.snd) := by
    rw [paced, List.flatMap_map, ← List.map_flatMap]
    exact Schedule.flatMap_due_perm allWithin
  refine ⟨rfl, ?length, fun pulse before => ?cues, within, fun pulse => ?table, sent, ?count⟩
  case length =>
    rw [← greatest_eq_max?]
    exact Part.pacer_length _ _
  case cues => simp [paced, before, Schedule.due_ofParts]
  case table =>
    rw [Schedule.getElem?_calendar, paced]
    by_cases before : pulse < (Stage.ofVoices voices).pacer.length
    · simp [before]
    · rw [Schedule.due_eq_nil allWithin (Nat.not_lt.mp before)]
      simp [before]
  case count => simpa [List.length_flatMap] using sent.length_eq

/-- Two parts of different lengths with releases at a common pulse, and an arrangement. -/
def Sequence.pairSample : String :=
  "```beef.part name:short\nc5:1\n```\n" ++
  "```beef.part name:long div:8th\ne5:1\ng5:1\na5\nb5\n```\n" ++
  "```beef.arrangement name:pair\nshort long\n```\n"

/-- All playables of the sample sound together, and the short part once more. -/
theorem Stage.ofVoices_sendsReleasesOf_pairSample :
    ∃ voices : List Playable, voices.length = 4 ∧
      (Stage.ofVoices voices).SendsReleasesOf (Stage.parts voices) ∧
      (Stage.ofVoices voices).pacer.length = 48 ∧
      (Stage.ofVoices voices).pacer.cues[23]? =
        some ⟨[.noteOff 0 60, .noteOff 0 67, .noteOff 0 60], []⟩ := by
  let voices (sequence : Sequence) : List Playable :=
    sequence.playables ++ sequence.playables.take 1
  obtain ⟨sequence, done, found⟩ := Sequence.exists_load_eq_ok Sequence.pairSample
    (show ((Sequence.load Sequence.pairSample).toOption.any fun sequence =>
      decide ((voices sequence).length = 4 ∧
        (Stage.ofVoices (voices sequence)).pacer.length = 48 ∧
        (Stage.ofVoices (voices sequence)).pacer.cues[23]? =
          some ⟨[.noteOff 0 60, .noteOff 0 67, .noteOff 0 60], []⟩)) = true by decide +kernel)
  obtain ⟨four, length, cue⟩ := of_decide_eq_true found
  have loaded : ∀ part ∈ Stage.parts (voices sequence), part.Loaded := by
    intro part voice
    refine ⟨_, sequence, done, Stage.mem_parts.mpr ?_⟩
    rcases List.mem_append.mp (Stage.mem_parts.mp voice) with member | again
    · exact member
    · exact List.mem_of_mem_take again
  exact ⟨_, four, Stage.ofVoices_sendsReleasesOf loaded, length, cue⟩

end StepSequencer
