/-
This file says what counts for the time of an arrangement. It is the sum of the times of the steps,
and a step takes as long as its longest voice. A silent copy of a line has no voices left, so that
it counts for nothing, however long it goes on when it is played: the time of an arrangement is that
of the copies that sound. It is the time of all copies exactly if no line with a silent copy has a
voice that takes any time.
-/

import StepSequencer.Proofs.Copies
import StepSequencer.Proofs.Loading
import Mathlib.Algebra.Order.BigOperators.Group.List
import Mathlib.Algebra.Order.Ring.Nat

namespace StepSequencer

/-! ### Sums of spans -/

namespace Span

variable {Fault : Type} {spans : List Span} {span start total : Span}

theorem check_eq_ok_iff :
    (span.check : Except (Failure Fault) Span) = .ok total ↔
      total = span ∧ span.nanoseconds < limit := by
  unfold check
  split
  next below => exact ⟨fun same => ⟨(Except.ok.inj same).symm, below⟩, fun same => same.1 ▸ rfl⟩
  next beyond => exact ⟨nofun, fun same => absurd same.2 beyond⟩

/-- Spans are added one after another, and every sum on the way is below the limit if the last one
is. -/
theorem foldlM_add_eq_ok_iff (below : start.nanoseconds < limit) :
    (spans.foldlM add start : Except (Failure Fault) Span) = .ok total ↔
      total.nanoseconds = start.nanoseconds + (spans.map nanoseconds).sum ∧
        total.nanoseconds < limit := by
  induction spans generalizing start with
  | nil =>
    constructor
    · intro same
      obtain rfl : start = total := Except.ok.inj same
      exact ⟨rfl, below⟩
    · rintro ⟨same, _⟩
      exact congrArg (Except.ok ∘ Span.mk) same.symm
  | cons span rest inductionHypothesis =>
    rw [List.foldlM_cons, bind_eq_ok_iff, List.map_cons, List.sum_cons, ← Nat.add_assoc]
    constructor
    · rintro ⟨next, first, behind⟩
      obtain ⟨rfl, within⟩ := check_eq_ok_iff.mp first
      exact (inductionHypothesis within).mp behind
    · rintro ⟨same, within⟩
      have first : start.nanoseconds + span.nanoseconds < limit := by omega
      exact ⟨⟨start.nanoseconds + span.nanoseconds⟩, check_eq_ok_iff.mpr ⟨rfl, first⟩,
        (inductionHypothesis first).mpr ⟨same, within⟩⟩

theorem sum_eq_ok_iff :
    (sum spans : Except (Failure Fault) Span) = .ok total ↔
      total.nanoseconds = (spans.map nanoseconds).sum ∧ total.nanoseconds < limit := by
  have none : zero.nanoseconds < limit := by decide
  rw [sum, foldlM_add_eq_ok_iff none, zero, Nat.zero_add]

theorem nanoseconds_foldl_max :
    (spans.foldl Span.max start).nanoseconds =
      Nat.max start.nanoseconds (greatest (spans.map nanoseconds)) := by
  induction spans generalizing start with
  | nil => exact (Nat.max_zero _).symm
  | cons span rest inductionHypothesis =>
    rw [List.foldl_cons, inductionHypothesis]
    exact Nat.max_assoc _ _ _

theorem nanoseconds_longest : (longest spans).nanoseconds = greatest (spans.map nanoseconds) := by
  rw [longest, nanoseconds_foldl_max]
  exact Nat.zero_max _

end Span

/-! ### Copies that sound -/

namespace Repeat

/-- The number of copies that sound. -/
def soundingCopies (repetition : Repeat) : Nat :=
  (List.range repetition.times).countP fun index => repetition.sounds (index + 1)

/-- Whether there is a copy that does not sound. -/
def HasSilentCopy (repetition : Repeat) : Prop :=
  ∃ copy, 0 < copy ∧ copy ≤ repetition.times ∧ repetition.sounds copy = false

theorem soundingCopies_le (repetition : Repeat) : repetition.soundingCopies ≤ repetition.times := by
  rw [soundingCopies]
  nth_rewrite 2 [← List.length_range (n := repetition.times)]
  exact List.countP_le_length

theorem soundingCopies_eq_times_iff (repetition : Repeat) :
    repetition.soundingCopies = repetition.times ↔ ¬ repetition.HasSilentCopy := by
  rw [soundingCopies]
  nth_rewrite 2 [← List.length_range (n := repetition.times)]
  rw [List.countP_eq_length]
  constructor
  · rintro sounding ⟨copy, positive, upTo, silent⟩
    have sounds := sounding (copy - 1) (List.mem_range.mpr (by omega))
    rw [Nat.sub_add_cancel positive, silent] at sounds
    cases sounds
  · intro none index member
    by_contra silent
    exact none ⟨index + 1, index.succ_pos, List.mem_range.mp member, Bool.eq_false_iff.mpr silent⟩

/-- Where a silent copy weighs nothing, a line weighs as much as its copies that sound. -/
theorem sum_map_contents {Step : Type} (weight : Step → Nat) {sounding resting : Step}
    (silent : weight resting = 0) (repetition : Repeat) :
    ((repetition.contents sounding resting).map weight).sum =
      repetition.soundingCopies * weight sounding := by
  rw [contents, soundingCopies, List.map_map]
  induction List.range repetition.times with
  | nil => exact (Nat.zero_mul _).symm
  | cons index rest inductionHypothesis =>
    rw [List.map_cons, List.sum_cons, inductionHypothesis, List.countP_cons, Nat.add_mul,
      Nat.add_comm]
    by_cases sounds : repetition.sounds (index + 1) <;> simp [sounds, silent]

end Repeat

/-! ### The time of an arrangement -/

/-- The nanoseconds of the longest of some voices. -/
def longestTime (voices : List Playable) : Nat :=
  greatest (voices.map fun voice => voice.span.nanoseconds)

theorem greatest_eq_zero_iff {numbers : List Nat} :
    greatest numbers = 0 ↔ ∀ number ∈ numbers, number = 0 := by
  constructor
  · intro none number member
    exact Nat.le_zero.mp (none ▸ le_greatest member)
  · intro none
    induction numbers with
    | nil => rfl
    | cons first rest inductionHypothesis =>
      obtain ⟨rfl, behind⟩ := List.forall_mem_cons.mp none
      exact (Nat.zero_max _).trans (inductionHypothesis behind)

/-- The longest voice takes no time if no voice does. -/
theorem longestTime_eq_zero_iff {voices : List Playable} :
    longestTime voices = 0 ↔ ∀ voice ∈ voices, voice.span = Span.zero := by
  rw [longestTime, greatest_eq_zero_iff, List.forall_mem_map]
  exact forall₂_congr fun voice _ => ⟨fun none => congrArg Span.mk none, congrArg Span.nanoseconds⟩

theorem Stage.nanoseconds_span_ofVoices (voices : List Playable) :
    (Stage.ofVoices voices).span.nanoseconds = longestTime voices := by
  rw [span, Span.nanoseconds_longest, List.map_map]
  rfl

/-- The stages of some lines take the time of the copies that sound. -/
theorem Line.sum_nanoseconds_stages (lines : List (Line (List Playable))) :
    (((Line.stepContents Stage.ofVoices (fun voices => (Stage.ofVoices voices).rest) lines).map
        Stage.span).map Span.nanoseconds).sum =
      (lines.map fun line => line.repetition.soundingCopies * longestTime line.content).sum := by
  induction lines with
  | nil => rfl
  | cons line rest inductionHypothesis =>
    have silent : (Span.nanoseconds ∘ Stage.span) (Stage.ofVoices line.content).rest = 0 := rfl
    rw [List.map_map] at inductionHypothesis ⊢
    rw [stepContents_cons, List.map_append, List.sum_append, inductionHypothesis, List.map_cons,
      List.sum_cons, Repeat.sum_map_contents _ silent, Function.comp_apply,
      Stage.nanoseconds_span_ofVoices]

/-- Two sums of which one has no larger terms are equal if all terms are. -/
theorem sum_map_eq_iff_of_le {Item : Type} {fewer more : Item → Nat} {items : List Item}
    (bound : ∀ item ∈ items, fewer item ≤ more item) :
    (items.map fewer).sum = (items.map more).sum ↔ ∀ item ∈ items, fewer item = more item := by
  induction items with
  | nil => exact ⟨fun _ => nofun, fun _ => rfl⟩
  | cons first rest inductionHypothesis =>
    obtain ⟨here, behind⟩ := List.forall_mem_cons.mp bound
    have below : (rest.map fewer).sum ≤ (rest.map more).sum := List.sum_le_sum behind
    rw [List.map_cons, List.map_cons, List.sum_cons, List.sum_cons, List.forall_mem_cons,
      ← inductionHypothesis behind]
    omega

namespace Arrangement

variable (Fault : Type) (name group : String) (warnings : List Warning) (slot : Option Nat)
  (lines : List (Line (List Playable)))

/-- Building an arrangement adds up the time of the copies that sound, and nothing else fails. -/
theorem ofLines_span_eq_ok_iff (time : Span) :
    (ofLines name group warnings slot lines : Except (Failure Fault) _).map Arrangement.span =
        .ok time ↔
      time.nanoseconds =
          (lines.map fun line => line.repetition.soundingCopies * longestTime line.content).sum ∧
        time.nanoseconds < Span.limit := by
  rw [← Line.sum_nanoseconds_stages, ← @Span.sum_eq_ok_iff Fault, ofLines]
  cases (Span.sum _ : Except (Failure Fault) Span) with
  | error failure => exact ⟨nofun, nofun⟩
  | ok span => exact Iff.rfl

/-- An arrangement can be built exactly if the time of the copies that sound is below the limit. -/
theorem exists_ofLines_eq_ok_iff :
    (∃ arrangement, (ofLines name group warnings slot lines : Except (Failure Fault) _) =
        .ok arrangement) ↔
      (lines.map fun line => line.repetition.soundingCopies * longestTime line.content).sum <
        Span.limit := by
  constructor
  · rintro ⟨arrangement, built⟩
    obtain ⟨counted, below⟩ :=
      (ofLines_span_eq_ok_iff Fault name group warnings slot lines arrangement.span).mp
        (congrArg (Except.map _) built)
    rwa [counted] at below
  · intro below
    have timed :=
      (ofLines_span_eq_ok_iff Fault name group warnings slot lines ⟨_⟩).mpr ⟨rfl, below⟩
    cases built : (ofLines name group warnings slot lines : Except (Failure Fault) _) with
    | error failure =>
      rw [built] at timed
      cases timed
    | ok arrangement => exact ⟨arrangement, rfl⟩

/-- The time of an arrangement is that of the copies that sound, and an arrangement can be built
exactly if this time is below the limit. It is the time of all copies of all lines exactly if no
line with a silent copy has a voice that takes any time. -/
theorem span_covers_rests_iff :
    ((∃ arrangement, (ofLines name group warnings slot lines : Except (Failure Fault) _) =
        .ok arrangement) ↔
      (lines.map fun line => line.repetition.soundingCopies * longestTime line.content).sum <
        Span.limit) ∧
    ∀ arrangement, (ofLines name group warnings slot lines : Except (Failure Fault) _) =
        .ok arrangement →
      arrangement.span.nanoseconds =
          (lines.map fun line => line.repetition.soundingCopies * longestTime line.content).sum ∧
        (arrangement.span.nanoseconds =
            (lines.map fun line => line.repetition.times * longestTime line.content).sum ↔
          ∀ line ∈ lines, line.repetition.HasSilentCopy →
            ∀ voice ∈ line.content, voice.span = Span.zero) := by
  constructor
  · exact exists_ofLines_eq_ok_iff Fault name group warnings slot lines
  · intro arrangement built
    obtain ⟨counted, _⟩ :=
      (ofLines_span_eq_ok_iff Fault name group warnings slot lines arrangement.span).mp
        (congrArg (Except.map _) built)
    refine ⟨counted, ?_⟩
    rw [counted, sum_map_eq_iff_of_le fun line _ =>
      Nat.mul_le_mul_right _ line.repetition.soundingCopies_le]
    refine forall₂_congr fun line _ => ?_
    rw [mul_eq_mul_right_iff, Repeat.soundingCopies_eq_times_iff, longestTime_eq_zero_iff]
    exact imp_iff_not_or.symm

/-- A line with a silent copy and one that sounds, and a line that plays once, each with a part of
half a second. Three copies take their time, but only two are counted. -/
theorem span_covers_rests_iff_halfSecond :
    ∃ (part : Part) (lines : List (Line (List Playable))) (arrangement : Arrangement Playable),
      Part.read ⟨"a", defaultName, 1, .fourth, []⟩ 120.0 none ["c5"] = .ok part ∧
      lines = [⟨"a *2%2", ⟨2, 2⟩, [.part part]⟩, ⟨"a", Repeat.once, [.part part]⟩] ∧
      (ofLines "song" defaultName [] none lines : Except (Failure SyntaxFault) _) =
        .ok arrangement ∧
      arrangement.span = ⟨1000000000⟩ ∧
      (lines.map fun line => line.repetition.times * longestTime line.content).sum = 1500000000 ∧
      ∃ line ∈ lines, line.repetition.HasSilentCopy ∧
        ∃ voice ∈ line.content, voice.span ≠ Span.zero := by
  have timed : (Part.read ⟨"a", defaultName, 1, .fourth, []⟩ 120.0 none ["c5"]).toOption.map
      (fun part => part.span) = some ⟨500000000⟩ := by decide +kernel
  obtain ⟨part, read, half⟩ := Option.map_eq_some_iff.mp timed
  let lines : List (Line (List Playable)) :=
    [⟨"a *2%2", ⟨2, 2⟩, [.part part]⟩, ⟨"a", Repeat.once, [.part part]⟩]
  have longest : longestTime [.part part] = 500000000 := by
    show Nat.max part.span.nanoseconds 0 = 500000000
    rw [half]
    rfl
  have counted : (lines.map fun line =>
      line.repetition.soundingCopies * longestTime line.content).sum = 1000000000 := by
    simp only [lines, List.map_cons, List.map_nil, longest]
    decide
  have authored : (lines.map fun line =>
      line.repetition.times * longestTime line.content).sum = 1500000000 := by
    simp only [lines, List.map_cons, List.map_nil, longest]
    decide
  obtain ⟨possible, covers⟩ := span_covers_rests_iff SyntaxFault "song" defaultName [] none lines
  obtain ⟨arrangement, built⟩ := possible.mpr (counted ▸ by decide)
  obtain ⟨said, whole⟩ := covers arrangement built
  refine ⟨part, lines, arrangement, toOption_eq_some_iff.mp read, rfl, built,
    congrArg Span.mk (said.trans counted), authored, ?_⟩
  have uncovered : ¬ arrangement.span.nanoseconds =
      (lines.map fun line => line.repetition.times * longestTime line.content).sum := by
    rw [said, counted, authored]
    decide
  rw [whole] at uncovered
  push Not at uncovered
  exact uncovered

end Arrangement

end StepSequencer
