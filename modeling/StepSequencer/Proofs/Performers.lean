/-
This file follows one performer through a stage. At a port where nobody waits or breaks, a performer
is told apart only by the number of steps that it has started. That number has a closed form: the
ticks of a division lie at the multiples of its pulses, so from any count the first one comes after
a wait, and the others follow at equal distances. The wait is shorter than one step, which is why a
part of so many steps always fits into so many steps' worth of pulses, wherever it starts.
-/

import Mathlib.Algebra.Order.Group.Nat
import Mathlib.Data.List.Basic
import StepSequencer.Playback.Player
import StepSequencer.Proofs.Stages

namespace StepSequencer

/-! ### Ports at which nobody waits or breaks -/

/-- A port that holds nobody back and breaks nobody. It may refuse messages. -/
structure Port.Open (port : Port) : Prop where
  free : port.held = false
  sound : ∀ message, port.reply message ≠ .broken

theorem Port.free_open : Port.free.Open where
  free := rfl
  sound message := by simp [Port.reply, Port.free, Port.startsWithAny]

theorem Port.Open.deliver_broken {port : Port} (opened : port.Open) (messages : List Message) :
    (port.deliver messages).broken = none := by
  induction messages with
  | nil => rfl
  | cons message rest inductionHypothesis =>
    rw [Port.deliver]
    split
    next broke => exact absurd broke (opened.sound message)
    next => exact inductionHypothesis
    next => exact inductionHypothesis

def Sound.isMark : Sound → Bool
  | .step _ _ => true
  | _ => false

/-- What the senders have made of their messages, without the marks of steps. -/
def deliveries (sounds : List Sound) : List Sound := sounds.filter fun sound => !sound.isMark

@[simp]
theorem deliveries_append (sounds behind : List Sound) :
    deliveries (sounds ++ behind) = deliveries sounds ++ deliveries behind :=
  List.filter_append _ _

@[simp]
theorem deliveries_flatMap {Sender : Type} (senders : List Sender) (sounds : Sender → List Sound) :
    deliveries (senders.flatMap sounds) =
      senders.flatMap fun sender => deliveries (sounds sender) :=
  List.filter_flatMap

@[simp]
theorem deliveries_stepSound (slot : Option Nat) (index : Nat) :
    deliveries (stepSound slot index) = [] := by
  cases slot <;> rfl

@[simp]
theorem deliveries_sounds (delivery : Delivery) : deliveries delivery.sounds = delivery.sounds := by
  rw [deliveries, List.filter_eq_self]
  intro sound member
  rcases List.mem_append.mp member with taken | refused
  · split at taken
    · cases taken
    · rw [List.mem_singleton.mp taken]
      rfl
  · obtain ⟨message, _, rfl⟩ := List.mem_map.mp refused
    rfl

/-! ### The ticks of a division -/

namespace Division

/-- The pulses from a count to the next tick: how far the count is from a multiple. -/
def wait (division : Division) (count : Nat) : Nat :=
  (division.pulses - count % division.pulses) % division.pulses

def ticks (division : Division) (count elapsed : Nat) : Nat :=
  (elapsed + (division.pulses - 1 - division.wait count)) / division.pulses

theorem wait_lt (division : Division) (count : Nat) : division.wait count < division.pulses :=
  Nat.mod_lt _ division.pulses_pos

/-- The count reaches a multiple at the end of the wait. -/
theorem dvd_add_wait (division : Division) (count : Nat) :
    division.pulses ∣ count + division.wait count := by
  have positive := division.pulses_pos
  rw [wait, Nat.dvd_iff_mod_eq_zero, Nat.add_mod, Nat.mod_mod]
  have below := Nat.mod_lt count positive
  rcases Nat.eq_zero_or_pos (count % division.pulses) with zero | above
  · rw [zero, Nat.sub_zero, Nat.mod_self, Nat.add_zero, Nat.zero_mod]
  · have rest : division.pulses - count % division.pulses < division.pulses := by omega
    rw [Nat.mod_eq_of_lt rest, Nat.add_sub_cancel' below.le, Nat.mod_self]

theorem wait_eq_zero_iff (division : Division) (count : Nat) :
    division.wait count = 0 ↔ division.pulses ∣ count := by
  have reached := division.dvd_add_wait count
  constructor
  · intro none
    rwa [none] at reached
  · intro divides
    exact Nat.eq_zero_of_dvd_of_lt ((Nat.dvd_add_right divides).mp reached) (division.wait_lt count)

/-- A pulse is a tick when it comes a multiple of the division behind the wait. -/
theorem dvd_iff_exists_step (division : Division) (count elapsed : Nat) :
    division.pulses ∣ count + elapsed ↔
      ∃ step, elapsed = division.wait count + step * division.pulses := by
  have reached := division.dvd_add_wait count
  have short := division.wait_lt count
  constructor
  · intro divides
    have notBefore : division.wait count ≤ elapsed := by
      by_contra early
      have gap : division.pulses ∣ division.wait count - elapsed := by
        have := Nat.dvd_sub reached divides
        rwa [Nat.add_sub_add_left] at this
      have := Nat.le_of_dvd (by omega) gap
      omega
    have := Nat.dvd_sub divides reached
    rw [Nat.add_sub_add_left] at this
    obtain ⟨step, behind⟩ := this
    exact ⟨step, by rw [Nat.mul_comm]; omega⟩
  · rintro ⟨step, rfl⟩
    rw [← Nat.add_assoc]
    exact Nat.dvd_add reached (Nat.dvd_mul_left _ _)

theorem ticks_zero (division : Division) (count : Nat) : division.ticks count 0 = 0 := by
  have positive := division.pulses_pos
  rw [ticks]
  exact Nat.div_eq_of_lt (by omega)

theorem ticks_succ (division : Division) (count elapsed : Nat) :
    division.ticks count (elapsed + 1) =
      division.ticks count elapsed + if division.pulses ∣ count + elapsed then 1 else 0 := by
  have short := division.wait_lt count
  have moved : division.pulses ∣ elapsed + (division.pulses - 1 - division.wait count) + 1 ↔
      division.pulses ∣ count + elapsed := by
    have sum : elapsed + (division.pulses - 1 - division.wait count) + 1 +
        (count + division.wait count) = count + elapsed + division.pulses := by omega
    rw [← Nat.dvd_add_left (division.dvd_add_wait count), sum, Nat.dvd_add_self_right]
  rw [ticks, ticks, Nat.add_right_comm, Nat.succ_div]
  simp only [moved]

theorem ticks_wait_add (division : Division) (count step : Nat) :
    division.ticks count (division.wait count + step * division.pulses) = step := by
  have short := division.wait_lt count
  have sum : division.wait count + step * division.pulses +
      (division.pulses - 1 - division.wait count) =
        division.pulses - 1 + step * division.pulses := by omega
  rw [ticks, sum, Nat.add_mul_div_right _ _ division.pulses_pos,
    Nat.div_eq_of_lt (by omega), Nat.zero_add]

/-- So many steps' worth of pulses hold so many ticks, from whatever count they start. -/
theorem ticks_mul (division : Division) (count steps : Nat) :
    division.ticks count (steps * division.pulses) = steps := by
  have positive := division.pulses_pos
  rw [ticks, Nat.add_comm, Nat.add_mul_div_right _ _ positive, Nat.div_eq_of_lt (by omega),
    Nat.zero_add]

theorem ticks_mono (division : Division) (count : Nat) {fewer more : Nat} (le : fewer ≤ more) :
    division.ticks count fewer ≤ division.ticks count more :=
  Nat.div_le_div_right (Nat.add_le_add_right le _)

@[simp]
theorem wait_pulse (count : Nat) : Division.pulse.wait count = 0 := by
  simp [wait, Division.pulses, Nat.mod_one]

@[simp]
theorem ticks_pulse (count elapsed : Nat) : Division.pulse.ticks count elapsed = elapsed := by
  simp [ticks, Division.pulses]

end Division

/-! ### What a part has due at a pulse -/

namespace Part

def stepMessages (part : Part) (step : Nat) : List Message :=
  (part.cues.getD step Cue.silent).messages

/-- The messages that are due at a pulse when the part may start at another one: those of the step
that comes as many divisions behind the wait as its number says. -/
def due (part : Part) (start pulse : Nat) : List Message :=
  (List.range part.length).flatMap fun step =>
    if pulse = start + part.division.wait start + step * part.division.pulses then
      part.stepMessages step
    else []

/-- The steps that have started after so many pulses from a count on. -/
def startedBy (part : Part) (count elapsed : Nat) : Nat :=
  min part.length (part.division.ticks count elapsed)

theorem flatMap_range_ite {Value : Type} (steps meant : Nat) (values : Nat → List Value) :
    ((List.range steps).flatMap fun step => if step = meant then values step else []) =
      if meant < steps then values meant else [] := by
  induction steps with
  | zero => rfl
  | succ steps inductionHypothesis =>
    rw [List.range_succ, List.flatMap_append, inductionHypothesis, List.flatMap_singleton]
    rcases Nat.lt_trichotomy meant steps with before | same | behind
    · rw [if_pos before, if_neg (by omega), if_pos (by omega), List.append_nil]
    · subst same
      rw [if_neg (by omega), if_pos rfl, if_pos (by omega), List.nil_append]
    · rw [if_neg (by omega), if_neg (by omega), if_neg (by omega), List.append_nil]

/-- At its own time a step is due, if the part has it. -/
theorem due_step (part : Part) (start step : Nat) :
    part.due start (start + part.division.wait start + step * part.division.pulses) =
      if step < part.length then part.stepMessages step else [] := by
  rw [← flatMap_range_ite, due]
  refine congrArg (List.flatMap · _) (funext fun other => ?_)
  have same : start + part.division.wait start + step * part.division.pulses =
      start + part.division.wait start + other * part.division.pulses ↔ other = step := by
    rw [Nat.add_left_cancel_iff, Nat.mul_left_inj part.division.pulses_pos.ne', eq_comm]
  simp only [same]

theorem due_of_not_dvd (part : Part) (start elapsed : Nat)
    (between : ¬ part.division.pulses ∣ start + elapsed) :
    part.due start (start + elapsed) = [] := by
  rw [due, List.flatMap_eq_nil_iff]
  intro step _
  rw [if_neg]
  intro time
  exact between ((part.division.dvd_iff_exists_step start elapsed).mpr ⟨step, by omega⟩)

theorem startedBy_zero (part : Part) (count : Nat) : part.startedBy count 0 = 0 := by
  rw [startedBy, part.division.ticks_zero, Nat.min_zero]

/-- A part has started all its steps when as many pulses have passed as its steps are worth. -/
theorem startedBy_eq_length (part : Part) (count : Nat) {elapsed : Nat}
    (enough : part.pulses ≤ elapsed) : part.startedBy count elapsed = part.length := by
  have ticked := part.division.ticks_mono count enough
  rw [pulses, part.division.ticks_mul] at ticked
  exact Nat.min_eq_left ticked

end Part

/-! ### The life of a performer -/

namespace Performer

/-- A performer that has started so many steps and sent them all. -/
def reached (part : Part) (started : Nat) : Performer := ⟨part, started, false, [], none⟩

theorem ofPart_eq (part : Part) (count : Nat) :
    ofPart part = reached part (part.startedBy count 0) := by
  rw [part.startedBy_zero]
  rfl

theorem exhausted_reached (part : Part) (started : Nat) :
    (reached part started).exhausted = decide (part.length ≤ started) := rfl

theorem finished_reached (part : Part) (started : Nat) :
    (reached part started).finished false = decide (part.length ≤ started) :=
  (Bool.true_and _).trans (exhausted_reached part started)

theorem broken_reached (part : Part) (started : Nat) : (reached part started).broken = none := rfl

/-- A pulse at an open port: on a tick the next step starts, if there is one. -/
theorem pulse_reached {port : Port} (opened : port.Open) (part : Part) (count started : Nat) :
    (reached part started).pulse port count =
      if part.division.pulses ∣ count ∧ started < part.length then
        (reached part (started + 1),
          stepSound part.slot started ++ (port.deliver (part.stepMessages started)).sounds)
      else (reached part started, []) := by
  have plays : ((reached part started).broken.isSome || !(reached part started).onTick count ||
      (reached part started).exhausted) = true ↔
        ¬ (part.division.pulses ∣ count ∧ started < part.length) := by
    rw [exhausted_reached]
    simp [reached, onTick, Nat.dvd_iff_mod_eq_zero, imp_iff_not_or]
  rw [pulse]
  by_cases tick : part.division.pulses ∣ count ∧ started < part.length
  · rw [if_neg (fun idle => plays.mp idle tick), if_pos tick, startStep, opened.free, startFree,
      opened.deliver_broken]
    rfl
  · rw [if_pos (plays.mpr tick), if_neg tick]

theorem pulse_startedBy {port : Port} (opened : port.Open) (part : Part) (count elapsed : Nat) :
    ((reached part (part.startedBy count elapsed)).pulse port (count + elapsed)).1 =
      reached part (part.startedBy count (elapsed + 1)) := by
  rw [pulse_reached opened, Part.startedBy, Part.startedBy, part.division.ticks_succ]
  by_cases tick : part.division.pulses ∣ count + elapsed
  · rw [if_pos tick]
    split
    · exact congrArg (reached part) (by omega)
    · exact congrArg (reached part) (by omega)
  · rw [if_neg tick, if_neg (fun both => tick both.1), Nat.add_zero]

/-- What a performer sends at a pulse: what its part has due. -/
theorem deliveries_pulse {port : Port} (opened : port.Open) (part : Part) (count elapsed : Nat) :
    deliveries ((reached part (part.startedBy count elapsed)).pulse port (count + elapsed)).2 =
      (port.deliver (part.due count (count + elapsed))).sounds := by
  rw [pulse_reached opened]
  by_cases tick : part.division.pulses ∣ count + elapsed
  · obtain ⟨step, time⟩ := (part.division.dvd_iff_exists_step count elapsed).mp tick
    have started : part.startedBy count elapsed = min part.length step := by
      rw [Part.startedBy, time, part.division.ticks_wait_add]
    have due := part.due_step count step
    rw [Nat.add_assoc, ← time] at due
    rw [started, due]
    by_cases left : step < part.length
    · rw [Nat.min_eq_right left.le, if_pos ⟨tick, left⟩, if_pos left, deliveries_append,
        deliveries_stepSound, deliveries_sounds, List.nil_append]
    · rw [if_neg (by omega), if_neg left]
      rfl
  · rw [if_neg (fun both => tick both.1), part.due_of_not_dvd count elapsed tick]
    rfl

end Performer

/-! ### The performers of a stage -/

namespace Stage

/-- Everybody who performs a stage: its parts in order, then the pacer. -/
def cast (stage : Stage Playable) : List Part := parts stage.voices ++ [stage.pacer]

/-- The performers of a stage that was entered at a count, so many pulses later. -/
def performersAt (stage : Stage Playable) (count elapsed : Nat) : List Performer :=
  stage.cast.map fun part => Performer.reached part (part.startedBy count elapsed)

theorem performers_eq (stage : Stage Playable) (count : Nat) :
    stage.performers = stage.performersAt count 0 :=
  List.map_congr_left fun part _ => Performer.ofPart_eq part count

theorem broken_performersAt (stage : Stage Playable) (count elapsed : Nat) :
    (stage.performersAt count elapsed).findSome? Performer.broken = none := by
  rw [List.findSome?_eq_none_iff]
  intro performer member
  obtain ⟨part, _, rfl⟩ := List.mem_map.mp member
  exact Performer.broken_reached _ _

theorem pulse_performersAt {port : Port} (opened : port.Open) (stage : Stage Playable)
    (count elapsed : Nat) :
    ((stage.performersAt count elapsed).map (Performer.pulse port (count + elapsed))).map Prod.fst =
      stage.performersAt count (elapsed + 1) := by
  rw [performersAt, List.map_map, List.map_map, performersAt]
  exact List.map_congr_left fun part _ => Performer.pulse_startedBy opened part count elapsed

theorem deliveries_performersAt {port : Port} (opened : port.Open) (stage : Stage Playable)
    (count elapsed : Nat) :
    deliveries (((stage.performersAt count elapsed).map
        (Performer.pulse port (count + elapsed))).flatMap Prod.snd) =
      stage.cast.flatMap fun part =>
        (port.deliver (part.due count (count + elapsed))).sounds := by
  rw [performersAt, List.map_map, List.flatMap_map, deliveries_flatMap]
  exact List.flatMap_congr fun part _ => Performer.deliveries_pulse opened part count elapsed

/-- No part outlasts its pacer, whatever the count at which the stage is entered: the performers
are finished exactly when the pacer is. -/
theorem Expanded.finished_performersAt {stage : Stage Playable} (expanded : stage.Expanded)
    (count elapsed : Nat) :
    (stage.performersAt count elapsed).all (Performer.finished false) = true ↔
      stage.pacer.length ≤ elapsed := by
  have pacing : stage.pacer.startedBy count elapsed = min stage.pacer.length elapsed := by
    rw [Part.startedBy, expanded.pacer_division, Division.ticks_pulse]
  simp only [performersAt, cast, List.all_map, List.all_append, List.all_cons, List.all_nil,
    Function.comp_def, Performer.finished_reached, Bool.and_eq_true, Bool.and_true,
    List.all_eq_true, decide_eq_true_eq, pacing]
  constructor
  · rintro ⟨_, paced⟩
    omega
  · intro enough
    refine ⟨fun part member => ?_, by omega⟩
    rw [part.startedBy_eq_length count (Nat.le_trans (expanded.pulses_le member) enough)]

end Stage

end StepSequencer
