/-
This file follows whole plays. A performance adds two things to the player of its arrangement: it
tells everybody to end when somebody broke, which at open ports never happens, and it begins another
pass when it loops. The passes lie behind each other like stages do, so a pulse of a play belongs to
one pass, one stage of it and one pulse of that stage, and this fixes the state of the play and
whatever is sent.
-/

import StepSequencer.Proofs.Walks

namespace StepSequencer

/-! ### Nobody breaks at an open port -/

namespace Player

theorem anyBroken?_eq_none_iff (players : List Player) :
    anyBroken? players = none ↔ ∀ player ∈ players, broken? player = none := by
  induction players with
  | nil => simp [anyBroken?]
  | cons player rest inductionHypothesis =>
    rw [anyBroken?, Option.or_eq_none_iff, inductionHypothesis, List.forall_mem_cons]

theorem broken?_pulse_runAt {ports : Nat → Port} (opened : ∀ pulse, (ports pulse).Open)
    (stage : Stage Playable) (slot : Option Nat) (index count : Nat)
    (later : List (Stage Playable)) (elapsed : Nat)
    (nested : ∀ player ∈ stage.nestedAt ports elapsed,
      broken? (player.pulse (ports elapsed)).1 = none) :
    broken? ((inStage (stage.runAt ports slot index count later elapsed)).pulse
      (ports elapsed)).1 = none := by
  rw [Stage.runAt, pulse, pulseAll_eq, broken?]
  rw [Stage.pulse_performersAt (opened elapsed), Stage.broken_performersAt, Option.none_or,
    Option.none_or, anyBroken?_eq_none_iff]
  intro heard member
  obtain ⟨player, inStage, rfl⟩ := List.mem_map.mp member
  exact nested player inStage

/-- An arrangement that is played from its start never breaks at a pulse. -/
theorem broken?_pulse_playedFor {ports : Nat → Port} {arrangement : Arrangement Playable}
    (formed : arrangement.Formed) (opened : ∀ pulse, (ports pulse).Open) {pulses : Nat}
    {player : Player} (played : playedFor ports arrangement pulses = .playing player) :
    broken? (player.pulse (ports pulses)).1 = none := by
  induction arrangement using Arrangement.nesting_induction generalizing ports pulses player with
  | step arrangement inductionHypothesis =>
    obtain ⟨before, stage, later, elapsed, split, within, rfl, rfl⟩ :=
      exists_stage_of_playing formed opened played
    have member : stage ∈ arrangement.stages := by simp [split]
    refine broken?_pulse_runAt (fun pulse => opened _) stage _ _ _ _ _ fun nested inStage => ?_
    obtain ⟨inner, voice, found⟩ := List.mem_filterMap.mp inStage
    exact inductionHypothesis stage member inner voice (formed.nested member voice)
      (fun pulse => opened _) (Progress.player?_eq_some_iff.mp found)

end Player

/-! ### From players to performances -/

/-- Gives a pulse to a play that goes on. -/
def Outcome.advance (port : Port) : Outcome → Outcome × List Sound
  | .ongoing performance => performance.pulse port
  | outcome => (outcome, [])

namespace Performance

/-- What playing an arrangement from the top has led to after so many pulses. -/
def playedFor (ports : Nat → Port) (arrangement : Arrangement Playable) (looping : Bool)
    (pulses : Nat) : Outcome :=
  after Outcome.advance ports (start arrangement looping).1 pulses

/-- What a play of an arrangement sends at a pulse, counted from 0: one entry for each sender that
has something to send, and one for each message that the port refuses. -/
def sentAt (ports : Nat → Port) (arrangement : Arrangement Playable) (looping : Bool)
    (pulse : Nat) : List Sound :=
  deliveries (soundsAt Outcome.advance ports (start arrangement looping).1 pulse)

/-- What the progress of the player of a pass means for the play. -/
def ofProgress (arrangement : Arrangement Playable) (looping : Bool) (passStart : Nat) :
    Progress → Outcome
  | .playing player => .ongoing ⟨arrangement, looping, passStart, player, false⟩
  | .finished count =>
    if looping && count != passStart then (beginPass arrangement true count).1 else .over
  | .broken message => .broken message

variable {ports : Nat → Port} {arrangement : Arrangement Playable}

theorem deliveries_beginPass (arrangement : Arrangement Playable) (looping : Bool) (count : Nat) :
    deliveries (beginPass arrangement looping count).2 = [] := by
  have silent := Player.deliveries_enterStages arrangement.slot 0 count arrangement.stages
  rw [beginPass]
  generalize Player.enterStages arrangement.slot 0 count arrangement.stages = entered at silent ⊢
  obtain ⟨progress, sounds⟩ := entered
  cases progress <;> exact silent

/-- A pulse of a play in which nobody breaks is a pulse of its player. -/
theorem advance_ongoing (port : Port) (looping : Bool) (passStart : Nat) (player : Player)
    (unbroken : Player.broken? (player.pulse port).1 = none) :
    (Outcome.advance port (.ongoing ⟨arrangement, looping, passStart, player, false⟩)).1 =
        ofProgress arrangement looping passStart (Progress.advance port (.playing player)).1 ∧
      deliveries
          (Outcome.advance port (.ongoing ⟨arrangement, looping, passStart, player, false⟩)).2 =
        deliveries (Progress.advance port (.playing player)).2 := by
  have settled : (Progress.advance port (.playing player)).1 =
      ((player.pulse port).1.settle false).1 := rfl
  have silent := Player.deliveries_settle false (player.pulse port).1
  rw [Player.deliveries_advance, settled]
  simp only [Outcome.advance, pulse, settle, unbroken, Option.isSome_none, Bool.or_self,
    Bool.false_eq_true, if_false, Bool.not_false, Bool.and_true]
  generalize (player.pulse port).1.settle false = moved at silent ⊢
  obtain ⟨progress, behind⟩ := moved
  cases progress with
  | playing player => exact ⟨rfl, by simp [silent]⟩
  | broken message => exact ⟨rfl, by simp [silent]⟩
  | finished count =>
    by_cases again : (looping && count != passStart) = true
    · simp [ofProgress, again, silent, deliveries_beginPass]
    · simp [ofProgress, again, silent]

/-! ### Passes -/

theorem broken?_pulse_stage (formed : arrangement.Formed) (opened : ∀ pulse, (ports pulse).Open)
    {stage : Stage Playable} (member : stage ∈ arrangement.stages) (slot : Option Nat)
    (index count : Nat) (later : List (Stage Playable)) (elapsed : Nat) :
    Player.broken? ((Player.inStage (stage.runAt ports slot index count later elapsed)).pulse
      (ports elapsed)).1 = none := by
  refine Player.broken?_pulse_runAt opened stage _ _ _ _ _ fun nested inStage => ?_
  obtain ⟨inner, voice, found⟩ := List.mem_filterMap.mp inStage
  exact Player.broken?_pulse_playedFor (formed.nested member voice) opened
    (Progress.player?_eq_some_iff.mp found)

/-- Where the player of a pass is: in the stage that begins when those before it are over. -/
theorem player_within (formed : arrangement.Formed) (opened : ∀ pulse, (ports pulse).Open)
    {before later : List (Stage Playable)} {stage : Stage Playable}
    (split : arrangement.stages = before ++ stage :: later) (count : Nat) {elapsed : Nat}
    (within : elapsed < Playable.stagePulses stage) :
    after Progress.advance ports (Player.enterStages arrangement.slot 0 count arrangement.stages).1
        (Playable.stagesPulses before + elapsed) =
      .playing (.inStage (stage.runAt (fun pulse => ports (Playable.stagesPulses before + pulse))
        arrangement.slot before.length (count + Playable.stagesPulses before) later elapsed)) := by
  rw [split, Player.after_enterStages_within opened before stage later
    (Player.timely formed opened fun _ own => split ▸ own) _ _ _ _ within, Nat.zero_add]

theorem player_total (formed : arrangement.Formed) (opened : ∀ pulse, (ports pulse).Open)
    (count : Nat) :
    after Progress.advance ports (Player.enterStages arrangement.slot 0 count arrangement.stages).1
        (Playable.arrangementPulses arrangement) =
      .finished (count + Playable.arrangementPulses arrangement) := by
  have whole := Player.after_enterStages_append opened arrangement.stages []
    (Player.timely formed opened fun _ own => own) arrangement.slot 0 count
  rw [List.append_nil, ← Playable.arrangementPulses_eq] at whole
  exact whole

/-- Until it is over, a pass is what its player makes of it. -/
theorem after_beginPass (formed : arrangement.Formed) (opened : ∀ pulse, (ports pulse).Open)
    (looping : Bool) (count : Nat) {elapsed : Nat}
    (positive : 0 < Playable.arrangementPulses arrangement)
    (within : elapsed ≤ Playable.arrangementPulses arrangement) :
    after Outcome.advance ports (beginPass arrangement looping count).1 elapsed =
      ofProgress arrangement looping count (after Progress.advance ports
        (Player.enterStages arrangement.slot 0 count arrangement.stages).1 elapsed) := by
  rw [Playable.arrangementPulses_eq] at positive within
  induction elapsed with
  | zero =>
    obtain ⟨before, stage, later, elapsed, split, inStage, time⟩ := Player.exists_stage_at positive
    have entered := player_within formed opened split count inStage
    rw [← time, after] at entered
    rw [after, after, beginPass]
    generalize Player.enterStages arrangement.slot 0 count arrangement.stages = result at entered ⊢
    obtain ⟨progress, sounds⟩ := result
    obtain rfl : progress = _ := entered
    rfl
  | succ elapsed inductionHypothesis =>
    obtain ⟨before, stage, later, inner, split, inStage, rfl⟩ := Player.exists_stage_at within
    have unbroken := broken?_pulse_stage formed
      (fun pulse => opened (Playable.stagesPulses before + pulse))
      (show stage ∈ arrangement.stages by simp [split]) arrangement.slot before.length
      (count + Playable.stagesPulses before) later inner
    rw [after, after, inductionHypothesis (Nat.le_of_lt within),
      player_within formed opened split count inStage]
    exact (advance_ongoing _ looping count _ unbroken).1

theorem after_beginPass_within (formed : arrangement.Formed)
    (opened : ∀ pulse, (ports pulse).Open) (looping : Bool) (count : Nat)
    {before later : List (Stage Playable)} {stage : Stage Playable}
    (split : arrangement.stages = before ++ stage :: later) {elapsed : Nat}
    (within : elapsed < Playable.stagePulses stage) :
    after Outcome.advance ports (beginPass arrangement looping count).1
        (Playable.stagesPulses before + elapsed) =
      .ongoing ⟨arrangement, looping, count,
        .inStage (stage.runAt (fun pulse => ports (Playable.stagesPulses before + pulse))
          arrangement.slot before.length (count + Playable.stagesPulses before) later elapsed),
        false⟩ := by
  have early : Playable.stagesPulses before + elapsed <
      Playable.arrangementPulses arrangement := by
    rw [Playable.arrangementPulses_eq, split, Playable.stagesPulses_append, Playable.stagesPulses]
    omega
  rw [after_beginPass formed opened looping count (Nat.zero_lt_of_lt early) early.le,
    player_within formed opened split count within]
  rfl

/-- The play at the end of a pass: another pass begins when the play loops, else it is over. -/
theorem after_beginPass_total (formed : arrangement.Formed)
    (opened : ∀ pulse, (ports pulse).Open) (looping : Bool) (count : Nat)
    (positive : 0 < Playable.arrangementPulses arrangement) :
    after Outcome.advance ports (beginPass arrangement looping count).1
        (Playable.arrangementPulses arrangement) =
      if looping then
        (beginPass arrangement true (count + Playable.arrangementPulses arrangement)).1
      else .over := by
  rw [after_beginPass formed opened looping count positive (Nat.le_refl _),
    player_total formed opened count]
  cases looping with
  | false => rfl
  | true =>
    have moved : (true && count + Playable.arrangementPulses arrangement != count) = true := by
      rw [Bool.true_and, bne_iff_ne]
      omega
    rw [ofProgress, if_pos moved, if_pos rfl]

theorem beginPass_of_pulses_eq_zero (formed : arrangement.Formed)
    (opened : ∀ pulse, (ports pulse).Open) (looping : Bool) (count : Nat)
    (empty : Playable.arrangementPulses arrangement = 0) :
    (beginPass arrangement looping count).1 = .over := by
  have whole := player_total formed opened count
  rw [empty, after] at whole
  rw [beginPass]
  generalize Player.enterStages arrangement.slot 0 count arrangement.stages = result at whole ⊢
  obtain ⟨progress, sounds⟩ := result
  obtain rfl : progress = _ := whole
  rfl

/-- Pass by pass: as many passes later, the next one begins with the count of all their pulses. -/
theorem playedFor_passes (formed : arrangement.Formed) (opened : ∀ pulse, (ports pulse).Open)
    (looping : Bool) (positive : 0 < Playable.arrangementPulses arrangement) (pass : Nat)
    (reached : pass = 0 ∨ looping = true) :
    playedFor ports arrangement looping (pass * Playable.arrangementPulses arrangement) =
      (beginPass arrangement looping (pass * Playable.arrangementPulses arrangement)).1 := by
  induction pass with
  | zero =>
    rw [Nat.zero_mul]
    rfl
  | succ pass inductionHypothesis =>
    obtain rfl : looping = true := reached.resolve_left (Nat.succ_ne_zero pass)
    rw [playedFor, Nat.succ_mul, after_add, ← playedFor, inductionHypothesis (.inr rfl),
      after_beginPass_total formed (fun pulse => opened _) true _ positive, if_pos rfl]

/-! ### The state of a play, and what it sends -/

/-- The state of a play at any pulse of any pass. -/
theorem playedFor_within (formed : arrangement.Formed) (opened : ∀ pulse, (ports pulse).Open)
    (looping : Bool) (pass : Nat) (reached : pass = 0 ∨ looping = true)
    {before later : List (Stage Playable)} {stage : Stage Playable}
    (split : arrangement.stages = before ++ stage :: later) {start : Nat}
    (begun : start = pass * Playable.arrangementPulses arrangement + Playable.stagesPulses before)
    {elapsed : Nat} (within : elapsed < Playable.stagePulses stage) :
    playedFor ports arrangement looping (start + elapsed) =
      .ongoing ⟨arrangement, looping, pass * Playable.arrangementPulses arrangement,
        .inStage (stage.runAt (fun pulse => ports (start + pulse)) arrangement.slot before.length
          start later elapsed), false⟩ := by
  have positive : 0 < Playable.arrangementPulses arrangement := by
    rw [Playable.arrangementPulses_eq, split, Playable.stagesPulses_append, Playable.stagesPulses]
    omega
  subst begun
  rw [playedFor, Nat.add_assoc, after_add, ← playedFor,
    playedFor_passes formed opened looping positive pass reached,
    after_beginPass_within formed (fun pulse => opened _) looping _ split within]
  simp only [Nat.add_assoc]

theorem sentAt_eq_deliveries_pulse (formed : arrangement.Formed)
    (opened : ∀ pulse, (ports pulse).Open) (looping : Bool) (pass : Nat)
    (reached : pass = 0 ∨ looping = true) {before later : List (Stage Playable)}
    {stage : Stage Playable} (split : arrangement.stages = before ++ stage :: later) {start : Nat}
    (begun : start = pass * Playable.arrangementPulses arrangement + Playable.stagesPulses before)
    {elapsed : Nat} (within : elapsed < Playable.stagePulses stage) :
    sentAt ports arrangement looping (start + elapsed) =
      deliveries ((Player.inStage (stage.runAt (fun pulse => ports (start + pulse)) arrangement.slot
        before.length start later elapsed)).pulse (ports (start + elapsed))).2 := by
  have unbroken := broken?_pulse_stage formed (fun pulse => opened (start + pulse))
    (show stage ∈ arrangement.stages by simp [split]) arrangement.slot before.length start later
    elapsed
  rw [sentAt, soundsAt, ← playedFor,
    playedFor_within formed opened looping pass reached split begun within,
    (advance_ongoing _ looping _ _ unbroken).2, Player.deliveries_advance]

theorem sentAt_within (formed : arrangement.Formed) (opened : ∀ pulse, (ports pulse).Open)
    (looping : Bool) (pass : Nat) (reached : pass = 0 ∨ looping = true)
    {before later : List (Stage Playable)} {stage : Stage Playable}
    (split : arrangement.stages = before ++ stage :: later) {start : Nat}
    (begun : start = pass * Playable.arrangementPulses arrangement + Playable.stagesPulses before)
    {elapsed : Nat} (within : elapsed < Playable.stagePulses stage) :
    sentAt ports arrangement looping (start + elapsed) =
      (stage.cast.flatMap fun part =>
        ((ports (start + elapsed)).deliver (part.due start (start + elapsed))).sounds) ++
      (Stage.arrangements stage.voices).flatMap fun inner =>
        deliveries (soundsAt Progress.advance (fun pulse => ports (start + pulse))
          (Player.enterArrangement inner).1 elapsed) := by
  rw [sentAt_eq_deliveries_pulse formed opened looping pass reached split begun within,
    ← Player.deliveries_advance]
  exact Stage.deliveries_runAt (fun pulse => opened (start + pulse)) _ _ _ _ _

/-- Every pulse of a play that is not over by then falls into a stage of one of its passes. -/
theorem exists_place {looping : Bool} {pulses : Nat}
    (lasts : pulses < Playable.arrangementPulses arrangement ∨
      looping = true ∧ 0 < Playable.arrangementPulses arrangement) :
    (pulses / Playable.arrangementPulses arrangement = 0 ∨ looping = true) ∧
      ∃ before stage later elapsed, arrangement.stages = before ++ stage :: later ∧
        elapsed < Playable.stagePulses stage ∧
        pulses = pulses / Playable.arrangementPulses arrangement *
          Playable.arrangementPulses arrangement + Playable.stagesPulses before + elapsed := by
  have positive : 0 < Playable.arrangementPulses arrangement :=
    lasts.elim Nat.zero_lt_of_lt And.right
  have early := Nat.mod_lt pulses positive
  rw [Playable.arrangementPulses_eq] at early
  obtain ⟨before, stage, later, elapsed, split, within, time⟩ := Player.exists_stage_at early
  refine ⟨lasts.imp Nat.div_eq_of_lt And.left, before, stage, later, elapsed, split, within, ?_⟩
  rw [Nat.add_assoc, ← time, ← Playable.arrangementPulses_eq, Nat.div_add_mod']

/-! ### The end of a play -/

theorem after_over (ports : Nat → Port) (pulses : Nat) :
    after Outcome.advance ports .over pulses = .over := by
  induction pulses with
  | zero => rfl
  | succ pulses inductionHypothesis =>
    rw [after, inductionHypothesis]
    rfl

/-- A play that does not loop, or has no pulses, is over when its pulses have passed. -/
theorem playedFor_eq_over (formed : arrangement.Formed) (opened : ∀ pulse, (ports pulse).Open)
    {looping : Bool} (ends : looping = false ∨ Playable.arrangementPulses arrangement = 0)
    {pulses : Nat} (late : Playable.arrangementPulses arrangement ≤ pulses) :
    playedFor ports arrangement looping pulses = .over := by
  rcases Nat.eq_zero_or_pos (Playable.arrangementPulses arrangement) with empty | positive
  · rw [playedFor, start, beginPass_of_pulses_eq_zero formed opened looping 0 empty]
    exact after_over ports pulses
  · obtain rfl : looping = false := ends.resolve_right positive.ne'
    obtain ⟨more, rfl⟩ := Nat.exists_eq_add_of_le late
    rw [playedFor, start, after_add, after_beginPass_total formed opened false 0 positive]
    exact after_over _ more

/-- A play that does not loop is over when its pulses have passed, and not before. -/
theorem playedFor_eq_over_iff (formed : arrangement.Formed) (opened : ∀ pulse, (ports pulse).Open)
    (pulses : Nat) :
    playedFor ports arrangement false pulses = .over ↔
      Playable.arrangementPulses arrangement ≤ pulses := by
  constructor
  · intro isOver
    by_contra early
    obtain ⟨reached, before, stage, later, elapsed, split, within, time⟩ :=
      exists_place (.inl (Nat.not_le.mp early))
    rw [time, playedFor_within formed opened false _ reached split rfl within] at isOver
    cases isOver
  · exact playedFor_eq_over formed opened (.inl rfl)

theorem sentAt_of_over {looping : Bool} {pulse : Nat}
    (isOver : playedFor ports arrangement looping pulse = .over) :
    sentAt ports arrangement looping pulse = [] := by
  rw [sentAt, soundsAt, ← playedFor, isOver]
  rfl

end Performance

end StepSequencer
