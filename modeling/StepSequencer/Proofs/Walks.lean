/-
This file follows a player through its stages, pulse by pulse. Everything that happens at a pulse
happens to each nested player on its own, so that a stage has a closed form: so many pulses after it
was entered, its performers are those of its parts at that time, and its nested players are what
playing each nested arrangement from its start has led to. The stage is left at the pulse at which
its pacer and its longest nested arrangement end, and the next one is entered with the count that
has been reached. The stages of an arrangement therefore lie behind each other without a gap.
-/

import StepSequencer.Proofs.Players

namespace StepSequencer

/-! ### A stage in play -/

namespace Player

/-- What playing an arrangement from its start has led to after so many pulses. -/
def playedFor (ports : Nat → Port) (arrangement : Arrangement Playable) (pulses : Nat) : Progress :=
  after Progress.advance ports (enterArrangement arrangement).1 pulses

/-- Whether an arrangement that is played from its start goes on for exactly its pulses. -/
structure KeepsTime (ports : Nat → Port) (arrangement : Arrangement Playable) : Prop where
  playing : ∀ pulses < Playable.arrangementPulses arrangement,
    ∃ player, playedFor ports arrangement pulses = .playing player
  finished : ∀ pulses, Playable.arrangementPulses arrangement ≤ pulses →
    playedFor ports arrangement pulses = .finished (Playable.arrangementPulses arrangement)

variable {ports : Nat → Port} {arrangement : Arrangement Playable}

theorem KeepsTime.player?_eq_none_iff (timely : KeepsTime ports arrangement) (pulses : Nat) :
    (playedFor ports arrangement pulses).player? = none ↔
      Playable.arrangementPulses arrangement ≤ pulses := by
  rcases Nat.lt_or_ge pulses (Playable.arrangementPulses arrangement) with during | behind
  · obtain ⟨player, played⟩ := timely.playing pulses during
    rw [played]
    exact iff_of_false (Option.some_ne_none player) (Nat.not_le.mpr during)
  · rw [timely.finished pulses behind]
    exact iff_of_true rfl behind

theorem KeepsTime.unbroken (timely : KeepsTime ports arrangement) (pulses : Nat) :
    (playedFor ports arrangement pulses).broken? = none := by
  rcases Nat.lt_or_ge pulses (Playable.arrangementPulses arrangement) with during | behind
  · obtain ⟨player, played⟩ := timely.playing pulses during
    rw [played]
    rfl
  · rw [timely.finished pulses behind]
    rfl

theorem playedFor_succ_player? (ports : Nat → Port) (arrangement : Arrangement Playable)
    (pulses : Nat) :
    (playedFor ports arrangement (pulses + 1)).player? =
      (playedFor ports arrangement pulses).player?.bind fun player =>
        ((player.pulse (ports pulses)).1.settle false).1.player? := by
  rw [playedFor, after, ← playedFor]
  cases playedFor ports arrangement pulses <;> rfl

/-- What a player sends at a pulse it sends before it moves on. -/
theorem deliveries_advance (port : Port) (player : Player) :
    deliveries (Progress.advance port (.playing player)).2 =
      deliveries (player.pulse port).2 := by
  show deliveries ((player.pulse port).2 ++ ((player.pulse port).1.settle false).2) = _
  rw [deliveries_append, deliveries_settle, List.append_nil]

end Player

namespace Stage

variable (stage : Stage Playable) (ports : Nat → Port)

/-- The nested players of a stage, so many pulses after it was entered. -/
def nestedAt (elapsed : Nat) : List Player :=
  (arrangements stage.voices).filterMap fun inner => (Player.playedFor ports inner elapsed).player?

/-- A stage in play, so many pulses after it was entered with a count. -/
def runAt (slot : Option Nat) (index count : Nat) (later : List (Stage Playable))
    (elapsed : Nat) : StageRun Player :=
  ⟨slot, index, later, count + elapsed, stage.performersAt count elapsed,
    stage.nestedAt ports elapsed, none⟩

variable {stage ports}

theorem nestedAt_isEmpty
    (timely : ∀ inner ∈ arrangements stage.voices, Player.KeepsTime ports inner) (elapsed : Nat) :
    (stage.nestedAt ports elapsed).isEmpty = true ↔
      ∀ inner ∈ arrangements stage.voices, Playable.arrangementPulses inner ≤ elapsed := by
  rw [List.isEmpty_iff, nestedAt, List.filterMap_eq_nil_iff]
  exact forall₂_congr fun inner member => (timely inner member).player?_eq_none_iff elapsed

/-- Everybody in a stage is finished exactly when the pulses of the stage have passed. -/
theorem Expanded.over_iff (expanded : stage.Expanded)
    (timely : ∀ inner ∈ arrangements stage.voices, Player.KeepsTime ports inner)
    (count elapsed : Nat) :
    ((stage.performersAt count elapsed).all (Performer.finished false) &&
        (stage.nestedAt ports elapsed).isEmpty) = true ↔
      Playable.stagePulses stage ≤ elapsed := by
  rw [Bool.and_eq_true, expanded.finished_performersAt, nestedAt_isEmpty timely,
    Playable.stagePulses_le_iff]

theorem nestedAt_succ (stage : Stage Playable) (ports : Nat → Port) (elapsed : Nat) :
    ((stage.nestedAt ports elapsed).map fun player =>
        ((player.pulse (ports elapsed)).1.settle false).1).filterMap Progress.player? =
      stage.nestedAt ports (elapsed + 1) := by
  rw [nestedAt, List.filterMap_map, List.filterMap_filterMap, nestedAt]
  exact List.filterMap_congr fun inner _ =>
    (Player.playedFor_succ_player? ports inner elapsed).symm

theorem nestedAt_unbroken
    (timely : ∀ inner ∈ arrangements stage.voices, Player.KeepsTime ports inner) (elapsed : Nat) :
    ((stage.nestedAt ports elapsed).map fun player =>
        ((player.pulse (ports elapsed)).1.settle false).1).findSome? Progress.broken? = none := by
  rw [List.findSome?_eq_none_iff]
  intro progress moved
  obtain ⟨player, nested, rfl⟩ := List.mem_map.mp moved
  obtain ⟨inner, member, played⟩ := List.mem_filterMap.mp nested
  have unbroken := (timely inner member).unbroken (elapsed + 1)
  rw [Player.playedFor, after, ← Player.playedFor,
    Progress.player?_eq_some_iff.mp played] at unbroken
  exact unbroken

/-- What the nested players send at a pulse is what each of them sends when it plays by itself. -/
theorem deliveries_nestedAt (elapsed : Nat) :
    deliveries ((stage.nestedAt ports elapsed).flatMap fun player =>
        (player.pulse (ports elapsed)).2) =
      (arrangements stage.voices).flatMap fun inner =>
        deliveries (soundsAt Progress.advance ports (Player.enterArrangement inner).1 elapsed) := by
  rw [nestedAt, deliveries_flatMap, List.filterMap_eq_flatMap_toList, List.flatMap_assoc]
  refine List.flatMap_congr fun inner _ => ?_
  rw [soundsAt, ← Player.playedFor]
  cases Player.playedFor ports inner elapsed with
  | playing player =>
    rw [Player.deliveries_advance]
    exact List.append_nil _
  | finished pulses => rfl
  | broken message => rfl

/-- What a stage sends at a pulse: what its parts and its pacer have due, then what the nested
arrangements send. -/
theorem deliveries_runAt (opened : ∀ pulse, (ports pulse).Open) (slot : Option Nat)
    (index count : Nat) (later : List (Stage Playable)) (elapsed : Nat) :
    deliveries (Progress.advance (ports elapsed)
        (.playing (.inStage (stage.runAt ports slot index count later elapsed)))).2 =
      (stage.cast.flatMap fun part =>
        ((ports elapsed).deliver (part.due count (count + elapsed))).sounds) ++
      (arrangements stage.voices).flatMap fun inner =>
        deliveries (soundsAt Progress.advance ports (Player.enterArrangement inner).1 elapsed) := by
  rw [Player.deliveries_advance, runAt, Player.pulse, Player.pulseAll_eq, deliveries_append,
    deliveries_nestedAt, deliveries_performersAt (opened elapsed)]

/-- A pulse in a stage. At the last one the stage is left, and the next one entered. -/
theorem Expanded.advance_runAt (expanded : stage.Expanded)
    (opened : ∀ pulse, (ports pulse).Open)
    (timely : ∀ inner ∈ arrangements stage.voices, Player.KeepsTime ports inner)
    (slot : Option Nat) (index count : Nat) (later : List (Stage Playable)) (elapsed : Nat) :
    (Progress.advance (ports elapsed)
        (.playing (.inStage (stage.runAt ports slot index count later elapsed)))).1 =
      if Playable.stagePulses stage ≤ elapsed + 1 then
        (Player.enterStages slot (index + 1) (count + (elapsed + 1)) later).1
      else .playing (.inStage (stage.runAt ports slot index count later (elapsed + 1))) := by
  show (((Player.inStage (stage.runAt ports slot index count later elapsed)).pulse
    (ports elapsed)).1.settle false).1 = _
  rw [runAt, Player.pulse, Player.pulseAll_eq]
  show (Player.settle false (.inStage ⟨slot, index, later, count + elapsed + 1,
    ((stage.performersAt count elapsed).map
      (Performer.pulse (ports elapsed) (count + elapsed))).map Prod.fst,
    (stage.nestedAt ports elapsed).map fun player => (player.pulse (ports elapsed)).1, none⟩)).1 = _
  rw [pulse_performersAt (opened elapsed), Player.settle, Player.settleAll_eq, List.map_map]
  have moved := nestedAt_succ stage ports elapsed
  have unbroken := nestedAt_unbroken timely elapsed
  simp only [Function.comp_def, moved, unbroken, Option.or_none, broken_performersAt]
  by_cases isOver : Playable.stagePulses stage ≤ elapsed + 1
  · rw [if_pos ((expanded.over_iff timely count (elapsed + 1)).mpr isOver), if_pos isOver]
    rfl
  · rw [if_neg (mt (expanded.over_iff timely count (elapsed + 1)).mp isOver), if_neg isOver]
    rfl

theorem Expanded.enterStages_cons (expanded : stage.Expanded)
    (timely : ∀ inner ∈ arrangements stage.voices, Player.KeepsTime ports inner)
    (slot : Option Nat) (index count : Nat) (later : List (Stage Playable)) :
    (Player.enterStages slot index count (stage :: later)).1 =
      if Playable.stagePulses stage = 0 then
        (Player.enterStages slot (index + 1) count later).1
      else .playing (.inStage (stage.runAt ports slot index count later 0)) := by
  have isOver := expanded.over_iff timely count 0
  have nested : (Player.enterVoices stage.voices).1 = stage.nestedAt ports 0 := by
    rw [Player.enterVoices_eq]
    rfl
  rw [Player.enterStages_cons, nested, stage.performers_eq count]
  by_cases passed : Playable.stagePulses stage = 0
  · rw [if_pos (isOver.mpr passed.le), if_pos passed]
  · rw [if_neg (fun all => passed (Nat.le_zero.mp (isOver.mp all))), if_neg passed]
    rfl

/-- A stage lasts exactly its pulses, whatever the count with which it is entered. -/
theorem Expanded.after_enterStages (expanded : stage.Expanded)
    (opened : ∀ pulse, (ports pulse).Open)
    (timely : ∀ inner ∈ arrangements stage.voices, Player.KeepsTime ports inner)
    (slot : Option Nat) (index count : Nat) (later : List (Stage Playable)) (elapsed : Nat)
    (within : elapsed ≤ Playable.stagePulses stage) :
    after Progress.advance ports (Player.enterStages slot index count (stage :: later)).1 elapsed =
      if elapsed < Playable.stagePulses stage then
        .playing (.inStage (stage.runAt ports slot index count later elapsed))
      else (Player.enterStages slot (index + 1) (count + elapsed) later).1 := by
  induction elapsed with
  | zero =>
    rw [after, expanded.enterStages_cons timely]
    by_cases passed : Playable.stagePulses stage = 0
    · rw [if_pos passed, if_neg (by omega)]
      rfl
    · rw [if_neg passed, if_pos (by omega)]
  | succ elapsed inductionHypothesis =>
    rw [after, inductionHypothesis (by omega), if_pos (by omega),
      expanded.advance_runAt opened timely]
    by_cases isOver : Playable.stagePulses stage ≤ elapsed + 1
    · rw [if_pos isOver, if_neg (by omega)]
    · rw [if_neg isOver, if_pos (by omega)]

end Stage

/-! ### Stages in a row -/

namespace Player

variable {ports : Nat → Port}

/-- What has to be known of some stages to follow a player through them. -/
structure Timely (ports : Nat → Port) (stages : List (Stage Playable)) : Prop where
  expanded : ∀ stage ∈ stages, stage.Expanded
  nested : ∀ (delay : Nat), ∀ stage ∈ stages, ∀ inner ∈ Stage.arrangements stage.voices,
    KeepsTime (fun pulse => ports (delay + pulse)) inner

/-- A player that has entered some stages enters the next ones after the pulses of those. -/
theorem after_enterStages_append (opened : ∀ pulse, (ports pulse).Open)
    (before behind : List (Stage Playable)) (timely : Timely ports before) (slot : Option Nat)
    (index count : Nat) :
    after Progress.advance ports (enterStages slot index count (before ++ behind)).1
        (Playable.stagesPulses before) =
      (enterStages slot (index + before.length) (count + Playable.stagesPulses before)
        behind).1 := by
  induction before generalizing ports index count with
  | nil => rfl
  | cons stage rest inductionHypothesis =>
    have head := (timely.expanded stage List.mem_cons_self).after_enterStages opened
      (by simpa using timely.nested 0 stage List.mem_cons_self) slot index count (rest ++ behind)
      (Playable.stagePulses stage) (Nat.le_refl _)
    rw [if_neg (Nat.lt_irrefl _)] at head
    have shifted : Timely (fun pulse => ports (Playable.stagePulses stage + pulse)) rest := {
      expanded := fun other member => timely.expanded other (List.mem_cons_of_mem _ member)
      nested := fun delay other member inner voice => by
        have := timely.nested (Playable.stagePulses stage + delay) other
          (List.mem_cons_of_mem _ member) inner voice
        simpa only [Nat.add_assoc] using this }
    rw [Playable.stagesPulses, after_add, List.cons_append, head,
      inductionHypothesis (fun pulse => opened _) shifted, List.length_cons]
    congr 2 <;> omega

/-- Where a player is: in the stage that begins when those before it are over. -/
theorem after_enterStages_within (opened : ∀ pulse, (ports pulse).Open)
    (before : List (Stage Playable)) (stage : Stage Playable) (later : List (Stage Playable))
    (timely : Timely ports (before ++ stage :: later)) (slot : Option Nat) (index count : Nat)
    (elapsed : Nat) (within : elapsed < Playable.stagePulses stage) :
    after Progress.advance ports (enterStages slot index count (before ++ stage :: later)).1
        (Playable.stagesPulses before + elapsed) =
      .playing (.inStage (stage.runAt
        (fun pulse => ports (Playable.stagesPulses before + pulse)) slot (index + before.length)
        (count + Playable.stagesPulses before) later elapsed)) := by
  have first : Timely ports before := {
    expanded := fun other member => timely.expanded other (List.mem_append_left _ member)
    nested := fun delay other member => timely.nested delay other (List.mem_append_left _ member) }
  have member : stage ∈ before ++ stage :: later := by simp
  rw [after_add, after_enterStages_append opened before _ first,
    (timely.expanded stage member).after_enterStages (fun pulse => opened _)
      (timely.nested _ stage member) _ _ _ _ _ within.le, if_pos within]

/-- Every pulse before the end falls into one of the stages. -/
theorem exists_stage_at {stages : List (Stage Playable)} {pulse : Nat}
    (early : pulse < Playable.stagesPulses stages) :
    ∃ before stage later elapsed, stages = before ++ stage :: later ∧
      elapsed < Playable.stagePulses stage ∧
      pulse = Playable.stagesPulses before + elapsed := by
  induction stages generalizing pulse with
  | nil => exact absurd early (Nat.not_lt_zero _)
  | cons stage rest inductionHypothesis =>
    rw [Playable.stagesPulses] at early
    rcases Nat.lt_or_ge pulse (Playable.stagePulses stage) with now | behind
    · exact ⟨[], stage, rest, pulse, rfl, now, (Nat.zero_add _).symm⟩
    · have inRest : pulse - Playable.stagePulses stage < Playable.stagesPulses rest := by omega
      obtain ⟨before, next, later, elapsed, split, within, time⟩ := inductionHypothesis inRest
      refine ⟨stage :: before, next, later, elapsed, by rw [split]; rfl, within, ?_⟩
      rw [Playable.stagesPulses]
      omega

theorem after_finished (ports : Nat → Port) (total pulses : Nat) :
    after Progress.advance ports (.finished total) pulses = .finished total := by
  induction pulses with
  | zero => rfl
  | succ pulses inductionHypothesis =>
    rw [after, inductionHypothesis]
    rfl

/-- An arrangement whose stages come from lines goes on for exactly its pulses. -/
theorem keepsTime {arrangement : Arrangement Playable} (formed : arrangement.Formed)
    (opened : ∀ pulse, (ports pulse).Open) : KeepsTime ports arrangement := by
  induction arrangement using Arrangement.nesting_induction generalizing ports with
  | step arrangement inductionHypothesis =>
    have timely : Timely ports arrangement.stages := {
      expanded := fun stage member => formed.own member
      nested := fun delay stage member inner voice =>
        inductionHypothesis stage member inner voice (formed.nested member voice)
          fun pulse => opened _ }
    constructor
    · intro pulses early
      rw [Playable.arrangementPulses_eq] at early
      obtain ⟨before, stage, later, elapsed, split, within, rfl⟩ := exists_stage_at early
      rw [split] at timely
      rw [playedFor, enterArrangement_eq, split,
        after_enterStages_within opened before stage later timely _ _ _ _ within]
      exact ⟨_, rfl⟩
    · intro pulses late
      have whole := after_enterStages_append opened arrangement.stages [] timely
        arrangement.slot 0 0
      rw [List.append_nil, ← Playable.arrangementPulses_eq, Nat.zero_add, Nat.zero_add] at whole
      obtain ⟨more, rfl⟩ := Nat.exists_eq_add_of_le late
      rw [playedFor, enterArrangement_eq, after_add, whole]
      exact after_finished _ _ _

theorem timely {stages : List (Stage Playable)} {arrangement : Arrangement Playable}
    (formed : arrangement.Formed) (opened : ∀ pulse, (ports pulse).Open)
    (own : ∀ stage ∈ stages, stage ∈ arrangement.stages) : Timely ports stages where
  expanded := fun stage member => formed.own (own stage member)
  nested := fun _ stage member _ voice =>
    keepsTime (formed.nested (own stage member) voice) fun _ => opened _

/-- Where a player that has entered an arrangement is: in the stage that begins when those before it
are over. -/
theorem playedFor_within {arrangement : Arrangement Playable} (formed : arrangement.Formed)
    (opened : ∀ pulse, (ports pulse).Open) {before later : List (Stage Playable)}
    {stage : Stage Playable} (split : arrangement.stages = before ++ stage :: later) {elapsed : Nat}
    (within : elapsed < Playable.stagePulses stage) :
    playedFor ports arrangement (Playable.stagesPulses before + elapsed) =
      .playing (.inStage (stage.runAt (fun pulse => ports (Playable.stagesPulses before + pulse))
        arrangement.slot before.length (Playable.stagesPulses before) later elapsed)) := by
  rw [playedFor, enterArrangement_eq, split, after_enterStages_within opened before stage later
    (timely formed opened fun _ own => split ▸ own) _ _ _ _ within, Nat.zero_add, Nat.zero_add]

/-- A player that goes on is in one of the stages. -/
theorem exists_stage_of_playing {arrangement : Arrangement Playable} (formed : arrangement.Formed)
    (opened : ∀ pulse, (ports pulse).Open) {pulses : Nat} {player : Player}
    (played : playedFor ports arrangement pulses = .playing player) :
    ∃ before stage later elapsed, arrangement.stages = before ++ stage :: later ∧
      elapsed < Playable.stagePulses stage ∧ pulses = Playable.stagesPulses before + elapsed ∧
      player = .inStage (stage.runAt (fun pulse => ports (Playable.stagesPulses before + pulse))
        arrangement.slot before.length (Playable.stagesPulses before) later elapsed) := by
  have early : pulses < Playable.stagesPulses arrangement.stages := by
    rw [← Playable.arrangementPulses_eq]
    by_contra late
    rw [(keepsTime formed opened).finished pulses (Nat.not_lt.mp late)] at played
    cases played
  obtain ⟨before, stage, later, elapsed, split, within, rfl⟩ := exists_stage_at early
  rw [playedFor_within formed opened split within] at played
  exact ⟨before, stage, later, elapsed, split, within, rfl, (Progress.playing.inj played).symm⟩

end Player

end StepSequencer
