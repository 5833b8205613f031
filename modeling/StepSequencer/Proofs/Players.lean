/-
This file puts the steps of a player into a form that can be followed. Pulses come one after the
other, each at a port of its own. Nested players stand side by side, and whatever happens to a list
of them happens to each of them alone. To enter a stage, to leave it or to move on sends nothing:
all that players make known on the way is the marks of their steps.
-/

import StepSequencer.Proofs.Performers

namespace StepSequencer

/-! ### Pulses one after the other -/

section Pulses

variable {State : Type} (advance : Port → State → State × List Sound)

/-- What has become of something after so many pulses. The port may change from pulse to pulse. -/
def after (ports : Nat → Port) (start : State) : Nat → State
  | 0 => start
  | pulses + 1 => (advance (ports pulses) (after ports start pulses)).1

/-- What is made known at a pulse, counted from 0. -/
def soundsAt (ports : Nat → Port) (start : State) (pulse : Nat) : List Sound :=
  (advance (ports pulse) (after advance ports start pulse)).2

theorem after_add (ports : Nat → Port) (start : State) (first second : Nat) :
    after advance ports start (first + second) =
      after advance (fun pulse => ports (first + pulse)) (after advance ports start first)
        second := by
  induction second with
  | zero => rfl
  | succ second inductionHypothesis => rw [← Nat.add_assoc, after, inductionHypothesis, after]

end Pulses

/-- Gives a pulse to a player that goes on, and moves it on. -/
def Progress.advance (port : Port) : Progress → Progress × List Sound
  | .playing player =>
    let (heard, sounds) := player.pulse port
    let (progress, behind) := heard.settle false
    (progress, sounds ++ behind)
  | progress => (progress, [])

theorem Progress.player?_eq_some_iff {progress : Progress} {player : Player} :
    progress.player? = some player ↔ progress = .playing player := by
  cases progress <;> simp [Progress.player?]

/-! ### Players side by side -/

namespace Player

theorem pulseAll_eq (port : Port) (players : List Player) :
    pulseAll port players = (players.map fun player => (pulse port player).1,
      players.flatMap fun player => (pulse port player).2) := by
  induction players with
  | nil => rfl
  | cons player rest inductionHypothesis =>
    rw [pulseAll, inductionHypothesis]
    rfl

theorem settleAll_eq (cancelled : Bool) (players : List Player) :
    settleAll cancelled players = (players.map fun player => (settle cancelled player).1,
      players.flatMap fun player => (settle cancelled player).2) := by
  induction players with
  | nil => rfl
  | cons player rest inductionHypothesis =>
    rw [settleAll, inductionHypothesis]
    rfl

theorem enterVoices_eq (voices : List Playable) :
    enterVoices voices =
      ((Stage.arrangements voices).filterMap fun inner => (enterArrangement inner).1.player?,
        (Stage.arrangements voices).flatMap fun inner => (enterArrangement inner).2) := by
  induction voices with
  | nil => rfl
  | cons voice rest inductionHypothesis =>
    rw [enterVoices, inductionHypothesis]
    cases voice with
    | part single => rfl
    | arrangement inner =>
      rw [enterVoice, Stage.arrangements_arrangement, List.filterMap_cons, List.flatMap_cons]
      obtain ⟨progress, sounds⟩ := enterArrangement inner
      cases progress <;> rfl

theorem enterArrangement_eq (arrangement : Arrangement Playable) :
    enterArrangement arrangement = enterStages arrangement.slot 0 0 arrangement.stages := by
  cases arrangement
  rfl

theorem enterStages_cons (slot : Option Nat) (index count : Nat) (stage : Stage Playable)
    (later : List (Stage Playable)) :
    enterStages slot index count (stage :: later) =
      if stage.performers.all (Performer.finished false) &&
          (enterVoices stage.voices).1.isEmpty then
        ((enterStages slot (index + 1) count later).1,
          stepSound slot index ++ (enterVoices stage.voices).2 ++
            (enterStages slot (index + 1) count later).2)
      else
        (.playing (.inStage ⟨slot, index, later, count, stage.performers,
            (enterVoices stage.voices).1, none⟩),
          stepSound slot index ++ (enterVoices stage.voices).2) := by
  cases stage
  rfl

/-! ### Moving on sends nothing -/

theorem deliveries_enterStages_of_voices (slot : Option Nat) (index count : Nat)
    (stages : List (Stage Playable))
    (silent : ∀ stage ∈ stages, ∀ inner ∈ Stage.arrangements stage.voices,
      deliveries (enterArrangement inner).2 = []) :
    deliveries (enterStages slot index count stages).2 = [] := by
  induction stages generalizing index with
  | nil => rfl
  | cons stage later inductionHypothesis =>
    have behind := inductionHypothesis (index + 1)
      fun other member => silent other (List.mem_cons_of_mem _ member)
    have inner : deliveries (enterVoices stage.voices).2 = [] := by
      rw [enterVoices_eq, deliveries_flatMap, List.flatMap_eq_nil_iff]
      exact silent stage List.mem_cons_self
    rw [enterStages_cons]
    split
    · rw [deliveries_append, deliveries_append, deliveries_stepSound, inner, behind]
      rfl
    · rw [deliveries_append, deliveries_stepSound, inner]
      rfl

theorem deliveries_enterArrangement (arrangement : Arrangement Playable) :
    deliveries (enterArrangement arrangement).2 = [] := by
  induction arrangement using Arrangement.nesting_induction with
  | step arrangement inductionHypothesis =>
    rw [enterArrangement_eq]
    exact deliveries_enterStages_of_voices _ _ _ _ inductionHypothesis

theorem deliveries_enterStages (slot : Option Nat) (index count : Nat)
    (stages : List (Stage Playable)) : deliveries (enterStages slot index count stages).2 = [] :=
  deliveries_enterStages_of_voices slot index count stages
    fun _ _ inner _ => deliveries_enterArrangement inner

theorem deliveries_leaveStage (cancelled : Bool) (slot : Option Nat) (index count : Nat)
    (later : List (Stage Playable)) :
    deliveries (leaveStage cancelled slot index count later).2 = [] := by
  rw [leaveStage]
  split
  · show deliveries (if later.isEmpty then [] else stepSound slot (index + 1)) = []
    split
    · rfl
    · exact deliveries_stepSound slot (index + 1)
  · exact deliveries_enterStages slot (index + 1) count later

mutual

theorem deliveries_settle (cancelled : Bool) :
    ∀ player : Player, deliveries (settle cancelled player).2 = []
  | .inStage ⟨slot, index, later, count, performers, nested, broken⟩ => by
    have inner := deliveries_settleAll cancelled nested
    have leaving := deliveries_leaveStage cancelled slot index count later
    rw [settle]
    dsimp only
    split
    · split
      · exact inner
      · rw [deliveries_append, inner, leaving]
        rfl
    · exact inner

theorem deliveries_settleAll (cancelled : Bool) :
    ∀ players : List Player, deliveries (settleAll cancelled players).2 = []
  | [] => rfl
  | player :: rest => by
    rw [settleAll]
    show deliveries ((settle cancelled player).2 ++ (settleAll cancelled rest).2) = []
    rw [deliveries_append, deliveries_settle cancelled player, deliveries_settleAll cancelled rest]
    rfl

end

end Player

end StepSequencer
