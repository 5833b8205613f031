/-
This file plays arrangements. A player walks the stages of one arrangement. In a stage every part
and the pacer have a performer, and every nested arrangement has a player of its own; the stage
lasts until all of them are finished. One count of pulses runs through all stages of a player and
starts afresh for every nested player. A stage in which nobody has anything to do passes at once. A
player that is cancelled leaves its stage as soon as nobody in it is blocked: it still marks the
next stage and ends there. A player in whose stage somebody broke ends without that mark.
-/

import StepSequencer.Playback.Performer
import StepSequencer.Score.Playable

namespace StepSequencer

/-- A stage of an arrangement in play. -/
structure StageRun (Nested : Type) where
  /-- The place of the arrangement among the playables of its document. -/
  slot : Option Nat
  /-- The number of the stage. -/
  index : Nat
  /-- The stages that follow. -/
  later : List (Stage Playable)
  /-- The pulses that the player has counted. -/
  count : Nat
  performers : List Performer
  /-- The players of nested arrangements that are not finished. -/
  nested : List Nested
  /-- The message on which a nested player broke. -/
  broken : Option Message

/-- An arrangement in play. -/
inductive Player where
  | inStage (run : StageRun Player)

/-- What has become of a player. -/
inductive Progress where
  | playing (player : Player)
  /-- It came to its end after so many pulses. -/
  | finished (pulses : Nat)
  | broken (message : Message)

/-- The performers of a stage: its parts in order, then the pacer. -/
def Stage.performers (stage : Stage Playable) : List Performer :=
  (Stage.parts stage.voices ++ [stage.pacer]).map Performer.ofPart

/-- The players that go on. -/
def Progress.player? : Progress → Option Player
  | .playing player => some player
  | _ => none

/-- The message on which a player broke. -/
def Progress.broken? : Progress → Option Message
  | .broken message => some message
  | _ => none

namespace Player

mutual

/-- Enters the stages of an arrangement, which come behind `index` others, at the first of them that
takes any time. -/
def enterStages (slot : Option Nat) (index count : Nat) :
    List (Stage Playable) → Progress × List Sound
  | [] => (.finished count, [])
  | ⟨voices, pacer⟩ :: later =>
    let (nested, inner) := enterVoices voices
    let performers := Stage.performers ⟨voices, pacer⟩
    if performers.all (Performer.finished false) && nested.isEmpty then
      let (progress, behind) := enterStages slot (index + 1) count later
      (progress, stepSound slot index ++ inner ++ behind)
    else
      (.playing (.inStage ⟨slot, index, later, count, performers, nested, none⟩),
        stepSound slot index ++ inner)

/-- Enters an arrangement at its first stage. -/
def enterArrangement : Arrangement Playable → Progress × List Sound
  | ⟨_, _, _, stages, _, _, slot⟩ => enterStages slot 0 0 stages

/-- Enters a voice of a stage. A part has no player. -/
def enterVoice : Playable → Option Player × List Sound
  | .part _ => (none, [])
  | .arrangement arrangement =>
    let (progress, sounds) := enterArrangement arrangement
    (progress.player?, sounds)

/-- Enters the nested arrangements of a stage, in the order of the voices. -/
def enterVoices : List Playable → List Player × List Sound
  | [] => ([], [])
  | voice :: rest =>
    let (player, sounds) := enterVoice voice
    let (players, behind) := enterVoices rest
    (player.toList ++ players, sounds ++ behind)

end

mutual

/-- Gives a pulse to everybody in a stage, nested players included, and counts it. -/
def pulse (port : Port) : Player → Player × List Sound
  | .inStage ⟨slot, index, later, count, performers, nested, broken⟩ =>
    let heard := performers.map (Performer.pulse port count)
    let (players, inner) := pulseAll port nested
    (.inStage ⟨slot, index, later, count + 1, heard.map Prod.fst, players, broken⟩,
      heard.flatMap Prod.snd ++ inner)

/-- Gives a pulse to some players. -/
def pulseAll (port : Port) : List Player → List Player × List Sound
  | [] => ([], [])
  | player :: rest =>
    let (player, sounds) := pulse port player
    let (players, behind) := pulseAll port rest
    (player :: players, sounds ++ behind)

end

mutual

/-- Lets everybody in a stage send what a held port kept back. -/
def release (port : Port) (cancelled : Bool) : Player → Player × List Sound
  | .inStage ⟨slot, index, later, count, performers, nested, broken⟩ =>
    let heard := performers.map (Performer.release port cancelled)
    let (players, inner) := releaseAll port cancelled nested
    (.inStage ⟨slot, index, later, count, heard.map Prod.fst, players, broken⟩,
      heard.flatMap Prod.snd ++ inner)

/-- Lets some players send what a held port kept back. -/
def releaseAll (port : Port) (cancelled : Bool) : List Player → List Player × List Sound
  | [] => ([], [])
  | player :: rest =>
    let (player, sounds) := release port cancelled player
    let (players, behind) := releaseAll port cancelled rest
    (player :: players, sounds ++ behind)

end

mutual

/-- The message on which somebody in a stage broke. -/
def broken? : Player → Option Message
  | .inStage ⟨_, _, _, _, performers, nested, broken⟩ =>
    ((performers.findSome? Performer.broken).or broken).or (anyBroken? nested)

/-- The message on which somebody broke in the stages of some players. -/
def anyBroken? : List Player → Option Message
  | [] => none
  | player :: rest => (broken? player).or (anyBroken? rest)

end

/-- Leaves a stage that is over. -/
def leaveStage (cancelled : Bool) (slot : Option Nat) (index count : Nat)
    (later : List (Stage Playable)) : Progress × List Sound :=
  if cancelled then
    (.finished count, if later.isEmpty then [] else stepSound slot (index + 1))
  else enterStages slot (index + 1) count later

mutual

/-- Moves a player on from every stage that is over, nested players first. -/
def settle (cancelled : Bool) : Player → Progress × List Sound
  | .inStage ⟨slot, index, later, count, performers, nested, broken⟩ =>
    let (progress, inner) := settleAll cancelled nested
    let players := progress.filterMap Progress.player?
    let broken := broken.or (progress.findSome? Progress.broken?)
    if performers.all (Performer.finished cancelled) && players.isEmpty then
      match (performers.findSome? Performer.broken).or broken with
      | some message => (.broken message, inner)
      | none =>
        let (progress, behind) := leaveStage cancelled slot index count later
        (progress, inner ++ behind)
    else (.playing (.inStage ⟨slot, index, later, count, performers, players, broken⟩), inner)

/-- Moves some players on. -/
def settleAll (cancelled : Bool) : List Player → List Progress × List Sound
  | [] => ([], [])
  | player :: rest =>
    let (progress, sounds) := settle cancelled player
    let (others, behind) := settleAll cancelled rest
    (progress :: others, sounds ++ behind)

end

end Player

/-- A play of an arrangement from the top. -/
structure Performance where
  arrangement : Arrangement Playable
  looping : Bool
  /-- The count with which the present pass began. -/
  passStart : Nat
  player : Player
  /-- Whether the players have been told to end. -/
  token : Bool

/-- What has become of a performance. -/
inductive Outcome where
  | ongoing (performance : Performance)
  | over
  | broken (message : Message)

namespace Performance

/-- Begins a pass of an arrangement with the given count. A pass that takes no pulse ends the play,
since it would be repeated forever. -/
def beginPass (arrangement : Arrangement Playable) (looping : Bool) (count : Nat) :
    Outcome × List Sound :=
  let (progress, sounds) := Player.enterStages arrangement.slot 0 count arrangement.stages
  match progress with
  | .playing player => (.ongoing ⟨arrangement, looping, count, player, false⟩, sounds)
  | .finished _ => (.over, sounds)
  | .broken message => (.broken message, sounds)

/-- Begins to play an arrangement. -/
def start (arrangement : Arrangement Playable) (looping : Bool) : Outcome × List Sound :=
  beginPass arrangement looping 0

/-- Moves a performance on after something has happened to its players. When somebody broke, all
others are told to end. A finished pass is followed by another one if the play loops, was not told
to end, and the pass took any pulse. -/
def settle (performance : Performance) : Outcome × List Sound :=
  let token := performance.token || performance.player.broken?.isSome
  let (progress, sounds) := performance.player.settle token
  match progress with
  | .playing player => (.ongoing { performance with player, token }, sounds)
  | .broken message => (.broken message, sounds)
  | .finished count =>
    if performance.looping && !token && count != performance.passStart then
      let (outcome, behind) := beginPass performance.arrangement true count
      (outcome, sounds ++ behind)
    else (.over, sounds)

/-- Gives a pulse to a performance; players that have been told to end hear none. -/
def pulse (port : Port) (performance : Performance) : Outcome × List Sound :=
  if performance.token then (.ongoing performance, [])
  else
    let (player, sounds) := performance.player.pulse port
    let (outcome, behind) := { performance with player }.settle
    (outcome, sounds ++ behind)

/-- Lets the players send what a held port kept back. -/
def release (port : Port) (performance : Performance) : Outcome × List Sound :=
  let (player, sounds) := performance.player.release port performance.token
  let (outcome, behind) := { performance with player }.settle
  (outcome, sounds ++ behind)

/-- Tells the players to end. -/
def cancel (performance : Performance) : Outcome × List Sound :=
  { performance with token := true }.settle

end Performance

end StepSequencer
