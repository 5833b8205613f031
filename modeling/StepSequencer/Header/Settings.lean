/-
This file gives headers their meaning. A sequence has a tempo, a loop switch, a role in transport
sync and port names; a part has a name, a group, a channel and a division; an arrangement has a name
and a group. Whatever a header leaves out has a default. A division that nobody knows is a warning,
all other unknown values are faults.
-/

import StepSequencer.Header.Metadata

namespace StepSequencer

/-- The role in transport sync. -/
inductive SyncMode where
  | none
  | leader
  | follower
deriving DecidableEq, Inhabited

/-- A role as documents write it. -/
def SyncMode.text : SyncMode → String
  | .none => "none"
  | .leader => "leader"
  | .follower => "follower"

/-- The role that a document writes, if it is one of the three. -/
def SyncMode.ofText? (text : String) : Option SyncMode :=
  if text = "none" then some .none
  else if text = "leader" then some .leader
  else if text = "follower" then some .follower
  else Option.none

/-- The settings of a sequence. -/
structure Settings where
  bpm : Float
  looping : Bool
  sync : SyncMode
  syncIn : String
  syncOut : String
  voiceOut : String

/-- The settings of a sequence that says nothing. -/
def Settings.default : Settings := ⟨120.0, false, .none, "", "", ""⟩

/-- Checks that a tempo is finite and greater than zero. -/
def checkTempo (bpm : Float) : Except SyntaxFault Float :=
  if Numeric.isPositiveFinite bpm then .ok bpm
  else .error (.invalidValue "bpm" (Numeric.floatText bpm))

/-- Reads the role in transport sync. -/
def readSync (metadata : Metadata) : Except SyntaxFault SyncMode :=
  match metadata.text? "sync" with
  | Option.none => .ok Settings.default.sync
  | some text =>
    match SyncMode.ofText? text with
    | some mode => .ok mode
    | Option.none => .error (.invalidValue "sync" text)

/-- Reads the settings of a sequence. -/
def Settings.ofMetadata (metadata : Metadata) : Except SyntaxFault Settings := do
  let bpm ← checkTempo ((← metadata.requireNumber "bpm").getD Settings.default.bpm)
  let sync ← readSync metadata
  let looping := (← metadata.requireBoolean "loop").getD Settings.default.looping
  return {
    bpm, looping, sync
    syncIn := metadata.textOr "syncin" Settings.default.syncIn
    syncOut := metadata.textOr "syncout" Settings.default.syncOut
    voiceOut := metadata.textOr "voiceout" Settings.default.voiceOut }

/-- How long a step lasts. -/
inductive Division where
  | fourth
  | fourthTriplet
  | eighth
  | eighthTriplet
  | sixteenth
  | thirtySecond
  /-- One pulse; no document asks for it, it paces the stages of an arrangement. -/
  | pulse
deriving DecidableEq, Inhabited

/-- The pulses of a step. -/
def Division.pulses : Division → Nat
  | .fourth => 24
  | .fourthTriplet => 16
  | .eighth => 12
  | .eighthTriplet => 8
  | .sixteenth => 6
  | .thirtySecond => 3
  | .pulse => 1

/-- Every step takes time. -/
theorem Division.pulses_pos (division : Division) : 0 < division.pulses := by
  cases division <;> decide

/-- The division that a symbol stands for. -/
def Division.ofSymbol? (symbol : String) : Option Division :=
  if symbol = "4th" then some .fourth
  else if symbol = "4th-triplet" then some .fourthTriplet
  else if symbol = "8th" then some .eighth
  else if symbol = "8th-triplet" then some .eighthTriplet
  else if symbol = "16th" then some .sixteenth
  else if symbol = "32nd" then some .thirtySecond
  else none

/-- The header of a part. -/
structure PartHeader where
  name : String
  group : String
  /-- Counted from 1. -/
  channel : UInt8
  division : Division
  warnings : List Warning

/-- The name and the group of whoever says nothing. -/
def defaultName : String := "default"

/-- Checks that a channel is a whole number from 1 to 16. -/
def checkChannel (channel : Float) : Except SyntaxFault UInt8 :=
  match Numeric.decode channel with
  | .finite false magnitude =>
    if magnitude.isWhole && 1 ≤ magnitude.floor && magnitude.floor ≤ 16 then
      .ok (UInt8.ofNat magnitude.floor)
    else .error (.channelOutOfRange channel)
  | _ => .error (.channelOutOfRange channel)

/-- Reads a division: the default is a fourth, also for a symbol that nobody knows, which is then
mentioned in a warning. -/
def readDivision (metadata : Metadata) : Division × List Warning :=
  match metadata.text? "div" with
  | none => (.fourth, [])
  | some symbol =>
    match Division.ofSymbol? symbol with
    | some division => (division, [])
    | none => (.fourth, [.unknownDivision symbol])

/-- Reads the header of a part. -/
def PartHeader.ofMetadata (metadata : Metadata) : Except SyntaxFault PartHeader := do
  let channel ← checkChannel ((← metadata.requireNumber "ch").getD 1.0)
  let (division, warnings) := readDivision metadata
  return {
    name := metadata.textOr "name" defaultName
    group := metadata.textOr "group" defaultName
    channel, division, warnings }

/-- The header of an arrangement. -/
structure ArrangementHeader where
  name : String
  group : String
deriving DecidableEq

/-- Reads the header of an arrangement. -/
def ArrangementHeader.ofMetadata (metadata : Metadata) : ArrangementHeader :=
  ⟨metadata.textOr "name" defaultName, metadata.textOr "group" defaultName⟩

end StepSequencer
