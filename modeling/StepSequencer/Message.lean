/-
This file holds the messages of the wire: notes, controls and transport. A message has a form in
bytes, in which the channel keeps four bits and data seven, and a form in text for a reader. Reading
bytes accepts exactly the supported kinds; it takes data bytes as they are and turns a note-on of
velocity 0 into a note-off.
-/

import StepSequencer.Tone.Pitch

namespace StepSequencer

/-- The messages that are sent and understood. Channels count from 0. -/
inductive Message where
  | noteOn (channel note velocity : UInt8)
  | noteOff (channel note : UInt8)
  | control (channel controller value : UInt8)
  | timingClock
  | start
  | stop
deriving DecidableEq

/-- The controller that ends every note of a channel. -/
def allNotesOff : UInt8 := 123

/-- A status byte: the kind in the upper four bits, the channel in the lower four. -/
def statusByte (kind channel : UInt8) : UInt8 := kind + channel % 16

/-- A data byte keeps seven bits. -/
def dataByte (value : UInt8) : UInt8 := value % 128

/-- The bytes of a message. -/
def Message.bytes : Message → List UInt8
  | .noteOn channel note velocity => [statusByte 0x90 channel, dataByte note, dataByte velocity]
  | .noteOff channel note => [statusByte 0x80 channel, dataByte note, 0]
  | .control channel controller value =>
    [statusByte 0xB0 channel, dataByte controller, dataByte value]
  | .timingClock => [0xF8]
  | .start => [0xFA]
  | .stop => [0xFC]

/-- Reads a channel message with the given status and its first two data bytes. -/
def Message.ofChannelBytes? (status first second : UInt8) : Option Message :=
  let channel := status % 16
  if status / 16 = 9 then
    if 0 < second then some (.noteOn channel first second) else some (.noteOff channel first)
  else if status / 16 = 8 then some (.noteOff channel first)
  else if status / 16 = 11 then some (.control channel first second)
  else none

/-- Reads one message from the front of some bytes. -/
def Message.ofBytes? : List UInt8 → Option Message
  | [] => none
  | status :: data =>
    if status = 0xF8 then some .timingClock
    else if status = 0xFA then some .start
    else if status = 0xFC then some .stop
    else match data with
      | first :: second :: _ => ofChannelBytes? status first second
      | _ => none

/-- Whether a message steers the transport instead of a channel. -/
def Message.isTransport : Message → Bool
  | .timingClock | .start | .stop => true
  | _ => false

/-- The channel as readers count it, from 1. -/
def channelText {Fault : Type} (channel : UInt8) : Except (Failure Fault) String :=
  if channel = 255 then .error (.breakdown .channelOverflow)
  else .ok (toString (channel.toNat + 1))

/-- The text of a message, with note names and channels from 1. -/
def Message.text {Fault : Type} : Message → Except (Failure Fault) String
  | .noteOn channel note velocity => do
    return "on ch" ++ (← channelText channel) ++ " " ++ pitchText note ++ " vel" ++
      toString velocity.toNat
  | .noteOff channel note => do
    return "off ch" ++ (← channelText channel) ++ " " ++ pitchText note
  | .control channel controller value => do
    return "cc ch" ++ (← channelText channel) ++ " " ++ toString controller.toNat ++ "=" ++
      toString value.toNat
  | .timingClock => return "clock"
  | .start => return "start"
  | .stop => return "stop"

/-- One message for each of the sixteen channels that ends every note on it. -/
def silence : List Message :=
  (List.range 16).map fun channel => .control (UInt8.ofNat channel) allNotesOff 0

/-- The bytes in hexadecimal, two digits for each byte. -/
def hexText (bytes : List UInt8) : String :=
  String.ofList (bytes.flatMap fun byte =>
    [Nat.digitChar (byte.toNat / 16), Nat.digitChar (byte.toNat % 16)])

end StepSequencer
