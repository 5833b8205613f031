/-
This file names everything that can go wrong, by cause, and gives each cause its message. A document
can be faulty in its notation or in a pattern it asks for; a port, the clock or a play can fail
while music is running. Apart from faults, a computation can break down because a number leaves the
range of its representation; a breakdown has no message, since nothing sensible can be answered.
-/

import StepSequencer.Numeric.Shortest
import StepSequencer.Text.Quoted

namespace StepSequencer

/-- What a header was expected to go on with. -/
inductive Expectation where
  | identifier
  | colon
  | value
deriving DecidableEq

/-- An expectation as a message shows it. -/
def Expectation.text : Expectation → String
  | .identifier => "identifier"
  | .colon => "':'"
  | .value => "value"

/-- A fault in the notation of a header or of a step line. -/
inductive SyntaxFault where
  | invalidNote (text : String)
  | invalidChordRoot (text : String)
  | invalidChordQuality (text : String)
  | invalidBass (text : String)
  | missingOctave (note : String)
  | missingDuration
  | unterminatedString (text : String)
  | unexpectedToken (expected : Expectation) (found : String)
  | invalidNumber (text : String)
  | pitchOutOfRange (pitch : Int)
  | channelOutOfRange (channel : Float)
  | invalidValue (key value : String)
  | zeroMultiplier (step : String)
  | unknownDirective (word : String)

/-- The message of a fault in the notation. -/
def SyntaxFault.message : SyntaxFault → String
  | .invalidNote text => "invalid note: " ++ text
  | .invalidChordRoot text => "invalid chord root: " ++ text
  | .invalidChordQuality text => "invalid chord quality: " ++ text
  | .invalidBass text => "invalid bass note: " ++ text
  | .missingOctave note => "expected octave number after note " ++ note
  | .missingDuration => "expected duration number after colon"
  | .unterminatedString text => "unterminated string: " ++ text
  | .unexpectedToken expected found => "expected " ++ expected.text ++ ", got " ++ Text.quoted found
  | .invalidNumber text => "invalid number: " ++ text
  | .pitchOutOfRange pitch => "pitch " ++ toString pitch ++ " is outside the MIDI range"
  | .channelOutOfRange channel => "channel " ++ Numeric.floatText channel ++ " is outside 1-16"
  | .invalidValue key value => "invalid value for " ++ key ++ ": " ++ value
  | .zeroMultiplier step => "step multiplier must be at least 1: " ++ step
  | .unknownDirective word => "unknown block directive: " ++ word

/-- A fault in what a pattern generator is asked for. -/
inductive PatternFault where
  | missingParameter (generator parameter : String)
  | negativeCount
  | pulsesExceedSteps (pulses steps : Int)
  | emptyPool (generator : String)
  | unknownGenerator (name : String)
deriving DecidableEq

/-- The message of a fault in a pattern. -/
def PatternFault.message : PatternFault → String
  | .missingParameter generator parameter =>
    generator ++ ": missing required parameter '" ++ parameter ++ "'"
  | .negativeCount => "euclidean: pulses and steps must be non-negative"
  | .pulsesExceedSteps pulses steps =>
    "euclidean: pulses (" ++ toString pulses ++ ") cannot exceed steps (" ++ toString steps ++ ")"
  | .emptyPool generator => generator ++ ": no notes provided"
  | .unknownGenerator name => "unknown generator: " ++ name

/-- What makes a block faulty. -/
inductive BlockFault where
  | grammar (cause : SyntaxFault)
  | pattern (cause : PatternFault)

/-- The message of a fault in a block, without the line. -/
def BlockFault.message : BlockFault → String
  | .grammar cause => cause.message
  | .pattern cause => cause.message

/-- A faulty block of a document, by the line of its opening fence. -/
structure DocumentFault where
  line : Nat
  cause : BlockFault

/-- The message of a faulty block, behind the line of its fence. -/
def DocumentFault.message (fault : DocumentFault) : String :=
  "line " ++ toString fault.line ++ ": " ++ fault.cause.message

/-- A failure of a message port. -/
inductive PortFault where
  | initialise (reason : String)
  | notFound (port : String)
  | connect (reason : String)
  | send (reason : String)
  | alreadyListening
  | unsupported
deriving DecidableEq

/-- The message of a failed port. -/
def PortFault.message : PortFault → String
  | .initialise reason => "failed to initialise MIDI client: " ++ reason
  | .notFound port => "MIDI port '" ++ port ++ "' not found"
  | .connect reason => "failed to connect: " ++ reason
  | .send reason => "failed to send MIDI message: " ++ reason
  | .alreadyListening => "input is already listening"
  | .unsupported => "virtual ports are not supported on this platform"

/-- A failure of the clock. -/
inductive ClockFault where
  | alreadyRunning
  | spawn (reason : String)
  | join
  | invalidTempo (bpm : Float)

/-- The message of a failed clock. -/
def ClockFault.message : ClockFault → String
  | .alreadyRunning => "clock already running"
  | .spawn reason => "failed to spawn clock thread: " ++ reason
  | .join => "failed to join clock thread"
  | .invalidTempo bpm => "invalid tempo: " ++ Numeric.floatText bpm

/-- A failure while music is running. -/
inductive PlaybackFault where
  | port (cause : PortFault)
  | clock (cause : ClockFault)
  | crash (reason : String)

/-- The message of a failure while music is running. -/
def PlaybackFault.message : PlaybackFault → String
  | .port cause => cause.message
  | .clock cause => cause.message
  | .crash reason => "panic in playback: " ++ reason

/-- What a loaded document is warned about. A warning never keeps a document from playing. -/
inductive Warning where
  | unknownDivision (symbol : String)
  | unknownReference (name : String)
  | cyclicReference (name : String)
  /-- A warning in the words of whoever built the playable. -/
  | remark (text : String)
deriving DecidableEq

/-- A warning as it is shown. -/
def Warning.text : Warning → String
  | .unknownDivision symbol => "unknown div '" ++ symbol ++ "', using 4th"
  | .unknownReference name => "unknown reference '" ++ name ++ "'"
  | .cyclicReference name => "cyclic reference to '" ++ name ++ "'"
  | .remark text => text

/-- Why a computation has no answer: a number left the range of its representation. -/
inductive Breakdown where
  /-- A pitch needs more than a signed 32-bit number. -/
  | pitchOverflow
  /-- A time is negative, is no number, or does not fit 64 bits of seconds. -/
  | spanOverflow
  /-- A channel number does not fit a byte. -/
  | channelOverflow
  /-- References are nested deeper than there are arrangements, which no document reaches. -/
  | depthOverflow
deriving DecidableEq

/-- How a computation can end without an answer. -/
inductive Failure (Fault : Type) where
  | fault (cause : Fault)
  | breakdown (reason : Breakdown)

/-- The same failure with its fault seen in a wider context. -/
def Failure.map {Fault Wider : Type} (widen : Fault → Wider) : Failure Fault → Failure Wider
  | .fault cause => .fault (widen cause)
  | .breakdown reason => .breakdown reason

end StepSequencer
