/-
This file says what a port does with the messages it is given. Usually it takes them. It may refuse
those that start with certain bytes, which the sender reports and survives, or break on them, which
ends the sender. While a port is held it blocks every sender until it is released.
-/

import StepSequencer.Message

namespace StepSequencer

/-- How a port treats messages. -/
structure Port where
  /-- Messages whose bytes start with one of these are refused. -/
  refusing : List (List UInt8)
  /-- Messages whose bytes start with one of these break their sender. -/
  breaking : List (List UInt8)
  /-- Whether every sender is blocked. -/
  held : Bool
deriving DecidableEq

/-- What becomes of a message. -/
inductive Reply where
  | taken
  | refused
  | broken
deriving DecidableEq

namespace Port

/-- A port that takes everything. -/
def free : Port := ⟨[], [], false⟩

/-- Whether the bytes of a message start with one of the given runs. -/
def startsWithAny (runs : List (List UInt8)) (message : Message) : Bool :=
  runs.any fun run => run.isPrefixOf message.bytes

/-- The reply of a port that is not held. -/
def reply (port : Port) (message : Message) : Reply :=
  if startsWithAny port.breaking message then .broken
  else if startsWithAny port.refusing message then .refused
  else .taken

/-- How a refusal is reported. -/
def refusalText (message : Message) : String := "refused " ++ hexText message.bytes

/-- How a sender that breaks is reported. -/
def breakText (message : Message) : String := "exploded on " ++ hexText message.bytes

end Port

/-- What became of a list of messages from one sender. -/
structure Delivery where
  taken : List Message
  refused : List Message
  /-- The message on which the sender broke; those behind it were never sent. -/
  broken : Option Message
deriving DecidableEq

/-- Two deliveries of one sender, one behind the other. -/
def Delivery.append (first second : Delivery) : Delivery :=
  ⟨first.taken ++ second.taken, first.refused ++ second.refused, second.broken⟩

/-- Sends messages in order through a port that is not held. -/
def Port.deliver (port : Port) : List Message → Delivery
  | [] => ⟨[], [], none⟩
  | message :: rest =>
    match port.reply message with
    | .broken => ⟨[], [], some message⟩
    | .refused =>
      let later := port.deliver rest
      { later with refused := message :: later.refused }
    | .taken =>
      let later := port.deliver rest
      { later with taken := message :: later.taken }

end StepSequencer
