/-
This file holds signals between those who announce something and those who wait for it. A channel
holds a bounded number of bare signals. A bus has at most one channel for each name; publishing
offers one signal to every channel, drops it where the channel is full, and forgets the channels
whose receiver is gone. An exchange owns the channels and the named receivers of whoever waits.
-/

namespace StepSequencer

/-- A bounded channel of signals. -/
structure Channel where
  capacity : Nat
  /-- The signals that wait to be taken. -/
  held : Nat
  /-- Whether somebody still holds the receiver. -/
  attended : Bool
deriving DecidableEq, Inhabited

/-- A new channel. -/
def Channel.ofCapacity (capacity : Nat) : Channel := ⟨capacity, 0, true⟩

/-- Offers a signal, which a full channel does not take. -/
def Channel.offer (channel : Channel) : Channel :=
  if channel.held < channel.capacity then { channel with held := channel.held + 1 } else channel

/-- Takes a signal, if one waits. -/
def Channel.take (channel : Channel) : Channel := { channel with held := channel.held - 1 }

/-- Takes all signals that wait. -/
def Channel.drain (channel : Channel) : Channel := { channel with held := 0 }

/-- Gives up the receiver. -/
def Channel.abandon (channel : Channel) : Channel := { channel with attended := false }

/-- Channels by number, and receivers by name. -/
structure Exchange where
  channels : List Channel
  receivers : List (String × Nat)
deriving DecidableEq

namespace Exchange

/-- An exchange without channels. -/
def empty : Exchange := ⟨[], []⟩

/-- A channel by its number; a number that was never given out has no receiver. -/
def channel (exchange : Exchange) (number : Nat) : Channel :=
  exchange.channels.getD number ⟨0, 0, false⟩

/-- The number of the next channel. -/
def nextNumber (exchange : Exchange) : Nat := exchange.channels.length

/-- Opens a channel. -/
def connect (exchange : Exchange) (capacity : Nat) : Exchange :=
  { exchange with channels := exchange.channels ++ [Channel.ofCapacity capacity] }

/-- Changes a channel. -/
def update (exchange : Exchange) (number : Nat) (change : Channel → Channel) : Exchange :=
  { exchange with channels := exchange.channels.modify number change }

/-- The channel number of a named receiver. -/
def receiver? (exchange : Exchange) (name : String) : Option Nat :=
  (exchange.receivers.find? fun entry => entry.1 == name).map Prod.snd

/-- Gives up a named receiver. -/
def drop (exchange : Exchange) (name : String) : Exchange :=
  match exchange.receiver? name with
  | none => exchange
  | some number =>
    { exchange.update number Channel.abandon with
      receivers := exchange.receivers.filter fun entry => entry.1 != name }

/-- Keeps the receiver of a channel under a name, giving up the one that had the name. -/
def keep (exchange : Exchange) (name : String) (number : Nat) : Exchange :=
  let dropped := exchange.drop name
  { dropped with receivers := (name, number) :: dropped.receivers }

end Exchange

/-- Channel numbers by subscriber; every name stands here at most once. -/
structure Bus where
  subscribers : List (String × Nat)
deriving DecidableEq

namespace Bus

/-- A bus without subscribers. -/
def empty : Bus := ⟨[]⟩

/-- The number of subscribers. -/
def length (bus : Bus) : Nat := bus.subscribers.length

/-- Removes a subscriber. -/
def unsubscribe (bus : Bus) (name : String) : Bus :=
  ⟨bus.subscribers.filter fun entry => entry.1 != name⟩

/-- Sends the signals of a name to a channel, and no longer to the one it had before. -/
def subscribe (bus : Bus) (name : String) (number : Nat) : Bus :=
  ⟨(name, number) :: (bus.unsubscribe name).subscribers⟩

/-- Whether signals still go to a channel. -/
def feeds (bus : Bus) (number : Nat) : Bool :=
  bus.subscribers.any fun entry => entry.2 == number

/-- The exchange after a signal to every subscriber. -/
def offerAll (bus : Bus) (exchange : Exchange) : Exchange :=
  bus.subscribers.foldl (fun exchange entry => exchange.update entry.2 Channel.offer) exchange

/-- The bus without the subscribers whose receiver is gone. -/
def attended (bus : Bus) (exchange : Exchange) : Bus :=
  ⟨bus.subscribers.filter fun entry => (exchange.channel entry.2).attended⟩

/-- Signals every subscriber and forgets those whose receiver is gone. -/
def publish (bus : Bus) (exchange : Exchange) : Bus × Exchange :=
  (bus.attended exchange, (bus.attended exchange).offerAll exchange)

end Bus

/-- What a receiver finds when it looks for a signal. -/
inductive Receipt where
  | signal
  | empty
  /-- Nothing waits, and nothing will come any more. -/
  | disconnected
deriving DecidableEq

/-- What a receiver finds in a channel that a bus may still feed. -/
def Channel.receipt (channel : Channel) (fed : Bool) : Receipt :=
  if 0 < channel.held then .signal else if fed then .empty else .disconnected

/-- A bus with its channels and receivers. -/
structure Circuit where
  bus : Bus
  exchange : Exchange
deriving DecidableEq

namespace Circuit

/-- A circuit without subscribers. -/
def empty : Circuit := ⟨Bus.empty, Exchange.empty⟩

/-- Subscribes a new channel under a name, then keeps its receiver under a name of its own. -/
def subscribe (circuit : Circuit) (name receiver : String) (capacity : Nat) : Circuit :=
  let number := circuit.exchange.nextNumber
  ⟨circuit.bus.subscribe name number,
    (circuit.exchange.connect capacity).keep receiver number⟩

/-- Takes a subscription back; its receiver stays. -/
def unsubscribe (circuit : Circuit) (name : String) : Circuit :=
  { circuit with bus := circuit.bus.unsubscribe name }

/-- Offers a signal to every subscriber. -/
def publish (circuit : Circuit) : Circuit :=
  ⟨(circuit.bus.publish circuit.exchange).1, (circuit.bus.publish circuit.exchange).2⟩

/-- Gives up a receiver. -/
def drop (circuit : Circuit) (receiver : String) : Circuit :=
  { circuit with exchange := circuit.exchange.drop receiver }

/-- Looks for a signal at a named receiver and takes it. -/
def receive (circuit : Circuit) (receiver : String) : Option Receipt × Circuit :=
  match circuit.exchange.receiver? receiver with
  | none => (none, circuit)
  | some number =>
    let found := (circuit.exchange.channel number).receipt (circuit.bus.feeds number)
    (some found, { circuit with exchange := circuit.exchange.update number Channel.take })

end Circuit

end StepSequencer
