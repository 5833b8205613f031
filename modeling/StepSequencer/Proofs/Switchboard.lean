/-
This file proves that requests always reach an engine that attends to them. The channels on which an
engine listens hold no signal between actions: each is fed by at most one subscription, on one bus,
a request that arrives there is answered at once, and whatever others subscribe to leads to other
channels. So whether a request is heard depends on nothing but whether the subscription of the
engine still stands.
-/

import StepSequencer.Playback.Studio
import StepSequencer.Proofs.Notices

namespace StepSequencer

namespace Exchange

variable (exchange : Exchange)

theorem length_update (number : Nat) (change : Channel → Channel) :
    (exchange.update number change).channels.length = exchange.channels.length :=
  List.length_modify ..

theorem channel_connect_self (capacity : Nat) :
    (exchange.connect capacity).channel exchange.nextNumber = Channel.ofCapacity capacity := by
  simp [channel, connect, nextNumber, List.getD_eq_getElem?_getD]

theorem length_connect (capacity : Nat) :
    (exchange.connect capacity).channels.length = exchange.channels.length + 1 := by
  simp [connect]

theorem mem_receivers_of_receiver? {name : String} {number : Nat}
    (kept : exchange.receiver? name = some number) : ∃ entry ∈ exchange.receivers,
      entry.2 = number := by
  obtain ⟨entry, found, same⟩ := Option.map_eq_some_iff.mp kept
  exact ⟨entry, List.mem_of_find?_eq_some found, same⟩

theorem length_drop (name : String) :
    (exchange.drop name).channels.length = exchange.channels.length := by
  unfold drop
  split
  · rfl
  · exact exchange.length_update _ _

theorem mem_of_mem_drop {name : String} {entry : String × Nat}
    (member : entry ∈ (exchange.drop name).receivers) : entry ∈ exchange.receivers := by
  unfold drop at member
  split at member
  · exact member
  · exact (List.mem_filter.mp member).1

/-- A channel whose receiver nobody has kept is not given up. -/
theorem channel_drop {name : String} {number : Nat}
    (unkept : ∀ entry ∈ exchange.receivers, entry.2 ≠ number) :
    (exchange.drop name).channel number = exchange.channel number := by
  unfold drop
  split
  next => rfl
  next other kept =>
    obtain ⟨entry, member, same⟩ := exchange.mem_receivers_of_receiver? kept
    exact Exchange.channel_update_of_ne (same ▸ unkept entry member) _

end Exchange

namespace Bus

theorem length_offerAll (bus : Bus) (exchange : Exchange) :
    (bus.offerAll exchange).channels.length = exchange.channels.length := by
  obtain ⟨subscribers⟩ := bus
  induction subscribers generalizing exchange with
  | nil => rfl
  | cons entry rest inductionHypothesis =>
    exact (inductionHypothesis _).trans (exchange.length_update _ _)

theorem receivers_offerAll (bus : Bus) (exchange : Exchange) :
    (bus.offerAll exchange).receivers = exchange.receivers := by
  obtain ⟨subscribers⟩ := bus
  induction subscribers generalizing exchange with
  | nil => rfl
  | cons entry rest inductionHypothesis => exact inductionHypothesis _

variable (bus : Bus) (number : Nat)

theorem feeds_eq : bus.feeds number = decide (0 < bus.subscriptions number) := by
  rw [Bool.eq_iff_iff, decide_eq_true_iff, subscriptions, List.countP_pos_iff]
  exact List.any_eq_true

/-- A subscriber takes back what stands under its name. -/
theorem feeds_unsubscribe {owner : String}
    (named : ∀ entry ∈ bus.subscribers, entry.2 = number → entry.1 = owner) (name : String) :
    (bus.unsubscribe name).feeds number = (bus.feeds number && name != owner) := by
  rw [Bool.eq_iff_iff]
  simp only [feeds, unsubscribe, List.any_eq_true, List.mem_filter, Bool.and_eq_true, bne_iff_ne,
    beq_iff_eq]
  constructor
  · rintro ⟨entry, ⟨member, other⟩, same⟩
    exact ⟨⟨entry, member, same⟩, fun taken => other (taken ▸ named entry member same)⟩
  · rintro ⟨⟨entry, member, same⟩, other⟩
    exact ⟨entry, ⟨member, named entry member same ▸ other.symm⟩, same⟩

theorem feeds_subscribe {owner : String}
    (named : ∀ entry ∈ bus.subscribers, entry.2 = number → entry.1 = owner) (name : String)
    {other : Nat} (apart : other ≠ number) :
    (bus.subscribe name other).feeds number = (bus.feeds number && name != owner) := by
  rw [← bus.feeds_unsubscribe number named name]
  simp [feeds, subscribe, apart]

theorem feeds_subscribe_self (name : String) : (bus.subscribe name number).feeds number = true := by
  simp [feeds, subscribe]

theorem subscriptions_unsubscribe (name : String) :
    (bus.unsubscribe name).subscriptions number ≤ bus.subscriptions number :=
  List.filter_sublist.countP_le

end Bus

/-- How an engine is connected to those who send it signals, and to those who wait for its own. -/
structure Switchboard where
  exchange : Exchange
  bus : BusName → Bus
  listening : Option Listening

namespace Switchboard

/-- The channel on which an engine listens to a bus. -/
def own? (board : Switchboard) : BusName → Option Nat
  | .play => board.listening.map Listening.play
  | .stop => board.listening.map Listening.stop
  | .stopped => none

/-- Whether the subscription of an engine to a bus still stands. -/
def attendsTo (board : Switchboard) (name : BusName) : Bool :=
  (board.own? name).any (board.bus name).feeds

/-- Whether a channel belongs to an engine: at most one subscription feeds it, on one bus and under
the name of the engine, nobody else keeps its receiver, and it holds nothing. -/
structure Tuned (board : Switchboard) (name : BusName) (number : Nat) : Prop where
  fed : ∀ other, (board.bus other).subscriptions number ≤ if other = name then 1 else 0
  named : ∀ other, ∀ entry ∈ (board.bus other).subscribers, entry.2 = number →
    entry.1 = Engine.listenerName
  unkept : ∀ entry ∈ board.exchange.receivers, entry.2 ≠ number
  channel : board.exchange.channel number = Channel.ofCapacity 1

/-- Whether nobody uses a channel that has not been opened yet. -/
structure Bounded (board : Switchboard) : Prop where
  fed : ∀ name, ∀ entry ∈ (board.bus name).subscribers,
    entry.2 < board.exchange.channels.length
  kept : ∀ entry ∈ board.exchange.receivers, entry.2 < board.exchange.channels.length

/-- Whether the channels on which an engine listens belong to it. -/
structure Attentive (board : Switchboard) : Prop extends board.Bounded where
  tuned : ∀ name number, board.own? name = some number → board.Tuned name number

/-! ### Signals -/

/-- A switchboard after a signal on a bus. -/
def publish (board : Switchboard) (name : BusName) : Switchboard where
  exchange := ((board.bus name).publish board.exchange).2
  bus := Function.update board.bus name ((board.bus name).publish board.exchange).1
  listening := board.listening

/-- A switchboard after a channel has changed. -/
def update (board : Switchboard) (number : Nat) (change : Channel → Channel) : Switchboard :=
  { board with exchange := board.exchange.update number change }

variable {board : Switchboard} {name other : BusName} {number : Nat}

theorem bus_publish : (board.publish name).bus other =
    if other = name then (board.bus name).attended board.exchange else board.bus other :=
  Function.update_apply ..

theorem mem_of_mem_publish {entry : String × Nat}
    (member : entry ∈ ((board.publish name).bus other).subscribers) :
    entry ∈ (board.bus other).subscribers := by
  rw [bus_publish] at member
  split at member
  next same =>
    subst same
    exact (List.mem_filter.mp member).1
  next => exact member

@[simp]
theorem length_publish :
    (board.publish name).exchange.channels.length = board.exchange.channels.length :=
  Bus.length_offerAll _ _

@[simp]
theorem receivers_publish :
    (board.publish name).exchange.receivers = board.exchange.receivers :=
  Bus.receivers_offerAll _ _

namespace Tuned

variable (tuned : board.Tuned name number)
include tuned

theorem attended : (board.exchange.channel number).attended = true := by
  rw [tuned.channel]
  rfl

theorem isOpen : number < board.exchange.channels.length :=
  Exchange.opened_of_attended tuned.attended

theorem subscriptions_publish (other bus : BusName) :
    ((board.publish other).bus bus).subscriptions number =
      (board.bus bus).subscriptions number := by
  rw [bus_publish]
  split
  next same =>
    subst same
    exact Bus.subscriptions_attended tuned.attended
  next => rfl

theorem feeds_publish (other bus : BusName) :
    ((board.publish other).bus bus).feeds number = (board.bus bus).feeds number := by
  rw [Bus.feeds_eq, Bus.feeds_eq, tuned.subscriptions_publish]

/-- A bus that does not feed a channel leaves it empty. -/
theorem publish (quiet : (board.bus other).feeds number = false) :
    (board.publish other).Tuned name number where
  fed bus := by
    rw [tuned.subscriptions_publish]
    exact tuned.fed bus
  named bus entry member := tuned.named bus entry (mem_of_mem_publish member)
  unkept := by
    rw [receivers_publish]
    exact tuned.unkept
  channel := by
    have unfed : (board.bus other).subscriptions number = 0 := by
      simpa [Bus.feeds_eq] using quiet
    rw [Switchboard.publish, Bus.channel_publish _ tuned.attended, unfed]
    exact tuned.channel

theorem feeds_of_ne (apart : other ≠ name) : (board.bus other).feeds number = false := by
  have none := tuned.fed other
  rw [if_neg apart] at none
  simpa [Bus.feeds_eq] using none

/-- A signal arrives if the subscription stands. -/
theorem held_publish : ((board.publish name).exchange.channel number).held =
    if (board.bus name).feeds number then 1 else 0 := by
  have once := tuned.fed name
  rw [if_pos rfl] at once
  rw [Switchboard.publish, Bus.channel_publish _ tuned.attended, tuned.channel, Bus.feeds_eq]
  obtain none | one : (board.bus name).subscriptions number = 0 ∨
      (board.bus name).subscriptions number = 1 := by omega
  · rw [none]
    rfl
  · rw [one]
    rfl

/-- A signal that is taken leaves a channel as it was. -/
theorem publish_take (stands : (board.bus name).feeds number = true) :
    ((board.publish name).update number Channel.take).Tuned name number where
  fed bus := Nat.le_trans (Nat.le_of_eq (tuned.subscriptions_publish name bus)) (tuned.fed bus)
  named bus entry member := tuned.named bus entry (mem_of_mem_publish member)
  unkept := by
    rw [update, Exchange.update, receivers_publish]
    exact tuned.unkept
  channel := by
    have once := tuned.fed name
    have opened : number < (board.publish name).exchange.channels.length := by
      rw [length_publish]
      exact tuned.isOpen
    rw [if_pos rfl] at once
    rw [Bus.feeds_eq, decide_eq_true_iff] at stands
    rw [update, Exchange.channel_update opened, Switchboard.publish,
      Bus.channel_publish _ tuned.attended, tuned.channel, Nat.le_antisymm once stands]
    rfl

theorem update {another : Nat} (apart : another ≠ number) (change : Channel → Channel) :
    (board.update another change).Tuned name number where
  fed := tuned.fed
  named := tuned.named
  unkept := tuned.unkept
  channel := (Exchange.channel_update_of_ne apart _).trans tuned.channel

/-- A channel that a standing subscription feeds does not belong to another bus. -/
theorem ne_of_feeds {another : Nat} (apart : other ≠ name)
    (stands : (board.bus other).feeds another = true) : another ≠ number := by
  rintro rfl
  exact absurd (stands.symm.trans (tuned.feeds_of_ne apart)) nofun

end Tuned

/-- A switchboard after a signal on a bus that the engine takes if it arrives. -/
def request (board : Switchboard) (name : BusName) : Switchboard :=
  match board.own? name with
  | some number =>
    if (board.bus name).feeds number then (board.publish name).update number Channel.take
    else board.publish name
  | none => board.publish name

/-! ### Subscriptions -/

/-- A switchboard after a new channel has been subscribed to a bus. -/
def enlist (board : Switchboard) (name : BusName) (subscriber : String) (capacity : Nat) :
    Switchboard where
  exchange := board.exchange.connect capacity
  bus := Function.update board.bus name
    ((board.bus name).subscribe subscriber board.exchange.nextNumber)
  listening := board.listening

/-- A switchboard after somebody has kept the receiver of a channel. -/
def keep (board : Switchboard) (subscriber : String) (number : Nat) : Switchboard :=
  { board with exchange := board.exchange.keep subscriber number }

/-- A switchboard after somebody has taken back a subscription. -/
def unsubscribe (board : Switchboard) (name : BusName) (subscriber : String) : Switchboard :=
  { board with bus := Function.update board.bus name ((board.bus name).unsubscribe subscriber) }

/-- A switchboard after the engine has subscribed to its buses. -/
def listen (board : Switchboard) : Switchboard :=
  { (board.enlist .play Engine.listenerName 1).enlist .stop Engine.listenerName 1 with
    listening := some ⟨board.exchange.nextNumber, (board.exchange.connect 1).nextNumber⟩ }

/-- Whether the subscription of an engine to a bus outlasts that somebody takes a name on a bus, or
takes it back. -/
def outlasts (name : BusName) (subscriber : String) (other : BusName) : Bool :=
  other != name || subscriber != Engine.listenerName

theorem bus_enlist (subscriber : String) (capacity : Nat) :
    (board.enlist name subscriber capacity).bus other =
      if other = name then (board.bus name).subscribe subscriber board.exchange.nextNumber
      else board.bus other :=
  Function.update_apply ..

theorem mem_of_mem_enlist {subscriber : String} {capacity : Nat} {entry : String × Nat}
    (member : entry ∈ ((board.enlist name subscriber capacity).bus other).subscribers) :
    other = name ∧ entry = (subscriber, board.exchange.nextNumber) ∨
      entry ∈ (board.bus other).subscribers := by
  rw [bus_enlist] at member
  split at member
  next same =>
    subst same
    exact (List.mem_cons.mp member).imp (And.intro rfl) fun behind => (List.mem_filter.mp behind).1
  next => exact .inr member

theorem bus_unsubscribe (subscriber : String) :
    (board.unsubscribe name subscriber).bus other =
      if other = name then (board.bus name).unsubscribe subscriber else board.bus other :=
  Function.update_apply ..

theorem mem_of_mem_unsubscribe {subscriber : String} {entry : String × Nat}
    (member : entry ∈ ((board.unsubscribe name subscriber).bus other).subscribers) :
    entry ∈ (board.bus other).subscribers := by
  rw [bus_unsubscribe] at member
  split at member
  next same =>
    subst same
    exact (List.mem_filter.mp member).1
  next => exact member

namespace Bounded

variable (bounded : board.Bounded)
include bounded

theorem publish (name : BusName) : (board.publish name).Bounded where
  fed bus entry member := by
    rw [length_publish]
    exact bounded.fed bus entry (mem_of_mem_publish member)
  kept := by
    rw [length_publish, receivers_publish]
    exact bounded.kept

theorem update (number : Nat) (change : Channel → Channel) :
    (board.update number change).Bounded where
  fed bus entry member := by
    rw [Switchboard.update, Exchange.length_update]
    exact bounded.fed bus entry member
  kept entry member := by
    rw [Switchboard.update, Exchange.length_update]
    exact bounded.kept entry member

theorem enlist (name : BusName) (subscriber : String) (capacity : Nat) :
    (board.enlist name subscriber capacity).Bounded where
  fed bus entry member := by
    rw [Switchboard.enlist, Exchange.length_connect]
    rcases mem_of_mem_enlist member with ⟨_, rfl⟩ | behind
    · exact Nat.lt_succ_self _
    · exact Nat.lt_succ_of_lt (bounded.fed bus entry behind)
  kept entry member := by
    rw [Switchboard.enlist, Exchange.length_connect]
    exact Nat.lt_succ_of_lt (bounded.kept entry member)

theorem keep (subscriber : String) (opened : number < board.exchange.channels.length) :
    (board.keep subscriber number).Bounded where
  fed bus entry member :=
    Nat.lt_of_lt_of_eq (bounded.fed bus entry member) (Exchange.length_drop _ _).symm
  kept entry member := by
    refine Nat.lt_of_lt_of_eq ?_ (Exchange.length_drop _ subscriber).symm
    rcases List.mem_cons.mp member with rfl | behind
    · exact opened
    · exact bounded.kept entry (Exchange.mem_of_mem_drop _ behind)

theorem unsubscribe (name : BusName) (subscriber : String) :
    (board.unsubscribe name subscriber).Bounded where
  fed bus entry member := bounded.fed bus entry (mem_of_mem_unsubscribe member)
  kept := bounded.kept

/-- A channel that is yet to be opened is not fed. -/
theorem subscriptions_nextNumber (bus : BusName) :
    (board.bus bus).subscriptions board.exchange.nextNumber = 0 := by
  refine List.countP_eq_zero.mpr fun entry member same => ?_
  exact Nat.ne_of_lt (bounded.fed bus entry member) (beq_iff_eq.mp same)

/-- A new channel of an engine belongs to it. -/
theorem tuned_enlist (name : BusName) :
    (board.enlist name Engine.listenerName 1).Tuned name board.exchange.nextNumber where
  fed other := by
    rw [bus_enlist]
    split
    next =>
      have unfed := (board.bus name).subscriptions_unsubscribe board.exchange.nextNumber
        Engine.listenerName
      rw [bounded.subscriptions_nextNumber] at unfed
      simpa [Bus.subscribe, Bus.subscriptions] using unfed
    next => exact Nat.le_of_eq (bounded.subscriptions_nextNumber other)
  named other entry member same := by
    rcases mem_of_mem_enlist member with ⟨_, rfl⟩ | behind
    · rfl
    · exact absurd same (Nat.ne_of_lt (bounded.fed other entry behind))
  unkept entry member := Nat.ne_of_lt (bounded.kept entry member)
  channel := Exchange.channel_connect_self _ _

end Bounded

namespace Tuned

variable (tuned : board.Tuned name number)
include tuned

theorem enlist (bus : BusName) (subscriber : String) (capacity : Nat) :
    (board.enlist bus subscriber capacity).Tuned name number where
  fed other := by
    refine Nat.le_trans ?_ (tuned.fed other)
    rw [bus_enlist]
    split
    next same =>
      subst same
      exact Bus.subscriptions_subscribe _ _ (Nat.ne_of_gt tuned.isOpen)
    next => exact Nat.le_refl _
  named other entry member same := by
    rcases mem_of_mem_enlist member with ⟨_, rfl⟩ | behind
    · exact absurd same (Nat.ne_of_gt tuned.isOpen)
    · exact tuned.named other entry behind same
  unkept := tuned.unkept
  channel := (Exchange.channel_connect tuned.isOpen capacity).trans tuned.channel

theorem keep (subscriber : String) {another : Nat} (apart : another ≠ number) :
    (board.keep subscriber another).Tuned name number where
  fed := tuned.fed
  named := tuned.named
  unkept entry member := by
    rcases List.mem_cons.mp member with rfl | behind
    · exact apart
    · exact tuned.unkept entry (Exchange.mem_of_mem_drop _ behind)
  channel := (Exchange.channel_drop _ tuned.unkept).trans tuned.channel

theorem unsubscribe (bus : BusName) (subscriber : String) :
    (board.unsubscribe bus subscriber).Tuned name number where
  fed other := by
    refine Nat.le_trans ?_ (tuned.fed other)
    rw [bus_unsubscribe]
    split
    next same =>
      subst same
      exact Bus.subscriptions_unsubscribe _ _ _
    next => exact Nat.le_refl _
  named other entry member := tuned.named other entry (mem_of_mem_unsubscribe member)
  unkept := tuned.unkept
  channel := tuned.channel

end Tuned

/-! ### Attentive engines -/

/-- Whether an engine attends to a bus depends on its channels and on the buses. -/
theorem attendsTo_congr {before after : Switchboard} {outlasts : Bool}
    (own : after.own? other = before.own? other)
    (feeds : ∀ number, before.own? other = some number →
      (after.bus other).feeds number = ((before.bus other).feeds number && outlasts)) :
    after.attendsTo other = (before.attendsTo other && outlasts) := by
  unfold attendsTo
  rw [own]
  cases owned : before.own? other with
  | none => rfl
  | some number => exact feeds number owned

namespace Attentive

variable (attentive : board.Attentive)
include attentive

theorem publish (quiet : ∀ number, board.own? name = some number →
    (board.bus name).feeds number = false) : (board.publish name).Attentive where
  toBounded := attentive.toBounded.publish name
  tuned bus number owned := by
    have tuned := attentive.tuned bus number owned
    by_cases same : name = bus
    · subst same
      exact tuned.publish (quiet number owned)
    · exact tuned.publish (tuned.feeds_of_ne same)

theorem publish_take (owned : board.own? name = some number)
    (stands : (board.bus name).feeds number = true) :
    ((board.publish name).update number Channel.take).Attentive where
  toBounded := (attentive.toBounded.publish name).update number Channel.take
  tuned bus other alsoOwned := by
    have tuned := attentive.tuned bus other alsoOwned
    by_cases same : name = bus
    · subst same
      obtain rfl := Option.some.inj (owned.symm.trans alsoOwned)
      exact tuned.publish_take stands
    · exact (tuned.publish (tuned.feeds_of_ne same)).update (tuned.ne_of_feeds same stands) _

/-- Nothing of a signal is left behind, whether it arrives or not. -/
theorem request (name : BusName) : (board.request name).Attentive := by
  unfold Switchboard.request
  split
  next number owned =>
    split
    next stands => exact attentive.publish_take owned stands
    next falls =>
      refine attentive.publish fun other alsoOwned => ?_
      obtain rfl := Option.some.inj (owned.symm.trans alsoOwned)
      exact Bool.eq_false_iff.mpr falls
  next unowned =>
    exact attentive.publish fun other alsoOwned => nomatch unowned.symm.trans alsoOwned

theorem attendsTo_publish (name other : BusName) :
    (board.publish name).attendsTo other = board.attendsTo other := by
  rw [← Bool.and_true (board.attendsTo other)]
  refine attendsTo_congr (by cases other <;> rfl) fun number owned => ?_
  rw [Bool.and_true]
  exact (attentive.tuned other number owned).feeds_publish name other

theorem attendsTo_request (name other : BusName) :
    (board.request name).attendsTo other = board.attendsTo other := by
  have published := attentive.attendsTo_publish name other
  unfold Switchboard.request
  split
  · split
    · exact published
    · exact published
  · exact published

/-- A signal arrives if an engine attends to its bus. -/
theorem any_held_publish (name : BusName) :
    ((board.own? name).any fun number =>
      0 < ((board.publish name).exchange.channel number).held) = board.attendsTo name := by
  unfold attendsTo
  cases owned : board.own? name with
  | none => rfl
  | some number =>
    rw [Option.any_some, Option.any_some, (attentive.tuned name number owned).held_publish]
    cases (board.bus name).feeds number <;> rfl

theorem subscribe (name : BusName) (subscriber : String) (capacity : Nat) :
    ((board.enlist name subscriber capacity).keep subscriber
      board.exchange.nextNumber).Attentive where
  toBounded := (attentive.toBounded.enlist name subscriber capacity).keep subscriber <| by
    rw [Switchboard.enlist, Exchange.length_connect]
    exact Nat.lt_succ_self _
  tuned bus number owned :=
    have tuned := attentive.tuned bus number (by cases bus <;> exact owned)
    (tuned.enlist name subscriber capacity).keep subscriber (Nat.ne_of_gt tuned.isOpen)

theorem attendsTo_subscribe (name : BusName) (subscriber : String) (capacity : Nat)
    (other : BusName) :
    ((board.enlist name subscriber capacity).keep subscriber
      board.exchange.nextNumber).attendsTo other =
        (board.attendsTo other && outlasts name subscriber other) := by
  refine attendsTo_congr (by cases other <;> rfl) fun number owned => ?_
  have tuned := attentive.tuned other number owned
  have fresh : board.exchange.nextNumber ≠ number := Nat.ne_of_gt tuned.isOpen
  rw [Switchboard.keep, bus_enlist, outlasts]
  split
  next same =>
    subst same
    simpa using Bus.feeds_subscribe _ number (tuned.named other) subscriber fresh
  next apart => simp [apart]

theorem unsubscribe (name : BusName) (subscriber : String) :
    (board.unsubscribe name subscriber).Attentive where
  toBounded := attentive.toBounded.unsubscribe name subscriber
  tuned bus number owned :=
    Tuned.unsubscribe (attentive.tuned bus number (by cases bus <;> exact owned)) name subscriber

theorem attendsTo_unsubscribe (name : BusName) (subscriber : String) (other : BusName) :
    (board.unsubscribe name subscriber).attendsTo other =
      (board.attendsTo other && outlasts name subscriber other) := by
  refine attendsTo_congr (by cases other <;> rfl) fun number owned => ?_
  have tuned := attentive.tuned other number owned
  rw [bus_unsubscribe, outlasts]
  split
  next same =>
    subst same
    simpa using Bus.feeds_unsubscribe _ number (tuned.named other) subscriber
  next apart => simp [apart]

/-- Others may do what they like with a channel whose receiver they have kept. -/
theorem update {subscriber : String}
    (kept : board.exchange.receiver? subscriber = some number) (change : Channel → Channel) :
    (board.update number change).Attentive where
  toBounded := attentive.toBounded.update number change
  tuned bus other owned := by
    have tuned := attentive.tuned bus other (by cases bus <;> exact owned)
    obtain ⟨entry, member, same⟩ := board.exchange.mem_receivers_of_receiver? kept
    exact tuned.update (same ▸ tuned.unkept entry member) change

/-- An engine that has begun to listen is attentive whatever it listened to before. -/
theorem listen : board.listen.Attentive := by
  have play := attentive.toBounded.tuned_enlist .play
  have bounded := attentive.toBounded.enlist .play Engine.listenerName 1
  have both := bounded.enlist .stop Engine.listenerName 1
  refine ⟨⟨both.fed, both.kept⟩, fun name number owned => ?_⟩
  cases name with
  | play =>
    obtain rfl := Option.some.inj owned
    have tuned := play.enlist .stop Engine.listenerName 1
    exact ⟨tuned.fed, tuned.named, tuned.unkept, tuned.channel⟩
  | stop =>
    obtain rfl := Option.some.inj owned
    have tuned := bounded.tuned_enlist .stop
    exact ⟨tuned.fed, tuned.named, tuned.unkept, tuned.channel⟩
  | stopped => cases owned

end Attentive

theorem attendsTo_listen (name : BusName) : board.listen.attendsTo name = (name != .stopped) := by
  cases name with
  | play | stop => exact Bus.feeds_subscribe_self _ _ _
  | stopped => rfl

end Switchboard

end StepSequencer
