/-
This file proves that subscribers of a bus do not get in each other's way. As long as somebody
keeps a receiver, nobody else has its channel: what the receiver sees is decided by a seat, that is,
by the signals that wait for it and by whether its subscription still stands. A seat changes with
signals, with looks of its own receiver, and with subscriptions under its own name, and everything
else leaves it as it is. So a signal that is admitted to a seat is found or still waits, and
whatever concerns neither the name nor the receiver could as well not have been done.
-/

import Mathlib.Data.List.Nodup
import StepSequencer.Proofs.Entries
import StepSequencer.Proofs.Switchboard

namespace StepSequencer

theorem Channel.receipt_eq_disconnected_iff {channel : Channel} {fed : Bool} :
    channel.receipt fed = .disconnected ↔ channel.held = 0 ∧ fed = false := by
  unfold receipt
  split
  next waits => exact ⟨nofun, fun both => absurd both.1 (Nat.ne_of_gt waits)⟩
  next quiet =>
    have none := Nat.eq_zero_of_not_pos quiet
    cases fed <;> simp [none]

namespace Exchange

variable (exchange : Exchange)

/-! ### Receivers -/

theorem receiver?_drop (name other : String) :
    (exchange.drop name).receiver? other =
      if other = name then none else exchange.receiver? other := by
  unfold drop
  split
  next unkept =>
    split
    next same => rw [same, unkept]
    next => rfl
  next =>
    refine (congrArg (Option.map Prod.snd) (find?_filter_key _ name other)).trans ?_
    exact apply_ite (Option.map Prod.snd) ..

theorem receiver?_cons (channels : List Channel) (receivers : List (String × Nat))
    (name other : String) (number : Nat) :
    Exchange.receiver? ⟨channels, (name, number) :: receivers⟩ other =
      if other = name then some number else Exchange.receiver? ⟨channels, receivers⟩ other := by
  refine (congrArg (Option.map Prod.snd) (find?_cons_key receivers name other number)).trans ?_
  exact apply_ite (Option.map Prod.snd) ..

theorem receiver?_keep (name other : String) (number : Nat) :
    (exchange.keep name number).receiver? other =
      if other = name then some number else exchange.receiver? other := by
  refine (receiver?_cons _ _ name other number).trans ?_
  split
  · rfl
  next apart => exact (exchange.receiver?_drop name other).trans (if_neg apart)

theorem channel_drop_of_ne {name : String} {number : Nat}
    (other : exchange.receiver? name ≠ some number) :
    (exchange.drop name).channel number = exchange.channel number := by
  unfold drop
  split
  next => rfl
  next kept found =>
    refine channel_update_of_ne (fun same => other ?_) Channel.abandon
    rw [found, same]

theorem channel_drop_self {name : String} {number : Nat}
    (kept : exchange.receiver? name = some number) (opened : number < exchange.channels.length) :
    (exchange.drop name).channel number = (exchange.channel number).abandon := by
  rw [drop, kept]
  exact channel_update opened Channel.abandon

theorem channel_connect_of_ne {number : Nat} (apart : number ≠ exchange.nextNumber)
    (capacity : Nat) : (exchange.connect capacity).channel number = exchange.channel number := by
  rcases Nat.lt_or_gt_of_ne apart with opened | beyond
  · exact channel_connect opened capacity
  · have outside : (exchange.channels ++ [Channel.ofCapacity capacity]).length ≤ number := by
      rw [List.length_append]
      exact beyond
    rw [channel, channel, connect, List.getD_eq_getElem?_getD, List.getD_eq_getElem?_getD,
      List.getElem?_eq_none outside, List.getElem?_eq_none (Nat.le_of_lt beyond)]

theorem update_connect {number : Nat} (opened : number < exchange.channels.length) (capacity : Nat)
    (change : Channel → Channel) : (exchange.connect capacity).update number change =
      (exchange.update number change).connect capacity := by
  refine congrArg (Exchange.mk · exchange.receivers) (List.ext_getElem? fun place => ?_)
  show ((exchange.channels ++ _).modify number change)[place]? =
    (exchange.channels.modify number change ++ _)[place]?
  rw [List.getElem?_modify, List.getElem?_append, List.getElem?_append, List.length_modify,
    List.getElem?_modify]
  by_cases before : place < exchange.channels.length
  · rw [if_pos before, if_pos before]
  · have apart : number ≠ place := fun same => before (same ▸ opened)
    simp [before, apart]

theorem connect_drop {name : String} (opened : ∀ number, exchange.receiver? name = some number →
      number < exchange.channels.length) (capacity : Nat) :
    (exchange.connect capacity).drop name = (exchange.drop name).connect capacity := by
  have same : (exchange.connect capacity).receiver? name = exchange.receiver? name := rfl
  unfold drop
  rw [same]
  cases kept : exchange.receiver? name with
  | none => rfl
  | some number =>
    have updated := exchange.update_connect (opened number kept) capacity Channel.abandon
    exact congrArg (Exchange.mk · (exchange.receivers.filter fun entry => entry.1 != name))
      (congrArg Exchange.channels updated)

theorem receiver?_congr {after : Exchange} (receivers : after.receivers = exchange.receivers) :
    after.receiver? = exchange.receiver? := by
  funext name
  rw [receiver?, receivers]
  rfl

/-- Whether a channel is attended to exactly if somebody keeps its receiver, who is then the only
one. -/
structure Settled (exchange : Exchange) : Prop where
  attended : ∀ number, (exchange.channel number).attended = true ↔
    ∃ name, exchange.receiver? name = some number
  alone : ∀ {number name other}, exchange.receiver? name = some number →
    exchange.receiver? other = some number → name = other

namespace Settled

variable {exchange : Exchange} (settled : exchange.Settled)
include settled

theorem isOpen {name : String} {number : Nat} (kept : exchange.receiver? name = some number) :
    number < exchange.channels.length :=
  opened_of_attended ((settled.attended number).mpr ⟨name, kept⟩)

/-- A channel that is attended to is given up by whoever keeps its receiver, and by nobody else. -/
theorem attended_drop (name : String) (number : Nat) :
    ((exchange.drop name).channel number).attended = true ↔
      (exchange.channel number).attended = true ∧ exchange.receiver? name ≠ some number := by
  by_cases kept : exchange.receiver? name = some number
  · rw [exchange.channel_drop_self kept (settled.isOpen kept)]
    exact ⟨nofun, fun both => absurd kept both.2⟩
  · rw [exchange.channel_drop_of_ne kept]
    exact ⟨fun attended => ⟨attended, kept⟩, And.left⟩

theorem drop (name : String) : (exchange.drop name).Settled where
  attended number := by
    rw [settled.attended_drop, settled.attended]
    simp only [receiver?_drop]
    constructor
    · rintro ⟨⟨keeper, kept⟩, other⟩
      refine ⟨keeper, ?_⟩
      rw [if_neg fun same => other (by rw [← same, kept])]
      exact kept
    · rintro ⟨keeper, kept⟩
      split at kept
      · cases kept
      · exact ⟨⟨keeper, kept⟩, fun also => absurd (settled.alone kept also) ‹_›⟩
  alone kept also := by
    rw [receiver?_drop] at kept also
    split at kept
    · cases kept
    · split at also
      · cases also
      · exact settled.alone kept also

/-- A new channel is attended to by whoever keeps its receiver. -/
theorem welcome {name : String} (unkept : exchange.receiver? name = none) (capacity : Nat) :
    Settled { exchange.connect capacity with
      receivers := (name, exchange.nextNumber) :: exchange.receivers } where
  attended number := by
    show ((exchange.connect capacity).channel number).attended = true ↔ _
    simp only [receiver?_cons]
    by_cases same : number = exchange.nextNumber
    · subst same
      rw [channel_connect_self]
      exact ⟨fun _ => ⟨name, if_pos rfl⟩, fun _ => rfl⟩
    · rw [exchange.channel_connect_of_ne same, settled.attended]
      refine exists_congr fun keeper => ?_
      split
      next own =>
        rw [own, unkept]
        exact ⟨nofun, fun also => absurd (Option.some.inj also).symm same⟩
      next => exact Iff.rfl
  alone {number keeper other} kept also := by
    rw [receiver?_cons] at kept also
    split at kept
    next own =>
      split at also
      next alsoOwn => exact own.trans alsoOwn.symm
      next => exact absurd (settled.isOpen also) (Option.some.inj kept ▸ Nat.lt_irrefl _)
    next =>
      split at also
      next => exact absurd (settled.isOpen kept) (Option.some.inj also ▸ Nat.lt_irrefl _)
      next => exact settled.alone kept also

theorem connect_keep (capacity : Nat) (name : String) :
    ((exchange.connect capacity).keep name exchange.nextNumber).Settled := by
  have unkept : (exchange.drop name).receiver? name = none :=
    (exchange.receiver?_drop name name).trans (if_pos rfl)
  have welcomed := (settled.drop name).welcome unkept capacity
  have number : (exchange.drop name).nextNumber = exchange.nextNumber := exchange.length_drop name
  unfold keep
  rw [exchange.connect_drop (fun number kept => settled.isOpen kept) capacity]
  rw [number] at welcomed
  exact welcomed

/-- Signals come and go, and nobody gives a receiver up. -/
theorem of_channels {after : Exchange} (receivers : after.receivers = exchange.receivers)
    (attended : ∀ number, (after.channel number).attended = (exchange.channel number).attended) :
    after.Settled := by
  have same := exchange.receiver?_congr receivers
  exact ⟨fun number => by rw [attended, same, settled.attended],
    fun kept also => settled.alone (same ▸ kept) (same ▸ also)⟩

end Settled

theorem attended_update {change : Channel → Channel}
    (keeps : ∀ channel, (change channel).attended = channel.attended) (number other : Nat) :
    ((exchange.update other change).channel number).attended =
      (exchange.channel number).attended := by
  by_cases same : other = number
  · subst same
    by_cases opened : other < exchange.channels.length
    · rw [channel_update opened, keeps]
    · have unchanged : exchange.update other change = exchange := by
        rw [update, List.modify_eq_self (Nat.not_lt.mp opened)]
      rw [unchanged]
  · rw [channel_update_of_ne same]

theorem update_offer_comm (number other : Nat) :
    (exchange.update number Channel.offer).update other Channel.offer =
      (exchange.update other Channel.offer).update number Channel.offer := by
  by_cases same : number = other
  · rw [same]
  · exact congrArg (Exchange.mk · exchange.receivers)
      (List.modify_modify_ne Channel.offer Channel.offer exchange.channels same)

end Exchange

namespace Bus

theorem attended_offerAll (bus : Bus) (exchange : Exchange) (number : Nat) :
    ((bus.offerAll exchange).channel number).attended = (exchange.channel number).attended := by
  obtain ⟨subscribers⟩ := bus
  induction subscribers generalizing exchange with
  | nil => rfl
  | cons entry rest inductionHypothesis =>
    exact (inductionHypothesis _).trans
      (exchange.attended_update Channel.attended_offer number entry.2)

theorem offerAll_perm {bus other : Bus} (reordered : other.subscribers.Perm bus.subscribers)
    (exchange : Exchange) : other.offerAll exchange = bus.offerAll exchange :=
  reordered.foldl_eq' (fun entry _ next _ exchange => exchange.update_offer_comm entry.2 next.2)
    exchange

/-- A channel whose subscriptions all stand under one name has one at most. -/
theorem subscriptions_le_one {bus : Bus} {number : Nat} {name : String}
    (distinct : (bus.subscribers.map Prod.fst).Nodup)
    (named : ∀ entry ∈ bus.subscribers, entry.2 = number → entry.1 = name) :
    bus.subscriptions number ≤ 1 := by
  have once : (bus.subscribers.map Prod.fst).count name ≤ 1 :=
    List.nodup_iff_count_le_one.mp distinct name
  rw [List.count, List.countP_map] at once
  refine Nat.le_trans (List.countP_mono_left fun entry member feeds => ?_) once
  exact beq_iff_eq.mpr (named entry member (beq_iff_eq.mp feeds))

end Bus

namespace Circuit

/-! ### Histories -/

/-- Something that is done to a circuit. -/
inductive Operation where
  | subscribe (name receiver : String) (capacity : Nat)
  | unsubscribe (name : String)
  | publish
  | receive (receiver : String)
  | drop (receiver : String)

/-- Whether an operation has to do with a name or with a receiver, as a signal always has. -/
def Operation.concerns (name receiver : String) : Operation → Bool
  | .subscribe subscriber keeper _ => subscriber == name || keeper == receiver
  | .unsubscribe subscriber => subscriber == name
  | .publish => true
  | .receive keeper | .drop keeper => keeper == receiver

/-- Whether an operation gives a receiver up, be it for another one. -/
def Operation.givesUp (receiver : String) : Operation → Bool
  | .subscribe _ keeper _ | .drop keeper => keeper == receiver
  | .unsubscribe _ | .publish | .receive _ => false

/-- The circuit after an operation. -/
def perform (circuit : Circuit) : Operation → Circuit
  | .subscribe name receiver capacity => circuit.subscribe name receiver capacity
  | .unsubscribe name => circuit.unsubscribe name
  | .publish => circuit.publish
  | .receive receiver => (circuit.receive receiver).2
  | .drop receiver => circuit.drop receiver

/-- The circuit after some operations. -/
def after (circuit : Circuit) (operations : List Operation) : Circuit :=
  operations.foldl perform circuit

/-- The channel of a named receiver. -/
def channel? (circuit : Circuit) (receiver : String) : Option Channel :=
  (circuit.exchange.receiver? receiver).map circuit.exchange.channel

/-- Whether the sender of a receiver is the one that is registered under a name. -/
def registers (circuit : Circuit) (name receiver : String) : Bool :=
  (circuit.exchange.receiver? receiver).any fun number =>
    circuit.bus.subscribers.contains (name, number)

/-- What a receiver finds with an operation, if the operation is a look at this receiver. -/
def finds? (circuit : Circuit) (receiver : String) : Operation → Option Receipt
  | .receive keeper => if keeper = receiver then (circuit.receive receiver).1 else none
  | .subscribe .. | .unsubscribe _ | .publish | .drop _ => none

/-- Whether an operation is a signal for the receiver that is registered under a name, and finds
room there. -/
def admits (circuit : Circuit) (name receiver : String) : Operation → Bool
  | .publish => circuit.registers name receiver &&
      (circuit.channel? receiver).any fun channel => channel.held < channel.capacity
  | .subscribe .. | .unsubscribe _ | .receive _ | .drop _ => false

/-- What a receiver finds with some operations, look by look. -/
def finds (receiver : String) : Circuit → List Operation → List Receipt
  | _, [] => []
  | circuit, operation :: rest =>
    (circuit.finds? receiver operation).toList ++ finds receiver (circuit.perform operation) rest

/-- How many signals some operations bring to the receiver that is registered under a name. -/
def admissions (name receiver : String) : Circuit → List Operation → Nat
  | _, [] => 0
  | circuit, operation :: rest =>
    (circuit.admits name receiver operation).toNat +
      admissions name receiver (circuit.perform operation) rest

/-! ### Circuits -/

theorem receive_snd {circuit : Circuit} {receiver : String} {number : Nat}
    (kept : circuit.exchange.receiver? receiver = some number) : (circuit.receive receiver).2 =
      { circuit with exchange := circuit.exchange.update number Channel.take } := by
  rw [receive, kept]

/-- Whether a bus knows every subscriber by a name of its own, sends signals to open channels only,
and everybody's receiver is that of one channel. -/
structure Wired (circuit : Circuit) : Prop where
  settled : circuit.exchange.Settled
  opened : ∀ entry ∈ circuit.bus.subscribers, entry.2 < circuit.exchange.channels.length
  distinct : (circuit.bus.subscribers.map Prod.fst).Nodup

theorem wired_empty : empty.Wired where
  settled := ⟨fun _ => ⟨nofun, nofun⟩, nofun⟩
  opened := nofun
  distinct := List.nodup_nil

namespace Wired

variable {circuit : Circuit} (wired : circuit.Wired)
include wired

theorem unsubscribe (name : String) : (circuit.unsubscribe name).Wired where
  settled := wired.settled
  opened entry member := wired.opened entry (List.mem_filter.mp member).1
  distinct := wired.distinct.sublist (List.filter_sublist.map Prod.fst)

theorem subscribe (name receiver : String) (capacity : Nat) :
    (circuit.subscribe name receiver capacity).Wired where
  settled := wired.settled.connect_keep capacity receiver
  opened entry member := by
    show entry.2 < ((circuit.exchange.connect capacity).drop receiver).channels.length
    rw [Exchange.length_drop, Exchange.length_connect]
    obtain rfl | behind := List.mem_cons.mp member
    · exact Nat.lt_succ_self _
    · exact Nat.lt_succ_of_lt ((wired.unsubscribe name).opened entry behind)
  distinct := by
    refine List.nodup_cons.mpr ⟨fun member => ?_, (wired.unsubscribe name).distinct⟩
    obtain ⟨entry, behind, same⟩ := List.mem_map.mp member
    exact bne_iff_ne.mp (List.mem_filter.mp behind).2 same

theorem publish : circuit.publish.Wired where
  settled := wired.settled.of_channels (Bus.receivers_offerAll _ _)
    (Bus.attended_offerAll _ circuit.exchange)
  opened entry member :=
    Nat.lt_of_lt_of_eq (wired.opened entry (List.mem_filter.mp member).1)
      (Bus.length_offerAll _ circuit.exchange).symm
  distinct := wired.distinct.sublist (List.filter_sublist.map Prod.fst)

theorem receive (receiver : String) : (circuit.receive receiver).2.Wired := by
  unfold Circuit.receive
  split
  next => exact wired
  next number _ =>
    have attended : ∀ channel : Channel, channel.take.attended = channel.attended := fun _ => rfl
    refine ⟨wired.settled.of_channels rfl fun other =>
      circuit.exchange.attended_update attended other number, fun entry member => ?_,
      wired.distinct⟩
    exact Nat.lt_of_lt_of_eq (wired.opened entry member)
      (circuit.exchange.length_update number Channel.take).symm

theorem drop (receiver : String) : (circuit.drop receiver).Wired where
  settled := wired.settled.drop receiver
  opened entry member :=
    Nat.lt_of_lt_of_eq (wired.opened entry member) (circuit.exchange.length_drop receiver).symm
  distinct := wired.distinct

theorem perform (operation : Operation) : (circuit.perform operation).Wired := by
  cases operation with
  | subscribe name receiver capacity => exact wired.subscribe name receiver capacity
  | unsubscribe name => exact wired.unsubscribe name
  | publish => exact wired.publish
  | receive receiver => exact wired.receive receiver
  | drop receiver => exact wired.drop receiver

theorem after (operations : List Operation) : (circuit.after operations).Wired :=
  List.foldlRecOn (motive := Wired) operations Circuit.perform wired
    fun _ still operation _ => still.perform operation

end Wired

/-! ### Seats -/

/-- What decides what a receiver sees: its channel, and whether its sender is still registered. -/
structure Seat where
  channel : Channel
  registered : Bool

namespace Seat

/-- The seat of a receiver after an operation. -/
def next (name receiver : String) (seat : Seat) : Operation → Seat
  | .subscribe subscriber _ _ | .unsubscribe subscriber =>
    { seat with registered := seat.registered && subscriber != name }
  | .publish => if seat.registered then { seat with channel := seat.channel.offer } else seat
  | .receive keeper =>
    if keeper = receiver then { seat with channel := seat.channel.take } else seat
  | .drop _ => seat

/-- What a receiver finds with an operation. -/
def finds? (receiver : String) (seat : Seat) : Operation → Option Receipt
  | .receive keeper =>
    if keeper = receiver then some (seat.channel.receipt seat.registered) else none
  | .subscribe .. | .unsubscribe _ | .publish | .drop _ => none

/-- Whether an operation brings a signal. -/
def admits (seat : Seat) : Operation → Bool
  | .publish => seat.registered && seat.channel.held < seat.channel.capacity
  | .subscribe .. | .unsubscribe _ | .receive _ | .drop _ => false

variable (seat : Seat) (name receiver : String) (operation : Operation)

theorem capacity_next :
    (seat.next name receiver operation).channel.capacity = seat.channel.capacity := by
  cases operation with
  | publish =>
    rw [next, Channel.offer]
    split
    · split <;> rfl
    · rfl
  | receive keeper =>
    rw [next]
    split <;> rfl
  | subscribe | unsubscribe | drop => rfl

/-- A signal that is admitted is held, and a signal that is found is held no longer. -/
theorem held_next : ((seat.finds? receiver operation).toList.count .signal) +
    (seat.next name receiver operation).channel.held =
      seat.channel.held + (seat.admits operation).toNat := by
  obtain ⟨⟨capacity, held, attended⟩, registered⟩ := seat
  cases operation with
  | publish =>
    cases registered with
    | false => exact Nat.zero_add held
    | true =>
      by_cases room : held < capacity <;> simp [finds?, next, admits, Channel.offer, room]
  | receive keeper =>
    by_cases own : keeper = receiver
    · cases held <;> cases registered <;>
        simp [finds?, next, admits, own, Channel.receipt, Channel.take, Nat.add_comm]
    · simp [finds?, next, admits, own]
  | subscribe | unsubscribe | drop => simp [finds?, next, admits]

/-- What has to do with neither a name nor its receiver leaves the seat as it is. -/
theorem next_of_not_concerns {name receiver : String} {operation : Operation}
    (apart : operation.concerns name receiver = false) :
    seat.next name receiver operation = seat ∧ seat.finds? receiver operation = none := by
  cases operation with
  | publish => cases apart
  | receive keeper =>
    have other : keeper ≠ receiver := beq_eq_false_iff_ne.mp apart
    exact ⟨if_neg other, if_neg other⟩
  | subscribe subscriber keeper capacity =>
    have other := (Bool.or_eq_false_iff.mp apart).1
    simp [next, finds?, bne, other]
  | unsubscribe subscriber =>
    have other : (subscriber == name) = false := apart
    simp [next, finds?, bne, other]
  | drop keeper => exact ⟨rfl, rfl⟩

end Seat

/-- Whether a receiver has a seat in a circuit. -/
structure Seated (circuit : Circuit) (name receiver : String) (number : Nat) (seat : Seat) : Prop
    extends circuit.Wired where
  kept : circuit.exchange.receiver? receiver = some number
  named : ∀ entry ∈ circuit.bus.subscribers, entry.2 = number → entry.1 = name
  channel : circuit.exchange.channel number = seat.channel
  registered : circuit.bus.feeds number = seat.registered

namespace Seated

variable {circuit : Circuit} {name receiver : String} {number : Nat} {seat : Seat}

/-- Whoever subscribes takes a seat that does not depend on what was before. -/
theorem subscribe (wired : circuit.Wired) (name receiver : String) (capacity : Nat) :
    (circuit.subscribe name receiver capacity).Seated name receiver circuit.exchange.nextNumber
      ⟨Channel.ofCapacity capacity, true⟩ where
  toWired := wired.subscribe name receiver capacity
  kept := (Exchange.receiver?_keep _ receiver receiver _).trans (if_pos rfl)
  named entry member same := by
    obtain rfl | behind := List.mem_cons.mp member
    · rfl
    · exact absurd same (Nat.ne_of_lt ((wired.unsubscribe name).opened entry behind))
  channel := by
    refine Eq.trans ?_ (circuit.exchange.channel_connect_self capacity)
    refine Exchange.channel_drop_of_ne _ fun kept => ?_
    exact Nat.lt_irrefl _ (wired.settled.isOpen kept)
  registered := Bus.feeds_subscribe_self _ _ name

variable (seated : circuit.Seated name receiver number seat)
include seated

theorem attended : (circuit.exchange.channel number).attended = true :=
  (seated.settled.attended number).mpr ⟨receiver, seated.kept⟩

theorem isOpen : number < circuit.exchange.channels.length := seated.settled.isOpen seated.kept

theorem apart {keeper : String} (other : keeper ≠ receiver) :
    circuit.exchange.receiver? keeper ≠ some number :=
  fun kept => other (seated.settled.alone kept seated.kept)

theorem subscribe_of_ne {keeper : String} (other : keeper ≠ receiver) (subscriber : String)
    (capacity : Nat) : (circuit.subscribe subscriber keeper capacity).Seated name receiver number
      { seat with registered := seat.registered && subscriber != name } where
  toWired := seated.toWired.subscribe subscriber keeper capacity
  kept := (Exchange.receiver?_keep _ keeper receiver _).trans
    ((if_neg other.symm).trans seated.kept)
  named entry member same := by
    obtain rfl | behind := List.mem_cons.mp member
    · exact absurd same (Nat.ne_of_gt seated.isOpen)
    · exact seated.named entry (List.mem_filter.mp behind).1 same
  channel := by
    refine Eq.trans ?_ ((Exchange.channel_connect seated.isOpen capacity).trans seated.channel)
    exact Exchange.channel_drop_of_ne _ (seated.apart other)
  registered := by
    rw [← seated.registered]
    exact Bus.feeds_subscribe _ number seated.named subscriber (Nat.ne_of_gt seated.isOpen)

theorem unsubscribe (subscriber : String) : (circuit.unsubscribe subscriber).Seated name receiver
    number { seat with registered := seat.registered && subscriber != name } where
  toWired := seated.toWired.unsubscribe subscriber
  kept := seated.kept
  named entry member := seated.named entry (List.mem_filter.mp member).1
  channel := seated.channel
  registered := by
    rw [← seated.registered]
    exact Bus.feeds_unsubscribe _ number seated.named subscriber

/-- A signal reaches a seat once if the subscription stands, and never if not. -/
theorem publish : circuit.publish.Seated name receiver number
    (if seat.registered then { seat with channel := seat.channel.offer } else seat) where
  toWired := seated.toWired.publish
  kept := by
    rw [← seated.kept]
    exact congrFun (Exchange.receiver?_congr _ (Bus.receivers_offerAll _ _)) receiver
  named entry member := seated.named entry (List.mem_filter.mp member).1
  channel := by
    have once := Bus.subscriptions_le_one seated.distinct seated.named
    have registered := seated.registered
    rw [Bus.feeds_eq] at registered
    refine (Bus.channel_publish circuit.bus seated.attended).trans ?_
    rw [← registered, seated.channel]
    rcases Nat.le_one_iff_eq_zero_or_eq_one.mp once with none | one
    · simp [none]
    · simp [one]
  registered := by
    have same : circuit.publish.bus.feeds number = circuit.bus.feeds number := by
      rw [Bus.feeds_eq, Bus.feeds_eq]
      exact congrArg (fun count => decide (0 < count))
        (Bus.subscriptions_attended seated.attended)
    rw [same, seated.registered]
    split <;> rfl

theorem receive (keeper : String) : (circuit.receive keeper).2.Seated name receiver number
    (if keeper = receiver then { seat with channel := seat.channel.take } else seat) := by
  have wired := seated.toWired.receive keeper
  by_cases own : keeper = receiver
  · subst own
    rw [if_pos rfl]
    rw [receive_snd seated.kept] at wired ⊢
    exact ⟨wired, seated.kept, seated.named,
      (Exchange.channel_update seated.isOpen Channel.take).trans
        (congrArg Channel.take seated.channel), seated.registered⟩
  · rw [if_neg own]
    cases kept : circuit.exchange.receiver? keeper with
    | none =>
      rw [Circuit.receive, kept]
      exact seated
    | some other =>
      have apart : other ≠ number := fun same => seated.apart own (same ▸ kept)
      rw [receive_snd kept] at wired ⊢
      exact ⟨wired, seated.kept, seated.named,
        (Exchange.channel_update_of_ne apart Channel.take).trans seated.channel,
        seated.registered⟩

theorem drop {keeper : String} (other : keeper ≠ receiver) :
    (circuit.drop keeper).Seated name receiver number seat where
  toWired := seated.toWired.drop keeper
  kept := (circuit.exchange.receiver?_drop keeper receiver).trans
    ((if_neg other.symm).trans seated.kept)
  named := seated.named
  channel := (circuit.exchange.channel_drop_of_ne (seated.apart other)).trans seated.channel
  registered := seated.registered

/-- As long as its receiver is kept, a seat goes through an operation without regard to others. -/
theorem perform {operation : Operation} (keeps : operation.givesUp receiver = false) :
    (circuit.perform operation).Seated name receiver number
      (seat.next name receiver operation) := by
  cases operation with
  | subscribe subscriber keeper capacity =>
    exact seated.subscribe_of_ne (beq_eq_false_iff_ne.mp keeps) subscriber capacity
  | unsubscribe subscriber => exact seated.unsubscribe subscriber
  | publish => exact seated.publish
  | receive keeper => exact seated.receive keeper
  | drop keeper => exact seated.drop (beq_eq_false_iff_ne.mp keeps)

theorem channel?_eq : circuit.channel? receiver = some seat.channel := by
  rw [channel?, seated.kept, Option.map_some, seated.channel]

theorem receive_eq :
    (circuit.receive receiver).1 = some (seat.channel.receipt seat.registered) := by
  rw [Circuit.receive, seated.kept]
  simp only [seated.channel, seated.registered]

theorem finds?_eq (operation : Operation) :
    circuit.finds? receiver operation = seat.finds? receiver operation := by
  cases operation with
  | receive keeper => rw [Circuit.finds?, seated.receive_eq, Seat.finds?]
  | subscribe | unsubscribe | publish | drop => rfl

theorem registers_iff (other : String) :
    circuit.registers other receiver = true ↔ other = name ∧ seat.registered = true := by
  rw [registers, seated.kept, Option.any_some, ← seated.registered, List.contains_iff_mem,
    Bus.feeds, List.any_eq_true]
  constructor
  · exact fun member =>
      ⟨seated.named _ member rfl, _, member, beq_self_eq_true number⟩
  · rintro ⟨rfl, ⟨subscriber, place⟩, member, same⟩
    obtain rfl : place = number := beq_iff_eq.mp same
    exact seated.named _ member rfl ▸ member

theorem registers_eq : circuit.registers name receiver = seat.registered := by
  rw [Bool.eq_iff_iff, seated.registers_iff]
  exact and_iff_right rfl

theorem admits_eq (operation : Operation) :
    circuit.admits name receiver operation = seat.admits operation := by
  cases operation with
  | publish =>
    rw [Circuit.admits, seated.registers_eq, seated.channel?_eq, Option.any_some, Seat.admits]
  | subscribe | unsubscribe | receive | drop => rfl

end Seated

/-! ### Runs -/

namespace Seated

variable {circuit : Circuit} {name receiver : String} {number : Nat} {seat : Seat}

/-- As long as its receiver is kept, a seat goes through all operations without regard to others. -/
theorem after {operations : List Operation} (seated : circuit.Seated name receiver number seat)
    (keeps : ∀ operation ∈ operations, operation.givesUp receiver = false) :
    (circuit.after operations).Seated name receiver number
      (operations.foldl (Seat.next name receiver) seat) := by
  induction operations generalizing circuit seat with
  | nil => exact seated
  | cons operation rest inductionHypothesis =>
    obtain ⟨first, behind⟩ := List.forall_mem_cons.mp keeps
    exact inductionHypothesis (seated.perform first) behind

/-- What is admitted to a seat is found there or still waits. -/
theorem count_finds {operations : List Operation}
    (seated : circuit.Seated name receiver number seat)
    (keeps : ∀ operation ∈ operations, operation.givesUp receiver = false) :
    (finds receiver circuit operations).count .signal +
        (operations.foldl (Seat.next name receiver) seat).channel.held =
      seat.channel.held + admissions name receiver circuit operations := by
  induction operations generalizing circuit seat with
  | nil => exact Nat.zero_add _
  | cons operation rest inductionHypothesis =>
    obtain ⟨first, behind⟩ := List.forall_mem_cons.mp keeps
    have found := inductionHypothesis (seated.perform first) behind
    have step := seat.held_next name receiver operation
    rw [finds, admissions, seated.finds?_eq, seated.admits_eq, List.count_append, List.foldl_cons]
    omega

theorem capacity_foldl (operations : List Operation) :
    (operations.foldl (Seat.next name receiver) seat).channel.capacity = seat.channel.capacity := by
  induction operations generalizing seat with
  | nil => rfl
  | cons operation rest inductionHypothesis =>
    exact inductionHypothesis.trans (seat.capacity_next name receiver operation)

/-- Whoever has the same seat in another circuit sees the same there, even if nothing is done that
has to do with neither the name nor the receiver. -/
theorem finds_filter {operations : List Operation} {other : Circuit} {place : Nat}
    (seated : circuit.Seated name receiver number seat)
    (seatedThere : other.Seated name receiver place seat)
    (keeps : ∀ operation ∈ operations, operation.givesUp receiver = false) :
    finds receiver circuit operations =
        finds receiver other (operations.filter (Operation.concerns name receiver)) ∧
      (circuit.after operations).channel? receiver = (other.after
        (operations.filter (Operation.concerns name receiver))).channel? receiver := by
  induction operations generalizing circuit other seat with
  | nil => exact ⟨rfl, seated.channel?_eq.trans seatedThere.channel?_eq.symm⟩
  | cons operation rest inductionHypothesis =>
    obtain ⟨first, behind⟩ := List.forall_mem_cons.mp keeps
    have performed := seated.perform first
    cases concerned : operation.concerns name receiver with
    | true =>
      obtain ⟨found, channel⟩ := inductionHypothesis performed (seatedThere.perform first) behind
      rw [List.filter_cons_of_pos concerned, finds, finds, seated.finds?_eq, seatedThere.finds?_eq,
        found]
      exact ⟨rfl, channel⟩
    | false =>
      obtain ⟨unmoved, unseen⟩ := seat.next_of_not_concerns concerned
      rw [unmoved] at performed
      obtain ⟨found, channel⟩ := inductionHypothesis performed seatedThere behind
      rw [List.filter_cons_of_neg (Bool.not_eq_true _ ▸ concerned), finds, seated.finds?_eq,
        unseen, found]
      exact ⟨rfl, channel⟩

end Seated

/-- Whether a signal makes a bus forget those subscribers whose receiver is gone, and no others, and
does the same in whatever order it visits the subscribers. -/
structure Prunes (circuit : Circuit) : Prop where
  distinct : (circuit.bus.subscribers.map Prod.fst).Nodup
  remain : ∀ name number, (name, number) ∈ circuit.publish.bus.subscribers ↔
    (name, number) ∈ circuit.bus.subscribers ∧
      ∃ receiver, circuit.exchange.receiver? receiver = some number
  anyOrder : ∀ subscribers, subscribers.Perm circuit.bus.subscribers →
    ((Bus.mk subscribers).publish circuit.exchange).1.subscribers.Perm
        circuit.publish.bus.subscribers ∧
      ((Bus.mk subscribers).publish circuit.exchange).2 = circuit.publish.exchange

theorem Wired.prunes {circuit : Circuit} (wired : circuit.Wired) : circuit.Prunes where
  distinct := wired.distinct
  remain _ number := List.mem_filter.trans (and_congr_right' (wired.settled.attended number))
  anyOrder _ reordered :=
    ⟨reordered.filter _, Bus.offerAll_perm (reordered.filter _) circuit.exchange⟩

/-- The circuit to which a receiver has just been subscribed, after whatever was done before. -/
def joined (before : List Operation) (name receiver : String) (capacity : Nat) : Circuit :=
  (empty.after before).subscribe name receiver capacity

/-- How a receiver fares that has been subscribed under a name, and how its bus does. -/
structure Undisturbed (before : List Operation) (name receiver : String) (capacity : Nat)
    (operations : List Operation) : Prop where
  /-- The signals that were found and those that still wait are those that were admitted. -/
  conserved : ∃ channel,
    ((joined before name receiver capacity).after operations).channel? receiver = some channel ∧
      channel.capacity = capacity ∧
      (finds receiver (joined before name receiver capacity) operations).count .signal +
        channel.held = admissions name receiver (joined before name receiver capacity) operations
  /-- What has to do with neither the name nor the receiver could as well not have been done. -/
  independent :
    finds receiver (joined before name receiver capacity) operations =
        finds receiver
          (joined (before.filter (Operation.concerns name receiver)) name receiver capacity)
          (operations.filter (Operation.concerns name receiver)) ∧
      ((joined before name receiver capacity).after operations).channel? receiver =
        ((joined (before.filter (Operation.concerns name receiver)) name receiver capacity).after
          (operations.filter (Operation.concerns name receiver))).channel? receiver
  /-- A receiver is told that nothing will come any more if nothing waits and no name leads to it,
  and not before. -/
  disconnected :
    (((joined before name receiver capacity).after operations).receive receiver).1 =
        some .disconnected ↔
      (∃ channel,
        ((joined before name receiver capacity).after operations).channel? receiver =
          some channel ∧ channel.held = 0) ∧
      ∀ other, ((joined before name receiver capacity).after operations).registers other receiver =
        false
  prunes : ∀ history, (empty.after history).Prunes

/-- Subscribers do not get in each other's way: whatever is done, a receiver that nobody gives up
fares as if it were alone with those who take its name. -/
theorem undisturbed_of_kept {receiver : String} {operations : List Operation}
    (keeps : ∀ operation ∈ operations, operation.givesUp receiver = false)
    (before : List Operation) (name : String) (capacity : Nat) :
    Undisturbed before name receiver capacity operations := by
  have wired := fun history => wired_empty.after history
  have seated := Seated.subscribe (wired before) name receiver capacity
  have seatedThere := Seated.subscribe (wired (before.filter (Operation.concerns name receiver)))
    name receiver capacity
  have still := seated.after keeps
  constructor
  case conserved =>
    refine ⟨_, still.channel?_eq, Seated.capacity_foldl operations, ?_⟩
    exact (seated.count_finds keeps).trans (Nat.zero_add _)
  case independent => exact seated.finds_filter seatedThere keeps
  case disconnected =>
    show ((((empty.after before).subscribe name receiver capacity).after operations).receive
      receiver).1 = _ ↔ _
    rw [still.receive_eq, Option.some_inj, Channel.receipt_eq_disconnected_iff]
    refine and_congr ?_ ?_
    · constructor
      · exact fun held => ⟨_, still.channel?_eq, held⟩
      · rintro ⟨channel, here, held⟩
        exact Option.some.inj (still.channel?_eq.symm.trans here) ▸ held
    · constructor
      · intro unregistered other
        refine Bool.eq_false_iff.mpr fun registers => ?_
        exact Bool.eq_false_iff.mp unregistered ((still.registers_iff other).mp registers).2
      · exact fun unregistered => still.registers_eq.symm.trans (unregistered name)
  case prunes => exact fun history => (wired history).prunes

/-- A receiver with room for one signal misses the second one, loses its name to another receiver,
finds the signal it has, and is then told that nothing will come any more. -/
theorem undisturbed_of_kept_renamed :
    (∀ operation ∈ [.publish, .publish, .drop "other", .subscribe "name" "next" 0, .publish,
        .receive "receiver", .receive "receiver"],
      Operation.givesUp "receiver" operation = false) ∧
    Undisturbed [.subscribe "another" "other" 1, .publish] "name" "receiver" 1
      [.publish, .publish, .drop "other", .subscribe "name" "next" 0, .publish,
        .receive "receiver", .receive "receiver"] ∧
    finds "receiver" (joined [.subscribe "another" "other" 1, .publish] "name" "receiver" 1)
      [.publish, .publish, .drop "other", .subscribe "name" "next" 0, .publish,
        .receive "receiver", .receive "receiver"] = [.signal, .disconnected] ∧
    admissions "name" "receiver"
      (joined [.subscribe "another" "other" 1, .publish] "name" "receiver" 1)
      [.publish, .publish, .drop "other", .subscribe "name" "next" 0, .publish,
        .receive "receiver", .receive "receiver"] = 1 :=
  ⟨by decide, undisturbed_of_kept (by decide) _ "name" 1, by decide, by decide⟩

end Circuit

end StepSequencer
