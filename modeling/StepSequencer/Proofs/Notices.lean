/-
This file follows signals through buses. A bus that publishes offers a channel one signal for each
subscription that feeds it, and leaves every other channel alone. So a channel that somebody attends
to and that only the stopped bus of an engine feeds shows how often this bus has published, however
often the engine listens to its other buses and answers them in between.
-/

import Mathlib.Logic.Function.Iterate
import StepSequencer.Playback.Action

namespace StepSequencer

theorem Channel.attended_offer (channel : Channel) : channel.offer.attended = channel.attended := by
  rw [Channel.offer]
  split <;> rfl

theorem Channel.attended_offers (channel : Channel) (count : Nat) :
    (Channel.offer^[count] channel).attended = channel.attended := by
  induction count generalizing channel with
  | zero => rfl
  | succ count inductionHypothesis =>
    rw [Function.iterate_succ_apply, inductionHypothesis, attended_offer]

namespace Exchange

variable {exchange : Exchange} {number : Nat}

theorem opened_of_attended (attended : (exchange.channel number).attended = true) :
    number < exchange.channels.length := by
  refine Nat.lt_of_not_le fun beyond => ?_
  simp [channel, List.getD_eq_getElem?_getD, List.getElem?_eq_none beyond] at attended

theorem channel_update_of_ne {other : Nat} (ne : other ≠ number) (change : Channel → Channel) :
    (exchange.update other change).channel number = exchange.channel number := by
  simp [channel, update, List.getD_eq_getElem?_getD, ne]

theorem channel_update (opened : number < exchange.channels.length) (change : Channel → Channel) :
    (exchange.update number change).channel number = change (exchange.channel number) := by
  simp [channel, update, List.getD_eq_getElem?_getD, opened]

theorem channel_connect (opened : number < exchange.channels.length) (capacity : Nat) :
    (exchange.connect capacity).channel number = exchange.channel number := by
  simp [channel, connect, List.getD_eq_getElem?_getD, List.getElem?_append_left opened]

end Exchange

namespace Bus

/-- How many subscriptions feed a channel. -/
def subscriptions (bus : Bus) (number : Nat) : Nat :=
  bus.subscribers.countP fun entry => entry.2 == number

variable {bus : Bus} {exchange : Exchange} {number : Nat}

theorem channel_offerAll (opened : number < exchange.channels.length) :
    (bus.offerAll exchange).channel number =
      Channel.offer^[bus.subscriptions number] (exchange.channel number) := by
  obtain ⟨subscribers⟩ := bus
  induction subscribers generalizing exchange with
  | nil => rfl
  | cons entry rest inductionHypothesis =>
    have still : number < (exchange.update entry.2 Channel.offer).channels.length := by
      simpa [Exchange.update] using opened
    have behind := inductionHypothesis still
    by_cases fed : entry.2 = number
    · subst fed
      rw [Exchange.channel_update opened] at behind
      simpa [subscriptions, offerAll] using behind
    · rw [Exchange.channel_update_of_ne fed] at behind
      simpa [subscriptions, offerAll, fed] using behind

theorem subscriptions_attended (attended : (exchange.channel number).attended = true) :
    (bus.attended exchange).subscriptions number = bus.subscriptions number := by
  rw [subscriptions, Bus.attended, List.countP_filter]
  refine List.countP_congr fun entry _ => ?_
  by_cases fed : entry.2 = number <;> simp [fed, attended]

theorem channel_publish (bus : Bus) (attended : (exchange.channel number).attended = true) :
    (bus.publish exchange).2.channel number =
      Channel.offer^[bus.subscriptions number] (exchange.channel number) := by
  rw [publish, channel_offerAll (Exchange.opened_of_attended attended),
    subscriptions_attended attended]

theorem subscriptions_subscribe (bus : Bus) (name : String) {other : Nat} (ne : other ≠ number) :
    (bus.subscribe name other).subscriptions number ≤ bus.subscriptions number := by
  rw [subscribe, subscriptions, List.countP_cons_of_neg (by simpa using ne)]
  exact (List.filter_sublist).countP_le

end Bus

namespace Engine

/-- Whether somebody attends to a channel that the stopped bus of an engine feeds, once, and that
has to do with nothing else that the engine does. -/
structure Watched (engine : Engine) (number : Nat) : Prop where
  attended : (engine.exchange.channel number).attended = true
  stopped : engine.stoppedBus.subscriptions number = 1
  play : engine.playBus.subscriptions number = 0
  stop : engine.stopBus.subscriptions number = 0
  listening : ∀ listening, engine.listening = some listening →
    listening.play ≠ number ∧ listening.stop ≠ number

/-- Whether a channel is watched as before, and has been offered so many signals. -/
structure Offered (engine : Engine) (number count : Nat) (after : Engine) : Prop where
  watched : after.Watched number
  channel : after.exchange.channel number =
    Channel.offer^[count] (engine.exchange.channel number)

variable {engine : Engine} {number : Nat}

theorem Watched.offered {after : Engine} (watched : engine.Watched number)
    (exchange : after.exchange = engine.exchange) (stopped : after.stoppedBus = engine.stoppedBus)
    (play : after.playBus = engine.playBus) (stop : after.stopBus = engine.stopBus)
    (listening : after.listening = engine.listening) : engine.Offered number 0 after where
  watched := ⟨exchange ▸ watched.attended, stopped ▸ watched.stopped, play ▸ watched.play,
    stop ▸ watched.stop, listening ▸ watched.listening⟩
  channel := exchange ▸ rfl

theorem Offered.trans {first second : Nat} {between after : Engine}
    (before : engine.Offered number first between)
    (behind : between.Offered number second after) :
    engine.Offered number (first + second) after where
  watched := behind.watched
  channel := by
    rw [behind.channel, before.channel, ← Function.iterate_add_apply, Nat.add_comm]

namespace Watched

variable (watched : engine.Watched number)
include watched

theorem attended_publish (bus : Bus) :
    ((bus.publish engine.exchange).2.channel number).attended = true := by
  rw [bus.channel_publish watched.attended, Channel.attended_offers, watched.attended]

theorem publish_play : engine.Offered number 0 { engine with
    playBus := (engine.playBus.publish engine.exchange).1
    exchange := (engine.playBus.publish engine.exchange).2 } := by
  have channel := engine.playBus.channel_publish watched.attended
  rw [watched.play] at channel
  exact ⟨⟨watched.attended_publish _, watched.stopped,
    (Bus.subscriptions_attended watched.attended).trans watched.play, watched.stop,
    watched.listening⟩, channel⟩

theorem publish_stop : engine.Offered number 0 { engine with
    stopBus := (engine.stopBus.publish engine.exchange).1
    exchange := (engine.stopBus.publish engine.exchange).2 } := by
  have channel := engine.stopBus.channel_publish watched.attended
  rw [watched.stop] at channel
  exact ⟨⟨watched.attended_publish _, watched.stopped, watched.play,
    (Bus.subscriptions_attended watched.attended).trans watched.stop, watched.listening⟩, channel⟩

theorem publish_stopped : engine.Offered number 1 { engine with
    stoppedBus := (engine.stoppedBus.publish engine.exchange).1
    exchange := (engine.stoppedBus.publish engine.exchange).2 } := by
  have channel := engine.stoppedBus.channel_publish watched.attended
  rw [watched.stopped] at channel
  exact ⟨⟨watched.attended_publish _,
    (Bus.subscriptions_attended watched.attended).trans watched.stopped, watched.play,
    watched.stop, watched.listening⟩, channel⟩

theorem takeSignal {channel : Listening → Nat}
    (other : ∀ listening, engine.listening = some listening → channel listening ≠ number) :
    engine.Offered number 0 (engine.takeSignal channel) := by
  rw [Engine.takeSignal]
  split
  next listening listens =>
    have same : (engine.exchange.update _ _).channel number = _ :=
      Exchange.channel_update_of_ne (other listening listens) Channel.take
    exact ⟨⟨same ▸ watched.attended, watched.stopped, watched.play, watched.stop,
      watched.listening⟩, same⟩
  next => exact watched.offered rfl rfl rfl rfl rfl

theorem listen : engine.Offered number 0 engine.listen := by
  have opened := Exchange.opened_of_attended watched.attended
  have wider : number < (engine.exchange.connect 1).channels.length :=
    Nat.lt_of_lt_of_le opened (by simp [Exchange.connect])
  have same : engine.listen.exchange.channel number = engine.exchange.channel number :=
    (Exchange.channel_connect wider 1).trans (Exchange.channel_connect opened 1)
  refine ⟨⟨same ▸ watched.attended, watched.stopped, ?_, ?_, ?_⟩, same⟩
  · exact Nat.le_zero.mp (watched.play ▸
      Bus.subscriptions_subscribe engine.playBus Engine.listenerName (Nat.ne_of_gt opened))
  · exact Nat.le_zero.mp (watched.stop ▸
      Bus.subscriptions_subscribe engine.stopBus Engine.listenerName (Nat.ne_of_gt wider))
  · rintro _ ⟨⟩
    exact ⟨Nat.ne_of_gt opened, Nat.ne_of_gt wider⟩

end Watched

end Engine

end StepSequencer
