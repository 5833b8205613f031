/-
This file proves how plays are framed at a connected sync output. What has gone out is one block for
each play, in order. A play that began as a leader sends a start, one clock message for every tick
during it, and a stop once it is over; other plays send nothing. The sync mode that counts is the
one at the beginning, whatever is configured or asked for while the play runs.
-/

import StepSequencer.Proofs.Chronicles

namespace StepSequencer

/-- The messages that have gone to the sync output. -/
def Event.syncMessages : Event → List Message
  | .sync message => [message]
  | _ => []

namespace PlayRecord

/-- What a play has sent to a sync output while it still runs. -/
def opening (record : PlayRecord) : List Message :=
  if record.sync = .leader then .start :: List.replicate record.ticks .timingClock else []

/-- What a finished play has sent to a sync output. -/
def block (record : PlayRecord) : List Message :=
  if record.sync = .leader then .start :: List.replicate record.ticks .timingClock ++ [.stop]
  else []

end PlayRecord

/-- What the plays of a ledger have sent to a sync output. -/
def Ledger.transport (ledger : Ledger) : List Message :=
  ledger.finished.flatMap PlayRecord.block ++ ledger.running.toList.flatMap PlayRecord.opening

section Connected

variable {wiring : Wiring} (connected : wiring.syncOutput = true)
include connected

theorem syncMessages_transportEvents (sync : SyncMode) (message : Message) :
    (transportEvents wiring sync message).flatMap Event.syncMessages =
      if sync = .leader then [message] else [] := by
  rw [transportEvents, connected]
  by_cases leads : sync = .leader <;> simp [leads, Event.syncMessages]

theorem syncMessages_closingEvents (sync : SyncMode) :
    (closingEvents wiring sync).flatMap Event.syncMessages =
      if sync = .leader then [.stop] else [] := by
  rw [closingEvents, List.cons_append, List.flatMap_cons, List.flatMap_append,
    syncMessages_transportEvents connected]
  exact List.append_nil _

theorem Chronicle.syncMessages {allowed : Message → Prop} {ledger : Ledger} {events : List Event}
    (chronicle : Chronicle wiring allowed ledger events) :
    events.flatMap Event.syncMessages = ledger.transport := by
  induction chronicle with
  | blank => rfl
  | fault cause before inductionHypothesis =>
    rw [List.flatMap_append, inductionHypothesis]
    exact List.append_nil _
  | begins sync before inductionHypothesis =>
    rw [List.flatMap_append, inductionHypothesis, syncMessages_transportEvents connected]
    by_cases leads : sync = .leader <;> simp [Ledger.transport, PlayRecord.opening, leads]
  | performs event performs before inductionHypothesis =>
    have silent : event.syncMessages = [] := by
      cases event with
      | sync message => exact performs.elim
      | voice _ | step _ _ _ | fault _ | stopped | noticed => rfl
    simp [inductionHypothesis, silent]
  | @ticks _ sync _ _ before inductionHypothesis =>
    rw [List.flatMap_append, inductionHypothesis, syncMessages_transportEvents connected]
    by_cases leads : sync = .leader <;>
      simp [Ledger.transport, PlayRecord.opening, leads, List.replicate_succ']
  | @ends _ record _ before inductionHypothesis =>
    rw [List.flatMap_append, inductionHypothesis, syncMessages_closingEvents connected]
    by_cases leads : record.sync = .leader <;>
      simp [Ledger.transport, PlayRecord.opening, PlayRecord.block, leads]

end Connected

/-- Whatever is done to an engine at rest with a connected sync output, what has gone to the output
is one block for each play. The last block lacks its stop as long as the engine plays. -/
theorem Engine.transport_framing {engine : Engine} (connected : engine.wiring.syncOutput = true)
    (clears : engine.port.Clears) (stopped : engine.play = none) (fresh : engine.events = [])
    (actions : List Action) :
    (engine.run actions).events.flatMap Event.syncMessages =
        (engine.ledger .blank actions).transport ∧
      ((engine.ledger .blank actions).running.isSome = true ↔
        (engine.run actions).state = .playing) := by
  have begun : Recorded (fun _ => True) engine .blank engine :=
    .blank clears stopped fresh fun _ _ _ _ _ _ _ _ _ _ => trivial
  have recorded : Recorded _ _ _ (engine.run actions) :=
    begun.run fun _ _ _ _ _ _ _ _ _ _ => trivial
  have connectedStill : (engine.run actions).wiring.syncOutput = true := recorded.wiring ▸ connected
  exact ⟨recorded.chronicle.syncMessages connectedStill, recorded.isSome_running_iff⟩

/-- Three plays of three pulses each: one of a leader that is told on the way to lead no more, one
that is told to lead when it has begun, and one of a leader that is still running. -/
theorem Engine.transport_framing_reconfigured :
    let leading : PlaySettings := { Settings.default.forPlay with sync := .leader }
    let alone : PlaySettings := { Settings.default.forPlay with sync := .none }
    let actions : List Action := [.select ⟨0, .part (Part.pacer 3 fun _ => [])⟩,
      .configure leading, .start, .tick, .configure alone, .start, .tick, .tick,
      .start, .tick, .configure leading, .tick, .stop, .start, .tick]
    ((Engine.ofWiring ⟨true, false⟩).run actions).events.flatMap Event.syncMessages =
        [.start, .timingClock, .timingClock, .timingClock, .stop, .start, .timingClock] ∧
      ((Engine.ofWiring ⟨true, false⟩).run actions).state = .playing := by
  intro leading alone actions
  have framed := @transport_framing (.ofWiring ⟨true, false⟩) rfl Port.free_clears rfl rfl actions
  exact ⟨framed.1.trans (by decide +kernel), framed.2.mp (by decide +kernel)⟩

end StepSequencer
