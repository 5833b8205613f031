/-
This file puts an engine beside a loaded document. The studio keeps the step that every playable of
the document has reached, and the subscriptions that others have taken on the buses of the engine.
Loading another document starts a new edition: what still plays from an old one moves no steps of
the new one.
-/

import StepSequencer.Playback.Action

namespace StepSequencer

/-- The steps that the playables of a document have reached, by their place. -/
abbrev Cursors := List (Option Nat)

/-- Nobody has reached a step. -/
def Sequence.clearCursors (sequence : Sequence) : Cursors := sequence.playables.map fun _ => none

/-- The step that a playable has reached. -/
def Cursors.at (cursors : Cursors) (playable : Playable) : Option Nat :=
  playable.slot.bind fun slot => (cursors[slot]?).join

/-- Sets the step of a playable. -/
def Cursors.put (cursors : Cursors) (slot : Option Nat) (step : Option Nat) : Cursors :=
  match slot with
  | some slot => cursors.set slot step
  | none => cursors

/-- An engine and a document. -/
structure Studio where
  engine : Engine
  sequence : Sequence
  /-- The number of the document. -/
  edition : Nat
  cursors : Cursors

/-- The buses of an engine to which others can subscribe. -/
inductive BusName where
  | play
  | stop
  | stopped
deriving DecidableEq

namespace Studio

/-- A playable of the document as a selection. -/
def selection (studio : Studio) (playable : Playable) : Selection := ⟨studio.edition, playable⟩

/-- Does something to the engine. -/
def act (studio : Studio) (action : Action) : Studio :=
  { studio with engine := studio.engine.act action }

/-- Changes the engine. -/
def withEngine (studio : Studio) (change : Engine → Engine) : Studio :=
  { studio with engine := change studio.engine }

/-- An engine set up for a document: with its settings, and its default playable selected. -/
def ofSequence (wiring : Wiring) (sequence : Sequence) : Studio :=
  let engine := (Engine.ofWiring wiring).configure sequence.settings.forPlay
  let studio : Studio := ⟨engine, sequence, 0, sequence.clearCursors⟩
  match sequence.default? with
  | some playable => studio.act (.select (studio.selection playable))
  | none => studio

/-- Selects a playable by name; an unknown name changes nothing. -/
def select (studio : Studio) (name : String) : Option Playable × Studio :=
  match studio.sequence.find? name with
  | some playable => (some playable, studio.act (.select (studio.selection playable)))
  | none => (none, studio)

/-- Loads another document where no port holds the play back. If that succeeds, its playables are at
no step. -/
def reload (studio : Studio) (document : String) : Except LoadFailure Sequence × Studio :=
  match studio.engine.reload document with
  | (engine, .ok sequence) =>
    (.ok sequence, ⟨engine, sequence, studio.edition + 1, sequence.clearCursors⟩)
  | (engine, .error failure) => (.error failure, { studio with engine })

/-- A studio whose play has been stopped, after a wait for another port if need be. -/
def rested (studio : Studio) (release : Port) : Studio :=
  studio.withEngine (Engine.stopAndWait · release)

/-- A reload, which waits for another port if the present one holds back the play that is to be
stopped first. -/
def stopAndReload (studio : Studio) (release : Port) (document : String) :
    Except LoadFailure Sequence × Studio :=
  (studio.rested release).reload document

/-- Takes all steps back. -/
def clearCursors (studio : Studio) : Studio :=
  { studio with cursors := studio.sequence.clearCursors }

/-- The steps after an event. -/
def moveCursor (edition : Nat) (cursors : Cursors) : Event → Cursors
  | .step source slot index => if source = edition then cursors.set slot (some index) else cursors
  | _ => cursors

/-- Takes what has happened since the last look, and moves the steps accordingly. -/
def look (studio : Studio) : List Event × Studio :=
  let (events, engine) := studio.engine.look
  (events, { studio with
    engine, cursors := events.foldl (moveCursor studio.edition) studio.cursors })

/-- A bus of the engine. -/
def bus (studio : Studio) : BusName → Bus
  | .play => studio.engine.playBus
  | .stop => studio.engine.stopBus
  | .stopped => studio.engine.stoppedBus

/-- Replaces a bus of the engine. -/
def setBus (engine : Engine) (bus : Bus) : BusName → Engine
  | .play => { engine with playBus := bus }
  | .stop => { engine with stopBus := bus }
  | .stopped => { engine with stoppedBus := bus }

/-- Subscribes to a bus under a name, and keeps the receiver under the same name. -/
def subscribe (studio : Studio) (name : BusName) (subscriber : String) (capacity : Nat) : Studio :=
  let exchange := studio.engine.exchange
  let number := exchange.nextNumber
  let engine := setBus studio.engine ((studio.bus name).subscribe subscriber number) name
  { studio with engine := { engine with
      exchange := (exchange.connect capacity).keep subscriber number } }

/-- Takes a subscription back; its receiver stays. -/
def unsubscribe (studio : Studio) (name : BusName) (subscriber : String) : Studio :=
  { studio with engine := setBus studio.engine ((studio.bus name).unsubscribe subscriber) name }

/-- Takes all signals that wait for a subscriber, and says how many there were. -/
def receive (studio : Studio) (subscriber : String) : Option Nat × Studio :=
  let exchange := studio.engine.exchange
  match exchange.receiver? subscriber with
  | none => (none, studio)
  | some number =>
    (some (exchange.channel number).held,
      studio.withEngine fun engine =>
        { engine with exchange := exchange.update number Channel.drain })

end Studio

end StepSequencer
