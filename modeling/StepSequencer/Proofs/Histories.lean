/-
This file proves that a play does not depend on what came before it. Two engines are twins if they
look alike, are set up alike, and attend to the same requests. Whatever is done to both of two
twins, they stay twins. An engine that has come from rest, through whatever history, leaves nothing
behind when it is stopped that could tell it from another: so it is a twin of every stopped engine
that is set up like it, and both answer alike to whatever is done to them.
-/

import StepSequencer.Proofs.Effects
import StepSequencer.Proofs.Loading
import StepSequencer.Proofs.Switchboard

namespace StepSequencer

/-- The attention of somebody who listens to all ports and does not care from which document the
music comes. -/
def Attention.toOutput : Attention where
  transport := true
  editions := false

/-- Whether an action asks an engine to play: by hand, over the play bus, or over the transport. -/
def Action.starts : Action → Bool
  | .start | .requestPlay => true
  | .inject bytes | .handleSync bytes => decide (Message.ofBytes? bytes = some .start)
  | _ => false

namespace Engine

/-! ### Engines and their switchboards -/

/-- How an engine is connected. -/
def switchboard (engine : Engine) : Switchboard where
  exchange := engine.exchange
  bus
    | .play => engine.playBus
    | .stop => engine.stopBus
    | .stopped => engine.stoppedBus
  listening := engine.listening

/-- An engine that is connected in another way. -/
def rewired (engine : Engine) (board : Switchboard) : Engine :=
  { engine with
    exchange := board.exchange
    playBus := board.bus .play
    stopBus := board.bus .stop
    stoppedBus := board.bus .stopped
    listening := board.listening }

@[simp]
theorem switchboard_rewired (engine : Engine) (board : Switchboard) :
    (engine.rewired board).switchboard = board := by
  obtain ⟨exchange, bus, listening⟩ := board
  unfold rewired switchboard
  congr
  funext name
  cases name <;> rfl

theorem takeSignal_rewired (engine : Engine) {board : Switchboard} {listening : Listening}
    (listens : board.listening = some listening) (channel : Listening → Nat) :
    (engine.rewired board).takeSignal channel =
      engine.rewired (board.update (channel listening) Channel.take) := by
  obtain ⟨exchange, bus, _⟩ := board
  subst listens
  rfl

/-- An engine attends to a request as soon as its signal arrives. -/
theorem request_eq {engine : Engine} (attentive : engine.switchboard.Attentive) (name : BusName)
    (channel : Listening → Nat)
    (own : engine.switchboard.own? name = engine.listening.map channel) (move : Engine → Engine) :
    let published := engine.rewired (engine.switchboard.publish name)
    let asked := engine.rewired (engine.switchboard.request name)
    (if published.signalled channel then move (published.takeSignal channel) else published) =
      if engine.switchboard.attendsTo name then move asked else asked := by
  have arrives : (engine.rewired (engine.switchboard.publish name)).signalled channel =
      engine.switchboard.attendsTo name := by
    rw [← attentive.any_held_publish, own, Option.any_map]
    rfl
  dsimp only
  rw [arrives, Switchboard.attendsTo, Switchboard.request, own]
  cases listens : engine.listening with
  | none => rfl
  | some listening =>
    dsimp only [Option.map_some, Option.any_some]
    split
    · exact congrArg move (engine.takeSignal_rewired listens channel)
    · rfl

theorem requestPlay_eq {engine : Engine} (attentive : engine.switchboard.Attentive) :
    engine.requestPlay =
      let asked := engine.rewired (engine.switchboard.request .play)
      if engine.switchboard.attendsTo .play then asked.start else asked :=
  request_eq attentive .play Listening.play rfl start

theorem requestStop_eq {engine : Engine} (attentive : engine.switchboard.Attentive) :
    engine.requestStop =
      let asked := engine.rewired (engine.switchboard.request .stop)
      if engine.switchboard.attendsTo .stop then asked.stop else asked :=
  request_eq attentive .stop Listening.stop rfl stop

/-- What an engine does of its own accord does not concern its own subscriptions. -/
theorem Becomes.attends {engine after : Engine} (becomes : engine.Becomes after)
    (attentive : engine.switchboard.Attentive) : after.switchboard.Attentive ∧
      ∀ name, after.switchboard.attendsTo name = engine.switchboard.attendsTo name := by
  induction becomes with
  | change => exact ⟨attentive, fun _ => rfl⟩
  | publish engine =>
    have published := engine.switchboard_rewired (engine.switchboard.request .stopped)
    exact published ▸ ⟨attentive.request .stopped, attentive.attendsTo_request .stopped⟩
  | trans _ _ first second =>
    obtain ⟨between, same⟩ := first attentive
    obtain ⟨behind, alsoSame⟩ := second between
    exact ⟨behind, fun name => (alsoSame name).trans (same name)⟩

theorem act_listenSync_eq (engine : Engine) : engine.act .listenSync =
    if engine.wiring.syncInput && !engine.hearsSync then { engine with hearsSync := true }
    else engine := by
  unfold act listenSync
  cases engine.wiring.syncInput <;> cases engine.hearsSync <;> rfl

/-! ### Kindred -/

variable {attention : Attention}

/-- Whether two engines look alike and attend to the same requests, whatever they would play
next. -/
structure Kindred (attention : Attention) (first second : Engine) : Prop where
  alike : Alike attention first second
  hearsSync : first.hearsSync = second.hearsSync
  attends : ∀ name, first.switchboard.attendsTo name = second.switchboard.attendsTo name
  attentive : first.switchboard.Attentive
  alsoAttentive : second.switchboard.Attentive

namespace Kindred

variable {first second : Engine} (kindred : Kindred attention first second)
include kindred

/-- Kindred stay kindred as long as they do alike things of their own accord. -/
theorem becomes {third fourth : Engine} (becomes : first.Becomes third)
    (alsoBecomes : second.Becomes fourth) (alike : Alike attention third fourth) :
    Kindred attention third fourth := by
  obtain ⟨attentive, same⟩ := becomes.attends kindred.attentive
  obtain ⟨alsoAttentive, alsoSame⟩ := alsoBecomes.attends kindred.alsoAttentive
  refine ⟨alike, ?_, fun name => ?_, attentive, alsoAttentive⟩
  · rw [becomes.keeps.hearsSync, alsoBecomes.keeps.hearsSync, kindred.hearsSync]
  · rw [same, alsoSame, kindred.attends]

/-- Kindred stay kindred as long as they attend to the same requests. -/
theorem rewired {board other : Switchboard} (attentive : board.Attentive)
    (alsoAttentive : other.Attentive)
    (attends : ∀ name, board.attendsTo name = other.attendsTo name) :
    Kindred attention (first.rewired board) (second.rewired other) where
  alike := { kindred.alike with }
  hearsSync := kindred.hearsSync
  attends name := by
    rw [switchboard_rewired, switchboard_rewired]
    exact attends name
  attentive := by rwa [switchboard_rewired]
  alsoAttentive := by rwa [switchboard_rewired]

theorem look : Kindred attention first.look.2 second.look.2 :=
  { kindred with alike := kindred.alike.look }

theorem stop : Kindred attention first.stop second.stop :=
  kindred.becomes first.becomes_stop second.becomes_stop kindred.alike.stop

theorem tick (counts : attention.transport = true) : Kindred attention first.tick second.tick :=
  kindred.becomes first.becomes_tick second.becomes_tick (kindred.alike.tick counts)

theorem outsidePulse : Kindred attention first.outsidePulse second.outsidePulse :=
  kindred.becomes first.becomes_outsidePulse second.becomes_outsidePulse kindred.alike.outsidePulse

theorem request (name : BusName) : Kindred attention
    (first.rewired (first.switchboard.request name))
    (second.rewired (second.switchboard.request name)) :=
  kindred.rewired (kindred.attentive.request name) (kindred.alsoAttentive.request name)
    fun other => by
      rw [kindred.attentive.attendsTo_request, kindred.alsoAttentive.attendsTo_request,
        kindred.attends]

theorem requestStop : Kindred attention first.requestStop second.requestStop := by
  rw [requestStop_eq kindred.attentive, requestStop_eq kindred.alsoAttentive, kindred.attends]
  dsimp only
  split
  · exact (kindred.request .stop).stop
  · exact kindred.request .stop

theorem handleSync {bytes : List UInt8} (other : Message.ofBytes? bytes ≠ some .start) :
    Kindred attention (first.handleSync bytes) (second.handleSync bytes) := by
  unfold Engine.handleSync
  rw [kindred.alike.state_eq]
  split
  next read _ => exact absurd read other
  · exact kindred.requestStop
  · exact kindred.outsidePulse
  · exact kindred

theorem configure (settings others : PlaySettings) :
    Kindred attention (first.configure settings) (second.configure others) := by
  have alike := kindred.alike.configure settings others
  obtain ⟨events, faults, configured, _⟩ := first.configure_eq settings
  obtain ⟨noted, kept, alsoConfigured, _⟩ := second.configure_eq others
  rw [configured, alsoConfigured] at alike ⊢
  exact { kindred with alike }

theorem listen : Kindred attention first.listen second.listen :=
  kindred.rewired kindred.attentive.listen kindred.alsoAttentive.listen fun name => by
    rw [Switchboard.attendsTo_listen, Switchboard.attendsTo_listen]

/-- Kindred stay kindred as long as nobody asks them to play. -/
theorem act (counts : attention.transport = true) {action : Action}
    (quiet : action.starts = false) :
    Kindred attention (first.act action) (second.act action) := by
  cases action with
  | select selection => exact { kindred with alike := { kindred.alike with } }
  | configure settings => exact kindred.configure settings settings
  | start | requestPlay => exact nomatch quiet
  | stop => exact kindred.stop
  | requestStop => exact kindred.requestStop
  | tick => exact kindred.tick counts
  | listen => exact kindred.listen
  | listenSync =>
    have hears : (first.wiring.syncInput && !first.hearsSync) =
        (second.wiring.syncInput && !second.hearsSync) := by
      rw [kindred.hearsSync, kindred.alike.wiring counts]
    rw [act_listenSync_eq, act_listenSync_eq, hears]
    split
    · exact { kindred with alike := { kindred.alike with }, hearsSync := rfl }
    · exact kindred
  | stopSync => exact { kindred with alike := { kindred.alike with }, hearsSync := rfl }
  | inject bytes =>
    unfold Engine.act Engine.inject
    dsimp only
    rw [kindred.hearsSync]
    split
    · exact kindred.handleSync (of_decide_eq_false quiet)
    · exact kindred
  | handleSync bytes => exact kindred.handleSync (of_decide_eq_false quiet)

theorem reload (document : String) :
    Kindred attention (first.reload document).1 (second.reload document).1 := by
  unfold Engine.reload
  cases Sequence.load document with
  | ok sequence => exact kindred.stop.configure _ _
  | error failure => exact kindred.stop

theorem setPort (counts : attention.transport = true) (port : Port) :
    Kindred attention (first.setPort port) (second.setPort port) := by
  have changed : Kindred attention { first with port } { second with port } :=
    { kindred with alike := kindred.alike.withPort counts port }
  rw [setPort_eq, setPort_eq]
  split
  · exact changed
  · exact changed.becomes (becomes_resume _ port) (becomes_resume _ port)
      (changed.alike.resume port)

end Kindred

/-! ### Setups -/

/-- What the next play plays, and with which settings. -/
def setup (engine : Engine) : PlaySettings × Option Selection := (engine.settings, engine.selection)

theorem Becomes.setup {engine after : Engine} (becomes : engine.Becomes after) :
    after.setup = engine.setup :=
  Prod.ext becomes.keeps.settings becomes.keeps.selection

theorem setup_takeSignal (engine : Engine) (channel : Listening → Nat) :
    (engine.takeSignal channel).setup = engine.setup := by
  unfold takeSignal
  split <;> rfl

theorem setup_requestPlay (engine : Engine) : engine.requestPlay.setup = engine.setup := by
  unfold requestPlay
  dsimp only
  split
  · exact (becomes_start _).setup.trans (setup_takeSignal _ _)
  · rfl

theorem setup_requestStop (engine : Engine) : engine.requestStop.setup = engine.setup := by
  unfold requestStop
  dsimp only
  split
  · exact (becomes_stop _).setup.trans (setup_takeSignal _ _)
  · rfl

theorem setup_handleSync (engine : Engine) (bytes : List UInt8) :
    (engine.handleSync bytes).setup = engine.setup := by
  unfold handleSync
  split
  · exact engine.setup_requestPlay
  · exact engine.setup_requestStop
  · exact engine.becomes_outsidePulse.setup
  · rfl

/-- What the next play plays, and how, can be selected and configured, and no action does so in
another way. -/
theorem setup_act (engine : Engine) {action : Action}
    (unselected : ∀ selection, action ≠ .select selection)
    (unconfigured : ∀ settings, action ≠ .configure settings) :
    (engine.act action).setup = engine.setup := by
  cases action with
  | select selection => exact absurd rfl (unselected selection)
  | configure settings => exact absurd rfl (unconfigured settings)
  | start => exact engine.becomes_start.setup
  | stop => exact engine.becomes_stop.setup
  | requestPlay => exact engine.setup_requestPlay
  | requestStop => exact engine.setup_requestStop
  | tick => exact engine.becomes_tick.setup
  | listen | stopSync => rfl
  | listenSync =>
    rw [act_listenSync_eq]
    split <;> rfl
  | inject bytes =>
    unfold act inject
    dsimp only
    split
    · exact engine.setup_handleSync bytes
    · rfl
  | handleSync bytes => exact engine.setup_handleSync bytes

theorem setup_setPort (engine : Engine) (port : Port) :
    (engine.setPort port).setup = engine.setup := by
  rw [setPort_eq]
  split
  · rfl
  · exact (becomes_resume _ port).setup

/-! ### Twins -/

/-- Whether two engines look alike, are set up alike, and attend to the same requests. -/
structure Twins (attention : Attention) (first second : Engine) : Prop where
  alike : Alike attention first second
  settings : first.settings = second.settings
  selection : Option.Rel (Selection.Alike attention) first.selection second.selection
  hearsSync : first.hearsSync = second.hearsSync
  attends : ∀ name, first.switchboard.attendsTo name = second.switchboard.attendsTo name
  attentive : first.switchboard.Attentive
  alsoAttentive : second.switchboard.Attentive

namespace Twins

variable {first second : Engine} (twins : Twins attention first second)
include twins

theorem kindred : Kindred attention first second :=
  ⟨twins.alike, twins.hearsSync, twins.attends, twins.attentive, twins.alsoAttentive⟩

/-- Twins that have become kindred are still twins if they would play the same as before. -/
theorem of_kindred {third fourth : Engine} (kindred : Kindred attention third fourth)
    (same : third.setup = first.setup) (alsoSame : fourth.setup = second.setup) :
    Twins attention third fourth := by
  obtain ⟨settings, selection⟩ := Prod.mk.inj same
  obtain ⟨alsoSettings, alsoSelection⟩ := Prod.mk.inj alsoSame
  refine { kindred with settings := ?_, selection := ?_ }
  · exact settings.trans (twins.settings.trans alsoSettings.symm)
  · have before := twins.selection
    rwa [← selection, ← alsoSelection] at before

theorem start (counts : attention.transport = true) : Twins attention first.start second.start :=
  have alike := twins.alike.start twins.selection (congrArg PlaySettings.looping twins.settings)
    (fun _ => congrArg PlaySettings.sync twins.settings) fun ignored =>
      absurd counts (by simp [ignored])
  twins.of_kindred (twins.kindred.becomes first.becomes_start second.becomes_start alike)
    first.becomes_start.setup second.becomes_start.setup

theorem requestPlay (counts : attention.transport = true) :
    Twins attention first.requestPlay second.requestPlay := by
  have asked := twins.of_kindred (twins.kindred.request .play) rfl rfl
  rw [requestPlay_eq twins.attentive, requestPlay_eq twins.alsoAttentive, twins.attends]
  dsimp only
  split
  · exact asked.start counts
  · exact asked

theorem handleSync (counts : attention.transport = true) (bytes : List UInt8) :
    Twins attention (first.handleSync bytes) (second.handleSync bytes) := by
  by_cases read : Message.ofBytes? bytes = some .start
  · unfold Engine.handleSync
    rw [read, twins.alike.state_eq]
    cases second.state with
    | stopped => exact twins.requestPlay counts
    | playing => exact twins
  · exact twins.of_kindred (twins.kindred.handleSync read) (first.setup_handleSync bytes)
      (second.setup_handleSync bytes)

theorem configure (settings : PlaySettings) :
    Twins attention (first.configure settings) (second.configure settings) := by
  have kindred := twins.kindred.configure settings settings
  obtain ⟨events, faults, configured, _⟩ := first.configure_eq settings
  obtain ⟨others, kept, alsoConfigured, _⟩ := second.configure_eq settings
  rw [configured, alsoConfigured] at kindred ⊢
  exact { kindred with settings := rfl, selection := twins.selection }

theorem act (counts : attention.transport = true) (action : Action) :
    Twins attention (first.act action) (second.act action) := by
  cases action with
  | select selection =>
    exact { twins with
      alike := { twins.alike with }
      selection := .some ⟨rfl, fun _ => rfl⟩ }
  | configure settings => exact twins.configure settings
  | start => exact twins.start counts
  | requestPlay => exact twins.requestPlay counts
  | inject bytes =>
    unfold Engine.act Engine.inject
    dsimp only
    rw [twins.hearsSync]
    split
    · exact twins.handleSync counts bytes
    · exact twins
  | handleSync bytes => exact twins.handleSync counts bytes
  | stop | requestStop | tick | listen | listenSync | stopSync =>
    exact twins.of_kindred (twins.kindred.act counts rfl) (first.setup_act nofun nofun)
      (second.setup_act nofun nofun)

theorem reload (document : String) :
    Twins attention (first.reload document).1 (second.reload document).1 := by
  have stopped := twins.of_kindred twins.kindred.stop first.becomes_stop.setup
    second.becomes_stop.setup
  unfold Engine.reload
  cases Sequence.load document with
  | ok sequence => exact stopped.configure _
  | error failure => exact stopped

theorem look : Twins attention first.look.2 second.look.2 :=
  { twins with alike := twins.alike.look }

end Twins

end Engine

/-! ### Histories -/

/-- Something that is done to a studio. -/
inductive Deed where
  | act (action : Action)
  | reload (document : String)
  | subscribe (name : BusName) (subscriber : String) (capacity : Nat)
  | unsubscribe (name : BusName) (subscriber : String)
  | receive (subscriber : String)
  | setPort (port : Port)
  | setClock (clock : ClockHealth)
  | setSpawnFaults (spawnFaults : SpawnFaults)
  | drainFaults

/-- Whether something that is done asks the engine to play. -/
def Deed.starts : Deed → Bool
  | .act action => action.starts
  | _ => false

/-- Whether something that is done concerns the subscriptions of an engine and nothing else. -/
def Deed.rewires : Deed → Bool
  | .subscribe _ _ _ | .unsubscribe _ _ | .receive _ => true
  | _ => false

/-- What comes out of an engine. -/
structure Output where
  /-- What has gone to the voice port, one list for each sender. -/
  voices : List (List Message)
  /-- What has gone to the sync output. -/
  sync : List Message
  state : PlayState
deriving DecidableEq

namespace Studio

/-- A studio after something has been done to it. -/
def after (studio : Studio) : Deed → Studio
  | .act action => studio.act action
  | .reload document => (studio.reload document).2
  | .subscribe name subscriber capacity => studio.subscribe name subscriber capacity
  | .unsubscribe name subscriber => studio.unsubscribe name subscriber
  | .receive subscriber => (studio.receive subscriber).2
  | .setPort port => studio.withEngine fun engine => engine.setPort port
  | .setClock clock => studio.withEngine fun engine => { engine with clock }
  | .setSpawnFaults spawnFaults => studio.withEngine fun engine => { engine with spawnFaults }
  | .drainFaults => studio.withEngine fun engine => engine.drainFaults.2

/-- Whether a studio has come from rest, through whatever history. -/
inductive Reached : Studio → Prop
  | rest (wiring : Wiring) (sequence : Sequence) :
      Reached ⟨Engine.ofWiring wiring, sequence, 0, sequence.clearCursors⟩
  | after {studio : Studio} (deed : Deed) (reached : Reached studio) : Reached (studio.after deed)
  | looked {studio : Studio} (reached : Reached studio) : Reached studio.look.2

/-- What has come out of a studio since the last look. -/
def output (studio : Studio) : Output where
  voices := studio.engine.events.filterMap Event.voice?
  sync := studio.engine.events.filterMap Event.sync?
  state := studio.engine.state

/-- What comes out of a studio whenever something is done to it. -/
def outputs : Studio → List Deed → List Output
  | _, [] => []
  | studio, deed :: rest =>
    (studio.look.2.after deed).output :: (studio.look.2.after deed).outputs rest

/-- What waits for a subscriber is taken from a channel of its own, if it has one. -/
theorem receive_eq (studio : Studio) (subscriber : String)
    (attentive : studio.engine.switchboard.Attentive) :
    ∃ board : Switchboard, (studio.receive subscriber).2.engine = studio.engine.rewired board ∧
      board.Attentive ∧ board.attendsTo = studio.engine.switchboard.attendsTo := by
  unfold receive
  dsimp only
  split
  next => exact ⟨studio.engine.switchboard, rfl, attentive, rfl⟩
  next number kept =>
    have updated : (studio.engine.switchboard.update number Channel.drain).Attentive :=
      attentive.update kept _
    refine ⟨_, rfl, updated, ?_⟩
    funext name
    cases name <;> rfl

theorem subscribe_eq (studio : Studio) (name : BusName) (subscriber : String) (capacity : Nat) :
    (studio.subscribe name subscriber capacity).engine = studio.engine.rewired
      ((studio.engine.switchboard.enlist name subscriber capacity).keep subscriber
        studio.engine.switchboard.exchange.nextNumber) := by
  cases name <;> rfl

theorem unsubscribe_eq (studio : Studio) (name : BusName) (subscriber : String) :
    (studio.unsubscribe name subscriber).engine =
      studio.engine.rewired (studio.engine.switchboard.unsubscribe name subscriber) := by
  cases name <;> rfl

theorem exists_rewired {deed : Deed} (rewires : deed.rewires = true) (studio : Studio) :
    ∃ board : Switchboard, (studio.after deed).engine = studio.engine.rewired board := by
  cases deed with
  | subscribe name subscriber capacity => exact ⟨_, studio.subscribe_eq name subscriber capacity⟩
  | unsubscribe name subscriber => exact ⟨_, studio.unsubscribe_eq name subscriber⟩
  | receive subscriber =>
    show ∃ board : Switchboard, (studio.receive subscriber).2.engine = studio.engine.rewired board
    unfold receive
    dsimp only
    split
    next => exact ⟨studio.engine.switchboard, rfl⟩
    next number _ => exact ⟨studio.engine.switchboard.update number Channel.drain, rfl⟩
  | act _ | reload _ | setPort _ | setClock _ | setSpawnFaults _ | drainFaults => cases rewires

theorem reload_eq (studio : Studio) (document : String) :
    (studio.reload document).2.engine = (studio.engine.reload document).1 := by
  unfold reload
  split <;> simp_all

end Studio

namespace Engine

variable {attention : Attention} {first second : Studio}

/-- Whatever is done to the engines of two studios, except that they are asked to play, kindred stay
kindred. -/
theorem Kindred.after (kindred : Kindred attention first.engine second.engine)
    (counts : attention.transport = true) {deed : Deed} (quiet : deed.starts = false) :
    Kindred attention (first.after deed).engine (second.after deed).engine := by
  have attentive := kindred.attentive
  have alsoAttentive := kindred.alsoAttentive
  cases deed with
  | act action => exact kindred.act counts quiet
  | reload document =>
    show Kindred attention (first.reload document).2.engine (second.reload document).2.engine
    rw [Studio.reload_eq, Studio.reload_eq]
    exact kindred.reload document
  | subscribe name subscriber capacity =>
    show Kindred attention (first.subscribe name subscriber capacity).engine
      (second.subscribe name subscriber capacity).engine
    rw [Studio.subscribe_eq, Studio.subscribe_eq]
    refine kindred.rewired (attentive.subscribe name subscriber capacity)
      (alsoAttentive.subscribe name subscriber capacity) fun other => ?_
    rw [attentive.attendsTo_subscribe, alsoAttentive.attendsTo_subscribe, kindred.attends]
  | unsubscribe name subscriber =>
    show Kindred attention (first.unsubscribe name subscriber).engine
      (second.unsubscribe name subscriber).engine
    rw [Studio.unsubscribe_eq, Studio.unsubscribe_eq]
    refine kindred.rewired (attentive.unsubscribe name subscriber)
      (alsoAttentive.unsubscribe name subscriber) fun other => ?_
    rw [attentive.attendsTo_unsubscribe, alsoAttentive.attendsTo_unsubscribe, kindred.attends]
  | receive subscriber =>
    obtain ⟨board, received, tuned, same⟩ := first.receive_eq subscriber attentive
    obtain ⟨other, alsoReceived, alsoTuned, alsoSame⟩ := second.receive_eq subscriber alsoAttentive
    show Kindred attention (first.receive subscriber).2.engine (second.receive subscriber).2.engine
    rw [received, alsoReceived]
    refine kindred.rewired tuned alsoTuned fun name => ?_
    rw [same, alsoSame, kindred.attends]
  | setPort port => exact kindred.setPort counts port
  | setClock clock => exact { kindred with alike := { kindred.alike with clock := fun _ => rfl } }
  | setSpawnFaults spawnFaults =>
    exact { kindred with alike := { kindred.alike with spawnFaults := rfl } }
  | drainFaults => exact { kindred with alike := { kindred.alike with } }

/-- Whatever is done to the engines of two studios, twins stay twins. -/
theorem Twins.after (twins : Twins attention first.engine second.engine)
    (counts : attention.transport = true) (deed : Deed) :
    Twins attention (first.after deed).engine (second.after deed).engine := by
  have quietly (quiet : deed.starts = false) := twins.kindred.after counts quiet
  have setup (rewires : deed.rewires = true) (studio : Studio) :
      (studio.after deed).engine.setup = studio.engine.setup := by
    obtain ⟨board, rewired⟩ := studio.exists_rewired rewires
    rw [rewired]
    rfl
  cases deed with
  | act action => exact twins.act counts action
  | reload document =>
    show Twins attention (first.reload document).2.engine (second.reload document).2.engine
    rw [Studio.reload_eq, Studio.reload_eq]
    exact twins.reload document
  | subscribe _ _ _ | unsubscribe _ _ | receive _ =>
    exact twins.of_kindred (quietly rfl) (setup rfl first) (setup rfl second)
  | setPort port =>
    exact twins.of_kindred (quietly rfl) (first.engine.setup_setPort port)
      (second.engine.setup_setPort port)
  | setClock _ | setSpawnFaults _ | drainFaults => exact twins.of_kindred (quietly rfl) rfl rfl

end Engine

theorem Engine.Alike.output_eq {attention : Attention} {first second : Studio}
    (alike : Engine.Alike attention first.engine second.engine)
    (counts : attention.transport = true) : first.output = second.output := by
  have seen := alike.events
  unfold Studio.output
  rw [← attention.filterMap_voice?_seen, ← Attention.filterMap_sync?_seen counts, seen,
    attention.filterMap_voice?_seen, Attention.filterMap_sync?_seen counts, alike.state_eq]

namespace Engine.Twins

variable {attention : Attention} {first second : Studio}

theorem attentive_ofWiring (wiring : Wiring) : (ofWiring wiring).switchboard.Attentive where
  fed name := by cases name <;> nofun
  kept := nofun
  tuned name := by cases name <;> nofun

/-- An engine that attends to what it has subscribed to is its own twin. -/
theorem refl (counts : attention.transport = true) {engine : Engine}
    (attentive : engine.switchboard.Attentive) : Twins attention engine engine where
  alike := .refl counts engine
  settings := rfl
  selection := by
    cases engine.selection with
    | none => exact .none
    | some selection => exact .some ⟨rfl, fun _ => rfl⟩
  hearsSync := rfl
  attends _ := rfl
  attentive := attentive
  alsoAttentive := attentive

/-- Whatever its history, the engine of a studio is its own twin. -/
theorem of_reached {studio : Studio} (reached : studio.Reached) :
    Twins .toOutput studio.engine studio.engine := by
  induction reached with
  | rest wiring sequence => exact .refl rfl (attentive_ofWiring wiring)
  | after deed _ inductionHypothesis => exact inductionHypothesis.after rfl deed
  | looked _ inductionHypothesis => exact inductionHypothesis.look

theorem outputs_eq (twins : Twins attention first.look.2.engine second.look.2.engine)
    (counts : attention.transport = true) (deeds : List Deed) :
    first.outputs deeds = second.outputs deeds := by
  induction deeds generalizing first second with
  | nil => rfl
  | cons deed rest inductionHypothesis =>
    have behind := twins.after counts deed
    exact congrArg₂ List.cons (behind.alike.output_eq counts) (inductionHypothesis behind.look)

end Engine.Twins

/-! ### Stopped engines -/

/-- Whether two engines are stopped and set up alike: they have selected the same, with the same
settings, attend to the same requests, are connected to ports and clocks that do the same, and get
the same threads. -/
structure Engine.SetUpAlike (first second : Engine) : Prop where
  stopped : first.state = .stopped
  alsoStopped : second.state = .stopped
  selection : first.selection.map Selection.playable = second.selection.map Selection.playable
  settings : first.settings = second.settings
  /-- The subscriptions that they have made when they began to listen stand or fall together. -/
  attends : ∀ name, first.switchboard.attendsTo name = second.switchboard.attendsTo name
  hearsSync : first.hearsSync = second.hearsSync
  wiring : first.wiring = second.wiring
  port : first.port = second.port
  clock : first.clock = second.clock
  spawnFaults : first.spawnFaults = second.spawnFaults

/-- Nothing is left of the plays of a stopped engine. -/
theorem Engine.SetUpAlike.twins {first second : Studio} (reached : first.Reached)
    (alsoReached : second.Reached) (alike : first.engine.SetUpAlike second.engine) :
    Twins .toOutput first.look.2.engine second.look.2.engine where
  alike :=
    { play := by
        have stopped : first.look.2.engine.play = none := play_eq_none_of_stopped alike.stopped
        have alsoStopped : second.look.2.engine.play = none :=
          play_eq_none_of_stopped alike.alsoStopped
        rw [stopped, alsoStopped]
        exact .none
      port := alike.port
      wiring := fun _ => alike.wiring
      clock := fun _ => alike.clock
      spawnFaults := alike.spawnFaults
      unbroken := nofun
      events := rfl }
  settings := alike.settings
  selection := by
    have same := alike.selection
    show Option.Rel _ first.engine.selection second.engine.selection
    generalize first.engine.selection = one, second.engine.selection = two at same
    match one, two, same with
    | none, none, _ => exact .none
    | some _, some _, same => exact .some ⟨Option.some.inj same, nofun⟩
  hearsSync := alike.hearsSync
  attends := alike.attends
  attentive := (Twins.of_reached reached).attentive
  alsoAttentive := (Twins.of_reached alsoReached).attentive

/-- A play does not depend on history: stopped engines that are set up alike answer alike to
whatever is done to them, whatever has been done to each of them before. -/
theorem Studio.outputs_eq_of_setUpAlike {first second : Studio} (reached : first.Reached)
    (alsoReached : second.Reached) (alike : first.engine.SetUpAlike second.engine)
    (deeds : List Deed) : first.outputs deeds = second.outputs deeds :=
  (alike.twins reached alsoReached).outputs_eq rfl deeds

/-- An engine that listens plays the same after a play was stopped in the middle of a step, and
after one more request to stop and one more tick. -/
theorem Studio.outputs_eq_of_setUpAlike_chainSample :
    ∃ first second : Studio, first.Reached ∧ second.Reached ∧
      second = ((((first.after (.act .start)).after (.act .tick)).after (.act .stop)).after
        (.act .stop)).after (.act .tick) ∧
      first.engine.SetUpAlike second.engine ∧
      second.outputs [.act (.handleSync [0xFA]), .act .tick] =
        [⟨[], [], .playing⟩, ⟨[[.noteOn 0 60 100]], [], .playing⟩] ∧
      ∀ deeds, first.outputs deeds = second.outputs deeds := by
  let chosen (sequence : Sequence) (playable : Playable) : Studio :=
    ((⟨Engine.ofWiring ⟨false, false⟩, sequence, 0, sequence.clearCursors⟩ : Studio).after
      (.act (.select ⟨0, playable⟩))).after (.act .listen)
  let played (studio : Studio) : Studio :=
    ((((studio.after (.act .start)).after (.act .tick)).after (.act .stop)).after
      (.act .stop)).after (.act .tick)
  obtain ⟨sequence, _, found⟩ := Sequence.exists_load_eq_ok Sequence.chainSample
    (show ((Sequence.load Sequence.chainSample).toOption.any fun sequence =>
      sequence.playables.any fun playable =>
        decide ((played (chosen sequence playable)).engine.state = .stopped ∧
          (played (chosen sequence playable)).outputs [.act (.handleSync [0xFA]), .act .tick] =
            [⟨[], [], .playing⟩, ⟨[[.noteOn 0 60 100]], [], .playing⟩])) = true
      by decide +kernel)
  obtain ⟨playable, _, computed⟩ := List.any_eq_true.mp found
  obtain ⟨stopped, restarted⟩ := of_decide_eq_true computed
  have reached : (chosen sequence playable).Reached := .after _ (.after _ (.rest _ _))
  have alsoReached : (played (chosen sequence playable)).Reached :=
    .after _ (.after _ (.after _ (.after _ (.after _ reached))))
  have becomes : (chosen sequence playable).engine.Becomes
      (played (chosen sequence playable)).engine :=
    ((((Engine.becomes_start _).trans (Engine.becomes_tick _)).trans
      (Engine.becomes_stop _)).trans (Engine.becomes_stop _)).trans (Engine.becomes_tick _)
  have keeps := becomes.keeps
  have attends := (becomes.attends (Engine.Twins.of_reached reached).attentive).2
  have alike : (chosen sequence playable).engine.SetUpAlike
      (played (chosen sequence playable)).engine :=
    ⟨rfl, stopped, congrArg _ keeps.selection.symm, keeps.settings.symm,
      fun name => (attends name).symm, keeps.hearsSync.symm, keeps.wiring.symm, keeps.port.symm,
      keeps.clock.symm, keeps.spawnFaults.symm⟩
  exact ⟨_, _, reached, alsoReached, rfl, alike, restarted,
    outputs_eq_of_setUpAlike reached alsoReached alike⟩

end StepSequencer
