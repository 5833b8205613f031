/-
This file says what the log of an engine looks like, whatever is done to the engine. A ledger keeps
account of the plays: with which sync mode each of them began, and how often the clock ticked during
it. A log tells of the plays of a ledger if it can be written play by play: what announces the
start, then what the players make known and the ticks in between, then the cleanup; outside of a
play there are faults only. Every action extends the log by what it adds to the ledger.
-/

import StepSequencer.Proofs.Moves

namespace StepSequencer

/-! ### The plays of a run -/

/-- What is remembered of a play: its sync mode when it began, and the ticks of the clock since. -/
structure PlayRecord where
  sync : SyncMode
  ticks : Nat

/-- The plays of a run: those that are finished, in order, and the one that is not. -/
structure Ledger where
  finished : List PlayRecord
  running : Option PlayRecord

namespace Ledger

/-- A ledger without plays. -/
def blank : Ledger := ⟨[], none⟩

/-- The play that runs during a move: a tick counts for it, and without one a start begins one with
the present sync mode, if a selection can be started. -/
def running? (ledger : Ledger) (engine : Engine) : Move → Option PlayRecord
  | .tick => ledger.running.map fun record => { record with ticks := record.ticks + 1 }
  | .start => ledger.running.or (engine.startable?.map fun _ => ⟨engine.settings.sync, 0⟩)
  | .idle | .stop | .pulse => ledger.running

/-- A ledger in which the last play is finished as soon as the engine is stopped. -/
def settled (finished : List PlayRecord) (running : Option PlayRecord) : PlayState → Ledger
  | .playing => ⟨finished, running⟩
  | .stopped => ⟨finished ++ running.toList, none⟩

/-- The ledger after an action. -/
def record (ledger : Ledger) (engine : Engine) (action : Action) : Ledger :=
  settled ledger.finished (ledger.running? engine (engine.moveOf action)) (engine.act action).state

end Ledger

/-- The ledger after some actions, one after the other. -/
def Engine.ledger (engine : Engine) (ledger : Ledger) : List Action → Ledger
  | [] => ledger
  | action :: rest => (engine.act action).ledger (ledger.record engine action) rest

/-! ### Logs -/

/-- Whether a log tells of the plays of a ledger. -/
inductive Chronicle (wiring : Wiring) (allowed : Message → Prop) : Ledger → List Event → Prop
  | blank : Chronicle wiring allowed .blank []
  | fault {ledger : Ledger} {events : List Event} (cause : PlaybackFault)
      (before : Chronicle wiring allowed ledger events) :
      Chronicle wiring allowed ledger (events ++ [.fault cause])
  | begins {finished : List PlayRecord} {events : List Event} (sync : SyncMode)
      (before : Chronicle wiring allowed ⟨finished, none⟩ events) :
      Chronicle wiring allowed ⟨finished, some ⟨sync, 0⟩⟩
        (events ++ transportEvents wiring sync .start)
  | performs {finished : List PlayRecord} {record : PlayRecord} {events : List Event}
      (event : Event) (performs : event.Performs allowed)
      (before : Chronicle wiring allowed ⟨finished, some record⟩ events) :
      Chronicle wiring allowed ⟨finished, some record⟩ (events ++ [event])
  | ticks {finished : List PlayRecord} {sync : SyncMode} {ticks : Nat} {events : List Event}
      (before : Chronicle wiring allowed ⟨finished, some ⟨sync, ticks⟩⟩ events) :
      Chronicle wiring allowed ⟨finished, some ⟨sync, ticks + 1⟩⟩
        (events ++ transportEvents wiring sync .timingClock)
  | ends {finished : List PlayRecord} {record : PlayRecord} {events : List Event}
      (before : Chronicle wiring allowed ⟨finished, some record⟩ events) :
      Chronicle wiring allowed ⟨finished ++ [record], none⟩
        (events ++ closingEvents wiring record.sync)

namespace Chronicle

variable {wiring : Wiring} {allowed : Message → Prop} {events : List Event}

theorem faults {ledger : Ledger} (before : Chronicle wiring allowed ledger events)
    (causes : List PlaybackFault) :
    Chronicle wiring allowed ledger (events ++ causes.map .fault) := by
  induction causes generalizing events with
  | nil => simpa using before
  | cons cause rest inductionHypothesis => simpa using inductionHypothesis (before.fault cause)

theorem performed {finished : List PlayRecord} {record : PlayRecord} {heard : List Event}
    (before : Chronicle wiring allowed ⟨finished, some record⟩ events)
    (performs : ∀ event ∈ heard, event.Performs allowed) :
    Chronicle wiring allowed ⟨finished, some record⟩ (events ++ heard) := by
  induction heard generalizing events with
  | nil => simpa using before
  | cons event rest inductionHypothesis =>
    simpa using inductionHypothesis (.performs event (performs event List.mem_cons_self) before)
      fun other member => performs other (List.mem_cons_of_mem _ member)

end Chronicle

/-! ### Engines and their logs -/

/-- Whether an engine runs the play of a ledger, if any, has a log of its plays, and has published
the end of each finished play since it was another engine. -/
structure Recorded (allowed : Message → Prop) (origin : Engine) (ledger : Ledger)
    (engine : Engine) : Prop where
  wiring : engine.wiring = origin.wiring
  clears : engine.port.Clears
  selection : ∀ selection, engine.selection = some selection →
    selection.playable.arranged.Sends allowed
  running : ledger.running.map PlayRecord.sync = engine.play.map Play.sync
  clocked : ∀ play, engine.play = some play → play.sync = .leader → play.clocked = true
  performing : ∀ play, engine.play = some play →
    ∃ performance, play.phase = .performing performance ∧ performance.Sends allowed
  chronicle : Chronicle engine.wiring allowed ledger engine.events
  offered : ∀ number, origin.Watched number →
    origin.Offered number ledger.finished.length engine

namespace Recorded

variable {allowed : Message → Prop} {origin : Engine} {ledger : Ledger} {engine : Engine}

theorem blank (clears : engine.port.Clears) (stopped : engine.play = none)
    (fresh : engine.events = []) (selection : ∀ selection, engine.selection = some selection →
      selection.playable.arranged.Sends allowed) : Recorded allowed engine .blank engine where
  wiring := rfl
  clears := clears
  selection := selection
  running := stopped ▸ rfl
  clocked := stopped ▸ nofun
  performing := stopped ▸ nofun
  chronicle := fresh ▸ .blank
  offered _ watched := watched.offered rfl rfl rfl rfl rfl

theorem isSome_running_iff (recorded : Recorded allowed origin ledger engine) :
    ledger.running.isSome = true ↔ engine.state = .playing := by
  have same := congrArg Option.isSome recorded.running
  rw [Option.isSome_map, Option.isSome_map] at same
  rw [same, Engine.state]
  cases engine.play.isSome <;> simp

theorem settled (recorded : Recorded allowed origin ledger engine) :
    .settled ledger.finished ledger.running engine.state = ledger := by
  obtain ⟨finished, running⟩ := ledger
  have same := recorded.running
  rw [Engine.state]
  cases running <;> cases playing : engine.play <;> rw [playing] at same
  case none.none => exact congrArg (Ledger.mk · none) (List.append_nil finished)
  case some.some => rfl
  case none.some | some.none => exact nomatch same

theorem prepared {action : Action} {between : Engine}
    (recorded : Recorded allowed origin ledger engine) (prepares : engine.Prepares action between)
    (selects : ∀ selection, action = .select selection →
      selection.playable.arranged.Sends allowed) : Recorded allowed origin ledger between where
  wiring := prepares.wiring.trans recorded.wiring
  clears := prepares.port ▸ recorded.clears
  selection selection chosen := (prepares.selection selection chosen).elim
    (recorded.selection selection) (selects selection)
  running := prepares.play ▸ recorded.running
  clocked := prepares.play ▸ recorded.clocked
  performing := prepares.play ▸ recorded.performing
  chronicle := by
    obtain ⟨causes, noted⟩ := prepares.events
    rw [noted, prepares.wiring]
    exact recorded.chronicle.faults causes
  offered number watched :=
    have before := recorded.offered number watched
    before.trans (prepares.watched number before.watched)

/-- Whatever a move has made of the play of an engine, the log of the engine tells of it, provided
that it does so up to where the play may end. -/
theorem of_advances {record : PlayRecord} {play : Play} {heard : List Event} {after : Engine}
    (recorded : Recorded allowed origin ledger engine) (same : record.sync = play.sync)
    (clocked : play.sync = .leader → play.clocked = true)
    (chronicle : Chronicle engine.wiring allowed ⟨ledger.finished, some record⟩
      (engine.events ++ heard))
    (advances : engine.Advances allowed play heard after) :
    Recorded allowed origin (.settled ledger.finished (some record) after.state) after := by
  obtain ⟨wiring, clears, selection, _, _, _, _, offered⟩ := recorded
  cases advances with
  | goesOn performance faults sends =>
    refine ⟨wiring, clears, selection, congrArg some same, ?_, ?_, chronicle, ?_⟩
    · rintro _ ⟨⟩
      exact clocked
    · rintro _ ⟨⟩
      exact ⟨performance, rfl, sends⟩
    · intro number watched
      have before := offered number watched
      exact before.trans (before.watched.grown_during heard faults play _)
  | ends causes faults =>
    refine ⟨wiring, clears, selection, rfl, nofun, nofun, ?_, ?_⟩
    · have ended := (chronicle.faults causes).ends
      rw [same, List.append_assoc, List.append_assoc] at ended
      exact ended
    · intro number watched
      have before := offered number watched
      have ended := before.trans (before.watched.ended
        (heard ++ (causes.map .fault ++ closingEvents engine.wiring play.sync)) faults)
      exact (List.length_append : (ledger.finished ++ [record]).length = _).symm ▸ ended

/-- Faults concern no play. -/
theorem faults (recorded : Recorded allowed origin ledger engine) (causes : List PlaybackFault)
    (kept : FaultQueue) :
    Recorded allowed origin ledger (engine.grown (causes.map .fault) kept) where
  wiring := recorded.wiring
  clears := recorded.clears
  selection := recorded.selection
  running := recorded.running
  clocked := recorded.clocked
  performing := recorded.performing
  chronicle := recorded.chronicle.faults causes
  offered number watched :=
    have before := recorded.offered number watched
    have noted : Engine.Offered _ number 0 (engine.grown (causes.map .fault) kept) :=
      before.watched.offered rfl rfl rfl rfl rfl
    before.trans noted

theorem move_of_stopped (recorded : Recorded allowed origin ledger engine)
    (stopped : engine.play = none) (move : Move) :
    Recorded allowed origin
      (.settled ledger.finished (ledger.running? engine move) (engine.move move).state)
      (engine.move move) := by
  have same := recorded.running
  have unchanged := recorded.settled.symm ▸ recorded
  obtain ⟨finished, running⟩ := ledger
  rw [stopped] at same
  obtain rfl : running = none := Option.map_eq_none_iff.mp same
  cases move with
  | start =>
    rw [Ledger.running?]
    cases startable : engine.startable? with
    | none =>
      obtain ⟨causes, kept, started⟩ := Engine.start_of_not_startable stopped startable
      have noted := recorded.faults causes kept
      rw [Engine.move, started]
      exact noted.settled.symm ▸ noted
    | some selection =>
      have selected := (Engine.start_of_startable stopped startable).1
      obtain ⟨play, heard, synced, clocked, performs, advances⟩ := Engine.start_advances
        recorded.clears stopped startable (recorded.selection selection selected)
      have begun := (recorded.chronicle.begins engine.settings.sync).performed performs
      rw [List.append_assoc] at begun
      exact recorded.of_advances synced.symm clocked begun advances
  | idle => exact unchanged
  | stop => rwa [Engine.move_eq_self stopped .stop (by decide)]
  | tick => rwa [Engine.move_eq_self stopped .tick (by decide)]
  | pulse => rwa [Engine.move_eq_self stopped .pulse (by decide)]

theorem move_of_playing (recorded : Recorded allowed origin ledger engine) {play : Play}
    (playing : engine.play = some play) (move : Move) :
    Recorded allowed origin
      (.settled ledger.finished (ledger.running? engine move) (engine.move move).state)
      (engine.move move) := by
  obtain ⟨performance, performing, sends⟩ := recorded.performing play playing
  have clocked := recorded.clocked play playing
  have same := recorded.running
  have unchanged := recorded.settled.symm ▸ recorded
  obtain ⟨finished, running⟩ := ledger
  rw [playing] at same
  obtain ⟨⟨_, ticks⟩, rfl, rfl⟩ := Option.map_eq_some_iff.mp same
  cases move with
  | idle => exact unchanged
  | start =>
    rw [Engine.move, Engine.start, playing]
    exact unchanged
  | stop =>
    obtain ⟨heard, performs, advances⟩ :=
      Engine.stop_advances recorded.clears playing performing sends
    exact recorded.of_advances rfl clocked (recorded.chronicle.performed performs) advances
  | tick =>
    cases driven : play.clocked with
    | true =>
      obtain ⟨heard, performs, advances⟩ :=
        Engine.tick_advances recorded.clears playing driven performing sends
      have ticked := (recorded.chronicle.performed performs).ticks
      rw [List.append_assoc] at ticked
      exact recorded.of_advances rfl clocked ticked advances
    | false =>
      -- Only a leader announces ticks, and the play of a leader has a clock.
      have follows : play.sync ≠ .leader := fun leads =>
        Bool.false_ne_true (driven.symm.trans (clocked leads))
      have ticked := recorded.chronicle.ticks
      rw [transportEvents_of_ne_leader follows, List.append_nil] at ticked
      have goesOn : engine.state = .playing := by rw [Engine.state, playing]; rfl
      rw [Engine.move, Engine.tick_of_not_clocked playing driven, goesOn]
      exact { recorded with chronicle := ticked }
  | pulse =>
    obtain ⟨heard, performs, advances⟩ :=
      Engine.outsidePulse_advances recorded.clears playing performing sends
    exact recorded.of_advances rfl clocked (recorded.chronicle.performed performs) advances

/-- A move adds to the log what it adds to the ledger. -/
theorem move (recorded : Recorded allowed origin ledger engine) (move : Move) :
    Recorded allowed origin
      (.settled ledger.finished (ledger.running? engine move) (engine.move move).state)
      (engine.move move) :=
  match playing : engine.play with
  | none => recorded.move_of_stopped playing move
  | some _ => recorded.move_of_playing playing move

/-- An action adds to the log what it adds to the ledger. -/
theorem act {action : Action} (recorded : Recorded allowed origin ledger engine)
    (selects : ∀ selection, action = .select selection →
      selection.playable.arranged.Sends allowed) :
    Recorded allowed origin (ledger.record engine action) (engine.act action) := by
  obtain ⟨between, prepares, acted⟩ := engine.act_eq_move action
  have moved := (recorded.prepared prepares selects).move (engine.moveOf action)
  have same : ledger.running? between (engine.moveOf action) =
      ledger.running? engine (engine.moveOf action) := by
    cases asked : engine.moveOf action with
    | start =>
      have moves : engine.moveOf action ≠ .idle := asked ▸ nofun
      rw [Ledger.running?, prepares.startable?_eq moves, (prepares.settled moves).2,
        Ledger.running?]
    | idle | stop | tick | pulse => rfl
  rw [Ledger.record, acted, ← same]
  exact moved

/-- However actions are strung together, the log tells of the plays that they have led to. -/
theorem run {actions : List Action} (recorded : Recorded allowed origin ledger engine)
    (selects : ∀ selection, .select selection ∈ actions →
      selection.playable.arranged.Sends allowed) :
    Recorded allowed origin (engine.ledger ledger actions) (engine.run actions) := by
  induction actions generalizing engine ledger with
  | nil => exact recorded
  | cons action rest inductionHypothesis =>
    refine inductionHypothesis (recorded.act fun selection chosen => ?_)
      fun selection member => selects selection (List.mem_cons_of_mem _ member)
    exact selects selection (chosen ▸ List.mem_cons_self)

end Recorded

end StepSequencer
