/-
This file ties what is heard of an engine to the performance that it runs. At a port where plays can
begin and end, an engine that still plays after a start and some pulses has done with its selection
what a performance does that nobody ever stops: it has come just as far, and each pulse has sent
what the performance sends at that pulse. Transport messages and faults come in between and are not
heard. An engine that is stopped is silent until it is asked to play.
-/

import StepSequencer.Proofs.Histories
import StepSequencer.Proofs.Moves
import StepSequencer.Proofs.Unblocked

namespace StepSequencer

/-- What one sender has sent to the voice port. -/
def Sound.voice? : Sound → Option (List Message)
  | .messages sent => some sent
  | _ => none

theorem filterMap_voice?_deliveries (sounds : List Sound) :
    (deliveries sounds).filterMap Sound.voice? = sounds.filterMap Sound.voice? := by
  rw [deliveries, List.filterMap_filter]
  congr
  funext sound
  cases sound <;> rfl

theorem filterMap_voice?_ofSound (edition : Nat) (sounds : List Sound) :
    (sounds.map (Event.ofSound edition)).filterMap Event.voice? =
      sounds.filterMap Sound.voice? := by
  rw [List.filterMap_map]
  congr
  funext sound
  cases sound <;> rfl

theorem filterMap_voice?_transportEvents (wiring : Wiring) (sync : SyncMode) (message : Message) :
    (transportEvents wiring sync message).filterMap Event.voice? = [] := by
  rw [transportEvents]
  split <;> rfl

theorem filterMap_voice?_faults (causes : List PlaybackFault) :
    (causes.map Event.fault).filterMap Event.voice? = [] := by
  rw [List.filterMap_map, List.filterMap_eq_nil_iff]
  exact fun _ _ => rfl

/-- Nothing but the silence is heard of a cleanup. -/
theorem filterMap_voice?_closingEvents (wiring : Wiring) (sync : SyncMode) :
    (closingEvents wiring sync).filterMap Event.voice? = [silence] := by
  have transport := filterMap_voice?_transportEvents wiring sync .stop
  rw [closingEvents, List.cons_append, List.filterMap_cons, List.filterMap_append, transport]
  rfl

/-- At ports that hold nobody back, nobody is ever blocked. -/
theorem Performance.unblocked_playedFor {ports : Nat → Port}
    (free : ∀ pulse, (ports pulse).held = false) (arrangement : Arrangement Playable)
    (looping : Bool) (pulses : Nat) : (playedFor ports arrangement looping pulses).Unblocked := by
  induction pulses with
  | zero => exact unblocked_beginPass arrangement looping 0
  | succ pulses inductionHypothesis =>
    show (Outcome.advance (ports pulses) (playedFor ports arrangement looping pulses)).1.Unblocked
    generalize playedFor ports arrangement looping pulses = outcome at inductionHypothesis ⊢
    match outcome, inductionHypothesis with
    | .ongoing performance, unblocked =>
      exact unblocked_pulse (unblocked performance rfl) (free pulses)
    | .over, unblocked | .broken _, unblocked => exact unblocked

namespace Engine

/-- What is heard of an engine: what has gone to its voice port since the last look, one list for
each sender. -/
def voices (engine : Engine) : List (List Message) := engine.events.filterMap Event.voice?

theorem voices_during_grown (engine : Engine) (events : List Event) (faults : FaultQueue)
    (play : Play) (phase : Phase) : ((engine.grown events faults).during play phase).voices =
      engine.voices ++ events.filterMap Event.voice? := List.filterMap_append

theorem voices_ended (engine : Engine) (events : List Event) (faults : FaultQueue) :
    (engine.ended events faults).voices = engine.voices ++ events.filterMap Event.voice? :=
  List.filterMap_append

variable {engine : Engine}

/-- If an engine plays after a performance has moved on, the performance goes on. -/
theorem exists_ongoing_of_playing (clears : engine.port.Clears) {play : Play} {outcome : Outcome}
    {heard : List Event} {faults : FaultQueue}
    (plays :
      ((engine.grown heard faults).during play (phaseOf outcome)).conclude.state = .playing) :
    ∃ performance, outcome = .ongoing performance := by
  by_contra ends
  obtain ⟨causes, kept, ended⟩ := conclude_of_over clears play (not_exists.mp ends) heard faults
  rw [ended] at plays
  exact nomatch plays

theorem announce_eq_grown (engine : Engine) (clears : engine.port.Clears) (sync : SyncMode)
    {message : Message}
    (transport : message.isTransport = true) : engine.announce sync message =
      (engine.grown (transportEvents engine.wiring sync message) engine.faults, false) := by
  obtain ⟨announced, unbroken⟩ := engine.sendSync_eq_grown clears message transport sync
  rw [← announced, announce]
  split
  · exact Prod.ext rfl unbroken
  · rfl

/-! ### Starts -/

/-- Whether an engine is in the middle of a play of an arrangement, and has come as far as the play
comes with so many pulses. -/
structure PlaysFor (arrangement : Arrangement Playable) (looping : Bool) (pulses : Nat)
    (engine : Engine) : Prop where
  clears : engine.port.Clears
  playing : ∃ play performance, engine.play = some play ∧
    (engine.settings.sync ≠ .follower → play.clocked = true) ∧
    play.phase = .performing performance ∧
    Performance.playedFor (fun _ => engine.port) arrangement looping pulses = .ongoing performance

theorem PlaysFor.state {arrangement : Arrangement Playable} {looping : Bool} {pulses : Nat}
    (plays : engine.PlaysFor arrangement looping pulses) : engine.state = .playing := by
  obtain ⟨play, _, playing, _⟩ := plays.playing
  rw [Engine.state, playing]
  rfl

/-- A play that fails before its players have begun is over. -/
theorem state_finish_fail (clears : engine.port.Clears) (play : Play) (cause : PlaybackFault) :
    ((engine.fail cause).finish play).state = .stopped := by
  obtain ⟨causes, faults, finished⟩ := (engine.fail cause).finish_eq_ended clears play
  rw [finished]
  rfl

theorem perform_plays (engine : Engine) (clears : engine.port.Clears) {play : Play}
    (playing : engine.play = some play)
    (clocked : engine.settings.sync ≠ .follower → play.clocked = true) (selection : Selection)
    (plays : (engine.perform play selection).state = .playing) :
    (engine.perform play selection).PlaysFor selection.playable.arranged engine.settings.looping 0 ∧
      (engine.perform play selection).voices = engine.voices := by
  have threaded : engine.spawnFaults.players = none := by
    cases refused : engine.spawnFaults.players with
    | none => rfl
    | some reason =>
      rw [perform, refused] at plays
      exact absurd ((state_finish_fail clears play _).symm.trans plays) (by decide)
  obtain ⟨faults, followed⟩ := follow_eq_during playing
    (Performance.start selection.playable.arranged engine.settings.looping)
  rw [perform, threaded] at plays ⊢
  dsimp only at plays ⊢
  rw [followed] at plays ⊢
  obtain ⟨performance, ongoing⟩ := exists_ongoing_of_playing clears plays
  have silent := Performance.deliveries_beginPass selection.playable.arranged
    engine.settings.looping 0
  constructor
  · rw [ongoing]
    exact ⟨clears, _, performance, rfl, clocked, rfl, ongoing⟩
  · rw [ongoing]
    show ((engine.grown _ faults).during play (.performing performance)).voices = _
    rw [voices_during_grown, filterMap_voice?_ofSound, ← filterMap_voice?_deliveries,
      Performance.start, silent]
    exact List.append_nil _

theorem startClocked_plays (engine : Engine) (clears : engine.port.Clears) (play : Play)
    (selection : Selection) (plays : (engine.startClocked play selection).state = .playing) :
    (engine.startClocked play selection).PlaysFor selection.playable.arranged
        engine.settings.looping 0 ∧
      (engine.startClocked play selection).voices = engine.voices := by
  rw [startClocked] at plays ⊢
  split at plays
  next fails => exact absurd ((state_finish_fail clears play _).symm.trans plays) (by decide)
  next starts =>
    rw [if_neg starts]
    exact perform_plays { engine with play := some { play with clocked := true } } clears rfl
      (fun _ => rfl) selection plays

theorem startPlay_plays (clears : engine.port.Clears) (selection : Selection)
    (plays : (engine.startPlay selection).state = .playing) :
    (engine.startPlay selection).PlaysFor selection.playable.arranged engine.settings.looping 0 ∧
      (engine.startPlay selection).voices = engine.voices := by
  let begun : Engine := { engine with play := some (engine.newPlay selection) }
  have announced : begun.announce (engine.newPlay selection).sync .start =
      (begun.grown (transportEvents begun.wiring (engine.newPlay selection).sync .start)
        begun.faults, false) := begun.announce_eq_grown clears _ rfl
  rw [startPlay_eq] at plays ⊢
  dsimp only at plays ⊢
  by_cases follows : (engine.newPlay selection).sync = .follower
  · rw [if_pos follows] at plays ⊢
    exact perform_plays begun clears rfl (fun leads => absurd follows leads) selection plays
  · rw [if_neg follows, announced, if_neg Bool.false_ne_true] at plays ⊢
    obtain ⟨performs, heard⟩ := startClocked_plays (begun.grown _ _) clears _ selection plays
    refine ⟨performs, heard.trans ?_⟩
    show (engine.events ++ transportEvents _ _ _).filterMap Event.voice? = _
    rw [List.filterMap_append, filterMap_voice?_transportEvents, List.append_nil]
    rfl

/-- A start behind which an engine plays was one of what is selected. -/
theorem start_of_plays (stopped : engine.play = none) {selection : Selection}
    (selected : engine.selection = some selection) (plays : engine.start.state = .playing) :
    engine.start = engine.startPlay selection := by
  cases startable : engine.startable? with
  | none =>
    obtain ⟨causes, faults, refused⟩ := start_of_not_startable stopped startable
    have still : engine.start.play = none := by rw [refused]; exact stopped
    exact absurd ((stopped_of_play_eq_none still).symm.trans plays) (by decide)
  | some choice =>
    obtain ⟨chosen, started⟩ := start_of_startable stopped startable
    rw [started, Option.some.inj (chosen.symm.trans selected)]

/-- A stopped engine that plays after it was asked to has begun to play its selection, and nothing
is heard before the first pulse. -/
theorem act_plays (clears : engine.port.Clears) (stopped : engine.play = none)
    {selection : Selection} (selected : engine.selection = some selection) {action : Action}
    (asked : engine.moveOf action = .start) (plays : (engine.act action).state = .playing) :
    (engine.act action).PlaysFor selection.playable.arranged engine.settings.looping 0 ∧
      (engine.act action).voices = engine.voices ∧ (engine.act action).port = engine.port := by
  obtain ⟨between, prepares, acted⟩ := engine.act_eq_move action
  obtain ⟨chosen, settings⟩ := prepares.settled (asked ▸ nofun)
  obtain ⟨causes, noted⟩ := prepares.events
  have started : engine.act action = between.startPlay selection := by
    rw [acted, asked] at plays ⊢
    exact start_of_plays (prepares.play.trans stopped) (chosen.trans selected) plays
  rw [started] at plays ⊢
  obtain ⟨performs, heard⟩ := startPlay_plays (prepares.port ▸ clears) selection plays
  refine ⟨settings ▸ performs, heard.trans ?_,
    (between.becomes_startPlay selection).keeps.port.trans prepares.port⟩
  rw [voices, noted, List.filterMap_append, filterMap_voice?_faults, List.append_nil]
  rfl

/-! ### Pulses -/

/-- Whether an action gives a pulse to the plays of an engine that is set up like this one: a tick,
unless they follow, or a clock message that arrives. -/
def IsPulse (engine : Engine) : Action → Prop
  | .tick => engine.settings.sync ≠ .follower
  | .inject bytes => engine.hearsSync = true ∧ Message.ofBytes? bytes = some .timingClock
  | .handleSync bytes => Message.ofBytes? bytes = some .timingClock
  | _ => False

theorem moveOf_of_isPulse (playing : engine.state = .playing) {action : Action}
    (pulse : engine.IsPulse action) : action = .tick ∨ engine.moveOf action = .pulse := by
  have moved {bytes : List UInt8} (read : Message.ofBytes? bytes = some .timingClock) :
      engine.moveOfBytes bytes = .pulse := by
    rw [moveOfBytes, read, playing]
  cases action with
  | tick => exact .inl rfl
  | inject bytes => exact .inr ((if_pos pulse.1).trans (moved pulse.2))
  | handleSync bytes => exact .inr (moved pulse)
  | select _ | configure _ | start | stop | requestPlay | requestStop | listen | listenSync
  | stopSync => exact pulse.elim

theorem announce_during (clears : engine.port.Clears) (play : Play) (phase : Phase)
    (heard : List Event) (faults : FaultQueue) :
    (((engine.grown heard faults).during play phase).announce play.sync .timingClock).1 =
      (engine.grown (heard ++ transportEvents engine.wiring play.sync .timingClock) faults).during
        play phase := by
  have announced := ((engine.grown heard faults).during play phase).announce_eq_grown clears
    play.sync (show Message.timingClock.isTransport = true from rfl)
  rw [announced, grown_during, grown_grown]
  rfl

/-- A pulse of whatever kind moves the performance on, and what is noted besides is not heard. -/
theorem act_eq_conclude (clears : engine.port.Clears) {play : Play}
    (playing : engine.play = some play)
    (clocked : engine.settings.sync ≠ .follower → play.clocked = true) {performance : Performance}
    (performing : play.phase = .performing performance) {action : Action}
    (pulse : engine.IsPulse action) :
    ∃ silent faults, silent.filterMap Event.voice? = [] ∧
      engine.act action = ((engine.grown
        ((performance.pulse engine.port).2.map (Event.ofSound play.edition) ++ silent)
        faults).during play (phaseOf (performance.pulse engine.port).1)).conclude := by
  have plays : engine.state = .playing := by
    rw [state, playing]
    rfl
  have delivered := deliverPulse_eq playing performing
  obtain ⟨faults, followed⟩ := follow_eq_during playing (performance.pulse engine.port)
  rw [followed] at delivered
  rcases moveOf_of_isPulse plays pulse with rfl | moved
  · refine ⟨transportEvents engine.wiring play.sync .timingClock, faults,
      filterMap_voice?_transportEvents _ _ _, ?_⟩
    show engine.tick = _
    rw [tick_eq, playing]
    dsimp only
    rw [if_pos (clocked pulse), delivered, announce_during clears]
  · refine ⟨[], faults, rfl, ?_⟩
    rw [act_of_pulse moved, outsidePulse, delivered, List.append_nil]

variable {arrangement : Arrangement Playable} {looping : Bool} {pulses : Nat}

/-- If an engine still plays after a pulse, it has come as far as the play comes with one pulse
more, and what is heard is what the play sends at that pulse. -/
theorem PlaysFor.pulse (plays : engine.PlaysFor arrangement looping pulses) {action : Action}
    (pulse : engine.IsPulse action) (still : (engine.act action).state = .playing) :
    (engine.act action).PlaysFor arrangement looping (pulses + 1) ∧
      (engine.act action).voices = engine.voices ++
        (Performance.sentAt (fun _ => engine.port) arrangement looping pulses).filterMap
          Sound.voice? := by
  obtain ⟨clears, play, performance, playing, clocked, performing, comes⟩ := plays
  obtain ⟨silent, faults, unheard, acted⟩ := act_eq_conclude clears playing clocked performing pulse
  rw [acted] at still ⊢
  obtain ⟨next, ongoing⟩ := exists_ongoing_of_playing clears still
  have sent : Performance.sentAt (fun _ => engine.port) arrangement looping pulses =
      deliveries (performance.pulse engine.port).2 := by
    rw [Performance.sentAt, soundsAt, ← Performance.playedFor, comes]
    rfl
  rw [ongoing, sent, filterMap_voice?_deliveries]
  constructor
  · refine ⟨clears, _, next, rfl, clocked, rfl, ?_⟩
    show (Outcome.advance engine.port
      (Performance.playedFor (fun _ => engine.port) arrangement looping pulses)).1 = _
    rw [comes]
    exact ongoing
  · show ((engine.grown _ faults).during play (.performing next)).voices = _
    rw [voices_during_grown, List.filterMap_append, filterMap_voice?_ofSound, unheard,
      List.append_nil]

/-! ### Stops -/

/-- An engine that is stopped in the middle of a play sends nothing but the silence. -/
theorem PlaysFor.stop (plays : engine.PlaysFor arrangement looping pulses) {action : Action}
    (asked : engine.moveOf action = .stop) :
    (engine.act action).play = none ∧ (engine.act action).voices = engine.voices ++ [silence] := by
  obtain ⟨clears, play, performance, playing, clocked, performing, comes⟩ := plays
  obtain ⟨between, prepares, acted⟩ := engine.act_eq_move action
  obtain ⟨causes, noted⟩ := prepares.events
  have unblocked : performance.player.Unblocked :=
    Performance.unblocked_playedFor (fun _ => clears.free) arrangement looping pulses _ comes
  obtain ⟨faults, followed⟩ := follow_eq_during (prepares.play.trans playing) performance.cancel
  obtain ⟨failures, kept, ended⟩ := conclude_of_over (prepares.port ▸ clears) play
    (Performance.cancel_ne_ongoing unblocked)
    (performance.cancel.2.map (Event.ofSound play.edition)) faults
  have stopped : between.stop = (between.follow play performance.cancel).conclude := by
    rw [Engine.stop, prepares.play, playing]
    dsimp only
    rw [performing]
  have silent : deliveries performance.cancel.2 = [] := Performance.deliveries_settle _
  rw [acted, asked, Engine.move, stopped, followed, ended]
  refine ⟨rfl, ?_⟩
  rw [voices_ended, List.filterMap_append, List.filterMap_append, filterMap_voice?_ofSound,
    ← filterMap_voice?_deliveries, silent, filterMap_voice?_faults,
    filterMap_voice?_closingEvents, voices, noted, List.filterMap_append, filterMap_voice?_faults,
    List.append_nil]
  rfl

end Engine

end StepSequencer
