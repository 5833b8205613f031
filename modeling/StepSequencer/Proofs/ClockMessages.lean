/-
This file says what a clock message from outside does to a play that follows nobody. It is not
ignored: it moves the players on by one pulse, as a tick of the clock that drives the play does, and
everything that comes later is the same as after a tick. The one difference is that a leader sends a
clock message of its own with each tick, and none with a clock message from outside. To see this,
the tick and the message are compared at their common beginning, the pulse; how the play goes on
from there does not depend on what has been noted before.
-/

import StepSequencer.Proofs.Moves
import StepSequencer.Proofs.Showings

namespace StepSequencer

theorem Attention.seen_map_sync {attention : Attention} (ignored : attention.transport = false)
    (messages : List Message) : attention.seen (messages.map .sync) = [] := by
  rw [seen, List.filterMap_map, List.filterMap_eq_nil_iff]
  intro message _
  simp [seen?, ignored]

namespace Engine

/-! ### Looking back -/

/-- Whether an engine is another one that has more to remember: it has noted some events before all
others, and has kept other faults. -/
def Recalls (past : List Event) (engine other : Engine) : Prop :=
  ∃ faults, other = { engine with events := past ++ engine.events, faults }

theorem recalls_look (engine : Engine) : Recalls engine.events engine.look.2 engine :=
  ⟨engine.faults, by rw [look, List.append_nil]⟩

namespace Recalls

variable {past : List Event} {engine other : Engine} (recalls : Recalls past engine other)
include recalls

/-- What has been noted is all the difference. -/
theorem same : other.play = engine.play ∧ other.wiring = engine.wiring ∧
    other.port = engine.port ∧ other.clock = engine.clock := by
  obtain ⟨faults, rfl⟩ := recalls
  exact ⟨rfl, rfl, rfl, rfl⟩

theorem note (events : List Event) : Recalls past (engine.note events) (other.note events) := by
  obtain ⟨faults, rfl⟩ := recalls
  exact ⟨faults, by simp only [Engine.note, List.append_assoc]⟩

theorem fail (cause : PlaybackFault) : Recalls past (engine.fail cause) (other.fail cause) := by
  obtain ⟨faults, rfl⟩ := recalls
  exact ⟨faults.push cause, by simp only [Engine.fail, Engine.note, List.append_assoc]⟩

theorem hearAll (edition : Nat) (sounds : List Sound) :
    Recalls past (engine.hearAll edition sounds) (other.hearAll edition sounds) := by
  induction sounds generalizing engine other with
  | nil => exact recalls
  | cons sound rest inductionHypothesis =>
    refine inductionHypothesis ?_
    cases sound with
    | step slot index => exact recalls.note _
    | messages sent => exact recalls.note _
    | refusal message => exact recalls.fail _

theorem setPhase (phase : Phase) : Recalls past (engine.setPhase phase) (other.setPhase phase) := by
  obtain ⟨faults, rfl⟩ := recalls
  exact ⟨faults, rfl⟩

theorem announce (sync : SyncMode) (message : Message) :
    Recalls past (engine.announce sync message).1 (other.announce sync message).1 ∧
      (engine.announce sync message).2 = (other.announce sync message).2 := by
  obtain ⟨_, wiring, port, _⟩ := recalls.same
  unfold Engine.announce Engine.sendSync
  rw [wiring, port]
  split
  · split
    · exact ⟨recalls, rfl⟩
    · cases engine.port.reply message with
      | taken => exact ⟨recalls.note _, rfl⟩
      | refused => exact ⟨recalls.fail _, rfl⟩
      | broken => exact ⟨recalls, rfl⟩
  · exact ⟨recalls, rfl⟩

theorem close : Recalls past engine.close other.close := by
  obtain ⟨faults, rfl⟩ := recalls
  exact ⟨faults, by simp only [Engine.close, Engine.note, List.append_assoc]⟩

theorem silenceAndClose (play : Play) :
    Recalls past (engine.silenceAndClose play) (other.silenceAndClose play) := by
  obtain ⟨_, _, port, _⟩ := recalls.same
  have silenced := recalls.hearAll play.edition (engine.port.deliver silence).sounds
  obtain ⟨announced, broke⟩ := silenced.announce play.sync .stop
  rw [silenceAndClose_eq, silenceAndClose_eq, port]
  dsimp only
  rw [← broke]
  split
  · exact silenced.setPhase .lost
  · split
    · exact announced.setPhase .lost
    · exact announced.close

theorem stopClock (play : Play) : Recalls past (engine.stopClock play) (other.stopClock play) := by
  have unclocked : Recalls past { engine with play := some { play with clocked := false } }
      { other with play := some { play with clocked := false } } := by
    obtain ⟨faults, rfl⟩ := recalls
    exact ⟨faults, rfl⟩
  have fails : other.clock.failsToStop = engine.clock.failsToStop := by
    rw [recalls.same.2.2.2]
  unfold Engine.stopClock
  rw [fails]
  split
  · split
    · exact unclocked.fail _
    · exact unclocked
  · exact recalls

theorem finish (play : Play) : Recalls past (engine.finish play) (other.finish play) := by
  have unclocked := recalls.stopClock play
  obtain ⟨_, _, port, _⟩ := unclocked.same
  unfold Engine.finish
  dsimp only
  rw [port]
  split
  · exact unclocked.setPhase .silencing
  · exact unclocked.silenceAndClose play

/-- How an engine cleans up does not depend on what it has noted. -/
theorem conclude : Recalls past engine.conclude other.conclude := by
  unfold Engine.conclude
  rw [recalls.same.1]
  split
  · split
    · exact (recalls.fail _).finish _
    · exact recalls.finish _
    · exact recalls
  · exact recalls

end Recalls

/-! ### Plays that follow nobody -/

/-- Whether the play of an engine, if it follows nobody, is driven by the clock of the engine until
its players have ended. -/
def Paced (engine : Engine) : Prop :=
  ∀ play, engine.play = some play → play.sync ≠ .follower → play.Driven

namespace Paced

variable {engine : Engine}

theorem of_stopped (stopped : engine.play = none) : engine.Paced :=
  fun _ playing => nomatch stopped.symm.trans playing

theorem continues (paced : engine.Paced) {after : Engine} (continues : engine.Continues after) :
    after.Paced := by
  intro next present leads
  obtain ⟨play, playing, goesOn⟩ := continues next present
  exact (paced play playing (goesOn.sync ▸ leads)).continues goesOn

theorem startPlay (engine : Engine) (selection : Selection) :
    (engine.startPlay selection).Paced := by
  by_cases follows : engine.settings.sync = .follower
  · have performed : Engine.Continues { engine with play := some (engine.newPlay selection) }
        (perform { engine with play := some (engine.newPlay selection) }
          (engine.newPlay selection) selection) :=
      continues_perform rfl (engine.newPlay_not_ended selection) selection
    intro next present leads
    rw [startPlay_eq] at present
    dsimp only at present
    rw [if_pos (show (engine.newPlay selection).sync = .follower from follows)] at present
    obtain ⟨play, ⟨⟩, goesOn⟩ := performed next present
    exact absurd (goesOn.sync.trans follows) leads
  · exact fun next present _ => driven_startPlay follows selection next present

theorem launch (paced : engine.Paced) (selection : Selection) :
    (engine.launch selection).Paced := by
  unfold Engine.launch
  split
  · exact .startPlay engine selection
  · exact paced

theorem start (paced : engine.Paced) : engine.start.Paced := by
  unfold Engine.start
  split
  next selection _ _ => exact paced.launch selection
  next => exact paced

theorem move (paced : engine.Paced) (move : Move) : (engine.move move).Paced := by
  cases move with
  | idle => exact paced
  | start => exact paced.start
  | stop => exact paced.continues engine.continues_stop
  | tick => exact paced.continues engine.continues_tick
  | pulse => exact paced.continues engine.continues_outsidePulse

theorem act (paced : engine.Paced) (action : Action) : (engine.act action).Paced := by
  obtain ⟨between, prepares, acted⟩ := engine.act_eq_move action
  rw [acted]
  exact (paced.continues (continues_of_play_eq prepares.play)).move _

end Paced

end Engine

/-- Whatever the history of a studio, a play that follows nobody is driven by its clock. -/
theorem Studio.Reached.paced {studio : Studio} (reached : studio.Reached) :
    studio.engine.Paced := by
  induction reached with
  | rest wiring sequence => exact .of_stopped rfl
  | @after studio deed _ inductionHypothesis =>
    have rewired (rewires : deed.rewires = true) : (studio.after deed).engine.Paced := by
      obtain ⟨board, same⟩ := studio.exists_rewired rewires
      exact same ▸ inductionHypothesis
    cases deed with
    | act action => exact inductionHypothesis.act action
    | reload document =>
      show (studio.reload document).2.engine.Paced
      rw [Studio.reload_eq]
      exact inductionHypothesis.continues (Engine.continues_reload _ document)
    | subscribe _ _ _ | unsubscribe _ _ | receive _ => exact rewired rfl
    | setPort port => exact inductionHypothesis.continues (Engine.continues_setPort _ port)
    | setClock _ | setSpawnFaults _ | drainFaults => exact inductionHypothesis
  | looked _ inductionHypothesis => exact inductionHypothesis

/-! ### Pulses and ticks -/

namespace Engine

/-- What is sent to the sync output if a sync mode asks for it and the output takes it. -/
def announced (engine : Engine) (sync : SyncMode) (message : Message) : List Message :=
  if sync = .leader ∧ engine.wiring.syncOutput = true ∧ engine.port.reply message = .taken then
    [message]
  else []

/-- The clock message that a tick sends: that of a leader whose play the clock drives. -/
def tickMessages (engine : Engine) : List Message :=
  match engine.play with
  | some play => if play.clocked then engine.announced play.sync .timingClock else []
  | none => []

/-- To announce something is to send it, and at most to note a fault. -/
theorem recalls_announce (engine : Engine) (sync : SyncMode) (message : Message) :
    ∃ past, Attention.toShows.seen past =
        Attention.toShows.seen (engine.events ++ (engine.announced sync message).map .sync) ∧
      Recalls past engine.look.2 (engine.announce sync message).1 := by
  unfold announce sendSync announced
  by_cases leads : sync = .leader
  · rw [if_pos leads]
    cases wired : engine.wiring.syncOutput with
    | false => exact ⟨engine.events, by simp, engine.recalls_look⟩
    | true =>
      cases replied : engine.port.reply message with
      | taken =>
        exact ⟨engine.events ++ [.sync message], by simp [leads], engine.faults,
          by simp [look, note]⟩
      | refused =>
        let cause : PlaybackFault := .port (.send (Port.refusalText message))
        exact ⟨engine.events ++ [.fault cause], by simp, engine.faults.push cause,
          by simp [look, fail, note, cause]⟩
      | broken => exact ⟨engine.events, by simp, engine.recalls_look⟩
  · rw [if_neg leads]
    exact ⟨engine.events, by simp [leads], engine.recalls_look⟩

/-- Players make nothing known to the sync output. -/
theorem filterMap_sync?_deliverPulse (engine : Engine) :
    engine.deliverPulse.events.filterMap Event.sync? = engine.events.filterMap Event.sync? := by
  unfold deliverPulse
  split
  next play _ =>
    split
    next performance _ =>
      obtain ⟨faults, heard⟩ :=
        engine.hearAll_eq_grown play.edition (performance.pulse engine.port).2
      have silent (sounds : List Sound) :
          (sounds.map (Event.ofSound play.edition)).filterMap Event.sync? = [] := by
        rw [List.filterMap_map, List.filterMap_eq_nil_iff]
        intro sound _
        cases sound <;> rfl
      rw [follow, setPhase, heard]
      show (engine.events ++ _).filterMap Event.sync? = _
      rw [List.filterMap_append, silent, List.append_nil]
    next => rfl
  next => rfl

/-- Whether an engine has come to the same as another one, but has sent some more messages to the
sync output before everything that the other one has sent there. -/
structure Announces (messages : List Message) (engine other : Engine) : Prop where
  same : ∃ events faults, other = { engine with events, faults }
  log : ∃ before behind, before.filterMap Event.sync? = [] ∧ engine.events = before ++ behind ∧
    Attention.toShows.seen other.events =
      Attention.toShows.seen (before ++ messages.map .sync ++ behind)

/-- A tick of the clock that drives a play leads to the same as a pulse from outside. -/
theorem announces_tick {engine : Engine} {play : Play} (playing : engine.play = some play)
    (driven : play.Driven) (fresh : engine.events = []) :
    Announces engine.tickMessages engine.outsidePulse engine.tick := by
  rw [tick_eq, tickMessages, playing]
  dsimp only
  by_cases clock : play.clocked = true
  · rw [if_pos clock, if_pos clock]
    have silent := engine.filterMap_sync?_deliverPulse
    have keeps := engine.becomes_deliverPulse.keeps
    have messages : engine.deliverPulse.announced play.sync .timingClock =
        engine.announced play.sync .timingClock := by
      rw [announced, announced, keeps.wiring, keeps.port]
    obtain ⟨past, seen, timed⟩ := engine.deliverPulse.recalls_announce play.sync .timingClock
    obtain ⟨faults, heard⟩ := engine.deliverPulse.recalls_look.conclude
    obtain ⟨kept, ticked⟩ := timed.conclude
    rw [messages] at seen
    rw [fresh] at silent
    refine ⟨⟨past ++ engine.deliverPulse.look.2.conclude.events, kept, ?_⟩,
      engine.deliverPulse.events, engine.deliverPulse.look.2.conclude.events,
      silent, ?_, ?_⟩
    · rw [ticked, outsidePulse, heard]
    · rw [outsidePulse, heard]
    · rw [ticked, Attention.seen_append, seen, ← Attention.seen_append]
  · have ended := driven.resolve_left clock
    rw [if_neg clock, if_neg clock, outsidePulse_of_ended playing ended]
    exact ⟨⟨_, _, rfl⟩, engine.events, [], by rw [fresh]; rfl, by simp, by simp⟩

end Engine

namespace Studio

variable {first second : Studio} {messages : List Message}

theorem showing_eq_of_announces (announces : Engine.Announces messages first.engine second.engine)
    (same : SameSteps first second) :
    second.showing = { first.showing with sync := messages ++ first.showing.sync } := by
  obtain ⟨⟨events, faults, came⟩, before, behind, silent, log, seen⟩ := announces
  have plays : second.engine.state = first.engine.state := by
    rw [came]
    rfl
  -- Whoever does not care for transport does not notice the messages at all.
  have unnoticed : Attention.toNotes.seen (before ++ messages.map .sync ++ behind) =
      Attention.toNotes.seen first.engine.events := by
    rw [Attention.seen_append, Attention.seen_append, Attention.seen_map_sync rfl, log,
      Attention.seen_append, List.append_nil]
  have voices : second.engine.events.filterMap Event.voice? =
      first.engine.events.filterMap Event.voice? := by
    rw [← Attention.toShows.filterMap_voice?_seen, seen, Attention.filterMap_voice?_seen,
      ← Attention.toNotes.filterMap_voice?_seen, unnoticed, Attention.filterMap_voice?_seen]
  have cursors : second.look.2.cursors = first.look.2.cursors := by
    have counts : Attention.toShows.editions = true := rfl
    have alsoCounts : Attention.toNotes.editions = true := rfl
    show second.engine.events.foldl (moveCursor second.edition) second.cursors =
      first.engine.events.foldl (moveCursor first.edition) first.cursors
    rw [← foldl_moveCursor_seen counts, seen, foldl_moveCursor_seen counts,
      ← foldl_moveCursor_seen alsoCounts, unnoticed, foldl_moveCursor_seen alsoCounts,
      same.edition, same.cursors]
  have sync : second.engine.events.filterMap Event.sync? =
      messages ++ first.engine.events.filterMap Event.sync? := by
    have sent : (messages.map Event.sync).filterMap Event.sync? = messages := by
      rw [List.filterMap_map]
      exact List.filterMap_some
    have counts : Attention.toShows.transport = true := rfl
    rw [← Attention.filterMap_sync?_seen counts, seen, Attention.filterMap_sync?_seen counts, log,
      List.filterMap_append, List.filterMap_append, List.filterMap_append, silent, sent]
    rfl
  unfold showing output
  rw [voices, sync, plays, cursors]

/-- A clock message from outside does to a play that follows nobody what a tick of its own clock
does, except that nobody announces it: it moves the play on, and all that follows is the same. -/
theorem showing_tick_eq {studio : Studio} (reached : studio.Reached) {play : Play}
    (playing : studio.engine.play = some play) (leads : play.sync ≠ .follower) {action : Action}
    (pulse : studio.engine.moveOf action = .pulse) :
    (studio.look.2.after (.act .tick)).showing =
        { (studio.look.2.after (.act action)).showing with
          sync := studio.engine.tickMessages ++ (studio.look.2.after (.act action)).showing.sync } ∧
      ∀ deeds, (studio.look.2.after (.act .tick)).showings deeds =
        (studio.look.2.after (.act action)).showings deeds := by
  have looked : studio.look.2.engine.play = some play := playing
  have alsoPulse : studio.look.2.engine.moveOf action = .pulse := by
    cases action <;> exact pulse
  have announces : Engine.Announces studio.engine.tickMessages
      (studio.look.2.after (.act action)).engine (studio.look.2.after (.act .tick)).engine := by
    have heard : (studio.look.2.after (.act action)).engine = studio.look.2.engine.outsidePulse :=
      Engine.act_of_pulse alsoPulse
    rw [heard]
    exact Engine.announces_tick looked (reached.paced play playing leads) rfl
  have showing := showing_eq_of_announces announces ⟨rfl, rfl⟩
  have steps : SameSteps (studio.look.2.after (.act action)).look.2
      (studio.look.2.after (.act .tick)).look.2 := ⟨rfl, (congrArg Showing.cursors showing).symm⟩
  have twins : Engine.Twins .toShows (studio.look.2.after (.act action)).look.2.engine
      (studio.look.2.after (.act .tick)).look.2.engine := by
    have self := (reached.looked.after (.act action)).looked.twins
    obtain ⟨events, faults, came⟩ := announces.same
    show Engine.Twins _ _ (studio.look.2.after (.act .tick)).engine.look.2
    rw [came]
    exact { self with alike := { self.alike with } }
  exact ⟨showing, fun deeds => (SameSteps.showings_eq steps twins deeds).symm⟩

/-- Whether something that is done brings a pulse from outside to a play that follows nobody. -/
def intrudes (studio : Studio) : Deed → Bool
  | .act action => decide (studio.engine.moveOf action = .pulse) &&
      studio.engine.play.any fun play => decide (play.sync ≠ .follower)
  | _ => false

/-- The same deeds with a tick of the clock in place of each pulse that intrudes. -/
def ticking : Studio → List Deed → List Deed
  | _, [] => []
  | studio, deed :: rest => (if studio.intrudes deed then .act .tick else deed) ::
      (studio.look.2.after deed).ticking rest

/-- The clock messages that nobody sends because pulses intrude, deed by deed. -/
def unannounced : Studio → List Deed → List (List Message)
  | _, [] => []
  | studio, deed :: rest => (if studio.intrudes deed then studio.engine.tickMessages else []) ::
      (studio.look.2.after deed).unannounced rest

theorem exists_pulse_of_intrudes {studio : Studio} {deed : Deed}
    (intrudes : studio.intrudes deed = true) :
    ∃ (action : Action) (play : Play), deed = .act action ∧
      studio.engine.moveOf action = .pulse ∧ studio.engine.play = some play ∧
      play.sync ≠ .follower := by
  cases deed with
  | act action =>
    obtain ⟨pulse, unfollowing⟩ := Bool.and_eq_true_iff.mp intrudes
    cases playing : studio.engine.play with
    | none =>
      rw [playing] at unfollowing
      exact nomatch unfollowing
    | some play =>
      rw [playing] at unfollowing
      exact ⟨action, play, rfl, of_decide_eq_true pulse, rfl, of_decide_eq_true unfollowing⟩
  | reload _ | subscribe _ _ _ | unsubscribe _ _ | receive _ | setPort _ | setClock _
  | setSpawnFaults _ | drainFaults => exact nomatch intrudes

/-- Clock messages from outside drive plays that follow nobody. In every run they do what as many
ticks of the clock would do in their place, except that leaders announce ticks, and announce no
clock messages from outside. -/
theorem showings_ticking {studio : Studio} (reached : studio.Reached) (deeds : List Deed) :
    studio.showings (studio.ticking deeds) =
      List.zipWith (fun messages showing => { showing with sync := messages ++ showing.sync })
        (studio.unannounced deeds) (studio.showings deeds) := by
  induction deeds generalizing studio with
  | nil => rfl
  | cons deed rest inductionHypothesis =>
    have behind := inductionHypothesis (reached.looked.after deed)
    rw [ticking, unannounced, showings, showings, List.zipWith_cons_cons]
    cases intrudes : studio.intrudes deed with
    | false => exact congrArg _ behind
    | true =>
      obtain ⟨action, play, rfl, pulse, playing, leads⟩ := exists_pulse_of_intrudes intrudes
      obtain ⟨shown, later⟩ := showing_tick_eq reached playing leads pulse
      exact congrArg₂ List.cons shown ((later _).trans behind)

/-- An engine at rest can be set up in any way. -/
theorem Reached.configured (wiring : Wiring) (sequence : Sequence) (settings : PlaySettings) :
    Reached ⟨{ Engine.ofWiring wiring with settings }, sequence, 0, sequence.clearCursors⟩ := by
  have drained := ((Reached.rest wiring sequence).after (.act (.configure settings))).looked.after
    .drainFaults
  unfold Studio.look Studio.after Studio.act Engine.act Engine.configure withEngine at drained
  dsimp only at drained
  split at drained <;> exact drained

/-- A leader begins its first note when a clock message arrives, and announces nothing. -/
theorem showings_ticking_chainSample :
    ∃ studio : Studio, studio.Reached ∧
      studio.showings [.act (.handleSync [0xF8]), .act .tick] =
        [⟨⟨[[.noteOn 0 60 100]], [], .playing⟩, [some 0, none, none]⟩,
          ⟨⟨[], [.timingClock], .playing⟩, [some 0, none, none]⟩] ∧
      studio.showings [.act .tick, .act .tick] =
        [⟨⟨[[.noteOn 0 60 100]], [.timingClock], .playing⟩, [some 0, none, none]⟩,
          ⟨⟨[], [.timingClock], .playing⟩, [some 0, none, none]⟩] := by
  let leading : PlaySettings := ⟨Settings.default.bpm, false, .leader⟩
  let started (sequence : Sequence) (playable : Playable) : Studio :=
    ((⟨{ Engine.ofWiring ⟨true, false⟩ with settings := leading }, sequence, 0,
      sequence.clearCursors⟩ : Studio).after (.act (.select ⟨0, playable⟩))).after (.act .start)
  let deeds : List Deed := [.act (.handleSync [0xF8]), .act .tick]
  obtain ⟨sequence, _, found⟩ := Sequence.exists_load_eq_ok Sequence.chainSample
    (show ((Sequence.load Sequence.chainSample).toOption.any fun sequence =>
      sequence.playables.any fun playable =>
        ((started sequence playable).look.2.intrudes (.act (.handleSync [0xF8]))) &&
        decide ((started sequence playable).look.2.unannounced deeds = [[.timingClock], []] ∧
          (started sequence playable).look.2.showings deeds =
            [⟨⟨[[.noteOn 0 60 100]], [], .playing⟩, [some 0, none, none]⟩,
              ⟨⟨[], [.timingClock], .playing⟩, [some 0, none, none]⟩])) = true
      by decide +kernel)
  obtain ⟨playable, _, computed⟩ := List.any_eq_true.mp found
  obtain ⟨intrudes, computed⟩ := Bool.and_eq_true_iff.mp computed
  obtain ⟨messages, heard⟩ := of_decide_eq_true computed
  have reached : (started sequence playable).look.2.Reached :=
    .looked (.after _ (.after _ (.configured ⟨true, false⟩ sequence leading)))
  have ticked := showings_ticking reached deeds
  rw [messages, heard, ticking, if_pos intrudes] at ticked
  exact ⟨_, reached, heard, ticked⟩

end Studio

end StepSequencer
