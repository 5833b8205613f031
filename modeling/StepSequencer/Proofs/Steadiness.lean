/-
This file follows engines whose ports answer. Such a port may refuse messages, it may be held, and
notes may break their senders; but nobody breaks on what plays begin and end with. Then a cleanup
that begins comes to its end, at once or when the port is released. So at any point of any history a
play either performs, and nobody in it is blocked unless the port is held, or it waits for a held
port with all its players ended. And nothing comes from a document that has not been loaded yet.
-/

import StepSequencer.Proofs.Continuing
import StepSequencer.Proofs.Histories
import StepSequencer.Proofs.Moves
import StepSequencer.Proofs.Unblocked

namespace StepSequencer

/-! ### Ports that answer -/

/-- A port on which nobody breaks with what plays begin and end with. It may refuse whatever it
likes and hold everybody back, and notes may break their senders. -/
structure Port.Answers (port : Port) : Prop where
  transport : ∀ message, message.isTransport = true → port.reply message ≠ .broken
  silence : ∀ message ∈ StepSequencer.silence, port.reply message ≠ .broken

theorem Port.Clears.answers {port : Port} (clears : port.Clears) : port.Answers where
  transport message transport := clears.transport message transport ▸ nofun
  silence message member := clears.silence message member ▸ nofun

/-- Unless its sender breaks, every message is taken or refused. -/
theorem Port.deliver_eq_of_unbroken {port : Port} {messages : List Message}
    (unbroken : ∀ message ∈ messages, port.reply message ≠ .broken) :
    port.deliver messages = ⟨messages.filter fun message => port.reply message = .taken,
      messages.filter fun message => port.reply message = .refused, none⟩ := by
  induction messages with
  | nil => rfl
  | cons message rest inductionHypothesis =>
    obtain ⟨first, behind⟩ := List.forall_mem_cons.mp unbroken
    rw [deliver, inductionHypothesis behind]
    cases answer : port.reply message with
    | taken => simp [answer]
    | refused => simp [answer]
    | broken => exact absurd answer first

/-! ### Released ports -/

theorem Performer.unsent_release (performer : Performer) (port : Port) (cancelled : Bool) :
    (performer.release port cancelled).1.unsent = [] := by
  rw [release]
  split
  next unblocked => simpa [blocked] using unblocked
  · dsimp only
    split <;> rfl

namespace Player

mutual

theorem unblocked_release (port : Port) (cancelled : Bool) :
    ∀ player : Player, (release port cancelled player).1.Unblocked
  | .inStage ⟨slot, index, later, count, performers, nested, broken⟩ => by
    have inner := unblocked_releaseAll port cancelled nested
    rw [release]
    refine .inStage ?_ inner
    rw [List.map_map]
    exact List.forall_mem_map.mpr fun performer _ => performer.unsent_release port cancelled

theorem unblocked_releaseAll (port : Port) (cancelled : Bool) :
    ∀ players : List Player, ∀ player ∈ (releaseAll port cancelled players).1, player.Unblocked
  | [] => nofun
  | player :: rest => by
    rw [releaseAll]
    exact List.forall_mem_cons.mpr
      ⟨unblocked_release port cancelled player, unblocked_releaseAll port cancelled rest⟩

end

end Player

/-- Once its port is released, nobody in a play is blocked any more. -/
theorem Performance.unblocked_release (performance : Performance) (port : Port) :
    (performance.release port).1.Unblocked :=
  unblocked_settle (performance.player.unblocked_release port performance.token)

/-- Whoever has been told to end does so once the port is released. -/
theorem Performance.release_ne_ongoing {performance : Performance}
    (told : performance.token = true) (port : Port) (other : Performance) :
    (performance.release port).1 ≠ .ongoing other := by
  have sent := performance.player.unblocked_release port performance.token
  rw [release]
  generalize performance.player.release port performance.token = result at sent ⊢
  obtain ⟨player, sounds⟩ := result
  have still : ({ performance with player } : Performance).token = true := told
  exact settle_ne_ongoing still sent other

/-! ### Cleanups -/

namespace Engine

/-- What is noted when a message that a sync mode asks for goes to the sync output, or is refused
there. -/
def announcement (engine : Engine) (sync : SyncMode) (message : Message) : List Event :=
  if engine.wiring.syncOutput && sync = .leader then
    if engine.port.reply message = .taken then [.sync message]
    else [.fault (.port (.send (Port.refusalText message)))]
  else []

/-- What is noted when all notes are ended: the messages that are taken, and those refused. -/
def silencing (engine : Engine) : List Event :=
  let taken := silence.filter fun message => engine.port.reply message = .taken
  let refused := silence.filter fun message => engine.port.reply message = .refused
  (if taken.isEmpty then [] else [.voice taken]) ++
    refused.map fun message => .fault (.port (.send (Port.refusalText message)))

/-- What is noted of the cleanup of a play: every note is ended, a leader announces the stop, the
state becomes stopped, and that is published. -/
def cleanup (engine : Engine) (play : Play) : List Event :=
  engine.silencing ++ (engine.announcement play.sync .stop ++ [.stopped, .noticed])

/-- An engine whose players have ended, when some events have been noted on the way: its play is
over after the cleanup, or waits for it at a held port. -/
def concluded (engine : Engine) (play : Play) (events : List Event) (faults : FaultQueue) :
    Engine :=
  if engine.port.held then
    { engine.grown events faults with
      play := some { play with clocked := false, phase := .silencing } }
  else engine.ended (events ++ engine.cleanup play) faults

variable {engine : Engine} {play : Play}

theorem announce_of_answers (answers : engine.port.Answers) (sync : SyncMode) (message : Message)
    (transport : message.isTransport = true) : ∃ faults, engine.announce sync message =
      (engine.grown (engine.announcement sync message) faults, false) := by
  have unbroken := answers.transport message transport
  unfold announce announcement sendSync
  by_cases leads : sync = .leader
  · cases wired : engine.wiring.syncOutput with
    | false => exact ⟨engine.faults, by simp [leads, grown_nil]⟩
    | true =>
      cases answer : engine.port.reply message with
      | taken => exact ⟨engine.faults, by simp [leads, note_eq_grown]⟩
      | refused =>
        exact ⟨engine.faults.push (.port (.send (Port.refusalText message))),
          by simp [leads, fail_eq_grown]⟩
      | broken => exact absurd answer unbroken
  · exact ⟨engine.faults, by simp [leads, grown_nil]⟩

/-- At a port that answers, a cleanup comes to its end. -/
theorem silenceAndClose_of_answers (answers : engine.port.Answers) (play : Play) :
    ∃ faults, engine.silenceAndClose play = engine.ended (engine.cleanup play) faults := by
  obtain ⟨kept, heard⟩ :=
    engine.hearAll_eq_grown play.edition (engine.port.deliver silence).sounds
  have silenced : (engine.port.deliver silence).sounds.map (Event.ofSound play.edition) =
      engine.silencing := by
    rw [Port.deliver_eq_of_unbroken answers.silence]
    simp only [Delivery.sounds, List.map_append, List.map_map, silencing]
    congr 1
    split <;> rfl
  rw [silenced] at heard
  have still : (engine.grown engine.silencing kept).port.Answers := answers
  obtain ⟨faults, announced⟩ := announce_of_answers still play.sync .stop rfl
  refine ⟨faults, ?_⟩
  rw [silenceAndClose_eq]
  dsimp only
  rw [heard, announced, Port.deliver_eq_of_unbroken answers.silence]
  refine (close_eq_ended _).trans ?_
  rw [ended_grown, ended_grown, cleanup]
  rfl

theorem finish_of_answers (answers : engine.port.Answers) (playing : engine.play = some play) :
    ∃ (causes : List PlaybackFault) (faults : FaultQueue),
      engine.finish play = engine.concluded play (causes.map .fault) faults := by
  obtain ⟨causes, faults, running, unclocked⟩ := engine.stopClock_eq play
  have present := play_stopClock playing
  have same : (engine.stopClock play).port = engine.port :=
    (engine.becomes_stopClock play).keeps.port
  have still : (engine.stopClock play).port.Answers := same ▸ answers
  unfold finish concluded
  dsimp only
  rw [same]
  split
  · obtain rfl : running = some { play with clocked := false } := by
      rw [unclocked] at present
      exact present
    exact ⟨causes, faults, by rw [unclocked]; rfl⟩
  · obtain ⟨kept, closed⟩ := silenceAndClose_of_answers still play
    refine ⟨causes, kept, ?_⟩
    rw [closed, unclocked]
    exact ended_grown engine _ _ faults kept

theorem concluded_during (engine : Engine) (play : Play) (phase : Phase)
    (events behind : List Event) (faults kept : FaultQueue) :
    ((engine.grown events faults).during play phase).concluded { play with phase } behind kept =
      engine.concluded play (events ++ behind) kept := by
  unfold concluded
  refine ite_congr rfl (fun _ => ?_) fun _ => ?_
  · rw [grown_during, grown_grown]
    rfl
  · rw [ended_during, ended_grown, List.append_assoc]
    rfl

/-- Once the players of a play have ended, the cleanup begins. -/
theorem conclude_eq_concluded (answers : engine.port.Answers) (play : Play) {outcome : Outcome}
    (ends : ∀ performance, outcome ≠ .ongoing performance) (events : List Event)
    (faults : FaultQueue) :
    ∃ (causes : List PlaybackFault) (kept : FaultQueue),
      ((engine.grown events faults).during play (phaseOf outcome)).conclude =
        engine.concluded play (events ++ causes.map .fault) kept := by
  have finished (phase : Phase) (events : List Event) (faults : FaultQueue) :
      ∃ (causes : List PlaybackFault) (kept : FaultQueue),
        ((engine.grown events faults).during play phase).finish { play with phase } =
          engine.concluded play (events ++ causes.map .fault) kept := by
    have still : ((engine.grown events faults).during play phase).port.Answers := answers
    obtain ⟨causes, kept, finished⟩ := finish_of_answers still rfl
    exact ⟨causes, kept, finished.trans (concluded_during ..)⟩
  match outcome, ends with
  | .ongoing performance, ends => exact absurd rfl (ends performance)
  | .over, _ => exact finished (.ending none) events faults
  | .broken message, _ =>
    let crash : PlaybackFault := .crash (Port.breakText message)
    obtain ⟨causes, kept, finished⟩ :=
      finished (.ending (some message)) (events ++ [.fault crash]) (faults.push crash)
    refine ⟨crash :: causes, kept, ?_⟩
    rw [List.append_assoc] at finished
    rw [List.map_cons, ← List.singleton_append, ← finished,
      ← grown_grown engine events [.fault crash] faults]
    rfl

end Engine

/-! ### Steady engines -/

/-- Whether an event does not come from a document later than a given one. -/
def Event.Within (edition : Nat) : Event → Prop
  | .step source _ _ => source ≤ edition
  | .voice _ | .sync _ | .fault _ | .stopped | .noticed => True

theorem Event.within_ofSound {source edition : Nat} (loaded : source ≤ edition) (sound : Sound) :
    (Event.ofSound source sound).Within edition := by
  cases sound with
  | step slot index => exact loaded
  | messages sent | refusal message => trivial

/-- How a play can stand between actions: it performs, and nobody in it is blocked unless the port
is held, or it waits for a held port. -/
inductive Phase.Steady (port : Port) : Phase → Prop
  | performing {performance : Performance}
      (unblocked : port.held = false → performance.player.Unblocked) :
      Steady port (.performing performance)
  | silencing (held : port.held = true) : Steady port .silencing

namespace Engine

/-- Whether the port of an engine answers, and nothing that the engine has noted or selected comes
from a document later than a given one. -/
structure Regular (edition : Nat) (engine : Engine) : Prop where
  answers : engine.port.Answers
  noted : ∀ event ∈ engine.events, event.Within edition
  selected : ∀ selection, engine.selection = some selection → selection.edition ≤ edition

/-- Whether an engine can stand like this between actions when no document later than a given one
has been loaded. -/
structure Steady (edition : Nat) (engine : Engine) : Prop extends engine.Regular edition where
  loaded : ∀ play, engine.play = some play → play.edition ≤ edition
  phase : ∀ play, engine.play = some play → play.phase.Steady engine.port

theorem within_announcement (engine : Engine) (sync : SyncMode) (message : Message)
    (edition : Nat) : ∀ event ∈ engine.announcement sync message, event.Within edition := by
  unfold announcement
  split
  · split <;> exact List.forall_mem_singleton.mpr trivial
  · exact List.forall_mem_nil _

theorem within_cleanup (engine : Engine) (play : Play) (edition : Nat) :
    ∀ event ∈ engine.cleanup play, event.Within edition := by
  have silenced : ∀ event ∈ engine.silencing, event.Within edition := by
    refine List.forall_mem_append.mpr ⟨?_, List.forall_mem_map.mpr fun _ _ => trivial⟩
    split
    · exact List.forall_mem_nil _
    · exact List.forall_mem_singleton.mpr trivial
  refine List.forall_mem_append.mpr ⟨silenced, List.forall_mem_append.mpr
    ⟨engine.within_announcement play.sync .stop edition, ?_⟩⟩
  exact List.forall_mem_cons.mpr ⟨trivial, List.forall_mem_singleton.mpr trivial⟩

theorem within_faults (causes : List PlaybackFault) (edition : Nat) :
    ∀ event ∈ causes.map Event.fault, event.Within edition :=
  List.forall_mem_map.mpr fun _ _ => trivial

namespace Regular

variable {edition : Nat} {engine : Engine} (regular : engine.Regular edition)
include regular

theorem grown {events : List Event} (within : ∀ event ∈ events, event.Within edition)
    (faults : FaultQueue) : (engine.grown events faults).Regular edition where
  answers := regular.answers
  noted := List.forall_mem_append.mpr ⟨regular.noted, within⟩
  selected := regular.selected

theorem during (play : Play) (loaded : play.edition ≤ edition) {phase : Phase}
    (steady : phase.Steady engine.port) : (engine.during play phase).Steady edition where
  toRegular := ⟨regular.answers, regular.noted, regular.selected⟩
  loaded := by
    rintro _ ⟨⟩
    exact loaded
  phase := by
    rintro _ ⟨⟩
    exact steady

theorem ended {events : List Event} (within : ∀ event ∈ events, event.Within edition)
    (faults : FaultQueue) : (engine.ended events faults).Steady edition where
  answers := regular.answers
  noted := (regular.grown within faults).noted
  selected := regular.selected
  loaded := nofun
  phase := nofun

theorem silenceAndClose (play : Play) : (engine.silenceAndClose play).Steady edition := by
  obtain ⟨faults, closed⟩ := silenceAndClose_of_answers regular.answers play
  rw [closed]
  exact regular.ended (engine.within_cleanup play edition) faults

theorem concluded {play : Play} (loaded : play.edition ≤ edition) {events : List Event}
    (within : ∀ event ∈ events, event.Within edition) (faults : FaultQueue) :
    (engine.concluded play events faults).Steady edition := by
  unfold Engine.concluded
  split
  next held =>
    exact (regular.grown within faults).during { play with clocked := false } loaded
      (.silencing held)
  next =>
    exact regular.ended (List.forall_mem_append.mpr
      ⟨within, engine.within_cleanup play edition⟩) faults

/-- A play that goes on is steady, and one whose players have ended is concluded. -/
theorem conclude {play : Play} (loaded : play.edition ≤ edition) {events : List Event}
    (within : ∀ event ∈ events, event.Within edition) (faults : FaultQueue) {outcome : Outcome}
    (unblocked : engine.port.held = false → outcome.Unblocked) :
    ((engine.grown events faults).during play (phaseOf outcome)).conclude.Steady edition := by
  by_cases plays : ∃ performance, outcome = .ongoing performance
  · obtain ⟨performance, rfl⟩ := plays
    exact (regular.grown within faults).during play loaded
      (.performing fun free => unblocked free performance rfl)
  · obtain ⟨causes, kept, concluded⟩ := Engine.conclude_eq_concluded regular.answers play
      (not_exists.mp plays) events faults
    rw [concluded]
    exact regular.concluded loaded
      (List.forall_mem_append.mpr ⟨within, within_faults causes edition⟩) kept

theorem follow {play : Play} (playing : engine.play = some play) (loaded : play.edition ≤ edition)
    {result : Outcome × List Sound} (unblocked : engine.port.held = false → result.1.Unblocked) :
    (engine.follow play result).conclude.Steady edition := by
  obtain ⟨faults, followed⟩ := follow_eq_during playing result
  rw [followed]
  exact regular.conclude loaded
    (List.forall_mem_map.mpr fun sound _ => Event.within_ofSound loaded sound) faults unblocked

/-- A failure before the players have begun leads to the cleanup. -/
theorem finish_fail {play : Play} (playing : engine.play = some play)
    (loaded : play.edition ≤ edition) (cause : PlaybackFault) :
    ((engine.fail cause).finish play).Steady edition := by
  have failed : (engine.fail cause).Regular edition :=
    regular.grown (within_faults [cause] edition) _
  obtain ⟨causes, faults, finished⟩ := finish_of_answers failed.answers playing
  rw [finished]
  exact failed.concluded loaded (within_faults causes edition) faults

theorem perform {play : Play} (playing : engine.play = some play) (loaded : play.edition ≤ edition)
    (selection : Selection) : (engine.perform play selection).Steady edition := by
  unfold Engine.perform
  split
  · exact regular.follow playing loaded fun _ => Performance.unblocked_beginPass _ _ 0
  · exact regular.finish_fail playing loaded _

theorem startClocked {play : Play} (playing : engine.play = some play)
    (loaded : play.edition ≤ edition) (selection : Selection) :
    (engine.startClocked play selection).Steady edition := by
  unfold Engine.startClocked
  split
  · exact regular.finish_fail playing loaded _
  · have clocked : Engine.Regular edition
        { engine with play := some { play with clocked := true } } :=
      ⟨regular.answers, regular.noted, regular.selected⟩
    exact clocked.perform rfl loaded selection

theorem startPlay {selection : Selection} (loaded : selection.edition ≤ edition) :
    (engine.startPlay selection).Steady edition := by
  have playing : Engine.Regular edition { engine with play := some (engine.newPlay selection) } :=
    ⟨regular.answers, regular.noted, regular.selected⟩
  obtain ⟨faults, announced⟩ := announce_of_answers playing.answers
    (engine.newPlay selection).sync .start rfl
  rw [startPlay_eq]
  dsimp only
  rw [announced]
  split
  · exact playing.perform rfl loaded selection
  · exact (playing.grown (within_announcement _ _ _ edition) faults).startClocked rfl loaded
      selection

end Regular

namespace Steady

variable {edition : Nat} {engine : Engine} (steady : engine.Steady edition)
include steady

theorem grown {events : List Event} (within : ∀ event ∈ events, event.Within edition)
    (faults : FaultQueue) : (engine.grown events faults).Steady edition where
  toRegular := steady.toRegular.grown within faults
  loaded := steady.loaded
  phase := steady.phase

/-- A play that goes on is left alone. -/
theorem conclude_eq : engine.conclude = engine := by
  unfold Engine.conclude
  split
  next play playing =>
    have phase := steady.phase play playing
    generalize play.phase = standing at phase ⊢
    cases phase <;> rfl
  next => rfl

theorem follow {play : Play} (playing : engine.play = some play) {result : Outcome × List Sound}
    (unblocked : engine.port.held = false → result.1.Unblocked) :
    (engine.follow play result).conclude.Steady edition :=
  steady.toRegular.follow playing (steady.loaded play playing) unblocked

theorem unblocked {play : Play} (playing : engine.play = some play) {performance : Performance}
    (performing : play.phase = .performing performance) (free : engine.port.held = false) :
    performance.player.Unblocked := by
  have phase := steady.phase play playing
  rw [performing] at phase
  cases phase with
  | performing unblocked => exact unblocked free

/-- A play that has not ended performs, or waits for its port. -/
theorem performs_or_waits {play : Play} (playing : engine.play = some play) :
    (∃ performance, play.phase = .performing performance) ∨
      play.phase = .silencing ∧ engine.port.held = true := by
  have phase := steady.phase play playing
  generalize play.phase = standing at phase ⊢
  cases phase with
  | performing _ => exact .inl ⟨_, rfl⟩
  | silencing held => exact .inr ⟨rfl, held⟩

/-! ### Moves -/

theorem stop : engine.stop.Steady edition := by
  unfold Engine.stop
  split
  next play playing =>
    split
    next performance performing =>
      exact steady.follow playing fun free other goesOn => absurd goesOn
        (Performance.cancel_ne_ongoing (steady.unblocked playing performing free) other)
    next => exact steady
  next => exact steady

theorem outsidePulse : engine.outsidePulse.Steady edition := by
  unfold Engine.outsidePulse deliverPulse
  split
  next play playing =>
    split
    next performance performing =>
      exact steady.follow playing fun free =>
        Performance.unblocked_pulse (steady.unblocked playing performing free) free
    next => exact steady.conclude_eq.symm ▸ steady
  next => exact steady.conclude_eq.symm ▸ steady

/-- What a leader announces with a tick comes behind the pulse, and before a play is concluded. -/
theorem tick : engine.tick.Steady edition := by
  rw [tick_eq]
  split
  next play playing =>
    split
    next =>
      unfold deliverPulse
      rw [playing]
      dsimp only
      split
      next performance performing =>
        have loaded := steady.loaded play playing
        obtain ⟨kept, followed⟩ := follow_eq_during playing (performance.pulse engine.port)
        have still : (engine.follow play (performance.pulse engine.port)).port.Answers :=
          followed ▸ steady.answers
        obtain ⟨faults, announced⟩ :=
          announce_of_answers still play.sync .timingClock rfl
        rw [announced, followed, grown_during, grown_grown]
        refine steady.toRegular.conclude loaded (List.forall_mem_append.mpr
          ⟨List.forall_mem_map.mpr fun sound _ => Event.within_ofSound loaded sound,
            within_announcement _ _ _ edition⟩) faults fun free => ?_
        exact Performance.unblocked_pulse (steady.unblocked playing performing free) free
      next =>
        obtain ⟨faults, announced⟩ :=
          announce_of_answers steady.answers play.sync .timingClock rfl
        have timed :=
          steady.grown (within_announcement engine play.sync .timingClock edition) faults
        rw [announced, timed.conclude_eq]
        exact timed
    next => exact steady
  next => exact steady

theorem launch {selection : Selection} (loaded : selection.edition ≤ edition) :
    (engine.launch selection).Steady edition := by
  unfold Engine.launch
  split
  next => exact steady.toRegular.startPlay loaded
  next reason _ => exact steady.grown (within_faults [.crash reason] edition) _

theorem start : engine.start.Steady edition := by
  unfold Engine.start
  split
  next selection _ selected =>
    exact steady.launch (steady.selected selection selected)
  next => exact steady

theorem move (move : Move) : (engine.move move).Steady edition := by
  cases move with
  | idle => exact steady
  | start => exact steady.start
  | stop => exact steady.stop
  | tick => exact steady.tick
  | pulse => exact steady.outsidePulse

/-- Whatever is done to a steady engine leaves it steady, as long as nothing is selected that has
not been loaded. -/
theorem act {action : Action}
    (loaded : ∀ selection, action = .select selection → selection.edition ≤ edition) :
    (engine.act action).Steady edition := by
  obtain ⟨between, prepares, acted⟩ := engine.act_eq_move action
  obtain ⟨causes, noted⟩ := prepares.events
  rw [acted]
  refine Steady.move ⟨⟨?_, ?_, ?_⟩, ?_, ?_⟩ (engine.moveOf action)
  · exact prepares.port ▸ steady.answers
  · rw [noted]
    exact List.forall_mem_append.mpr ⟨steady.noted, within_faults causes edition⟩
  · intro selection selected
    rcases prepares.selection selection selected with before | chosen
    · exact steady.selected selection before
    · exact loaded selection chosen
  · exact prepares.play ▸ steady.loaded
  · exact prepares.play ▸ prepares.port ▸ steady.phase

theorem setPort {port : Port} (answers : port.Answers) : (engine.setPort port).Steady edition := by
  have changed : Engine.Regular edition { engine with port } :=
    ⟨answers, steady.noted, steady.selected⟩
  rw [setPort_eq]
  split
  next held =>
    refine ⟨changed, steady.loaded, fun play playing => ?_⟩
    have phase := steady.phase play playing
    generalize play.phase = standing at phase ⊢
    cases phase with
    | performing _ => exact .performing fun free => absurd (free.symm.trans held) nofun
    | silencing _ => exact .silencing held
  next released =>
    unfold resume
    split
    next play playing =>
      split
      next performance performing =>
        exact changed.follow playing (steady.loaded play playing) fun _ =>
          performance.unblocked_release port
      next => exact changed.silenceAndClose play
      next performing silencing =>
        obtain ⟨performance, performs⟩ | ⟨waits, _⟩ := steady.performs_or_waits playing
        · exact absurd performs (performing performance)
        · exact absurd waits silencing
    next stopped =>
      exact ⟨changed, steady.loaded, fun play playing => nomatch stopped.symm.trans playing⟩

theorem configure (settings : PlaySettings) : (engine.configure settings).Steady edition := by
  unfold Engine.configure
  split
  · exact { steady with }
  · exact { steady.grown (within_faults [.clock (.invalidTempo settings.bpm)] edition)
      engine.faults with }

/-- Time goes on. -/
theorem mono {later : Nat} (behind : edition ≤ later) : engine.Steady later where
  answers := steady.answers
  noted event member := by
    have within := steady.noted event member
    cases event with
    | step source slot index => exact Nat.le_trans within behind
    | voice | sync | fault | stopped | noticed => trivial
  selected selection selected := Nat.le_trans (steady.selected selection selected) behind
  loaded play playing := Nat.le_trans (steady.loaded play playing) behind
  phase := steady.phase

end Steady

end Engine

namespace Studio

/-! ### Histories -/

/-- Whether something can be done to a studio whose ports answer: a port that takes the place of
another one answers as well, and a playable that is selected has been loaded. -/
def Allows (studio : Studio) : Deed → Prop
  | .act (.select selection) => selection.edition ≤ studio.edition
  | .setPort port => port.Answers
  | .act _ | .reload _ | .subscribe .. | .unsubscribe .. | .receive _ | .setClock _
  | .setSpawnFaults _ | .drainFaults => True

/-- Whether a studio has come from rest through some history in which ports answer. -/
inductive Attained : Studio → Prop
  | rest (wiring : Wiring) (sequence : Sequence) :
      Attained ⟨Engine.ofWiring wiring, sequence, 0, sequence.clearCursors⟩
  | after {studio : Studio} {deed : Deed} (attained : Attained studio)
      (allowed : studio.Allows deed) : Attained (studio.after deed)
  | looked {studio : Studio} (attained : Attained studio) : Attained studio.look.2

/-- Whether the engine of a studio is steady. -/
def Steady (studio : Studio) : Prop := studio.engine.Steady studio.edition

theorem Steady.reload {studio : Studio} (steady : studio.Steady) (document : String) :
    (studio.reload document).2.Steady := by
  unfold Studio.reload Engine.reload
  cases Sequence.load document with
  | ok sequence => exact (steady.stop.configure _).mono (Nat.le_succ studio.edition)
  | error failure => exact steady.stop

theorem Steady.after {studio : Studio} (steady : studio.Steady) {deed : Deed}
    (allowed : studio.Allows deed) : (studio.after deed).Steady := by
  have rewired {after : Studio} (edition : after.edition = studio.edition)
      (rewires : ∃ board : Switchboard, after.engine = studio.engine.rewired board) :
      after.Steady := by
    obtain ⟨board, same⟩ := rewires
    unfold Steady
    rw [edition, same]
    exact ⟨⟨steady.answers, steady.noted, steady.selected⟩, steady.loaded, steady.phase⟩
  cases deed with
  | act action =>
    refine Engine.Steady.act steady ?_
    rintro selection rfl
    exact allowed
  | reload document => exact steady.reload document
  | subscribe name subscriber capacity => exact rewired rfl (studio.exists_rewired rfl)
  | unsubscribe name subscriber => exact rewired rfl (studio.exists_rewired rfl)
  | receive subscriber =>
    refine rewired ?_ (studio.exists_rewired rfl)
    show (studio.receive subscriber).2.edition = studio.edition
    unfold Studio.receive
    dsimp only
    split <;> rfl
  | setPort port => exact Engine.Steady.setPort steady allowed
  | setClock _ | setSpawnFaults _ | drainFaults => exact { steady with }

/-- At any point of any history in which ports answer, an engine is steady. -/
theorem Attained.steady {studio : Studio} (attained : studio.Attained) : studio.Steady := by
  induction attained with
  | rest wiring sequence => exact ⟨⟨Port.free_clears.answers, nofun, nofun⟩, nofun, nofun⟩
  | after _ allowed inductionHypothesis => exact inductionHypothesis.after allowed
  | looked _ inductionHypothesis =>
    exact ⟨⟨inductionHypothesis.answers, nofun, inductionHypothesis.selected⟩,
      inductionHypothesis.loaded, inductionHypothesis.phase⟩

end Studio

end StepSequencer
