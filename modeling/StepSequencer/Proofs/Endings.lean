/-
This file proves that every play ends in silence, however it ends. The log of an engine is made of
finished plays and one that may not be finished. Each finished play ends with the messages that end
every note, then the stop of a leader, then the engine is stopped, and then the stopped bus
publishes, once. While an engine is stopped, nothing but faults is noted until a play begins. So
when an engine is stopped, every note it has ever begun has been followed by a release of its
channel.
-/

import StepSequencer.Playback.Transcript
import StepSequencer.Proofs.Chronicles

namespace StepSequencer

/-! ### Logs, play by play -/

/-- What players, leaders and clocks may note before a play ends. -/
def Event.InPlay (allowed : Message → Prop) : Event → Prop
  | .voice sent => ∀ message ∈ sent, allowed message
  | .sync message => message = .start ∨ message = .timingClock
  | .step _ _ _ | .fault _ => True
  | .stopped | .noticed => False

/-- Whether nothing but a failure is noted. -/
def Event.IsFault : Event → Prop
  | .fault _ => True
  | _ => False

/-- Whether the end of a play has been published. -/
def Event.isNotice : Event → Bool
  | .noticed => true
  | _ => false

/-- A finished play in a log: its sync mode, and what was noted before its cleanup. -/
structure FinishedPlay where
  sync : SyncMode
  noted : List Event

/-- What a finished play has noted in all. -/
def FinishedPlay.events (wiring : Wiring) (play : FinishedPlay) : List Event :=
  play.noted ++ closingEvents wiring play.sync

/-- Whether a log is the log of some finished plays, followed by a part of one more play, or by
faults only. -/
structure SplitsAs (wiring : Wiring) (allowed : Message → Prop) (ledger : Ledger)
    (events : List Event) (finished : List FinishedPlay) (unfinished : List Event) : Prop where
  log : events = finished.flatMap (FinishedPlay.events wiring) ++ unfinished
  modes : finished.map FinishedPlay.sync = ledger.finished.map PlayRecord.sync
  ended : ∀ play ∈ finished, ∀ event ∈ play.noted, event.InPlay allowed
  running : ∀ event ∈ unfinished, event.InPlay allowed
  idle : ledger.running = none → ∀ event ∈ unfinished, event.IsFault

variable {wiring : Wiring} {allowed : Message → Prop} {ledger : Ledger} {events : List Event}

theorem Event.Performs.inPlay {event : Event} (performs : event.Performs allowed) :
    event.InPlay allowed := by
  cases event with
  | voice sent => exact performs
  | sync message | stopped | noticed => exact performs.elim
  | step _ _ _ | fault _ => trivial

theorem inPlay_transportEvents {sync : SyncMode} {message : Message}
    (running : message = .start ∨ message = .timingClock) :
    ∀ event ∈ transportEvents wiring sync message, event.InPlay allowed := by
  intro event member
  rw [transportEvents] at member
  split at member
  · rw [List.mem_singleton.mp member]
    exact running
  · cases member

namespace SplitsAs

variable {finished : List FinishedPlay} {unfinished : List Event}

theorem append (splits : SplitsAs wiring allowed ledger events finished unfinished)
    {running : Option PlayRecord} {more : List Event}
    (inPlay : ∀ event ∈ more, event.InPlay allowed)
    (idle : running = none → ledger.running = none ∧ ∀ event ∈ more, event.IsFault) :
    SplitsAs wiring allowed { ledger with running } (events ++ more) finished
      (unfinished ++ more) where
  log := by rw [splits.log, List.append_assoc]
  modes := splits.modes
  ended := splits.ended
  running := List.forall_mem_append.mpr ⟨splits.running, inPlay⟩
  idle stopped := List.forall_mem_append.mpr
    ⟨splits.idle (idle stopped).1, (idle stopped).2⟩

theorem ends {record : PlayRecord}
    (splits : SplitsAs wiring allowed ledger events finished unfinished) :
    SplitsAs wiring allowed ⟨ledger.finished ++ [record], none⟩
      (events ++ closingEvents wiring record.sync)
      (finished ++ [⟨record.sync, unfinished⟩]) [] where
  log := by simp [splits.log, FinishedPlay.events]
  modes := by simp [splits.modes]
  ended := List.forall_mem_append.mpr
    ⟨splits.ended, List.forall_mem_singleton.mpr splits.running⟩
  running := nofun
  idle := nofun

end SplitsAs

theorem Chronicle.exists_splitsAs (chronicle : Chronicle wiring allowed ledger events) :
    ∃ finished unfinished, SplitsAs wiring allowed ledger events finished unfinished := by
  induction chronicle with
  | blank => exact ⟨[], [], rfl, rfl, nofun, nofun, nofun⟩
  | fault cause before inductionHypothesis =>
    obtain ⟨finished, unfinished, splits⟩ := inductionHypothesis
    exact ⟨finished, _, splits.append (List.forall_mem_singleton.mpr trivial) fun stopped =>
      ⟨stopped, List.forall_mem_singleton.mpr trivial⟩⟩
  | begins sync before inductionHypothesis =>
    obtain ⟨finished, unfinished, splits⟩ := inductionHypothesis
    exact ⟨finished, _, splits.append (inPlay_transportEvents (.inl rfl)) nofun⟩
  | performs event performs before inductionHypothesis =>
    obtain ⟨finished, unfinished, splits⟩ := inductionHypothesis
    exact ⟨finished, _, splits.append (List.forall_mem_singleton.mpr performs.inPlay) nofun⟩
  | ticks before inductionHypothesis =>
    obtain ⟨finished, unfinished, splits⟩ := inductionHypothesis
    exact ⟨finished, _, splits.append (inPlay_transportEvents (.inr rfl)) nofun⟩
  | ends before inductionHypothesis =>
    obtain ⟨finished, unfinished, splits⟩ := inductionHypothesis
    exact ⟨_, [], splits.ends⟩

/-! ### What has gone to the voice port -/

/-- The notes of a finished play. -/
def FinishedPlay.notes (play : FinishedPlay) : List Message :=
  play.noted.flatMap Event.voiceMessages

theorem voiceMessages_closingEvents (sync : SyncMode) :
    (closingEvents wiring sync).flatMap Event.voiceMessages = silence := by
  have transport : (transportEvents wiring sync .stop).flatMap Event.voiceMessages = [] := by
    rw [transportEvents]
    split <;> rfl
  rw [closingEvents, List.cons_append, List.flatMap_cons, List.flatMap_append, transport]
  exact List.append_nil _

theorem isNotice_closingEvents (sync : SyncMode) :
    (closingEvents wiring sync).countP Event.isNotice = 1 := by
  rw [closingEvents, transportEvents]
  split <;> rfl

theorem allowed_of_inPlay {events : List Event} (inPlay : ∀ event ∈ events, event.InPlay allowed) :
    ∀ message ∈ events.flatMap Event.voiceMessages, allowed message := by
  intro message member
  obtain ⟨event, noted, sent⟩ := List.mem_flatMap.mp member
  cases event with
  | voice messages => exact inPlay _ noted message sent
  | sync _ | step _ _ _ | fault _ | stopped | noticed => cases sent

theorem isNotice_of_inPlay {events : List Event} (inPlay : ∀ event ∈ events, event.InPlay allowed) :
    events.countP Event.isNotice = 0 := by
  refine List.countP_eq_zero.mpr fun event member notice => ?_
  cases event with
  | noticed => exact inPlay _ member
  | voice _ | sync _ | step _ _ _ | fault _ | stopped => cases notice

theorem voiceMessages_of_isFault {events : List Event} (faults : ∀ event ∈ events, event.IsFault) :
    events.flatMap Event.voiceMessages = [] := by
  refine List.flatMap_eq_nil_iff.mpr fun event member => ?_
  cases event with
  | fault cause => rfl
  | voice _ | sync _ | step _ _ _ | stopped | noticed => exact (faults _ member).elim

namespace SplitsAs

variable {finished : List FinishedPlay} {unfinished : List Event}
  (splits : SplitsAs wiring allowed ledger events finished unfinished)
include splits

theorem voiceMessages : events.flatMap Event.voiceMessages =
    finished.flatMap (fun play => play.notes ++ silence) ++
      unfinished.flatMap Event.voiceMessages := by
  rw [splits.log, List.flatMap_append, List.flatMap_assoc]
  simp only [FinishedPlay.events, FinishedPlay.notes, List.flatMap_append,
    voiceMessages_closingEvents]

theorem length_eq : finished.length = ledger.finished.length := by
  have same := congrArg List.length splits.modes
  rwa [List.length_map, List.length_map] at same

theorem notices : events.countP Event.isNotice = ledger.finished.length := by
  have one : ∀ play ∈ finished,
      (List.countP Event.isNotice ∘ FinishedPlay.events wiring) play = 1 := fun play member => by
    rw [Function.comp, FinishedPlay.events, List.countP_append,
      isNotice_of_inPlay (splits.ended play member), isNotice_closingEvents]
  rw [splits.log, List.countP_append, isNotice_of_inPlay splits.running, List.countP_flatMap,
    Nat.add_zero, List.map_congr_left one, List.map_const', List.sum_replicate_nat, Nat.mul_one,
    splits.length_eq]

end SplitsAs

/-! ### Releases -/

/-- Whether every note that begins in a list of messages is followed by the message that ends all
notes of its channel. -/
def Released (messages : List Message) : Prop :=
  ∀ before channel note velocity after,
    messages = before ++ .noteOn channel note velocity :: after →
      .control channel allNotesOff 0 ∈ after

theorem Released.append {first second : List Message} (releasedFirst : Released first)
    (releasedSecond : Released second) : Released (first ++ second) := by
  intro before channel note velocity after split
  rcases List.append_eq_append_iff.mp split with ⟨middle, rfl, found⟩ | ⟨middle, found, behind⟩
  · exact releasedSecond middle channel note velocity after found
  · rcases List.cons_eq_append_iff.mp behind with ⟨-, found⟩ | ⟨later, rfl, rfl⟩
    · exact releasedSecond [] channel note velocity after found
    · exact List.mem_append_left _ (releasedFirst before channel note velocity later found)

theorem noteOn_not_mem_silence (channel note velocity : UInt8) :
    .noteOn channel note velocity ∉ silence := by
  intro member
  obtain ⟨_, _, control⟩ := List.mem_map.mp member
  cases control

theorem control_mem_silence {channel : UInt8} (bound : channel < 16) :
    .control channel allNotesOff 0 ∈ silence :=
  List.mem_map.mpr ⟨channel.toNat, List.mem_range.mpr (UInt8.lt_iff_toNat_lt.mp bound),
    by rw [UInt8.ofNat_toNat]⟩

theorem released_silenced {notes : List Message} (all : ∀ message ∈ notes, message.IsNote) :
    Released (notes ++ silence) := by
  intro before channel note velocity after split
  rcases List.append_eq_append_iff.mp split with ⟨middle, rfl, found⟩ | ⟨middle, rfl, behind⟩
  · exact absurd (found ▸ List.mem_append_right _ List.mem_cons_self)
      (noteOn_not_mem_silence channel note velocity)
  · rcases List.cons_eq_append_iff.mp behind with ⟨-, found⟩ | ⟨later, rfl, rfl⟩
    · exact absurd (found ▸ List.mem_cons_self) (noteOn_not_mem_silence channel note velocity)
    · have bound : channel < 16 :=
        all (.noteOn channel note velocity) (List.mem_append_right _ List.mem_cons_self)
      exact List.mem_append_right _ (control_mem_silence bound)

theorem released_flatMap_silenced {plays : List FinishedPlay}
    (all : ∀ play ∈ plays, ∀ message ∈ play.notes, message.IsNote) :
    Released (plays.flatMap fun play => play.notes ++ silence) := by
  induction plays with
  | nil => exact fun before _ _ _ _ split => absurd split.symm (by simp)
  | cons play rest inductionHypothesis =>
    rw [List.flatMap_cons]
    exact (released_silenced (all play List.mem_cons_self)).append
      (inductionHypothesis fun other member => all other (List.mem_cons_of_mem _ member))

/-! ### Runs -/

/-- What can be noticed of an engine, from the beginning to the end of a run. -/
structure EndsInSilence (engine : Engine) (actions : List Action) : Prop where
  /-- The log is one of finished plays and, while an engine plays, of one that is not finished. -/
  log : ∃ finished unfinished, SplitsAs engine.wiring Message.IsNote (engine.ledger .blank actions)
    (engine.run actions).events finished unfinished
  running : (engine.ledger .blank actions).running.isSome = true ↔
    (engine.run actions).state = .playing
  /-- The voice port has got notes, and after the notes of each finished play one silence. -/
  voice : ∃ (finished : List (List Message)) (unfinished : List Message),
    (engine.run actions).events.flatMap Event.voiceMessages =
      finished.flatMap (fun notes => notes ++ silence) ++ unfinished ∧
    finished.length = (engine.ledger .blank actions).finished.length ∧
    (∀ notes ∈ finished, ∀ message ∈ notes, message.IsNote) ∧
    (∀ message ∈ unfinished, message.IsNote) ∧
    ((engine.run actions).state = .stopped → unfinished = [])
  /-- A stopped engine that starts no play notes nothing but faults, and stays stopped. -/
  quiet : (engine.run actions).state = .stopped → ∀ action,
    ((engine.run actions).moveOf action = .start → (engine.run actions).startable? = none) →
    (engine.run (actions ++ [action])).state = .stopped ∧
      ∃ causes : List PlaybackFault,
        (engine.run (actions ++ [action])).events =
          (engine.run actions).events ++ causes.map .fault
  notices : (engine.run actions).events.countP Event.isNotice =
    (engine.ledger .blank actions).finished.length
  /-- Whoever attends to the stopped bus has been offered one signal for each finished play. -/
  published : ∀ number, engine.Watched number →
    (engine.run actions).exchange.channel number =
      Channel.offer^[(engine.ledger .blank actions).finished.length]
        (engine.exchange.channel number)
  /-- When the engine is stopped, every note has been followed by a release of its channel. -/
  released : (engine.run actions).state = .stopped →
    Released ((engine.run actions).events.flatMap Event.voiceMessages)

/-- Whatever is done to an engine at rest, and however its plays end, they end in silence. -/
theorem Engine.every_play_ends_in_silence {engine : Engine} {actions : List Action}
    (clears : engine.port.Clears) (stopped : engine.play = none) (fresh : engine.events = [])
    (selected : ∀ selection, engine.selection = some selection →
      selection.playable.arranged.Loaded)
    (selects : ∀ selection, .select selection ∈ actions → selection.playable.arranged.Loaded) :
    EndsInSilence engine actions := by
  have begun : Recorded Message.IsNote engine .blank engine :=
    .blank clears stopped fresh fun selection chosen => (selected selection chosen).sends_notes
  have recorded : Recorded _ _ _ (engine.run actions) :=
    begun.run fun selection member => (selects selection member).sends_notes
  have running := recorded.isSome_running_iff
  have chronicle := recorded.chronicle
  rw [recorded.wiring] at chronicle
  obtain ⟨finished, unfinished, splits⟩ := chronicle.exists_splitsAs
  have idle (still : (engine.run actions).state = .stopped) :
      unfinished.flatMap Event.voiceMessages = [] :=
    voiceMessages_of_isFault <| splits.idle <| Option.not_isSome_iff_eq_none.mp fun runs =>
      absurd (still.symm.trans (running.mp runs)) (by decide)
  constructor
  case log => exact ⟨finished, unfinished, splits⟩
  case running => exact running
  case voice =>
    refine ⟨finished.map FinishedPlay.notes, unfinished.flatMap Event.voiceMessages, ?_, ?_,
      List.forall_mem_map.mpr fun play member => allowed_of_inPlay (splits.ended play member),
      allowed_of_inPlay splits.running, idle⟩
    · rw [splits.voiceMessages, List.flatMap_map]
    · rw [List.length_map, splits.length_eq]
  case quiet =>
    intro still action unstartable
    have none : (engine.run actions).play = none := by
      rw [state] at still
      split at still
      next => cases still
      next absent => exact Option.not_isSome_iff_eq_none.mp absent
    obtain ⟨stopped, noted⟩ := act_of_stopped none unstartable
    have next : engine.run (actions ++ [action]) = (engine.run actions).act action :=
      List.foldl_append
    rw [next, state, stopped]
    exact ⟨rfl, noted⟩
  case notices => exact splits.notices
  case published => exact fun number watched => (recorded.offered number watched).channel
  case released =>
    intro still
    rw [splits.voiceMessages, idle still, List.append_nil]
    exact released_flatMap_silenced fun play member => allowed_of_inPlay (splits.ended play member)

/-- A playable is started twice and stopped twice, once by hand and once over the transport. -/
theorem Engine.every_play_ends_in_silence_chainSample :
    ∃ (playable : Playable) (actions : List Action),
      actions = [.select ⟨0, playable⟩, .listen, .tick, .start, .tick, .stop, .tick,
        .handleSync [0xFA], .tick, .start, .handleSync [0xFC]] ∧ playable.arranged.Loaded ∧
      ((ofWiring ⟨false, false⟩).run actions).state = .stopped ∧
      ((ofWiring ⟨false, false⟩).run actions).events.flatMap Event.voiceMessages =
        .noteOn 0 60 100 :: silence ++ .noteOn 0 60 100 :: silence ∧
      EndsInSilence (.ofWiring ⟨false, false⟩) actions := by
  let actions (playable : Playable) : List Action := [.select ⟨0, playable⟩, .listen, .tick, .start,
    .tick, .stop, .tick, .handleSync [0xFA], .tick, .start, .handleSync [0xFC]]
  obtain ⟨playable, found, loaded⟩ := Sequence.exists_loaded Sequence.chainSample
    (show ((Sequence.load Sequence.chainSample).toOption.any fun sequence =>
      sequence.playables.any fun playable =>
        decide (((ofWiring ⟨false, false⟩).run (actions playable)).state = .stopped ∧
          ((ofWiring ⟨false, false⟩).run (actions playable)).events.flatMap Event.voiceMessages =
            .noteOn 0 60 100 :: silence ++ .noteOn 0 60 100 :: silence)) = true
      by decide +kernel)
  obtain ⟨stopped, sent⟩ := of_decide_eq_true found
  refine ⟨playable, actions playable, rfl, loaded, stopped, sent,
    every_play_ends_in_silence Port.free_clears rfl rfl nofun fun selection member => ?_⟩
  rcases List.mem_cons.mp member with chosen | other
  · obtain rfl := Action.select.inj chosen
    exact loaded
  · exact absurd other (by simp)

end StepSequencer
