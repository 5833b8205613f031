/-
This file compares engines. Two engines are alike to an observer who cannot tell them apart. Every
observer attends to the voice port, to the steps that are reached and to the ends of plays; faults
are nobody's concern here. Whether transport counts, and whether it counts from which document a
playable comes, depends on the observer. Whatever an engine does to go on with a play, engines that
are alike stay alike when all of them do it: nothing that the observer cannot see has any influence
on what he can see.
-/

import StepSequencer.Playback.Action

namespace StepSequencer

/-- What one sender has sent to the voice port. -/
def Event.voice? : Event → Option (List Message)
  | .voice sent => some sent
  | _ => none

/-- A message that has gone to the sync output. -/
def Event.sync? : Event → Option Message
  | .sync message => some message
  | _ => none

/-- What an observer of engines attends to besides what every observer attends to. -/
structure Attention where
  /-- Whether transport counts: the sync mode and the clock of a play, and the sync output. -/
  transport : Bool
  /-- Whether it counts from which document a playable comes. -/
  editions : Bool

namespace Attention

/-- What is seen of an event. -/
def seen? (attention : Attention) : Event → Option Event
  | .voice sent => some (.voice sent)
  | .sync message => if attention.transport then some (.sync message) else none
  | .step edition slot index =>
    some (.step (if attention.editions then edition else 0) slot index)
  | .fault _ => none
  | .stopped => some .stopped
  | .noticed => some .noticed

/-- What is seen of some events. -/
def seen (attention : Attention) (events : List Event) : List Event :=
  events.filterMap attention.seen?

@[simp]
theorem seen_append (attention : Attention) (events others : List Event) :
    attention.seen (events ++ others) = attention.seen events ++ attention.seen others :=
  List.filterMap_append

@[simp]
theorem seen_fault (attention : Attention) (cause : PlaybackFault) :
    attention.seen [.fault cause] = [] := rfl

/-- Whoever sees the same events hears the same voices. -/
theorem filterMap_voice?_seen (attention : Attention) (events : List Event) :
    (attention.seen events).filterMap Event.voice? = events.filterMap Event.voice? := by
  rw [seen, List.filterMap_filterMap]
  congr
  funext event
  cases event with
  | sync message =>
    rw [seen?]
    split <;> rfl
  | voice _ | step _ _ _ | fault _ | stopped | noticed => rfl

theorem filterMap_sync?_seen {attention : Attention} (counts : attention.transport = true)
    (events : List Event) :
    (attention.seen events).filterMap Event.sync? = events.filterMap Event.sync? := by
  rw [seen, List.filterMap_filterMap]
  congr
  funext event
  cases event with
  | sync message => simp [seen?, counts]
  | voice _ | step _ _ _ | fault _ | stopped | noticed => rfl

theorem seen_sync_of_ignored {attention : Attention} (ignored : attention.transport = false)
    (message : Message) : attention.seen [.sync message] = [] := by
  simp [seen, seen?, ignored]

end Attention

variable {attention : Attention}

/-- Whether two plays look the same. -/
structure Play.Alike (attention : Attention) (first second : Play) : Prop where
  phase : first.phase = second.phase
  edition : attention.editions = true → first.edition = second.edition
  sync : attention.transport = true → first.sync = second.sync
  clocked : attention.transport = true → first.clocked = second.clocked

namespace Play.Alike

variable {first second third : Play}

theorem refl (play : Play) : Play.Alike attention play play :=
  ⟨rfl, fun _ => rfl, fun _ => rfl, fun _ => rfl⟩

theorem symm (alike : Play.Alike attention first second) : Play.Alike attention second first where
  phase := alike.phase.symm
  edition counts := (alike.edition counts).symm
  sync counts := (alike.sync counts).symm
  clocked counts := (alike.clocked counts).symm

theorem trans (alike : Play.Alike attention first second)
    (alsoAlike : Play.Alike attention second third) : Play.Alike attention first third where
  phase := alike.phase.trans alsoAlike.phase
  edition counts := (alike.edition counts).trans (alsoAlike.edition counts)
  sync counts := (alike.sync counts).trans (alsoAlike.sync counts)
  clocked counts := (alike.clocked counts).trans (alsoAlike.clocked counts)

end Play.Alike

/-- Whether two selections look the same. -/
structure Selection.Alike (attention : Attention) (first second : Selection) : Prop where
  playable : first.playable = second.playable
  edition : attention.editions = true → first.edition = second.edition

namespace Engine

/-- Whether two engines look the same. An observer to whom transport does not count must not learn
of it in another way: nobody breaks on a transport message. -/
structure Alike (attention : Attention) (first second : Engine) : Prop where
  play : Option.Rel (Play.Alike attention) first.play second.play
  port : first.port = second.port
  wiring : attention.transport = true → first.wiring = second.wiring
  clock : attention.transport = true → first.clock = second.clock
  spawnFaults : first.spawnFaults = second.spawnFaults
  unbroken : attention.transport = false →
    ∀ message, message.isTransport = true → first.port.reply message ≠ .broken
  events : attention.seen first.events = attention.seen second.events

theorem play_eq_none_of_stopped {engine : Engine} (stopped : engine.state = .stopped) :
    engine.play = none := by
  unfold state at stopped
  split at stopped
  next => cases stopped
  next absent => exact Option.not_isSome_iff_eq_none.mp absent

theorem stopped_of_play_eq_none {engine : Engine} (ended : engine.play = none) :
    engine.state = .stopped := by
  rw [state, ended]
  rfl

variable {first second third : Engine}

namespace Alike

/-- To an observer to whom transport counts, every engine looks like itself. -/
theorem refl (counts : attention.transport = true) (engine : Engine) :
    Alike attention engine engine where
  play := by
    cases engine.play with
    | none => exact .none
    | some play => exact .some (.refl play)
  port := rfl
  wiring _ := rfl
  clock _ := rfl
  spawnFaults := rfl
  unbroken ignored := absurd counts (by simp [ignored])
  events := rfl

/-- Either none of two engines has a play, or both have plays that look the same. -/
theorem plays (alike : Alike attention first second) :
    (first.play = none ∧ second.play = none) ∨ ∃ play other,
      first.play = some play ∧ second.play = some other ∧ play.Alike attention other := by
  have related := alike.play
  generalize first.play = one, second.play = two at related
  cases related with
  | none => exact .inl ⟨rfl, rfl⟩
  | some same => exact .inr ⟨_, _, rfl, rfl, same⟩

theorem state_eq (alike : Alike attention first second) : first.state = second.state := by
  unfold state
  rcases alike.plays with ⟨stopped, alsoStopped⟩ | ⟨play, other, playing, alsoPlaying, _⟩
  · rw [stopped, alsoStopped]
  · rw [playing, alsoPlaying]
    rfl

theorem symm (alike : Alike attention first second) : Alike attention second first where
  play := by
    rcases alike.plays with ⟨stopped, alsoStopped⟩ | ⟨play, other, playing, alsoPlaying, same⟩
    · rw [stopped, alsoStopped]
      exact .none
    · rw [playing, alsoPlaying]
      exact .some same.symm
  port := alike.port.symm
  wiring counts := (alike.wiring counts).symm
  clock counts := (alike.clock counts).symm
  spawnFaults := alike.spawnFaults.symm
  unbroken ignored := alike.port ▸ alike.unbroken ignored
  events := alike.events.symm

theorem trans (alike : Alike attention first second) (alsoAlike : Alike attention second third) :
    Alike attention first third where
  play := by
    rcases alike.plays with ⟨stopped, alsoStopped⟩ | ⟨play, other, playing, alsoPlaying, same⟩
    · have behind := alsoAlike.play
      rw [alsoStopped] at behind
      rwa [stopped]
    · have behind := alsoAlike.play
      rw [alsoPlaying] at behind
      generalize third.play = last at behind
      cases behind with
      | some alsoSame =>
        rw [playing]
        exact .some (same.trans alsoSame)
  port := alike.port.trans alsoAlike.port
  wiring counts := (alike.wiring counts).trans (alsoAlike.wiring counts)
  clock counts := (alike.clock counts).trans (alsoAlike.clock counts)
  spawnFaults := alike.spawnFaults.trans alsoAlike.spawnFaults
  unbroken := alike.unbroken
  events := alike.events.trans alsoAlike.events

/-! ### What is noted -/

variable (alike : Alike attention first second)
include alike

theorem note {events others : List Event} (same : attention.seen events = attention.seen others) :
    Alike attention (first.note events) (second.note others) :=
  { alike with events := by simp [Engine.note, alike.events, same] }

theorem note_left {events : List Event} (unseen : attention.seen events = []) :
    Alike attention (first.note events) second :=
  { alike with events := by simp [Engine.note, alike.events, unseen] }

theorem fail (cause other : PlaybackFault) :
    Alike attention (first.fail cause) (second.fail other) :=
  { alike with events := by simp [Engine.fail, Engine.note, alike.events] }

theorem fail_left (cause : PlaybackFault) : Alike attention (first.fail cause) second :=
  { alike with events := by simp [Engine.fail, Engine.note, alike.events] }

theorem hearAll {edition other : Nat} (same : attention.editions = true → edition = other)
    (sounds : List Sound) :
    Alike attention (first.hearAll edition sounds) (second.hearAll other sounds) := by
  induction sounds generalizing first second with
  | nil => exact alike
  | cons sound rest inductionHypothesis =>
    refine inductionHypothesis ?_
    cases sound with
    | step slot index =>
      refine alike.note ?_
      by_cases counts : attention.editions = true
      · rw [same counts]
      · simp [Attention.seen, Attention.seen?, counts]
    | messages sent => exact alike.note rfl
    | refusal message => exact alike.fail _ _

theorem setPhase (phase : Phase) :
    Alike attention (first.setPhase phase) (second.setPhase phase) := by
  refine { alike with play := ?_ }
  unfold Engine.setPhase
  rcases alike.plays with ⟨stopped, alsoStopped⟩ | ⟨play, other, playing, alsoPlaying, same⟩
  · simp [stopped, alsoStopped]
  · rw [playing, alsoPlaying]
    exact .some { same with phase := rfl }

/-! ### Transport -/

/-- Nothing is seen of a transport message by an observer to whom transport does not count. -/
theorem sendSync_left (ignored : attention.transport = false) {message : Message}
    (transport : message.isTransport = true) :
    Alike attention (first.sendSync message).1 second ∧ (first.sendSync message).2 = false := by
  unfold Engine.sendSync
  split
  · exact ⟨alike, rfl⟩
  · cases replied : first.port.reply message with
    | taken =>
      exact ⟨alike.note_left (Attention.seen_sync_of_ignored ignored message), rfl⟩
    | refused => exact ⟨alike.fail_left _, rfl⟩
    | broken => exact absurd replied (alike.unbroken ignored message transport)

theorem sendSync (counts : attention.transport = true) (message : Message) :
    Alike attention (first.sendSync message).1 (second.sendSync message).1 ∧
      (first.sendSync message).2 = (second.sendSync message).2 := by
  unfold Engine.sendSync
  rw [← alike.wiring counts, ← alike.port]
  split
  · exact ⟨alike, rfl⟩
  · cases first.port.reply message with
    | taken => exact ⟨alike.note rfl, rfl⟩
    | refused => exact ⟨alike.fail _ _, rfl⟩
    | broken => exact ⟨alike, rfl⟩

end Alike

/-- Sends a transport message if a sync mode asks for it, and says whether the sender broke. -/
def announce (engine : Engine) (sync : SyncMode) (message : Message) : Engine × Bool :=
  if sync = .leader then engine.sendSync message else (engine, false)

namespace Alike

variable (alike : Alike attention first second)
include alike

theorem announce_left (ignored : attention.transport = false) (sync : SyncMode)
    {message : Message} (transport : message.isTransport = true) :
    Alike attention (first.announce sync message).1 second ∧
      (first.announce sync message).2 = false := by
  unfold Engine.announce
  split
  · exact alike.sendSync_left ignored transport
  · exact ⟨alike, rfl⟩

theorem announce {sync other : SyncMode} (same : attention.transport = true → sync = other)
    {message : Message} (transport : message.isTransport = true) :
    Alike attention (first.announce sync message).1 (second.announce other message).1 ∧
      (first.announce sync message).2 = (second.announce other message).2 := by
  by_cases counts : attention.transport = true
  · obtain rfl := same counts
    unfold Engine.announce
    split
    · exact alike.sendSync counts message
    · exact ⟨alike, rfl⟩
  · have ignored := Bool.eq_false_iff.mpr counts
    obtain ⟨left, unbroken⟩ := alike.announce_left ignored sync transport
    obtain ⟨right, alsoUnbroken⟩ := left.symm.announce_left ignored other transport
    exact ⟨right.symm, unbroken.trans alsoUnbroken.symm⟩

end Alike

/-- To announce something is at most to note something. -/
theorem announce_eq (engine : Engine) (sync : SyncMode) (message : Message) :
    ∃ events faults, (engine.announce sync message).1 = { engine with events, faults } := by
  unfold announce sendSync
  split
  · split
    · exact ⟨engine.events, engine.faults, rfl⟩
    · cases engine.port.reply message with
      | taken => exact ⟨_, engine.faults, rfl⟩
      | refused => exact ⟨_, _, rfl⟩
      | broken => exact ⟨engine.events, engine.faults, rfl⟩
  · exact ⟨engine.events, engine.faults, rfl⟩

/-! ### The ends of plays -/

theorem silenceAndClose_eq (engine : Engine) (play : Play) :
    engine.silenceAndClose play =
      let delivery := engine.port.deliver silence
      let silenced := engine.hearAll play.edition delivery.sounds
      if delivery.broken.isSome then silenced.setPhase .lost
      else if (silenced.announce play.sync .stop).2 then
        (silenced.announce play.sync .stop).1.setPhase .lost
      else (silenced.announce play.sync .stop).1.close := by
  unfold silenceAndClose announce
  by_cases leads : play.sync = .leader <;> simp [leads]

namespace Alike

variable (alike : Alike attention first second) {play other : Play}
  (same : play.Alike attention other)

include alike in
theorem close : Alike attention first.close second.close :=
  { alike with
    play := .none
    events := by simp [Engine.close, Engine.note, alike.events] }

include alike same

theorem silenceAndClose :
    Alike attention (first.silenceAndClose play) (second.silenceAndClose other) := by
  rw [silenceAndClose_eq, silenceAndClose_eq, ← alike.port]
  have silenced := alike.hearAll same.edition (first.port.deliver silence).sounds
  obtain ⟨announced, broke⟩ := silenced.announce same.sync
    (show Message.stop.isTransport = true from rfl)
  dsimp only
  rw [← broke]
  split
  · exact silenced.setPhase .lost
  · split
    · exact announced.setPhase .lost
    · exact announced.close

theorem stopClock_left (ignored : attention.transport = false)
    (alsoPlaying : second.play = some other) :
    Alike attention (first.stopClock play) second := by
  have unclocked : Alike attention { first with play := some { play with clocked := false } }
      second := by
    refine { alike with play := ?_ }
    rw [alsoPlaying]
    exact .some { same with clocked := fun counts => absurd counts (by simp [ignored]) }
  unfold Engine.stopClock
  split
  · split
    · exact unclocked.fail_left _
    · exact unclocked
  · exact alike

theorem stopClock (playing : first.play = some play) :
    Alike attention (first.stopClock play) (second.stopClock other) := by
  by_cases counts : attention.transport = true
  · have unclocked : Alike attention { first with play := some { play with clocked := false } }
        { second with play := some { other with clocked := false } } :=
      { alike with play := .some { same with clocked := fun _ => rfl } }
    have fails : second.clock.failsToStop = first.clock.failsToStop := by
      rw [alike.clock counts]
    unfold Engine.stopClock
    rw [← same.clocked counts, fails]
    split
    · split
      · exact unclocked.fail _ _
      · exact unclocked
    · exact alike
  · have ignored := Bool.eq_false_iff.mpr counts
    have right := (alike.symm.stopClock_left same.symm ignored playing).symm
    rcases right.plays with ⟨stopped, _⟩ | ⟨present, another, here, there, alsoSame⟩
    · exact nomatch stopped.symm.trans playing
    · obtain rfl := Option.some.inj (playing.symm.trans here)
      exact right.stopClock_left alsoSame ignored there

theorem finish (playing : first.play = some play) :
    Alike attention (first.finish play) (second.finish other) := by
  have unclocked := alike.stopClock same playing
  unfold Engine.finish
  dsimp only
  rw [← unclocked.port]
  split
  · exact unclocked.setPhase .silencing
  · exact unclocked.silenceAndClose same

omit same

theorem conclude : Alike attention first.conclude second.conclude := by
  unfold Engine.conclude
  rcases alike.plays with ⟨stopped, alsoStopped⟩ | ⟨play, other, playing, alsoPlaying, same⟩
  · rw [stopped, alsoStopped]
    exact alike
  · rw [playing, alsoPlaying]
    dsimp only
    rw [← same.phase]
    split
    · exact (alike.fail _ _).finish same playing
    · exact alike.finish same playing
    · exact alike

theorem follow {play other : Play} (same : play.Alike attention other)
    (result : Outcome × List Sound) :
    Alike attention (first.follow play result) (second.follow other result) :=
  (alike.hearAll same.edition result.2).setPhase (phaseOf result.1)

/-! ### Moves -/

theorem deliverPulse : Alike attention first.deliverPulse second.deliverPulse := by
  unfold Engine.deliverPulse
  rcases alike.plays with ⟨stopped, alsoStopped⟩ | ⟨play, other, playing, alsoPlaying, same⟩
  · rw [stopped, alsoStopped]
    exact alike
  · rw [playing, alsoPlaying]
    dsimp only
    rw [← same.phase, ← alike.port]
    split
    · exact alike.follow same _
    · exact alike

theorem outsidePulse : Alike attention first.outsidePulse second.outsidePulse :=
  alike.deliverPulse.conclude

theorem stop : Alike attention first.stop second.stop := by
  unfold Engine.stop
  rcases alike.plays with ⟨stopped, alsoStopped⟩ | ⟨play, other, playing, alsoPlaying, same⟩
  · rw [stopped, alsoStopped]
    exact alike
  · rw [playing, alsoPlaying]
    dsimp only
    rw [← same.phase]
    split
    · exact (alike.follow same _).conclude
    · exact alike

end Alike

theorem tick_eq (engine : Engine) : engine.tick =
    match engine.play with
    | some play =>
      if play.clocked then (engine.deliverPulse.announce play.sync .timingClock).1.conclude
      else engine
    | none => engine := by
  unfold tick announce
  cases engine.play with
  | none => rfl
  | some play => by_cases leads : play.sync = .leader <;> simp [leads]

/-- The play of a selection before anybody performs. -/
def newPlay (engine : Engine) (selection : Selection) : Play :=
  ⟨selection.edition, engine.settings.sync, false, .ending none⟩

theorem startPlay_eq (engine : Engine) (selection : Selection) :
    engine.startPlay selection =
      let play := engine.newPlay selection
      let announced := { engine with play := some play }.announce play.sync .start
      if play.sync = .follower then { engine with play := some play }.perform play selection
      else if announced.2 then announced.1.setPhase .lost
      else announced.1.startClocked play selection := by
  unfold startPlay announce newPlay
  cases engine.settings.sync <;> simp

namespace Alike

variable (alike : Alike attention first second)
include alike

theorem tick (counts : attention.transport = true) : Alike attention first.tick second.tick := by
  rw [tick_eq, tick_eq]
  rcases alike.plays with ⟨stopped, alsoStopped⟩ | ⟨play, other, playing, alsoPlaying, same⟩
  · rw [stopped, alsoStopped]
    exact alike
  · rw [playing, alsoPlaying]
    dsimp only
    rw [← same.clocked counts]
    split
    · exact (alike.deliverPulse.announce same.sync rfl).1.conclude
    · exact alike

/-- To an observer to whom transport does not count, a tick of a clock that drives a play is a pulse
like any other. -/
theorem tick_outsidePulse (ignored : attention.transport = false) {play : Play}
    (playing : first.play = some play) (clocked : play.clocked = true) :
    Alike attention first.tick second.outsidePulse := by
  rw [tick_eq, playing]
  dsimp only
  rw [if_pos clocked]
  exact (alike.deliverPulse.announce_left ignored play.sync rfl).1.conclude

/-! ### Starts -/

theorem perform {play other : Play} (same : play.Alike attention other)
    (playing : first.play = some play) {selection choice : Selection}
    (chosen : selection.playable = choice.playable)
    (looping : first.settings.looping = second.settings.looping) :
    Alike attention (first.perform play selection) (second.perform other choice) := by
  unfold Engine.perform
  rw [chosen, looping, alike.spawnFaults]
  split
  · exact (alike.follow same _).conclude
  · exact (alike.fail _ _).finish same playing

/-- A clock that starts drives the play. -/
theorem startClocked {play other : Play} (same : play.Alike attention other)
    (playing : first.play = some play)
    {selection choice : Selection} (chosen : selection.playable = choice.playable)
    (looping : first.settings.looping = second.settings.looping)
    (starts : first.clock.failsToStart = second.clock.failsToStart) :
    Alike attention (first.startClocked play selection) (second.startClocked other choice) := by
  have clocked : Play.Alike attention { play with clocked := true }
      { other with clocked := true } := { same with clocked := fun _ => rfl }
  have driven : Alike attention { first with play := some { play with clocked := true } }
      { second with play := some { other with clocked := true } } :=
    { alike with play := .some clocked }
  unfold Engine.startClocked
  rw [starts]
  split
  · exact (alike.fail _ _).finish same playing
  · exact driven.perform clocked rfl chosen looping

/-- To an observer to whom transport does not count, a play starts like that of a follower whatever
its sync mode, unless its clock fails. -/
theorem startPlay_perform (ignored : attention.transport = false)
    (starts : first.clock.failsToStart = false) {other : Play} {selection choice : Selection}
    (same : (first.newPlay selection).Alike attention other)
    (chosen : selection.playable = choice.playable)
    (looping : first.settings.looping = second.settings.looping) :
    Alike attention (first.startPlay selection)
      ({ second with play := some other }.perform other choice) := by
  have playing : Alike attention { first with play := some (first.newPlay selection) }
      { second with play := some other } := { alike with play := .some same }
  rw [startPlay_eq]
  dsimp only
  split
  · exact playing.perform same rfl chosen looping
  · obtain ⟨announced, unbroken⟩ :=
      playing.announce_left ignored (first.newPlay selection).sync
        (show Message.start.isTransport = true from rfl)
    obtain ⟨events, faults, noted⟩ := Engine.announce_eq
      { first with play := some (first.newPlay selection) } (first.newPlay selection).sync .start
    rw [unbroken, if_neg Bool.false_ne_true, noted]
    rw [noted] at announced
    have clocked : Play.Alike attention { first.newPlay selection with clocked := true } other :=
      { same with clocked := fun counts => absurd counts (by simp [ignored]) }
    have driven : Alike attention { first with
          play := some { first.newPlay selection with clocked := true }, events, faults }
        { second with play := some other } := { announced with play := .some clocked }
    unfold Engine.startClocked
    rw [if_neg (by simp [starts])]
    exact driven.perform clocked rfl chosen looping

theorem startPlay {selection choice : Selection} (chosen : selection.Alike attention choice)
    (looping : first.settings.looping = second.settings.looping)
    (sync : attention.transport = true → first.settings.sync = second.settings.sync)
    (starts : attention.transport = false →
      first.clock.failsToStart = false ∧ second.clock.failsToStart = false) :
    Alike attention (first.startPlay selection) (second.startPlay choice) := by
  have same : (first.newPlay selection).Alike attention (second.newPlay choice) :=
    ⟨rfl, chosen.edition, sync, fun _ => rfl⟩
  by_cases counts : attention.transport = true
  · have playing : Alike attention { first with play := some (first.newPlay selection) }
        { second with play := some (second.newPlay choice) } :=
      { alike with play := .some same }
    have modes := same.sync counts
    obtain ⟨announced, broke⟩ := playing.announce same.sync
      (show Message.start.isTransport = true from rfl)
    obtain ⟨events, faults, noted⟩ := Engine.announce_eq
      { first with play := some (first.newPlay selection) } (first.newPlay selection).sync .start
    obtain ⟨others, kept, alsoNoted⟩ := Engine.announce_eq
      { second with play := some (second.newPlay choice) } (second.newPlay choice).sync .start
    rw [startPlay_eq, startPlay_eq]
    dsimp only
    rw [← broke, ← modes]
    rw [← modes] at announced alsoNoted
    split
    · exact playing.perform same rfl chosen.playable looping
    · split
      · exact announced.setPhase .lost
      · rw [noted, alsoNoted] at announced ⊢
        exact announced.startClocked same rfl chosen.playable looping (by rw [alike.clock counts])
  · have ignored := Bool.eq_false_iff.mpr counts
    obtain ⟨firstStarts, secondStarts⟩ := starts ignored
    have self : Alike attention second second := alike.symm.trans alike
    have left := alike.startPlay_perform ignored firstStarts same chosen.playable looping
    have right : Alike attention (second.startPlay choice)
        ({ second with play := some (second.newPlay choice) }.perform (second.newPlay choice)
          choice) := self.startPlay_perform ignored secondStarts (same.symm.trans same) rfl rfl
    exact left.trans right.symm

theorem launch {selection choice : Selection} (chosen : selection.Alike attention choice)
    (looping : first.settings.looping = second.settings.looping)
    (sync : attention.transport = true → first.settings.sync = second.settings.sync)
    (starts : attention.transport = false →
      first.clock.failsToStart = false ∧ second.clock.failsToStart = false) :
    Alike attention (first.launch selection) (second.launch choice) := by
  unfold Engine.launch
  rw [alike.spawnFaults]
  cases second.spawnFaults.play with
  | none => exact alike.startPlay chosen looping sync starts
  | some reason => exact alike.fail _ _

theorem start (selected : Option.Rel (Selection.Alike attention) first.selection second.selection)
    (looping : first.settings.looping = second.settings.looping)
    (sync : attention.transport = true → first.settings.sync = second.settings.sync)
    (starts : attention.transport = false →
      first.clock.failsToStart = false ∧ second.clock.failsToStart = false) :
    Alike attention first.start second.start := by
  unfold Engine.start
  rcases alike.plays with ⟨stopped, alsoStopped⟩ | ⟨play, other, playing, alsoPlaying, same⟩
  · rw [stopped, alsoStopped]
    generalize first.selection = one, second.selection = two at selected
    cases selected with
    | none => exact alike
    | some chosen => exact alike.launch chosen looping sync starts
  · rw [playing, alsoPlaying]
    exact alike

end Alike

/-! ### Changes from outside -/

theorem configure_eq (engine : Engine) (settings : PlaySettings) :
    ∃ events faults, engine.configure settings = { engine with settings, events, faults } ∧
      ∀ attention : Attention, attention.seen events = attention.seen engine.events := by
  unfold configure
  split
  · exact ⟨engine.events, engine.faults, rfl, fun _ => rfl⟩
  · exact ⟨_, _, rfl, fun attention =>
      (attention.seen_append _ _).trans (List.append_nil _)⟩

theorem Alike.configure (alike : Alike attention first second) (settings others : PlaySettings) :
    Alike attention (first.configure settings) (second.configure others) := by
  obtain ⟨events, faults, configured, same⟩ := first.configure_eq settings
  obtain ⟨noted, kept, alsoConfigured, alsoSame⟩ := second.configure_eq others
  rw [configured, alsoConfigured]
  exact { alike with events := (same _).trans (alike.events.trans (alsoSame _).symm) }

/-- Goes on where a port that is held no more kept an engine back. -/
def resume (engine : Engine) (port : Port) : Engine :=
  match engine.play with
  | some play =>
    match play.phase with
    | .performing performance => (engine.follow play (performance.release port)).conclude
    | .silencing => engine.silenceAndClose play
    | _ => engine
  | none => engine

theorem setPort_eq (engine : Engine) (port : Port) : engine.setPort port =
    if port.held then { engine with port } else { engine with port }.resume port := rfl

namespace Alike

variable (alike : Alike attention first second)
include alike

theorem resume (port : Port) : Alike attention (first.resume port) (second.resume port) := by
  unfold Engine.resume
  rcases alike.plays with ⟨stopped, alsoStopped⟩ | ⟨play, other, playing, alsoPlaying, same⟩
  · rw [stopped, alsoStopped]
    exact alike
  · rw [playing, alsoPlaying]
    dsimp only
    rw [← same.phase]
    split
    · exact (alike.follow same _).conclude
    · exact alike.silenceAndClose same
    · exact alike

theorem withPort (counts : attention.transport = true) (port : Port) :
    Alike attention { first with port } { second with port } :=
  { alike with port := rfl, unbroken := fun ignored => absurd counts (by simp [ignored]) }

theorem look : Alike attention first.look.2 second.look.2 := { alike with events := rfl }

end Alike

end Engine

end StepSequencer
