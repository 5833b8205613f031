/-
This file proves that a reload stops first, and then happens as a whole or not at all. Whatever has
been done to an engine whose ports answer, a play that runs is told to end and ends with its whole
cleanup before anything depends on the document: at once, or as soon as its port is released if the
port holds it back. A document that cannot be loaded changes nothing else. One that can be loaded
brings its settings, leaves what is selected as it is, and none of its playables is at a step, since
whatever is still to be seen comes from documents before it.
-/

import StepSequencer.Proofs.Steadiness

namespace StepSequencer

/-! ### What trails behind -/

/-- Whether an event may still be noted of a play of a document that has been told to end, before
its cleanup: marks of its steps, faults, and what a held port has kept back. -/
def Event.Trails (source : Nat) (held : Bool) : Event → Prop
  | .step origin _ _ => origin = source
  | .fault _ => True
  | .voice _ => held = true
  | .sync _ | .stopped | .noticed => False

theorem Event.trails_sounds (source : Nat) (sounds : List Sound) :
    ∀ event ∈ sounds.map (Event.ofSound source), event.Trails source true := by
  refine List.forall_mem_map.mpr fun sound _ => ?_
  cases sound with
  | step slot index => rfl
  | messages sent => rfl
  | refusal message => trivial

theorem Event.trails_faults (source : Nat) (held : Bool) (causes : List PlaybackFault) :
    ∀ event ∈ causes.map Event.fault, event.Trails source held :=
  List.forall_mem_map.mpr fun _ _ => trivial

/-- A play that is told to end marks steps at most. -/
theorem Performance.trails_cancel (performance : Performance) (source : Nat) (held : Bool) :
    ∀ event ∈ performance.cancel.2.map (Event.ofSound source), event.Trails source held := by
  have marks := List.filter_eq_nil_iff.mp (deliveries_settle { performance with token := true })
  refine List.forall_mem_map.mpr fun sound member => ?_
  cases sound with
  | step slot index => rfl
  | messages sent | refusal message => exact absurd rfl (marks _ member)

/-- Whether the players of a play have been told to end, or have ended already. -/
inductive Phase.Told : Phase → Prop
  | performing {performance : Performance} (told : performance.token = true) :
      Told (.performing performance)
  | silencing : Told .silencing

/-! ### Stops -/

namespace Engine

theorem stop_of_stopped {engine : Engine} (stopped : engine.play = none) : engine.stop = engine :=
  move_eq_self stopped .stop nofun

/-- Whether a play has come to its end with its whole cleanup, which has gone through a port, and
with nothing but what may trail behind a play that has been told to end. -/
def CleansUp (engine : Engine) (play : Play) (port : Port) (after : Engine) : Prop :=
  ∃ events faults, (∀ event ∈ events, event.Trails play.edition engine.port.held) ∧
    after = { engine with port }.ended (events ++ { engine with port }.cleanup play) faults

/-- Whoever has been told to end does so with the whole cleanup once the port is released. -/
theorem resume_of_told {engine : Engine} (answers : engine.port.Answers)
    (free : engine.port.held = false) {play : Play} (playing : engine.play = some play)
    (told : play.phase.Told) :
    ∃ events faults, (∀ event ∈ events, event.Trails play.edition true) ∧
      engine.resume engine.port = engine.ended (events ++ engine.cleanup play) faults := by
  rw [resume, playing]
  dsimp only
  generalize play.phase = phase at told
  cases told with
  | silencing =>
    obtain ⟨faults, closed⟩ := silenceAndClose_of_answers answers play
    exact ⟨[], faults, List.forall_mem_nil _, closed⟩
  | @performing performance told =>
    obtain ⟨kept, followed⟩ := follow_eq_during playing (performance.release engine.port)
    obtain ⟨causes, faults, concluded⟩ := conclude_eq_concluded answers play
      (Performance.release_ne_ongoing told engine.port)
      ((performance.release engine.port).2.map (Event.ofSound play.edition)) kept
    have trails := Event.trails_sounds play.edition (performance.release engine.port).2
    refine ⟨_, faults, List.forall_mem_append.mpr
      ⟨trails, Event.trails_faults play.edition true causes⟩, ?_⟩
    dsimp only
    rw [followed, concluded, Engine.concluded, free, if_neg Bool.false_ne_true]

variable {engine : Engine} {play : Play} {performance : Performance}

theorem stop_of_performing (playing : engine.play = some play)
    (performing : play.phase = .performing performance) :
    engine.stop = (engine.follow play performance.cancel).conclude := by
  rw [stop, playing]
  dsimp only
  rw [performing]

/-- Once its players end with a stop, a play is concluded. -/
theorem stop_eq_concluded (answers : engine.port.Answers) (playing : engine.play = some play)
    (performing : play.phase = .performing performance)
    (ends : ∀ other, performance.cancel.1 ≠ .ongoing other) :
    ∃ events faults, (∀ held, ∀ event ∈ events, event.Trails play.edition held) ∧
      engine.stop = engine.concluded play events faults := by
  obtain ⟨kept, followed⟩ := follow_eq_during playing performance.cancel
  obtain ⟨causes, faults, concluded⟩ := conclude_eq_concluded answers play ends
    (performance.cancel.2.map (Event.ofSound play.edition)) kept
  rw [stop_of_performing playing performing, followed, concluded]
  exact ⟨_, faults, fun held => List.forall_mem_append.mpr
    ⟨performance.trails_cancel play.edition held, Event.trails_faults play.edition held causes⟩,
    rfl⟩

namespace Steady

variable {edition : Nat} {engine : Engine} (steady : engine.Steady edition)
include steady

/-- A play that is stopped at a port that holds nobody back is cleaned up at once. -/
theorem cleansUp_stop {play : Play} (playing : engine.play = some play)
    (free : engine.port.held = false) : engine.CleansUp play engine.port engine.stop := by
  obtain ⟨performance, performing⟩ | ⟨_, held⟩ := steady.performs_or_waits playing
  · have unblocked := steady.unblocked playing performing free
    obtain ⟨events, faults, trails, stopped⟩ := stop_eq_concluded steady.answers playing performing
      (Performance.cancel_ne_ongoing unblocked)
    refine ⟨events, faults, trails _, ?_⟩
    rw [stopped, Engine.concluded, free, if_neg Bool.false_ne_true]
  · exact absurd (free.symm.trans held) Bool.false_ne_true

/-- A play that is stopped at a held port waits for the port. -/
theorem stop_waits {play : Play} (playing : engine.play = some play)
    (held : engine.port.held = true) : ∃ events faults clocked phase,
      (∀ event ∈ events, event.Trails play.edition true) ∧ phase.Told ∧
      engine.stop =
        { engine.grown events faults with play := some { play with clocked, phase } } := by
  obtain ⟨performance, performing⟩ | ⟨waits, _⟩ := steady.performs_or_waits playing
  · by_cases goesOn : ∃ other, performance.cancel.1 = .ongoing other
    · obtain ⟨other, goesOn⟩ := goesOn
      have told : ({ performance with token := true } : Performance).token = true := rfl
      obtain ⟨faults, followed⟩ := follow_eq_during playing performance.cancel
      refine ⟨_, faults, play.clocked, .performing other,
        performance.trails_cancel play.edition true,
        .performing (Performance.playing_of_settle told goesOn).1, ?_⟩
      rw [stop_of_performing playing performing, followed, goesOn]
      rfl
    · obtain ⟨events, faults, trails, stopped⟩ :=
        stop_eq_concluded steady.answers playing performing (not_exists.mp goesOn)
      refine ⟨events, faults, false, .silencing, trails true, .silencing, ?_⟩
      rw [stopped, Engine.concluded, held, if_pos rfl]
  · have left : engine.stop = engine := by
      rw [Engine.stop, playing]
      dsimp only
      rw [waits]
    refine ⟨[], engine.faults, play.clocked, play.phase, List.forall_mem_nil _,
      waits ▸ .silencing, ?_⟩
    rw [left, grown_nil]
    exact congrArg (fun running => { engine with play := running }) playing

/-- A play that a held port keeps back when it is stopped is cleaned up once the port is
released. -/
theorem cleansUp_setPort {play : Play} (playing : engine.play = some play)
    (held : engine.port.held = true) {release : Port} (answers : release.Answers)
    (free : release.held = false) :
    engine.CleansUp play release (engine.stop.setPort release) := by
  obtain ⟨before, kept, clocked, phase, trails, told, stopped⟩ := steady.stop_waits playing held
  have still : { engine.stop with port := release }.port.Answers := answers
  have waiting : { engine.stop with port := release }.play =
      some { play with clocked, phase } := by rw [stopped]
  obtain ⟨behind, faults, alsoTrails, resumed⟩ := resume_of_told still free waiting told
  refine ⟨before ++ behind, faults, ?_, ?_⟩
  · rw [held]
    exact List.forall_mem_append.mpr ⟨trails, alsoTrails⟩
  · rw [setPort_eq, free, if_neg Bool.false_ne_true]
    refine resumed.trans ?_
    rw [stopped, List.append_assoc]
    exact ended_grown { engine with port := release } before _ kept faults

/-- A stop waits for nobody at a port that holds nobody back, or without a play. -/
theorem stopAndWait_eq_stop (returns : engine.port.held = false ∨ engine.play = none)
    (release : Port) : engine.stopAndWait release = engine.stop := by
  have ended : engine.stop.play = none := by
    cases playing : engine.play with
    | none => rw [stop_of_stopped playing, playing]
    | some play =>
      have free := returns.resolve_right fun absent => nomatch playing.symm.trans absent
      obtain ⟨_, _, _, stopped⟩ := steady.cleansUp_stop playing free
      rw [stopped]
      rfl
  rw [Engine.stopAndWait, ended]
  exact if_neg Bool.false_ne_true

/-- However a play is stopped, it comes to its end with its whole cleanup. -/
theorem cleansUp_stopAndWait {play : Play} (playing : engine.play = some play) {release : Port}
    (answers : release.Answers) (free : release.held = false) :
    engine.CleansUp play (if engine.port.held then release else engine.port)
      (engine.stopAndWait release) := by
  cases held : engine.port.held with
  | true =>
    obtain ⟨_, _, _, _, _, _, stopped⟩ := steady.stop_waits playing held
    have waits : engine.stop.play.isSome = true := by rw [stopped, Option.isSome_some]
    rw [Engine.stopAndWait, if_pos waits, if_pos rfl]
    exact steady.cleansUp_setPort playing held answers free
  | false =>
    rw [steady.stopAndWait_eq_stop (.inl held), if_neg Bool.false_ne_true]
    exact steady.cleansUp_stop playing held

/-- A stop that waits leaves no play behind, and the settings and the selection as they were. -/
theorem stopAndWait_keeps {release : Port} (answers : release.Answers)
    (free : release.held = false) :
    (engine.stopAndWait release).play = none ∧
      (engine.stopAndWait release).settings = engine.settings ∧
      (engine.stopAndWait release).selection = engine.selection := by
  cases playing : engine.play with
  | none =>
    rw [steady.stopAndWait_eq_stop (.inr playing), stop_of_stopped playing]
    exact ⟨playing, rfl, rfl⟩
  | some play =>
    obtain ⟨_, _, _, stopped⟩ := steady.cleansUp_stopAndWait playing answers free
    rw [stopped]
    exact ⟨rfl, rfl, rfl⟩

theorem stopAndWait {release : Port} (answers : release.Answers) :
    (engine.stopAndWait release).Steady edition := by
  unfold Engine.stopAndWait
  split
  · exact steady.stop.setPort answers
  · exact steady.stop

end Steady

/-- What the settings of a document make of an engine: new settings, and at most one more fault. -/
theorem configure_eq_grown (engine : Engine) (settings : PlaySettings) :
    ∃ (causes : List PlaybackFault) (faults : FaultQueue),
      engine.configure settings = { engine.grown (causes.map .fault) faults with settings } := by
  unfold configure
  split
  · exact ⟨[], engine.faults, by rw [List.map_nil, grown_nil]⟩
  · exact ⟨[.clock (.invalidTempo settings.bpm)], _, rfl⟩

end Engine

/-! ### Reloads -/

/-- Events of earlier documents move no steps of a later one. -/
theorem Studio.foldl_moveCursor_of_within {edition : Nat} {events : List Event}
    (within : ∀ event ∈ events, event.Within edition) (cursors : Cursors) :
    events.foldl (moveCursor (edition + 1)) cursors = cursors := by
  induction events generalizing cursors with
  | nil => rfl
  | cons event rest inductionHypothesis =>
    obtain ⟨first, behind⟩ := List.forall_mem_cons.mp within
    have still : moveCursor (edition + 1) cursors event = cursors := by
      cases event with
      | step source slot index => exact if_neg (Nat.ne_of_lt (Nat.lt_succ_of_le first))
      | voice | sync | fault | stopped | noticed => rfl
    rw [List.foldl_cons, still]
    exact inductionHypothesis behind cursors

namespace Studio

/-- What becomes of a studio that loads another document. -/
structure StopsAndReloads (studio : Studio) (release : Port) (document : String) : Prop where
  /-- A reload that need not wait is nothing but a reload. -/
  atOnce : studio.engine.port.held = false ∨ studio.engine.play = none →
    studio.stopAndReload release document = studio.reload document
  stopped : (studio.stopAndReload release document).2.engine.state = .stopped
  idle : studio.engine.play = none → studio.rested release = studio
  /-- A play that was running has been cleaned up by the time when the engine is stopped. -/
  cleaned : ∀ play, studio.engine.play = some play →
    studio.engine.CleansUp play (if studio.engine.port.held then release else studio.engine.port)
      (studio.rested release).engine
  /-- Behind the stop there is nothing but settings, and a fault if the clock refuses them. -/
  behind : ∃ (settings : PlaySettings) (causes : List PlaybackFault) (faults : FaultQueue),
    (studio.stopAndReload release document).2.engine =
      { (studio.rested release).engine.grown (causes.map .fault) faults with settings }
  /-- A document that cannot be loaded changes neither the settings nor the selection, and the
  studio still holds the document that it held before. -/
  failed : ∀ failure, Sequence.load document = .error failure →
    studio.stopAndReload release document = (.error failure, studio.rested release) ∧
      (studio.rested release).engine.settings = studio.engine.settings ∧
      (studio.rested release).engine.selection = studio.engine.selection
  /-- A document that is loaded brings its settings and leaves the selection as it is. None of its
  playables is at a step, also once everything that has happened is seen. -/
  succeeded : ∀ sequence, Sequence.load document = .ok sequence →
    (studio.stopAndReload release document).1 = .ok sequence ∧
      (studio.stopAndReload release document).2.engine.settings = sequence.settings.forPlay ∧
      (studio.stopAndReload release document).2.engine.selection = studio.engine.selection ∧
      (studio.stopAndReload release document).2.sequence = sequence ∧
      (studio.stopAndReload release document).2.cursors = sequence.playables.map (fun _ => none) ∧
      (studio.stopAndReload release document).2.look.2.cursors =
        sequence.playables.map (fun _ => none)

variable {studio : Studio}

theorem reload_of_error {document : String} {failure : LoadFailure}
    (fails : Sequence.load document = .error failure) (stopped : studio.engine.play = none) :
    studio.reload document = (.error failure, studio) := by
  rw [reload, Engine.reload, fails, Engine.stop_of_stopped stopped]

theorem reload_of_ok {document : String} {sequence : Sequence}
    (loads : Sequence.load document = .ok sequence) (stopped : studio.engine.play = none) :
    studio.reload document = (.ok sequence,
      ⟨studio.engine.configure sequence.settings.forPlay, sequence, studio.edition + 1,
        sequence.clearCursors⟩) := by
  rw [reload, Engine.reload, loads, Engine.stop_of_stopped stopped]

/-- A reload stops first, and then happens as a whole or not at all. -/
theorem stopsAndReloads_of_attained (attained : studio.Attained) {release : Port}
    (answers : release.Answers) (free : release.held = false) (document : String) :
    studio.StopsAndReloads release document := by
  have steady := attained.steady
  obtain ⟨ended, settings, selection⟩ := Engine.Steady.stopAndWait_keeps steady answers free
  have stopped : (studio.rested release).engine.play = none := ended
  have behind : ∃ (settings : PlaySettings) (causes : List PlaybackFault) (faults : FaultQueue),
      (studio.stopAndReload release document).2.engine =
        { (studio.rested release).engine.grown (causes.map .fault) faults with settings } := by
    rw [stopAndReload]
    cases loaded : Sequence.load document with
    | ok sequence =>
      rw [reload_of_ok loaded stopped]
      obtain ⟨causes, faults, configured⟩ :=
        (studio.rested release).engine.configure_eq_grown sequence.settings.forPlay
      exact ⟨_, causes, faults, configured⟩
    | error failure =>
      rw [reload_of_error loaded stopped]
      exact ⟨_, [], _, (Engine.grown_nil _).symm⟩
  constructor
  case atOnce =>
    intro returns
    have same := Engine.Steady.stopAndWait_eq_stop steady returns release
    rw [stopAndReload, rested, withEngine, same, reload, reload, Engine.reload, Engine.reload,
      Engine.stop_of_stopped (same ▸ ended)]
  case stopped =>
    obtain ⟨settings, causes, faults, reloaded⟩ := behind
    rw [reloaded]
    exact Engine.stopped_of_play_eq_none ended
  case idle =>
    intro absent
    rw [rested, withEngine, Engine.Steady.stopAndWait_eq_stop steady (.inr absent),
      Engine.stop_of_stopped absent]
  case cleaned =>
    exact fun play playing => Engine.Steady.cleansUp_stopAndWait steady playing answers free
  case behind => exact behind
  case failed => exact fun failure fails => ⟨reload_of_error fails stopped, settings, selection⟩
  case succeeded =>
    intro sequence loads
    obtain ⟨causes, faults, configured⟩ :=
      (studio.rested release).engine.configure_eq_grown sequence.settings.forPlay
    have noted := (Engine.Steady.stopAndWait steady answers).grown
      (Engine.within_faults causes studio.edition) faults
    rw [stopAndReload, reload_of_ok loads stopped, configured]
    exact ⟨rfl, rfl, selection, rfl, rfl, foldl_moveCursor_of_within noted.noted _⟩

/-- A held port keeps back the first note of a playable. Whatever document is loaded then, the note
goes out and everything is silenced before. -/
theorem stopsAndReloads_of_attained_chainSample :
    Port.free.Answers ∧ Port.free.held = false ∧
      ∃ studio : Studio, studio.Attained ∧ studio.engine.port.held = true ∧
        studio.engine.events.filterMap Event.voice? = [] ∧
        (studio.rested Port.free).engine.events.filterMap Event.voice? =
          [[.noteOn 0 60 100], silence] ∧
        ∀ document, studio.StopsAndReloads Port.free document := by
  have answers := Port.free_clears.answers
  let held : Port := { Port.free with held := true }
  let played (sequence : Sequence) (playable : Playable) : Studio :=
    ((((⟨Engine.ofWiring ⟨false, false⟩, sequence, 0, sequence.clearCursors⟩ : Studio).after
      (.act (.select ⟨0, playable⟩))).after (.act .start)).after (.setPort held)).after (.act .tick)
  obtain ⟨sequence, _, found⟩ := Sequence.exists_load_eq_ok Sequence.chainSample
    (show ((Sequence.load Sequence.chainSample).toOption.any fun sequence =>
      sequence.playables.any fun playable =>
        decide ((played sequence playable).engine.port.held = true ∧
          (played sequence playable).engine.events.filterMap Event.voice? = [] ∧
          ((played sequence playable).rested Port.free).engine.events.filterMap Event.voice? =
            [[.noteOn 0 60 100], silence])) = true
      by decide +kernel)
  obtain ⟨playable, _, computed⟩ := List.any_eq_true.mp found
  obtain ⟨keepsBack, quiet, heard⟩ := of_decide_eq_true computed
  have attained : (played sequence playable).Attained :=
    .after (.after (.after (.after (.rest _ _) (Nat.le_refl 0)) trivial)
      ⟨answers.transport, answers.silence⟩) trivial
  exact ⟨answers, rfl, _, attained, keepsBack, quiet, heard,
    stopsAndReloads_of_attained attained answers rfl⟩

end Studio

end StepSequencer
