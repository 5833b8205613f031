/-
This file proves that a stop cuts a play and does not alter it. Whoever stops a play, at whatever
pulse, in the middle of whatever steps: what has been heard up to then is what is heard of the same
play when nobody stops it, pulse by pulse and sender by sender. The stop sends the messages that end
every note, and after it nothing is heard until the engine is asked to play again.
-/

import StepSequencer.Proofs.Sounding

namespace StepSequencer

namespace Engine

variable {engine : Engine}

/-! ### Pulses and stops -/

theorem becomes_of_isPulse (playing : engine.state = .playing) {action : Action}
    (pulse : engine.IsPulse action) : engine.Becomes (engine.act action) := by
  rcases moveOf_of_isPulse playing pulse with rfl | moved
  · exact engine.becomes_tick
  · rw [act_of_pulse moved]
    exact engine.becomes_outsidePulse

theorem Becomes.isPulse {after : Engine} (becomes : engine.Becomes after) {action : Action}
    (pulse : engine.IsPulse action) : after.IsPulse action := by
  have keeps := becomes.keeps
  cases action with
  | tick =>
    show after.settings.sync ≠ .follower
    rw [keeps.settings]
    exact pulse
  | inject bytes => exact ⟨keeps.hearsSync.trans pulse.1, pulse.2⟩
  | handleSync bytes => exact pulse
  | select _ | configure _ | start | stop | requestPlay | requestStop | listen | listenSync
  | stopSync => exact pulse.elim

theorem starts_of_isPulse {action : Action} (pulse : engine.IsPulse action) :
    action.starts = false := by
  have other {bytes : List UInt8} (read : Message.ofBytes? bytes = some .timingClock) :
      decide (Message.ofBytes? bytes = some .start) = false := by
    rw [read]
    rfl
  cases action with
  | tick => rfl
  | inject bytes => exact other pulse.2
  | handleSync bytes => exact other pulse
  | select _ | configure _ | start | stop | requestPlay | requestStop | listen | listenSync
  | stopSync => exact pulse.elim

/-- Only an action that asks for a play can start one. -/
theorem starts_of_moveOf {action : Action} (asked : engine.moveOf action = .start) :
    action.starts = true := by
  have read {bytes : List UInt8} (moved : engine.moveOfBytes bytes = .start) :
      decide (Message.ofBytes? bytes = some .start) = true := by
    rw [moveOfBytes] at moved
    generalize Message.ofBytes? bytes = message at moved ⊢
    generalize engine.state = state at moved
    cases message with
    | none => cases moved
    | some message =>
      cases message with
      | start => rfl
      | noteOn _ _ _ | noteOff _ _ | control _ _ _ => cases moved
      | timingClock => cases state <;> cases moved
      | stop =>
        cases state with
        | stopped => cases moved
        | playing =>
          dsimp only at moved
          split at moved <;> cases moved
  cases action with
  | start | requestPlay => rfl
  | inject bytes =>
    rw [moveOf] at asked
    split at asked
    · exact read asked
    · cases asked
  | handleSync bytes => exact read asked
  | requestStop =>
    rw [moveOf] at asked
    split at asked <;> cases asked
  | select _ | configure _ | stop | tick | listen | listenSync | stopSync => cases asked

end Engine

namespace Studio

/-! ### Stopped studios -/

/-- While an engine is stopped, nothing is heard of it before it is asked to play. -/
theorem after_of_stopped {studio : Studio} (stopped : studio.engine.play = none) {deed : Deed}
    (quiet : deed.starts = false) : (studio.after deed).engine.play = none ∧
      (studio.after deed).engine.voices = studio.engine.voices := by
  have rewired (rewires : deed.rewires = true) : (studio.after deed).engine.play = none ∧
      (studio.after deed).engine.voices = studio.engine.voices := by
    obtain ⟨board, same⟩ := studio.exists_rewired rewires
    exact same ▸ ⟨stopped, rfl⟩
  cases deed with
  | act action =>
    have unstartable (asked : studio.engine.moveOf action = .start) :
        studio.engine.startable? = none :=
      absurd ((Engine.starts_of_moveOf asked).symm.trans quiet) (by decide)
    obtain ⟨still, causes, noted⟩ := Engine.act_of_stopped stopped unstartable
    refine ⟨still, ?_⟩
    show (studio.engine.act action).events.filterMap Event.voice? = _
    rw [noted, List.filterMap_append, filterMap_voice?_faults, List.append_nil]
    rfl
  | reload document =>
    have idle : studio.engine.stop = studio.engine := Engine.move_eq_self stopped .stop nofun
    show (studio.reload document).2.engine.play = none ∧
      (studio.reload document).2.engine.voices = studio.engine.voices
    rw [reload_eq, Engine.reload, idle]
    cases Sequence.load document with
    | ok sequence =>
      obtain ⟨events, faults, configured, same⟩ :=
        studio.engine.configure_eq sequence.settings.forPlay
      dsimp only
      rw [configured]
      refine ⟨stopped, ?_⟩
      show events.filterMap Event.voice? = studio.engine.events.filterMap Event.voice?
      rw [← Attention.toOutput.filterMap_voice?_seen, same, Attention.filterMap_voice?_seen]
    | error failure => exact ⟨stopped, rfl⟩
  | subscribe _ _ _ | unsubscribe _ _ | receive _ => exact rewired rfl
  | setPort port =>
    show (studio.engine.setPort port).play = none ∧
      (studio.engine.setPort port).voices = studio.engine.voices
    rw [Engine.setPort_eq]
    split
    · exact ⟨stopped, rfl⟩
    · rw [Engine.resume, stopped]
      exact ⟨rfl, rfl⟩
  | setClock _ | setSpawnFaults _ | drainFaults => exact ⟨stopped, rfl⟩

/-- A studio after some things have been done to it, with a look before each of them. -/
def afterAll (studio : Studio) (deeds : List Deed) : Studio :=
  deeds.foldl (fun studio deed => studio.look.2.after deed) studio

theorem outputs_append (studio : Studio) (deeds others : List Deed) :
    studio.outputs (deeds ++ others) =
      studio.outputs deeds ++ (studio.afterAll deeds).outputs others := by
  induction deeds generalizing studio with
  | nil => rfl
  | cons deed rest inductionHypothesis => exact congrArg _ (inductionHypothesis _)

theorem length_outputs (studio : Studio) (deeds : List Deed) :
    (studio.outputs deeds).length = deeds.length := by
  induction deeds generalizing studio with
  | nil => rfl
  | cons deed rest inductionHypothesis => exact congrArg (· + 1) (inductionHypothesis _)

/-- What is heard of a studio since the last look, and whether it plays. -/
def heard (output : Output) : List (List Message) × PlayState := (output.voices, output.state)

theorem heard_of_stopped {studio : Studio} (stopped : studio.engine.play = none) {deeds : List Deed}
    (quiet : ∀ deed ∈ deeds, deed.starts = false) :
    (studio.afterAll deeds).engine.play = none ∧
      (studio.outputs deeds).map heard = deeds.map fun _ => ([], .stopped) := by
  induction deeds generalizing studio with
  | nil => exact ⟨stopped, rfl⟩
  | cons deed rest inductionHypothesis =>
    have idle : studio.look.2.engine.play = none := stopped
    obtain ⟨still, silent⟩ := after_of_stopped idle (quiet deed List.mem_cons_self)
    obtain ⟨ended, behind⟩ :=
      inductionHypothesis still fun other member => quiet other (List.mem_cons_of_mem _ member)
    have unheard : heard (studio.look.2.after deed).output = ([], .stopped) :=
      Prod.ext silent (Engine.stopped_of_play_eq_none still)
    exact ⟨ended, congrArg₂ List.cons unheard behind⟩

/-- An engine that plays though nobody asks it to has played before. -/
theorem playing_of_afterAll {studio : Studio} {deeds : List Deed}
    (quiet : ∀ deed ∈ deeds, deed.starts = false)
    (still : (studio.afterAll deeds).engine.state = .playing) : studio.engine.state = .playing := by
  cases state : studio.engine.state with
  | playing => rfl
  | stopped =>
    have ended := (heard_of_stopped (Engine.play_eq_none_of_stopped state) quiet).1
    exact nomatch (Engine.stopped_of_play_eq_none ended).symm.trans still

theorem quiet_of_isPulse {engine : Engine} {actions : List Action}
    (given : ∀ action ∈ actions, engine.IsPulse action) :
    ∀ deed ∈ actions.map Deed.act, deed.starts = false :=
  List.forall_mem_map.mpr fun action member => Engine.starts_of_isPulse (given action member)

/-! ### Plays -/

/-- An engine that still plays after some pulses has come as far as the play comes with them, and
what is heard at each of them is what the play sends at that pulse. -/
theorem outputs_pulses {studio : Studio} {arrangement : Arrangement Playable} {looping : Bool}
    {pulses : Nat} (plays : studio.engine.PlaysFor arrangement looping pulses)
    {actions : List Action} (given : ∀ action ∈ actions, studio.engine.IsPulse action)
    (still : (studio.afterAll (actions.map .act)).engine.state = .playing) :
    (studio.afterAll (actions.map .act)).engine.PlaysFor arrangement looping
        (pulses + actions.length) ∧
      (studio.outputs (actions.map .act)).map Output.voices =
        (List.range' pulses actions.length).map fun pulse =>
          (Performance.sentAt (fun _ => studio.engine.port) arrangement looping pulse).filterMap
            Sound.voice? := by
  induction actions generalizing studio pulses with
  | nil => exact ⟨plays, rfl⟩
  | cons action rest inductionHypothesis =>
    have looked : studio.look.2.engine.PlaysFor arrangement looping pulses := { plays with }
    have begun : studio.engine.Becomes studio.look.2.engine :=
      .change studio.engine studio.engine.play [] studio.engine.faults
    have pulse := begun.isPulse (given action List.mem_cons_self)
    have becomes := begun.trans (Engine.becomes_of_isPulse looked.state pulse)
    have later : ∀ other ∈ rest, (studio.look.2.after (.act action)).engine.IsPulse other :=
      fun other member => becomes.isPulse (given other (List.mem_cons_of_mem _ member))
    have between := playing_of_afterAll (quiet_of_isPulse later) still
    obtain ⟨goesOn, sent⟩ := looked.pulse pulse between
    obtain ⟨comes, behind⟩ := inductionHypothesis goesOn later still
    have port : (studio.look.2.after (.act action)).engine.port = studio.engine.port :=
      becomes.keeps.port
    rw [port] at behind
    refine ⟨?_, congrArg₂ List.cons sent behind⟩
    rw [List.length_cons, Nat.add_comm rest.length, ← Nat.add_assoc]
    exact comes

/-! ### Cuts -/

/-- A stop cuts a play and does not alter it. When a play that has begun gets some pulses and is
stopped while it still plays, then up to the stop the same is heard as when it goes on in whatever
way: at each pulse what the play sends at that pulse. The stop sends the silence, and whatever is
done afterwards sends nothing, unless it asks for a play. -/
theorem outputs_of_cut {studio : Studio} (stopped : studio.engine.state = .stopped)
    (clears : studio.engine.port.Clears) {selection : Selection}
    (selected : studio.engine.selection = some selection) {begins : Action}
    (starts : studio.engine.moveOf begins = .start) {pulses : List Action}
    (given : ∀ pulse ∈ pulses, (studio.look.2.after (.act begins)).engine.IsPulse pulse)
    (playing : (studio.afterAll ((begins :: pulses).map .act)).engine.state = .playing)
    {cut : Action}
    (stops : (studio.afterAll ((begins :: pulses).map .act)).engine.moveOf cut = .stop)
    {later : List Deed} (quiet : ∀ deed ∈ later, deed.starts = false) :
    (∀ more, (studio.outputs ((begins :: pulses).map .act ++ .act cut :: later)).map heard =
      ((studio.outputs ((begins :: pulses).map .act ++ more)).map heard).take
          (pulses.length + 1) ++
        ([silence], .stopped) :: later.map fun _ => ([], .stopped)) ∧
      (studio.outputs ((begins :: pulses).map .act)).map Output.voices =
        [] :: (List.range pulses.length).map fun pulse =>
          (Performance.sentAt (fun _ => studio.engine.port) selection.playable.arranged
            studio.engine.settings.looping pulse).filterMap Sound.voice? := by
  have opened : studio.look.2.engine.port.Clears := clears
  have idle : studio.look.2.engine.play = none := Engine.play_eq_none_of_stopped stopped
  have asked : studio.look.2.engine.moveOf begins = .start := by
    cases begins <;> exact starts
  obtain ⟨begun, unheard, port⟩ := Engine.act_plays opened idle selected asked
    (playing_of_afterAll (quiet_of_isPulse given) playing)
  obtain ⟨comes, sent⟩ := outputs_pulses begun given playing
  have before : (studio.outputs ((begins :: pulses).map .act)).map Output.voices =
      [] :: (List.range pulses.length).map fun pulse =>
        (Performance.sentAt (fun _ => studio.engine.port) selection.playable.arranged
          studio.engine.settings.looping pulse).filterMap Sound.voice? := by
    rw [List.range_eq_range']
    exact congrArg₂ List.cons unheard (port ▸ sent)
  refine ⟨fun more => ?_, before⟩
  have same : ((studio.outputs ((begins :: pulses).map .act ++ more)).map heard).take
      (pulses.length + 1) = (studio.outputs ((begins :: pulses).map .act)).map heard := by
    rw [outputs_append, List.map_append]
    exact List.take_left' (by rw [List.length_map, length_outputs, List.length_map]; rfl)
  have paused : (studio.afterAll ((begins :: pulses).map .act)).look.2.engine.PlaysFor
      selection.playable.arranged studio.engine.settings.looping (0 + pulses.length) :=
    { comes with }
  have alsoStops : (studio.afterAll ((begins :: pulses).map .act)).look.2.engine.moveOf cut =
      .stop := by
    cases cut <;> exact stops
  obtain ⟨ended, silenced⟩ := paused.stop alsoStops
  have cutOff : heard ((studio.afterAll ((begins :: pulses).map .act)).look.2.after
      (.act cut)).output = ([silence], .stopped) :=
    Prod.ext silenced (Engine.stopped_of_play_eq_none ended)
  rw [same, outputs_append, List.map_append]
  exact congrArg _ (congrArg₂ List.cons cutOff (heard_of_stopped ended quiet).2)

/-- A play that is started and stopped over the transport, and gets its pulses from its clock and
from outside. -/
theorem outputs_of_cut_chainSample :
    ∃ (studio : Studio) (pulses : List Action) (later : List Deed),
      pulses = [.tick, .handleSync [0xF8], .tick] ∧
      later = [.act .tick, .act (.handleSync [0xF8])] ∧ studio.engine.state = .stopped ∧
      (studio.outputs ((.handleSync [0xFA] :: pulses).map .act ++
          .act (.handleSync [0xFC]) :: later)).map heard =
        [([], .playing), ([[.noteOn 0 60 100]], .playing), ([], .playing), ([], .playing),
          ([silence], .stopped), ([], .stopped), ([], .stopped)] := by
  let chosen (sequence : Sequence) (playable : Playable) : Studio :=
    ((⟨Engine.ofWiring ⟨false, false⟩, sequence, 0, sequence.clearCursors⟩ : Studio).after
      (.act (.select ⟨0, playable⟩))).after (.act .listen)
  let pulses : List Action := [.tick, .handleSync [0xF8], .tick]
  let played : List Deed := (.handleSync [0xFA] :: pulses).map .act
  let later : List Deed := [.act .tick, .act (.handleSync [0xF8])]
  obtain ⟨sequence, _, found⟩ := Sequence.exists_load_eq_ok Sequence.chainSample
    (show ((Sequence.load Sequence.chainSample).toOption.any fun sequence =>
      sequence.playables.any fun playable =>
        decide (((chosen sequence playable).engine.moveOf (.handleSync [0xFA]) = .start ∧
          ((chosen sequence playable).look.2.after (.act (.handleSync [0xFA]))).engine.settings.sync
            = .none) ∧
          (((chosen sequence playable).afterAll played).engine.state = .playing ∧
          ((chosen sequence playable).afterAll played).engine.moveOf (.handleSync [0xFC]) = .stop) ∧
          ((chosen sequence playable).outputs played).map heard =
            [([], .playing), ([[.noteOn 0 60 100]], .playing), ([], .playing), ([], .playing)]))
        = true by decide +kernel)
  obtain ⟨playable, _, computed⟩ := List.any_eq_true.mp found
  obtain ⟨⟨starts, unfollowing⟩, ⟨playing, stops⟩, before⟩ := of_decide_eq_true computed
  have given : ∀ pulse ∈ pulses, ((chosen sequence playable).look.2.after
      (.act (.handleSync [0xFA]))).engine.IsPulse pulse := by
    have ticks : ((chosen sequence playable).look.2.after
        (.act (.handleSync [0xFA]))).engine.IsPulse .tick :=
      fun follows => absurd (unfollowing.symm.trans follows) (by decide)
    have arrives : Message.ofBytes? [0xF8] = some .timingClock := by decide
    exact List.forall_mem_cons.mpr ⟨ticks, List.forall_mem_cons.mpr ⟨arrives,
      List.forall_mem_singleton.mpr ticks⟩⟩
  have quiet : ∀ deed ∈ later, deed.starts = false := by decide
  have stopped : (chosen sequence playable).engine.state = .stopped := rfl
  have cut := (outputs_of_cut stopped Port.free_clears rfl starts given playing stops quiet).1 []
  rw [List.append_nil, before] at cut
  exact ⟨_, pulses, later, rfl, rfl, stopped, cut⟩

end Studio

end StepSequencer
