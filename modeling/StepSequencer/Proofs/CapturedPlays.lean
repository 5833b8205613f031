/-
This file proves that a play keeps what it was started with. While a play runs, another selection
and other settings can be made, and more plays can be asked for: by hand, over the play bus, or over
the transport. None of this shows before the play has ended. From deed to deed, what is sent, the
steps that are reached and whether the play has ended are the same as without it.
-/

import StepSequencer.Proofs.Showings

namespace StepSequencer

/-- Whether an action concerns plays that are not started yet: it changes what the next play plays,
or how, or asks for a play. -/
def Action.isChange : Action → Bool
  | .select _ | .configure _ => true
  | action => action.starts

/-- Whether something that is done concerns plays that are not started yet. -/
def Deed.isChange : Deed → Bool
  | .act action => action.isChange
  | _ => false

theorem Deed.exists_act_of_isChange (deed : Deed) (change : deed.isChange = true) :
    ∃ action, deed = .act action := by
  cases deed with
  | act action => exact ⟨action, rfl⟩
  | reload _ | subscribe _ _ _ | unsubscribe _ _ | receive _ | setPort _ | setClock _
  | setSpawnFaults _ | drainFaults => exact nomatch change

/-- Whatever asks for a play concerns the next one. -/
theorem Deed.starts_of_isChange (deed : Deed) (unchanging : deed.isChange = false) :
    deed.starts = false := by
  cases deed with
  | act action =>
    cases action with
    | select _ | configure _ => exact nomatch unchanging
    | start | stop | requestPlay | requestStop | tick | listen | listenSync | stopSync | inject _
    | handleSync _ => exact unchanging
  | reload _ | subscribe _ _ _ | unsubscribe _ _ | receive _ | setPort _ | setClock _
  | setSpawnFaults _ | drainFaults => rfl

/-- What is shown of a studio before each of some deeds and after the last one, until its play has
ended. Deeds that concern the next play show nothing of their own: whatever they lead to is shown
together with what follows. -/
def Studio.restOfPlay : Studio → List Deed → List Showing
  | studio, [] => [studio.showing]
  | studio, deed :: rest =>
    if studio.engine.state = .stopped then [studio.showing]
    else if deed.isChange then (studio.after deed).restOfPlay rest
    else studio.showing :: (studio.look.2.after deed).restOfPlay rest

namespace Engine

theorem start_of_playing {engine : Engine} (playing : engine.state = .playing) :
    engine.start = engine := by
  unfold start
  split
  next stopped _ =>
    rw [state, stopped] at playing
    cases playing
  next => rfl

namespace Kindred

variable {attention : Attention} {first second : Engine} (kindred : Kindred attention first second)
include kindred

theorem configure_left (settings : PlaySettings) :
    Kindred attention (first.configure settings) second := by
  obtain ⟨events, faults, configured, same⟩ := first.configure_eq settings
  rw [configured]
  exact { kindred with
    alike := { kindred.alike with events := (same attention).trans kindred.alike.events } }

/-- A request for a play reaches an engine that plays, and leaves nothing behind. -/
theorem requestPlay_left (playing : first.state = .playing) :
    Kindred attention first.requestPlay second := by
  have asked : Kindred attention (first.rewired (first.switchboard.request .play))
      (second.rewired second.switchboard) :=
    kindred.rewired (kindred.attentive.request .play) kindred.alsoAttentive fun name => by
      rw [kindred.attentive.attendsTo_request, kindred.attends]
  have still : (first.rewired (first.switchboard.request .play)).state = .playing := playing
  rw [requestPlay_eq kindred.attentive]
  dsimp only
  rw [start_of_playing still, ite_self]
  exact asked

theorem handleSync_left (playing : first.state = .playing) {bytes : List UInt8}
    (read : Message.ofBytes? bytes = some .start) :
    Kindred attention (first.handleSync bytes) second := by
  unfold Engine.handleSync
  rw [read, playing]
  exact kindred

/-- While an engine plays, what concerns the next play sets it apart from no other engine. -/
theorem change (playing : first.state = .playing) {action : Action}
    (change : action.isChange = true) : Kindred attention (first.act action) second := by
  cases action with
  | select selection => exact { kindred with alike := { kindred.alike with } }
  | configure settings => exact kindred.configure_left settings
  | start =>
    show Kindred attention first.start second
    rwa [start_of_playing playing]
  | requestPlay => exact kindred.requestPlay_left playing
  | inject bytes =>
    unfold Engine.act Engine.inject
    dsimp only
    split
    · exact kindred.handleSync_left playing (of_decide_eq_true change)
    · exact kindred
  | handleSync bytes => exact kindred.handleSync_left playing (of_decide_eq_true change)
  | stop | requestStop | tick | listen | listenSync | stopSync => exact nomatch change

end Kindred

end Engine

namespace Studio

theorem restOfPlay_of_stopped {studio : Studio} (stopped : studio.engine.state = .stopped)
    (deeds : List Deed) : studio.restOfPlay deeds = [studio.showing] := by
  cases deeds with
  | nil => rfl
  | cons deed rest => exact if_pos stopped

/-- Studios that look the same show the same rest of their plays, though what concerns the next play
is done to one of them only. -/
theorem restOfPlay_filter {first second : Studio}
    (kindred : Engine.Kindred .toShows first.engine second.engine)
    (same : SameSteps first second) (deeds : List Deed) :
    first.restOfPlay deeds = second.restOfPlay (deeds.filter fun deed => !deed.isChange) := by
  induction deeds generalizing first second with
  | nil => exact congrArg ([·]) (same.showing_eq kindred.alike)
  | cons deed rest inductionHypothesis =>
    have shown := same.showing_eq kindred.alike
    have states := kindred.alike.state_eq
    by_cases stopped : first.engine.state = .stopped
    · rw [restOfPlay_of_stopped stopped, restOfPlay_of_stopped (states ▸ stopped), shown]
    · have alsoPlaying : second.engine.state ≠ .stopped := states ▸ stopped
      have playing : first.engine.state = .playing := by
        cases state : first.engine.state with
        | stopped => exact absurd state stopped
        | playing => rfl
      rw [restOfPlay, if_neg stopped]
      cases change : deed.isChange with
      | true =>
        obtain ⟨action, rfl⟩ := deed.exists_act_of_isChange change
        have steps : SameSteps (first.act action) second := ⟨same.edition, same.cursors⟩
        rw [if_pos rfl, List.filter_cons_of_neg (by simp [change])]
        exact inductionHypothesis (kindred.change playing change) steps
      | false =>
        have quiet := deed.starts_of_isChange change
        have behind : Engine.Kindred .toShows (first.look.2.after deed).engine
            (second.look.2.after deed).engine := kindred.look.after rfl quiet
        have steps := (same.look kindred.alike rfl).after deed
        rw [if_neg Bool.false_ne_true, List.filter_cons_of_pos (by simp [change]), restOfPlay,
          if_neg alsoPlaying, change, if_neg Bool.false_ne_true, shown,
          inductionHypothesis behind steps]

/-- A play keeps what it was started with: whatever concerns the next play, done at any time and in
any number, changes nothing of the rest of the present one. -/
theorem restOfPlay_eq_of_filter_eq {studio : Studio} (reached : studio.Reached)
    {deeds others : List Deed}
    (same : deeds.filter (fun deed => !deed.isChange) = others.filter fun deed => !deed.isChange) :
    studio.restOfPlay deeds = studio.restOfPlay others := by
  have kindred := reached.twins.kindred
  rw [restOfPlay_filter kindred (.refl studio) deeds, same,
    ← restOfPlay_filter kindred (.refl studio) others]

/-- A play of a single step ends with its eighth tick, though it is to loop, and something else is
selected, while it runs. -/
theorem restOfPlay_eq_of_filter_eq_chainSample :
    ∃ studio : Studio, studio.Reached ∧ studio.engine.state = .playing ∧
      (studio.restOfPlay (List.replicate 8 (.act .tick))).length = 9 ∧
      (studio.restOfPlay (List.replicate 8 (.act .tick))).getLast? =
        some ⟨⟨[[.noteOff 0 60], silence], [], .stopped⟩, [some 0, none, none]⟩ ∧
      ∀ (settings : PlaySettings) (selection : Selection),
        studio.restOfPlay (.act (.configure settings) :: .act .tick :: .act (.select selection) ::
          .act .requestPlay :: .act (.handleSync [0xFA]) :: List.replicate 7 (.act .tick) ++
          [.act .start]) = studio.restOfPlay (List.replicate 8 (.act .tick)) := by
  let started (sequence : Sequence) (playable : Playable) : Studio :=
    (((⟨Engine.ofWiring ⟨false, false⟩, sequence, 0, sequence.clearCursors⟩ : Studio).after
      (.act (.select ⟨0, playable⟩))).after (.act .listen)).after (.act .start)
  let pulses : List Deed := List.replicate 8 (.act .tick)
  obtain ⟨sequence, _, found⟩ := Sequence.exists_load_eq_ok Sequence.chainSample
    (show ((Sequence.load Sequence.chainSample).toOption.any fun sequence =>
      sequence.playables.any fun playable =>
        decide ((started sequence playable).engine.state = .playing ∧
          ((started sequence playable).restOfPlay pulses).length = 9 ∧
          ((started sequence playable).restOfPlay pulses).getLast? =
            some ⟨⟨[[.noteOff 0 60], silence], [], .stopped⟩, [some 0, none, none]⟩)) = true
      by decide +kernel)
  obtain ⟨playable, _, computed⟩ := List.any_eq_true.mp found
  obtain ⟨playing, length, last⟩ := of_decide_eq_true computed
  have reached : (started sequence playable).Reached := .after _ (.after _ (.after _ (.rest _ _)))
  exact ⟨_, reached, playing, length, last, fun settings selection =>
    restOfPlay_eq_of_filter_eq reached rfl⟩

end Studio

end StepSequencer
