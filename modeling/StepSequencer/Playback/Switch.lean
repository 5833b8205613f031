/-
This file holds two switches of playback: the state, which only one of several starters can turn to
playing, and the token that tells everybody who works for a play that it is cancelled.
-/

import StepSequencer.Playback.Signal

namespace StepSequencer

/-- Whether music is running. -/
inductive PlayState where
  | stopped
  | playing
deriving DecidableEq

/-- A state as it is shown. -/
def PlayState.text : PlayState → String
  | .stopped => "stopped"
  | .playing => "playing"

/-- Whether a start is accepted; only a stopped state accepts one. -/
def PlayState.acceptsPlay (state : PlayState) : Bool := state == .stopped

/-- The state after a start, accepted or not. -/
def PlayState.play (_state : PlayState) : PlayState := .playing

/-- The state after a stop. -/
def PlayState.stop (_state : PlayState) : PlayState := .stopped

/-- A switch that is turned once and stays. -/
structure CancelToken where
  cancelled : Bool
deriving DecidableEq

/-- A token that nobody has cancelled. -/
def CancelToken.fresh : CancelToken := ⟨false⟩

/-- Cancels a token; to do it twice is to do it once. -/
def CancelToken.cancel (_token : CancelToken) : CancelToken := ⟨true⟩

/-- What those who wait on the token find: no signal ever comes, but a cancelled token is
disconnected. -/
def CancelToken.receipt (token : CancelToken) : Receipt :=
  if token.cancelled then .disconnected else .empty

end StepSequencer
