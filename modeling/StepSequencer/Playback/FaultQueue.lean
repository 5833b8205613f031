/-
This file keeps the failures of playback until somebody asks for them. The queue is bounded: a
failure is stored if there is room for it, and as long as there is none, the oldest failure gives
way to the new one.
-/

import StepSequencer.Fault

namespace StepSequencer

/-- Failures in the order in which they happened. -/
structure FaultQueue where
  capacity : Nat
  entries : List PlaybackFault

namespace FaultQueue

/-- The number of failures that an engine keeps. -/
def engineCapacity : Nat := 100

/-- An empty queue that keeps so many failures. -/
def ofCapacity (capacity : Nat) : FaultQueue := ⟨capacity, []⟩

/-- The number of failures that are kept. -/
def length (queue : FaultQueue) : Nat := queue.entries.length

/-- The queue with one more failure as the newest one, if there is room for it. -/
def store? (queue : FaultQueue) (fault : PlaybackFault) : Option FaultQueue :=
  if queue.length < queue.capacity then some { queue with entries := queue.entries ++ [fault] }
  else none

/-- Takes the oldest failure. -/
def take (queue : FaultQueue) : Option PlaybackFault × FaultQueue :=
  (queue.entries.head?, { queue with entries := queue.entries.tail })

/-- Takes all failures. -/
def drain (queue : FaultQueue) : List PlaybackFault × FaultQueue :=
  (queue.entries, { queue with entries := [] })

/-- Stores a failure behind some entries. If that fails, the oldest entry is taken away and the
failure is stored behind the others. Only where not even an empty queue has room is it never
stored. -/
def storeBehind (capacity : Nat) (fault : PlaybackFault) : List PlaybackFault → FaultQueue
  | [] => (store? ⟨capacity, []⟩ fault).getD ⟨capacity, []⟩
  | oldest :: rest =>
    match store? ⟨capacity, oldest :: rest⟩ fault with
    | some stored => stored
    | none => storeBehind capacity fault rest

/-- Adds a failure as the newest one; the oldest gives way when the queue is full. -/
def push (queue : FaultQueue) (fault : PlaybackFault) : FaultQueue :=
  storeBehind queue.capacity fault queue.entries

end FaultQueue

end StepSequencer
