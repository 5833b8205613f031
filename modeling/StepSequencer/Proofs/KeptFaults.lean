/-
This file proves that a queue of failures keeps the newest ones. To push a failure takes one attempt
to store it if there is room, and a second one if not, since the oldest failure has given way by
then. So whatever is pushed, taken and drained, the queue keeps a run of the latest failures, in the
order in which they came. A failure leaves only after all that came before it: it is handed out, or
it gives way to a failure that is pushed on a full queue.
-/

import StepSequencer.Playback.FaultQueue

namespace StepSequencer

namespace FaultQueue

/-! ### Attempts to store -/

variable {queue : FaultQueue}

theorem store?_of_lt (fault : PlaybackFault) (room : queue.length < queue.capacity) :
    queue.store? fault = some { queue with entries := queue.entries ++ [fault] } := if_pos room

theorem store?_of_le (fault : PlaybackFault) (full : queue.capacity ≤ queue.length) :
    queue.store? fault = none := if_neg (Nat.not_lt.mpr full)

theorem push_of_store? {fault : PlaybackFault} {stored : FaultQueue}
    (stores : queue.store? fault = some stored) :
    queue.push fault = stored := by
  obtain ⟨capacity, _ | ⟨oldest, rest⟩⟩ := queue
  · rw [push, storeBehind, stores, Option.getD_some]
  · rw [push, storeBehind, stores]

/-- After an attempt that fails, the oldest failure is taken away, and all begins anew. -/
theorem push_of_store?_eq_none {fault : PlaybackFault} (fails : queue.store? fault = none)
    (filled : queue.entries ≠ []) : queue.push fault = queue.take.2.push fault := by
  obtain ⟨capacity, _ | ⟨oldest, rest⟩⟩ := queue
  · exact absurd rfl filled
  · rw [push, storeBehind, fails]
    rfl

/-- Whether a queue has room for a failure at all, and does not keep more than it has room for. -/
structure Sound (queue : FaultQueue) : Prop where
  positive : 0 < queue.capacity
  bounded : queue.length ≤ queue.capacity

namespace Sound

variable (sound : queue.Sound)
include sound

/-- The second attempt to store a failure does not fail. -/
theorem store?_take (fault : PlaybackFault) (full : queue.length = queue.capacity) :
    queue.take.2.store? fault =
      some { queue with entries := queue.entries.tail ++ [fault] } := by
  refine store?_of_lt fault ?_
  have shorter : queue.take.2.length = queue.length - 1 := List.length_tail
  have positive := sound.positive
  show queue.take.2.length < queue.capacity
  omega

/-- A push ends with its first attempt or with its second one. -/
theorem store?_eq_push (fault : PlaybackFault) : queue.store? fault = some (queue.push fault) ∨
    queue.store? fault = none ∧ queue.take.2.store? fault = some (queue.push fault) := by
  rcases Nat.lt_or_eq_of_le sound.bounded with room | full
  · have stores := store?_of_lt fault room
    exact .inl (push_of_store? stores ▸ stores)
  · have fails := store?_of_le fault (Nat.le_of_eq full.symm)
    have stores := sound.store?_take fault full
    have filled : queue.entries ≠ [] := fun empty => by
      have positive := sound.positive
      rw [← full, length, empty] at positive
      exact Nat.lt_irrefl 0 positive
    rw [push_of_store?_eq_none fails filled, push_of_store? stores]
    exact .inr ⟨fails, stores⟩

theorem push_eq (fault : PlaybackFault) : queue.push fault = { queue with
    entries := (if queue.length = queue.capacity then queue.entries.tail else queue.entries) ++
      [fault] } := by
  split
  next full =>
    rcases sound.store?_eq_push fault with stores | ⟨_, stores⟩
    · exact absurd ((store?_of_le fault (Nat.le_of_eq full.symm)).symm.trans stores) nofun
    · exact Option.some.inj (stores.symm.trans (sound.store?_take fault full))
  next notFull =>
    exact push_of_store? (store?_of_lt fault (Nat.lt_of_le_of_ne sound.bounded notFull))

end Sound

/-! ### Histories -/

/-- Something that is done to a queue of failures. -/
inductive Operation where
  | push (fault : PlaybackFault)
  | take
  | drain

/-- A failure that leaves a queue. -/
inductive Departure where
  | handedOut (fault : PlaybackFault)
  /-- The failure is lost. -/
  | gaveWay (fault : PlaybackFault)

/-- The failure that leaves. -/
def Departure.fault : Departure → PlaybackFault
  | .handedOut fault | .gaveWay fault => fault

/-- The failure that an operation adds. -/
def Operation.pushed? : Operation → Option PlaybackFault
  | .push fault => some fault
  | .take | .drain => none

/-- How many failures are kept after an operation when `count` were kept before it. -/
def Operation.countAfter (capacity count : Nat) : Operation → Nat
  | .push _ => min (count + 1) capacity
  | .take => count - 1
  | .drain => 0

/-- The queue after an operation. -/
def perform (queue : FaultQueue) : Operation → FaultQueue
  | .push fault => queue.push fault
  | .take => queue.take.2
  | .drain => queue.drain.2

/-- What leaves a queue with an operation. Nothing gives way as long as the queue is not full, and
then the oldest failure does. -/
def departures (queue : FaultQueue) : Operation → List Departure
  | .push _ => if queue.length = queue.capacity then queue.entries.head?.toList.map .gaveWay else []
  | .take => queue.take.1.toList.map .handedOut
  | .drain => queue.drain.1.map .handedOut

/-- The failures that some operations add, in order. -/
def pushed (operations : List Operation) : List PlaybackFault :=
  operations.filterMap Operation.pushed?

/-- How many failures are kept after some operations when `count` were kept before them. -/
def countAfter (capacity count : Nat) (operations : List Operation) : Nat :=
  operations.foldl (fun count operation => operation.countAfter capacity count) count

/-- The queue after some operations. -/
def after (queue : FaultQueue) (operations : List Operation) : FaultQueue :=
  operations.foldl perform queue

/-- What leaves a queue with some operations, in order. -/
def allDepartures : FaultQueue → List Operation → List Departure
  | _, [] => []
  | queue, operation :: rest =>
    queue.departures operation ++ (queue.perform operation).allDepartures rest

theorem sound_ofCapacity {capacity : Nat} (positive : 0 < capacity) : (ofCapacity capacity).Sound :=
  ⟨positive, Nat.zero_le _⟩

namespace Sound

variable (sound : queue.Sound)
include sound

theorem capacity_perform (operation : Operation) :
    (queue.perform operation).capacity = queue.capacity := by
  cases operation with
  | push fault => rw [perform, sound.push_eq]
  | take | drain => rfl

theorem length_perform (operation : Operation) :
    (queue.perform operation).length = operation.countAfter queue.capacity queue.length := by
  have positive := sound.positive
  have bounded := sound.bounded
  cases operation with
  | push fault =>
    have taken : queue.entries.tail.length = queue.length - 1 := List.length_tail
    rw [perform, sound.push_eq, Operation.countAfter, length, List.length_append,
      List.length_singleton]
    split
    · omega
    · rw [← length]
      omega
  | take => exact List.length_tail
  | drain => rfl

theorem perform (operation : Operation) : (queue.perform operation).Sound := by
  have bounded := sound.bounded
  refine ⟨sound.capacity_perform operation ▸ sound.positive, ?_⟩
  rw [sound.length_perform, sound.capacity_perform]
  cases operation with
  | push fault => exact Nat.min_le_right _ _
  | take => exact Nat.le_trans (Nat.sub_le _ _) bounded
  | drain => exact Nat.zero_le _

/-- An operation adds at one end what it adds, and whatever leaves does so at the other end. -/
theorem departures_append (operation : Operation) :
    (queue.departures operation).map Departure.fault ++ (queue.perform operation).entries =
      queue.entries ++ operation.pushed?.toList := by
  cases operation with
  | push fault =>
    rw [FaultQueue.perform, sound.push_eq, departures]
    split
    · cases queue.entries <;> rfl
    · rfl
  | take =>
    obtain ⟨capacity, _ | ⟨oldest, rest⟩⟩ := queue
    · rfl
    · exact (List.append_nil _).symm
  | drain =>
    show (queue.entries.map .handedOut).map Departure.fault ++ [] = queue.entries ++ []
    rw [List.map_map]
    exact congrArg (· ++ []) (List.map_id _)

end Sound

/-! ### What is kept -/

theorem Sound.after (sound : queue.Sound) (operations : List Operation) :
    (queue.after operations).Sound ∧ (queue.after operations).capacity = queue.capacity := by
  induction operations generalizing queue with
  | nil => exact ⟨sound, rfl⟩
  | cons operation rest inductionHypothesis =>
    obtain ⟨still, capacity⟩ := inductionHypothesis (sound.perform operation)
    exact ⟨still, capacity.trans (sound.capacity_perform operation)⟩

theorem Sound.length_after (sound : queue.Sound) (operations : List Operation) :
    (queue.after operations).length = countAfter queue.capacity queue.length operations := by
  induction operations generalizing queue with
  | nil => rfl
  | cons operation rest inductionHypothesis =>
    refine (inductionHypothesis (sound.perform operation)).trans ?_
    rw [sound.capacity_perform, sound.length_perform]
    rfl

theorem Sound.allDepartures_append (sound : queue.Sound) (operations : List Operation) :
    (queue.allDepartures operations).map Departure.fault ++ (queue.after operations).entries =
      queue.entries ++ pushed operations := by
  induction operations generalizing queue with
  | nil => exact (List.append_nil _).symm
  | cons operation rest inductionHypothesis =>
    have behind := inductionHypothesis (sound.perform operation)
    have first := sound.departures_append operation
    calc ((queue.departures operation ++ (queue.perform operation).allDepartures rest).map
          Departure.fault) ++ ((queue.perform operation).after rest).entries
        = (queue.departures operation).map Departure.fault ++
            ((queue.perform operation).entries ++ pushed rest) := by
          rw [List.map_append, List.append_assoc, behind]
      _ = queue.entries ++ (operation.pushed?.toList ++ pushed rest) := by
          rw [← List.append_assoc, first, List.append_assoc]
      _ = queue.entries ++ pushed (operation :: rest) := by
          cases operation <;> rfl

/-- What a queue keeps after some operations, and how it takes one more failure. -/
structure KeepsNewest (queue : FaultQueue) (operations : List Operation) : Prop where
  bounded : (queue.after operations).length ≤ queue.capacity
  length : (queue.after operations).length = countAfter queue.capacity 0 operations
  /-- The entries are the last failures that were pushed, in the order in which they were. -/
  newest : (queue.after operations).entries =
    (pushed operations).drop ((pushed operations).length - countAfter queue.capacity 0 operations)
  /-- A push ends with its first attempt to store, or with the second one. -/
  ends : ∀ fault, (queue.after operations).store? fault =
      some ((queue.after operations).push fault) ∨
    (queue.after operations).store? fault = none ∧
      (queue.after operations).take.2.store? fault = some ((queue.after operations).push fault)
  /-- The oldest failure gives way to a new one if the queue is full, and no failure if not. -/
  pushes : ∀ fault, ((queue.after operations).push fault).entries =
    (if (queue.after operations).length = queue.capacity then (queue.after operations).entries.tail
      else (queue.after operations).entries) ++ [fault]
  /-- Failures leave in the order in which they came, and those that stay came last. -/
  inOrder : (queue.allDepartures operations).map Departure.fault ++
    (queue.after operations).entries = pushed operations

/-- A queue with room for a failure keeps the newest ones, whatever is done to it. -/
theorem keepsNewest {capacity : Nat} (positive : 0 < capacity) (operations : List Operation) :
    (ofCapacity capacity).KeepsNewest operations := by
  have sound := sound_ofCapacity positive
  obtain ⟨still, same⟩ := sound.after operations
  have inOrder := sound.allDepartures_append operations
  have length : _ = countAfter capacity 0 operations := sound.length_after operations
  have suffix : ((ofCapacity capacity).after operations).entries <:+ pushed operations :=
    ⟨_, inOrder⟩
  constructor
  case bounded => exact same ▸ still.bounded
  case length => exact length
  case newest =>
    rw [List.suffix_iff_eq_drop, ← FaultQueue.length, length] at suffix
    exact suffix
  case ends => exact still.store?_eq_push
  case pushes =>
    intro fault
    rw [still.push_eq, same]
  case inOrder => exact inOrder

/-- Of three failures a queue with room for two keeps the last two; the oldest of them is handed out
before a fourth one is pushed. -/
theorem keepsNewest_crashes :
    0 < 2 ∧ (ofCapacity 2).KeepsNewest
      [.push (.crash "a"), .push (.crash "b"), .push (.crash "c"), .take, .push (.crash "d")] ∧
    ((ofCapacity 2).after
      [.push (.crash "a"), .push (.crash "b"), .push (.crash "c"), .take,
        .push (.crash "d")]).entries = [.crash "c", .crash "d"] ∧
    (ofCapacity 2).allDepartures
      [.push (.crash "a"), .push (.crash "b"), .push (.crash "c"), .take, .push (.crash "d")] =
        [.gaveWay (.crash "a"), .handedOut (.crash "b")] :=
  ⟨by decide, keepsNewest (by decide) _, rfl, rfl⟩

end FaultQueue

end StepSequencer
