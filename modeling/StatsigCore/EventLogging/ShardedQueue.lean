-- The pending shards of the event queue, one atomic step at a time. Any number of
-- adds and of drains run at once, and a step of one of them may come between any two
-- steps of another. The lock of a shard holds what its owner has done so far. An
-- add waits for its lock with the shard index that it drew. A drain takes the locks
-- in index order and gives them back in that order.
import Mathlib.Logic.Function.Basic
import Mathlib.Algebra.BigOperators.Fin
import StatsigCore.EventLogging.EventLogger

open Function

namespace statsig_rust.event_logging

/-- The lock of a shard. All the states but `free` and `drain` belong to an add, each
named after its last step. -/
inductive Guard (Q D : Type) where
  | free
  | locked (pending_event : Q)
  | stamped (seq : Nat) (pending_event : Q)
  | pushed
  | counted (total : Int)
  | popped (oldest : SequencedEvent Q)
  | leaving (result : QueueAddResult) (dropped : Option (SequencedEvent Q))
  | drain (drainer : D)
deriving DecidableEq

/-- How far a drain has come: the number of locks that it took, the buffers that it
took once it had all of them, and the number of locks that it gave back. -/
inductive Drain (shard_count : Nat) (Q : Type) where
  | idle
  | collecting (taken : Nat)
  | taken (buffers : Fin shard_count → List (SequencedEvent Q))
  | releasing (released : Nat) (buffers : Fin shard_count → List (SequencedEvent Q))

/-- The shared state of the adds and the drains, and a record of what happened.
`D` names the drains. The counters do not wrap: the count of pending events is an
integer, so that a count below zero would show. -/
structure ShardedQueue (shard_count : Nat) (Q D : Type) where
  batch_size : Nat
  max_pending_events : Nat
  pending_shards : Fin shard_count → List (SequencedEvent Q) := fun _ => []
  guards : Fin shard_count → Guard Q D := fun _ => .free
  drains : D → Drain shard_count Q := fun _ => .idle
  /-- The adds that drew a shard index and do not have the lock yet. -/
  waiting : List (Fin shard_count × Q) := []
  pending_count : Int := 0
  next_shard : Nat := 0
  next_seq : Nat := 0
  /-- The events of all adds so far. -/
  begun : List Q := []
  /-- The events that were pushed. -/
  added : List (SequencedEvent Q) := []
  /-- What the drains returned. -/
  outputs : List (List (SequencedEvent Q)) := []
  /-- What the adds returned. -/
  results : List QueueAddResult := []
  /-- The events that were evicted by the adds that returned. -/
  reported : List (SequencedEvent Q) := []

inductive ShardAction (shard_count : Nat) (Q D : Type) where
  | begin_add (pending_event : Q)
  | lock (add : Nat)
  | advance (shard : Fin shard_count)
  | begin_drain (drainer : D)
  | drain (drainer : D)

namespace ShardedQueue

variable {shard_count : Nat} {Q D : Type}

/-- The owner of a lock changes its shard and moves on. -/
def hold (queue : ShardedQueue shard_count Q D) (shard : Fin shard_count)
    (events : List (SequencedEvent Q)) (guard : Guard Q D) : ShardedQueue shard_count Q D :=
  { queue with
    pending_shards := update queue.pending_shards shard events
    guards := update queue.guards shard guard }

/-- An owner that leaves the shard as it is only moves on. -/
theorem hold_same (queue : ShardedQueue shard_count Q D) (shard : Fin shard_count)
    (guard : Guard Q D) : queue.hold shard (queue.pending_shards shard) guard =
      { queue with guards := update queue.guards shard guard } := by
  unfold hold
  rw [update_eq_self]

/-- The next step of the add that owns the lock of a shard. -/
def advance (queue : ShardedQueue shard_count Q D) (shard : Fin shard_count) :
    Option (ShardedQueue shard_count Q D) :=
  let events := queue.pending_shards shard
  match queue.guards shard with
  | .free | .drain _ => none
  | .locked pending_event => some
    { queue.hold shard events (.stamped queue.next_seq pending_event) with
      next_seq := queue.next_seq + 1 }
  | .stamped seq pending_event => some
    { queue.hold shard (events ++ [(seq, pending_event)]) .pushed with
      added := queue.added ++ [(seq, pending_event)] }
  | .pushed => some
    { queue.hold shard events (.counted (queue.pending_count + 1)) with
      pending_count := queue.pending_count + 1 }
  | .counted total =>
    match events with
    | oldest :: next :: rest =>
      if total > queue.max_pending_events then
        some (queue.hold shard (next :: rest) (.popped oldest))
      else some (queue.hold shard events (.leaving
        (if total % queue.batch_size = 0 then .NeedsFlush else .Noop) none))
    | _ => some (queue.hold shard events (.leaving
        (if total % queue.batch_size = 0 then .NeedsFlush else .Noop) none))
  | .popped oldest => some
    { queue.hold shard events (.leaving (.NeedsFlushAndDropped 1) (some oldest)) with
      pending_count := queue.pending_count - 1 }
  | .leaving result dropped => some
    { queue.hold shard events .free with
      results := queue.results ++ [result]
      reported := queue.reported ++ dropped.toList }

/-- The number of events in the buffers of a drain. -/
def drained_count (buffers : Fin shard_count → List (SequencedEvent Q)) : Nat :=
  ∑ shard, (buffers shard).length

/-- The buffers of a drain, sorted by sequence number. -/
def sorted (buffers : Fin shard_count → List (SequencedEvent Q)) : List (SequencedEvent Q) :=
  (List.ofFn buffers).flatten.insertionSort fun a b => a.1 ≤ b.1

variable [DecidableEq D]

def set_drain (queue : ShardedQueue shard_count Q D) (drainer : D) (phase : Drain shard_count Q) :
    ShardedQueue shard_count Q D :=
  { queue with drains := update queue.drains drainer phase }

/-- A drain takes the lock of a shard, if it is free. -/
def collect (queue : ShardedQueue shard_count Q D) (drainer : D) (shard : Fin shard_count) :
    Option (ShardedQueue shard_count Q D) :=
  match queue.guards shard with
  | .free => some ((queue.hold shard (queue.pending_shards shard) (.drain drainer)).set_drain drainer
      (.collecting (shard + 1)))
  | _ => none

/-- A drain gives back the lock of a shard. With the last one it returns. -/
def release (queue : ShardedQueue shard_count Q D) (drainer : D) (shard : Fin shard_count)
    (buffers : Fin shard_count → List (SequencedEvent Q)) : ShardedQueue shard_count Q D :=
  let queue := queue.hold shard (queue.pending_shards shard) .free
  if shard + 1 = shard_count then
    { queue.set_drain drainer .idle with outputs := queue.outputs ++ [sorted buffers] }
  else queue.set_drain drainer (.releasing (shard + 1) buffers)

/-- The next step of a drain. -/
def drain (queue : ShardedQueue shard_count Q D) (drainer : D) :
    Option (ShardedQueue shard_count Q D) :=
  match queue.drains drainer with
  | .idle => none
  | .collecting taken =>
    if h : taken < shard_count then queue.collect drainer ⟨taken, h⟩
    else some { queue.set_drain drainer (.taken queue.pending_shards) with
      pending_shards := fun _ => [] }
  | .taken buffers => some { queue.set_drain drainer (.releasing 0 buffers) with
      pending_count := queue.pending_count - drained_count buffers }
  | .releasing released buffers =>
    if h : released < shard_count then some (queue.release drainer ⟨released, h⟩ buffers) else none

variable [NeZero shard_count]

/-- One atomic step. `none` for a step that has to wait, or that does not exist. -/
def step (queue : ShardedQueue shard_count Q D) :
    ShardAction shard_count Q D → Option (ShardedQueue shard_count Q D)
  | .begin_add pending_event => some { queue with
      next_shard := queue.next_shard + 1
      waiting := queue.waiting ++ [(Fin.ofNat shard_count queue.next_shard, pending_event)]
      begun := queue.begun ++ [pending_event] }
  | .lock add =>
    match queue.waiting[add]? with
    | none => none
    | some (shard, pending_event) =>
      match queue.guards shard with
      | .free => some { queue.hold shard (queue.pending_shards shard) (.locked pending_event) with
          waiting := queue.waiting.eraseIdx add }
      | _ => none
  | .advance shard => queue.advance shard
  | .begin_drain drainer =>
    match queue.drains drainer with
    | .idle => some (queue.set_drain drainer (.collecting 0))
    | _ => none
  | .drain drainer => queue.drain drainer

end ShardedQueue

instance (max_pending_events : Nat) : NeZero (EventQueue.shard_count max_pending_events) :=
  ⟨Nat.one_le_iff_ne_zero.mp (Nat.le_max_right _ _)⟩

def ShardedQueue.new {Q D : Type} (batch_size max_queue_size : Nat) :
    ShardedQueue (EventQueue.shard_count (batch_size * max_queue_size)) Q D where
  batch_size
  max_pending_events := batch_size * max_queue_size

/-! ## What one step can do -/

section Steps

variable {shard_count : Nat} {Q D : Type} {queue after : ShardedQueue shard_count Q D}

/-- The steps of an add. -/
inductive AddStep [NeZero shard_count] (queue : ShardedQueue shard_count Q D) :
    ShardAction shard_count Q D → ShardedQueue shard_count Q D → Prop
  | begin_add (pending_event : Q) : AddStep queue (.begin_add pending_event) { queue with
      next_shard := queue.next_shard + 1
      waiting := queue.waiting ++ [(Fin.ofNat shard_count queue.next_shard, pending_event)]
      begun := queue.begun ++ [pending_event] }
  | lock {add : Nat} {shard : Fin shard_count} {pending_event : Q}
      (hwait : queue.waiting[add]? = some (shard, pending_event))
      (hguard : queue.guards shard = .free) : AddStep queue (.lock add)
        { queue.hold shard (queue.pending_shards shard) (.locked pending_event) with
          waiting := queue.waiting.eraseIdx add }
  | stamp {shard : Fin shard_count} {pending_event : Q}
      (hguard : queue.guards shard = .locked pending_event) : AddStep queue (.advance shard)
        { queue.hold shard (queue.pending_shards shard)
            (.stamped queue.next_seq pending_event) with
          next_seq := queue.next_seq + 1 }
  | push {shard : Fin shard_count} {seq : Nat} {pending_event : Q}
      (hguard : queue.guards shard = .stamped seq pending_event) : AddStep queue (.advance shard)
        { queue.hold shard (queue.pending_shards shard ++ [(seq, pending_event)]) .pushed with
          added := queue.added ++ [(seq, pending_event)] }
  | count {shard : Fin shard_count} (hguard : queue.guards shard = .pushed) :
      AddStep queue (.advance shard)
        { queue.hold shard (queue.pending_shards shard) (.counted (queue.pending_count + 1)) with
          pending_count := queue.pending_count + 1 }
  | pop {shard : Fin shard_count} {total : Int} {oldest : SequencedEvent Q}
      {rest : List (SequencedEvent Q)} (hguard : queue.guards shard = .counted total)
      (hevents : queue.pending_shards shard = oldest :: rest) (hrest : rest ≠ [])
      (hfull : total > queue.max_pending_events) :
      AddStep queue (.advance shard) (queue.hold shard rest (.popped oldest))
  | pass {shard : Fin shard_count} {total : Int} {result : QueueAddResult}
      (hguard : queue.guards shard = .counted total)
      (hroom : total > queue.max_pending_events → (queue.pending_shards shard).length ≤ 1)
      (hresult : result.dropped = 0) : AddStep queue (.advance shard)
        (queue.hold shard (queue.pending_shards shard) (.leaving result none))
  | lower {shard : Fin shard_count} {oldest : SequencedEvent Q}
      (hguard : queue.guards shard = .popped oldest) : AddStep queue (.advance shard)
        { queue.hold shard (queue.pending_shards shard)
            (.leaving (.NeedsFlushAndDropped 1) (some oldest)) with
          pending_count := queue.pending_count - 1 }
  | leave {shard : Fin shard_count} {result : QueueAddResult} {dropped : Option (SequencedEvent Q)}
      (hguard : queue.guards shard = .leaving result dropped) : AddStep queue (.advance shard)
        { queue.hold shard (queue.pending_shards shard) .free with
          results := queue.results ++ [result]
          reported := queue.reported ++ dropped.toList }

theorem flush_signal_drops_nothing (total : Int) (batch_size : Nat) :
    (if total % batch_size = 0 then QueueAddResult.NeedsFlush else .Noop).dropped = 0 := by
  split <;> rfl

theorem advance_cases [NeZero shard_count] {shard : Fin shard_count}
    (h : queue.advance shard = some after) : AddStep queue (.advance shard) after := by
  unfold ShardedQueue.advance at h
  cases hguard : queue.guards shard with
  | free | drain =>
    rw [hguard] at h
    cases h
  | locked | stamped | pushed | popped | leaving =>
    rw [hguard] at h
    cases h
    constructor
    exact hguard
  | counted total =>
    rw [hguard] at h
    have hpass {result} (hresult : result.dropped = 0)
        (hroom : total > queue.max_pending_events → (queue.pending_shards shard).length ≤ 1) :
        AddStep queue (.advance shard)
          (queue.hold shard (queue.pending_shards shard) (.leaving result none)) :=
      .pass hguard hroom hresult
    dsimp only at h
    split at h
    next oldest next rest hevents =>
      split at h
      next hfull =>
        cases h
        exact .pop hguard hevents (List.cons_ne_nil _ _) hfull
      next hroom =>
        cases h
        exact hpass (flush_signal_drops_nothing _ _) fun hfull => absurd hfull hroom
    next hshort =>
      cases h
      refine hpass (flush_signal_drops_nothing _ _) fun _ => ?_
      match hevents : queue.pending_shards shard with
      | [] => exact Nat.zero_le 1
      | [_] => exact Nat.le_refl 1
      | oldest :: next :: rest => exact absurd hevents (hshort oldest next rest)

variable [DecidableEq D]

/-- The steps of a drain. -/
inductive DrainStep (queue : ShardedQueue shard_count Q D) : ShardedQueue shard_count Q D → Prop
  | begin_drain {drainer : D} (hdrain : queue.drains drainer = .idle) :
      DrainStep queue (queue.set_drain drainer (.collecting 0))
  | collect {drainer : D} {shard : Fin shard_count} (hdrain : queue.drains drainer = .collecting shard)
      (hguard : queue.guards shard = .free) :
      DrainStep queue ((queue.hold shard (queue.pending_shards shard) (.drain drainer)).set_drain
        drainer (.collecting (shard + 1)))
  | take {drainer : D} {taken : Nat} (hdrain : queue.drains drainer = .collecting taken)
      (hall : shard_count ≤ taken) :
      DrainStep queue { queue.set_drain drainer (.taken queue.pending_shards) with
        pending_shards := fun _ => [] }
  | lower {drainer : D} {buffers : Fin shard_count → List (SequencedEvent Q)}
      (hdrain : queue.drains drainer = .taken buffers) :
      DrainStep queue { queue.set_drain drainer (.releasing 0 buffers) with
        pending_count := queue.pending_count - ShardedQueue.drained_count buffers }
  | release {drainer : D} {shard : Fin shard_count}
      {buffers : Fin shard_count → List (SequencedEvent Q)}
      (hdrain : queue.drains drainer = .releasing shard buffers) (hmore : shard + 1 < shard_count) :
      DrainStep queue ((queue.hold shard (queue.pending_shards shard) .free).set_drain drainer
        (.releasing (shard + 1) buffers))
  | finish {drainer : D} {shard : Fin shard_count}
      {buffers : Fin shard_count → List (SequencedEvent Q)}
      (hdrain : queue.drains drainer = .releasing shard buffers) (hlast : shard + 1 = shard_count) :
      DrainStep queue
        { (queue.hold shard (queue.pending_shards shard) .free).set_drain drainer .idle with
          outputs := queue.outputs ++ [ShardedQueue.sorted buffers] }

theorem drain_cases {drainer : D} (h : queue.drain drainer = some after) :
    DrainStep queue after := by
  unfold ShardedQueue.drain at h
  cases hdrain : queue.drains drainer with
  | idle =>
    rw [hdrain] at h
    cases h
  | collecting taken =>
    rw [hdrain] at h
    dsimp only at h
    split at h
    next hless =>
      unfold ShardedQueue.collect at h
      cases hguard : queue.guards ⟨taken, hless⟩ with
      | free =>
        rw [hguard] at h
        cases h
        exact .collect hdrain hguard
      | _ =>
        rw [hguard] at h
        cases h
    next hall =>
      cases h
      exact .take hdrain (Nat.le_of_not_lt hall)
  | taken buffers =>
    rw [hdrain] at h
    cases h
    exact .lower hdrain
  | releasing released buffers =>
    rw [hdrain] at h
    dsimp only at h
    split at h
    next hless =>
      cases h
      unfold ShardedQueue.release
      dsimp only
      split
      next hlast => exact .finish hdrain hlast
      next hmore => exact .release hdrain (by dsimp only; omega)
    next => cases h

/-- A step is one of an add or one of a drain. -/
theorem step_cases [NeZero shard_count] {action : ShardAction shard_count Q D}
    (h : queue.step action = some after) : AddStep queue action after ∨ DrainStep queue after := by
  cases action with
  | begin_add pending_event =>
    cases h
    exact .inl (.begin_add pending_event)
  | lock add =>
    simp only [ShardedQueue.step] at h
    split at h
    next => cases h
    next shard pending_event hwait =>
      split at h
      next hguard =>
        cases h
        exact .inl (.lock hwait hguard)
      next => cases h
  | advance shard => exact .inl (advance_cases h)
  | begin_drain drainer =>
    simp only [ShardedQueue.step] at h
    split at h
    next hdrain =>
      cases h
      exact .inr (.begin_drain hdrain)
    next => cases h
  | drain drainer => exact .inr (drain_cases h)

end Steps

end statsig_rust.event_logging
