-- The event queue (`event_logging/event_queue/queue.rs` and `batch.rs`), one
-- operation at a time. A lock that an operation waits for is an argument: `true`
-- when it was taken in time. The counters of the source are machine words. No
-- queue counts to the end of a 64-bit word, so they are natural numbers here.
import Mathlib.Data.List.Sort

namespace statsig_rust.event_logging

def PENDING_SHARD_COUNT : Nat := 16

/-- `attempts` is a `u8`, and it wraps in a release build. -/
structure EventBatch (E : Type) where
  attempts : UInt8
  events : List E

def EventBatch.new {E : Type} (events : List E) : EventBatch E := { attempts := 0, events }

inductive QueueAddResult where
  | Noop
  | NeedsFlush
  | NeedsFlushAndDropped (count : Nat)
deriving DecidableEq

inductive QueueReconcileResult where
  | Success
  | DroppedEvents (count : Nat)
  | LockFailure
deriving DecidableEq

/-- A pending event and the sequence number that it got when it was added. -/
abbrev SequencedEvent (Q : Type) := Nat × Q

/-- `Q` is the type of the events as they are added, `E` that of the events as
they are sent. -/
structure EventQueue (Q E : Type) where
  batch_size : Nat
  max_pending_batches : Nat
  pending_shards : List (List (SequencedEvent Q))
  pending_count : Nat
  next_shard : Nat
  next_seq : Nat
  batches : List (EventBatch E)
  max_pending_events : Nat
  has_shard : 0 < pending_shards.length

namespace EventQueue

variable {Q E : Type}

/-- There are never more shards than pending events may be held. -/
def shard_count (max_pending_events : Nat) : Nat :=
  max (min PENDING_SHARD_COUNT max_pending_events) 1

def new (batch_size max_queue_size : Nat) : EventQueue Q E where
  batch_size := batch_size
  max_pending_batches := max_queue_size
  pending_shards := List.replicate (shard_count (batch_size * max_queue_size)) []
  pending_count := 0
  next_shard := 0
  next_seq := 0
  batches := []
  max_pending_events := batch_size * max_queue_size
  has_shard := by
    rw [List.length_replicate]
    exact Nat.le_max_right _ _

/-- The shard at an index takes the place of the one that was there. -/
def set_shard (queue : EventQueue Q E) (idx : Nat) (shard : List (SequencedEvent Q)) :
    EventQueue Q E :=
  { queue with
    pending_shards := queue.pending_shards.set idx shard
    has_shard := by
      rw [List.length_set]
      exact queue.has_shard }

def add (queue : EventQueue Q E) (locked : Bool) (pending_event : Q) :
    QueueAddResult × EventQueue Q E :=
  let shard_idx := queue.next_shard % queue.pending_shards.length
  let queue := { queue with next_shard := queue.next_shard + 1 }
  if !locked then (.Noop, queue)
  else
    let shard := queue.pending_shards.getD shard_idx [] ++ [(queue.next_seq, pending_event)]
    let total := queue.pending_count + 1
    let queue := { queue with next_seq := queue.next_seq + 1, pending_count := total }
    -- the event that was just pushed is at the back, so it is not the one that goes
    if total > queue.max_pending_events ∧ shard.length > 1 then
      (.NeedsFlushAndDropped 1,
        { queue.set_shard shard_idx shard.tail with pending_count := total - 1 })
    else if total % queue.batch_size = 0 then (.NeedsFlush, queue.set_shard shard_idx shard)
    else (.Noop, queue.set_shard shard_idx shard)

/-- The shard that an add locks, with its event at the back. -/
def pushed_shard (queue : EventQueue Q E) (pending_event : Q) : List (SequencedEvent Q) :=
  queue.pending_shards.getD (queue.next_shard % queue.pending_shards.length) [] ++
    [(queue.next_seq, pending_event)]

/-- The queue after an add that leaves a shard and a count behind. -/
def after_add (queue : EventQueue Q E) (shard : List (SequencedEvent Q)) (pending_count : Nat) :
    EventQueue Q E :=
  { queue.set_shard (queue.next_shard % queue.pending_shards.length) shard with
    pending_count
    next_shard := queue.next_shard + 1
    next_seq := queue.next_seq + 1 }

/-- All that an add with its lock does: it pushes its event, and pops the oldest of
two events at least when the queue is over its limit. -/
theorem add_cases (queue : EventQueue Q E) (pending_event : Q) :
    (queue.max_pending_events < queue.pending_count + 1 ∧
      ∃ oldest rest, queue.pushed_shard pending_event = oldest :: rest ∧ rest ≠ [] ∧
        queue.add true pending_event =
          (.NeedsFlushAndDropped 1, queue.after_add rest queue.pending_count)) ∨
    ((queue.max_pending_events < queue.pending_count + 1 →
        (queue.pushed_shard pending_event).length = 1) ∧
      ∃ result, (result = .Noop ∨ result = .NeedsFlush) ∧
        queue.add true pending_event = (result,
          queue.after_add (queue.pushed_shard pending_event) (queue.pending_count + 1))) := by
  have hpos : 0 < (queue.pushed_shard pending_event).length := by
    unfold pushed_shard
    rw [List.length_append]
    exact Nat.succ_pos _
  by_cases hfull : queue.max_pending_events < queue.pending_count + 1 ∧
      1 < (queue.pushed_shard pending_event).length
  · left
    obtain ⟨oldest, rest, hshard⟩ := List.exists_cons_of_length_pos hpos
    refine ⟨hfull.1, oldest, rest, hshard, ?_, ?_⟩
    · rintro rfl
      rw [hshard] at hfull
      exact absurd hfull.2 (Nat.lt_irrefl 1)
    · have htail : (queue.pushed_shard pending_event).tail = rest := by rw [hshard]; rfl
      rw [← htail]
      exact if_pos hfull
  · right
    refine ⟨fun hlimit => by omega, ?_⟩
    by_cases hflush : (queue.pending_count + 1) % queue.batch_size = 0
    · exact ⟨.NeedsFlush, .inr rfl, (if_neg hfull).trans (if_pos hflush)⟩
    · exact ⟨.Noop, .inl rfl, (if_neg hfull).trans (if_neg hflush)⟩

def requeue_batch (queue : EventQueue Q E) (locked : Bool) (batch : EventBatch E) :
    QueueReconcileResult × EventQueue Q E :=
  if !locked then (.DroppedEvents batch.events.length, queue)
  else if queue.batches.length > queue.max_pending_batches then
    (.DroppedEvents batch.events.length, queue)
  else (.Success, { queue with batches := queue.batches ++ [batch] })

/-- The batch goes to the back, unless there are more batches than allowed. -/
theorem requeue_cases (queue : EventQueue Q E) (batch : EventBatch E) :
    (queue.max_pending_batches < queue.batches.length ∧
      queue.requeue_batch true batch = (.DroppedEvents batch.events.length, queue)) ∨
    (queue.batches.length ≤ queue.max_pending_batches ∧
      queue.requeue_batch true batch =
        (.Success, { queue with batches := queue.batches ++ [batch] })) := by
  by_cases hfull : queue.max_pending_batches < queue.batches.length
  · exact .inl ⟨hfull, if_pos hfull⟩
  · exact .inr ⟨Nat.le_of_not_lt hfull, if_neg hfull⟩

def take_all_batches (queue : EventQueue Q E) (locked : Bool) :
    List (EventBatch E) × EventQueue Q E :=
  if !locked then ([], queue) else (queue.batches, { queue with batches := [] })

def take_next_batch (queue : EventQueue Q E) (locked : Bool) :
    Option (EventBatch E) × EventQueue Q E :=
  if !locked then (none, queue)
  else
    match queue.batches with
    | [] => (none, queue)
    | batch :: batches => (some batch, { queue with batches })

theorem take_next_batch_eq_some {queue queue' : EventQueue Q E} {batch : EventBatch E}
    (h : queue.take_next_batch true = (some batch, queue')) :
    ∃ rest, queue.batches = batch :: rest ∧ queue' = { queue with batches := rest } := by
  unfold take_next_batch at h
  simp only [Bool.not_true, Bool.false_eq_true, ↓reduceIte] at h
  split at h
  · cases h
  · rename_i first rest hbatches
    cases h
    exact ⟨rest, hbatches, rfl⟩

/-- `locked i` tells whether the lock of shard `i` was taken. Only with all of them
are the shards emptied. The sequence numbers are distinct, so every sort by them
gives the same list. -/
def take_all_pending_events (queue : EventQueue Q E) (locked : Nat → Bool) :
    List Q × EventQueue Q E :=
  if (List.range queue.pending_shards.length).all locked then
    let all := queue.pending_shards.flatten
    ((all.insertionSort fun a b => a.1 ≤ b.1).map Prod.snd,
      { queue with
        pending_shards := queue.pending_shards.map fun _ => []
        pending_count := queue.pending_count - all.length
        has_shard := by
          rw [List.length_map]
          exact queue.has_shard })
  else ([], queue)

/-- The pending events in the order of their sequence numbers. -/
def pending_in_order (queue : EventQueue Q E) : List Q :=
  (queue.pending_shards.flatten.insertionSort fun a b => a.1 ≤ b.1).map Prod.snd

/-- The queue once its pending events are taken. -/
def drained (queue : EventQueue Q E) : EventQueue Q E :=
  { queue with
    pending_shards := queue.pending_shards.map fun _ => []
    pending_count := queue.pending_count - queue.pending_shards.flatten.length
    has_shard := by
      rw [List.length_map]
      exact queue.has_shard }

theorem take_all_pending_events_locked (queue : EventQueue Q E) :
    queue.take_all_pending_events (fun _ => true) = (queue.pending_in_order, queue.drained) := by
  unfold take_all_pending_events
  rw [if_pos (List.all_eq_true.mpr fun _ _ => rfl)]
  rfl

/-- The loop of `create_batches`. Each turn takes one batch off the front, and
`turns` bounds the number of turns. -/
def create_batches_in (batch_size : Nat) : Nat → List E → Option (List (EventBatch E))
  | _, [] => some []
  | 0, _ :: _ => none
  | turns + 1, event :: events =>
    let drain_count := min batch_size (event :: events).length
    (create_batches_in batch_size turns ((event :: events).drop drain_count)).map fun batches =>
      EventBatch.new ((event :: events).take drain_count) :: batches

/-- A turn takes an event at least, unless the batch size is 0. Then the loop does
not end, and `none` stands for that. -/
def create_batches (queue : EventQueue Q E) (pending_events : List E) :
    Option (List (EventBatch E)) :=
  create_batches_in queue.batch_size pending_events.length pending_events

/-- The oldest batches go until the others fit, and their events are counted. -/
def clamp_batches (max_pending_batches : Nat) :
    List (EventBatch E) → Nat × List (EventBatch E)
  | [] => (0, [])
  | batch :: batches =>
    if (batch :: batches).length > max_pending_batches then
      let (dropped_events_count, kept) := clamp_batches max_pending_batches batches
      (batch.events.length + dropped_events_count, kept)
    else (0, batch :: batches)

/-- A batch that is not full is broken up, and its events follow the pending ones
into new batches. `none` when `create_batches` does not end. -/
def reconcile_batching (queue : EventQueue Q E) (into_statsig_event_internal : Q → E)
    (shards_locked : Nat → Bool) (batches_locked : Bool) :
    Option (QueueReconcileResult × EventQueue Q E) :=
  let (taken, queue) := queue.take_all_pending_events shards_locked
  let pending_events := taken.map into_statsig_event_internal
  if pending_events.isEmpty then some (.Success, queue)
  else if !batches_locked then some (.LockFailure, queue)
  else
    let (full_batches, partial_batches) :=
      queue.batches.partition fun batch => decide (queue.batch_size ≤ batch.events.length)
    (queue.create_batches (pending_events ++ partial_batches.flatMap EventBatch.events)).map
      fun new_batches =>
        let (dropped_events_count, batches) :=
          clamp_batches queue.max_pending_batches (full_batches ++ new_batches)
        (if dropped_events_count > 0 then .DroppedEvents dropped_events_count else .Success,
          { queue with batches })

/-- The batches that `reconcile_batching` leaves as they are. -/
def full_batches (queue : EventQueue Q E) : List (EventBatch E) :=
  queue.batches.filter fun batch => decide (queue.batch_size ≤ batch.events.length)

/-- The batches that `reconcile_batching` breaks up. -/
def partial_batches (queue : EventQueue Q E) : List (EventBatch E) :=
  queue.batches.filter fun batch => !decide (queue.batch_size ≤ batch.events.length)

/-- All that a reconciliation with its locks does. -/
theorem reconcile_cases {conv : Q → E} {queue queue' : EventQueue Q E}
    {result : QueueReconcileResult}
    (h : queue.reconcile_batching conv (fun _ => true) true = some (result, queue')) :
    (queue.pending_in_order = [] ∧ result = .Success ∧ queue' = queue.drained) ∨
    ∃ new_batches, queue.pending_in_order ≠ [] ∧
      queue.create_batches (queue.pending_in_order.map conv ++
        queue.partial_batches.flatMap EventBatch.events) = some new_batches ∧
      result = (if (clamp_batches queue.max_pending_batches
          (queue.full_batches ++ new_batches)).1 > 0 then
        .DroppedEvents (clamp_batches queue.max_pending_batches
          (queue.full_batches ++ new_batches)).1 else .Success) ∧
      queue' = { queue.drained with
        batches := (clamp_batches queue.max_pending_batches
          (queue.full_batches ++ new_batches)).2 } := by
  unfold reconcile_batching at h
  rw [take_all_pending_events_locked] at h
  simp only [List.partition_eq_filter_filter, Bool.not_true, Bool.false_eq_true, ↓reduceIte] at h
  by_cases hempty : queue.pending_in_order = []
  · left
    simp only [hempty, List.map_nil, List.isEmpty_nil, ↓reduceIte, Option.some.injEq,
      Prod.mk.injEq] at h
    exact ⟨hempty, h.1.symm, h.2.symm⟩
  · right
    rw [if_neg (by simpa using hempty)] at h
    obtain ⟨new_batches, hnew, hresult⟩ := Option.map_eq_some_iff.mp h
    cases hresult
    exact ⟨new_batches, hempty, hnew, rfl, rfl⟩

/-- A lock that is not taken in time changes little: the shards are left as they are,
or their events are gone. -/
theorem reconcile_locks {conv : Q → E} {queue queue' : EventQueue Q E}
    {shards_locked : Nat → Bool} {batches_locked : Bool} {result : QueueReconcileResult}
    (h : queue.reconcile_batching conv shards_locked batches_locked = some (result, queue')) :
    (result = .Success ∧ queue' = queue) ∨
    (batches_locked = false ∧ result = .LockFailure ∧ queue' = queue.drained) ∨
    queue.reconcile_batching conv (fun _ => true) true = some (result, queue') := by
  unfold reconcile_batching at h ⊢
  by_cases hshards : (List.range queue.pending_shards.length).all shards_locked = true
  · have htaken : queue.take_all_pending_events shards_locked =
        (queue.pending_in_order, queue.drained) := if_pos hshards
    rw [htaken] at h
    rw [take_all_pending_events_locked]
    by_cases hempty : (queue.pending_in_order.map conv).isEmpty = true
    · simp only [hempty, ↓reduceIte] at h ⊢
      exact .inr (.inr h)
    · cases batches_locked with
      | true => exact .inr (.inr h)
      | false =>
        simp only [hempty, Bool.false_eq_true, Bool.not_false, ↓reduceIte, Option.some.injEq,
          Prod.mk.injEq] at h
        exact .inr (.inl ⟨rfl, h.1.symm, h.2.symm⟩)
  · have htaken : queue.take_all_pending_events shards_locked = ([], queue) := if_neg hshards
    rw [htaken] at h
    simp only [List.map_nil, List.isEmpty_nil, ↓reduceIte, Option.some.injEq, Prod.mk.injEq] at h
    exact .inl ⟨h.1.symm, h.2.symm⟩

end EventQueue

end statsig_rust.event_logging
