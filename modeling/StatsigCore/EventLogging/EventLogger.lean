-- The event logger (`event_logging/event_logger.rs`) as a machine. The tasks of
-- the logger meet only in the queue, so a run is a list of queue operations and of
-- answers of the logging adapter, in any order. A batch that is taken out is in
-- flight until it is delivered, discarded, requeued or dropped.
import Mathlib.Algebra.Order.Group.Multiset
import StatsigCore.EventLogging.EventQueue
import StatsigCore.Library.Machine

namespace statsig_rust.event_logging

def MIN_BATCH_SIZE : Nat := 10

def MAX_BATCH_SIZE : Nat := 2000

def MIN_PENDING_BATCH_COUNT : Nat := 1

def DEFAULT_BATCH_SIZE : Nat := MAX_BATCH_SIZE

def DEFAULT_PENDING_BATCH_COUNT_MAX : Nat := 100

def MAX_LOG_EVENT_RETRIES : UInt8 := 5

/-- The options that the queue is made from. -/
structure StatsigOptions where
  event_logging_max_queue_size : Option Nat := none
  event_logging_max_pending_batch_queue_size : Option Nat := none

def bounds_check_logging_batch_size : Option Nat → Bool
  | some batch_size => batch_size < MIN_BATCH_SIZE || batch_size > MAX_BATCH_SIZE
  | none => false

def bounds_check_loggging_pending_queue_size : Option Nat → Bool
  | some queue_size => queue_size < MIN_PENDING_BATCH_COUNT
  | none => false

/-- A size out of bounds gives way to the default. -/
def StatsigOptions.validate_and_fix (options : StatsigOptions) : StatsigOptions where
  event_logging_max_queue_size :=
    if bounds_check_logging_batch_size options.event_logging_max_queue_size then none
    else options.event_logging_max_queue_size
  event_logging_max_pending_batch_queue_size :=
    if bounds_check_loggging_pending_queue_size
        options.event_logging_max_pending_batch_queue_size then none
    else options.event_logging_max_pending_batch_queue_size

inductive FlushType where
  | ScheduledMaxTime | ScheduledFullBatch | Limit | Manual | Shutdown
deriving DecidableEq

inductive NetworkError where
  | DisableNetworkOn | RequestNotRetryable | Other
deriving DecidableEq

inductive StatsigErr where
  | NetworkError (error : NetworkError)
  | LogEventError (message : String)
  | Other
deriving DecidableEq

variable {Q E : Type}

/-! ## One batch -/

/-- `log_batch`, once the adapter has answered. With the network disabled nothing is
sent, and `log_batch` is done with the batch all the same. -/
def log_batch (batch : EventBatch E) (result : Except StatsigErr Bool) :
    Except StatsigErr Unit × EventBatch E :=
  let batch := { batch with attempts := batch.attempts + 1 }
  match result with
  | .ok true => (.ok (), batch)
  | .ok false => (.error (.LogEventError "Unknown Failure"), batch)
  | .error (.NetworkError .DisableNetworkOn) => (.ok (), batch)
  | .error e => (.error e, batch)

/-- `log_event_request_success`: the number of events that `log_batch` reports as sent. -/
def successes_of (batch : EventBatch E) (result : Except StatsigErr Bool) : Option Nat :=
  match result with
  | .ok true => some batch.events.length
  | _ => none

/-- How a batch in flight ends, with the number of events that are reported as sent
or as dropped. A batch that is discarded since the network is disabled is reported
as neither. -/
inductive Settlement where
  | Delivered (count : Nat)
  | Discarded
  | Requeued
  | DroppedByQueue (count : Nat)
  | DroppedForFailure (count : Nat)
deriving DecidableEq

def drop_events_for_failure (batch : EventBatch E) : Settlement :=
  .DroppedForFailure batch.events.length

def is_non_retryable (error : StatsigErr) : Bool :=
  match error with
  | .NetworkError .RequestNotRetryable => true
  | _ => false

def try_requeue_failed_batch (max_log_event_retries : UInt8) (queue : EventQueue Q E)
    (locked : Bool) (error : StatsigErr) (batch : EventBatch E) : Settlement × EventQueue Q E :=
  let is_max_retries := decide (batch.attempts > max_log_event_retries)
  if is_non_retryable error || is_max_retries then (drop_events_for_failure batch, queue)
  else
    match queue.requeue_batch locked batch with
    | (.DroppedEvents count, queue) => (.DroppedByQueue count, queue)
    | (_, queue) => (.Requeued, queue)

/-- The function that took a batch out: `flush_next_batch`, or
`try_flush_all_pending_events`. -/
inductive FlushPath where
  | NextBatch | AllPending
deriving DecidableEq

/-- A batch in flight. `submitted` once the adapter has it. -/
structure Flight (E : Type) where
  batch : EventBatch E
  path : FlushPath
  flush_type : FlushType
  submitted : Bool := false

/-- What happens to a batch when the adapter answers. Of the flushes of all batches,
only a manual one requeues. -/
def settle (max_log_event_retries : UInt8) (queue : EventQueue Q E) (flight : Flight E)
    (result : Except StatsigErr Bool) : Settlement × EventQueue Q E :=
  match log_batch flight.batch result with
  | (.ok _, batch) =>
    match successes_of batch result with
    | some count => (.Delivered count, queue)
    | none => (.Discarded, queue)
  | (.error e, batch) =>
    if flight.path = .NextBatch ∨ flight.flush_type = .Manual then
      try_requeue_failed_batch max_log_event_retries queue true e batch
    else (drop_events_for_failure batch, queue)

/-- A batch that was tried once more. -/
def EventBatch.tried (batch : EventBatch E) : EventBatch E :=
  { batch with attempts := batch.attempts + 1 }

/-- All the ways that a flight may end. Only a batch with few attempts goes back to
the queue. -/
theorem settle_cases (max_log_event_retries : UInt8) (queue : EventQueue Q E) (flight : Flight E)
    (result : Except StatsigErr Bool) :
    settle max_log_event_retries queue flight result =
      (.Delivered flight.batch.events.length, queue) ∨
    settle max_log_event_retries queue flight result = (.Discarded, queue) ∨
    settle max_log_event_retries queue flight result =
      (.DroppedForFailure flight.batch.events.length, queue) ∨
    settle max_log_event_retries queue flight result =
      (.DroppedByQueue flight.batch.events.length, queue) ∨
    flight.batch.tried.attempts ≤ max_log_event_retries ∧
      settle max_log_event_retries queue flight result =
        (.Requeued, { queue with batches := queue.batches ++ [flight.batch.tried] }) := by
  have hlogged : log_batch flight.batch result = (.ok (), flight.batch.tried) ∨
      ∃ e, log_batch flight.batch result = (.error e, flight.batch.tried) := by
    unfold log_batch
    split
    · exact .inl rfl
    · exact .inr ⟨_, rfl⟩
    · exact .inl rfl
    · exact .inr ⟨_, rfl⟩
  unfold settle
  rcases hlogged with h | ⟨e, h⟩
  · rw [h]
    unfold successes_of
    dsimp only
    split
    · rename_i hcount
      split at hcount
      · cases hcount
        exact .inl rfl
      · cases hcount
    · exact .inr (.inl rfl)
  · rw [h]
    right
    right
    dsimp only
    split
    · unfold try_requeue_failed_batch
      dsimp only
      split
      · exact .inl rfl
      · rename_i hretry
        simp only [Bool.or_eq_true, decide_eq_true_eq, not_or] at hretry
        rcases queue.requeue_cases flight.batch.tried with ⟨-, hdrop⟩ | ⟨-, hstore⟩
        · rw [hdrop]
          exact .inr (.inl rfl)
        · rw [hstore]
          exact .inr (.inr ⟨UInt8.not_lt.mp hretry.2, rfl⟩)
    · exact .inl rfl

/-! ## The machine -/

/-- Pending events, as they are sent. -/
def sent (into_statsig_event_internal : Q → E) (events : List (SequencedEvent Q)) : Multiset E :=
  events.map fun event => into_statsig_event_internal event.2

/-- The events in the shards. -/
def EventQueue.pending (into_statsig_event_internal : Q → E) (queue : EventQueue Q E) :
    Multiset E :=
  sent into_statsig_event_internal queue.pending_shards.flatten

/-- The events in a list of batches. -/
def batched (batches : List (EventBatch E)) : Multiset E := batches.flatMap EventBatch.events

def EventQueue.stored (queue : EventQueue Q E) : Multiset E := batched queue.batches

def EventQueue.held (into_statsig_event_internal : Q → E) (queue : EventQueue Q E) : Multiset E :=
  queue.pending into_statsig_event_internal + queue.stored

/-- The logger, and a record of what happened to the events so far. -/
structure EventLogger (Q E : Type) where
  queue : EventQueue Q E
  in_flight : List (Flight E) := []
  added : List Q := []
  /-- One entry for each time that the adapter got an event. -/
  submitted : List E := []
  delivered : List E := []
  /-- The sum of the counts that were reported for successes. -/
  successes : Nat := 0
  /-- The events of the batches that went nowhere since the network is disabled. -/
  discarded : List E := []
  /-- What left the queue without being taken out. -/
  evicted : Multiset E := 0
  /-- The sum of the drop counts that the queue returned. -/
  returned : Nat := 0
  /-- The events of the batches that were given up. -/
  given_up : List E := []
  /-- The sum of the drop counts that were reported for failures. -/
  failures : Nat := 0

/-- A logger with an empty queue. -/
def EventLogger.new (options : StatsigOptions) : EventLogger Q E where
  queue := .new (options.event_logging_max_queue_size.getD DEFAULT_BATCH_SIZE)
    (options.event_logging_max_pending_batch_queue_size.getD DEFAULT_PENDING_BATCH_COUNT_MAX)

inductive Action (Q : Type) where
  | add (pending_event : Q)
  | reconcile_batching
  | take_next_batch (flush_type : FlushType)
  | take_all_batches (flush_type : FlushType)
  | submit (flight : Nat)
  | settle (flight : Nat) (result : Except StatsigErr Bool)

def QueueAddResult.dropped : QueueAddResult → Nat
  | .NeedsFlushAndDropped count => count
  | _ => 0

def QueueReconcileResult.dropped : QueueReconcileResult → Nat
  | .DroppedEvents count => count
  | _ => 0

section Step

variable [DecidableEq E] (into_statsig_event_internal : Q → E) (max_log_event_retries : UInt8)

/-- A queue operation is over. What went in and is not in the queue any more was
evicted. -/
def EventLogger.after (logger : EventLogger Q E) (incoming : Multiset E)
    (queue : EventQueue Q E) (dropped : Nat) : EventLogger Q E :=
  { logger with
    queue
    evicted := logger.evicted + (logger.queue.held into_statsig_event_internal + incoming -
      queue.held into_statsig_event_internal)
    returned := logger.returned + dropped }

/-- The end of a flight. -/
def EventLogger.land (logger : EventLogger Q E) (flight : Flight E) (queue : EventQueue Q E) :
    Settlement → EventLogger Q E
  | .Delivered count =>
    { logger with
      queue
      delivered := logger.delivered ++ flight.batch.events
      successes := logger.successes + count }
  | .Discarded =>
    { logger with queue, discarded := logger.discarded ++ flight.batch.events }
  | .Requeued => logger.after into_statsig_event_internal flight.batch.events queue 0
  | .DroppedByQueue count =>
    logger.after into_statsig_event_internal flight.batch.events queue count
  | .DroppedForFailure count =>
    { logger with
      queue
      given_up := logger.given_up ++ flight.batch.events
      failures := logger.failures + count }

/-- One step of the logger, with every lock taken in time. `none` when the action
cannot happen, or does not end. -/
def EventLogger.step (logger : EventLogger Q E) : Action Q → Option (EventLogger Q E)
  | .add pending_event =>
    let (result, queue) := logger.queue.add true pending_event
    some { logger.after into_statsig_event_internal {into_statsig_event_internal pending_event} queue
      result.dropped with added := logger.added ++ [pending_event] }
  | .reconcile_batching =>
    (logger.queue.reconcile_batching into_statsig_event_internal (fun _ => true) true).map
      fun (result, queue) =>
        logger.after into_statsig_event_internal 0 queue result.dropped
  | .take_next_batch flush_type =>
    match logger.queue.take_next_batch true with
    | (none, _) => none
    | (some batch, queue) =>
      some { logger with
        queue
        in_flight := logger.in_flight ++ [{ batch, path := .NextBatch, flush_type }] }
  | .take_all_batches flush_type =>
    let (batches, queue) := logger.queue.take_all_batches true
    some { logger with
      queue
      in_flight := logger.in_flight ++
        batches.map fun batch => { batch, path := .AllPending, flush_type } }
  | .submit i =>
    match logger.in_flight[i]? with
    | none => none
    | some flight =>
      if flight.submitted then none
      else some { logger with
        in_flight := logger.in_flight.set i { flight with submitted := true }
        submitted := logger.submitted ++ flight.batch.events }
  | .settle i result =>
    match logger.in_flight[i]? with
    | none => none
    | some flight =>
      if !flight.submitted then none
      else
        let (settlement, queue) := settle max_log_event_retries logger.queue flight result
        let logger := { logger with in_flight := logger.in_flight.eraseIdx i }
        some (logger.land into_statsig_event_internal flight queue settlement)

variable {into_statsig_event_internal max_log_event_retries}
  {logger logger' : EventLogger Q E}

theorem step_take_next_batch {flush_type : FlushType}
    (h : logger.step into_statsig_event_internal max_log_event_retries
      (.take_next_batch flush_type) = some logger') :
    ∃ batch rest, logger.queue.batches = batch :: rest ∧ logger' = { logger with
      queue := { logger.queue with batches := rest }
      in_flight := logger.in_flight ++ [{ batch, path := .NextBatch, flush_type }] } := by
  simp only [EventLogger.step] at h
  split at h
  · cases h
  · rename_i batch queue htaken
    obtain ⟨rest, hbatches, rfl⟩ := EventQueue.take_next_batch_eq_some htaken
    cases h
    exact ⟨batch, rest, hbatches, rfl⟩

theorem step_submit {i : Nat}
    (h : logger.step into_statsig_event_internal max_log_event_retries (.submit i) = some logger') :
    ∃ flight, logger.in_flight[i]? = some flight ∧ flight.submitted = false ∧ logger' = { logger with
      in_flight := logger.in_flight.set i { flight with submitted := true }
      submitted := logger.submitted ++ flight.batch.events } := by
  simp only [EventLogger.step] at h
  split at h
  · cases h
  · rename_i flight hflight
    split at h
    · cases h
    · rename_i hnot
      cases h
      exact ⟨flight, hflight, Bool.eq_false_iff.mpr hnot, rfl⟩

theorem step_settle {i : Nat} {result : Except StatsigErr Bool}
    (h : logger.step into_statsig_event_internal max_log_event_retries (.settle i result) =
      some logger') :
    ∃ flight, logger.in_flight[i]? = some flight ∧ flight.submitted = true ∧
      logger' = EventLogger.land into_statsig_event_internal
        { logger with in_flight := logger.in_flight.eraseIdx i } flight
        (settle max_log_event_retries logger.queue flight result).2
        (settle max_log_event_retries logger.queue flight result).1 := by
  simp only [EventLogger.step] at h
  split at h
  · cases h
  · rename_i flight hflight
    split at h
    · cases h
    · rename_i hsubmitted
      cases h
      exact ⟨flight, hflight, by simpa using hsubmitted, rfl⟩

end Step

end statsig_rust.event_logging
