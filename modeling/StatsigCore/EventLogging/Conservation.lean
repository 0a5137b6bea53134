-- No event is lost or doubled between the adds and the answers of the adapter, but
-- for the batches that are discarded without a report since the network is disabled.
-- Each operation of the queue keeps the events that it holds, but for as many as it
-- returns as dropped.
import Mathlib.Tactic.Abel
import StatsigCore.EventLogging.EventLogger

open machine

namespace statsig_rust.event_logging

variable {Q E : Type}

/-! ## The operations of the queue -/

theorem batched_append (first second : List (EventBatch E)) :
    batched (first ++ second) = batched first + batched second := by
  unfold batched
  rw [List.flatMap_append, Multiset.coe_add]

@[simp] theorem batched_singleton (batch : EventBatch E) : batched [batch] = batch.events := by
  unfold batched
  rw [List.flatMap_singleton]

/-- A shard that changes takes its old events out and brings the new ones in. -/
theorem flatten_set (shards : List (List (SequencedEvent Q))) {i : Nat} (hi : i < shards.length)
    (shard : List (SequencedEvent Q)) :
    ((shards.set i shard).flatten : Multiset (SequencedEvent Q)) + ↑(shards.getD i []) =
      ↑shards.flatten + ↑shard := by
  induction shards generalizing i with
  | nil => exact absurd hi (Nat.not_lt_zero i)
  | cons first rest ih =>
    cases i with
    | zero =>
      simp only [List.set_cons_zero, List.flatten_cons, List.getD_cons_zero, ← Multiset.coe_add]
      abel
    | succ i =>
      have hrest := ih (Nat.lt_of_succ_lt_succ hi)
      simp only [List.set_cons_succ, List.flatten_cons, List.getD_cons_succ, ← Multiset.coe_add]
      rw [add_assoc, hrest, add_assoc]

section Operations

variable (conv : Q → E)

theorem sent_append (first second : List (SequencedEvent Q)) :
    sent conv (first ++ second) = sent conv first + sent conv second := by
  unfold sent
  rw [List.map_append, Multiset.coe_add]

theorem sent_set (shards : List (List (SequencedEvent Q))) {i : Nat} (hi : i < shards.length)
    (shard : List (SequencedEvent Q)) :
    sent conv (shards.set i shard).flatten + sent conv (shards.getD i []) =
      sent conv shards.flatten + sent conv shard := by
  have hset := congrArg (Multiset.map fun event => conv event.2) (flatten_set shards hi shard)
  rw [Multiset.map_add, Multiset.map_add] at hset
  exact hset

/-- The shard that an add leaves decides which events are pending. -/
theorem after_add_held (queue : EventQueue Q E) (shard : List (SequencedEvent Q)) (count : Nat) :
    (queue.after_add shard count).held conv +
        sent conv (queue.pending_shards.getD (queue.next_shard % queue.pending_shards.length) []) =
      queue.held conv + sent conv shard := by
  have hset := sent_set conv queue.pending_shards (Nat.mod_lt queue.next_shard queue.has_shard)
    shard
  unfold EventQueue.held EventQueue.pending
  rw [add_right_comm, add_right_comm _ queue.stored, ← hset]
  rfl

/-- An add brings its event in. A full queue loses one event for it, which is then
counted. -/
theorem add_keeps_events (queue : EventQueue Q E) (event : Q) :
    ∃ gone : Multiset E, gone.card = (queue.add true event).1.dropped ∧
      (queue.add true event).2.held conv + gone = queue.held conv + {conv event} := by
  have hpushed : sent conv (queue.pushed_shard event) =
      sent conv (queue.pending_shards.getD (queue.next_shard % queue.pending_shards.length) []) +
        {conv event} := sent_append conv _ _
  rcases queue.add_cases event with ⟨-, oldest, rest, hshard, -, hadd⟩ | ⟨-, result, hresult, hadd⟩
  · have hafter := after_add_held conv queue rest queue.pending_count
    have hsplit : sent conv (queue.pushed_shard event) = sent conv rest + {conv oldest.2} := by
      rw [hshard, add_comm]
      exact sent_append conv [oldest] rest
    rw [hadd]
    refine ⟨{conv oldest.2}, rfl, add_right_cancel (b := sent conv (queue.pending_shards.getD
      (queue.next_shard % queue.pending_shards.length) [])) ?_⟩
    rw [add_right_comm, hafter, add_assoc, ← hsplit, hpushed]
    abel
  · have hafter := after_add_held conv queue (queue.pushed_shard event) (queue.pending_count + 1)
    rw [hadd]
    refine ⟨0, by rcases hresult with rfl | rfl <;> rfl, add_right_cancel (b := sent conv
      (queue.pending_shards.getD (queue.next_shard % queue.pending_shards.length) [])) ?_⟩
    rw [add_zero, hafter, hpushed]
    abel

/-- The batches hold the events in their order. -/
theorem create_batches_events {batch_size turns : Nat} {events : List E}
    {batches : List (EventBatch E)}
    (h : EventQueue.create_batches_in batch_size turns events = some batches) :
    batches.flatMap EventBatch.events = events := by
  induction turns generalizing events batches with
  | zero =>
    cases events with
    | nil =>
      cases h
      rfl
    | cons event events => cases h
  | succ turns ih =>
    cases events with
    | nil =>
      cases h
      rfl
    | cons event events =>
      unfold EventQueue.create_batches_in at h
      obtain ⟨rest, hrest, rfl⟩ := Option.map_eq_some_iff.mp h
      rw [List.flatMap_cons, ih hrest]
      exact List.take_append_drop _ _

theorem create_batches_attempts {batch_size turns : Nat} {events : List E}
    {batches : List (EventBatch E)}
    (h : EventQueue.create_batches_in batch_size turns events = some batches) :
    ∀ batch ∈ batches, batch.attempts = 0 := by
  induction turns generalizing events batches with
  | zero =>
    cases events with
    | nil =>
      cases h
      exact fun batch hbatch => absurd hbatch List.not_mem_nil
    | cons event events => cases h
  | succ turns ih =>
    cases events with
    | nil =>
      cases h
      exact fun batch hbatch => absurd hbatch List.not_mem_nil
    | cons event events =>
      unfold EventQueue.create_batches_in at h
      obtain ⟨rest, hrest, rfl⟩ := Option.map_eq_some_iff.mp h
      intro batch hbatch
      rcases List.mem_cons.mp hbatch with rfl | hmem
      · rfl
      · exact ih hrest batch hmem

/-- The batches that go are the oldest ones, and all their events are counted. -/
theorem clamp_batches_splits (max_pending_batches : Nat) (batches : List (EventBatch E)) :
    ∃ gone, batches = gone ++ (EventQueue.clamp_batches max_pending_batches batches).2 ∧
      (gone.flatMap EventBatch.events).length =
        (EventQueue.clamp_batches max_pending_batches batches).1 := by
  induction batches with
  | nil => exact ⟨[], rfl, rfl⟩
  | cons batch batches ih =>
    unfold EventQueue.clamp_batches
    split
    · obtain ⟨gone, hgone, hcount⟩ := ih
      refine ⟨batch :: gone, ?_, ?_⟩
      · exact congrArg (batch :: ·) hgone
      · rw [List.flatMap_cons, List.length_append, hcount]
    · exact ⟨[], rfl, rfl⟩

theorem drained_pending (queue : EventQueue Q E) : queue.drained.pending conv = 0 := by
  have hflat : (queue.pending_shards.map fun _ => ([] : List (SequencedEvent Q))).flatten = [] := by
    simp
  unfold EventQueue.pending EventQueue.drained
  dsimp only
  rw [hflat]
  rfl

theorem pending_in_order_sent (queue : EventQueue Q E) :
    (queue.pending_in_order.map conv : Multiset E) = queue.pending conv := by
  unfold EventQueue.pending_in_order EventQueue.pending sent
  rw [List.map_map]
  exact Multiset.coe_eq_coe.mpr ((List.perm_insertionSort _ _).map _)

/-- A reconciliation keeps the events, but for those of the batches that are too
many, and it counts these. -/
theorem reconcile_keeps_events {queue queue' : EventQueue Q E} {result : QueueReconcileResult}
    (h : queue.reconcile_batching conv (fun _ => true) true = some (result, queue')) :
    ∃ gone, (batched gone).card = result.dropped ∧
      queue'.held conv + batched gone = queue.held conv ∧
      ((gone = [] ∧ queue'.batches = queue.batches) ∨
        queue.pending_in_order ≠ [] ∧ ∃ new_batches, (∀ batch ∈ new_batches, batch.attempts = 0) ∧
          queue.full_batches ++ new_batches = gone ++ queue'.batches) := by
  rcases EventQueue.reconcile_cases h with
    ⟨hnone, rfl, rfl⟩ | ⟨new_batches, hsome, hnew, rfl, rfl⟩
  · have hpending := pending_in_order_sent conv queue
    rw [hnone] at hpending
    refine ⟨[], rfl, ?_, .inl ⟨rfl, rfl⟩⟩
    unfold EventQueue.held
    rw [drained_pending, ← hpending]
    exact add_zero _
  · obtain ⟨gone, hsplit, hcount⟩ := clamp_batches_splits queue.max_pending_batches
      (queue.full_batches ++ new_batches)
    refine ⟨gone, ?_, ?_, .inr ⟨hsome, new_batches, create_batches_attempts hnew, hsplit⟩⟩
    · unfold batched
      rw [Multiset.coe_card, hcount]
      split
      · rfl
      · exact Nat.eq_zero_of_not_pos ‹_›
    · have hnew_events : batched new_batches =
          queue.pending conv + batched queue.partial_batches := by
        unfold batched
        rw [create_batches_events hnew, ← pending_in_order_sent conv queue, Multiset.coe_add]
      have hparts : batched queue.full_batches + batched queue.partial_batches = queue.stored := by
        rw [← batched_append]
        exact Multiset.coe_eq_coe.mpr ((List.filter_append_perm _ queue.batches).flatMap_right _)
      have hclamped := congrArg batched hsplit
      rw [batched_append, batched_append, hnew_events] at hclamped
      calc queue.drained.pending conv + batched (EventQueue.clamp_batches
              queue.max_pending_batches (queue.full_batches ++ new_batches)).2 + batched gone
          = batched queue.full_batches + (queue.pending conv + batched queue.partial_batches) := by
            rw [drained_pending, zero_add, add_comm, hclamped]
        _ = queue.held conv := by
            unfold EventQueue.held
            rw [← hparts]
            abel

/-- A batch that comes back brings its events back. -/
theorem requeued_held (queue : EventQueue Q E) (batch : EventBatch E) :
    EventQueue.held conv { queue with batches := queue.batches ++ [batch.tried] } + 0 =
      queue.held conv + batch.events := by
  unfold EventQueue.held EventQueue.stored
  dsimp only
  rw [batched_append, batched_singleton, add_zero, ← add_assoc]
  rfl

end Operations

/-! ## The whole logger -/

/-- Every event that was added is in one place: pending, stored, in flight,
delivered, discarded, evicted or given up. `owed` are events on their way from one
place to another. Every event that was delivered or dropped is counted. -/
structure Balanced (conv : Q → E) (logger : EventLogger Q E) (owed : Multiset E) : Prop where
  events : (logger.added.map conv : Multiset E) =
    logger.queue.pending conv + logger.queue.stored + batched (logger.in_flight.map Flight.batch) +
      logger.delivered + logger.discarded + logger.evicted + logger.given_up + owed
  successes : logger.successes = logger.delivered.length
  returned : logger.returned = logger.evicted.card
  failures : logger.failures = logger.given_up.length

theorem in_flight_erase {flights : List (Flight E)} {i : Nat} {flight : Flight E}
    (h : flights[i]? = some flight) :
    batched (flights.map Flight.batch) =
      batched ((flights.eraseIdx i).map Flight.batch) + ↑flight.batch.events := by
  obtain ⟨hi, rfl⟩ := List.getElem?_eq_some_iff.mp h
  have hperm := ((List.getElem_cons_eraseIdx_perm hi).map Flight.batch).flatMap_right
    EventBatch.events
  unfold batched
  rw [← Multiset.coe_eq_coe.mpr hperm, List.map_cons, List.flatMap_cons, ← Multiset.coe_add,
    add_comm]

theorem in_flight_set {flights : List (Flight E)} {i : Nat} {flight : Flight E}
    (flight' : Flight E) (h : flights[i]? = some flight) (hbatch : flight'.batch = flight.batch) :
    (flights.set i flight').map Flight.batch = flights.map Flight.batch := by
  obtain ⟨hi, rfl⟩ := List.getElem?_eq_some_iff.mp h
  rw [List.map_set, hbatch, ← List.map_set, List.set_getElem_self]

section Logger

variable [DecidableEq E] {conv : Q → E} {logger : EventLogger Q E}

/-- What a queue operation evicts. -/
theorem after_evicted (conv : Q → E) (logger : EventLogger Q E) {incoming : Multiset E}
    (gone : Multiset E) {queue : EventQueue Q E}
    (hkeeps : queue.held conv + gone = logger.queue.held conv + incoming) (dropped : Nat) :
    (logger.after conv incoming queue dropped).evicted = logger.evicted + gone := by
  unfold EventLogger.after
  dsimp only
  rw [← hkeeps, add_tsub_cancel_left]

/-- A queue operation takes in what is owed. -/
theorem Balanced.after {incoming gone : Multiset E} {queue : EventQueue Q E} {dropped : Nat}
    (h : Balanced conv logger incoming) (hcount : gone.card = dropped)
    (hkeeps : queue.held conv + gone = logger.queue.held conv + incoming) :
    Balanced conv (logger.after conv incoming queue dropped) 0 := by
  have hevicted := after_evicted conv logger gone hkeeps dropped
  constructor
  · rw [hevicted]
    calc (logger.added.map conv : Multiset E)
        = logger.queue.held conv + incoming + (batched (logger.in_flight.map Flight.batch) +
            logger.delivered + logger.discarded + logger.evicted + logger.given_up) := by
          rw [h.events]
          unfold EventQueue.held
          abel
      _ = queue.held conv + batched (logger.in_flight.map Flight.batch) + logger.delivered +
            logger.discarded + (logger.evicted + gone) + logger.given_up + 0 := by
          rw [← hkeeps]
          abel
  · exact h.successes
  · rw [hevicted, Multiset.card_add, ← h.returned, hcount]
    rfl
  · exact h.failures

omit [DecidableEq E] in
/-- The oldest batches take off. -/
theorem Balanced.take_off {taken rest : List (EventBatch E)} {flights : List (Flight E)}
    (h : Balanced conv logger 0) (hbatches : logger.queue.batches = taken ++ rest)
    (hflights : flights.map Flight.batch = taken) :
    Balanced conv { logger with
      queue := { logger.queue with batches := rest }
      in_flight := logger.in_flight ++ flights } 0 := by
  have hstored : logger.queue.stored = batched taken + batched rest := by
    unfold EventQueue.stored
    rw [hbatches, batched_append]
  have hair : batched ((logger.in_flight ++ flights).map Flight.batch) =
      batched (logger.in_flight.map Flight.batch) + batched taken := by
    rw [List.map_append, hflights, batched_append]
  refine ⟨?_, h.successes, h.returned, h.failures⟩
  show _ = logger.queue.pending conv + batched rest +
    batched ((logger.in_flight ++ flights).map Flight.batch) + _ + _ + _ + _ + _
  rw [hair, h.events, hstored]
  abel

/-- The end of a flight gives its events a place. -/
theorem Balanced.land {flight : Flight E} {max_log_event_retries : UInt8}
    {result : Except StatsigErr Bool} (h : Balanced conv logger flight.batch.events) :
    Balanced conv (logger.land conv flight
      (settle max_log_event_retries logger.queue flight result).2
      (settle max_log_event_retries logger.queue flight result).1) 0 := by
  rcases settle_cases max_log_event_retries logger.queue flight result with
    hend | hend | hend | hend | ⟨-, hend⟩
  · rw [hend]
    refine ⟨?_, ?_, h.returned, h.failures⟩
    · unfold EventLogger.land
      rw [h.events, ← Multiset.coe_add]
      abel
    · unfold EventLogger.land
      rw [List.length_append, ← h.successes]
  · rw [hend]
    refine ⟨?_, h.successes, h.returned, h.failures⟩
    unfold EventLogger.land
    rw [h.events, ← Multiset.coe_add]
    abel
  · rw [hend]
    refine ⟨?_, h.successes, h.returned, ?_⟩
    · unfold EventLogger.land
      rw [h.events, ← Multiset.coe_add]
      abel
    · unfold EventLogger.land
      rw [List.length_append, ← h.failures]
  · rw [hend]
    exact h.after (Multiset.coe_card _) rfl
  · rw [hend]
    exact h.after rfl (requeued_held conv logger.queue flight.batch)

/-- Every step of the logger keeps the balance. -/
theorem step_balanced {max_log_event_retries : UInt8} {logger' : EventLogger Q E}
    {action : Action Q} (h : Balanced conv logger 0)
    (hstep : logger.step conv max_log_event_retries action = some logger') :
    Balanced conv logger' 0 := by
  cases action with
  | add pending_event =>
    cases hstep
    obtain ⟨gone, hcount, hkeeps⟩ := add_keeps_events conv logger.queue pending_event
    have howed : Balanced conv { logger with added := logger.added ++ [pending_event] }
        {conv pending_event} := by
      refine ⟨?_, h.successes, h.returned, h.failures⟩
      rw [List.map_append, ← Multiset.coe_add, h.events, add_zero]
      rfl
    exact howed.after hcount hkeeps
  | reconcile_batching =>
    obtain ⟨⟨result, queue⟩, hreconciled, rfl⟩ := Option.map_eq_some_iff.mp hstep
    obtain ⟨gone, hcount, hkeeps, -⟩ := reconcile_keeps_events conv hreconciled
    exact h.after hcount (hkeeps.trans (add_zero _).symm)
  | take_next_batch flush_type =>
    obtain ⟨batch, rest, hbatches, rfl⟩ := step_take_next_batch hstep
    exact h.take_off hbatches rfl
  | take_all_batches flush_type =>
    cases hstep
    exact h.take_off (List.append_nil _).symm ((List.map_map ..).trans (List.map_id _))
  | submit i =>
    obtain ⟨flight, hflight, -, rfl⟩ := step_submit hstep
    refine ⟨?_, h.successes, h.returned, h.failures⟩
    dsimp only
    rw [in_flight_set { flight with submitted := true } hflight rfl]
    exact h.events
  | settle i result =>
    obtain ⟨flight, hflight, -, rfl⟩ := step_settle hstep
    have howed : Balanced conv { logger with in_flight := logger.in_flight.eraseIdx i }
        flight.batch.events := by
      refine ⟨?_, h.successes, h.returned, h.failures⟩
      rw [h.events, in_flight_erase hflight]
      abel
    exact howed.land

theorem run_balanced {max_log_event_retries : UInt8} {batch_size max_queue_size : Nat}
    {actions : List (Action Q)} (hrun : run (EventLogger.step conv max_log_event_retries)
      { queue := .new batch_size max_queue_size } actions = some logger) :
    Balanced conv logger 0 := by
  have hstart : Balanced conv { queue := EventQueue.new batch_size max_queue_size } 0 := by
    refine ⟨?_, rfl, rfl, rfl⟩
    have hempty : (EventQueue.new batch_size max_queue_size : EventQueue Q E).pending conv = 0 := by
      unfold EventQueue.pending EventQueue.new
      simp [sent]
    dsimp only
    rw [hempty]
    rfl
  exact run_invariant (I := fun logger => Balanced conv logger 0)
    (fun _ _ _ h hstep => step_balanced h hstep) hstart hrun

end Logger

/-- In every run, from an empty queue of any size, every event that was added is in
exactly one place: pending, stored, in flight, delivered, discarded since the network
is disabled, evicted or given up. The counts of the successes are the number of events
delivered, the drop counts that the queue returned the number of events evicted, and
the counts of the failures the number of events given up. The discarded events are in
no count. -/
theorem events_are_conserved [DecidableEq E] (conv : Q → E) (max_log_event_retries : UInt8)
    (batch_size max_queue_size : Nat) (actions : List (Action Q)) (logger : EventLogger Q E)
    (hrun : run (EventLogger.step conv max_log_event_retries)
      { queue := .new batch_size max_queue_size } actions = some logger) :
    (logger.added.map conv : Multiset E) =
      logger.queue.pending conv + logger.queue.stored + batched (logger.in_flight.map Flight.batch) +
        logger.delivered + logger.discarded + logger.evicted + logger.given_up ∧
    ((logger.added.map conv).Nodup →
      (logger.queue.pending conv + logger.queue.stored +
        batched (logger.in_flight.map Flight.batch) + logger.delivered + logger.discarded +
          logger.evicted + logger.given_up).Nodup) ∧
    logger.successes = logger.delivered.length ∧ logger.returned = logger.evicted.card ∧
    logger.failures = logger.given_up.length := by
  have hbalanced := run_balanced hrun
  have hevents := hbalanced.events
  rw [add_zero] at hevents
  refine ⟨hevents, ?_, hbalanced.successes, hbalanced.returned, hbalanced.failures⟩
  intro hnodup
  rw [← hevents]
  exact Multiset.coe_nodup.mpr hnodup

/-- Three events in a queue for two, and a flush that fails once. The network is
disabled for the last of them. -/
def crowded_run : List (Action Nat) :=
  [.add 1, .add 2, .add 3, .reconcile_batching, .take_next_batch .Limit, .submit 0,
    .settle 0 (.ok false), .add 4, .reconcile_batching, .take_all_batches .Manual, .submit 0,
    .settle 0 (.ok true), .add 5, .reconcile_batching, .take_next_batch .ScheduledMaxTime,
    .submit 0, .settle 0 (.error (.NetworkError .DisableNetworkOn))]

theorem events_of_the_crowded_run_are_conserved :
    ∃ logger : EventLogger Nat Nat,
      run (EventLogger.step id MAX_LOG_EVENT_RETRIES) { queue := .new 2 1 } crowded_run =
        some logger ∧ logger.returned = 3 ∧ logger.evicted.card = 3 ∧ logger.discarded = [5] ∧
      (logger.added.map id : Multiset Nat) = logger.queue.pending id + logger.queue.stored +
        batched (logger.in_flight.map Flight.batch) + logger.delivered + logger.discarded +
          logger.evicted + logger.given_up := by
  have hcount : (run (EventLogger.step id MAX_LOG_EVENT_RETRIES) { queue := .new 2 1 }
      crowded_run).map (fun logger => (logger.returned, logger.discarded)) = some (3, [5]) := by
    decide +kernel
  obtain ⟨logger, hrun, hends⟩ := Option.map_eq_some_iff.mp hcount
  obtain ⟨hreturned, hdiscarded⟩ := Prod.mk.inj hends
  obtain ⟨hevents, -, -, hevicted, -⟩ := events_are_conserved id MAX_LOG_EVENT_RETRIES 2 1
    crowded_run logger hrun
  exact ⟨logger, hrun, hreturned, hevicted.symm.trans hreturned, hdiscarded, hevents⟩

/-- One event, and a flush while the network is disabled. -/
def disabled_run : List (Action Nat) :=
  [.add 1, .reconcile_batching, .take_next_batch .ScheduledMaxTime, .submit 0,
    .settle 0 (.error (.NetworkError .DisableNetworkOn))]

/-- The event is neither held nor delivered, and no count reports it. -/
theorem disabled_network_loses_the_event :
    ∃ logger : EventLogger Nat Nat,
      run (EventLogger.step id MAX_LOG_EVENT_RETRIES) { queue := .new 10 1 } disabled_run =
        some logger ∧
      (logger.successes = 0 ∧ logger.returned = 0 ∧ logger.failures = 0) ∧
      (logger.added.map id : Multiset Nat) ≠ logger.queue.pending id + logger.queue.stored +
        batched (logger.in_flight.map Flight.batch) + logger.delivered + logger.evicted +
          logger.given_up := by
  have hends : (run (EventLogger.step id MAX_LOG_EVENT_RETRIES) { queue := .new 10 1 }
      disabled_run).map (fun logger : EventLogger Nat Nat =>
        [logger.added.length, logger.successes, logger.returned, logger.failures,
          logger.queue.pending_shards.flatten.length,
          (logger.queue.batches.flatMap EventBatch.events).length,
          ((logger.in_flight.map Flight.batch).flatMap EventBatch.events).length,
          logger.delivered.length, logger.evicted.card, logger.given_up.length]) =
      some [1, 0, 0, 0, 0, 0, 0, 0, 0, 0] := by
    decide +kernel
  obtain ⟨logger, hrun, hlogger⟩ := Option.map_eq_some_iff.mp hends
  simp only [List.cons.injEq] at hlogger
  obtain ⟨hadded, hsent, hreturned, hfailed, hpending, hstored, hflying, hdelivered, hevicted,
    hgiven, -⟩ := hlogger
  refine ⟨logger, hrun, ⟨hsent, hreturned, hfailed⟩, fun h => ?_⟩
  have hcard := congrArg Multiset.card h
  simp only [EventQueue.pending, EventQueue.stored, batched, event_logging.sent, Multiset.card_add,
    Multiset.coe_card, List.length_map] at hcard
  omega

end statsig_rust.event_logging
