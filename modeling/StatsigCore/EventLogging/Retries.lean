-- How often one event goes to the logging adapter. A batch counts its attempts, but
-- an event does not. So each submission of an event is charged to the attempts of the
-- batch that holds it, and the charges add up as long as no batch that was tried
-- is broken up for a new one.
import Mathlib.Algebra.BigOperators.Group.List.Basic
import StatsigCore.EventLogging.Conservation

open machine

namespace statsig_rust.event_logging

variable {Q E : Type} [DecidableEq E]

/-! ## Charges -/

/-- The submissions of an event that the attempts of the batches account for. -/
def charge (event : E) (batches : List (EventBatch E)) : Nat :=
  (batches.map fun batch => batch.attempts.toNat * batch.events.count event).sum

/-- A batch that the adapter has was submitted once more than it was tried. -/
def Flight.charge (event : E) (flight : Flight E) : Nat :=
  (flight.batch.attempts.toNat + flight.submitted.toNat) * flight.batch.events.count event

def flight_charge (event : E) (flights : List (Flight E)) : Nat :=
  (flights.map (Flight.charge event)).sum

theorem charge_append (event : E) (first second : List (EventBatch E)) :
    charge event (first ++ second) = charge event first + charge event second := by
  unfold charge
  rw [List.map_append, List.sum_append]

theorem flight_charge_append (event : E) (first second : List (Flight E)) :
    flight_charge event (first ++ second) =
      flight_charge event first + flight_charge event second := by
  unfold flight_charge
  rw [List.map_append, List.sum_append]

theorem charge_untried (event : E) {batches : List (EventBatch E)}
    (h : ∀ batch ∈ batches, batch.attempts = 0) : charge event batches = 0 := by
  refine List.sum_eq_zero fun n hn => ?_
  obtain ⟨batch, hbatch, rfl⟩ := List.mem_map.mp hn
  rw [h batch hbatch]
  exact Nat.zero_mul _

theorem charge_le (event : E) {batches : List (EventBatch E)} {max_log_event_retries : UInt8}
    (h : ∀ batch ∈ batches, batch.attempts ≤ max_log_event_retries) :
    charge event batches ≤ (max_log_event_retries.toNat + 1) * (batched batches).count event := by
  induction batches with
  | nil => exact Nat.zero_le _
  | cons batch batches ih =>
    have hrest := ih fun b hb => h b (List.mem_cons_of_mem _ hb)
    have hfirst : batch.attempts.toNat ≤ max_log_event_retries.toNat + 1 :=
      Nat.le_succ_of_le (UInt8.le_iff_toNat_le.mp (h batch (List.mem_cons_self ..)))
    have hcount : (batched (batch :: batches)).count event =
        batch.events.count event + (batched batches).count event := by
      rw [← List.singleton_append, batched_append, batched_singleton, Multiset.count_add,
        Multiset.coe_count]
    calc charge event (batch :: batches)
        = batch.attempts.toNat * batch.events.count event + charge event batches := rfl
      _ ≤ (max_log_event_retries.toNat + 1) * batch.events.count event +
            (max_log_event_retries.toNat + 1) * (batched batches).count event :=
          Nat.add_le_add (Nat.mul_le_mul_right _ hfirst) hrest
      _ = (max_log_event_retries.toNat + 1) * (batched (batch :: batches)).count event := by
          rw [hcount, Nat.mul_add]

theorem Flight.charge_le (event : E) {flight : Flight E} {max_log_event_retries : UInt8}
    (h : flight.batch.attempts ≤ max_log_event_retries) :
    flight.charge event ≤ (max_log_event_retries.toNat + 1) * flight.batch.events.count event := by
  have hattempts := UInt8.le_iff_toNat_le.mp h
  have hsubmitted : flight.submitted.toNat ≤ 1 := Bool.toNat_le _
  exact Nat.mul_le_mul_right _ (by omega)

theorem flight_charge_le (event : E) {flights : List (Flight E)} {max_log_event_retries : UInt8}
    (h : ∀ flight ∈ flights, flight.batch.attempts ≤ max_log_event_retries) :
    flight_charge event flights ≤
      (max_log_event_retries.toNat + 1) * (batched (flights.map Flight.batch)).count event := by
  induction flights with
  | nil => exact Nat.zero_le _
  | cons flight flights ih =>
    have hrest := ih fun f hf => h f (List.mem_cons_of_mem _ hf)
    have hfirst := Flight.charge_le event (h flight (List.mem_cons_self ..))
    have hcount : (batched ((flight :: flights).map Flight.batch)).count event =
        flight.batch.events.count event + (batched (flights.map Flight.batch)).count event := by
      rw [List.map_cons, ← List.singleton_append, batched_append, batched_singleton,
        Multiset.count_add, Multiset.coe_count]
    rw [hcount, Nat.mul_add]
    exact Nat.add_le_add hfirst hrest

theorem flight_charge_set (event : E) {flights : List (Flight E)} {i : Nat}
    {flight : Flight E} (flight' : Flight E) (h : flights[i]? = some flight) :
    flight_charge event (flights.set i flight') + flight.charge event =
      flight_charge event flights + flight'.charge event := by
  induction flights generalizing i with
  | nil => cases h
  | cons first rest ih =>
    cases i with
    | zero =>
      cases h
      simp only [flight_charge, List.set_cons_zero, List.map_cons, List.sum_cons]
      omega
    | succ i =>
      have hrest := ih h
      simp only [flight_charge, List.set_cons_succ, List.map_cons, List.sum_cons] at hrest ⊢
      omega

theorem flight_charge_erase (event : E) {flights : List (Flight E)} {i : Nat} {flight : Flight E}
    (h : flights[i]? = some flight) :
    flight_charge event flights =
      flight_charge event (flights.eraseIdx i) + flight.charge event := by
  obtain ⟨hi, rfl⟩ := List.getElem?_eq_some_iff.mp h
  have hperm := ((List.getElem_cons_eraseIdx_perm hi).map (Flight.charge event)).sum_eq
  rw [List.map_cons, List.sum_cons] at hperm
  unfold flight_charge
  omega

/-! ## The whole logger -/

/-- No batch was tried too often, and every submission of an event is charged: to the
batch that holds the event, or in full once the event is settled. -/
structure Charged (max_log_event_retries : UInt8) (logger : EventLogger Q E) : Prop where
  stored : ∀ batch ∈ logger.queue.batches, batch.attempts ≤ max_log_event_retries
  flying : ∀ flight ∈ logger.in_flight, flight.batch.attempts ≤ max_log_event_retries
  submitted : ∀ event, logger.submitted.count event ≤
    charge event logger.queue.batches + flight_charge event logger.in_flight +
      (max_log_event_retries.toNat + 1) * (logger.delivered.count event +
        logger.discarded.count event + logger.evicted.count event + logger.given_up.count event)

/-- No batch that was tried is broken up. -/
def KeepsTriedBatches (logger : EventLogger Q E) : Action Q → Prop
  | .reconcile_batching => logger.queue.pending_in_order ≠ [] →
      ∀ batch ∈ logger.queue.partial_batches, batch.attempts = 0
  | _ => True

omit [DecidableEq E] in
instance (logger : EventLogger Q E) : DecidablePred (KeepsTriedBatches logger)
  | .reconcile_batching => inferInstanceAs (Decidable (_ ≠ _ → ∀ batch ∈ _, _ = _))
  | .add _ | .take_next_batch _ | .take_all_batches _ | .submit _ | .settle _ _ => isTrue trivial

section Step

variable {conv : Q → E} {max_log_event_retries : UInt8} {logger logger' : EventLogger Q E}

omit [DecidableEq E] in
/-- One more attempt does not wrap. -/
theorem tried_attempts {batch : EventBatch E} (hmax : max_log_event_retries < 255)
    (h : batch.attempts ≤ max_log_event_retries) :
    batch.tried.attempts.toNat = batch.attempts.toNat + 1 := by
  have hbatch := UInt8.le_iff_toNat_le.mp h
  have hlimit := UInt8.lt_iff_toNat_lt.mp hmax
  unfold EventBatch.tried
  dsimp only
  rw [UInt8.toNat_add]
  have h255 : (255 : UInt8).toNat = 255 := rfl
  have h1 : (1 : UInt8).toNat = 1 := rfl
  omega

/-- A flight that leaves the air for good pays in full for each of its events. -/
theorem Charged.pay {flight : Flight E} {i : Nat} (h : Charged max_log_event_retries logger)
    (hflight : logger.in_flight[i]? = some flight)
    (hbatches : logger'.queue.batches = logger.queue.batches)
    (hflying : logger'.in_flight = logger.in_flight.eraseIdx i)
    (hsubmitted : logger'.submitted = logger.submitted)
    (hends : ∀ event, logger.delivered.count event + logger.discarded.count event +
        logger.evicted.count event + logger.given_up.count event + flight.batch.events.count event ≤
      logger'.delivered.count event + logger'.discarded.count event + logger'.evicted.count event +
        logger'.given_up.count event) :
    Charged max_log_event_retries logger' where
  stored := by
    rw [hbatches]
    exact h.stored
  flying f hf := by
    rw [hflying] at hf
    exact h.flying f (List.mem_of_mem_eraseIdx hf)
  submitted event := by
    have hpaid := h.submitted event
    have hcharge := Flight.charge_le event (h.flying flight (List.mem_of_getElem? hflight))
    rw [flight_charge_erase event hflight] at hpaid
    rw [hsubmitted, hbatches, hflying]
    have hmore := Nat.mul_le_mul_left (max_log_event_retries.toNat + 1) (hends event)
    rw [Nat.mul_add] at hmore
    omega

/-- A flight that ends pays for its events, or they go back to the queue with one
more attempt. -/
theorem Charged.land {flight : Flight E} {i : Nat} {result : Except StatsigErr Bool}
    (hmax : max_log_event_retries < 255) (h : Charged max_log_event_retries logger)
    (hflight : logger.in_flight[i]? = some flight) (hsubmitted : flight.submitted = true) :
    Charged max_log_event_retries (EventLogger.land conv
      { logger with in_flight := logger.in_flight.eraseIdx i } flight
      (settle max_log_event_retries logger.queue flight result).2
      (settle max_log_event_retries logger.queue flight result).1) := by
  rcases settle_cases max_log_event_retries logger.queue flight result with
    hend | hend | hend | hend | ⟨hfew, hend⟩
  · rw [hend]
    refine h.pay hflight rfl rfl rfl fun event => ?_
    show _ ≤ (logger.delivered ++ flight.batch.events).count event +
      logger.discarded.count event + logger.evicted.count event + logger.given_up.count event
    rw [List.count_append]
    omega
  · rw [hend]
    refine h.pay hflight rfl rfl rfl fun event => ?_
    show _ ≤ logger.delivered.count event + (logger.discarded ++ flight.batch.events).count event +
      logger.evicted.count event + logger.given_up.count event
    rw [List.count_append]
    omega
  · rw [hend]
    refine h.pay hflight rfl rfl rfl fun event => ?_
    show _ ≤ logger.delivered.count event + logger.discarded.count event +
      logger.evicted.count event + (logger.given_up ++ flight.batch.events).count event
    rw [List.count_append]
    omega
  · rw [hend]
    have hevicted := after_evicted conv { logger with in_flight := logger.in_flight.eraseIdx i }
      flight.batch.events rfl flight.batch.events.length
    refine h.pay hflight rfl rfl rfl fun event => ?_
    show _ ≤ logger.delivered.count event + logger.discarded.count event +
      (EventLogger.after conv _ _ _ _).evicted.count event + logger.given_up.count event
    rw [hevicted, Multiset.count_add, Multiset.coe_count]
    dsimp only
    omega
  · rw [hend]
    have hattempts := h.flying flight (List.mem_of_getElem? hflight)
    have hevicted := after_evicted conv { logger with in_flight := logger.in_flight.eraseIdx i } _
      (requeued_held conv logger.queue flight.batch) 0
    refine ⟨?_, fun f hf => h.flying f (List.mem_of_mem_eraseIdx hf), fun event => ?_⟩
    · intro batch hbatch
      rcases List.mem_append.mp hbatch with hold | hnew
      · exact h.stored batch hold
      · rw [List.mem_singleton.mp hnew]
        exact hfew
    · have hpaid := h.submitted event
      have htried : charge event [flight.batch.tried] = flight.charge event := by
        unfold charge Flight.charge
        rw [List.map_singleton, List.sum_singleton, tried_attempts hmax hattempts, hsubmitted]
        rfl
      rw [flight_charge_erase event hflight] at hpaid
      show logger.submitted.count event ≤
        charge event (logger.queue.batches ++ [flight.batch.tried]) +
        flight_charge event (logger.in_flight.eraseIdx i) + _ * (logger.delivered.count event +
          logger.discarded.count event + (EventLogger.after conv _ _ _ _).evicted.count event +
            logger.given_up.count event)
      rw [hevicted, charge_append, htried, add_zero]
      dsimp only
      omega

omit [DecidableEq E] in
/-- The batches after a reconciliation were there before, or were not tried yet. -/
theorem reconciled_attempts {queue queue' : EventQueue Q E}
    {gone new_batches : List (EventBatch E)}
    (hnew : ∀ batch ∈ new_batches, batch.attempts = 0)
    (hsplit : queue.full_batches ++ new_batches = gone ++ queue'.batches)
    (h : ∀ batch ∈ queue.batches, batch.attempts ≤ max_log_event_retries) :
    ∀ batch ∈ gone ++ queue'.batches, batch.attempts ≤ max_log_event_retries := by
  rw [← hsplit]
  intro batch hbatch
  rcases List.mem_append.mp hbatch with hfull | huntried
  · exact h batch (List.mem_of_mem_filter hfull)
  · rw [hnew batch huntried]
    exact UInt8.le_iff_toNat_le.mpr (Nat.zero_le _)

/-- A reconciliation that breaks up no tried batch loses no charge, but for those of
the batches that go. -/
theorem reconciled_charge {queue queue' : EventQueue Q E} {gone new_batches : List (EventBatch E)}
    (hnew : ∀ batch ∈ new_batches, batch.attempts = 0)
    (hsplit : queue.full_batches ++ new_batches = gone ++ queue'.batches)
    (hkeeps : ∀ batch ∈ queue.partial_batches, batch.attempts = 0) (event : E) :
    charge event queue.batches = charge event gone + charge event queue'.batches := by
  have hparts : charge event (queue.full_batches ++ queue.partial_batches) =
      charge event queue.batches :=
    ((List.filter_append_perm _ queue.batches).map _).sum_eq
  rw [← hparts, charge_append, charge_untried event hkeeps, ← charge_append event gone, ← hsplit,
    charge_append, charge_untried event hnew]

/-- The oldest batches take off with their charges. -/
theorem Charged.take_off {taken rest : List (EventBatch E)} {flights : List (Flight E)}
    (h : Charged max_log_event_retries logger) (hbatches : logger.queue.batches = taken ++ rest)
    (hflights : flights.map Flight.batch = taken)
    (hnot : ∀ flight ∈ flights, flight.submitted = false) :
    Charged max_log_event_retries { logger with
      queue := { logger.queue with batches := rest }
      in_flight := logger.in_flight ++ flights } := by
  have hstored := h.stored
  rw [hbatches] at hstored
  refine ⟨fun batch hbatch => hstored batch (List.mem_append_right _ hbatch), ?_, fun event => ?_⟩
  · intro flight hflight
    rcases List.mem_append.mp hflight with hold | hnew
    · exact h.flying flight hold
    · refine hstored flight.batch (List.mem_append_left _ ?_)
      rw [← hflights]
      exact List.mem_map_of_mem hnew
  · have hcharge : flight_charge event flights = charge event taken := by
      rw [← hflights]
      unfold flight_charge charge
      rw [List.map_map]
      refine congrArg List.sum (List.map_congr_left fun flight hflight => ?_)
      unfold Flight.charge
      rw [hnot flight hflight]
      rfl
    have hpaid := h.submitted event
    rw [hbatches, charge_append] at hpaid
    show _ ≤ charge event rest + flight_charge event (logger.in_flight ++ flights) + _
    rw [flight_charge_append, hcharge]
    dsimp only
    omega

/-- A queue operation pays for what it evicts. -/
theorem Charged.after {incoming gone : Multiset E} {queue : EventQueue Q E} {dropped : Nat}
    (h : Charged max_log_event_retries logger)
    (hheld : queue.held conv + gone = logger.queue.held conv + incoming)
    (hstored : ∀ batch ∈ queue.batches, batch.attempts ≤ max_log_event_retries)
    (hcharge : ∀ event, charge event logger.queue.batches ≤
      charge event queue.batches + (max_log_event_retries.toNat + 1) * gone.count event) :
    Charged max_log_event_retries (logger.after conv incoming queue dropped) := by
  refine ⟨hstored, h.flying, fun event => ?_⟩
  have hpaid := h.submitted event
  have hgone := hcharge event
  have hshare : (max_log_event_retries.toNat + 1) * (logger.delivered.count event +
        logger.discarded.count event + (logger.evicted.count event + gone.count event) +
        logger.given_up.count event) =
      (max_log_event_retries.toNat + 1) * (logger.delivered.count event +
        logger.discarded.count event + logger.evicted.count event +
        logger.given_up.count event) + (max_log_event_retries.toNat + 1) * gone.count event := by
    rw [← Nat.mul_add]
    exact congrArg _ (by omega)
  rw [after_evicted _ _ _ hheld dropped, Multiset.count_add]
  show logger.submitted.count event ≤ charge event queue.batches +
    flight_charge event logger.in_flight + (max_log_event_retries.toNat + 1) *
      (logger.delivered.count event + logger.discarded.count event +
        (logger.evicted.count event + gone.count event) + logger.given_up.count event)
  rw [hshare]
  omega

/-- Of the steps, only a reconciliation can lose a charge. -/
theorem step_charged {action : Action Q} (hmax : max_log_event_retries < 255)
    (h : Charged max_log_event_retries logger) (hkeeps : KeepsTriedBatches logger action)
    (hstep : logger.step conv max_log_event_retries action = some logger') :
    Charged max_log_event_retries logger' := by
  cases action with
  | add pending_event =>
    cases hstep
    obtain ⟨gone, -, hheld⟩ := add_keeps_events conv logger.queue pending_event
    have hbatches : (logger.queue.add true pending_event).2.batches = logger.queue.batches := by
      rcases logger.queue.add_cases pending_event with
        ⟨-, _, _, -, -, hadd⟩ | ⟨-, _, -, hadd⟩ <;> rw [hadd] <;> rfl
    have hafter : Charged max_log_event_retries (logger.after conv {conv pending_event}
        (logger.queue.add true pending_event).2 (logger.queue.add true pending_event).1.dropped) := by
      refine h.after hheld ?_ fun event => ?_
      · rw [hbatches]
        exact h.stored
      · rw [hbatches]
        exact Nat.le_add_right _ _
    exact ⟨hafter.stored, hafter.flying, hafter.submitted⟩
  | reconcile_batching =>
    obtain ⟨⟨result, queue⟩, hreconciled, rfl⟩ := Option.map_eq_some_iff.mp hstep
    obtain ⟨gone, -, hheld, hbatches⟩ := reconcile_keeps_events conv hreconciled
    rcases hbatches with ⟨rfl, hsame⟩ | ⟨hpending, new_batches, hnew, hsplit⟩
    · refine h.after (hheld.trans (add_zero _).symm) ?_ fun event => ?_
      · rw [hsame]
        exact h.stored
      · rw [hsame]
        exact Nat.le_add_right _ _
    · have hattempts := reconciled_attempts hnew hsplit h.stored
      refine h.after (hheld.trans (add_zero _).symm)
        (fun batch hbatch => hattempts batch (List.mem_append_right _ hbatch)) fun event => ?_
      have hgone := charge_le event fun batch hbatch =>
        hattempts batch (List.mem_append_left _ hbatch)
      rw [reconciled_charge hnew hsplit (hkeeps hpending) event]
      omega
  | take_next_batch flush_type =>
    obtain ⟨batch, rest, hbatches, rfl⟩ := step_take_next_batch hstep
    refine h.take_off hbatches rfl fun flight hflight => ?_
    rw [List.mem_singleton.mp hflight]
  | take_all_batches flush_type =>
    cases hstep
    refine h.take_off (List.append_nil _).symm ((List.map_map ..).trans (List.map_id _))
      fun flight hflight => ?_
    obtain ⟨batch, -, rfl⟩ := List.mem_map.mp hflight
    rfl
  | submit i =>
    obtain ⟨flight, hflight, hnot, rfl⟩ := step_submit hstep
    refine ⟨h.stored, ?_, fun event => ?_⟩
    · intro flight' hflight'
      rcases List.mem_or_eq_of_mem_set hflight' with hold | rfl
      · exact h.flying flight' hold
      · exact h.flying flight (List.mem_of_getElem? hflight)
    · have hset := flight_charge_set event { flight with submitted := true } hflight
      have hpaid := h.submitted event
      have hcharge : Flight.charge event { flight with submitted := true } =
          flight.charge event + flight.batch.events.count event := by
        unfold Flight.charge
        rw [hnot]
        exact Nat.succ_mul _ _
      show (logger.submitted ++ flight.batch.events).count event ≤
        _ + flight_charge event (logger.in_flight.set i { flight with submitted := true }) + _
      rw [List.count_append]
      dsimp only
      omega
  | settle i result =>
    obtain ⟨flight, hflight, hsubmitted, rfl⟩ := step_settle hstep
    exact h.land hmax hflight hsubmitted

end Step

/-- In every run in which no reconciliation breaks up a batch that was tried, the
adapter gets an event that was added once at most one time more than the retries. -/
theorem retries_are_bounded (conv : Q → E) (max_log_event_retries : UInt8)
    (hmax : max_log_event_retries < 255) (batch_size max_queue_size : Nat)
    (actions : List (Action Q)) (logger : EventLogger Q E)
    (hkeeps : Along (EventLogger.step conv max_log_event_retries) KeepsTriedBatches
      { queue := .new batch_size max_queue_size } actions)
    (hrun : run (EventLogger.step conv max_log_event_retries)
      { queue := .new batch_size max_queue_size } actions = some logger)
    (event : E) (honce : (logger.added.map conv).count event ≤ 1) :
    logger.submitted.count event ≤ max_log_event_retries.toNat + 1 := by
  have hstart : Charged max_log_event_retries
      ({ queue := .new batch_size max_queue_size } : EventLogger Q E) :=
    ⟨fun batch hbatch => absurd hbatch List.not_mem_nil,
      fun flight hflight => absurd hflight List.not_mem_nil, fun _ => Nat.zero_le _⟩
  have hcharged := run_invariant_along
    (fun _ _ _ h hkeeps hstep => step_charged hmax h hkeeps hstep) hkeeps hstart hrun
  have hplaces := congrArg (Multiset.count event) (run_balanced hrun).events
  simp only [Multiset.count_add, Multiset.coe_count, Multiset.count_zero] at hplaces
  have hstored := charge_le event hcharged.stored
  have hflying := flight_charge_le event hcharged.flying
  calc logger.submitted.count event
      ≤ (max_log_event_retries.toNat + 1) * (logger.queue.stored.count event +
          (batched (logger.in_flight.map Flight.batch)).count event +
          (logger.delivered.count event + logger.discarded.count event +
            logger.evicted.count event + logger.given_up.count event)) := by
        rw [Nat.mul_add, Nat.mul_add]
        exact (hcharged.submitted event).trans
          (Nat.add_le_add_right (Nat.add_le_add hstored hflying) _)
    _ ≤ (max_log_event_retries.toNat + 1) * 1 := Nat.mul_le_mul_left _ (by omega)
    _ = max_log_event_retries.toNat + 1 := Nat.mul_one _

/-- One event, and the flushes that fail until it is dropped. -/
def failing_flushes (flushes : Nat) : List (Action Nat) :=
  (List.replicate flushes [.reconcile_batching, .take_next_batch .ScheduledMaxTime, .submit 0,
    .settle 0 (.ok false)]).flatten

theorem lone_event_is_retried_within_bounds :
    ∃ logger : EventLogger Nat Nat,
      run (EventLogger.step id 1) { queue := .new 10 1 } (.add 0 :: failing_flushes 2) =
        some logger ∧
      logger.submitted.count 0 = 2 ∧ logger.submitted.count 0 ≤ (1 : UInt8).toNat + 1 := by
  have hcount : (run (EventLogger.step id 1) { queue := .new 10 1 }
      (.add 0 :: failing_flushes 2)).map (fun logger : EventLogger Nat Nat =>
        (logger.submitted.count 0, (logger.added.map id).count 0)) = some (2, 1) := by
    decide +kernel
  obtain ⟨logger, hrun, hends⟩ := Option.map_eq_some_iff.mp hcount
  obtain ⟨hsubmitted, hadded⟩ := Prod.mk.inj hends
  refine ⟨logger, hrun, hsubmitted, retries_are_bounded id 1 (by decide) 10 1 _ logger ?_ hrun 0
    hadded.le⟩
  decide +kernel

/-- An event, and a flush that fails before each of the events after it. -/
def regrouped_events (events : Nat) : List (Action Nat) :=
  .add 0 :: (List.range events).flatMap fun event =>
    [.reconcile_batching, .take_next_batch .ScheduledMaxTime, .submit 0, .settle 0 (.ok false),
      .add (event + 1)]

/-- With sizes that the options accept, the first of seven events goes to the adapter
seven times, and it is still in the queue. -/
theorem regrouped_event_is_retried_again :
    ∃ logger : EventLogger Nat Nat,
      run (EventLogger.step id MAX_LOG_EVENT_RETRIES)
        (EventLogger.new (StatsigOptions.validate_and_fix
          ⟨some MIN_BATCH_SIZE, some MIN_PENDING_BATCH_COUNT⟩)) (regrouped_events 7) = some logger ∧
      logger.added.count 0 = 1 ∧ logger.delivered = [] ∧
      MAX_LOG_EVENT_RETRIES.toNat + 1 < logger.submitted.count 0 := by
  have hcount : (run (EventLogger.step id MAX_LOG_EVENT_RETRIES)
      (EventLogger.new (StatsigOptions.validate_and_fix
        ⟨some MIN_BATCH_SIZE, some MIN_PENDING_BATCH_COUNT⟩)) (regrouped_events 7)).map
      (fun logger : EventLogger Nat Nat =>
        (logger.added.count 0, logger.delivered, logger.submitted.count 0)) = some (1, [], 7) := by
    decide +kernel
  obtain ⟨logger, hrun, hends⟩ := Option.map_eq_some_iff.mp hcount
  obtain ⟨hadded, hrest⟩ := Prod.mk.inj hends
  obtain ⟨hdelivered, hsubmitted⟩ := Prod.mk.inj hrest
  exact ⟨logger, hrun, hadded, hdelivered, by rw [hsubmitted]; decide⟩

end statsig_rust.event_logging
