-- Runs of the event queue alone: its operations one after the other, in any order
-- and with any lock that is taken in time or not. The store of batches stays within
-- its bound just while every batch that comes back finds a free place.
import StatsigCore.EventLogging.Conservation

open machine

namespace statsig_rust.event_logging

variable {Q E : Type}

/-- A queue, and a record of what went in and came out so far. -/
structure QueueRun (Q E : Type) where
  queue : EventQueue Q E
  added : List Q := []
  handed_out : List (EventBatch E) := []
  /-- The sum of the drop counts that the queue returned. -/
  dropped : Nat := 0

def QueueRun.start (batch_size max_queue_size : Nat) : QueueRun Q E where
  queue := .new batch_size max_queue_size

/-- An operation, with the locks that it takes in time. -/
inductive QueueAction (Q E : Type) where
  | add (locked : Bool) (pending_event : Q)
  | reconcile_batching (shards_locked : Nat → Bool) (batches_locked : Bool)
  | requeue_batch (locked : Bool) (batch : EventBatch E)
  | take_next_batch (locked : Bool)
  | take_all_batches (locked : Bool)

def QueueAction.all_locked : QueueAction Q E → Prop
  | .add locked _ => locked = true
  | .reconcile_batching shards_locked batches_locked =>
    (∀ shard, shards_locked shard = true) ∧ batches_locked = true
  | .requeue_batch locked _ => locked = true
  | .take_next_batch locked => locked = true
  | .take_all_batches locked => locked = true

/-- `none` when the operation does not end. -/
def QueueRun.step (into_statsig_event_internal : Q → E) (run : QueueRun Q E) :
    QueueAction Q E → Option (QueueRun Q E)
  | .add locked pending_event =>
    let (result, queue) := run.queue.add locked pending_event
    some { run with
      queue
      added := run.added ++ [pending_event]
      dropped := run.dropped + result.dropped }
  | .reconcile_batching shards_locked batches_locked =>
    (run.queue.reconcile_batching into_statsig_event_internal shards_locked batches_locked).map
      fun (result, queue) => { run with queue, dropped := run.dropped + result.dropped }
  | .requeue_batch locked batch =>
    let (result, queue) := run.queue.requeue_batch locked batch
    some { run with queue, dropped := run.dropped + result.dropped }
  | .take_next_batch locked =>
    let (batch, queue) := run.queue.take_next_batch locked
    some { run with queue, handed_out := run.handed_out ++ batch.toList }
  | .take_all_batches locked =>
    let (batches, queue) := run.queue.take_all_batches locked
    some { run with queue, handed_out := run.handed_out ++ batches }

/-- A take hands out the front of the store: nothing, the oldest batch or all of it. -/
theorem take_next_batch_cases (queue : EventQueue Q E) (locked : Bool) :
    ∃ rest, queue.batches = (queue.take_next_batch locked).1.toList ++ rest ∧
      (queue.take_next_batch locked).2 = { queue with batches := rest } := by
  cases locked with
  | false => exact ⟨queue.batches, rfl, rfl⟩
  | true =>
    rcases hbatches : queue.batches with _ | ⟨batch, rest⟩
    · have hnone : queue.take_next_batch true = (none, queue) := by
        simp [EventQueue.take_next_batch, hbatches]
      rw [hnone, ← hbatches]
      exact ⟨queue.batches, rfl, rfl⟩
    · have hsome : queue.take_next_batch true = (some batch, { queue with batches := rest }) := by
        simp [EventQueue.take_next_batch, hbatches]
      rw [hsome]
      exact ⟨rest, rfl, rfl⟩

theorem take_all_batches_cases (queue : EventQueue Q E) (locked : Bool) :
    ∃ rest, queue.batches = (queue.take_all_batches locked).1 ++ rest ∧
      (queue.take_all_batches locked).2 = { queue with batches := rest } := by
  cases locked with
  | false => exact ⟨queue.batches, rfl, rfl⟩
  | true => exact ⟨[], (List.append_nil _).symm, rfl⟩

/-- All that a step can do. -/
inductive QueueStep (conv : Q → E) (run : QueueRun Q E) : QueueAction Q E → QueueRun Q E → Prop
  | add (locked : Bool) (event : Q) : QueueStep conv run (.add locked event)
      { run with
        queue := (run.queue.add locked event).2
        added := run.added ++ [event]
        dropped := run.dropped + (run.queue.add locked event).1.dropped }
  | reconcile {shards_locked : Nat → Bool} {batches_locked : Bool}
      {result : QueueReconcileResult} {queue : EventQueue Q E} :
      run.queue.reconcile_batching conv shards_locked batches_locked = some (result, queue) →
      QueueStep conv run (.reconcile_batching shards_locked batches_locked)
        { run with queue, dropped := run.dropped + result.dropped }
  | requeue (locked : Bool) (batch : EventBatch E) :
    QueueStep conv run (.requeue_batch locked batch)
      { run with
        queue := (run.queue.requeue_batch locked batch).2
        dropped := run.dropped + (run.queue.requeue_batch locked batch).1.dropped }
  | take {action : QueueAction Q E} {taken rest : List (EventBatch E)} (locked : Bool) :
      action = .take_next_batch locked ∨ action = .take_all_batches locked →
      run.queue.batches = taken ++ rest → QueueStep conv run action
        { run with
          queue := { run.queue with batches := rest }
          handed_out := run.handed_out ++ taken }

theorem queue_step {conv : Q → E} {run run' : QueueRun Q E} {action : QueueAction Q E}
    (h : run.step conv action = some run') : QueueStep conv run action run' := by
  cases action with
  | add locked event =>
    rw [← Option.some.inj h]
    exact .add locked event
  | reconcile_batching shards_locked batches_locked =>
    obtain ⟨⟨result, queue⟩, hreconcile, rfl⟩ := Option.map_eq_some_iff.mp h
    exact .reconcile hreconcile
  | requeue_batch locked batch =>
    rw [← Option.some.inj h]
    exact .requeue locked batch
  | take_next_batch locked =>
    obtain ⟨rest, htaken, hqueue⟩ := take_next_batch_cases run.queue locked
    obtain rfl : { run with
        queue := (run.queue.take_next_batch locked).2
        handed_out := run.handed_out ++ (run.queue.take_next_batch locked).1.toList } = run' :=
      Option.some.inj h
    rw [hqueue]
    exact .take locked (.inl rfl) htaken
  | take_all_batches locked =>
    obtain ⟨rest, htaken, hqueue⟩ := take_all_batches_cases run.queue locked
    obtain rfl : { run with
        queue := (run.queue.take_all_batches locked).2
        handed_out := run.handed_out ++ (run.queue.take_all_batches locked).1 } = run' :=
      Option.some.inj h
    rw [hqueue]
    exact .take locked (.inr rfl) htaken

/-! ## The store of batches -/

/-- A batch that is neither empty nor too large. -/
def EventBatch.fits (batch_size : Nat) (batch : EventBatch E) : Prop :=
  0 < batch.events.length ∧ batch.events.length ≤ batch_size

structure EventQueue.store_bounded (queue : EventQueue Q E) : Prop where
  count : queue.batches.length ≤ queue.max_pending_batches
  sizes : ∀ batch ∈ queue.batches, batch.fits queue.batch_size

/-- With a batch size of 0, no turn takes an event. -/
theorem create_batches_zero (turns : Nat) {events : List E} (h : events ≠ []) :
    EventQueue.create_batches_in 0 turns events = none := by
  induction turns with
  | zero =>
    cases events with
    | nil => exact absurd rfl h
    | cons event events => rfl
  | succ turns ih =>
    cases events with
    | nil => exact absurd rfl h
    | cons event events =>
      unfold EventQueue.create_batches_in
      simp [ih]

theorem create_batches_fit {batch_size turns : Nat} {events : List E}
    {batches : List (EventBatch E)}
    (h : EventQueue.create_batches_in batch_size turns events = some batches) :
    ∀ batch ∈ batches, batch.fits batch_size := by
  induction turns generalizing events batches with
  | zero =>
    cases events with
    | nil =>
      cases h
      simp
    | cons event events => cases h
  | succ turns ih =>
    cases events with
    | nil =>
      cases h
      simp
    | cons event events =>
      have hpos : batch_size ≠ 0 := by
        rintro rfl
        rw [create_batches_zero _ (by simp)] at h
        cases h
      unfold EventQueue.create_batches_in at h
      obtain ⟨rest, hrest, rfl⟩ := Option.map_eq_some_iff.mp h
      intro batch hbatch
      rcases List.mem_cons.mp hbatch with rfl | hmem
      · unfold EventBatch.fits EventBatch.new
        simp only [List.length_take, List.length_cons]
        omega
      · exact ih hrest batch hmem

/-- What is left after the oldest batches went is no more than allowed. -/
theorem clamp_batches_length (max_pending_batches : Nat) (batches : List (EventBatch E)) :
    (EventQueue.clamp_batches max_pending_batches batches).2.length ≤ max_pending_batches := by
  induction batches with
  | nil => exact Nat.zero_le _
  | cons batch batches ih =>
    unfold EventQueue.clamp_batches
    split
    · exact ih
    · exact Nat.le_of_not_lt ‹_›

/-- The sizes that a queue was made with do not change. -/
theorem add_keeps_store (queue : EventQueue Q E) (locked : Bool) (event : Q) :
    (queue.add locked event).2.batches = queue.batches ∧
      (queue.add locked event).2.batch_size = queue.batch_size ∧
      (queue.add locked event).2.max_pending_batches = queue.max_pending_batches := by
  cases locked with
  | false => exact ⟨rfl, rfl, rfl⟩
  | true =>
    rcases queue.add_cases event with ⟨-, _, _, -, -, h⟩ | ⟨-, _, -, h⟩
    · rw [h]
      exact ⟨rfl, rfl, rfl⟩
    · rw [h]
      exact ⟨rfl, rfl, rfl⟩

section Store

variable {conv : Q → E} {queue queue' : EventQueue Q E} {result : QueueReconcileResult}

/-- Fewer batches of a bounded store are within the bound too. -/
theorem EventQueue.store_bounded.fewer {batches : List (EventBatch E)} (h : queue.store_bounded)
    (hfewer : batches.Sublist queue.batches) : store_bounded { queue with batches } := by
  constructor
  · exact hfewer.length_le.trans h.count
  · exact fun batch hbatch => h.sizes batch (hfewer.subset hbatch)

theorem reconcile_keeps_store {shards_locked : Nat → Bool} {batches_locked : Bool}
    (hbounded : queue.store_bounded)
    (h : queue.reconcile_batching conv shards_locked batches_locked = some (result, queue')) :
    queue'.store_bounded := by
  rcases EventQueue.reconcile_locks h with ⟨-, rfl⟩ | ⟨-, -, rfl⟩ | hlocked
  · exact hbounded
  · exact ⟨hbounded.count, hbounded.sizes⟩
  · rcases EventQueue.reconcile_cases hlocked with ⟨-, -, rfl⟩ | ⟨new_batches, -, hnew, -, rfl⟩
    · exact ⟨hbounded.count, hbounded.sizes⟩
    · constructor
      · exact clamp_batches_length _ _
      · intro batch hbatch
        obtain ⟨gone, hsplit, -⟩ := clamp_batches_splits queue.max_pending_batches
          (queue.full_batches ++ new_batches)
        have hmem : batch ∈ queue.full_batches ++ new_batches := by
          rw [hsplit]
          exact List.mem_append_right gone hbatch
        rcases List.mem_append.mp hmem with hfull | hmem
        · exact hbounded.sizes batch (List.mem_filter.mp hfull).1
        · exact create_batches_fit hnew batch hmem

/-- A batch that comes back keeps the store within its bound just when it finds a
free place, and fits. -/
theorem requeue_keeps_store_iff (hbounded : queue.store_bounded) (batch : EventBatch E) :
    (queue.requeue_batch true batch).2.store_bounded ↔
      queue.batches.length < queue.max_pending_batches ∧ batch.fits queue.batch_size := by
  have hcount := hbounded.count
  rcases queue.requeue_cases batch with ⟨hover, -⟩ | ⟨-, hstored⟩
  · omega
  · rw [hstored]
    constructor
    · rintro ⟨hlength, hsizes⟩
      rw [List.length_append, List.length_singleton] at hlength
      exact ⟨hlength, hsizes batch (by simp)⟩
    · rintro ⟨hroom, hfits⟩
      constructor
      · rw [List.length_append, List.length_singleton]
        exact hroom
      · intro other hother
        rcases List.mem_append.mp hother with hold | hlast
        · exact hbounded.sizes other hold
        · rw [List.mem_singleton.mp hlast]
          exact hfits

end Store

section Runs

variable {conv : Q → E} {run run' : QueueRun Q E}

/-- A batch that comes back has events, no more than a batch may have, and there is a
place for it. Every batch that was handed out has so many events. -/
def QueueRun.has_room (run : QueueRun Q E) : QueueAction Q E → Prop
  | .requeue_batch locked batch => locked = true →
    run.queue.batches.length < run.queue.max_pending_batches ∧ batch.fits run.queue.batch_size
  | _ => True

theorem step_keeps_store_iff {action : QueueAction Q E} (hbounded : run.queue.store_bounded)
    (h : run.step conv action = some run') :
    run'.queue.store_bounded ↔ run.has_room action := by
  cases queue_step h with
  | add locked event =>
    obtain ⟨hbatches, hsize, hmax⟩ := add_keeps_store run.queue locked event
    refine iff_of_true ⟨?_, ?_⟩ trivial
    · dsimp only
      rw [hbatches, hmax]
      exact hbounded.count
    · dsimp only
      rw [hbatches, hsize]
      exact hbounded.sizes
  | reconcile hreconcile => exact iff_of_true (reconcile_keeps_store hbounded hreconcile) trivial
  | requeue locked batch =>
    cases locked with
    | false => exact iff_of_true hbounded (fun hlocked => nomatch hlocked)
    | true =>
      rw [requeue_keeps_store_iff hbounded batch]
      exact ⟨fun hroom _ => hroom, fun hroom => hroom rfl⟩
  | take locked haction hbatches =>
    refine iff_of_true (hbounded.fewer (by simp [hbatches])) ?_
    rcases haction with rfl | rfl
    · trivial
    · trivial

theorem start_store_bounded (batch_size max_queue_size : Nat) :
    (QueueRun.start batch_size max_queue_size : QueueRun Q E).queue.store_bounded :=
  ⟨Nat.zero_le _, fun _ hbatch => absurd hbatch List.not_mem_nil⟩

theorem step_keeps_batch_size {action : QueueAction Q E} (h : run.step conv action = some run') :
    run'.queue.batch_size = run.queue.batch_size := by
  cases queue_step h with
  | add locked event => exact (add_keeps_store run.queue locked event).2.1
  | reconcile hreconcile =>
    rcases EventQueue.reconcile_locks hreconcile with ⟨-, rfl⟩ | ⟨-, -, rfl⟩ | hlocked
    · rfl
    · rfl
    · rcases EventQueue.reconcile_cases hlocked with ⟨-, -, rfl⟩ | ⟨_, -, -, -, rfl⟩
      · rfl
      · rfl
  | requeue locked batch =>
    cases locked with
    | false => rfl
    | true =>
      rcases run.queue.requeue_cases batch with ⟨-, hqueue⟩ | ⟨-, hqueue⟩
      · rw [hqueue]
      · rw [hqueue]
  | take locked haction hbatches => rfl

/-- What the queue hands out may come back: it has the size of a batch. -/
theorem handed_out_batches_fit {batch_size max_queue_size : Nat}
    {actions : List (QueueAction Q E)}
    (hroom : Along (QueueRun.step conv) QueueRun.has_room (.start batch_size max_queue_size)
      actions)
    (hrun : machine.run (QueueRun.step conv) (.start batch_size max_queue_size) actions =
      some run) :
    ∀ batch ∈ run.handed_out, batch.fits run.queue.batch_size := by
  refine (run_invariant_along (I := fun run => run.queue.store_bounded ∧
    ∀ batch ∈ run.handed_out, batch.fits run.queue.batch_size) ?_ hroom
    ⟨start_store_bounded batch_size max_queue_size, by simp [QueueRun.start]⟩ hrun).2
  rintro run action run' ⟨hbounded, hfit⟩ hroom hstep
  refine ⟨(step_keeps_store_iff hbounded hstep).mpr hroom, ?_⟩
  rw [step_keeps_batch_size hstep]
  cases queue_step hstep with
  | add | reconcile | requeue => exact hfit
  | take locked haction hbatches =>
    intro batch hbatch
    rcases List.mem_append.mp hbatch with hold | hnew
    · exact hfit batch hold
    · exact hbounded.sizes batch (hbatches ▸ List.mem_append_left _ hnew)

/-- An operation that does not end is a reconciliation. -/
theorem room_for_endless_step (conv : Q → E) (run : QueueRun Q E) (action : QueueAction Q E)
    (h : run.step conv action = none) : run.has_room action := by
  cases action with
  | requeue_batch locked batch => cases h
  | add | reconcile_batching | take_next_batch | take_all_batches => trivial

/-- The store is within its bound all through a run just when every batch that comes
back finds a free place, and fits. -/
theorem store_bounded_iff_room (conv : Q → E) (batch_size max_queue_size : Nat)
    (actions : List (QueueAction Q E)) :
    (∀ n run, machine.run (QueueRun.step conv) (.start batch_size max_queue_size)
        (actions.take n) = some run → run.queue.store_bounded) ↔
      Along (QueueRun.step conv) QueueRun.has_room (.start batch_size max_queue_size) actions :=
  invariant_iff_along (I := fun run => run.queue.store_bounded)
    (fun _ _ _ => step_keeps_store_iff) (room_for_endless_step conv)
    (start_store_bounded batch_size max_queue_size) actions

/-- A batch is in flight while its place is taken, and then it comes back. -/
def late_requeue : List (QueueAction Nat Nat) :=
  [.add true 0, .reconcile_batching (fun _ => true) true, .take_next_batch true,
    .add true 1, .reconcile_batching (fun _ => true) true,
    .requeue_batch true { attempts := 1, events := [0] }]

/-- The batch comes back to a store that is full, and it is stored. -/
theorem late_requeue_overfills_the_store :
    ∃ run, machine.run (QueueRun.step id) (.start 10 1) late_requeue = some run ∧
      run.handed_out.map EventBatch.events = [[0]] ∧ ¬ run.queue.store_bounded := by
  have hlast : (machine.run (QueueRun.step id) (.start 10 1) late_requeue).map (fun run =>
      (run.handed_out.map EventBatch.events, run.queue.batches.length,
        run.queue.max_pending_batches)) = some ([[0]], 2, 1) := by decide +kernel
  obtain ⟨run, hrun, hvalues⟩ := Option.map_eq_some_iff.mp hlast
  simp only [Prod.mk.injEq] at hvalues
  refine ⟨run, hrun, hvalues.1, fun hbounded => ?_⟩
  have hcount := hbounded.count
  omega

end Runs

end statsig_rust.event_logging
