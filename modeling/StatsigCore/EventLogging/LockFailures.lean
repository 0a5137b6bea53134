-- Locks that are not taken in time. An operation takes events out of one place
-- before it locks the next one, so each lock that fails leaves its own state behind.
import StatsigCore.EventLogging.Conservation

namespace statsig_rust.event_logging

variable {Q E : Type}

/-- Every event that the queue held or that came in is still held, or it is in the
count that the caller gets. -/
def Accounted (conv : Q → E) (queue : EventQueue Q E) (incoming : Multiset E)
    (queue' : EventQueue Q E) (dropped : Nat) : Prop :=
  ∃ gone : Multiset E, gone.card = dropped ∧
    queue'.held conv + gone = queue.held conv + incoming

variable {conv : Q → E} {queue queue' : EventQueue Q E}

theorem accounted_same (conv : Q → E) (queue : EventQueue Q E) : Accounted conv queue 0 queue 0 :=
  ⟨0, rfl, rfl⟩

/-- A batch that is not stored is counted, whatever kept it out. -/
theorem requeue_accounted (conv : Q → E) (queue : EventQueue Q E) (locked : Bool)
    (batch : EventBatch E) :
    Accounted conv queue batch.events (queue.requeue_batch locked batch).2
      (queue.requeue_batch locked batch).1.dropped := by
  cases locked with
  | false => exact ⟨batch.events, rfl, rfl⟩
  | true =>
    rcases queue.requeue_cases batch with ⟨-, hdropped⟩ | ⟨-, hstored⟩
    · rw [hdropped]
      exact ⟨batch.events, rfl, rfl⟩
    · rw [hstored]
      refine ⟨0, rfl, ?_⟩
      unfold EventQueue.held EventQueue.stored
      dsimp only
      rw [batched_append, batched_singleton, add_zero, ← add_assoc]
      rfl

/-- The drain takes all the pending events or none of them. -/
theorem drain_accounted (conv : Q → E) (queue : EventQueue Q E) (locked : Nat → Bool) :
    ((queue.take_all_pending_events locked).1.map conv : Multiset E) +
        (queue.take_all_pending_events locked).2.held conv = queue.held conv ∧
      (¬ (∀ shard < queue.pending_shards.length, locked shard = true) →
        queue.take_all_pending_events locked = ([], queue)) := by
  by_cases hlocked : (List.range queue.pending_shards.length).all locked = true
  · have htaken : queue.take_all_pending_events locked =
        (queue.pending_in_order, queue.drained) := if_pos hlocked
    constructor
    · rw [htaken]
      dsimp only
      unfold EventQueue.held
      rw [pending_in_order_sent, drained_pending, zero_add]
      rfl
    · intro hnot
      refine absurd (fun shard hshard => ?_) hnot
      exact List.all_eq_true.mp hlocked shard (List.mem_range.mpr hshard)
  · have htaken : queue.take_all_pending_events locked = ([], queue) := if_neg hlocked
    rw [htaken]
    exact ⟨zero_add _, fun _ => rfl⟩

/-- A reconciliation that fails to lock a shard changes nothing, and one with all its
locks counts what it drops. -/
theorem reconcile_accounted {shards_locked : Nat → Bool} {batches_locked : Bool}
    {result : QueueReconcileResult}
    (h : queue.reconcile_batching conv shards_locked batches_locked = some (result, queue'))
    (hresult : result ≠ .LockFailure) : Accounted conv queue 0 queue' result.dropped := by
  rcases EventQueue.reconcile_locks h with ⟨rfl, rfl⟩ | ⟨-, rfl, -⟩ | hlocked
  · exact accounted_same conv _
  · exact absurd rfl hresult
  · obtain ⟨gone, hcount, hkeeps, -⟩ := reconcile_keeps_events conv hlocked
    exact ⟨batched gone, hcount, hkeeps.trans (add_zero _).symm⟩

/-- Whatever locks fail, only an add that does not get its shard loses an event, and
that event is its own. It answers as if there was nothing to do, and the events of the
queue stay as they were. -/
theorem lock_failures_lose_only_the_event_of_an_add (conv : Q → E) (queue : EventQueue Q E) :
    (∀ event, Accounted conv queue {conv event} (queue.add true event).2
      (queue.add true event).1.dropped) ∧
    (∀ event, (queue.add false event).1 = .Noop ∧
      (queue.add false event).2.held conv = queue.held conv) ∧
    (∀ locked batch, Accounted conv queue batch.events (queue.requeue_batch locked batch).2
      (queue.requeue_batch locked batch).1.dropped) ∧
    (∀ locked, ((queue.take_all_pending_events locked).1.map conv : Multiset E) +
        (queue.take_all_pending_events locked).2.held conv = queue.held conv ∧
      (¬ (∀ shard < queue.pending_shards.length, locked shard = true) →
        queue.take_all_pending_events locked = ([], queue))) ∧
    (∀ shards_locked batches_locked result queue',
      queue.reconcile_batching conv shards_locked batches_locked = some (result, queue') →
      result ≠ .LockFailure → Accounted conv queue 0 queue' result.dropped) := by
  refine ⟨fun event => add_keeps_events conv queue event, fun event => ⟨rfl, rfl⟩,
    requeue_accounted conv queue, drain_accounted conv queue, ?_⟩
  intro shards_locked batches_locked result queue' h hresult
  exact reconcile_accounted h hresult

/-- An add to an empty queue that does not get its shard: the event is nowhere, and no
drop is reported. -/
theorem add_without_its_lock_is_not_accounted :
    ¬ Accounted id (EventQueue.new 10 1 : EventQueue Nat Nat) {0}
      ((EventQueue.new 10 1 : EventQueue Nat Nat).add false 0).2
      ((EventQueue.new 10 1 : EventQueue Nat Nat).add false 0).1.dropped := by
  rintro ⟨gone, hcount, hkeeps⟩
  have hcards := congrArg Multiset.card hkeeps
  have hsame : ((EventQueue.new 10 1 : EventQueue Nat Nat).add false 0).2.held id =
      (EventQueue.new 10 1 : EventQueue Nat Nat).held id := rfl
  rw [Multiset.card_add, Multiset.card_add, hcount, hsame, Multiset.card_singleton] at hcards
  have hdropped : ((EventQueue.new 10 1 : EventQueue Nat Nat).add false 0).1.dropped = 0 := rfl
  omega

end statsig_rust.event_logging
