-- The order of the events. The queue sorts the pending events by their numbers, so
-- they come out in the order of the adds. That order is kept all through a run, as
-- long as no reconciliation finds a batch that is not full: its events are older
-- than the pending ones, and are put behind them.
import StatsigCore.EventLogging.QueueRuns

open machine

namespace statsig_rust.event_logging

variable {Q E : Type}

/-! ## Sorting by the numbers -/

/-- A list in strict order is what any sort of its events gives. -/
theorem sort_of_perm {shuffled events : List (SequencedEvent Q)} (hperm : shuffled.Perm events)
    (hincreasing : events.Pairwise fun first second => first.1 < second.1) :
    shuffled.insertionSort (fun first second => first.1 ≤ second.1) = events := by
  have : Std.Total fun first second : SequencedEvent Q => first.1 ≤ second.1 :=
    ⟨fun first second => Nat.le_total first.1 second.1⟩
  have : IsTrans (SequencedEvent Q) fun first second => first.1 ≤ second.1 :=
    ⟨fun _ _ _ hfirst hsecond => Nat.le_trans hfirst hsecond⟩
  have hdistinct : (events.map Prod.fst).Nodup :=
    List.pairwise_map.mpr (hincreasing.imp fun hlt => Nat.ne_of_lt hlt)
  have hsame := (List.perm_insertionSort (fun first second : SequencedEvent Q =>
    first.1 ≤ second.1) shuffled).trans hperm
  apply hsame.eq_of_pairwise
  · intro first second hfirst hsecond hle hge
    exact List.inj_on_of_nodup_map hdistinct (hsame.subset hfirst) hsecond (Nat.le_antisymm hle hge)
  · exact List.pairwise_insertionSort _ _
  · exact hincreasing.imp fun hlt => Nat.le_of_lt hlt

/-- The pending events in their order, with their numbers. -/
structure Lined (queue : EventQueue Q E) (events : List (SequencedEvent Q)) : Prop where
  perm : queue.pending_shards.flatten.Perm events
  increasing : events.Pairwise fun first second => first.1 < second.1
  below : ∀ event ∈ events, event.1 < queue.next_seq

theorem Lined.pending_in_order {queue : EventQueue Q E} {events : List (SequencedEvent Q)}
    (h : Lined queue events) : queue.pending_in_order = events.map Prod.snd :=
  congrArg (List.map Prod.snd) (sort_of_perm h.perm h.increasing)

theorem Lined.drained (queue : EventQueue Q E) : Lined queue.drained [] := by
  constructor
  · simp [EventQueue.drained]
  · exact .nil
  · simp

/-- Fewer events are in order too. -/
theorem Lined.fewer {queue queue' : EventQueue Q E} {events events' : List (SequencedEvent Q)}
    (h : Lined queue events) (hperm : queue'.pending_shards.flatten.Perm events')
    (hfewer : events'.Sublist events) (hseq : queue.next_seq ≤ queue'.next_seq) :
    Lined queue' events' := by
  refine ⟨hperm, h.increasing.sublist hfewer, ?_⟩
  intro event hevent
  exact Nat.lt_of_lt_of_le (h.below event (hfewer.subset hevent)) hseq

/-- With the event that an add pushes, the shards hold one more. What the add takes
off the front of its shard they do not hold. -/
theorem after_add_perm (queue : EventQueue Q E) (gone : List (SequencedEvent Q))
    {shard : List (SequencedEvent Q)} {event : Q}
    (hshard : queue.pushed_shard event = gone ++ shard) (count : Nat) :
    (gone ++ (queue.after_add shard count).pending_shards.flatten).Perm
      (queue.pending_shards.flatten ++ [(queue.next_seq, event)]) := by
  have hset := flatten_set queue.pending_shards
    (Nat.mod_lt queue.next_shard queue.has_shard) shard
  have hpushed := congrArg (fun l : List (SequencedEvent Q) => (l : Multiset (SequencedEvent Q)))
    hshard
  unfold EventQueue.pushed_shard at hpushed
  simp only [← Multiset.coe_add] at hpushed
  apply Multiset.coe_eq_coe.mp
  rw [← Multiset.coe_add, ← Multiset.coe_add]
  apply add_right_cancel (b := (↑(queue.pending_shards.getD
      (queue.next_shard % queue.pending_shards.length) []) : Multiset (SequencedEvent Q)))
  have hafter : (queue.after_add shard count).pending_shards = queue.pending_shards.set
      (queue.next_shard % queue.pending_shards.length) shard := rfl
  rw [hafter, add_assoc, hset, add_left_comm, ← hpushed]
  abel

/-- A new event is the last in the order. -/
theorem Lined.push {queue queue' : EventQueue Q E} {events : List (SequencedEvent Q)}
    (h : Lined queue events) (event : Q) (hseq : queue'.next_seq = queue.next_seq + 1)
    (hperm : queue'.pending_shards.flatten.Perm (events ++ [(queue.next_seq, event)])) :
    Lined queue' (events ++ [(queue.next_seq, event)]) := by
  refine ⟨hperm, ?_, ?_⟩
  · apply List.pairwise_append.mpr
    refine ⟨h.increasing, List.pairwise_singleton _ _, ?_⟩
    intro first hfirst second hsecond
    rw [List.mem_singleton.mp hsecond]
    exact h.below first hfirst
  · intro other hother
    rw [hseq]
    rcases List.mem_append.mp hother with hold | hlast
    · exact Nat.lt_succ_of_lt (h.below other hold)
    · rw [List.mem_singleton.mp hlast]
      exact Nat.lt_succ_self _

/-- An add puts its event last, and may evict one. -/
theorem Lined.add {queue : EventQueue Q E} {events : List (SequencedEvent Q)}
    (h : Lined queue events) (locked : Bool) (event : Q) :
    ∃ events', Lined (queue.add locked event).2 events' ∧
      events'.Sublist (events ++ [(queue.next_seq, event)]) ∧
      (locked = true → (queue.add locked event).1.dropped = 0 →
        events' = events ++ [(queue.next_seq, event)]) := by
  cases locked with
  | false =>
    refine ⟨events, ⟨h.perm, h.increasing, h.below⟩, List.sublist_append_left _ _, ?_⟩
    exact fun hlocked => nomatch hlocked
  | true =>
    rcases queue.add_cases event with ⟨-, oldest, rest, hshard, -, hadd⟩ | ⟨-, result, -, hadd⟩
    · -- the shards lose their oldest event, wherever it is in the order
      have hperm := (after_add_perm queue [oldest] hshard queue.pending_count).trans
        (h.perm.append_right _)
      obtain ⟨before, behind, hsplit⟩ := List.append_of_mem (hperm.subset (List.mem_cons_self ..))
      have hrest : (queue.after_add rest queue.pending_count).pending_shards.flatten.Perm
          (before ++ behind) := by
        apply List.Perm.cons_inv (a := oldest)
        rw [hsplit] at hperm
        exact hperm.trans List.perm_middle
      have hfewer : (before ++ behind).Sublist (events ++ [(queue.next_seq, event)]) := by
        rw [hsplit]
        exact (List.sublist_cons_self oldest behind).append_left before
      rw [hadd]
      refine ⟨before ++ behind, ?_, hfewer, fun _ hnone => nomatch hnone⟩
      have hpushed : Lined { queue with
          pending_shards := [events ++ [(queue.next_seq, event)]]
          has_shard := Nat.one_pos
          next_seq := queue.next_seq + 1 } (events ++ [(queue.next_seq, event)]) :=
        h.push event rfl (by simp)
      exact hpushed.fewer hrest hfewer (Nat.le_refl _)
    · have hnone : queue.pushed_shard event = [] ++ queue.pushed_shard event := rfl
      have hperm := (after_add_perm queue [] hnone (queue.pending_count + 1)).trans
        (h.perm.append_right _)
      rw [hadd]
      exact ⟨_, h.push event rfl hperm, List.Sublist.refl _, fun _ _ => rfl⟩

/-! ## The line of the events -/

/-- The events in the order in which the queue would hand them out: those of the
batches, and then the pending ones. -/
def EventQueue.in_line (conv : Q → E) (queue : EventQueue Q E) : List E :=
  queue.batches.flatMap EventBatch.events ++ queue.pending_in_order.map conv

/-- What was handed out, and what is in line for it. -/
def QueueRun.in_line (conv : Q → E) (run : QueueRun Q E) : List E :=
  run.handed_out.flatMap EventBatch.events ++ run.queue.in_line conv

/-- Once the pending events are taken, only the batches are in line. -/
theorem drained_in_line (conv : Q → E) (queue : EventQueue Q E) (batches : List (EventBatch E)) :
    EventQueue.in_line conv { queue.drained with batches } = batches.flatMap EventBatch.events := by
  have hlined : Lined { queue.drained with batches } [] := by
    obtain ⟨hperm, hincreasing, hbelow⟩ := Lined.drained queue
    exact ⟨hperm, hincreasing, hbelow⟩
  unfold EventQueue.in_line
  rw [hlined.pending_in_order]
  exact List.append_nil _

section Reconcile

variable {conv : Q → E} {queue queue' : EventQueue Q E} {result : QueueReconcileResult}

/-- With no batch that is not full, a reconciliation puts the pending events behind
the stored ones. What it drops was at the front. -/
theorem reconcile_drops_front
    (horder : queue.pending_in_order ≠ [] → queue.partial_batches = [])
    (h : queue.reconcile_batching conv (fun _ => true) true = some (result, queue')) :
    ∃ gone, gone.length = result.dropped ∧ gone ++ queue'.in_line conv = queue.in_line conv := by
  rcases EventQueue.reconcile_cases h with
    ⟨hnone, rfl, rfl⟩ | ⟨new_batches, hsome, hnew, rfl, rfl⟩
  · refine ⟨[], rfl, (drained_in_line conv queue queue.batches).trans ?_⟩
    simp [EventQueue.in_line, hnone]
  · obtain ⟨gone, hsplit, hcount⟩ := clamp_batches_splits queue.max_pending_batches
      (queue.full_batches ++ new_batches)
    have hfull : queue.full_batches = queue.batches := by
      apply List.filter_eq_self.mpr
      intro batch hbatch
      simpa using List.filter_eq_nil_iff.mp (horder hsome) batch hbatch
    have hevents := create_batches_events hnew
    rw [horder hsome, List.flatMap_nil, List.append_nil] at hevents
    refine ⟨gone.flatMap EventBatch.events, ?_, ?_⟩
    · rw [hcount]
      split
      · rfl
      · exact Nat.eq_zero_of_not_pos ‹_›
    · rw [drained_in_line, ← List.flatMap_append, ← hsplit, List.flatMap_append, hevents, hfull]
      rfl

theorem reconcile_keeps_line {shards_locked : Nat → Bool} {batches_locked : Bool}
    (horder : queue.pending_in_order ≠ [] → queue.partial_batches = [])
    (h : queue.reconcile_batching conv shards_locked batches_locked = some (result, queue')) :
    (queue'.in_line conv).Sublist (queue.in_line conv) ∧
      (batches_locked = true → result.dropped = 0 → queue'.in_line conv = queue.in_line conv) := by
  rcases EventQueue.reconcile_locks h with ⟨-, rfl⟩ | ⟨rfl, -, rfl⟩ | hlocked
  · exact ⟨.refl _, fun _ _ => rfl⟩
  · have hdrained := drained_in_line conv queue queue.batches
    refine ⟨hdrained ▸ List.sublist_append_left _ _, fun hlocked => nomatch hlocked⟩
  · obtain ⟨gone, hcount, hevents⟩ := reconcile_drops_front horder hlocked
    refine ⟨hevents ▸ List.sublist_append_right gone _, fun _ hnone => ?_⟩
    rw [hnone] at hcount
    rw [← hevents, List.eq_nil_of_length_eq_zero hcount, List.nil_append]

/-- A reconciliation leaves the shards as they are, or empties them. -/
theorem reconcile_lined {shards_locked : Nat → Bool} {batches_locked : Bool}
    {events : List (SequencedEvent Q)} (hlined : Lined queue events)
    (h : queue.reconcile_batching conv shards_locked batches_locked = some (result, queue')) :
    ∃ events', Lined queue' events' := by
  rcases EventQueue.reconcile_locks h with ⟨-, rfl⟩ | ⟨-, -, rfl⟩ | hlocked
  · exact ⟨events, hlined⟩
  · exact ⟨[], Lined.drained queue⟩
  · obtain ⟨hperm, hincreasing, hbelow⟩ := Lined.drained queue
    rcases EventQueue.reconcile_cases hlocked with ⟨-, -, rfl⟩ | ⟨_, -, -, -, rfl⟩
    · exact ⟨[], hperm, hincreasing, hbelow⟩
    · exact ⟨[], hperm, hincreasing, hbelow⟩

end Reconcile

/-! ## Runs -/

section Runs

variable {conv : Q → E} {run run' : QueueRun Q E} {action : QueueAction Q E}

/-- Nothing is requeued, and a reconciliation that finds pending events finds only
full batches. -/
def QueueRun.keeps_order (run : QueueRun Q E) : QueueAction Q E → Prop
  | .requeue_batch _ _ => False
  | .reconcile_batching _ _ => run.queue.pending_in_order ≠ [] → run.queue.partial_batches = []
  | _ => True

instance (run : QueueRun Q E) : ∀ action, Decidable (run.keeps_order action)
  | .requeue_batch _ _ => isFalse id
  | .reconcile_batching _ _ =>
    inferInstanceAs (Decidable (run.queue.pending_in_order ≠ [] → run.queue.partial_batches = []))
  | .add _ _ | .take_next_batch _ | .take_all_batches _ => isTrue trivial

/-- What is handed out was first in the line. -/
theorem take_keeps_line (conv : Q → E) {taken rest : List (EventBatch E)}
    (hbatches : run.queue.batches = taken ++ rest) :
    QueueRun.in_line conv { run with
      queue := { run.queue with batches := rest }
      handed_out := run.handed_out ++ taken } = run.in_line conv := by
  unfold QueueRun.in_line EventQueue.in_line
  rw [hbatches, List.flatMap_append, List.flatMap_append, List.append_assoc, List.append_assoc]
  rfl

/-- A step puts what is added at the end of the line, and changes nothing before it
but for what it drops. -/
theorem step_keeps_line {events : List (SequencedEvent Q)} (hlined : Lined run.queue events)
    (horder : run.keeps_order action) (h : run.step conv action = some run') :
    ∃ events' new, Lined run'.queue events' ∧ run'.added = run.added ++ new ∧
      (run'.in_line conv).Sublist (run.in_line conv ++ new.map conv) ∧
      run.dropped ≤ run'.dropped ∧
      (action.all_locked → run'.dropped = run.dropped →
        run'.in_line conv = run.in_line conv ++ new.map conv) := by
  cases queue_step h with
  | add locked event =>
    obtain ⟨events', hlined', hfewer, hall⟩ := hlined.add locked event
    have hline : run.in_line conv ++ [event].map conv = run.handed_out.flatMap EventBatch.events ++
        (run.queue.batches.flatMap EventBatch.events ++
          ((events ++ [(run.queue.next_seq, event)]).map Prod.snd).map conv) := by
      unfold QueueRun.in_line EventQueue.in_line
      rw [hlined.pending_in_order]
      simp
    have hline' : EventQueue.in_line conv (run.queue.add locked event).2 =
        run.queue.batches.flatMap EventBatch.events ++ (events'.map Prod.snd).map conv := by
      unfold EventQueue.in_line
      rw [hlined'.pending_in_order, (add_keeps_store run.queue locked event).1]
    refine ⟨events', [event], hlined', rfl, ?_, Nat.le_add_right _ _, ?_⟩
    · rw [hline]
      unfold QueueRun.in_line
      dsimp only
      rw [hline']
      exact (((hfewer.map _).map _).append_left _).append_left _
    · intro hlocked hnone
      rw [hline, ← hall hlocked (Nat.add_eq_left.mp hnone)]
      unfold QueueRun.in_line
      dsimp only
      rw [hline']
  | reconcile hreconcile =>
    obtain ⟨events', hlined'⟩ := reconcile_lined hlined hreconcile
    obtain ⟨hfewer, hall⟩ := reconcile_keeps_line horder hreconcile
    refine ⟨events', [], hlined', (List.append_nil _).symm, ?_, Nat.le_add_right _ _, ?_⟩
    · rw [List.map_nil, List.append_nil]
      exact hfewer.append_left _
    · intro hlocked hnone
      rw [List.map_nil, List.append_nil]
      exact congrArg (run.handed_out.flatMap EventBatch.events ++ ·)
        (hall hlocked.2 (Nat.add_eq_left.mp hnone))
  | requeue locked batch => exact horder.elim
  | take locked haction hbatches =>
    refine ⟨events, [], ⟨hlined.perm, hlined.increasing, hlined.below⟩, (List.append_nil _).symm,
      ?_, Nat.le_refl _, ?_⟩
    · rw [take_keeps_line conv hbatches, List.map_nil, List.append_nil]
    · intro _ _
      rw [take_keeps_line conv hbatches, List.map_nil, List.append_nil]

/-- The numbers of the pending events follow the adds, and so does the line. -/
structure InOrder (conv : Q → E) (run : QueueRun Q E) : Prop where
  lined : ∃ events, Lined run.queue events
  sublist : (run.in_line conv).Sublist (run.added.map conv)

theorem start_lined (batch_size max_queue_size : Nat) :
    Lined (QueueRun.start batch_size max_queue_size : QueueRun Q E).queue [] := by
  constructor
  · simp [QueueRun.start, EventQueue.new]
  · exact .nil
  · simp

theorem start_in_line (conv : Q → E) (batch_size max_queue_size : Nat) :
    (QueueRun.start batch_size max_queue_size : QueueRun Q E).in_line conv = [] := by
  unfold QueueRun.in_line EventQueue.in_line
  rw [(start_lined batch_size max_queue_size).pending_in_order]
  rfl

theorem run_in_order {batch_size max_queue_size : Nat} {actions : List (QueueAction Q E)}
    (horder : Along (QueueRun.step conv) QueueRun.keeps_order (.start batch_size max_queue_size)
      actions)
    (hrun : machine.run (QueueRun.step conv) (.start batch_size max_queue_size) actions =
      some run) : InOrder conv run := by
  refine run_invariant_along (I := InOrder conv) ?_ horder
    ⟨⟨[], start_lined batch_size max_queue_size⟩, ?_⟩ hrun
  · rintro run action run' ⟨⟨events, hlined⟩, hsublist⟩ horder hstep
    obtain ⟨events', new, hlined', hadded, hfewer, -, -⟩ := step_keeps_line hlined horder hstep
    refine ⟨⟨events', hlined'⟩, ?_⟩
    rw [hadded, List.map_append]
    exact hfewer.trans (hsublist.append_right _)
  · rw [start_in_line]
    exact List.nil_sublist _

/-- With every lock and no drop, the line is all that was added. -/
theorem run_keeps_line {batch_size max_queue_size : Nat} {actions : List (QueueAction Q E)}
    (horder : Along (QueueRun.step conv) (fun run action => run.keeps_order action ∧
      action.all_locked) (.start batch_size max_queue_size) actions)
    (hrun : machine.run (QueueRun.step conv) (.start batch_size max_queue_size) actions =
      some run) (hnone : run.dropped = 0) : run.in_line conv = run.added.map conv := by
  refine (run_invariant_along (I := fun run : QueueRun Q E => (∃ events, Lined run.queue events) ∧
    (run.dropped = 0 → run.in_line conv = run.added.map conv)) ?_ horder
    ⟨⟨[], start_lined batch_size max_queue_size⟩, ?_⟩ hrun).2 hnone
  · rintro run action run' ⟨⟨events, hlined⟩, hall⟩ ⟨horder, hlocked⟩ hstep
    obtain ⟨events', new, hlined', hadded, -, hdropped, hline⟩ :=
      step_keeps_line hlined horder hstep
    refine ⟨⟨events', hlined'⟩, fun hnone => ?_⟩
    rw [hline hlocked (by omega), hall (by omega), hadded, List.map_append]
  · exact fun _ => start_in_line conv batch_size max_queue_size

/-- As long as nothing comes back and no reconciliation finds a batch that is not full,
the events are handed out in the order in which they were added. With every lock and no
drop, they are the first that were added. -/
theorem handed_out_in_the_order_added {conv : Q → E} {batch_size max_queue_size : Nat}
    {actions : List (QueueAction Q E)} {run : QueueRun Q E}
    (horder : Along (QueueRun.step conv) QueueRun.keeps_order (.start batch_size max_queue_size)
      actions)
    (hrun : machine.run (QueueRun.step conv) (.start batch_size max_queue_size) actions =
      some run) :
    (run.handed_out.flatMap EventBatch.events).Sublist (run.added.map conv) ∧
      ((∀ action ∈ actions, action.all_locked) → run.dropped = 0 →
        run.handed_out.flatMap EventBatch.events <+: run.added.map conv) := by
  constructor
  · exact (List.sublist_append_left _ _).trans (run_in_order horder hrun).sublist
  · intro hlocked hnone
    rw [← run_keeps_line (along_and_mem horder hlocked) hrun hnone]
    exact List.prefix_append _ _

def locks : Nat → Bool := fun _ => true

/-- Two flushes, with an event before each of them. -/
def two_flushes : List (QueueAction Nat Nat) :=
  [.add true 0, .reconcile_batching locks true, .add true 1, .reconcile_batching locks true,
    .take_all_batches true]

/-- With a batch size of 1, the first flush leaves a full batch. -/
theorem two_flushes_of_full_batches :
    ∃ run, machine.run (QueueRun.step id) (.start 1 10) two_flushes = some run ∧
      run.handed_out.map EventBatch.events = [[0], [1]] ∧
      (run.handed_out.flatMap EventBatch.events).Sublist (run.added.map id) ∧
      run.handed_out.flatMap EventBatch.events <+: run.added.map id := by
  have hlast : (machine.run (QueueRun.step id) (.start 1 10) two_flushes).map (fun run =>
      (run.handed_out.map EventBatch.events, run.dropped)) = some ([[0], [1]], 0) := by
    decide +kernel
  obtain ⟨run, hrun, hvalues⟩ := Option.map_eq_some_iff.mp hlast
  simp only [Prod.mk.injEq] at hvalues
  obtain ⟨hsublist, hprefix⟩ := handed_out_in_the_order_added (by decide +kernel) hrun
  refine ⟨run, hrun, hvalues.1, hsublist, hprefix ?_ hvalues.2⟩
  simp [two_flushes, QueueAction.all_locked, locks]

/-- The first flush leaves a batch that is not full, and the second flush puts the
later event before it. -/
theorem two_flushes_swap_the_events :
    ∃ run, machine.run (QueueRun.step id) (.start 10 1) two_flushes = some run ∧
      run.added = [0, 1] ∧ run.dropped = 0 ∧
      run.handed_out.map EventBatch.events = [[1, 0]] ∧
      ¬ (run.handed_out.flatMap EventBatch.events).Sublist (run.added.map id) := by
  have hlast : (machine.run (QueueRun.step id) (.start 10 1) two_flushes).map (fun run =>
      (run.added, run.dropped, run.handed_out.map EventBatch.events)) =
        some ([0, 1], 0, [[1, 0]]) := by decide +kernel
  obtain ⟨run, hrun, hvalues⟩ := Option.map_eq_some_iff.mp hlast
  simp only [Prod.mk.injEq] at hvalues
  obtain ⟨hadded, hdropped, hevents⟩ := hvalues
  refine ⟨run, hrun, hadded, hdropped, hevents, ?_⟩
  rw [List.flatMap_def, hevents, hadded]
  decide

end Runs

end statsig_rust.event_logging
