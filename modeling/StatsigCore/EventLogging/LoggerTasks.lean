-- The tasks of the event logger and the calls that wait for them (`event_logging/event_logger.rs`,
-- over `statsig_runtime.rs`): the background loop, the limit flushes that it spawns, and any number
-- of calls of `flush_all_pending_events` and `shutdown`. What a task does between its start and its
-- end is left out, and so are the other tasks of the runtime.
import StatsigCore.Library.Threads
import StatsigCore.StatsigRuntime.ActiveTasks

namespace statsig_rust.event_logging

open machine statsig_runtime

def BG_LOOP_TAG : String := "EVT_LOG_BG_LOOP"

def LIMIT_FLUSH_TAG : String := "EVT_LOG_LIMIT_FLUSH"

def MAX_LIMIT_FLUSH_TASKS : Nat := 5

/-- Where a call is. `awaiting` has the handles that `await_tasks_with_tag` took. -/
inductive CallPhase where
  | started
  | notified
  | awaiting (tag : String) (handles : List JoinHandle)
  | flushing
  | returned
deriving DecidableEq

/-- A call of `shutdown`, or else of `flush_all_pending_events`. -/
structure Call where
  is_shutdown : Bool
  phase : CallPhase
deriving DecidableEq

/-- `limit_flushes` are the tasks that have a permit of the semaphore. -/
structure LoggerTasks where
  rt : StatsigRuntime
  background : Nat
  permits : Nat := MAX_LIMIT_FLUSH_TASKS
  limit_flushes : List Nat := []
  limit_flush_notify : Bool := false
  shutdown_notify : Bool := false
  calls : List Call := []

inductive LoggerStep where
  | notify_limit_flush
  | force_shutdown
  /-- The loop takes the notice of the shutdown, and returns. -/
  | loop_returns
  /-- The loop takes the notice that a flush is needed. The task gets the id, if there is a permit
  for it. -/
  | spawn_new_limit_flush_task (id : Nat)
  | insert_join_handle
  | limit_flush_returns (id : Nat)
  | remove_join_handle_with_id (id : Nat)
  | call (is_shutdown : Bool)
  | go_on (call : Nat)

namespace LoggerTasks

/-- After `EventLogger::new`, which keeps the handle of the loop. -/
def new (background : Nat) : LoggerTasks where
  rt := {
    spawned_tasks := SpawnedTasks.insert_join_handle [] BG_LOOP_TAG ⟨background⟩
    tasks := Function.update (fun _ => none) background (some ⟨BG_LOOP_TAG, .running⟩) }
  background := background

variable (s : LoggerTasks)

/-- The loop is at its `select!`. -/
def at_select : Bool :=
  s.rt.tasks s.background = some ⟨BG_LOOP_TAG, .running⟩ ∧ s.rt.spawning = []

def finished (handle : JoinHandle) : Bool :=
  (s.rt.tasks handle.id).all fun task => task.phase = .finished

/-- `await_tasks_with_tag`, up to where it waits. -/
def await_tasks_with_tag (tag : String) (call : Nat) (is_shutdown : Bool) : LoggerTasks :=
  let taken := s.rt.spawned_tasks.take_tasks_with_tag tag
  { s with
    rt := { s.rt with spawned_tasks := taken.1 }
    calls := s.calls.set call ⟨is_shutdown, .awaiting tag taken.2⟩ }

def go_on (call : Nat) : Call → Option LoggerTasks
  | ⟨false, .started⟩ => some (s.await_tasks_with_tag LIMIT_FLUSH_TAG call false)
  | ⟨true, .started⟩ =>
    some { s with shutdown_notify := true, calls := s.calls.set call ⟨true, .notified⟩ }
  | ⟨is_shutdown, .notified⟩ => some (s.await_tasks_with_tag BG_LOOP_TAG call is_shutdown)
  | ⟨is_shutdown, .awaiting tag handles⟩ =>
    if handles.all s.finished then
      if tag = BG_LOOP_TAG then some (s.await_tasks_with_tag LIMIT_FLUSH_TAG call is_shutdown)
      else some { s with calls := s.calls.set call ⟨is_shutdown, .flushing⟩ }
    else none
  | ⟨is_shutdown, .flushing⟩ =>
    some { s with calls := s.calls.set call ⟨is_shutdown, .returned⟩ }
  | ⟨_, .returned⟩ => none

def step : LoggerStep → Option LoggerTasks
  | .notify_limit_flush => some { s with limit_flush_notify := true }
  | .force_shutdown => some { s with shutdown_notify := true }
  | .loop_returns =>
    if s.at_select ∧ s.shutdown_notify then
      (s.rt.step (.run s.background)).map fun rt => { s with rt, shutdown_notify := false }
    else none
  | .spawn_new_limit_flush_task id =>
    if s.at_select ∧ s.limit_flush_notify then
      match s.permits with
      | 0 => some { s with limit_flush_notify := false }
      | permits + 1 =>
        (s.rt.step (.start LIMIT_FLUSH_TAG id)).map fun rt =>
          { s with rt, permits, limit_flush_notify := false, limit_flushes := id :: s.limit_flushes }
    else none
  | .insert_join_handle =>
    match s.rt.spawning with
    | [] => none
    | (tag, handle) :: _ =>
      (s.rt.step (.insert_join_handle tag handle)).map fun rt => { s with rt }
  | .limit_flush_returns id =>
    if id ∈ s.limit_flushes then
      (s.rt.step (.run id)).map fun rt =>
        { s with rt, permits := s.permits + 1, limit_flushes := s.limit_flushes.erase id }
    else none
  | .remove_join_handle_with_id id =>
    (s.rt.step (.remove_join_handle_with_id id)).map fun rt => { s with rt }
  | .call is_shutdown => some { s with calls := s.calls ++ [⟨is_shutdown, .started⟩] }
  | .go_on call => s.calls[call]?.bind (s.go_on call)

/-! ## What a step does -/

variable {s} {s' : LoggerTasks}

/-- What a call of the phase does next: it takes the handles of the tag, or it goes on to another
phase. -/
inductive Next (s : LoggerTasks) : Call → String ⊕ CallPhase → Prop
  | flush : Next s ⟨false, .started⟩ (.inl LIMIT_FLUSH_TAG)
  | notify : Next s ⟨true, .started⟩ (.inr .notified)
  | wait_for_loop {is_shutdown : Bool} : Next s ⟨is_shutdown, .notified⟩ (.inl BG_LOOP_TAG)
  | loop_over {is_shutdown : Bool} {handles : List JoinHandle} (h : handles.all s.finished) :
    Next s ⟨is_shutdown, .awaiting BG_LOOP_TAG handles⟩ (.inl LIMIT_FLUSH_TAG)
  | flushes_over {is_shutdown : Bool} {tag : String} {handles : List JoinHandle}
    (htag : tag ≠ BG_LOOP_TAG) (h : handles.all s.finished) :
    Next s ⟨is_shutdown, .awaiting tag handles⟩ (.inr .flushing)
  | all_flushed {is_shutdown : Bool} : Next s ⟨is_shutdown, .flushing⟩ (.inr .returned)

/-- All that a step can do. -/
inductive Step (s : LoggerTasks) : LoggerStep → LoggerTasks → Prop
  | notice (a : LoggerStep) (limit_flush_notify shutdown_notify : Bool) :
    Step s a { s with limit_flush_notify, shutdown_notify }
  | loop_returns (hloop : s.rt.tasks s.background = some ⟨BG_LOOP_TAG, .running⟩)
    (hspawning : s.rt.spawning = []) :
    Step s .loop_returns { s with
      rt := { s.rt with
        tasks := Function.update s.rt.tasks s.background (some ⟨BG_LOOP_TAG, .ran⟩) }
      shutdown_notify := false }
  | spawn (id permits : Nat) (hloop : s.rt.tasks s.background = some ⟨BG_LOOP_TAG, .running⟩)
    (hspawning : s.rt.spawning = []) (hfresh : s.rt.tasks id = none)
    (hpermits : s.permits = permits + 1) :
    Step s (.spawn_new_limit_flush_task id) { s with
      rt := { s.rt with
        tasks := Function.update s.rt.tasks id (some ⟨LIMIT_FLUSH_TAG, .running⟩)
        spawning := (LIMIT_FLUSH_TAG, ⟨id⟩) :: s.rt.spawning }
      permits := permits
      limit_flush_notify := false
      limit_flushes := id :: s.limit_flushes }
  | insert (tag : String) (handle : JoinHandle) (rest : List (String × JoinHandle))
    (hspawning : s.rt.spawning = (tag, handle) :: rest) :
    Step s .insert_join_handle { s with rt := { s.rt with
      spawned_tasks := s.rt.spawned_tasks.insert_join_handle tag handle
      spawning := rest } }
  | flush_returns (id : Nat) (tag : String) (hmem : id ∈ s.limit_flushes)
    (htask : s.rt.tasks id = some ⟨tag, .running⟩) :
    Step s (.limit_flush_returns id) { s with
      rt := { s.rt with tasks := Function.update s.rt.tasks id (some ⟨tag, .ran⟩) }
      permits := s.permits + 1
      limit_flushes := s.limit_flushes.erase id }
  | remove (id : Nat) (tag : String) (htask : s.rt.tasks id = some ⟨tag, .ran⟩) :
    Step s (.remove_join_handle_with_id id) { s with rt := { s.rt with
      spawned_tasks := s.rt.spawned_tasks.remove_join_handle_with_id tag id
      tasks := Function.update s.rt.tasks id (some ⟨tag, .finished⟩) } }
  | call (is_shutdown : Bool) :
    Step s (.call is_shutdown) { s with calls := s.calls ++ [⟨is_shutdown, .started⟩] }
  | take (i : Nat) (call : Call) (tag : String) (hcall : s.calls[i]? = some call)
    (hnext : Next s call (.inl tag)) :
    Step s (.go_on i) (s.await_tasks_with_tag tag i call.is_shutdown)
  | move (i : Nat) (call : Call) (phase : CallPhase) (shutdown_notify : Bool)
    (hcall : s.calls[i]? = some call) (hnext : Next s call (.inr phase)) :
    Step s (.go_on i) { s with shutdown_notify, calls := s.calls.set i ⟨call.is_shutdown, phase⟩ }

theorem step_go_on {i : Nat} {call : Call} (hcall : s.calls[i]? = some call)
    (h : s.go_on i call = some s') : Step s (.go_on i) s' := by
  obtain ⟨is_shutdown, phase⟩ := call
  cases phase with
  | started =>
    cases is_shutdown with
    | false =>
      rw [← Option.some.inj h]
      exact .take i _ _ hcall .flush
    | true =>
      rw [← Option.some.inj h]
      exact .move i _ _ _ hcall .notify
  | notified =>
    simp only [go_on] at h
    rw [← Option.some.inj h]
    exact .take i _ _ hcall .wait_for_loop
  | awaiting tag handles =>
    simp only [go_on] at h
    split at h
    case isFalse => cases h
    case isTrue hfinished =>
      split at h
      case isTrue htag =>
        subst htag
        rw [← Option.some.inj h]
        exact .take i _ _ hcall (.loop_over hfinished)
      case isFalse htag =>
        rw [← Option.some.inj h]
        exact .move i _ _ _ hcall (.flushes_over htag hfinished)
  | flushing =>
    simp only [go_on] at h
    rw [← Option.some.inj h]
    exact .move i _ _ _ hcall .all_flushed
  | returned => simp [go_on] at h

theorem step_cases {a : LoggerStep} (h : s.step a = some s') : Step s a s' := by
  have hselect (hat : s.at_select = true) :
      s.rt.tasks s.background = some ⟨BG_LOOP_TAG, .running⟩ ∧ s.rt.spawning = [] := by
    simpa [at_select] using hat
  cases a with
  | notify_limit_flush =>
    rw [← Option.some.inj h]
    exact .notice _ true s.shutdown_notify
  | force_shutdown =>
    rw [← Option.some.inj h]
    exact .notice _ s.limit_flush_notify true
  | loop_returns =>
    simp only [step] at h
    split at h
    case isFalse => cases h
    case isTrue hat =>
      obtain ⟨hloop, hspawning⟩ := hselect hat.1
      simp only [StatsigRuntime.step, hloop, Option.map_some] at h
      rw [← Option.some.inj h]
      exact .loop_returns hloop hspawning
  | spawn_new_limit_flush_task id =>
    simp only [step] at h
    split at h
    case isFalse => cases h
    case isTrue hat =>
      obtain ⟨hloop, hspawning⟩ := hselect hat.1
      split at h
      · rw [← Option.some.inj h]
        exact .notice _ false s.shutdown_notify
      · next permits hpermits =>
        simp only [StatsigRuntime.step] at h
        split at h
        case isFalse => cases h
        case isTrue hfresh =>
          rw [← Option.some.inj h]
          exact .spawn id permits hloop hspawning hfresh hpermits
  | insert_join_handle =>
    simp only [step] at h
    split at h
    · cases h
    · next tag handle rest hspawning =>
      simp only [StatsigRuntime.step, hspawning, List.mem_cons, true_or, ↓reduceIte,
        List.erase_cons_head, Option.map_some] at h
      rw [← Option.some.inj h]
      exact .insert tag handle rest hspawning
  | limit_flush_returns id =>
    simp only [step] at h
    split at h
    case isFalse => cases h
    case isTrue hmem =>
      simp only [StatsigRuntime.step] at h
      split at h
      · next tag htask =>
        rw [← Option.some.inj h]
        exact .flush_returns id tag hmem htask
      · cases h
  | remove_join_handle_with_id id =>
    simp only [step, StatsigRuntime.step] at h
    split at h
    · next tag htask =>
      rw [← Option.some.inj h]
      exact .remove id tag htask
    · cases h
  | call is_shutdown =>
    rw [← Option.some.inj h]
    exact .call is_shutdown
  | go_on i =>
    obtain ⟨call, hcall, h⟩ := Option.bind_eq_some_iff.mp h
    exact step_go_on hcall h

/-! ## The handles that are taken -/

/-- Each handle is kept under the id of its task. -/
def KeptById (spawned_tasks : SpawnedTasks) : Prop :=
  ∀ entry ∈ spawned_tasks, entry.2.id = entry.1.tokio_id

theorem KeptById.take_task {tag : String} {taken : SpawnedTasks × List JoinHandle} {k : TaskId}
    (h : KeptById taken.1) : KeptById (SpawnedTasks.take_task_with_tag tag taken k).1 := by
  unfold SpawnedTasks.take_task_with_tag
  split
  · split
    · exact fun entry hmem => h entry (List.mem_filter.mp hmem).1
    · exact h
  · exact h

theorem KeptById.take_tasks {spawned_tasks : SpawnedTasks} (h : KeptById spawned_tasks)
    {tag : String} : KeptById (spawned_tasks.take_tasks_with_tag tag).1 := by
  have hfold (keys : List TaskId) (taken : SpawnedTasks × List JoinHandle)
      (hkept : KeptById taken.1) :
      KeptById (keys.foldl (SpawnedTasks.take_task_with_tag tag) taken).1 := by
    induction keys generalizing taken with
    | nil => exact hkept
    | cons k keys ih => exact ih _ hkept.take_task
  exact hfold _ _ h

theorem take_task_keeps {tag : String} {taken : SpawnedTasks × List JoinHandle} {k : TaskId}
    {handle : JoinHandle} (hmem : handle ∈ taken.2) :
    handle ∈ (SpawnedTasks.take_task_with_tag tag taken k).2 := by
  unfold SpawnedTasks.take_task_with_tag
  split
  · split
    · exact List.mem_append_left _ hmem
    · exact hmem
  · exact hmem

theorem take_task_takes {tag : String} {taken : SpawnedTasks × List JoinHandle}
    (h : KeptById taken.1) {id : Nat} (hmem : ⟨tag, id⟩ ∈ SpawnedTasks.task_ids taken.1) :
    ⟨id⟩ ∈ (SpawnedTasks.take_task_with_tag tag taken ⟨tag, id⟩).2 := by
  obtain ⟨handle, hget⟩ := HashMap.get_of_mem_keys hmem
  have hhandle : handle = ⟨id⟩ := by
    have hid := h _ (HashMap.mem_of_get hget)
    cases handle
    exact congrArg JoinHandle.mk hid
  unfold SpawnedTasks.take_task_with_tag
  rw [if_pos rfl, hget, hhandle]
  exact List.mem_append_right _ (List.mem_singleton.mpr rfl)

/-- An await of a tag gets the handle of every task of the tag that the map has. -/
theorem mem_take_handles {spawned_tasks : SpawnedTasks} (h : KeptById spawned_tasks)
    {tag : String} {id : Nat} (hmem : ⟨tag, id⟩ ∈ spawned_tasks.task_ids) :
    ⟨id⟩ ∈ (spawned_tasks.take_tasks_with_tag tag).2 := by
  have hfold (keys : List TaskId) (taken : SpawnedTasks × List JoinHandle)
      (hkept : KeptById taken.1)
      (hmem : ⟨id⟩ ∈ taken.2 ∨ ⟨tag, id⟩ ∈ SpawnedTasks.task_ids taken.1 ∧ ⟨tag, id⟩ ∈ keys) :
      ⟨id⟩ ∈ (keys.foldl (SpawnedTasks.take_task_with_tag tag) taken).2 := by
    induction keys generalizing taken with
    | nil => exact hmem.resolve_right fun h => nomatch h.2
    | cons k keys ih =>
      refine ih _ hkept.take_task ?_
      rcases hmem with hmem | ⟨hmem, hkeys⟩
      · exact .inl (take_task_keeps hmem)
      · by_cases hk : k = ⟨tag, id⟩
        · rw [hk]
          exact .inl (take_task_takes hkept hmem)
        · have hlater := (List.mem_cons.mp hkeys).resolve_left fun heq => hk heq.symm
          exact .inr ⟨SpawnedTasks.mem_take_task.mpr ⟨hmem, fun _ heq => hk heq.symm⟩, hlater⟩
  exact hfold _ _ h (.inr ⟨hmem, hmem⟩)

/-! ## The permits -/

structure TasksKnown (s : LoggerTasks) : Prop where
  loop : ∃ phase, s.rt.tasks s.background = some ⟨BG_LOOP_TAG, phase⟩
  flushes : ∀ id task, s.rt.tasks id = some task → id ≠ s.background →
    task.tag_string = LIMIT_FLUSH_TAG
  spawning : ∀ call ∈ s.rt.spawning, call.1 = LIMIT_FLUSH_TAG ∧
    s.rt.tasks s.background = some ⟨BG_LOOP_TAG, .running⟩
  kept : KeptById s.rt.spawned_tasks

/-- A permit is free, or a limit flush has it. -/
structure PermitsCounted (s : LoggerTasks) : Prop where
  count : s.permits + s.limit_flushes.length = MAX_LIMIT_FLUSH_TASKS
  nodup : s.limit_flushes.Nodup
  running : ∀ id, id ∈ s.limit_flushes ↔ s.rt.tasks id = some ⟨LIMIT_FLUSH_TAG, .running⟩

theorem update_task {tasks : Nat → Option Task} {id other : Nat} {task task' : Task}
    (h : Function.update tasks id (some task) other = some task') :
    other = id ∧ task' = task ∨ other ≠ id ∧ tasks other = some task' := by
  by_cases heq : other = id
  · left
    rw [heq, Function.update_self] at h
    exact ⟨heq, (Option.some.inj h).symm⟩
  · rw [Function.update_of_ne heq] at h
    exact .inr ⟨heq, h⟩

theorem TasksKnown.limit_of_ne (hs : s.TasksKnown) {id : Nat} {tag : String} {phase : Phase}
    (htask : s.rt.tasks id = some ⟨tag, phase⟩) :
    id = s.background ∧ tag = BG_LOOP_TAG ∨ id ≠ s.background ∧ tag = LIMIT_FLUSH_TAG := by
  by_cases heq : id = s.background
  · obtain ⟨phase', hloop⟩ := hs.loop
    rw [heq, hloop] at htask
    cases htask
    exact .inl ⟨heq, rfl⟩
  · exact .inr ⟨heq, hs.flushes id _ htask heq⟩

/-- A task that goes from one phase to another one is still known. -/
theorem TasksKnown.update (hs : s.TasksKnown) {id : Nat} {tag : String} {phase : Phase}
    (htask : s.rt.tasks id = some ⟨tag, phase⟩)
    (hspawning : id = s.background → phase = .running → s.rt.spawning = []) (next : Phase) :
    (∃ phase, Function.update s.rt.tasks id (some ⟨tag, next⟩) s.background =
      some ⟨BG_LOOP_TAG, phase⟩) ∧
    (∀ other task, Function.update s.rt.tasks id (some ⟨tag, next⟩) other = some task →
      other ≠ s.background → task.tag_string = LIMIT_FLUSH_TAG) ∧
    ∀ call ∈ s.rt.spawning, call.1 = LIMIT_FLUSH_TAG ∧
      Function.update s.rt.tasks id (some ⟨tag, next⟩) s.background =
        some ⟨BG_LOOP_TAG, .running⟩ := by
  refine ⟨?_, ?_, ?_⟩
  · obtain ⟨phase', hloop⟩ := hs.loop
    by_cases heq : s.background = id
    · rw [← heq, hloop] at htask
      cases htask
      rw [← heq]
      exact ⟨next, Function.update_self ..⟩
    · exact ⟨phase', (Function.update_of_ne heq ..).trans hloop⟩
  · intro other task hother hne
    rcases update_task hother with ⟨rfl, rfl⟩ | ⟨-, hold⟩
    · rcases hs.limit_of_ne htask with ⟨heq, -⟩ | ⟨-, htag⟩
      · exact absurd heq hne
      · exact htag
    · exact hs.flushes other task hold hne
  · intro call hmem
    obtain ⟨htag, hloop⟩ := hs.spawning call hmem
    refine ⟨htag, ?_⟩
    have hne : s.background ≠ id := by
      intro heq
      rw [heq, htask] at hloop
      have hphase : phase = .running := congrArg Task.phase (Option.some.inj hloop)
      rw [hspawning heq.symm hphase] at hmem
      cases hmem
    exact (Function.update_of_ne hne ..).trans hloop

theorem TasksKnown.step (hs : s.TasksKnown) (hpermits : s.PermitsCounted) {a : LoggerStep}
    (h : Step s a s') : s'.TasksKnown := by
  cases h with
  | notice => exact ⟨hs.loop, hs.flushes, hs.spawning, hs.kept⟩
  | loop_returns hloop hspawning =>
    obtain ⟨hloop', hflushes, hspawning'⟩ := hs.update hloop (fun _ _ => hspawning) .ran
    exact ⟨hloop', hflushes, hspawning', hs.kept⟩
  | spawn id permits hloop hspawning hfresh hpermits =>
    have hne : s.background ≠ id := by
      rintro rfl
      rw [hfresh] at hloop
      cases hloop
    have hloop' := (Function.update_of_ne hne (some ⟨LIMIT_FLUSH_TAG, .running⟩)
      s.rt.tasks).trans hloop
    refine ⟨⟨.running, hloop'⟩, ?_, ?_, hs.kept⟩
    · intro other task hother hother'
      rcases update_task hother with ⟨rfl, rfl⟩ | ⟨-, hold⟩
      · rfl
      · exact hs.flushes other task hold hother'
    · intro call hmem
      rw [hspawning, List.mem_singleton] at hmem
      rw [hmem]
      exact ⟨rfl, hloop'⟩
  | insert tag handle rest hspawning =>
    refine ⟨hs.loop, hs.flushes, fun call hmem => hs.spawning call ?_, ?_⟩
    · rw [hspawning]
      exact List.mem_cons_of_mem _ hmem
    · intro entry hmem
      rcases List.mem_cons.mp hmem with rfl | hmem
      · rfl
      · exact hs.kept entry hmem
  | flush_returns id tag hmem htask =>
    have hne : id ≠ s.background := by
      rintro rfl
      obtain ⟨phase, hloop⟩ := hs.loop
      rw [(hpermits.running _).mp hmem] at hloop
      simp [BG_LOOP_TAG, LIMIT_FLUSH_TAG] at hloop
    obtain ⟨hloop', hflushes, hspawning'⟩ := hs.update htask (fun heq => absurd heq hne) .ran
    exact ⟨hloop', hflushes, hspawning', hs.kept⟩
  | remove id tag htask =>
    obtain ⟨hloop', hflushes, hspawning'⟩ := hs.update htask (fun _ h => nomatch h) .finished
    exact ⟨hloop', hflushes, hspawning',
      fun entry hmem => hs.kept entry (List.mem_filter.mp hmem).1⟩
  | call => exact ⟨hs.loop, hs.flushes, hs.spawning, hs.kept⟩
  | take i call tag hcall hnext =>
    exact ⟨hs.loop, hs.flushes, hs.spawning, hs.kept.take_tasks⟩
  | move => exact ⟨hs.loop, hs.flushes, hs.spawning, hs.kept⟩

theorem PermitsCounted.step (hs : s.PermitsCounted) {a : LoggerStep} (h : Step s a s') :
    s'.PermitsCounted := by
  cases h with
  | notice | insert | call | take | move => exact ⟨hs.count, hs.nodup, hs.running⟩
  | loop_returns hloop hspawning =>
    refine ⟨hs.count, hs.nodup, fun id => (hs.running id).trans ?_⟩
    by_cases heq : id = s.background
    · rw [heq, hloop]
      simp [BG_LOOP_TAG, LIMIT_FLUSH_TAG]
    · simp [heq]
  | spawn id permits hloop hspawning hfresh hpermits =>
    have hnew : id ∉ s.limit_flushes := by
      intro hmem
      rw [(hs.running id).mp hmem] at hfresh
      cases hfresh
    refine ⟨?_, List.nodup_cons.mpr ⟨hnew, hs.nodup⟩, fun other => ?_⟩
    · have hcount := hs.count
      simp only [List.length_cons]
      omega
    · by_cases heq : other = id
      · simp [heq]
      · simp [heq, hs.running other]
  | flush_returns id tag hmem htask =>
    refine ⟨?_, hs.nodup.erase id, fun other => ?_⟩
    · have hcount := hs.count
      have hpos := List.length_pos_of_mem hmem
      simp only [List.length_erase_of_mem hmem]
      omega
    · dsimp only
      rw [hs.nodup.mem_erase_iff, hs.running other]
      by_cases heq : other = id
      · simp [heq]
      · simp [heq]
  | remove id tag htask =>
    refine ⟨hs.count, hs.nodup, fun other => (hs.running other).trans ?_⟩
    by_cases heq : other = id
    · simp [heq, htask]
    · simp [heq]

/-! ## Where the handles are -/

/-- A call waits for the task. -/
def Awaited (s : LoggerTasks) (tag : String) (id : Nat) : Prop :=
  ∃ call ∈ s.calls, ∃ handles, call.phase = .awaiting tag handles ∧ ⟨id⟩ ∈ handles

/-- The task has not finished. -/
def Runs (s : LoggerTasks) (tag : String) (id : Nat) : Prop :=
  ∃ phase, s.rt.tasks id = some ⟨tag, phase⟩ ∧ phase ≠ .finished

/-- The call that spawns a task, the map, or a call that waits for it has the handle. -/
def Held (s : LoggerTasks) (tag : String) (id : Nat) : Prop :=
  (tag, ⟨id⟩) ∈ s.rt.spawning ∨ ⟨tag, id⟩ ∈ s.rt.spawned_tasks.task_ids ∨ s.Awaited tag id

/-- The loop is over, and every limit flush that is left is waited for. -/
def Drained (s : LoggerTasks) : Prop :=
  ¬ s.Runs BG_LOOP_TAG s.background ∧
    ∀ id, s.Runs LIMIT_FLUSH_TAG id → s.Awaited LIMIT_FLUSH_TAG id

theorem Awaited.set {tag : String} {id i : Nat} {call : Call} (h : s.Awaited tag id)
    (hcall : s.calls[i]? = some call)
    (hnot : ∀ handles, call.phase = .awaiting tag handles → ⟨id⟩ ∉ handles) (next : Call) :
    ∃ call ∈ s.calls.set i next,
      ∃ handles, call.phase = .awaiting tag handles ∧ ⟨id⟩ ∈ handles := by
  obtain ⟨other, hmem, handles, hphase, hid⟩ := h
  obtain ⟨j, hj⟩ := List.mem_iff_getElem?.mp hmem
  by_cases heq : i = j
  · subst heq
    cases hcall.symm.trans hj
    exact absurd hid (hnot handles hphase)
  · refine ⟨other, ?_, handles, hphase, hid⟩
    exact List.mem_of_getElem? ((List.getElem?_set_ne heq).trans hj)

/-- A call goes on when all that it waited for has finished. -/
theorem Next.not_awaited {call : Call} {next : String ⊕ CallPhase} (h : Next s call next)
    {tag : String} {id : Nat} (hruns : s.Runs tag id) (handles : List JoinHandle)
    (hphase : call.phase = .awaiting tag handles) : ⟨id⟩ ∉ handles := by
  have hall (hfinished : handles.all s.finished = true) : ⟨id⟩ ∉ handles := by
    intro hmem
    obtain ⟨phase, htask, hne⟩ := hruns
    have h := List.all_eq_true.mp hfinished _ hmem
    simp only [finished, htask, Option.all_some, decide_eq_true_eq] at h
    exact hne h
  cases h with
  | flush | notify | wait_for_loop | all_flushed => cases hphase
  | loop_over hfinished =>
    cases hphase
    exact hall hfinished
  | flushes_over htag hfinished =>
    cases hphase
    exact hall hfinished

/-- Who waits for a task goes on to do so while the task runs. -/
theorem Awaited.step {tag : String} {id : Nat} (haw : s.Awaited tag id) (hruns : s.Runs tag id)
    {a : LoggerStep} (h : Step s a s') : s'.Awaited tag id := by
  cases h with
  | notice | loop_returns | spawn | insert | flush_returns | remove => exact haw
  | call =>
    obtain ⟨call, hmem, hwaits⟩ := haw
    exact ⟨call, List.mem_append_left _ hmem, hwaits⟩
  | take i call tag' hcall hnext => exact haw.set hcall (hnext.not_awaited hruns) _
  | move i call phase notify hcall hnext => exact haw.set hcall (hnext.not_awaited hruns) _

theorem Runs.of_update {tag tag' : String} {id other : Nat} {phase next : Phase}
    {tasks : Nat → Option Task} (htask : tasks id = some ⟨tag, phase⟩) (hphase : phase ≠ .finished)
    (h : ∃ phase', Function.update tasks id (some ⟨tag, next⟩) other = some ⟨tag', phase'⟩ ∧
      phase' ≠ .finished) : ∃ phase', tasks other = some ⟨tag', phase'⟩ ∧ phase' ≠ .finished := by
  obtain ⟨phase', hother, hne⟩ := h
  rcases update_task hother with ⟨rfl, heq⟩ | ⟨-, hold⟩
  · cases heq
    exact ⟨phase, htask, hphase⟩
  · exact ⟨phase', hold, hne⟩

/-- Only the loop starts a task. -/
theorem Runs.before {tag : String} {id : Nat} {a : LoggerStep} (h : Step s a s')
    (hruns : s'.Runs tag id) : s.Runs tag id ∨
      tag = LIMIT_FLUSH_TAG ∧ (tag, ⟨id⟩) ∈ s'.rt.spawning ∧ s.Runs BG_LOOP_TAG s.background := by
  cases h with
  | notice | insert | call | take | move => exact .inl hruns
  | loop_returns hloop hspawning => exact .inl (Runs.of_update hloop (by decide) hruns)
  | spawn new permits hloop hspawning hfresh hpermits =>
    obtain ⟨phase, htask, hne⟩ := hruns
    rcases update_task htask with ⟨rfl, heq⟩ | ⟨-, hold⟩
    · cases heq
      exact .inr ⟨rfl, List.mem_cons_self, .running, hloop, by decide⟩
    · exact .inl ⟨phase, hold, hne⟩
  | flush_returns id' tag' hmem htask => exact .inl (Runs.of_update htask (by decide) hruns)
  | remove id' tag' htask => exact .inl (Runs.of_update htask (by decide) hruns)

theorem background_step {a : LoggerStep} (h : Step s a s') : s'.background = s.background := by
  cases h <;> rfl

theorem Drained.step (hs : s.Drained) {a : LoggerStep} (h : Step s a s') : s'.Drained := by
  have hbefore {tag : String} {id : Nat} (hruns : s'.Runs tag id) : s.Runs tag id := by
    rcases hruns.before h with hruns | ⟨-, -, hloop⟩
    · exact hruns
    · exact absurd hloop hs.1
  constructor
  · rw [background_step h]
    exact fun hruns => hs.1 (hbefore hruns)
  · exact fun id hruns => (hs.2 id (hbefore hruns)).step (hbefore hruns) h

/-- The handle of every task is somewhere. -/
def HandlesHeld (s : LoggerTasks) : Prop := ∀ tag id, s.Runs tag id → s.Held tag id

theorem HandlesHeld.step (hs : s.HandlesHeld) (hknown : s.TasksKnown) {a : LoggerStep}
    (h : Step s a s') : s'.HandlesHeld := by
  intro tag id hruns
  rcases hruns.before h with hold | ⟨-, hspawning, -⟩
  · rcases hs tag id hold with hheld | hheld | hheld
    · cases h with
      | notice | loop_returns | flush_returns | remove | call | take | move => exact .inl hheld
      | spawn => exact .inl (List.mem_cons_of_mem _ hheld)
      | insert tag' handle rest hspawning =>
        rw [hspawning] at hheld
        rcases List.mem_cons.mp hheld with heq | hheld
        · cases heq
          exact .inr (.inl ((SpawnedTasks.mem_insert _).mpr (.inl rfl)))
        · exact .inl hheld
    · cases h with
      | notice | loop_returns | spawn | flush_returns | call | move => exact .inr (.inl hheld)
      | insert tag' handle rest hspawning =>
        exact .inr (.inl ((SpawnedTasks.mem_insert _).mpr (.inr hheld)))
      | remove id' tag' htask =>
        refine .inr (.inl ((SpawnedTasks.mem_remove _).mpr ⟨?_, hheld⟩))
        intro heq
        cases heq
        obtain ⟨phase, htask', hne⟩ := hruns
        simp only [Function.update_self, Option.some.injEq, Task.mk.injEq] at htask'
        exact hne htask'.2.symm
      | take i call tag' hcall hnext =>
        by_cases htag : tag = tag'
        · subst htag
          refine .inr (.inr ⟨_, threads.mem_after_set hcall _, _, rfl, ?_⟩)
          exact mem_take_handles hknown.kept hheld
        · exact .inr (.inl ((SpawnedTasks.mem_take_tasks _).mpr ⟨hheld, htag⟩))
    · exact .inr (.inr (hheld.step hold h))
  · exact .inl hspawning

/-! ## The calls of `shutdown` -/

/-- A call of `shutdown` that has not returned. -/
def pending (call : Call) : Bool := call.is_shutdown && call.phase ≠ .returned

/-- Calls of `shutdown` come one after the other. -/
def OneShutdown (s : LoggerTasks) : LoggerStep → Prop
  | .call true => ∀ call ∈ s.calls, pending call = false
  | _ => True

instance (s : LoggerTasks) : (a : LoggerStep) → Decidable (s.OneShutdown a)
  | .call true => inferInstanceAs (Decidable (∀ call ∈ s.calls, pending call = false))
  | .call false | .notify_limit_flush | .force_shutdown | .loop_returns
  | .spawn_new_limit_flush_task _ | .insert_join_handle | .limit_flush_returns _
  | .remove_join_handle_with_id _ | .go_on _ => .isTrue trivial

/-- The call has taken the handles of the limit flushes. -/
def past_loop : CallPhase → Bool
  | .awaiting tag _ => tag ≠ BG_LOOP_TAG
  | .flushing | .returned => true
  | _ => false

structure ShutdownsWait (s : LoggerTasks) : Prop where
  one : s.calls.countP pending ≤ 1
  /-- Only `shutdown` waits for the loop. -/
  tags : ∀ call ∈ s.calls, call.is_shutdown = false → call.phase ≠ .notified ∧
    ∀ handles, call.phase ≠ .awaiting BG_LOOP_TAG handles
  loop : ∀ call ∈ s.calls, ∀ handles, call.phase = .awaiting BG_LOOP_TAG handles →
    s.Runs BG_LOOP_TAG s.background → ⟨s.background⟩ ∈ handles
  drained : ∀ call ∈ s.calls, call.is_shutdown = true → past_loop call.phase = true → s.Drained

theorem eq_of_countP_le_one {calls : List Call} (h : calls.countP pending ≤ 1) {c d : Call}
    (hc : c ∈ calls) (hd : d ∈ calls) (hcp : pending c = true) (hdp : pending d = true) :
    c = d := by
  rw [List.countP_eq_length_filter] at h
  have hc' := List.mem_filter.mpr ⟨hc, hcp⟩
  have hd' := List.mem_filter.mpr ⟨hd, hdp⟩
  generalize calls.filter pending = those at h hc' hd'
  match those, h with
  | [call], _ => rw [List.mem_singleton.mp hc', List.mem_singleton.mp hd']

theorem Next.is_pending {call : Call} {next : String ⊕ CallPhase} (h : Next s call next)
    (hshutdown : call.is_shutdown = true) : pending call = true := by
  unfold pending
  rw [hshutdown]
  cases h <;> rfl

/-- A call that goes on is pending no more than before. -/
theorem countP_set_le {i : Nat} {call : Call} (hcall : s.calls[i]? = some call)
    {next : String ⊕ CallPhase} (hnext : Next s call next) (phase : CallPhase) :
    (s.calls.set i ⟨call.is_shutdown, phase⟩).countP pending ≤
      s.calls.countP pending := by
  have hcount := threads.count_set (p := pending) hcall ⟨call.is_shutdown, phase⟩
  cases hshutdown : call.is_shutdown with
  | false =>
    have hnot : pending ⟨call.is_shutdown, phase⟩ = false := by
      simp [pending, hshutdown]
    rw [hshutdown] at hcount hnot
    rw [hnot, Bool.toNat_false] at hcount
    omega
  | true =>
    rw [hnext.is_pending hshutdown, hshutdown] at hcount
    have hle := Bool.toNat_le (pending ⟨true, phase⟩)
    rw [Bool.toNat_true] at hcount
    omega

/-- A call that waits for the loop has its handle, when no other call of `shutdown` has. -/
theorem loop_taken (hs : s.ShutdownsWait) (hknown : s.TasksKnown) (hheld : s.HandlesHeld)
    {call : Call} (hcall : call ∈ s.calls) (hphase : call.phase = .notified)
    (hruns : s.Runs BG_LOOP_TAG s.background) :
    ⟨s.background⟩ ∈ (s.rt.spawned_tasks.take_tasks_with_tag BG_LOOP_TAG).2 := by
  rcases hheld _ _ hruns with hspawning | hmap | ⟨other, hother, handles, hwaits, -⟩
  · exact absurd (hknown.spawning _ hspawning).1 (by simp [BG_LOOP_TAG, LIMIT_FLUSH_TAG])
  · exact mem_take_handles hknown.kept hmap
  · have hpending (c : Call) (hc : c ∈ s.calls)
        (h : c.phase = .notified ∨ ∃ handles, c.phase = .awaiting BG_LOOP_TAG handles) :
        pending c = true := by
      cases hshutdown : c.is_shutdown with
      | false =>
        rcases h with h | ⟨handles, h⟩
        · exact absurd h (hs.tags c hc hshutdown).1
        · exact absurd h ((hs.tags c hc hshutdown).2 handles)
      | true =>
        unfold pending
        rw [hshutdown]
        rcases h with h | ⟨handles, h⟩ <;> rw [h] <;> rfl
    have heq := eq_of_countP_le_one hs.one hcall hother (hpending call hcall (.inl hphase))
      (hpending other hother (.inr ⟨handles, hwaits⟩))
    rw [heq, hwaits] at hphase
    cases hphase

/-- When the loop is over, an await of the limit flushes takes the handles that are left. -/
theorem drained_of_take (hknown : s.TasksKnown) (hheld : s.HandlesHeld) {i : Nat} {call : Call}
    (hcall : s.calls[i]? = some call) (hnext : Next s call (.inl LIMIT_FLUSH_TAG))
    (hover : ¬ s.Runs BG_LOOP_TAG s.background) :
    (s.await_tasks_with_tag LIMIT_FLUSH_TAG i call.is_shutdown).Drained := by
  refine ⟨hover, fun id hruns => ?_⟩
  rcases hheld LIMIT_FLUSH_TAG id hruns with hspawning | hmap | hawaited
  · exact absurd ⟨.running, (hknown.spawning _ hspawning).2, by decide⟩ hover
  · exact ⟨_, threads.mem_after_set hcall _, _, rfl, mem_take_handles hknown.kept hmap⟩
  · exact hawaited.set hcall (hnext.not_awaited hruns) _

theorem ShutdownsWait.step (hs : s.ShutdownsWait) (hknown : s.TasksKnown) (hheld : s.HandlesHeld)
    {a : LoggerStep} (hone : s.OneShutdown a) (h : Step s a s') : s'.ShutdownsWait := by
  have hbefore := hs
  obtain ⟨hcount, htags, hloop, hdrained⟩ := hs
  -- a step that leaves the calls as they are
  have hquiet (hcalls : s'.calls = s.calls) : s'.ShutdownsWait := by
    refine ⟨hcalls ▸ hcount, hcalls ▸ htags, ?_, ?_⟩
    · intro call hmem handles hphase hruns
      rw [background_step h] at hruns ⊢
      rcases hruns.before h with hruns | ⟨htag, -⟩
      · exact hloop call (hcalls ▸ hmem) handles hphase hruns
      · exact absurd htag (by simp [BG_LOOP_TAG, LIMIT_FLUSH_TAG])
    · exact fun call hmem hshutdown hpast =>
        (hdrained call (hcalls ▸ hmem) hshutdown hpast).step h
  cases h with
  | notice | loop_returns | spawn | insert | flush_returns | remove => exact hquiet rfl
  | call is_shutdown =>
    have hcases {call : Call} (hmem : call ∈ s.calls ++ [⟨is_shutdown, .started⟩]) :
        call ∈ s.calls ∨ call = ⟨is_shutdown, .started⟩ := by
      simpa using hmem
    refine ⟨?_, ?_, ?_, ?_⟩
    · dsimp only
      rw [List.countP_append]
      cases is_shutdown with
      | false => simpa [pending] using hcount
      | true =>
        have hzero : s.calls.countP pending = 0 := List.countP_eq_zero.mpr fun call hmem => by
          simp [hone call hmem]
        rw [hzero]
        exact Nat.le_refl 1
    · intro call hmem
      rcases hcases hmem with hmem | rfl
      · exact htags call hmem
      · exact fun _ => ⟨nofun, nofun⟩
    · intro call hmem handles hphase
      rcases hcases hmem with hmem | rfl
      · exact hloop call hmem handles hphase
      · cases hphase
    · intro call hmem hshutdown hpast
      rcases hcases hmem with hmem | rfl
      · exact (hdrained call hmem hshutdown hpast).step (.call is_shutdown)
      · cases hpast
  | take i call tag hcall hnext =>
    have hstep : Step s (.go_on i) (s.await_tasks_with_tag tag i call.is_shutdown) :=
      .take i call tag hcall hnext
    have hmem := List.mem_of_getElem? hcall
    have hcases {other : Call} (hother : other ∈ s.calls.set i
        ⟨call.is_shutdown, .awaiting tag (s.rt.spawned_tasks.take_tasks_with_tag tag).2⟩) :
        other ∈ s.calls ∨ other =
          ⟨call.is_shutdown, .awaiting tag (s.rt.spawned_tasks.take_tasks_with_tag tag).2⟩ :=
      List.mem_or_eq_of_mem_set hother
    refine ⟨(countP_set_le hcall hnext _).trans hcount, ?_, ?_, ?_⟩
    · intro other hother hflush
      rcases hcases hother with hother | rfl
      · exact htags other hother hflush
      · refine ⟨nofun, fun handles hphase => ?_⟩
        cases hnext with
        | flush | loop_over => simp [BG_LOOP_TAG, LIMIT_FLUSH_TAG] at hphase
        | wait_for_loop => exact (htags _ hmem hflush).1 rfl
    · intro other hother handles hphase hruns
      rcases hcases hother with hother | rfl
      · exact hloop other hother handles hphase hruns
      · cases hnext with
        | flush | loop_over => simp [BG_LOOP_TAG, LIMIT_FLUSH_TAG] at hphase
        | wait_for_loop =>
          cases hphase
          exact loop_taken hbefore hknown hheld hmem rfl hruns
    · intro other hother hshutdown hpast
      rcases hcases hother with hother | rfl
      · exact (hdrained other hother hshutdown hpast).step hstep
      · have hnext' := hnext
        cases hnext with
        | flush => cases hshutdown
        | wait_for_loop => simp [past_loop] at hpast
        | loop_over hfinished =>
          refine drained_of_take hknown hheld hcall (.loop_over hfinished) fun hruns => ?_
          exact hnext'.not_awaited hruns _ rfl (hloop _ hmem _ rfl hruns)
  | move i call phase notify hcall hnext =>
    have hmem := List.mem_of_getElem? hcall
    have hcases {other : Call} (hother : other ∈ s.calls.set i ⟨call.is_shutdown, phase⟩) :
        other ∈ s.calls ∨ other = ⟨call.is_shutdown, phase⟩ := List.mem_or_eq_of_mem_set hother
    refine ⟨(countP_set_le hcall hnext _).trans hcount, ?_, ?_, ?_⟩
    · intro other hother hflush
      rcases hcases hother with hother | rfl
      · exact htags other hother hflush
      · cases hnext with
        | notify => cases hflush
        | flushes_over | all_flushed => exact ⟨nofun, nofun⟩
    · intro other hother handles hphase hruns
      rcases hcases hother with hother | rfl
      · exact hloop other hother handles hphase hruns
      · cases hnext <;> cases hphase
    · intro other hother hshutdown hpast
      have hstep : Step s (.go_on i) { s with
          shutdown_notify := notify, calls := s.calls.set i ⟨call.is_shutdown, phase⟩ } :=
        .move i call phase notify hcall hnext
      rcases hcases hother with hother | rfl
      · exact (hdrained other hother hshutdown hpast).step hstep
      · refine Drained.step ?_ hstep
        cases hnext with
        | notify => cases hpast
        | flushes_over htag hfinished =>
          exact hdrained _ hmem hshutdown (decide_eq_true htag)
        | all_flushed => exact hdrained _ hmem hshutdown rfl

/-! ## Runs -/

structure Kept (s : LoggerTasks) : Prop where
  known : s.TasksKnown
  permits : s.PermitsCounted
  held : s.HandlesHeld

theorem Kept.step (hs : s.Kept) {a : LoggerStep} (h : s.step a = some s') : s'.Kept :=
  have hcases := step_cases h
  ⟨hs.known.step hs.permits hcases, hs.permits.step hcases, hs.held.step hs.known hcases⟩

theorem kept_new (background : Nat) : (new background).Kept := by
  have honly {id : Nat} {task : Task} (h : (new background).rt.tasks id = some task) :
      id = background ∧ task = ⟨BG_LOOP_TAG, .running⟩ := by
    dsimp only [new] at h
    rcases update_task h with h | ⟨-, h⟩
    · exact h
    · cases h
  have hloop : (new background).rt.tasks background = some ⟨BG_LOOP_TAG, .running⟩ := by
    dsimp only [new]
    exact Function.update_self ..
  refine ⟨⟨⟨.running, hloop⟩, ?_, fun _ h => (nomatch h), ?_⟩,
    ⟨rfl, List.nodup_nil, ?_⟩, ?_⟩
  · exact fun id task htask hne => absurd (honly htask).1 hne
  · intro entry hmem
    rw [List.mem_singleton.mp hmem]
  · intro id
    refine iff_of_false List.not_mem_nil fun htask => ?_
    have htag := congrArg Task.tag_string (honly htask).2
    exact absurd htag (by simp [BG_LOOP_TAG, LIMIT_FLUSH_TAG])
  · rintro tag id ⟨phase, htask, -⟩
    obtain ⟨rfl, heq⟩ := honly htask
    cases heq
    exact .inr (.inl List.mem_cons_self)

theorem shutdowns_wait_new (background : Nat) : (new background).ShutdownsWait :=
  ⟨Nat.zero_le 1, fun _ h => (nomatch h), fun _ h => (nomatch h), fun _ h => (nomatch h)⟩

/-- However the loop, the flushes and the calls take turns, every permit that is not free belongs
to a limit flush that runs, so that at most five of them do. -/
theorem limit_flushes_are_at_most_five (background : Nat) {labels : List LoggerStep}
    {s : LoggerTasks} (hrun : run step (new background) labels = some s) :
    s.permits + s.limit_flushes.length = 5 ∧ s.limit_flushes.Nodup ∧
      ∀ id, id ∈ s.limit_flushes ↔ s.rt.tasks id = some ⟨LIMIT_FLUSH_TAG, .running⟩ :=
  have hs := (run_invariant (I := Kept) (fun _ _ _ hs h => hs.step h) (kept_new background)
    hrun).permits
  ⟨hs.count, hs.nodup, hs.running⟩

/-- The notice that a flush is needed becomes a flush. -/
def one_limit_flush : List LoggerStep :=
  [.notify_limit_flush, .spawn_new_limit_flush_task 1, .insert_join_handle]

theorem one_limit_flush_has_a_permit : ∃ s, run step (new 0) one_limit_flush = some s ∧
    s.permits + s.limit_flushes.length = 5 ∧ s.limit_flushes.Nodup ∧
      ∀ id, id ∈ s.limit_flushes ↔ s.rt.tasks id = some ⟨LIMIT_FLUSH_TAG, .running⟩ := by
  obtain ⟨s, hrun⟩ : ∃ s, run step (new 0) one_limit_flush = some s := ⟨_, rfl⟩
  exact ⟨s, hrun, limit_flushes_are_at_most_five 0 hrun⟩

/-- Once a call of `shutdown` has returned, the loop is over, and every limit flush that still
runs is one that another call took the handle of, and waits for. When all calls have returned no
flush runs, and all permits are free. -/
theorem shutdown_waits_for_the_flushes (background : Nat) {labels : List LoggerStep}
    {s : LoggerTasks} (hone : Along step OneShutdown (new background) labels)
    (hrun : run step (new background) labels = some s) {call : Call} (hcall : call ∈ s.calls)
    (hshutdown : call.is_shutdown = true) (hreturned : call.phase = .returned) :
    (∀ phase, s.rt.tasks background = some ⟨BG_LOOP_TAG, phase⟩ → phase = .finished) ∧
    (∀ id ∈ s.limit_flushes, ∃ other ∈ s.calls, ∃ handles,
      other.phase = .awaiting LIMIT_FLUSH_TAG handles ∧ ⟨id⟩ ∈ handles) ∧
    ((∀ other ∈ s.calls, other.phase = .returned) →
      s.limit_flushes = [] ∧ s.permits = MAX_LIMIT_FLUSH_TASKS) := by
  have hbackground : s.background = background := by
    refine run_invariant (I := fun s => s.background = background) ?_ rfl hrun
    exact fun s a s' hs h => (background_step (step_cases h)).trans hs
  have hs : s.Kept ∧ s.ShutdownsWait := by
    refine run_invariant_along (I := fun s => s.Kept ∧ s.ShutdownsWait) ?_ hone
      ⟨kept_new background, shutdowns_wait_new background⟩ hrun
    exact fun s a s' hs hone h =>
      ⟨hs.1.step h, hs.2.step hs.1.known hs.1.held hone (step_cases h)⟩
  have hdrained := hs.2.drained call hcall hshutdown (by rw [hreturned]; rfl)
  have hflushes : ∀ id ∈ s.limit_flushes, s.Awaited LIMIT_FLUSH_TAG id := fun id hmem =>
    hdrained.2 id ⟨.running, (hs.1.permits.running id).mp hmem, by decide⟩
  refine ⟨?_, hflushes, fun hall => ?_⟩
  · intro phase htask
    by_contra hne
    exact hdrained.1 ⟨phase, hbackground ▸ htask, hne⟩
  · have hnil : s.limit_flushes = [] := by
      refine List.eq_nil_iff_forall_not_mem.mpr fun id hmem => ?_
      obtain ⟨other, hother, handles, hphase, -⟩ := hflushes id hmem
      rw [hall other hother] at hphase
      cases hphase
    have hcount := hs.1.permits.count
    rw [hnil, List.length_nil, Nat.add_zero] at hcount
    exact ⟨hnil, hcount⟩

/-- A flush is under way when the call comes, and returns after the loop. -/
def one_shutdown : List LoggerStep :=
  [.notify_limit_flush, .spawn_new_limit_flush_task 1, .insert_join_handle, .call true, .go_on 0,
    .go_on 0, .loop_returns, .remove_join_handle_with_id 0, .go_on 0, .limit_flush_returns 1,
    .remove_join_handle_with_id 1, .go_on 0, .go_on 0]

theorem shutdown_waits_for_one_flush : ∃ s, run step (new 0) one_shutdown = some s ∧
    (∀ phase, s.rt.tasks 0 = some ⟨BG_LOOP_TAG, phase⟩ → phase = .finished) ∧
    (∀ id ∈ s.limit_flushes, ∃ other ∈ s.calls, ∃ handles,
      other.phase = .awaiting LIMIT_FLUSH_TAG handles ∧ ⟨id⟩ ∈ handles) ∧
    ((∀ other ∈ s.calls, other.phase = .returned) →
      s.limit_flushes = [] ∧ s.permits = MAX_LIMIT_FLUSH_TASKS) := by
  have hone : Along step OneShutdown (new 0) one_shutdown := by decide
  obtain ⟨s, hrun, hcalls⟩ : ∃ s, run step (new 0) one_shutdown = some s ∧
      s.calls = [⟨true, .returned⟩] := ⟨_, rfl, rfl⟩
  refine ⟨s, hrun, shutdown_waits_for_the_flushes 0 hone hrun
    (hcalls ▸ List.mem_singleton.mpr rfl : (⟨true, .returned⟩ : Call) ∈ s.calls) rfl rfl⟩

end LoggerTasks

end statsig_rust.event_logging
