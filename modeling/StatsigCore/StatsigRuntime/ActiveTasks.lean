-- Which tasks the runtime counts as active. A task takes its own entry out when it has run. An
-- entry that is kept after that has nobody left to take it out, but for an await of its tag or id.
import StatsigCore.StatsigRuntime.SpawnedTasks

namespace statsig_rust.statsig_runtime

open machine

namespace StatsigRuntime

variable {s s' : StatsigRuntime}

/-! ## What a step does -/

/-- A task of this tag, which has not finished. -/
def Unfinished (s : StatsigRuntime) (key : TaskId) : Prop :=
  ∃ task, s.tasks key.tokio_id = some task ∧ task.tag_string = key.tag ∧ task.phase ≠ .finished

/-- Every call of `spawn` under way has started a task of its tag. -/
def CallsKnown (s : StatsigRuntime) : Prop :=
  ∀ call ∈ s.spawning, ∃ task, s.tasks call.2.id = some task ∧ task.tag_string = call.1

/-- The entries are of tasks that have not finished. -/
def EntriesUnfinished (s : StatsigRuntime) : Prop :=
  ∀ key ∈ s.spawned_tasks.task_ids, s.Unfinished key

/-- A handle is kept before its task has finished. -/
def InTime (s : StatsigRuntime) : RuntimeStep → Prop
  | .insert_join_handle _ handle => ∀ task ∈ s.tasks handle.id, task.phase ≠ .finished
  | _ => True

instance (s : StatsigRuntime) : (a : RuntimeStep) → Decidable (s.InTime a)
  | .insert_join_handle _ handle =>
    inferInstanceAs (Decidable (∀ task ∈ s.tasks handle.id, task.phase ≠ .finished))
  | .start _ _ | .run _ | .remove_join_handle_with_id _ | .await_tasks_with_tag _
  | .await_join_handle _ _ => .isTrue trivial

/-- All that a step can do. -/
theorem step_cases {a : RuntimeStep} (h : s.step a = some s') :
    (∃ tag id, a = .start tag id ∧ s.tasks id = none ∧ s' = { s with
        tasks := Function.update s.tasks id (some ⟨tag, .running⟩)
        spawning := (tag, ⟨id⟩) :: s.spawning }) ∨
    (∃ tag handle, a = .insert_join_handle tag handle ∧ (tag, handle) ∈ s.spawning ∧ s' = { s with
        spawned_tasks := s.spawned_tasks.insert_join_handle tag handle
        spawning := s.spawning.erase (tag, handle) }) ∨
    (∃ id tag, a = .run id ∧ s.tasks id = some ⟨tag, .running⟩ ∧
      s' = { s with tasks := Function.update s.tasks id (some ⟨tag, .ran⟩) }) ∨
    (∃ id tag, a = .remove_join_handle_with_id id ∧ s.tasks id = some ⟨tag, .ran⟩ ∧ s' = { s with
        spawned_tasks := s.spawned_tasks.remove_join_handle_with_id tag id
        tasks := Function.update s.tasks id (some ⟨tag, .finished⟩) }) ∨
    (∃ tag, a = .await_tasks_with_tag tag ∧
      s' = { s with spawned_tasks := (s.spawned_tasks.take_tasks_with_tag tag).1 }) ∨
    (∃ tag id, a = .await_join_handle tag id ∧
      s' = { s with spawned_tasks := s.spawned_tasks.remove_join_handle_with_id tag id }) := by
  cases a with
  | start tag id =>
    left
    simp only [step] at h
    split at h
    · rename_i hfresh
      cases h
      exact ⟨tag, id, rfl, hfresh, rfl⟩
    · cases h
  | insert_join_handle tag handle =>
    right; left
    simp only [step] at h
    split at h
    · rename_i hcall
      cases h
      exact ⟨tag, handle, rfl, hcall, rfl⟩
    · cases h
  | run id =>
    right; right; left
    simp only [step] at h
    split at h
    · rename_i tag htask
      cases h
      exact ⟨id, tag, rfl, htask, rfl⟩
    · cases h
  | remove_join_handle_with_id id =>
    right; right; right; left
    simp only [step] at h
    split at h
    · rename_i tag htask
      cases h
      exact ⟨id, tag, rfl, htask, rfl⟩
    · cases h
  | await_tasks_with_tag tag =>
    right; right; right; right; left
    cases h
    exact ⟨tag, rfl, rfl⟩
  | await_join_handle tag id =>
    right; right; right; right; right
    cases h
    exact ⟨tag, id, rfl, rfl⟩

/-- A task that moves on keeps its tag. -/
theorem tag_after_update {id other : Nat} {tag tag' : String} {phase phase' : Phase}
    (htask : s.tasks id = some ⟨tag, phase⟩)
    (h : ∃ task, s.tasks other = some task ∧ task.tag_string = tag') :
    ∃ task, Function.update s.tasks id (some ⟨tag, phase'⟩) other = some task ∧
      task.tag_string = tag' := by
  obtain ⟨task, hold, htag⟩ := h
  by_cases heq : other = id
  · subst heq
    rw [htask] at hold
    cases hold
    exact ⟨⟨tag, phase'⟩, Function.update_self .., htag⟩
  · exact ⟨task, (Function.update_of_ne heq ..).trans hold, htag⟩

theorem step_callsKnown {a : RuntimeStep} (hs : s.CallsKnown) (h : s.step a = some s') :
    s'.CallsKnown := by
  rcases step_cases h with ⟨tag, id, rfl, hfresh, rfl⟩ | ⟨tag, handle, rfl, hcall, rfl⟩ |
    ⟨id, tag, rfl, htask, rfl⟩ | ⟨id, tag, rfl, htask, rfl⟩ | ⟨tag, rfl, rfl⟩ | ⟨tag, id, rfl, rfl⟩
  · intro call hmem
    rcases List.mem_cons.mp hmem with rfl | hmem
    · exact ⟨⟨tag, .running⟩, Function.update_self .., rfl⟩
    · obtain ⟨task, hold, htag⟩ := hs call hmem
      have hne : call.2.id ≠ id := by
        intro heq
        rw [heq, hfresh] at hold
        cases hold
      exact ⟨task, (Function.update_of_ne hne ..).trans hold, htag⟩
  · intro call hmem
    exact hs call (List.mem_of_mem_erase hmem)
  · exact fun call hmem => tag_after_update htask (hs call hmem)
  · exact fun call hmem => tag_after_update htask (hs call hmem)
  · exact hs
  · exact hs

/-! ## Late handles -/

/-- The handles that were kept late and not awaited since, after one more step. -/
def note_late (s : StatsigRuntime) (late : List TaskId) : RuntimeStep → List TaskId
  | .insert_join_handle tag handle =>
    if s.InTime (.insert_join_handle tag handle) then late else ⟨tag, handle.id⟩ :: late
  | .await_tasks_with_tag tag => late.filter fun key => key.tag ≠ tag
  | .await_join_handle tag handle_id => late.filter fun key => key ≠ ⟨tag, handle_id⟩
  | .start _ _ | .run _ | .remove_join_handle_with_id _ => late

/-- The handles that a run has kept late, and that nobody has awaited since. -/
def late_handles (s : StatsigRuntime) (late : List TaskId) : List RuntimeStep → List TaskId
  | [] => late
  | a :: actions =>
    match s.step a with
    | none => late
    | some s' => late_handles s' (s.note_late late a) actions

/-- An entry is of a task that has not finished, unless the handle was kept late. A late handle is
in the map, and nothing is left that the task could do. -/
structure Noted (s : StatsigRuntime) (late : List TaskId) : Prop where
  calls : s.CallsKnown
  entries : ∀ key ∈ s.spawned_tasks.task_ids, s.Unfinished key ∨ key ∈ late
  late : ∀ key ∈ late, key ∈ s.spawned_tasks.task_ids ∧
    ∃ task, s.tasks key.tokio_id = some task ∧ task.phase = .finished

/-- Another task that moves on is not the one of the entry. -/
theorem Unfinished.update {key : TaskId} (h : s.Unfinished key) {id : Nat} (hne : key.tokio_id ≠ id)
    (task : Task) :
    Unfinished { s with tasks := Function.update s.tasks id (some task) } key := by
  obtain ⟨task', htask, htag, hphase⟩ := h
  exact ⟨task', (Function.update_of_ne hne ..).trans htask, htag, hphase⟩

/-- The task of a late handle is not one that moves on. -/
theorem Noted.late_update {late : List TaskId} (hs : s.Noted late) {key : TaskId}
    (hkey : key ∈ late) {id : Nat} (hmoves : ∀ task ∈ s.tasks id, task.phase ≠ .finished)
    (task : Task) :
    key.tokio_id ≠ id ∧
      ∃ task', Function.update s.tasks id (some task) key.tokio_id = some task' ∧
        task'.phase = .finished := by
  obtain ⟨-, task', htask, hphase⟩ := hs.late key hkey
  have hne : key.tokio_id ≠ id := by
    rintro rfl
    exact hmoves task' htask hphase
  exact ⟨hne, task', (Function.update_of_ne hne ..).trans htask, hphase⟩

theorem step_noted {late : List TaskId} {a : RuntimeStep} (hs : s.Noted late)
    (h : s.step a = some s') : s'.Noted (s.note_late late a) := by
  have hcalls := step_callsKnown hs.calls h
  rcases step_cases h with ⟨tag, id, rfl, hfresh, rfl⟩ | ⟨tag, handle, rfl, hcall, rfl⟩ |
    ⟨id, tag, rfl, htask, rfl⟩ | ⟨id, tag, rfl, htask, rfl⟩ | ⟨tag, rfl, rfl⟩ | ⟨tag, id, rfl, rfl⟩
  · refine ⟨hcalls, fun key hkey => ?_, fun key hkey => ?_⟩
    · refine (hs.entries key hkey).imp_left fun hunfinished => hunfinished.update ?_ _
      obtain ⟨task, hold, -⟩ := hunfinished
      rintro rfl
      rw [hfresh] at hold
      cases hold
    · refine ⟨(hs.late key hkey).1, (hs.late_update hkey ?_ _).2⟩
      intro task hold
      rw [hfresh] at hold
      cases hold
  · by_cases htime : s.InTime (.insert_join_handle tag handle)
    · simp only [note_late, if_pos htime]
      refine ⟨hcalls, fun key hkey => ?_, fun key hkey => ?_⟩
      · rcases (SpawnedTasks.mem_insert _).mp hkey with rfl | hkey
        · obtain ⟨task, htask, htag⟩ := hs.calls (tag, handle) hcall
          exact .inl ⟨task, htask, htag, htime task htask⟩
        · exact hs.entries key hkey
      · exact ⟨(SpawnedTasks.mem_insert _).mpr (.inr (hs.late key hkey).1), (hs.late key hkey).2⟩
    · simp only [note_late, if_neg htime]
      refine ⟨hcalls, fun key hkey => ?_, fun key hkey => ?_⟩
      · rcases (SpawnedTasks.mem_insert _).mp hkey with rfl | hkey
        · exact .inr List.mem_cons_self
        · exact (hs.entries key hkey).imp_right (List.mem_cons_of_mem _)
      · rcases List.mem_cons.mp hkey with rfl | hkey
        · refine ⟨(SpawnedTasks.mem_insert _).mpr (.inl rfl), ?_⟩
          by_contra hnone
          exact htime fun task htask hphase => hnone ⟨task, htask, hphase⟩
        · exact ⟨(SpawnedTasks.mem_insert _).mpr (.inr (hs.late key hkey).1),
            (hs.late key hkey).2⟩
  · have hmoves : ∀ task ∈ s.tasks id, task.phase ≠ .finished := by
      intro task hold
      cases htask.symm.trans hold
      exact nofun
    refine ⟨hcalls, fun key hkey => ?_, fun key hkey => ?_⟩
    · refine (hs.entries key hkey).imp_left fun hunfinished => ?_
      by_cases heq : key.tokio_id = id
      · obtain ⟨task, hold, htag, -⟩ := hunfinished
        rw [heq, htask] at hold
        cases hold
        exact ⟨⟨tag, .ran⟩, heq ▸ Function.update_self .., htag, nofun⟩
      · exact hunfinished.update heq _
    · exact ⟨(hs.late key hkey).1, (hs.late_update hkey hmoves _).2⟩
  · -- the entry of the task itself goes, and there is no other one of its id
    have hmoves : ∀ task ∈ s.tasks id, task.phase ≠ .finished := by
      intro task hold
      cases htask.symm.trans hold
      exact nofun
    refine ⟨hcalls, fun key hkey => ?_, fun key hkey => ?_⟩
    · obtain ⟨hne, hkey⟩ := (SpawnedTasks.mem_remove _).mp hkey
      refine (hs.entries key hkey).imp_left fun hunfinished => hunfinished.update ?_ _
      obtain ⟨task, hold, htag, -⟩ := hunfinished
      rintro rfl
      rw [htask] at hold
      cases hold
      cases htag
      exact hne rfl
    · obtain ⟨hne, hfinished⟩ := hs.late_update hkey hmoves ⟨tag, .finished⟩
      refine ⟨(SpawnedTasks.mem_remove _).mpr ⟨?_, (hs.late key hkey).1⟩, hfinished⟩
      rintro rfl
      exact hne rfl
  · refine ⟨hcalls, fun key hkey => ?_, fun key hkey => ?_⟩
    · obtain ⟨hkey, htag⟩ := (SpawnedTasks.mem_take_tasks _).mp hkey
      exact (hs.entries key hkey).imp_right fun hlate =>
        List.mem_filter.mpr ⟨hlate, decide_eq_true htag⟩
    · obtain ⟨hlate, htag⟩ := List.mem_filter.mp hkey
      exact ⟨(SpawnedTasks.mem_take_tasks _).mpr ⟨(hs.late key hlate).1, of_decide_eq_true htag⟩,
        (hs.late key hlate).2⟩
  · refine ⟨hcalls, fun key hkey => ?_, fun key hkey => ?_⟩
    · obtain ⟨hne, hkey⟩ := (SpawnedTasks.mem_remove _).mp hkey
      exact (hs.entries key hkey).imp_right fun hlate =>
        List.mem_filter.mpr ⟨hlate, decide_eq_true hne⟩
    · obtain ⟨hlate, hne⟩ := List.mem_filter.mp hkey
      exact ⟨(SpawnedTasks.mem_remove _).mpr ⟨of_decide_eq_true hne, (hs.late key hlate).1⟩,
        (hs.late key hlate).2⟩

/-- So the late handles are noted all along a run. -/
theorem run_noted {late : List TaskId} {actions : List RuntimeStep} (hs : s.Noted late)
    (h : run step s actions = some s') : s'.Noted (s.late_handles late actions) := by
  induction actions generalizing s late with
  | nil =>
    cases h
    exact hs
  | cons a actions ih =>
    obtain ⟨mid, hmid, hrest⟩ := run_cons_eq_some.mp h
    simp only [late_handles, hmid]
    exact ih (step_noted hs hmid) hrest

theorem start_noted : Noted {} [] :=
  ⟨fun _ hmem => absurd hmem List.not_mem_nil, fun _ hmem => absurd hmem List.not_mem_nil,
    fun _ hmem => absurd hmem List.not_mem_nil⟩

/-- Without a late handle no entry is of a finished task, and with one some entry is. -/
theorem Noted.entriesUnfinished_iff {late : List TaskId} (hs : s.Noted late) :
    s.EntriesUnfinished ↔ late = [] := by
  constructor
  · intro hentries
    apply List.eq_nil_iff_forall_not_mem.mpr
    intro key hkey
    obtain ⟨hmem, task, htask, hfinished⟩ := hs.late key hkey
    obtain ⟨task', htask', -, hphase⟩ := hentries key hmem
    cases htask.symm.trans htask'
    exact hphase hfinished
  · rintro rfl key hkey
    exact (hs.entries key hkey).resolve_right List.not_mem_nil

/-- A run that keeps every handle in time has no late ones. -/
theorem late_handles_of_inTime {actions : List RuntimeStep} (s : StatsigRuntime)
    (h : Along step InTime s actions) : s.late_handles [] actions = [] := by
  induction actions generalizing s with
  | nil => rfl
  | cons a actions ih =>
    unfold late_handles
    split
    · rfl
    · rename_i s' hstep
      have hnote : s.note_late [] a = [] := by
        cases a with
        | insert_join_handle tag handle => exact if_pos h.1
        | _ => rfl
      rw [hnote]
      exact ih s' (h.2 s' hstep)

/-! ## The count -/

/-- Each entry, and each task that is counted, is one that has not finished, so that the map is
empty when all of them have. -/
structure Booked (s : StatsigRuntime) : Prop where
  entries : s.EntriesUnfinished
  counted : ∃ ids : List Nat, ids.Nodup ∧ ids.length = s.spawned_tasks.get_num_active_tasks ∧
    ∀ id ∈ ids, ∃ task, s.tasks id = some task ∧ task.phase ≠ .finished
  emptied : (∀ id task, s.tasks id = some task → task.phase = .finished) → s.spawned_tasks = []

/-- An id has only one entry, because the entry has the tag of the task. -/
theorem EntriesUnfinished.ids_nodup (hs : s.EntriesUnfinished) :
    (s.spawned_tasks.task_ids.dedup.map TaskId.tokio_id).Nodup := by
  apply List.Nodup.map_on _ (List.nodup_dedup _)
  intro key hkey other hother heq
  obtain ⟨task, htask, htag, -⟩ := hs key (List.mem_dedup.mp hkey)
  obtain ⟨task', htask', htag', -⟩ := hs other (List.mem_dedup.mp hother)
  rw [heq, htask'] at htask
  cases htask
  cases key
  cases other
  cases heq
  cases htag
  cases htag'
  rfl

theorem EntriesUnfinished.booked (hs : s.EntriesUnfinished) : s.Booked := by
  refine ⟨hs, ⟨_, hs.ids_nodup, List.length_map .., ?_⟩, ?_⟩
  · intro id hid
    obtain ⟨key, hkey, rfl⟩ := List.mem_map.mp hid
    obtain ⟨task, htask, -, hphase⟩ := hs key (List.mem_dedup.mp hkey)
    exact ⟨task, htask, hphase⟩
  · intro hall
    apply List.map_eq_nil_iff.mp
    apply List.eq_nil_iff_forall_not_mem.mpr
    intro key hkey
    obtain ⟨task, htask, -, hphase⟩ := hs key hkey
    exact hphase (hall _ task htask)

theorem Booked.entriesUnfinished_iff : s.Booked ↔ s.EntriesUnfinished :=
  ⟨Booked.entries, EntriesUnfinished.booked⟩

/-- No call of `spawn` is under way. -/
def AllReturned (s : StatsigRuntime) : Prop := s.spawning = []

/-- No finished task is counted where the calls have returned, all along a run, exactly if by then
every handle that was kept late has been awaited. -/
theorem no_finished_task_is_counted_iff (actions : List RuntimeStep) :
    (∀ n s, run step {} (actions.take n) = some s → s.AllReturned → s.Booked) ↔
      ∀ n s, run step {} (actions.take n) = some s → s.AllReturned →
        late_handles {} [] (actions.take n) = [] := by
  have hpoint (n : Nat) (s : StatsigRuntime) (h : run step {} (actions.take n) = some s) :
      s.Booked ↔ late_handles {} [] (actions.take n) = [] :=
    Booked.entriesUnfinished_iff.trans (run_noted start_noted h).entriesUnfinished_iff
  constructor
  · exact fun hall n s h hreturned => (hpoint n s h).mp (hall n s h hreturned)
  · exact fun hall n s h hreturned => (hpoint n s h).mpr (hall n s h hreturned)

/-- A task that is over before its handle is kept. -/
theorem short_task_is_counted :
    ∃ s, run step {} [.start "flush" 0, .run 0, .remove_join_handle_with_id 0,
        .insert_join_handle "flush" ⟨0⟩] = some s ∧ s.AllReturned ∧ ¬ s.Booked := by
  refine ⟨_, rfl, rfl, fun hbooked => ?_⟩
  obtain ⟨task, htask, -, hphase⟩ := hbooked.entries ⟨"flush", 0⟩ (List.mem_singleton.mpr rfl)
  cases htask
  exact hphase rfl

/-- One short task after the other, each with its handle kept late. -/
def short_tasks (tag : String) : Nat → List RuntimeStep
  | 0 => []
  | n + 1 => short_tasks tag n ++ [.start tag n, .run n, .remove_join_handle_with_id n,
      .insert_join_handle tag ⟨n⟩]

/-- What short tasks leave behind: an entry each, and no task that has not finished. -/
structure Leaked (s : StatsigRuntime) (n : Nat) : Prop where
  returned : s.AllReturned
  finished : ∀ id task, s.tasks id = some task → id < n ∧ task.phase = .finished
  entries : s.spawned_tasks.get_num_active_tasks = n
  ids : ∀ key ∈ s.spawned_tasks.task_ids, key.tokio_id < n

/-- The steps of one short task. -/
theorem short_task_run {tag : String} {id : Nat} (hfresh : s.tasks id = none)
    (hreturned : s.AllReturned) :
    run step s [.start tag id, .run id, .remove_join_handle_with_id id,
        .insert_join_handle tag ⟨id⟩] = some
      { spawned_tasks := (s.spawned_tasks.remove_join_handle_with_id tag id).insert_join_handle
          tag ⟨id⟩
        tasks := Function.update s.tasks id (some ⟨tag, .finished⟩)
        spawning := [] } := by
  obtain ⟨spawned_tasks, tasks, spawning⟩ := s
  cases hreturned
  have htask : tasks id = none := hfresh
  simp only [run, step, htask, Option.bind_some, ↓reduceIte, Function.update_self,
    Function.update_idem, List.mem_cons_self, List.erase_cons_head]

/-- The map grows with every short task, and none of them goes on. -/
theorem short_tasks_leak (tag : String) (n : Nat) :
    ∃ s, run step {} (short_tasks tag n) = some s ∧ s.Leaked n := by
  induction n with
  | zero =>
    exact ⟨{}, rfl, rfl, fun _ _ h => (nomatch h), rfl, fun _ hmem => absurd hmem List.not_mem_nil⟩
  | succ n ih =>
    obtain ⟨s, hrun, hs⟩ := ih
    have hfresh : s.tasks n = none := by
      by_contra hsome
      obtain ⟨task, htask⟩ := Option.ne_none_iff_exists'.mp hsome
      exact Nat.lt_irrefl n (hs.finished n task htask).1
    have habsent : ⟨tag, n⟩ ∉ s.spawned_tasks.task_ids :=
      fun hmem => Nat.lt_irrefl n (hs.ids _ hmem)
    have hremove : s.spawned_tasks.remove_join_handle_with_id tag n = s.spawned_tasks := by
      apply List.filter_eq_self.mpr
      intro entry hentry
      refine decide_eq_true fun heq => habsent ?_
      rw [← heq]
      exact List.mem_map_of_mem hentry
    have hget : HashMap.get s.spawned_tasks ⟨tag, n⟩ = none := by
      by_contra hsome
      obtain ⟨handle, hhandle⟩ := Option.ne_none_iff_exists'.mp hsome
      exact habsent (HashMap.mem_keys_of_get hhandle)
    have hall := @run_append _ _ step {} (short_tasks tag n) [.start tag n, .run n,
      .remove_join_handle_with_id n, .insert_join_handle tag ⟨n⟩]
    rw [hrun, Option.bind_some, short_task_run hfresh hs.returned] at hall
    refine ⟨_, hall, rfl, ?_, ?_, ?_⟩
    · intro id task htask
      by_cases heq : id = n
      · subst heq
        have hself := (Function.update_self ..).symm.trans htask
        cases hself
        exact ⟨Nat.lt_succ_self _, rfl⟩
      · have hold := (Function.update_of_ne heq ..).symm.trans htask
        exact ⟨Nat.lt_succ_of_lt (hs.finished id task hold).1, (hs.finished id task hold).2⟩
    · rw [hremove]
      exact (HashMap.len_insert _ hget).trans (congrArg (· + 1) hs.entries)
    · intro key hkey
      rw [hremove] at hkey
      rcases (SpawnedTasks.mem_insert _).mp hkey with rfl | hkey
      · exact Nat.lt_succ_self n
      · exact Nat.lt_succ_of_lt (hs.ids key hkey)

/-- Where every handle is kept in time, no finished task is ever counted. -/
theorem booked_of_inTime {actions : List RuntimeStep} (h : run step {} actions = some s)
    (htime : Along step InTime {} actions) : s.Booked := by
  have hlate := run_noted start_noted h
  rw [late_handles_of_inTime {} htime] at hlate
  exact (hlate.entriesUnfinished_iff.mpr rfl).booked

end StatsigRuntime

end statsig_rust.statsig_runtime
