-- The tasks that the runtime keeps (`statsig_runtime.rs`), one step of a thread at a time. A call
-- of `spawn` starts its task before it has the lock to keep the handle, so the task may be over
-- by then. No lock times out here, and the runtime is not shut down.
import Mathlib.Logic.Function.Basic
import Mathlib.Tactic.Tauto
import StatsigCore.Evaluation.SpecTypes
import StatsigCore.Library.Machine

namespace statsig_rust.statsig_runtime

structure TaskId where
  tag : String
  tokio_id : Nat
deriving DecidableEq

structure JoinHandle where
  id : Nat
deriving DecidableEq

/-! ## The map of the handles -/

/-- `spawned_tasks`, behind its lock. -/
abbrev SpawnedTasks := HashMap TaskId JoinHandle

namespace SpawnedTasks

variable (spawned_tasks : SpawnedTasks)

def task_ids : List TaskId := spawned_tasks.map Prod.fst

/-- What `insert_join_handle` does under the lock. -/
def insert_join_handle (tag : String) (handle : JoinHandle) : SpawnedTasks :=
  HashMap.insert spawned_tasks ⟨tag, handle.id⟩ handle

def remove_join_handle_with_id (tag : String) (handle_id : Nat) : SpawnedTasks :=
  HashMap.remove spawned_tasks ⟨tag, handle_id⟩

/-- One turn of the loop of `await_tasks_with_tag`. -/
def take_task_with_tag (tag : String) (taken : SpawnedTasks × List JoinHandle) (key : TaskId) :
    SpawnedTasks × List JoinHandle :=
  if key.tag = tag then
    match HashMap.get taken.1 key with
    | some handle => (HashMap.remove taken.1 key, taken.2 ++ [handle])
    | none => taken
  else taken

/-- What `await_tasks_with_tag` does under the lock: the handles to wait for, and the others. -/
def take_tasks_with_tag (tag : String) : SpawnedTasks × List JoinHandle :=
  (task_ids spawned_tasks).foldl (take_task_with_tag tag) (spawned_tasks, [])

def get_num_active_tasks : Nat := HashMap.len spawned_tasks

theorem mem_insert {tag : String} {handle : JoinHandle} {key : TaskId} :
    key ∈ task_ids (insert_join_handle spawned_tasks tag handle) ↔
      key = ⟨tag, handle.id⟩ ∨ key ∈ task_ids spawned_tasks := List.mem_cons

theorem mem_remove {k key : TaskId} :
    key ∈ task_ids (HashMap.remove spawned_tasks k) ↔ key ≠ k ∧ key ∈ task_ids spawned_tasks := by
  unfold task_ids HashMap.remove
  simp only [List.mem_map, List.mem_filter, decide_eq_true_eq]
  constructor
  · rintro ⟨entry, ⟨hmem, hne⟩, rfl⟩
    exact ⟨hne, entry, hmem, rfl⟩
  · rintro ⟨hne, entry, hmem, rfl⟩
    exact ⟨entry, ⟨hmem, hne⟩, rfl⟩

/-- A turn takes its key out if that has the tag. -/
theorem mem_take_task {tag : String} {taken : SpawnedTasks × List JoinHandle} {k key : TaskId} :
    key ∈ task_ids (take_task_with_tag tag taken k).1 ↔
      key ∈ task_ids taken.1 ∧ (key.tag = tag → key ≠ k) := by
  unfold take_task_with_tag
  by_cases htag : k.tag = tag
  · rw [if_pos htag]
    cases hget : HashMap.get taken.1 k with
    | none =>
      dsimp only
      have habsent : k ∉ task_ids taken.1 := by
        intro hmem
        obtain ⟨handle, hhandle⟩ := HashMap.get_of_mem_keys hmem
        rw [hget] at hhandle
        cases hhandle
      constructor
      · rintro hmem
        exact ⟨hmem, fun _ heq => habsent (heq ▸ hmem)⟩
      · exact And.left
    | some handle =>
      dsimp only
      rw [mem_remove]
      constructor
      · rintro ⟨hne, hmem⟩
        exact ⟨hmem, fun _ => hne⟩
      · rintro ⟨hmem, hne⟩
        refine ⟨?_, hmem⟩
        rintro rfl
        exact hne htag rfl
  · rw [if_neg htag]
    constructor
    · intro hmem
      refine ⟨hmem, ?_⟩
      rintro hkey rfl
      exact htag hkey
    · exact And.left

/-- An await of a tag takes the tasks of the tag out, and no others. -/
theorem mem_take_tasks {tag : String} {key : TaskId} :
    key ∈ task_ids (take_tasks_with_tag spawned_tasks tag).1 ↔
      key ∈ task_ids spawned_tasks ∧ key.tag ≠ tag := by
  have hfold (keys : List TaskId) (taken : SpawnedTasks × List JoinHandle) :
      key ∈ task_ids (keys.foldl (take_task_with_tag tag) taken).1 ↔
        key ∈ task_ids taken.1 ∧ (key.tag = tag → key ∉ keys) := by
    induction keys generalizing taken with
    | nil => simp
    | cons k keys ih =>
      rw [List.foldl_cons, ih, mem_take_task, List.mem_cons]
      tauto
  unfold take_tasks_with_tag
  rw [hfold]
  constructor
  · rintro ⟨hmem, hkeys⟩
    exact ⟨hmem, fun htag => hkeys htag hmem⟩
  · rintro ⟨hmem, htag⟩
    exact ⟨hmem, fun h => absurd h htag⟩

theorem num_active_eq_zero_iff : get_num_active_tasks spawned_tasks = 0 ↔ spawned_tasks = [] := by
  unfold get_num_active_tasks HashMap.len
  rw [List.length_eq_zero_iff, List.dedup_eq_nil, List.map_eq_nil_iff]

end SpawnedTasks

/-! ## The runtime -/

/-- A task that has `ran` is at its own removal. -/
inductive Phase where
  | running | ran | finished
deriving DecidableEq

structure Task where
  tag_string : String
  phase : Phase
deriving DecidableEq

/-- The tasks are those of tokio. A call of `spawn` that has started its task is in `spawning`
until it has kept the handle. -/
structure StatsigRuntime where
  spawned_tasks : SpawnedTasks := []
  tasks : Nat → Option Task := fun _ => none
  spawning : List (String × JoinHandle) := []

/-- An `await` waits for the handles that it took, which is no step. -/
inductive RuntimeStep where
  | start (tag : String) (id : Nat)
  | insert_join_handle (tag : String) (handle : JoinHandle)
  | run (id : Nat)
  | remove_join_handle_with_id (id : Nat)
  | await_tasks_with_tag (tag : String)
  | await_join_handle (tag : String) (handle_id : Nat)

namespace StatsigRuntime

/-- A task gets an id that no task has. -/
def step (s : StatsigRuntime) : RuntimeStep → Option StatsigRuntime
  | .start tag id =>
    if s.tasks id = none then
      some { s with
        tasks := Function.update s.tasks id (some ⟨tag, .running⟩)
        spawning := (tag, ⟨id⟩) :: s.spawning }
    else none
  | .insert_join_handle tag handle =>
    if (tag, handle) ∈ s.spawning then
      some { s with
        spawned_tasks := s.spawned_tasks.insert_join_handle tag handle
        spawning := s.spawning.erase (tag, handle) }
    else none
  | .run id =>
    match s.tasks id with
    | some ⟨tag_string, .running⟩ =>
      some { s with tasks := Function.update s.tasks id (some ⟨tag_string, .ran⟩) }
    | _ => none
  | .remove_join_handle_with_id id =>
    match s.tasks id with
    | some ⟨tag_string, .ran⟩ =>
      some { s with
        spawned_tasks := s.spawned_tasks.remove_join_handle_with_id tag_string id
        tasks := Function.update s.tasks id (some ⟨tag_string, .finished⟩) }
    | _ => none
  | .await_tasks_with_tag tag =>
    some { s with spawned_tasks := (s.spawned_tasks.take_tasks_with_tag tag).1 }
  | .await_join_handle tag handle_id =>
    some { s with spawned_tasks := s.spawned_tasks.remove_join_handle_with_id tag handle_id }

end StatsigRuntime

end statsig_rust.statsig_runtime
