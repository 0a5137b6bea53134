-- The data store behind a spec store. Every full update that the network brings is
-- written by a task of its own, under one key for each format, and the adapter of a
-- server that boots reads the protobuf key first.
import Mathlib.Data.List.Perm.Basic
import StatsigCore.Library.Machine
import StatsigCore.SpecStore.SpecUpdates

open machine

namespace statsig_rust.data_store_interface

open spec_store

/-! ## Keys -/

inductive CompressFormat where
  | PlainText | Gzip | StatsigBr
deriving DecidableEq

def CompressFormat.display : CompressFormat → String
  | .PlainText => "plain_text"
  | .Gzip => "gzip"
  | .StatsigBr => "statsig-br"

/-- What stands before and after the first occurrence of the pattern. -/
def split_once (text pattern : List Char) : Option (List Char × List Char) :=
  if pattern <+: text then some ([], text.drop pattern.length)
  else
    match text with
    | [] => none
    | c :: rest => (split_once rest pattern).map fun parts => (c :: parts.1, parts.2)

def delimited (format : CompressFormat) : List Char :=
  ['|'] ++ format.display.toList ++ ['|']

/-- The first format that the key names gives way to the one that is asked for. -/
def data_store_key_with_compress_format (key : String) (compress_format : CompressFormat) :
    String :=
  let target := delimited compress_format
  let replaced := [CompressFormat.PlainText, .Gzip, .StatsigBr].findSome? fun current =>
    (split_once key.toList (delimited current)).map fun parts => parts.1 ++ target ++ parts.2
  match replaced with
  | some text => String.ofList text
  | none => key

structure DataStoreCacheKeys where
  plain_text : String
  statsig_br : String

def DataStoreCacheKeys.from_selected_key (key : String) : DataStoreCacheKeys where
  plain_text := data_store_key_with_compress_format key .PlainText
  statsig_br := data_store_key_with_compress_format key .StatsigBr

/-- `key` is the hash of the SDK key, or its beginning. -/
def get_data_store_key (path key : String) : String :=
  "statsig|" ++ path ++ "|" ++ CompressFormat.PlainText.display ++ "|" ++ key

def DataStoreCacheKeys.key_for (keys : DataStoreCacheKeys) (is_protobuf : Bool) : String :=
  if is_protobuf then keys.statsig_br else keys.plain_text

theorem DataStoreCacheKeys.key_for_inj {keys : DataStoreCacheKeys}
    (h : keys.plain_text ≠ keys.statsig_br) {a b : Bool} :
    keys.key_for a = keys.key_for b ↔ a = b := by
  unfold key_for
  cases a <;> cases b <;> simp [h, h.symm]

theorem split_once_occurs {text pattern : List Char} (h : pattern <:+: text) :
    (split_once text pattern).isSome = true := by
  induction text with
  | nil =>
    rw [List.infix_nil] at h
    subst h
    rfl
  | cons c rest ih =>
    unfold split_once
    split
    · rfl
    · rename_i hprefix
      rw [Option.isSome_map]
      refine ih ((List.infix_cons_iff.mp h).resolve_left hprefix)

/-- Two formats give two keys, where the key names the plain text. -/
theorem keys_differ {key : String} (h : delimited .PlainText <:+: key.toList) :
    (DataStoreCacheKeys.from_selected_key key).plain_text ≠
      (DataStoreCacheKeys.from_selected_key key).statsig_br := by
  obtain ⟨parts, hparts⟩ := Option.isSome_iff_exists.mp (split_once_occurs h)
  have hkey : ∀ format, data_store_key_with_compress_format key format =
      String.ofList (parts.1 ++ delimited format ++ parts.2) := by
    intro format
    unfold data_store_key_with_compress_format
    dsimp only
    rw [List.findSome?_cons, hparts]
    rfl
  intro hsame
  change data_store_key_with_compress_format key .PlainText =
    data_store_key_with_compress_format key .StatsigBr at hsame
  rw [hkey, hkey] at hsame
  have hlists := List.append_cancel_right (String.ofList_injective hsame)
  have hformats := List.append_cancel_left hlists
  revert hformats
  decide

/-- The keys of a spec store and of the adapter that reads for the next one. -/
def cache_keys (path key : String) : DataStoreCacheKeys :=
  .from_selected_key (get_data_store_key path key)

theorem cache_keys_differ (path key : String) :
    (cache_keys path key).plain_text ≠ (cache_keys path key).statsig_br := by
  refine keys_differ ⟨("statsig|" ++ path).toList, key.toList, ?_⟩
  unfold get_data_store_key delimited
  simp

/-! ## The data store -/

abbrev Bytes := List UInt8

/-- An atomic map that never fails, for bytes too or for strings only. -/
structure DataStore where
  entries : HashMap String Bytes := []
  bytes_implemented : Bool := true

namespace DataStore

variable (data_store : DataStore)

def set (key : String) (value : Bytes) : DataStore :=
  { data_store with entries := data_store.entries.insert key value }

/-- `none` is the error `BytesNotImplemented`. -/
def set_bytes (key : String) (value : Bytes) : Option DataStore :=
  if data_store.bytes_implemented then some (data_store.set key value) else none

/-- `none` is the error `BytesNotImplemented`. -/
def get_bytes (key : String) : Option (Option Bytes) :=
  if data_store.bytes_implemented then some (data_store.entries.get key) else none

end DataStore

/-! ## Writes -/

/-- The task of `spec_store_update_data_store`. -/
structure WriteTask where
  data_store_key : String
  data_bytes : Bytes
  now : Nat
  is_protobuf : Bool
deriving DecidableEq

/-- Only strings that are valid UTF-8 can be written as strings. -/
def valid_utf8 (bytes : Bytes) : Bool := ByteArray.validateUTF8 ⟨bytes.toArray⟩

def write_specs_to_data_store (data_store : DataStore) (task : WriteTask) : DataStore :=
  match data_store.set_bytes task.data_store_key task.data_bytes with
  | some data_store => data_store
  | none =>
    if task.is_protobuf then data_store
    else if valid_utf8 task.data_bytes then data_store.set task.data_store_key task.data_bytes
    else data_store

/-- The task that is spawned for an update, with the bytes that it is going to read. -/
def try_update_data_store (keys : DataStoreCacheKeys) (source : SpecsSource)
    (data : ResponseData) (data_bytes : Bytes) (now : Nat) (is_protobuf : Bool) :
    Option WriteTask :=
  if source ≠ .Network then none
  else if (data.get_header_ref "x-deltas-used").isSome then none
  else
    let data_store_key := if is_protobuf then keys.statsig_br else keys.plain_text
    some { data_store_key, data_bytes, now, is_protobuf }

/-! ## Reads -/

structure CachedSpecs where
  result : Option Bytes
  is_protobuf : Bool
deriving DecidableEq

def load_cached_specs_string (data_store : DataStore) (cache_keys : DataStoreCacheKeys) :
    CachedSpecs where
  result := data_store.entries.get cache_keys.plain_text
  is_protobuf := false

def load_statsig_br_cache (data_store : DataStore) (cache_keys : DataStoreCacheKeys) :
    Option CachedSpecs :=
  match data_store.get_bytes cache_keys.statsig_br with
  | some response => response.map fun result => { result := some result, is_protobuf := true }
  | none => some (load_cached_specs_string data_store cache_keys)

def load_plain_text_cache (data_store : DataStore) (cache_keys : DataStoreCacheKeys) :
    CachedSpecs :=
  match data_store.get_bytes cache_keys.plain_text with
  | some result => { result, is_protobuf := false }
  | none => load_cached_specs_string data_store cache_keys

def load_cached_specs (data_store : DataStore) (cache_keys : DataStoreCacheKeys) : CachedSpecs :=
  match load_statsig_br_cache data_store cache_keys with
  | some update => update
  | none => load_plain_text_cache data_store cache_keys

theorem load_cached_specs_eq {data_store : DataStore} (h : data_store.bytes_implemented = true)
    (cache_keys : DataStoreCacheKeys) :
    load_cached_specs data_store cache_keys =
      match data_store.entries.get cache_keys.statsig_br with
      | some result => { result := some result, is_protobuf := true }
      | none => { result := data_store.entries.get cache_keys.plain_text, is_protobuf := false } := by
  unfold load_cached_specs load_statsig_br_cache load_plain_text_cache DataStore.get_bytes
  rw [if_pos h]
  cases data_store.entries.get cache_keys.statsig_br with
  | none => simp [h]
  | some result => rfl

/-! ## Updates and writes in any order -/

/-- A spec store with its data store and the tasks that have not run. What was written, the
newest first, and what the last applied update should leave behind are kept too; no step
reads them. -/
structure CachedStore where
  store : SpecStore := {}
  data_store : DataStore := {}
  tasks : List WriteTask := []
  written : List WriteTask := []
  applied : Option CachedSpecs := none

inductive CacheStep where
  | update (update : SpecsUpdate) (data_bytes : Bytes) (locks : Locks) (now : Nat)
  /-- A task runs: it reads its bytes and writes them. -/
  | write (task : Nat) (reads : Bool)

namespace CachedStore

/-- `set_values`, with the task that its last step spawns. -/
def set_values (keys : DataStoreCacheKeys) (s : CachedStore) (update : SpecsUpdate)
    (data_bytes : Bytes) (locks : Locks) (now : Nat) : CachedStore :=
  match specs_update_prep s.store.data locks.prep update with
  | .ok (.HasUpdates next_values response_format) =>
    match specs_update_apply s.store locks next_values update now with
    | (.error _, store) => { s with store }
    | (.ok apply_result, store) =>
      let is_protobuf := response_format = .Protobuf
      let s := { s with store, applied := some ⟨some data_bytes, is_protobuf⟩ }
      match specs_update_notify locks.notify with
      | .error _ => s
      | .ok () =>
        let task := try_update_data_store keys update.source update.data data_bytes
          apply_result.time_received_at is_protobuf
        { s with tasks := s.tasks ++ task.toList }
  | _ => s

/-- The spec store of the calls is the one that `spec_store.set_values` leaves. -/
theorem set_values_store (keys : DataStoreCacheKeys) (s : CachedStore) (update : SpecsUpdate)
    (data_bytes : Bytes) (locks : Locks) (now : Nat) :
    (s.set_values keys update data_bytes locks now).store =
      (spec_store.set_values s.store update locks now).2 := by
  unfold set_values spec_store.set_values
  rcases specs_update_prep s.store.data locks.prep update with e | next_values | _ | _
  · rfl
  · dsimp only
    cases specs_update_apply s.store locks next_values update now with
    | mk result store =>
      cases result with
      | error e => rfl
      | ok apply_result =>
        dsimp only
        cases specs_update_notify locks.notify <;> rfl
  · rfl
  · rfl

/-- `none` when there is no such task. -/
def step (keys : DataStoreCacheKeys) (s : CachedStore) : CacheStep → Option CachedStore
  | .update update data_bytes locks now => some (s.set_values keys update data_bytes locks now)
  | .write task reads =>
    match s.tasks[task]? with
    | none => none
    | some write =>
      let s := { s with tasks := s.tasks.eraseIdx task }
      if reads then some { s with
        data_store := write_specs_to_data_store s.data_store write
        written := write :: s.written }
      else some s

/-! ## What is left in the data store -/

/-- A full update from the network, whose last lock is granted, and a write that succeeds. -/
def Full (_ : CachedStore) : CacheStep → Prop
  | .update update _ locks _ => update.source = .Network ∧
      update.data.get_header_ref "x-deltas-used" = none ∧ locks.notify = true
  | .write _ reads => reads = true

instance (s : CachedStore) (label : CacheStep) : Decidable (s.Full label) := by
  cases label <;> unfold Full <;> infer_instance

/-- The task writes what the cache should hold. -/
def Writes (task : WriteTask) (last : CachedSpecs) : Prop :=
  last = ⟨some task.data_bytes, task.is_protobuf⟩

/-- What is stored under a key was written last, or was there before all writes. -/
structure Cached (entries : HashMap String Bytes) (keys : DataStoreCacheKeys)
    (s : CachedStore) : Prop where
  bytes : s.data_store.bytes_implemented = true
  keyed : ∀ task ∈ s.tasks, task.data_store_key = keys.key_for task.is_protobuf
  held : ∀ is_protobuf, s.data_store.entries.get (keys.key_for is_protobuf) =
    ((s.written.find? (·.is_protobuf = is_protobuf)).map (·.data_bytes)).or
      (entries.get (keys.key_for is_protobuf))
  spawned : ∀ last, s.applied = some last → ∃ task ∈ s.tasks ++ s.written, Writes task last

variable {entries : HashMap String Bytes} {keys : DataStoreCacheKeys} {s s' : CachedStore}

variable (keys) in
/-- A full update is not applied, or its task is spawned. -/
theorem update_cases {update : SpecsUpdate} {data_bytes : Bytes} {locks : Locks} {now : Nat}
    (hfull : s.Full (.update update data_bytes locks now)) :
    (∃ store, s.set_values keys update data_bytes locks now = { s with store }) ∨
    ∃ store task, Writes task ⟨some data_bytes, task.is_protobuf⟩ ∧
      task.data_store_key = keys.key_for task.is_protobuf ∧
      s.set_values keys update data_bytes locks now =
        { s with store, tasks := s.tasks ++ [task],
                 applied := some ⟨some data_bytes, task.is_protobuf⟩ } := by
  obtain ⟨hsource, hheader, hnotify⟩ := hfull
  unfold set_values
  rcases specs_update_prep s.store.data locks.prep update with e | ⟨next_values, format⟩ | _ | _
  · exact .inl ⟨s.store, rfl⟩
  · dsimp only
    cases specs_update_apply s.store locks next_values update now with
    | mk result store =>
      cases result with
      | error e => exact .inl ⟨store, rfl⟩
      | ok apply_result =>
        have hnotified : specs_update_notify locks.notify = .ok () := if_pos hnotify
        have hspawned : ∀ is_protobuf, try_update_data_store keys update.source update.data
            data_bytes apply_result.time_received_at is_protobuf =
              some ⟨keys.key_for is_protobuf, data_bytes, apply_result.time_received_at,
                is_protobuf⟩ := by
          intro is_protobuf
          unfold try_update_data_store
          rw [if_neg (by simp [hsource]), if_neg (by simp [hheader])]
          rfl
        dsimp only
        rw [hnotified, hspawned]
        refine .inr ⟨store, _, ?_, rfl, rfl⟩
        rfl
  · exact .inl ⟨s.store, rfl⟩
  · exact .inl ⟨s.store, rfl⟩

theorem write_cases {task : Nat} (h : s.step keys (.write task true) = some s') :
    ∃ write, s.tasks[task]? = some write ∧ s' = { s with
      tasks := s.tasks.eraseIdx task
      data_store := write_specs_to_data_store s.data_store write
      written := write :: s.written } := by
  unfold step at h
  dsimp only at h
  cases hwrite : s.tasks[task]? with
  | none =>
    rw [hwrite] at h
    cases h
  | some write =>
    rw [hwrite] at h
    cases h
    exact ⟨write, rfl, rfl⟩

/-- A task that runs goes from the tasks to what was written. -/
theorem mem_after_write {task : Nat} {write other : WriteTask}
    (hwrite : s.tasks[task]? = some write) :
    other ∈ s.tasks.eraseIdx task ++ write :: s.written ↔ other ∈ s.tasks ++ s.written := by
  obtain ⟨hlt, hget⟩ := List.getElem?_eq_some_iff.mp hwrite
  have hperm : (write :: s.tasks.eraseIdx task).Perm s.tasks := by
    rw [← hget]
    exact List.getElem_cons_eraseIdx_perm hlt
  have hmem := hperm.mem_iff (a := other)
  simp only [List.mem_append, List.mem_cons] at *
  tauto

theorem write_specs_eq {data_store : DataStore} (h : data_store.bytes_implemented = true)
    (write : WriteTask) :
    write_specs_to_data_store data_store write =
      data_store.set write.data_store_key write.data_bytes := by
  unfold write_specs_to_data_store DataStore.set_bytes
  rw [if_pos h]

theorem step_cached {label : CacheStep} (hkeys : keys.plain_text ≠ keys.statsig_br)
    (hs : s.Cached entries keys) (hlabel : s.Full label)
    (h : s.step keys label = some s') : s'.Cached entries keys := by
  obtain ⟨hbytes, hkeyed, hheld, hspawned⟩ := hs
  cases label with
  | update update data_bytes locks now =>
    have hset : s.set_values keys update data_bytes locks now = s' := Option.some.inj h
    rcases update_cases keys hlabel with ⟨store, hsame⟩ | ⟨store, task, hwrites, hkey,
      hnew⟩
    · obtain rfl := hset.symm.trans hsame
      exact ⟨hbytes, hkeyed, hheld, hspawned⟩
    · obtain rfl := hset.symm.trans hnew
      refine ⟨hbytes, ?_, hheld, ?_⟩
      · intro other hother
        rcases List.mem_append.mp hother with hold | hlast
        · exact hkeyed other hold
        · rw [List.mem_singleton.mp hlast]
          exact hkey
      · rintro last hlast
        cases hlast
        exact ⟨task, List.mem_append_left _ (List.mem_append_right _ List.mem_cons_self), hwrites⟩
  | write task reads =>
    cases (hlabel : reads = true)
    obtain ⟨write, hwrite, rfl⟩ := write_cases h
    have hstored := write_specs_eq hbytes write
    refine ⟨?_, ?_, ?_, ?_⟩
    · dsimp only
      rw [hstored]
      exact hbytes
    · intro other hother
      exact hkeyed other (List.mem_of_mem_eraseIdx hother)
    · intro is_protobuf
      dsimp only
      rw [hstored]
      unfold DataStore.set
      dsimp only
      rw [HashMap.get_insert, List.find?_cons,
        hkeyed write (List.mem_of_getElem? hwrite)]
      by_cases hformat : is_protobuf = write.is_protobuf
      · subst hformat
        simp
      · rw [if_neg (mt (DataStoreCacheKeys.key_for_inj hkeys).mp hformat), hheld is_protobuf,
          decide_eq_false (Ne.symm hformat)]
    · intro last hlast
      obtain ⟨other, hother, hwrites⟩ := hspawned last hlast
      exact ⟨other, (mem_after_write hwrite).mpr hother, hwrites⟩

/-- The data store with what it held before, and no task. -/
def start (store : SpecStore) (entries : HashMap String Bytes) : CachedStore :=
  { store, data_store := { entries } }

theorem run_cached {store : SpecStore} {labels : List CacheStep}
    (hkeys : keys.plain_text ≠ keys.statsig_br)
    (hlabels : Along (step keys) Full (start store entries) labels)
    (hrun : run (step keys) (start store entries) labels = some s) : s.Cached entries keys := by
  refine run_invariant_along (I := Cached entries keys)
    (fun _ _ _ hs hc h => step_cached hkeys hs hc h) hlabels ?_ hrun
  exact ⟨rfl, fun _ h => (List.not_mem_nil h).elim, fun _ => rfl,
    fun _ h => (Option.some_ne_none _ h.symm).elim⟩

/-! ## The last update -/

/-- Of the writes in its format, the one that ran last is the last update's. If that is
JSON, there is no protobuf under the other key. -/
structure WrittenLast (entries : HashMap String Bytes) (keys : DataStoreCacheKeys)
    (s : CachedStore) (last : CachedSpecs) : Prop where
  last_of_its_format : ∃ newer task older, s.written = newer ++ task :: older ∧
    Writes task last ∧ ∀ later ∈ newer, later.is_protobuf ≠ last.is_protobuf
  no_protobuf : last.is_protobuf = false →
    (∀ task ∈ s.written, task.is_protobuf = false) ∧ entries.get keys.statsig_br = none

theorem load_eq_iff {data_store : DataStore} (h : data_store.bytes_implemented = true)
    (bytes : Bytes) (is_protobuf : Bool) :
    load_cached_specs data_store keys = ⟨some bytes, is_protobuf⟩ ↔
      data_store.entries.get (keys.key_for is_protobuf) = some bytes ∧
        (is_protobuf = false → data_store.entries.get keys.statsig_br = none) := by
  rw [load_cached_specs_eq h]
  unfold DataStoreCacheKeys.key_for
  cases hbr : data_store.entries.get keys.statsig_br with
  | none => cases is_protobuf <;> simp [hbr]
  | some result => cases is_protobuf <;> simp [hbr]

/-- What was written last in a format that something was written in. -/
theorem get_format_iff (hs : s.Cached entries keys)
    {last : WriteTask} (hlast : last ∈ s.written) (bytes : Bytes) :
    s.data_store.entries.get (keys.key_for last.is_protobuf) = some bytes ↔
      ∃ newer task older, s.written = newer ++ task :: older ∧
        Writes task ⟨some bytes, last.is_protobuf⟩ ∧
        ∀ later ∈ newer, later.is_protobuf ≠ last.is_protobuf := by
  rw [hs.held]
  cases hfind : s.written.find? (·.is_protobuf = last.is_protobuf) with
  | none =>
    have hnone := List.find?_eq_none.mp hfind last hlast
    simp at hnone
  | some found =>
    obtain ⟨hformat, newer, older, hsplit, hnewer⟩ := List.find?_eq_some_iff_append.mp hfind
    rw [decide_eq_true_eq] at hformat
    have hlater : ∀ later ∈ newer, later.is_protobuf ≠ last.is_protobuf := by
      intro later hlater
      simpa using hnewer later hlater
    rw [Option.map_some, Option.some_or, Option.some.injEq]
    constructor
    · rintro rfl
      exact ⟨newer, found, older, hsplit, by unfold Writes; rw [hformat], hlater⟩
    · rintro ⟨newer', task, older', hsplit', hwrites, hnewer'⟩
      have hsame : s.written.find? (·.is_protobuf = last.is_protobuf) = some task := by
        refine List.find?_eq_some_iff_append.mpr ⟨?_, newer', older', hsplit', ?_⟩
        · exact decide_eq_true (congrArg CachedSpecs.is_protobuf hwrites).symm
        · intro later hmem
          simpa using hnewer' later hmem
      obtain rfl := Option.some.inj (hfind.symm.trans hsame)
      exact (Option.some.inj (congrArg CachedSpecs.result hwrites)).symm

theorem no_protobuf_iff (hs : s.Cached entries keys) :
    s.data_store.entries.get keys.statsig_br = none ↔
      (∀ task ∈ s.written, task.is_protobuf = false) ∧ entries.get keys.statsig_br = none := by
  have hkey : keys.statsig_br = keys.key_for true := rfl
  rw [hkey, hs.held, Option.or_eq_none_iff, Option.map_eq_none_iff, List.find?_eq_none]
  refine and_congr ?_ Iff.rfl
  refine forall₂_congr fun task _ => ?_
  cases task.is_protobuf <;> simp

/-- Once all tasks have run, the cache holds the last update that was applied just when the
write of that update is the last one in its format, and no protobuf hides a JSON. -/
theorem cache_holds_the_last_update_iff (path key : String) {store : SpecStore}
    {entries : HashMap String Bytes} {labels : List CacheStep} {s : CachedStore}
    {last : CachedSpecs}
    (hlabels : Along (step (cache_keys path key)) Full (start store entries) labels)
    (hrun : run (step (cache_keys path key)) (start store entries) labels = some s)
    (hdone : s.tasks = []) (hlast : s.applied = some last) :
    load_cached_specs s.data_store (cache_keys path key) = last ↔
      s.WrittenLast entries (cache_keys path key) last := by
  have hkeys := cache_keys_differ path key
  have hs := run_cached hkeys hlabels hrun
  obtain ⟨task, htask, rfl⟩ := hs.spawned last hlast
  rw [hdone, List.nil_append] at htask
  rw [load_eq_iff hs.bytes, get_format_iff hs htask, no_protobuf_iff hs]
  constructor
  · rintro ⟨hformat, hprotobuf⟩
    exact ⟨hformat, hprotobuf⟩
  · rintro ⟨hformat, hprotobuf⟩
    exact ⟨hformat, hprotobuf⟩

/-- The updates are applied, each later than the one before. -/
def InOrder (s : CachedStore) : CacheStep → Prop
  | .update update _ locks _ => locks.apply = true ∧
      ∃ next_values, Accepted s.store.data locks.prep update next_values ∧
        s.store.data.values.time < next_values.time
  | .write _ _ => True

/-- A full update with these values, in JSON or in protobuf. -/
def full_update (values : specs_response.SpecsResponseFull) (format : SpecsFormat) : SpecsUpdate where
  data :=
    { headers := match format with
        | .Json => none
        | .Protobuf => some [("content-type", "application/octet-stream"),
            ("content-encoding", "statsig-br")]
      deserialize_protobuf := fun _ => .ok values
      deserialize_json := .ok values
      deserialize_no_updates := .ok true }
  source := .Network

/-- A JSON update, and a protobuf update after it. Their writes run in the other order. -/
def json_then_protobuf : List CacheStep :=
  [.update (full_update { time := 1, has_updates := true } .Json) [1] {} 10,
    .update (full_update { time := 2, has_updates := true } .Protobuf) [2] {} 20,
    .write 1 true, .write 0 true]

/-- The protobuf is found, whatever was written after it. -/
theorem cache_holds_a_protobuf_after_a_json :
    ∃ s, run (step (cache_keys "/v2/download_config_specs" "key")) (start {} [])
        json_then_protobuf = some s ∧
      (load_cached_specs s.data_store (cache_keys "/v2/download_config_specs" "key") =
          ⟨some [2], true⟩ ↔
        s.WrittenLast [] (cache_keys "/v2/download_config_specs" "key") ⟨some [2], true⟩) := by
  refine ⟨_, rfl, ?_⟩
  exact cache_holds_the_last_update_iff "/v2/download_config_specs" "key"
    (by decide +kernel : Along _ Full (start {} []) json_then_protobuf) rfl rfl rfl

/-- A protobuf update, and a JSON update after it. Each is written before the next. -/
def protobuf_then_json : List CacheStep :=
  [.update (full_update { time := 1, has_updates := true } .Protobuf) [1] {} 10, .write 0 true,
    .update (full_update { time := 2, has_updates := true } .Json) [2] {} 20, .write 0 true]

theorem protobuf_then_json_in_order (keys : DataStoreCacheKeys) :
    Along (step keys) InOrder (start {} []) protobuf_then_json := by
  refine ⟨⟨rfl, _, ⟨rfl, rfl, rfl, rfl⟩, Nat.zero_lt_one⟩, fun _ h => ?_⟩
  cases h
  refine ⟨trivial, fun _ h => ?_⟩
  cases h
  refine ⟨⟨rfl, _, ⟨rfl, rfl, rfl, rfl⟩, Nat.one_lt_two⟩, fun _ h => ?_⟩
  cases h
  exact ⟨trivial, fun _ _ => trivial⟩

/-- The reader finds the protobuf that the JSON update should have replaced. -/
theorem stale_protobuf_hides_the_json :
    ¬ ∀ (path key : String) (labels : List CacheStep) (s : CachedStore) (last : CachedSpecs),
      Along (step (cache_keys path key)) Full (start {} []) labels →
      Along (step (cache_keys path key)) InOrder (start {} []) labels →
      run (step (cache_keys path key)) (start {} []) labels = some s → s.tasks = [] →
      s.applied = some last → load_cached_specs s.data_store (cache_keys path key) = last := by
  intro hall
  have hload := hall "/v2/download_config_specs" "key" protobuf_then_json _ ⟨some [2], false⟩
    (by decide +kernel) (protobuf_then_json_in_order _) rfl rfl rfl
  revert hload
  decide +kernel

/-- Two JSON updates, written in the other order: the cache holds the older one. -/
example : (run (step (cache_keys "/v2/download_config_specs" "key")) (start {} [])
    [.update (full_update { time := 1, has_updates := true } .Json) [1] {} 10,
      .update (full_update { time := 2, has_updates := true } .Json) [2] {} 20,
      .write 1 true, .write 0 true]).map (fun s =>
        load_cached_specs s.data_store (cache_keys "/v2/download_config_specs" "key")) =
      some ⟨some [1], false⟩ := by decide +kernel

end CachedStore

end statsig_rust.data_store_interface
