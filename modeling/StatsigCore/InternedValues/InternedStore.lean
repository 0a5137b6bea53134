-- The store of the interned values (`interned_values/interned_store.rs`), and the threads that
-- look values up, hold them, drop them and sweep. Each step is one atomic step of the source:
-- an operation of an atomic, or of the map under the lock of a shard.
import StatsigCore.Evaluation.SpecTypes

namespace statsig_rust.interned_values

def SWEEP_THRESHOLD : Nat := 65536

/-- An `Arc`: the allocation, and the value in it. -/
structure Arc (T : Type) where
  address : Nat
  value : T

/-- `pending_releases` counts one for each drop, so it is far from a wrap of its 64 bits. -/
structure LocalStore (T : Type) where
  map : HashMap UInt64 (Arc T) := []
  pending_releases : Nat := 0
  sweep_in_progress : Bool := false

/-- Where a thread is. -/
inductive Phase (T : Type) where
  | Idle
  /-- `get_or_insert_with` has found no entry, and goes on with the entry API. -/
  | Missing (hash : UInt64) (value : T)
  /-- `compile_regex` has given up its `Arc` for a changed value, which is to be inserted. -/
  | Replacing (hash : UInt64) (value : T)
  /-- A holder has dropped its `Arc`, and goes on with `note_release`. -/
  | Releasing
  /-- At the top of the loop of `try_sweep`. -/
  | Trying
  /-- The flag is taken, and the counter is not zero yet. -/
  | Owning
  | Zeroed
  /-- In `retain`, with the keys that it has not come to yet. -/
  | Sweeping (left : List UInt64)
  /-- The flag is clear, and what was dead is dropped. The drop does not touch this store. -/
  | Rechecking

/-- The store with the `Arc`s that are held outside of it, and its threads. `allocated` is the
next address. The last field is no part of the program: it is the value that was put in last for
each hash. -/
structure SharedStore (T : Type) where
  store : LocalStore T := {}
  holders : List (UInt64 × Arc T) := []
  threads : List (Phase T)
  allocated : Nat := 0
  interned : HashMap UInt64 T := []

inductive StoreStep (T : Type) where
  /-- `get`. -/
  | get (i : Nat) (hash : UInt64)
  | get_or_insert_with (i : Nat) (hash : UInt64) (value : T)
  /-- `entry(hash).or_insert_with(create)`. -/
  | entry (i : Nat)
  /-- The `clone` of an interned value. -/
  | clone (i k : Nat)
  /-- An `Arc` that never was in the map, such as the empty value. -/
  | outside (i : Nat) (hash : UInt64) (value : T)
  /-- The first half of a `drop`: the `Arc` goes. -/
  | drop (i k : Nat)
  /-- `note_release`. -/
  | note_release (i : Nat)
  /-- `run_maintenance`. -/
  | run_maintenance (i : Nat)
  | compare_exchange (i : Nat)
  | store_zero (i : Nat)
  | retain (i : Nat)
  /-- `retain` comes to an entry. It may come to those that were inserted meanwhile. -/
  | visit (i : Nat) (hash : UInt64)
  | clear (i : Nat)
  | recheck (i : Nat)
  /-- `Arc::make_mut` in `compile_regex`. -/
  | make_mut (i k : Nat) (value : T)
  | insert (i : Nat)

variable {T : Type}

namespace LocalStore

def get (store : LocalStore T) (hash : UInt64) : Option (Arc T) := HashMap.get store.map hash

/-- `DashMap::insert`, in place of what the key had. -/
def insert (store : LocalStore T) (hash : UInt64) (arc : Arc T) : LocalStore T :=
  { store with map := HashMap.insert (HashMap.remove store.map hash) hash arc }

theorem get_insert (store : LocalStore T) (hash : UInt64) (arc : Arc T) (key : UInt64) :
    (store.insert hash arc).get key = if key = hash then some arc else store.get key := by
  unfold get insert
  rw [HashMap.get_insert, HashMap.get_remove]
  split <;> rfl

theorem insert_keys (store : LocalStore T) (hash : UInt64) (arc : Arc T)
    (h : (store.map.map Prod.fst).Nodup) : ((store.insert hash arc).map.map Prod.fst).Nodup := by
  refine List.nodup_cons.mpr ⟨fun hmem => ?_, h.sublist (List.filter_sublist.map Prod.fst)⟩
  obtain ⟨entry, hentry, heq⟩ := List.mem_map.mp hmem
  exact of_decide_eq_true (List.mem_filter.mp hentry).2 heq

end LocalStore

namespace SharedStore

def goto (s : SharedStore T) (i : Nat) (phase : Phase T) : SharedStore T :=
  { s with threads := s.threads.set i phase }

/-- A thread gets an `Arc` that exists. -/
def hold (s : SharedStore T) (hash : UInt64) (arc : Arc T) : SharedStore T :=
  { s with holders := (hash, arc) :: s.holders }

/-- `Arc::new`, for a thread. -/
def allocate (s : SharedStore T) (hash : UInt64) (value : T) : SharedStore T :=
  { s with holders := (hash, ⟨s.allocated, value⟩) :: s.holders, allocated := s.allocated + 1 }

/-- A new `Arc` in the map, and a clone of it for a thread. -/
def enter (s : SharedStore T) (hash : UInt64) (value : T) : SharedStore T :=
  { s.allocate hash value with
    store := s.store.insert hash ⟨s.allocated, value⟩
    interned := HashMap.insert s.interned hash value }

def release (s : SharedStore T) (k : Nat) : SharedStore T :=
  { s with holders := s.holders.eraseIdx k }

def remove (s : SharedStore T) (hash : UInt64) : SharedStore T :=
  { s with store.map := HashMap.remove s.store.map hash }

def addresses (arcs : List (UInt64 × Arc T)) : List Nat := arcs.map (·.2.address)

/-- `Arc::strong_count`: the entries of the map and the holders. What a sweep has taken out of the
map never comes back to it. -/
def strong_count (s : SharedStore T) (arc : Arc T) : Nat :=
  (addresses s.store.map).count arc.address + (addresses s.holders).count arc.address

/-- `retain` takes out an entry that only the map owns. -/
def visit (s : SharedStore T) (hash : UInt64) : SharedStore T :=
  match s.store.get hash with
  | some arc => if s.strong_count arc = 1 then s.remove hash else s
  | none => s

def step (s : SharedStore T) : StoreStep T → Option (SharedStore T)
  | .get i hash =>
    match s.threads[i]? with
    | some .Idle =>
      match s.store.get hash with
      | some arc => some (s.hold hash arc)
      | none => some s
    | _ => none
  | .get_or_insert_with i hash value =>
    match s.threads[i]? with
    | some .Idle =>
      match s.store.get hash with
      | some existing => some (s.hold hash existing)
      | none => some (s.goto i (.Missing hash value))
    | _ => none
  | .entry i =>
    match s.threads[i]? with
    | some (.Missing hash value) =>
      match s.store.get hash with
      | some existing => some ((s.hold hash existing).goto i .Idle)
      | none => some ((s.enter hash value).goto i .Idle)
    | _ => none
  | .clone i k =>
    match s.threads[i]?, s.holders[k]? with
    | some .Idle, some (hash, arc) => some (s.hold hash arc)
    | _, _ => none
  | .outside i hash value =>
    match s.threads[i]? with
    | some .Idle => some (s.allocate hash value)
    | _ => none
  | .drop i k =>
    match s.threads[i]?, s.holders[k]? with
    | some .Idle, some _ => some ((s.release k).goto i .Releasing)
    | _, _ => none
  | .note_release i =>
    match s.threads[i]? with
    | some .Releasing =>
      let pending := s.store.pending_releases + 1
      let s := { s with store.pending_releases := pending }
      if pending < SWEEP_THRESHOLD then some (s.goto i .Idle) else some (s.goto i .Trying)
    | _ => none
  | .run_maintenance i =>
    match s.threads[i]? with
    | some .Idle => some (s.goto i .Trying)
    | _ => none
  | .compare_exchange i =>
    match s.threads[i]? with
    | some .Trying =>
      if s.store.sweep_in_progress then some (s.goto i .Idle)
      else some ({ s with store.sweep_in_progress := true }.goto i .Owning)
    | _ => none
  | .store_zero i =>
    match s.threads[i]? with
    | some .Owning => some ({ s with store.pending_releases := 0 }.goto i .Zeroed)
    | _ => none
  | .retain i =>
    match s.threads[i]? with
    | some .Zeroed => some (s.goto i (.Sweeping (s.store.map.map Prod.fst)))
    | _ => none
  | .visit i hash =>
    match s.threads[i]? with
    | some (.Sweeping left) => some ((s.visit hash).goto i (.Sweeping (left.filter (· ≠ hash))))
    | _ => none
  | .clear i =>
    match s.threads[i]? with
    | some (.Sweeping []) => some ({ s with store.sweep_in_progress := false }.goto i .Rechecking)
    | _ => none
  | .recheck i =>
    match s.threads[i]? with
    | some .Rechecking =>
      if s.store.pending_releases < SWEEP_THRESHOLD then some (s.goto i .Idle)
      else some (s.goto i .Trying)
    | _ => none
  | .make_mut i k value =>
    match s.threads[i]?, s.holders[k]? with
    | some .Idle, some (hash, _) => some ((s.release k).goto i (.Replacing hash value))
    | _, _ => none
  | .insert i =>
    match s.threads[i]? with
    | some (.Replacing hash value) => some ((s.enter hash value).goto i .Idle)
    | _ => none

/-- The empty store, before its threads start. -/
def start (threads : Nat) : SharedStore T := { threads := List.replicate threads .Idle }

end SharedStore

end statsig_rust.interned_values
