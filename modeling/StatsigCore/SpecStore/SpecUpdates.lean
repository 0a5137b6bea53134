-- `SpecStore::set_values` (`spec_store.rs`) with its three steps, and the global configs
-- that it writes (`global_configs.rs`). Each lock that a step asks for may fail. The ID
-- lists of the store, its events and its writes to the data store are not here: no step of
-- an update reads them.
import Mathlib.Algebra.Order.Ring.Rat
import Mathlib.Data.List.Infix
import StatsigCore.SpecsResponse.SpecTypes

namespace statsig_rust.spec_store

export specs_response (SpecsResponseFull StatsigErr)

/-! ## The global configs -/

def MAX_SAMPLING_RATE : F64 := 10000

structure GlobalConfigs where
  sdk_configs : HashMap String DynamicValue := []
  sdk_flags : HashMap String Bool := []
  diagnostics_sampling_rates : HashMap String F64 :=
    [("initialize", 10000), ("config_sync", 1000), ("dcs", 1000), ("get_id_list", 100)]

/-- The entries of a new map go in one by one. The entry that counts for a key is the last
one to go in. -/
def insert_all {υ : Type} (m new : HashMap String υ) : HashMap String υ :=
  new.foldr (fun entry m => m.insert entry.1 entry.2) m

theorem get_insert_all {υ : Type} (m new : HashMap String υ) (key : String) :
    (insert_all m new).get key = (new.get key).or (m.get key) := by
  induction new with
  | nil => simp [insert_all]
  | cons entry new ih =>
    have hcons : insert_all m (entry :: new) = (insert_all m new).insert entry.1 entry.2 := rfl
    rw [hcons, HashMap.get_insert, HashMap.get_cons, ih]
    split
    · rfl
    · rfl

/-- A map that is written over with the new entries is as before just when it has all of
them already. -/
theorem insert_all_same_iff {υ : Type} (m new : HashMap String υ) :
    (∀ key, (insert_all m new).get key = m.get key) ↔
      ∀ key value, new.get key = some value → m.get key = some value := by
  constructor
  · intro hsame key value hnew
    have h := hsame key
    rw [get_insert_all, hnew] at h
    exact h.symm
  · intro hhas key
    rw [get_insert_all]
    cases hnew : new.get key with
    | none => rfl
    | some value => exact (hhas key value hnew).symm

/-- `f64::clamp` to the range of a sampling rate. -/
def clamp_rate (rate : F64) : F64 := max 0 (min rate MAX_SAMPLING_RATE)

def clamp_rates (rates : HashMap String F64) : HashMap String F64 :=
  rates.map fun entry => (entry.1, clamp_rate entry.2)

namespace GlobalConfigs

def set_sdk_configs (configs : GlobalConfigs) (lock : Bool)
    (new_configs : HashMap String DynamicValue) : GlobalConfigs :=
  if lock then { configs with sdk_configs := insert_all configs.sdk_configs new_configs }
  else configs

def set_sdk_flags (configs : GlobalConfigs) (lock : Bool) (new_configs : HashMap String Bool) :
    GlobalConfigs :=
  if lock then { configs with sdk_flags := insert_all configs.sdk_flags new_configs } else configs

def set_diagnostics_sampling_rates (configs : GlobalConfigs) (lock : Bool)
    (new_sampling_rate : HashMap String F64) : GlobalConfigs :=
  if lock then { configs with
    diagnostics_sampling_rates :=
      insert_all configs.diagnostics_sampling_rates (clamp_rates new_sampling_rate) }
  else configs

/-- The same settings under every key. -/
def Same (configs other : GlobalConfigs) : Prop :=
  (∀ key, configs.diagnostics_sampling_rates.get key = other.diagnostics_sampling_rates.get key) ∧
    (∀ key, configs.sdk_configs.get key = other.sdk_configs.get key) ∧
    ∀ key, configs.sdk_flags.get key = other.sdk_flags.get key

end GlobalConfigs

/-! ## An update -/

inductive SpecsSource where
  | Uninitialized | NoValues | Error | Loading | Bootstrap | Adapter (name : String) | Network
deriving DecidableEq

inductive SpecsFormat where
  | Json | Protobuf
deriving DecidableEq

/-- A response, with what each of the three readers makes of its bytes. They rewind it
first, so that none of them depends on the one before. The protobuf reader also sees the
current values. -/
structure ResponseData where
  headers : Option (HashMap String String) := none
  deserialize_protobuf : SpecsResponseFull → Except StatsigErr SpecsResponseFull
  deserialize_json : Except StatsigErr SpecsResponseFull
  deserialize_no_updates : Except StatsigErr Bool

def ResponseData.get_header_ref (data : ResponseData) (key : String) : Option String :=
  data.headers.bind fun headers => headers.get key

structure SpecsUpdate where
  data : ResponseData
  source : SpecsSource
  source_api : Option String := none

structure SpecStoreData where
  source : SpecsSource := .Uninitialized
  source_api : Option String := none
  time_received_at : Option Nat := none
  values : SpecsResponseFull := {}

structure SpecStore where
  data : SpecStoreData := {}
  global_configs : GlobalConfigs := {}

/-- Which of the locks that an update asks for are granted. -/
structure Locks where
  prep : Bool := true
  diagnostics : Bool := true
  sdk_configs : Bool := true
  sdk_flags : Bool := true
  apply : Bool := true
  notify : Bool := true

inductive PrepResult where
  | HasUpdates (next_values : SpecsResponseFull) (response_format : SpecsFormat)
  | NoUpdates
  | CurrentValuesNewer

structure ApplyResult where
  prev_source : SpecsSource
  prev_lcut : Nat
  time_received_at : Nat

/-- `str::contains`. -/
def contains (text part : String) : Bool := decide (part.toList <:+: text.toList)

def get_spec_response_format (update : SpecsUpdate) : SpecsFormat :=
  let content_type := update.data.get_header_ref "content-type"
  if content_type.map (contains · "application/octet-stream") ≠ some true then .Json
  else
    let content_encoding := update.data.get_header_ref "content-encoding"
    if content_encoding.map (contains · "statsig-br") ≠ some true then .Json
    else .Protobuf

def deserialize_specs_data (current_values : SpecsResponseFull) (response_format : SpecsFormat)
    (response_data : ResponseData) : Except StatsigErr SpecsResponseFull :=
  match response_format with
  | .Protobuf => response_data.deserialize_protobuf current_values
  | .Json => response_data.deserialize_json

def are_current_values_newer (data : SpecStoreData) (next_values : SpecsResponseFull) : Bool :=
  let curr_values := data.values
  let curr_checksum := curr_values.checksum.getD ""
  let new_checksum := next_values.checksum.getD ""
  let cached_time_is_newer := curr_values.time > 0 && curr_values.time > next_values.time
  let checksums_match := curr_checksum ≠ "" && curr_checksum = new_checksum
  cached_time_is_newer || checksums_match

def specs_update_prep (data : SpecStoreData) (lock : Bool) (update : SpecsUpdate) :
    Except StatsigErr PrepResult :=
  let response_format := get_spec_response_format update
  if lock then
    match deserialize_specs_data data.values response_format update.data with
    | .ok next_values =>
      if are_current_values_newer data next_values then .ok .CurrentValuesNewer
      else if next_values.has_updates then .ok (.HasUpdates next_values response_format)
      else
        match update.data.deserialize_no_updates with
        | .ok false => .ok .NoUpdates
        | .ok true => .error (.JsonParseError "SpecsResponse" "Unknown error")
        | .error e => .error e
    | .error e =>
      match update.data.deserialize_no_updates with
      | .ok false => .ok .NoUpdates
      -- the error of the first reader comes first
      | _ => .error e
  else .error (.LockFailure "Failed to acquire read lock for extract_response_from_update")

def try_update_global_configs (configs : GlobalConfigs) (locks : Locks)
    (dcs : SpecsResponseFull) : GlobalConfigs :=
  let configs := match dcs.diagnostics with
    | some diagnostics => configs.set_diagnostics_sampling_rates locks.diagnostics diagnostics
    | none => configs
  let configs := match dcs.sdk_configs with
    | some sdk_configs => configs.set_sdk_configs locks.sdk_configs sdk_configs
    | none => configs
  match dcs.sdk_flags with
  | some sdk_flags => configs.set_sdk_flags locks.sdk_flags sdk_flags
  | none => configs

/-- The data after the swap. -/
def swapped (update : SpecsUpdate) (next_values : SpecsResponseFull) (now : Nat) :
    SpecStoreData where
  source := update.source
  source_api := update.source_api
  time_received_at := some now
  values := next_values

def specs_update_apply (store : SpecStore) (locks : Locks) (next_values : SpecsResponseFull)
    (update : SpecsUpdate) (now : Nat) : Except StatsigErr ApplyResult × SpecStore :=
  -- the configs are written before the lock of the data is asked for
  let global_configs := try_update_global_configs store.global_configs locks next_values
  if locks.apply then
    (.ok ⟨store.data.source, store.data.values.time, now⟩,
      { data := swapped update next_values now, global_configs })
  else
    (.error (.LockFailure "Failed to acquire write lock for swap_current_with_next"),
      { store with global_configs })

def specs_update_notify (lock : Bool) : Except StatsigErr Unit :=
  if lock then .ok ()
  else .error (.LockFailure "Failed to acquire read lock for set_values")

/-- The result of the call and the store after it. -/
def set_values (store : SpecStore) (update : SpecsUpdate) (locks : Locks) (now : Nat) :
    Except StatsigErr Unit × SpecStore :=
  match specs_update_prep store.data locks.prep update with
  | .error e => (.error e, store)
  | .ok .CurrentValuesNewer => (.ok (), store)
  | .ok .NoUpdates => (.ok (), store)
  | .ok (.HasUpdates next_values _) =>
    match specs_update_apply store locks next_values update now with
    | (.error e, store) => (.error e, store)
    | (.ok _, store) => (specs_update_notify locks.notify, store)

/-! ## What the steps do -/

/-- The update is read, its values are not older than the current ones, and it says that
it has updates. -/
def Accepted (data : SpecStoreData) (lock : Bool) (update : SpecsUpdate)
    (next_values : SpecsResponseFull) : Prop :=
  lock = true ∧
    deserialize_specs_data data.values (get_spec_response_format update) update.data =
      .ok next_values ∧
    are_current_values_newer data next_values = false ∧ next_values.has_updates = true

theorem prep_eq_has_updates_iff {data : SpecStoreData} {lock : Bool} {update : SpecsUpdate}
    {next_values : SpecsResponseFull} {response_format : SpecsFormat} :
    specs_update_prep data lock update = .ok (.HasUpdates next_values response_format) ↔
      Accepted data lock update next_values ∧
        response_format = get_spec_response_format update := by
  unfold specs_update_prep Accepted
  dsimp only
  cases lock with
  | false => simp
  | true =>
    cases hread : deserialize_specs_data data.values (get_spec_response_format update)
        update.data with
    | error e =>
      rcases update.data.deserialize_no_updates with e' | _ | _ <;> simp
    | ok read =>
      cases hnewer : are_current_values_newer data read with
      | true =>
        simp only [↓reduceIte, hnewer, Except.ok.injEq, reduceCtorEq, true_and, false_iff]
        rintro ⟨⟨rfl, hnot, -⟩, -⟩
        simp [hnewer] at hnot
      | false =>
        cases hupdates : read.has_updates with
        | true =>
          simp only [↓reduceIte, hnewer, Bool.false_eq_true, hupdates, Except.ok.injEq,
            PrepResult.HasUpdates.injEq, true_and]
          constructor
          · rintro ⟨rfl, rfl⟩
            exact ⟨⟨rfl, hnewer, hupdates⟩, rfl⟩
          · rintro ⟨⟨rfl, -, -⟩, rfl⟩
            exact ⟨rfl, rfl⟩
        | false =>
          have hnot : ¬ (read = next_values ∧ are_current_values_newer data next_values = false ∧
              next_values.has_updates = true) := by
            rintro ⟨rfl, -, h⟩
            simp [hupdates] at h
          rcases update.data.deserialize_no_updates with e' | _ | _ <;>
            simp [hnewer, hupdates, hnot]

/-- Values that prep accepts are not older than the ones it saw. -/
theorem Accepted.time_le {data : SpecStoreData} {lock : Bool} {update : SpecsUpdate}
    {next_values : SpecsResponseFull} (h : Accepted data lock update next_values) :
    data.values.time ≤ next_values.time := by
  have hnewer := h.2.2.1
  simp only [are_current_values_newer, Bool.or_eq_false_iff, Bool.and_eq_false_iff,
    decide_eq_false_iff_not] at hnewer
  omega

/-- A map that a setter writes to, when there is something to write and the lock is
granted. -/
def written {υ : Type} (lock : Bool) (m : HashMap String υ) (new : Option (HashMap String υ)) :
    HashMap String υ :=
  match new with
  | some new => if lock then insert_all m new else m
  | none => m

/-- The map already has every entry that a setter would write. -/
def HasAll {υ : Type} (lock : Bool) (m : HashMap String υ) (new : Option (HashMap String υ)) :
    Prop :=
  lock = true → ∀ entries, new = some entries →
    ∀ key value, entries.get key = some value → m.get key = some value

theorem written_same_iff {υ : Type} (lock : Bool) (m : HashMap String υ)
    (new : Option (HashMap String υ)) :
    (∀ key, (written lock m new).get key = m.get key) ↔ HasAll lock m new := by
  unfold written HasAll
  cases new with
  | none => simp
  | some new =>
    cases lock with
    | false => simp
    | true => simpa using insert_all_same_iff m new

theorem try_update_global_configs_eq (configs : GlobalConfigs) (locks : Locks)
    (dcs : SpecsResponseFull) :
    try_update_global_configs configs locks dcs =
      { diagnostics_sampling_rates := written locks.diagnostics
          configs.diagnostics_sampling_rates (dcs.diagnostics.map clamp_rates)
        sdk_configs := written locks.sdk_configs configs.sdk_configs dcs.sdk_configs
        sdk_flags := written locks.sdk_flags configs.sdk_flags dcs.sdk_flags } := by
  unfold try_update_global_configs GlobalConfigs.set_sdk_flags GlobalConfigs.set_sdk_configs
    GlobalConfigs.set_diagnostics_sampling_rates written
  rcases locks with ⟨_, diagnostics, sdk_configs, sdk_flags, _, _⟩
  cases dcs.diagnostics <;> cases dcs.sdk_configs <;> cases dcs.sdk_flags <;>
    cases diagnostics <;> cases sdk_configs <;> cases sdk_flags <;> rfl

/-- The configs already have every setting that the update would write. -/
def HasSettings (configs : GlobalConfigs) (locks : Locks) (dcs : SpecsResponseFull) : Prop :=
  HasAll locks.diagnostics configs.diagnostics_sampling_rates (dcs.diagnostics.map clamp_rates) ∧
    HasAll locks.sdk_configs configs.sdk_configs dcs.sdk_configs ∧
    HasAll locks.sdk_flags configs.sdk_flags dcs.sdk_flags

theorem try_update_global_configs_same_iff (configs : GlobalConfigs) (locks : Locks)
    (dcs : SpecsResponseFull) :
    (try_update_global_configs configs locks dcs).Same configs ↔
      HasSettings configs locks dcs := by
  rw [try_update_global_configs_eq]
  exact and_congr (written_same_iff _ _ _)
    (and_congr (written_same_iff _ _ _) (written_same_iff _ _ _))

/-! ## Failed updates -/

def Unchanged (store after : SpecStore) : Prop :=
  after.data = store.data ∧ after.global_configs.Same store.global_configs

theorem Unchanged.refl (store : SpecStore) : Unchanged store store :=
  ⟨rfl, fun _ => rfl, fun _ => rfl, fun _ => rfl⟩

/-- A call that ends in an error, or well but without updates, leaves the store as it was. -/
def Atomic (store : SpecStore) (update : SpecsUpdate) (locks : Locks) (now : Nat) : Prop :=
  (∀ e, (set_values store update locks now).1 = .error e →
      Unchanged store (set_values store update locks now).2) ∧
    ((set_values store update locks now).1 = .ok () →
      (¬ ∃ next_values, Accepted store.data locks.prep update next_values) →
      Unchanged store (set_values store update locks now).2)

theorem set_values_without_updates {store : SpecStore} {update : SpecsUpdate} {locks : Locks}
    (now : Nat) (h : ¬ ∃ next_values, Accepted store.data locks.prep update next_values) :
    (set_values store update locks now).2 = store := by
  unfold set_values
  rcases hprep : specs_update_prep store.data locks.prep update with e | next | _ | _
  · rfl
  · exact absurd ⟨_, (prep_eq_has_updates_iff.mp hprep).1⟩ h
  · rfl
  · rfl

theorem set_values_with_updates {store : SpecStore} {update : SpecsUpdate} {locks : Locks}
    {next_values : SpecsResponseFull} (now : Nat)
    (h : Accepted store.data locks.prep update next_values) :
    set_values store update locks now =
      match specs_update_apply store locks next_values update now with
      | (.error e, store) => (.error e, store)
      | (.ok _, store) => (specs_update_notify locks.notify, store) := by
  unfold set_values
  rw [prep_eq_has_updates_iff.mpr ⟨h, rfl⟩]

/-- A failed update is atomic just when its failure comes before the first write, or there
is nothing to write: a failed write lock comes after the global configs were written, and a
failed last lock comes after the values were swapped too. -/
theorem failed_updates_are_atomic_iff (store : SpecStore) (update : SpecsUpdate) (locks : Locks)
    (now : Nat) :
    Atomic store update locks now ↔
      ∀ next_values, Accepted store.data locks.prep update next_values →
        (locks.apply = false → HasSettings store.global_configs locks next_values) ∧
          (locks.apply = true → locks.notify = false →
            swapped update next_values now = store.data ∧
              HasSettings store.global_configs locks next_values) := by
  by_cases haccepted : ∃ next_values, Accepted store.data locks.prep update next_values
  · obtain ⟨next_values, h⟩ := haccepted
    have honly : ∀ other, Accepted store.data locks.prep update other → other = next_values := by
      intro other hother
      exact Except.ok.inj (hother.2.1.symm.trans h.2.1)
    have hsettings := try_update_global_configs_same_iff store.global_configs locks next_values
    have hcall := set_values_with_updates now h
    unfold specs_update_apply specs_update_notify at hcall
    constructor
    · rintro ⟨herror, -⟩ other hother
      obtain rfl := honly other hother
      refine ⟨fun happly => ?_, fun happly hnotify => ?_⟩
      · simp only [happly, Bool.false_eq_true, ↓reduceIte] at hcall
        rw [hcall] at herror
        exact hsettings.mp (herror _ rfl).2
      · simp only [happly, hnotify, Bool.false_eq_true, ↓reduceIte] at hcall
        rw [hcall] at herror
        exact ⟨(herror _ rfl).1, hsettings.mp (herror _ rfl).2⟩
    · intro hcond
      obtain ⟨hwrite, hread⟩ := hcond next_values h
      refine ⟨fun e herror => ?_, fun _ hnone => absurd ⟨_, h⟩ hnone⟩
      cases happly : locks.apply with
      | false =>
        simp only [happly, Bool.false_eq_true, ↓reduceIte] at hcall
        rw [hcall]
        exact ⟨rfl, hsettings.mpr (hwrite happly)⟩
      | true =>
        cases hnotify : locks.notify with
        | false =>
          simp only [happly, hnotify, Bool.false_eq_true, ↓reduceIte] at hcall
          rw [hcall]
          exact ⟨(hread happly hnotify).1, hsettings.mpr (hread happly hnotify).2⟩
        | true =>
          simp only [happly, hnotify, ↓reduceIte] at hcall
          rw [hcall] at herror
          nomatch herror
  · have hsame := set_values_without_updates now haccepted
    constructor
    · intro _ next_values h
      exact absurd ⟨_, h⟩ haccepted
    · intro _
      unfold Atomic
      rw [hsame]
      exact ⟨fun _ _ => .refl store, fun _ _ => .refl store⟩

/-- A JSON response with these values. -/
def SpecsUpdate.json (values : SpecsResponseFull) : SpecsUpdate where
  data := {
    deserialize_protobuf := fun _ => .error (.ProtobufParseError "SpecsEnvelope" "")
    deserialize_json := .ok values
    deserialize_no_updates := .ok values.has_updates }
  source := .Network

theorem flag_is_set_by_a_failed_update :
    ¬ Atomic {} (.json { has_updates := true, time := 1, sdk_flags := some [("flag", true)] })
      { apply := false } 1700000000000 := by
  intro hatomic
  have hsame := (hatomic.1 _ rfl).2.2.2 "flag"
  exact absurd hsame (by decide)

end statsig_rust.spec_store
