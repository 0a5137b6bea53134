-- An event as JSON, there and back (`event_logging/statsig_event_internal.rs`,
-- `event_logging/statsig_event.rs`). The fields of the inner event are flattened into the object.
import StatsigCore.User.LoggableUser

namespace statsig_rust.event_logging.event_queue

open evaluation

/-! ## What is written -/

/-- A field of the derived `Serialize` that is missing is written as null. -/
def json_or_null : Option JsonValue → JsonValue
  | some value => value
  | none => .null

def json_of_metadata (metadata : HashMap String JsonValue) : JsonValue := .object metadata.entries

def exposure_json (exposure : InternedExposure) : JsonValue :=
  .object [("gate", .string exposure.gate.text), ("gateValue", .string exposure.gate_value.text),
    ("ruleID", .string exposure.rule_id.text)]

def exposures_json (exposures : List InternedExposure) : JsonValue :=
  .array (exposures.map exposure_json)

def StatsigEvent.fields (event : StatsigEvent) : List (String × JsonValue) :=
  [("eventName", .string event.event_name),
    ("value", json_or_null event.value),
    ("metadata", json_or_null (event.metadata.map json_of_metadata)),
    ("statsigMetadata", json_or_null (event.statsig_metadata.map json_of_metadata))]

def StatsigEventInternal.serialize (event : StatsigEventInternal) : JsonValue :=
  .object (event.event_data.fields ++
    [("user", event.user.serialize),
      ("time", .number event.time),
      ("secondaryExposures", json_or_null (event.secondary_exposures.map exposures_json))])

/-! ## What is read -/

def optional_metadata (fields : List (String × JsonValue)) (field : String) :
    Option (Option (HashMap String JsonValue)) :=
  match HashMap.get fields field with
  | none | some .null => some none
  | some (.object entries) => some (some entries)
  | some _ => none

/-- `Option<Value>`, in which a null is a missing value. -/
def optional_json (fields : List (String × JsonValue)) (field : String) : Option JsonValue :=
  match HashMap.get fields field with
  | none | some .null => none
  | some value => some value

def read_string : JsonValue → Option String
  | .string s => some s
  | _ => none

/-- A `u64`. -/
def read_u64 : JsonValue → Option Nat
  | .number n => if n.den = 1 ∧ 0 ≤ n.num ∧ n.num.toNat < 2 ^ 64 then some n.num.toNat else none
  | _ => none

/-- The strings of an exposure that is read are interned in the store. -/
def read_exposure : JsonValue → Option InternedExposure
  | .object fields => do
    let gate ← (HashMap.get fields "gate").bind read_string
    let gate_value ← (HashMap.get fields "gateValue").bind read_string
    let rule_id ← (HashMap.get fields "ruleID").bind read_string
    some ⟨.stored gate, .stored gate_value, .stored rule_id⟩
  | _ => none

def optional_exposures (fields : List (String × JsonValue)) (field : String) :
    Option (Option (List InternedExposure)) :=
  match HashMap.get fields field with
  | none | some .null => some none
  | some (.array items) => (items.mapM read_exposure).map some
  | some _ => none

def StatsigEvent.deserialize (fields : List (String × JsonValue)) : Option StatsigEvent := do
  let event_name ← (HashMap.get fields "eventName").bind read_string
  let metadata ← optional_metadata fields "metadata"
  let statsig_metadata ← optional_metadata fields "statsigMetadata"
  some { event_name, value := optional_json fields "value", metadata, statsig_metadata }

variable (std : Std)

def StatsigEventInternal.deserialize : JsonValue → Option StatsigEventInternal
  | .object fields => do
    let event_data ← StatsigEvent.deserialize fields
    let user ← (HashMap.get fields "user").bind (StatsigUserLoggable.deserialize std)
    let time ← (HashMap.get fields "time").bind read_u64
    let secondary_exposures ← optional_exposures fields "secondaryExposures"
    some { event_data, user, time, secondary_exposures }
  | _ => none

/-! ## There and back -/

def reread_exposure (exposure : InternedExposure) : InternedExposure :=
  ⟨.stored exposure.gate.text, .stored exposure.gate_value.text, .stored exposure.rule_id.text⟩

/-- What is left of an event that was written and read. -/
def StatsigEventInternal.reread (event : StatsigEventInternal) : StatsigEventInternal where
  event_data := {
    event_name := event.event_data.event_name
    value := event.event_data.value.filter fun value => !value.is_null
    metadata := event.event_data.metadata.map (·.entries)
    statsig_metadata := event.event_data.statsig_metadata.map (·.entries) }
  user := event.user.reread std
  time := event.time
  secondary_exposures := event.secondary_exposures.map (·.map reread_exposure)

theorem optional_json_or_null {fields : List (String × JsonValue)} {field : String}
    {value : Option JsonValue} (h : HashMap.get fields field = some (json_or_null value)) :
    optional_json fields field = value.filter fun value => !value.is_null := by
  unfold optional_json
  rw [h]
  cases value with
  | none => rfl
  | some value => cases value <;> rfl

theorem optional_metadata_or_null {fields : List (String × JsonValue)} {field : String}
    {metadata : Option (HashMap String JsonValue)}
    (h : HashMap.get fields field = some (json_or_null (metadata.map json_of_metadata))) :
    optional_metadata fields field = some (metadata.map (·.entries)) := by
  unfold optional_metadata
  rw [h]
  cases metadata <;> rfl

theorem read_exposure_json (exposure : InternedExposure) :
    read_exposure (exposure_json exposure) = some (reread_exposure exposure) := by
  simp [read_exposure, exposure_json, HashMap.get_cons, read_string, reread_exposure]

theorem mapM_read_exposure (exposures : List InternedExposure) :
    (exposures.map exposure_json).mapM read_exposure =
      some (exposures.map reread_exposure) := by
  induction exposures with
  | nil => rfl
  | cons exposure exposures ih =>
    rw [List.map_cons, List.mapM_cons, read_exposure_json, ih]
    rfl

theorem optional_exposures_or_null {fields : List (String × JsonValue)} {field : String}
    {exposures : Option (List InternedExposure)}
    (h : HashMap.get fields field = some (json_or_null (exposures.map exposures_json))) :
    optional_exposures fields field =
      some (exposures.map (·.map reread_exposure)) := by
  unfold optional_exposures
  rw [h]
  cases exposures with
  | none => rfl
  | some exposures =>
    simp only [Option.map_some, json_or_null, exposures_json, mapM_read_exposure]

theorem read_u64_number {n : Nat} (h : n < 2 ^ 64) : read_u64 (.number n) = some n := by
  have hcond : (n : F64).den = 1 ∧ 0 ≤ (n : F64).num ∧ (n : F64).num.toNat < 2 ^ 64 := by
    rw [Rat.num_natCast, Rat.den_natCast, Int.toNat_natCast]
    exact ⟨rfl, Int.natCast_nonneg n, h⟩
  simp only [read_u64]
  rw [if_pos hcond, Rat.num_natCast, Int.toNat_natCast]

theorem deserialize_event_data (event : StatsigEventInternal)
    (rest : List (String × JsonValue)) :
    StatsigEvent.deserialize (event.event_data.fields ++ rest) =
      some (event.reread std).event_data := by
  have hname : HashMap.get (event.event_data.fields ++ rest) "eventName" =
      some (.string event.event_data.event_name) := by
    simp [StatsigEvent.fields, HashMap.get_cons]
  have hvalue : optional_json (event.event_data.fields ++ rest) "value" =
      event.event_data.value.filter fun value => !value.is_null :=
    optional_json_or_null (by simp [StatsigEvent.fields, HashMap.get_cons])
  have hmetadata : optional_metadata (event.event_data.fields ++ rest) "metadata" =
      some (event.event_data.metadata.map (·.entries)) :=
    optional_metadata_or_null (by simp [StatsigEvent.fields, HashMap.get_cons])
  have hstatsig : optional_metadata (event.event_data.fields ++ rest) "statsigMetadata" =
      some (event.event_data.statsig_metadata.map (·.entries)) :=
    optional_metadata_or_null (by simp [StatsigEvent.fields, HashMap.get_cons])
  unfold StatsigEvent.deserialize
  rw [hname, hvalue, hmetadata, hstatsig]
  rfl

/-- An event reads back, with what its user reads back as. -/
theorem deserialize_event {event : StatsigEventInternal} (htime : event.time < 2 ^ 64) :
    StatsigEventInternal.deserialize std event.serialize = some (event.reread std) := by
  unfold StatsigEventInternal.serialize StatsigEventInternal.deserialize
  have huser : HashMap.get (event.event_data.fields ++ [("user", event.user.serialize),
      ("time", .number event.time), ("secondaryExposures",
        json_or_null (event.secondary_exposures.map exposures_json))]) "user" =
      some event.user.serialize := by
    simp [StatsigEvent.fields, HashMap.get_cons]
  have htime' : HashMap.get (event.event_data.fields ++ [("user", event.user.serialize),
      ("time", .number event.time), ("secondaryExposures",
        json_or_null (event.secondary_exposures.map exposures_json))]) "time" =
      some (.number event.time) := by
    simp [StatsigEvent.fields, HashMap.get_cons]
  have hexposures : optional_exposures (event.event_data.fields ++
      [("user", event.user.serialize), ("time", .number event.time), ("secondaryExposures",
        json_or_null (event.secondary_exposures.map exposures_json))]) "secondaryExposures" =
      some (event.secondary_exposures.map (·.map reread_exposure)) :=
    optional_exposures_or_null (by simp [StatsigEvent.fields, HashMap.get_cons])
  simp only [deserialize_event_data std, huser, htime', hexposures, Option.bind_eq_bind,
    Option.bind_some, deserialize_serialize, read_u64_number htime]
  simp only [StatsigEventInternal.reread]

/-! ### Once more -/

theorem reread_metadata_twice (metadata : Option (HashMap String JsonValue)) :
    (metadata.map (·.entries)).map (·.entries) = metadata.map (·.entries) := by
  cases metadata with
  | none => rfl
  | some metadata => exact congrArg some (HashMap.entries_of_distinct metadata.nodup_entries)

/-- What was read once is read the same from then on. -/
theorem reread_event_twice (event : StatsigEventInternal) :
    (event.reread std).reread std = event.reread std := by
  unfold StatsigEventInternal.reread
  have hexposures : (event.secondary_exposures.map (·.map reread_exposure)).map
      (·.map reread_exposure) = event.secondary_exposures.map (·.map reread_exposure) := by
    cases event.secondary_exposures with
    | none => rfl
    | some exposures =>
      rw [Option.map_some, Option.map_some, List.map_map]
      rfl
  simp only [reread_metadata_twice, reread_reread, hexposures, Option.filter_filter,
    Bool.and_self]

end statsig_rust.event_logging.event_queue
