-- What is written about a user in an event (`user/statsig_user_loggable.rs`), and what is read back
-- from it: the adapter that keeps events in a file, and the bindings that send a layer there and
-- back as JSON, read what was written. The private attributes are not written.
import Mathlib.Data.List.Nodup
import StatsigCore.EventLogging.QueuedEvents

namespace statsig_rust

/-! ## The entries of a map -/

namespace HashMap

variable {κ υ : Type} [DecidableEq κ] {m : HashMap κ υ}

/-- The entries that an iteration over the map gives: each key once, in some order. -/
def entries (m : HashMap κ υ) : HashMap κ υ :=
  (m.map Prod.fst).dedup.filterMap fun k => (m.get k).map fun v => (k, v)

theorem map_fst_entries (m : HashMap κ υ) : m.entries.map Prod.fst = (m.map Prod.fst).dedup := by
  have hkeys (keys : List κ) (h : ∀ k ∈ keys, k ∈ m.map Prod.fst) :
      (keys.filterMap fun k => (m.get k).map fun v => (k, v)).map Prod.fst = keys := by
    induction keys with
    | nil => rfl
    | cons k keys ih =>
      obtain ⟨v, hv⟩ := HashMap.get_of_mem_keys (h k List.mem_cons_self)
      rw [List.filterMap_cons_some (b := (k, v)) (by rw [hv]; rfl), List.map_cons,
        ih fun k' hk' => h k' (List.mem_cons_of_mem k hk')]
  exact hkeys _ fun k hk => List.mem_dedup.mp hk

theorem nodup_entries (m : HashMap κ υ) : (m.entries.map Prod.fst).Nodup := by
  rw [map_fst_entries]
  exact List.nodup_dedup _

theorem mem_entries {k : κ} {v : υ} : (k, v) ∈ m.entries ↔ m.get k = some v := by
  constructor
  · intro h
    obtain ⟨k', -, hk'⟩ := List.mem_filterMap.mp h
    obtain ⟨v', hv', heq⟩ := Option.map_eq_some_iff.mp hk'
    rw [Prod.mk.injEq] at heq
    rw [← heq.1, ← heq.2, hv']
  · intro h
    refine List.mem_filterMap.mpr ⟨k, List.mem_dedup.mpr (HashMap.mem_keys_of_get h), ?_⟩
    rw [h]
    rfl

theorem entries_of_distinct (h : (m.map Prod.fst).Nodup) : m.entries = m := by
  unfold entries
  rw [List.dedup_eq_self.mpr h, List.filterMap_map]
  have hself : ∀ entry ∈ m, ((fun k => (m.get k).map fun v => (k, v)) ∘ Prod.fst) entry =
      some entry := by
    intro entry hentry
    simp only [Function.comp_apply, HashMap.get_of_mem h hentry, Option.map_some]
  rw [List.filterMap_congr hself, List.filterMap_some]

omit [DecidableEq κ] in
/-- A function of the values leaves the keys as they are. -/
theorem map_fst_map_values {ω : Type} (f : κ × υ → ω) (l : HashMap κ υ) :
    (l.map fun entry => (entry.1, f entry)).map Prod.fst = l.map Prod.fst := by
  rw [List.map_map]
  rfl

end HashMap

/-! ## What is written -/

def JsonValue.is_null : JsonValue → Bool
  | null => true
  | _ => false

def serialize_data_field (field : String) : Option JsonValue → List (String × JsonValue)
  | some value => [(field, value)]
  | none => []

def json_of_entries (entries : List (String × DynamicValue)) : JsonValue :=
  .object (entries.map fun entry => (entry.1, entry.2.json_value))

/-- A key that the user and the global fields both have gets the value of the user. -/
def merged_custom_fields (custom global_custom : Option UserDataMap) :
    List (String × DynamicValue) :=
  ((global_custom.getD []).entries.map fun entry =>
    (entry.1, ((custom.getD []).get entry.1).getD entry.2)) ++
  (custom.getD []).entries.filter fun entry => ((global_custom.getD []).get entry.1).isNone

def serialize_custom_field (custom global_custom : Option UserDataMap) :
    List (String × JsonValue) :=
  if global_custom.isNone && custom.isNone then []
  else [("custom", json_of_entries (merged_custom_fields custom global_custom))]

namespace StatsigUserLoggable

def fields (user : StatsigUserLoggable) : List (String × JsonValue) :=
  serialize_data_field "userID" (user.data.user_id.map (·.json_value)) ++
  serialize_data_field "customIDs" (user.data.custom_ids.map (json_of_entries ·.entries)) ++
  serialize_data_field "email" (user.data.email.map (·.json_value)) ++
  serialize_data_field "ip" (user.data.ip.map (·.json_value)) ++
  serialize_data_field "userAgent" (user.data.user_agent.map (·.json_value)) ++
  serialize_data_field "country" (user.data.country.map (·.json_value)) ++
  serialize_data_field "locale" (user.data.locale.map (·.json_value)) ++
  serialize_data_field "appVersion" (user.data.app_version.map (·.json_value)) ++
  serialize_custom_field user.data.custom user.global_custom ++
  serialize_data_field "statsigEnvironment" (user.environment.map (json_of_entries ·.entries))

def serialize (user : StatsigUserLoggable) : JsonValue := .object user.fields

end StatsigUserLoggable

/-! ## What is read -/

/-- What the standard library, `chrono` and `serde_json` make of texts and numbers. -/
structure Std where
  to_lowercase : String → String
  parse_i64 : String → Option Int
  parse_f64 : String → Option F64
  parse_from_rfc3339 : String → Option Int
  parse_naive_datetime : String → Option Int
  /-- The nearest `f64` of a number. -/
  as_f64 : F64 → F64
  f64_to_string : F64 → String
  json_to_string : JsonValue → String

section Deserialize

variable (std : Std)

namespace DynamicValue

def try_parse_timestamp (s : String) : Option Int :=
  match std.parse_i64 s with
  | some ts => some ts
  | none =>
    if s.utf8ByteSize < 8 ∨ s.utf8ByteSize > 20 ∨
        ('-' ∉ s.toList ∧ 'T' ∉ s.toList ∧ ':' ∉ s.toList) then none
    else (std.parse_from_rfc3339 s).or (std.parse_naive_datetime s)

/-- `f as i64` of a whole `f`, which stops at both ends of the `i64`. -/
def saturating_i64 (n : Int) : Int := max (-2 ^ 63) (min (2 ^ 63 - 1) n)

/-- The `i64` that a number is. A double counts where the conversion to an `i64` and back gives it
again, so that the double 2⁶³ has the greatest `i64`. -/
def int_of (n : F64) : Option Int :=
  if n.den = 1 ∧ -2 ^ 63 ≤ n.num ∧ n.num < 2 ^ 63 then some n.num
  else
    let f := std.as_f64 n
    let i := saturating_i64 f.num
    if f.den = 1 ∧ std.as_f64 i = f then some i else none

mutual

/-- `From<JsonValue>`. -/
def from_json : JsonValue → DynamicValue
  | .null => { json_value := .null }
  | .bool b =>
    { bool_value := some b
      string_value := some ⟨toString b, std.to_lowercase (toString b)⟩
      json_value := .bool b }
  | .number n =>
    let text := std.f64_to_string (std.as_f64 n)
    { float_value := some (std.as_f64 n)
      int_value := int_of std n
      string_value := some ⟨text, std.to_lowercase text⟩
      json_value := .number n }
  | .string s =>
    { string_value := some ⟨s, std.to_lowercase s⟩
      timestamp_value := try_parse_timestamp std s
      int_value := std.parse_i64 s
      float_value := std.parse_f64 s
      json_value := .string s }
  | .array items =>
    let text := std.json_to_string (.array items)
    { array_value := some (from_items items)
      string_value := some ⟨text, std.to_lowercase text⟩
      json_value := .array items }
  | .object entries =>
    { object_value := some (from_entries entries), json_value := .object entries }

def from_items : List JsonValue → List DynamicValue
  | [] => []
  | item :: items => from_json item :: from_items items

def from_entries : List (String × JsonValue) → List (String × DynamicValue)
  | [] => []
  | (key, value) :: entries => (key, from_json value) :: from_entries entries

end

@[simp] theorem from_json_json_value (value : JsonValue) :
    (from_json std value).json_value = value := by
  cases value <;> simp [from_json]

end DynamicValue

/-- An optional field of the derived `Deserialize`. A field that is null counts as missing. -/
def optional_value (fields : List (String × JsonValue)) (field : String) : Option DynamicValue :=
  match HashMap.get fields field with
  | none | some .null => none
  | some value => some (.from_json std value)

def optional_map (fields : List (String × JsonValue)) (field : String) :
    Option (Option UserDataMap) :=
  match HashMap.get fields field with
  | none | some .null => some none
  | some (.object entries) =>
    some (some (entries.map fun entry => (entry.1, .from_json std entry.2)))
  | some _ => none

def UserData.deserialize (fields : List (String × JsonValue)) : Option UserData := do
  let custom_ids ← optional_map std fields "customIDs"
  let statsig_environment ← optional_map std fields "statsigEnvironment"
  let private_attributes ← optional_map std fields "privateAttributes"
  let custom ← optional_map std fields "custom"
  some {
    user_id := optional_value std fields "userID"
    custom_ids
    email := optional_value std fields "email"
    ip := optional_value std fields "ip"
    user_agent := optional_value std fields "userAgent"
    country := optional_value std fields "country"
    locale := optional_value std fields "locale"
    app_version := optional_value std fields "appVersion"
    statsig_environment
    private_attributes
    custom }

/-- What `Value::take` leaves at the field. -/
def take_environment (fields : List (String × JsonValue)) : List (String × JsonValue) :=
  fields.map fun field => if field.1 = "statsigEnvironment" then (field.1, .null) else field

/-- The environment is taken out of the object before the rest of it is read. To index a value
that is neither an object nor null panics, and `none` stands for that too. -/
def StatsigUserLoggable.deserialize : JsonValue → Option StatsigUserLoggable
  | .object fields => do
    let data ← UserData.deserialize std (take_environment fields)
    let environment ← optional_map std fields "statsigEnvironment"
    some { data, environment, global_custom := none }
  | .null => some { data := {} }
  | _ => none

/-! ## What comes back -/

/-- The custom fields that are written, if the field is there. -/
def written_custom (custom global_custom : Option UserDataMap) :
    Option (List (String × DynamicValue)) :=
  if global_custom.isNone && custom.isNone then none
  else some (merged_custom_fields custom global_custom)

def DynamicValue.reread (value : DynamicValue) : DynamicValue := .from_json std value.json_value

def reread_value : Option DynamicValue → Option DynamicValue
  | some value => if value.json_value.is_null then none else some (value.reread std)
  | none => none

def reread_entries (entries : List (String × DynamicValue)) : UserDataMap :=
  entries.map fun entry => (entry.1, entry.2.reread std)

/-- What is left of a user that was written and read. The fields that every user has are the
user's own from now on. -/
def StatsigUserLoggable.reread (user : StatsigUserLoggable) : StatsigUserLoggable where
  data := {
    user_id := reread_value std user.data.user_id
    custom_ids := user.data.custom_ids.map (reread_entries std ·.entries)
    email := reread_value std user.data.email
    ip := reread_value std user.data.ip
    user_agent := reread_value std user.data.user_agent
    country := reread_value std user.data.country
    locale := reread_value std user.data.locale
    app_version := reread_value std user.data.app_version
    statsig_environment := none
    private_attributes := none
    custom := (written_custom user.data.custom user.global_custom).map (reread_entries std) }
  environment := user.environment.map (reread_entries std ·.entries)
  global_custom := none

/-! ### One field -/

theorem get_serialize_data_field (name field : String) (value : Option JsonValue)
    (rest : List (String × JsonValue)) :
    HashMap.get (serialize_data_field field value ++ rest) name =
      if name = field then value.or (HashMap.get rest name) else HashMap.get rest name := by
  cases value with
  | none => simp [serialize_data_field]
  | some value =>
    rw [serialize_data_field, List.singleton_append, HashMap.get_cons]
    by_cases h : name = field
    · simp [h]
    · simp [h]

theorem serialize_custom_field_eq (custom global_custom : Option UserDataMap) :
    serialize_custom_field custom global_custom =
      serialize_data_field "custom"
        ((written_custom custom global_custom).map json_of_entries) := by
  unfold serialize_custom_field written_custom
  by_cases h : (global_custom.isNone && custom.isNone) = true
  · rw [if_pos h, if_pos h]
    rfl
  · rw [if_neg h, if_neg h]
    rfl

theorem get_take_environment (fields : List (String × JsonValue)) (name : String) :
    HashMap.get (take_environment fields) name =
      if name = "statsigEnvironment" then (HashMap.get fields name).map fun _ => .null
      else HashMap.get fields name := by
  unfold take_environment
  induction fields with
  | nil => simp
  | cons field fields ih =>
    rw [List.map_cons, HashMap.get_cons, HashMap.get_cons, ih]
    by_cases hkey : field.1 = "statsigEnvironment"
    · simp only [hkey, ↓reduceIte]
      by_cases hname : name = "statsigEnvironment"
      · simp [hname]
      · simp [hname]
    · simp only [hkey, ↓reduceIte]
      by_cases hname : name = field.1
      · simp [hname, hkey]
      · simp [hname]

/-- The ten fields with what is written at each. -/
def StatsigUserLoggable.named_fields (user : StatsigUserLoggable) :
    List (String × Option JsonValue) :=
  [("userID", user.data.user_id.map (·.json_value)),
    ("customIDs", user.data.custom_ids.map (json_of_entries ·.entries)),
    ("email", user.data.email.map (·.json_value)),
    ("ip", user.data.ip.map (·.json_value)),
    ("userAgent", user.data.user_agent.map (·.json_value)),
    ("country", user.data.country.map (·.json_value)),
    ("locale", user.data.locale.map (·.json_value)),
    ("appVersion", user.data.app_version.map (·.json_value)),
    ("custom", (written_custom user.data.custom user.global_custom).map json_of_entries),
    ("statsigEnvironment", user.environment.map (json_of_entries ·.entries))]

theorem fields_eq (user : StatsigUserLoggable) :
    user.fields = user.named_fields.flatMap fun field => serialize_data_field field.1 field.2 := by
  simp [StatsigUserLoggable.fields, StatsigUserLoggable.named_fields, serialize_custom_field_eq]

theorem get_flatMap_missing {named : List (String × Option JsonValue)} {name : String}
    (h : name ∉ named.map Prod.fst) :
    HashMap.get (named.flatMap fun field => serialize_data_field field.1 field.2) name = none := by
  induction named with
  | nil => rfl
  | cons field named ih =>
    rw [List.map_cons, List.mem_cons, not_or] at h
    rw [List.flatMap_cons, get_serialize_data_field, if_neg h.1, ih h.2]

theorem get_flatMap {named : List (String × Option JsonValue)}
    (hnodup : (named.map Prod.fst).Nodup) {name : String} {value : Option JsonValue}
    (h : (name, value) ∈ named) :
    HashMap.get (named.flatMap fun field => serialize_data_field field.1 field.2) name = value := by
  induction named with
  | nil => cases h
  | cons field named ih =>
    rw [List.map_cons, List.nodup_cons] at hnodup
    rw [List.flatMap_cons, get_serialize_data_field]
    rcases List.mem_cons.mp h with rfl | h
    · rw [if_pos rfl, get_flatMap_missing hnodup.1, Option.or_none]
    · have hne : name ≠ field.1 := fun heq => hnodup.1 (heq ▸ List.mem_map_of_mem h)
      rw [if_neg hne, ih hnodup.2 h]

theorem nodup_named_fields (user : StatsigUserLoggable) :
    (user.named_fields.map Prod.fst).Nodup := by
  simp [StatsigUserLoggable.named_fields]

theorem get_fields {user : StatsigUserLoggable} {name : String} {value : Option JsonValue}
    (h : (name, value) ∈ user.named_fields) : HashMap.get user.fields name = value := by
  rw [fields_eq]
  exact get_flatMap (nodup_named_fields user) h

theorem get_rest {user : StatsigUserLoggable} {name : String} {value : Option JsonValue}
    (h : (name, value) ∈ user.named_fields) (hname : name ≠ "statsigEnvironment") :
    HashMap.get (take_environment user.fields) name = value := by
  rw [get_take_environment, if_neg hname, get_fields h]

/-! ### There and back -/

variable {std}

theorem optional_value_of_get {fields : List (String × JsonValue)} {name : String}
    {value : Option DynamicValue} (h : HashMap.get fields name = value.map (·.json_value)) :
    optional_value std fields name = reread_value std value := by
  unfold optional_value
  rw [h]
  cases value with
  | none => rfl
  | some value =>
    unfold reread_value DynamicValue.reread
    cases hjson : value.json_value <;> simp [hjson, JsonValue.is_null]

theorem optional_map_of_entries {fields : List (String × JsonValue)} {name : String}
    {entries : Option (List (String × DynamicValue))}
    (h : HashMap.get fields name = entries.map json_of_entries) :
    optional_map std fields name = some (entries.map (reread_entries std)) := by
  unfold optional_map
  rw [h]
  cases entries with
  | none => rfl
  | some entries =>
    simp only [Option.map_some, json_of_entries, reread_entries, DynamicValue.reread,
      List.map_map, Function.comp_def]

theorem optional_map_of_get {fields : List (String × JsonValue)} {name : String}
    {m : Option UserDataMap} (h : HashMap.get fields name = m.map (json_of_entries ·.entries)) :
    optional_map std fields name = some (m.map (reread_entries std ·.entries)) := by
  have hentries : HashMap.get fields name = (m.map (·.entries)).map json_of_entries := by
    rw [h, Option.map_map]
    rfl
  rw [optional_map_of_entries hentries, Option.map_map]
  rfl

theorem optional_map_missing {fields : List (String × JsonValue)} {name : String}
    (h : HashMap.get fields name = none ∨ HashMap.get fields name = some .null) :
    optional_map std fields name = some none := by
  unfold optional_map
  rcases h with h | h <;> rw [h]

variable (std)

theorem optional_value_rest (user : StatsigUserLoggable) (name : String)
    (value : Option DynamicValue) (hname : name ≠ "statsigEnvironment")
    (h : (name, value.map (·.json_value)) ∈ user.named_fields) :
    optional_value std (take_environment user.fields) name = reread_value std value :=
  optional_value_of_get (get_rest h hname)

/-- The environment and the private attributes are not among the rest of the fields. -/
theorem deserialize_data (user : StatsigUserLoggable) :
    UserData.deserialize std (take_environment user.fields) = some (user.reread std).data := by
  have hids : optional_map std (take_environment user.fields) "customIDs" =
      some (user.data.custom_ids.map (reread_entries std ·.entries)) :=
    optional_map_of_get (get_rest (by simp [StatsigUserLoggable.named_fields]) (by decide))
  have hcustom : optional_map std (take_environment user.fields) "custom" =
      some ((written_custom user.data.custom user.global_custom).map (reread_entries std)) :=
    optional_map_of_entries (get_rest (by simp [StatsigUserLoggable.named_fields]) (by decide))
  have hprivate : optional_map std (take_environment user.fields) "privateAttributes" =
      some none := by
    apply optional_map_missing
    left
    rw [get_take_environment, if_neg (by decide), fields_eq]
    exact get_flatMap_missing (by simp [StatsigUserLoggable.named_fields])
  have htaken : optional_map std (take_environment user.fields) "statsigEnvironment" =
      some none := by
    apply optional_map_missing
    rw [get_take_environment, if_pos rfl]
    cases HashMap.get user.fields "statsigEnvironment" with
    | none => exact .inl rfl
    | some _ => exact .inr rfl
  have hvalue := optional_value_rest std user
  unfold UserData.deserialize
  rw [hids, hcustom, hprivate, htaken,
    hvalue "userID" user.data.user_id (by decide) (by simp [StatsigUserLoggable.named_fields]),
    hvalue "email" user.data.email (by decide) (by simp [StatsigUserLoggable.named_fields]),
    hvalue "ip" user.data.ip (by decide) (by simp [StatsigUserLoggable.named_fields]),
    hvalue "userAgent" user.data.user_agent (by decide)
      (by simp [StatsigUserLoggable.named_fields]),
    hvalue "country" user.data.country (by decide) (by simp [StatsigUserLoggable.named_fields]),
    hvalue "locale" user.data.locale (by decide) (by simp [StatsigUserLoggable.named_fields]),
    hvalue "appVersion" user.data.app_version (by decide)
      (by simp [StatsigUserLoggable.named_fields])]
  rfl

/-- What is written about a user reads back, without the private attributes. -/
theorem deserialize_serialize (user : StatsigUserLoggable) :
    StatsigUserLoggable.deserialize std user.serialize = some (user.reread std) := by
  have henvironment : optional_map std user.fields "statsigEnvironment" =
      some (user.environment.map (reread_entries std ·.entries)) :=
    optional_map_of_get (get_fields (by simp [StatsigUserLoggable.named_fields]))
  unfold StatsigUserLoggable.serialize StatsigUserLoggable.deserialize
  simp only [deserialize_data, henvironment, Option.bind_eq_bind, Option.bind_some]
  rfl

/-! ### Once more -/

@[simp] theorem DynamicValue.json_value_reread (value : DynamicValue) :
    (value.reread std).json_value = value.json_value := DynamicValue.from_json_json_value std _

@[simp] theorem DynamicValue.reread_reread (value : DynamicValue) :
    (value.reread std).reread std = value.reread std := by
  unfold DynamicValue.reread
  rw [DynamicValue.from_json_json_value]

theorem reread_value_reread (value : Option DynamicValue) :
    reread_value std (reread_value std value) = reread_value std value := by
  cases value with
  | none => rfl
  | some value =>
    by_cases h : value.json_value.is_null = true
    · simp [reread_value, h]
    · simp [reread_value, h]

theorem map_fst_reread_entries (entries : List (String × DynamicValue)) :
    (reread_entries std entries).map Prod.fst = entries.map Prod.fst :=
  HashMap.map_fst_map_values _ entries

theorem reread_entries_twice (entries : List (String × DynamicValue)) :
    reread_entries std (reread_entries std entries) = reread_entries std entries := by
  unfold reread_entries
  rw [List.map_map]
  exact List.map_congr_left fun entry _ => by simp

theorem reread_entries_reread {entries : List (String × DynamicValue)}
    (h : (entries.map Prod.fst).Nodup) :
    reread_entries std (reread_entries std entries).entries = reread_entries std entries := by
  rw [HashMap.entries_of_distinct (by rwa [map_fst_reread_entries]), reread_entries_twice]

theorem reread_written_custom (custom global_custom : Option UserDataMap) :
    ((written_custom custom global_custom).map (reread_entries std)).map (reread_entries std) =
      (written_custom custom global_custom).map (reread_entries std) := by
  rw [Option.map_map]
  congr 1
  exact funext (reread_entries_twice std)

theorem reread_map_reread (m : Option UserDataMap) :
    (m.map (reread_entries std ·.entries)).map (reread_entries std ·.entries) =
      m.map (reread_entries std ·.entries) := by
  cases m with
  | none => rfl
  | some m => exact congrArg some (reread_entries_reread std m.nodup_entries)

theorem map_fst_merged (custom global_custom : Option UserDataMap) :
    (merged_custom_fields custom global_custom).map Prod.fst =
      (global_custom.getD []).entries.map Prod.fst ++
      ((custom.getD []).entries.map Prod.fst).filter fun key =>
        ((global_custom.getD []).get key).isNone := by
  unfold merged_custom_fields
  rw [List.map_append, HashMap.map_fst_map_values, List.filter_map]
  rfl

/-- No key is written twice. -/
theorem nodup_merged (custom global_custom : Option UserDataMap) :
    ((merged_custom_fields custom global_custom).map Prod.fst).Nodup := by
  rw [map_fst_merged]
  refine List.Nodup.append (HashMap.nodup_entries _) ((HashMap.nodup_entries _).filter _) ?_
  intro key hglobal hown
  rw [HashMap.map_fst_entries, List.mem_dedup] at hglobal
  obtain ⟨value, hvalue⟩ := HashMap.get_of_mem_keys hglobal
  rw [List.mem_filter, hvalue] at hown
  exact absurd hown.2 (by simp)

theorem merged_none (custom : Option UserDataMap) :
    merged_custom_fields custom none = (custom.getD []).entries := by
  simp [merged_custom_fields, HashMap.entries]

theorem written_custom_reread (custom global_custom : Option UserDataMap) :
    written_custom ((written_custom custom global_custom).map (reread_entries std)) none =
      (written_custom custom global_custom).map (reread_entries std) := by
  cases h : written_custom custom global_custom with
  | none => rfl
  | some entries =>
    have hnodup : (entries.map Prod.fst).Nodup := by
      unfold written_custom at h
      split at h
      · cases h
      · rw [← Option.some.inj h]
        exact nodup_merged custom global_custom
    rw [Option.map_some]
    unfold written_custom
    rw [merged_none, Option.getD_some,
      HashMap.entries_of_distinct (by rwa [map_fst_reread_entries])]
    rfl

/-- The value of the user counts before the value that every user has. -/
theorem get_merged (custom global_custom : Option UserDataMap) (key : String) :
    HashMap.get (merged_custom_fields custom global_custom) key =
      ((custom.getD []).get key).or ((global_custom.getD []).get key) := by
  have hdistinct := nodup_merged custom global_custom
  cases hglobal : (global_custom.getD []).get key with
  | some value =>
    have hmem : (key, ((custom.getD []).get key).getD value) ∈
        merged_custom_fields custom global_custom :=
      List.mem_append_left _ (List.mem_map.mpr ⟨_, HashMap.mem_entries.mpr hglobal, rfl⟩)
    rw [HashMap.get_of_mem hdistinct hmem]
    cases (custom.getD []).get key <;> rfl
  | none =>
    rw [Option.or_none]
    cases hown : (custom.getD []).get key with
    | some value =>
      refine HashMap.get_of_mem hdistinct (List.mem_append_right _ ?_)
      exact List.mem_filter.mpr ⟨HashMap.mem_entries.mpr hown, by rw [hglobal]; rfl⟩
    | none =>
      refine Option.eq_none_iff_forall_ne_some.mpr fun value hvalue => ?_
      have hkey := HashMap.mem_keys_of_get hvalue
      rw [map_fst_merged, List.mem_append, List.mem_filter, HashMap.map_fst_entries,
        HashMap.map_fst_entries, List.mem_dedup, List.mem_dedup] at hkey
      rcases hkey with hkey | ⟨hkey, -⟩
      · obtain ⟨value, hvalue⟩ := HashMap.get_of_mem_keys hkey
        rw [hvalue] at hglobal
        cases hglobal
      · obtain ⟨value, hvalue⟩ := HashMap.get_of_mem_keys hkey
        rw [hvalue] at hown
        cases hown

theorem get_reread_entries (entries : List (String × DynamicValue)) (key : String) :
    (reread_entries std entries).get key =
      (HashMap.get entries key).map (DynamicValue.reread std) := by
  induction entries with
  | nil => rfl
  | cons entry entries ih =>
    unfold reread_entries at ih ⊢
    rw [List.map_cons, HashMap.get_cons, HashMap.get_cons, ih]
    by_cases h : key = entry.1
    · rw [if_pos h, if_pos h, Option.map_some]
    · rw [if_neg h, if_neg h]

theorem reread_reread (user : StatsigUserLoggable) :
    (user.reread std).reread std = user.reread std := by
  unfold StatsigUserLoggable.reread
  simp only [reread_value_reread, reread_map_reread, written_custom_reread,
    reread_written_custom]

theorem get_reread_custom (user : StatsigUserLoggable) (key : String) :
    ((user.reread std).data.custom.getD []).get key =
      (((user.data.custom.getD []).get key).or ((user.global_custom.getD []).get key)).map
        (DynamicValue.reread std) := by
  rw [← get_merged, ← get_reread_entries]
  unfold StatsigUserLoggable.reread written_custom
  dsimp only
  split
  · next h =>
    rw [Bool.and_eq_true, Option.isNone_iff_eq_none, Option.isNone_iff_eq_none] at h
    rw [h.1, h.2]
    rfl
  · rfl

/-! ### The fields that are null -/

theorem serialize_reread_value (field : String) (value : Option DynamicValue) :
    serialize_data_field field ((reread_value std value).map (·.json_value)) =
      (serialize_data_field field (value.map (·.json_value))).filter fun f => !f.2.is_null := by
  cases value with
  | none => rfl
  | some value =>
    by_cases h : value.json_value.is_null = true
    · simp [reread_value, serialize_data_field, h]
    · simp [reread_value, serialize_data_field, h]

theorem json_of_reread_entries (entries : List (String × DynamicValue)) :
    json_of_entries (reread_entries std entries) = json_of_entries entries := by
  unfold json_of_entries reread_entries
  rw [List.map_map]
  exact congrArg _ (List.map_congr_left fun entry _ => by simp)

theorem serialize_reread_entries (field : String)
    (entries : Option (List (String × DynamicValue))) :
    serialize_data_field field ((entries.map (reread_entries std)).map json_of_entries) =
      (serialize_data_field field (entries.map json_of_entries)).filter
        fun f => !f.2.is_null := by
  cases entries with
  | none => rfl
  | some entries =>
    rw [Option.map_some, Option.map_some, json_of_reread_entries]
    rfl

theorem serialize_reread_map (field : String) (m : Option UserDataMap) :
    serialize_data_field field
        ((m.map (reread_entries std ·.entries)).map (json_of_entries ·.entries)) =
      (serialize_data_field field (m.map (json_of_entries ·.entries))).filter
        fun f => !f.2.is_null := by
  cases m with
  | none => rfl
  | some m =>
    have hdistinct : ((reread_entries std m.entries).map Prod.fst).Nodup := by
      rw [map_fst_reread_entries]
      exact m.nodup_entries
    rw [Option.map_some, Option.map_some, HashMap.entries_of_distinct hdistinct,
      json_of_reread_entries]
    rfl

theorem fields_reread (user : StatsigUserLoggable) :
    (user.reread std).fields = user.fields.filter fun f => !f.2.is_null := by
  unfold StatsigUserLoggable.fields
  simp only [List.filter_append, serialize_custom_field_eq]
  simp only [StatsigUserLoggable.reread, written_custom_reread, serialize_reread_value,
    serialize_reread_map, serialize_reread_entries]

/-- What is written about a user reads back with each field and the merged custom fields, and
without the private attributes. To write and read it once more changes nothing, and what is written
then is the same but for the fields that are null. -/
theorem loggable_user_round_trip (user : StatsigUserLoggable) :
    ∃ back, StatsigUserLoggable.deserialize std user.serialize = some back ∧
      StatsigUserLoggable.deserialize std back.serialize = some back ∧
      back.fields = user.fields.filter (fun field => !field.2.is_null) ∧
      (∀ key, (back.data.custom.getD []).get key =
        (((user.data.custom.getD []).get key).or ((user.global_custom.getD []).get key)).map
          (DynamicValue.reread std)) ∧
      back.data.private_attributes = none ∧
      ∀ private_attributes, ({ user with data := { user.data with private_attributes } } :
        StatsigUserLoggable).serialize = user.serialize := by
  refine ⟨user.reread std, deserialize_serialize std user, ?_, fields_reread std user,
    get_reread_custom std user, rfl, fun _ => rfl⟩
  rw [deserialize_serialize, reread_reread]

end Deserialize

end statsig_rust
