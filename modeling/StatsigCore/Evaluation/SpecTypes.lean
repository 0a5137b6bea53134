-- The specs that a project downloads, the user that they are evaluated for,
-- and the result that an evaluation fills in. The records follow
-- `specs_response/spec_types.rs`, `specs_response/cmab_types.rs`,
-- `evaluation/evaluator_result.rs` and `user/statsig_user_internal.rs`. They
-- keep the fields that the evaluator reads or writes.
import Mathlib.Data.List.Dedup
import Mathlib.Data.Rat.Defs

namespace statsig_rust

/-! ## Values -/

/-- Interned strings compare by their text. -/
abbrev InternedString := String

/-- A finite `f64` is a rational. Where the code computes with an `f64`, the
rounding of the result is a function of the environment. -/
abbrev F64 := ℚ

/-- A `HashMap`, as the list of its entries: the newest entry of a key is the
one that counts. -/
abbrev HashMap (κ υ : Type) := List (κ × υ)

def HashMap.get {κ υ : Type} [DecidableEq κ] (m : HashMap κ υ) (k : κ) : Option υ :=
  m.lookup k

def HashMap.insert {κ υ : Type} (m : HashMap κ υ) (k : κ) (v : υ) : HashMap κ υ := (k, v) :: m

@[simp] theorem HashMap.get_nil {κ υ : Type} [DecidableEq κ] (k : κ) :
    HashMap.get ([] : HashMap κ υ) k = none := rfl

theorem HashMap.get_insert {κ υ : Type} [DecidableEq κ] (m : HashMap κ υ) (k k' : κ) (v : υ) :
    (m.insert k v).get k' = if k' = k then some v else m.get k' := by
  unfold HashMap.get HashMap.insert
  rw [List.lookup_cons]
  by_cases h : k' = k
  · simp [h]
  · simp [h, beq_eq_false_iff_ne.mpr h]

theorem HashMap.get_cons {κ υ : Type} [DecidableEq κ] (e : κ × υ) (m : HashMap κ υ) (k : κ) :
    HashMap.get (e :: m) k = if k = e.1 then some e.2 else m.get k := HashMap.get_insert m e.1 k e.2

/-- `HashMap::remove`. -/
theorem HashMap.get_map {κ υ ω : Type} [DecidableEq κ] (f : υ → ω) (m : HashMap κ υ) (k : κ) :
    HashMap.get (m.map fun entry => (entry.1, f entry.2)) k = (m.get k).map f := by
  induction m with
  | nil => rfl
  | cons e m ih =>
    rw [List.map_cons, HashMap.get_cons, HashMap.get_cons, ih]
    by_cases hk : k = e.1
    · rw [if_pos hk, if_pos hk]
      rfl
    · rw [if_neg hk, if_neg hk]

def HashMap.remove {κ υ : Type} [DecidableEq κ] (m : HashMap κ υ) (k : κ) : HashMap κ υ :=
  m.filter fun e => e.1 ≠ k

theorem HashMap.get_remove {κ υ : Type} [DecidableEq κ] (m : HashMap κ υ) (k k' : κ) :
    (m.remove k).get k' = if k' = k then none else m.get k' := by
  unfold HashMap.get HashMap.remove
  induction m with
  | nil => simp
  | cons e m ih =>
    obtain ⟨k₀, v₀⟩ := e
    by_cases hk : k₀ = k
    · rw [List.filter_cons_of_neg (by simpa using hk), ih, List.lookup_cons]
      by_cases hk' : k' = k
      · simp [hk']
      · have hne : (k' == k₀) = false := by
          rw [hk]
          exact beq_eq_false_iff_ne.mpr hk'
        simp [hk', hne]
    · rw [List.filter_cons_of_pos (by simpa using hk), List.lookup_cons, ih, List.lookup_cons]
      by_cases hk' : k' = k₀
      · simp [hk', hk]
      · simp [beq_eq_false_iff_ne.mpr hk']

theorem HashMap.mem_of_get {κ υ : Type} [DecidableEq κ] {m : HashMap κ υ} {k : κ} {v : υ}
    (h : m.get k = some v) : (k, v) ∈ m := by
  induction m with
  | nil => simp at h
  | cons e m ih =>
    obtain ⟨k', v'⟩ := e
    unfold HashMap.get at h
    rw [List.lookup_cons] at h
    by_cases hk : k = k'
    · simp only [hk, beq_self_eq_true, Option.some.injEq] at h
      simp [hk, h]
    · simp only [beq_eq_false_iff_ne.mpr hk] at h
      exact List.mem_cons_of_mem _ (ih h)

theorem HashMap.mem_keys_of_get {κ υ : Type} [DecidableEq κ] {m : HashMap κ υ} {k : κ} {v : υ}
    (h : m.get k = some v) : k ∈ m.map Prod.fst :=
  List.mem_map.mpr ⟨_, HashMap.mem_of_get h, rfl⟩

theorem HashMap.get_of_mem_keys {κ υ : Type} [DecidableEq κ] {m : HashMap κ υ} {k : κ}
    (h : k ∈ m.map Prod.fst) : ∃ v, m.get k = some v := by
  induction m with
  | nil => simp at h
  | cons e m ih =>
    rw [HashMap.get_cons]
    by_cases hk : k = e.1
    · exact ⟨e.2, if_pos hk⟩
    · rw [if_neg hk]
      rw [List.map_cons, List.mem_cons] at h
      exact ih (h.resolve_left hk)

theorem HashMap.get_of_mem {κ υ : Type} [DecidableEq κ] {m : HashMap κ υ}
    (hdistinct : (m.map Prod.fst).Nodup) {k : κ} {v : υ} (h : (k, v) ∈ m) : m.get k = some v := by
  induction m with
  | nil => cases h
  | cons entry m ih =>
    rw [List.map_cons, List.nodup_cons] at hdistinct
    rw [HashMap.get_cons]
    rcases List.mem_cons.mp h with rfl | h
    · exact if_pos rfl
    · have hne : k ≠ entry.1 := by
        intro heq
        apply hdistinct.1
        rw [← heq]
        exact List.mem_map_of_mem h
      rw [if_neg hne]
      exact ih hdistinct.2 h

/-- `HashMap::len`. -/
def HashMap.len {κ υ : Type} [DecidableEq κ] (m : HashMap κ υ) : Nat := (m.map Prod.fst).dedup.length

theorem HashMap.len_insert {κ υ : Type} [DecidableEq κ] {m : HashMap κ υ} {k : κ} (v : υ)
    (h : m.get k = none) : (m.insert k v).len = m.len + 1 := by
  have hnew : k ∉ m.map Prod.fst := by
    intro hmem
    obtain ⟨v, hv⟩ := HashMap.get_of_mem_keys hmem
    rw [hv] at h
    cases h
  unfold HashMap.len HashMap.insert
  rw [List.map_cons, List.dedup_cons_of_notMem hnew, List.length_cons]

structure DynamicString where
  value : InternedString
  lowercased_value : InternedString
deriving DecidableEq

/-- `serde_json::Value`. -/
inductive JsonValue where
  | null
  | bool (b : Bool)
  | number (n : F64)
  | string (s : String)
  | array (items : List JsonValue)
  | object (entries : List (String × JsonValue))

/-- A value of the user, with each reading of it that parses. -/
structure DynamicValue where
  bool_value : Option Bool := none
  int_value : Option Int := none
  float_value : Option F64 := none
  timestamp_value : Option Int := none
  string_value : Option DynamicString := none
  array_value : Option (List DynamicValue) := none
  object_value : Option (List (String × DynamicValue)) := none
  json_value : JsonValue := .null

/-- `EMPTY_DYNAMIC_VALUE`. -/
def DynamicValue.new : DynamicValue := {}

def DynamicValue.for_timestamp_evaluation (timestamp : Int) : DynamicValue :=
  { int_value := some timestamp }

/-- `DynamicValue::from` of a small number: every reading of it is exact. -/
def DynamicValue.from_number (n : Nat) : DynamicValue :=
  { float_value := some n
    int_value := some n
    string_value := some ⟨toString n, toString n⟩
    json_value := .number n }

inductive EvaluatorValueType where
  | Null | Bool | Number | String | Array | Object
deriving DecidableEq

/-- The target of a condition. `regex_value` is the pattern of the compiled
regex. `array_value` is keyed by the lowercase text, with the index and the text
of the array. -/
structure MemoizedEvaluatorValue where
  value_type : EvaluatorValueType
  bool_value : Option Bool := none
  float_value : Option F64 := none
  string_value : Option DynamicString := none
  regex_value : Option String := none
  timestamp_value : Option Int := none
  object_value : Option (HashMap InternedString DynamicString) := none
  array_value : Option (HashMap InternedString (Nat × InternedString)) := none

def MemoizedEvaluatorValue.new (value_type : EvaluatorValueType) : MemoizedEvaluatorValue :=
  { value_type }

/-- What a rule returns: `Null`, a boolean, or a JSON object. -/
inductive DynamicReturnable where
  | null
  | bool (b : Bool)
  | json (map : HashMap String JsonValue)

def DynamicReturnable.get_bool : DynamicReturnable → Option Bool
  | .bool b => some b
  | _ => none

def DynamicReturnable.get_json : DynamicReturnable → Option (HashMap String JsonValue)
  | .json map => some map
  | _ => none

def DynamicReturnable.from_map (map : HashMap String JsonValue) : DynamicReturnable := .json map

/-! ## Specs -/

structure Rule where
  id : InternedString
  pass_percentage : F64 := 100
  return_value : DynamicReturnable := .bool true
  salt : Option InternedString := none
  conditions : List InternedString
  id_type : DynamicString := ⟨"userID", "userid"⟩
  group_name : Option InternedString := none
  config_delegate : Option InternedString := none
  is_experiment_group : Option Bool := none
  sampling_rate : Option Nat := none

/-- A targeting rule gates whether a user is eligible for an experiment. -/
def Rule.is_targeting_rule (rule : Rule) : Bool :=
  rule.id == "targetingGate" || rule.id == "inlineTargetingRules"

/-- An override rule is a console-set manual override. -/
def Rule.is_override_rule (rule : Rule) : Bool :=
  "override".toList.isSuffixOf rule.id.toList

structure Spec where
  salt : InternedString := ""
  default_value : DynamicReturnable := .bool false
  enabled : Bool := true
  rules : List Rule
  id_type : InternedString := "userID"
  explicit_parameters : Option (List InternedString) := none
  has_shared_params : Option Bool := none
  is_active : Option Bool := none
  version : Option Nat := none
  forward_all_exposures : Option Bool := none
  use_new_layer_eval : Option Bool := none

structure Condition where
  condition_type : InternedString
  target_value : Option MemoizedEvaluatorValue := none
  operator : Option InternedString := none
  field : Option DynamicString := none
  additional_values : Option (HashMap InternedString InternedString) := none
  id_type : DynamicString := ⟨"userID", "userid"⟩

/-- A condition that every user meets. -/
def Condition.everyone : Condition := { condition_type := "public" }

/-- A condition on the value of a gate. -/
def Condition.on_gate (condition_type gate : InternedString) : Condition where
  condition_type := condition_type
  target_value := some { value_type := .String, string_value := some ⟨gate, gate⟩ }

structure OverrideRule where
  rule_name : String
  start_time : Option Int := none

/-- One mapping of a config to another: the config is evaluated as
`new_config_name` for a user that passes one of the rules. -/
structure ConfigMapping where
  new_config_name : InternedString
  rules : List OverrideRule

structure CMABGroupConfig where
  alpha : F64
  intercept : F64
  records : Nat
  weights_numerical : HashMap String F64
  weights_categorical : HashMap String (HashMap String F64)

structure CMABGroup where
  name : String
  parameter_values : DynamicReturnable
  id : InternedString

structure CMABConfig where
  salt : String
  default_value : DynamicReturnable
  id_type : DynamicString
  enabled : Bool
  version : Nat
  sample_rate : F64
  higher_is_better : Bool
  groups : List CMABGroup
  config : Option (HashMap String CMABGroupConfig)
  targeting_gate_name : Option InternedString

/-- The specs of a project, as the evaluator reads them. A parameter store is
only asked for by its name. -/
structure SpecsResponseFull where
  condition_map : HashMap InternedString Condition := []
  feature_gates : HashMap InternedString Spec := []
  dynamic_configs : HashMap InternedString Spec := []
  layer_configs : HashMap InternedString Spec := []
  param_stores : Option (List InternedString) := none
  cmab_configs : Option (HashMap String CMABConfig) := none
  override_rules : Option (HashMap String Rule) := none
  overrides : Option (HashMap String (List ConfigMapping)) := none

/-- A layer that delegates to an experiment for the users that pass a gate. -/
def SpecsResponseFull.layered : SpecsResponseFull where
  condition_map := [("passes_gate", .on_gate "pass_gate" "gate")]
  feature_gates := [("gate", { rules := [{ id := "on", conditions := [] }] })]
  dynamic_configs := [("experiment", { rules := [] })]
  layer_configs := [("layer", { rules := [
    { id := "allocation", conditions := ["passes_gate"], config_delegate := some "experiment" }] })]

inductive SpecType where
  | Gate | DynamicConfig | Experiment | Layer | ParameterStore
deriving DecidableEq

inductive Recognition where
  | Unrecognized | Recognized
deriving DecidableEq

/-- The one error that the evaluator raises. -/
inductive StatsigErr where
  | StackOverflowError
deriving DecidableEq

/-! ## The user -/

abbrev UserDataMap := HashMap String DynamicValue

structure UserData where
  user_id : Option DynamicValue := none
  email : Option DynamicValue := none
  ip : Option DynamicValue := none
  country : Option DynamicValue := none
  locale : Option DynamicValue := none
  app_version : Option DynamicValue := none
  user_agent : Option DynamicValue := none
  custom : Option UserDataMap := none
  private_attributes : Option UserDataMap := none
  custom_ids : Option UserDataMap := none
  statsig_environment : Option UserDataMap := none

/-- What the evaluator asks of the `Statsig` instance behind a user. The
environment is `statsig_environment`, or else `fallback_environment`. -/
structure StatsigInstance where
  global_custom_fields : Option UserDataMap := none
  statsig_environment : Option UserDataMap := none

structure StatsigUserInternal where
  data : UserData := {}
  statsig_instance : Option StatsigInstance := none

namespace StatsigUserInternal

def get_unit_id (user : StatsigUserInternal) (id_type : DynamicString) : Option DynamicValue :=
  if id_type.lowercased_value = "userid" then user.data.user_id
  else
    match user.data.custom_ids with
    | none => none
    | some custom_ids =>
      (custom_ids.get id_type.value).or (custom_ids.get id_type.lowercased_value)

/-- The field of the user data that a lowercase field name stands for. -/
def named_field (data : UserData) : String → Option DynamicValue
  | "userid" => data.user_id
  | "email" => data.email
  | "ip" => data.ip
  | "country" => data.country
  | "locale" => data.locale
  | "appversion" => data.app_version
  | "useragent" => data.user_agent
  | _ => none

def named_field_alt (data : UserData) : String → Option DynamicValue
  | "user_id" => data.user_id
  | "app_version" => data.app_version
  | "user_agent" => data.user_agent
  | _ => none

/-- A field by its name, or else by its lowercase name. -/
def get_either (m : Option UserDataMap) (field : DynamicString) : Option DynamicValue :=
  match m with
  | none => none
  | some m => (m.get field.value).or (m.get field.lowercased_value)

def get_user_value (user : StatsigUserInternal) (field : Option DynamicString) :
    Option DynamicValue :=
  match field with
  | none => none
  | some field =>
    -- a named field counts only when its text is not empty
    let named := (named_field user.data field.lowercased_value).filter fun v =>
      match v.string_value with
      | some s => s.value ≠ ""
      | none => false
    named
      |>.or (get_either user.data.custom field)
      |>.or (user.statsig_instance.bind fun i => get_either i.global_custom_fields field)
      |>.or (get_either user.data.private_attributes field)
      |>.or (named_field_alt user.data field.lowercased_value)

def get_value_from_environment (user : StatsigUserInternal) (field : Option DynamicString) :
    Option DynamicValue :=
  match field with
  | none => none
  | some field =>
    let own := user.data.statsig_environment.bind fun m => m.get field.value
    own.or (user.statsig_instance.bind fun i => get_either i.statsig_environment field)

end StatsigUserInternal

/-! ## The result -/

structure SecondaryExposure where
  gate : InternedString
  gate_value : InternedString
  rule_id : InternedString
deriving DecidableEq

structure EvaluatorResult where
  name : Option InternedString := none
  bool_value : Bool := false
  unsupported : Bool := false
  is_experiment_group : Bool := false
  is_experiment_active : Bool := false
  is_in_layer : Bool := false
  id_type : Option InternedString := none
  json_value : Option DynamicReturnable := none
  rule_id : Option InternedString := none
  rule_id_suffix : Option String := none
  group_name : Option InternedString := none
  explicit_parameters : Option (List InternedString) := none
  config_delegate : Option InternedString := none
  secondary_exposures : List SecondaryExposure := []
  undelegated_secondary_exposures : Option (List SecondaryExposure) := none
  override_reason : Option String := none
  version : Option Nat := none
  sampling_rate : Option Nat := none
  forward_all_exposures : Option Bool := none
  override_config_name : Option InternedString := none
  has_seen_analytical_gates : Option Bool := none
  parameter_rule_ids : Option (HashMap InternedString InternedString) := none

/-- `InternedString::from_bool`. -/
def from_bool (b : Bool) : InternedString := if b then "true" else "false"

def default_rule_id : InternedString := "default"

def DISABLED_RULE : InternedString := "disabled"

end statsig_rust
