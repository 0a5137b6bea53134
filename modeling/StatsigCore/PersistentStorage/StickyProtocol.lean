-- The protocol behind the four sticky paths, and where the typed and the raw path of
-- one evaluation part ways. The raw path reads the name, the id type and the rule id
-- from the result of the evaluator. The typed path reads them from the object that was
-- made from it.
import StatsigCore.PersistentStorage.StickyValues

namespace statsig_rust.persistent_storage

open evaluation

/-! ## The protocol -/

/-- The ways that a call can go: it leaves the evaluation as it is, drops the stored
value, replays it, or records a new one. -/
inductive Branch where
  | live
  | drop
  | replay (found : StickyValues)
  | record

/-- What the protocol asks of an evaluation. A sticky value has a say in whether the
experiment is active. -/
structure Request where
  storage_key : Option String
  config_name : String
  active : Option StickyValues → Bool
  honored : StickyValues → Bool
  in_group : Bool

namespace Request

def branch (request : Request) (values : Option UserPersistedValues) : Branch :=
  match request.storage_key, values with
  | none, _ => .live
  | some _, none => .drop
  | some _, some values =>
    if !request.active (values.get request.config_name) then .drop
    else
      match values.get request.config_name with
      | some found => if request.honored found then .replay found else .live
      | none => if request.in_group then .record else .live

/-- The evaluation that is returned and the operation that is issued. -/
def answer {α : Type} (request : Request) (values : Option UserPersistedValues) (live : α)
    (from_sticky : StickyValues → α) (fresh : Option StickyValues) : α × Option StorageOp :=
  match request.branch values with
  | .live => (live, none)
  | .drop => (live, request.storage_key.map (.delete · request.config_name))
  | .replay found => (from_sticky found, none)
  | .record =>
    (live, request.storage_key.bind fun key => fresh.map (.save key request.config_name))

end Request

section Refinement

variable (to_lowercase : String → String) (now : Nat) (user : StatsigUserInternal)
  (options : ExperimentEvaluationOptions) (specs_data : SpecsResponseFull) (reeval : StickyReeval)

def Request.of_experiment (experiment : Experiment) : Request where
  storage_key := get_persistent_storage_key to_lowercase user experiment.id_type
  config_name := experiment.name
  active _ := experiment.is_experiment_active
  honored _ := keep_sticky options experiment.name reeval
  in_group := (experiment.evaluation.bind (·.is_user_in_experiment)).getD false

def Request.of_layer (layer : Layer) : Request where
  storage_key := get_persistent_storage_key to_lowercase user layer.id_type
  config_name := layer.name
  active := get_sticky_aware_is_experiment_active layer.is_experiment_active specs_data
  honored found := layer_should_return_sticky_value options found reeval
  in_group := (layer.evaluation.bind (·.is_user_in_experiment)).getD false

/-- A result without a name or an id type has no storage key. -/
def raw_storage_key (result : EvaluatorResult) : Option String :=
  match result.id_type, result.name with
  | some id_type, some _ => get_persistent_storage_key to_lowercase user id_type
  | _, _ => none

def Request.of_raw_experiment (result : EvaluatorResult) : Request where
  storage_key := raw_storage_key to_lowercase user result
  config_name := result.name.getD ""
  active _ := result.is_experiment_active
  honored _ := keep_sticky options (result.name.getD "") reeval
  in_group := result.is_experiment_group

def Request.of_raw_layer (result : EvaluatorResult) : Request where
  storage_key := raw_storage_key to_lowercase user result
  config_name := result.name.getD ""
  active := get_sticky_aware_is_experiment_active result.is_experiment_active specs_data
  honored found := layer_should_return_sticky_value options found reeval
  in_group := result.is_experiment_group

theorem experiment_path (experiment : Experiment) :
    try_apply_sticky_value_to_experiment_impl to_lowercase now user options experiment reeval =
      (Request.of_experiment to_lowercase user options reeval experiment).answer
        options.user_persisted_values experiment (make_experiment_from_sticky_value now experiment)
        (make_sticky_value_from_experiment experiment) := by
  unfold try_apply_sticky_value_to_experiment_impl Request.answer Request.branch
  simp only [Request.of_experiment]
  obtain hkey | ⟨key, hkey⟩ :=
    (get_persistent_storage_key to_lowercase user experiment.id_type).eq_none_or_eq_some
  · simp [hkey]
  obtain hvalues | ⟨values, hvalues⟩ := options.user_persisted_values.eq_none_or_eq_some
  · simp [hkey, hvalues]
  by_cases hactive : experiment.is_experiment_active = true
  · obtain hfound | ⟨found, hfound⟩ := (HashMap.get values experiment.name).eq_none_or_eq_some
    · by_cases hin : (experiment.evaluation.bind (·.is_user_in_experiment)).getD false = true
      · simp [hkey, hvalues, hactive, hfound, hin]
      · simp [hkey, hvalues, hactive, hfound, hin]
    · by_cases hkeep : keep_sticky options experiment.name reeval = true
      · simp [hkey, hvalues, hactive, hfound, hkeep]
      · simp [hkey, hvalues, hactive, hfound, hkeep]
  · simp [hkey, hvalues, hactive]

theorem layer_path (layer : Layer) :
    try_apply_sticky_value_to_layer_impl to_lowercase now user options specs_data layer reeval =
      (Request.of_layer to_lowercase user options specs_data reeval layer).answer
        options.user_persisted_values layer (make_layer_from_sticky_value now layer)
        (make_sticky_value_from_layer layer) := by
  unfold try_apply_sticky_value_to_layer_impl Request.answer Request.branch
  simp only [Request.of_layer]
  obtain hkey | ⟨key, hkey⟩ :=
    (get_persistent_storage_key to_lowercase user layer.id_type).eq_none_or_eq_some
  · simp [hkey]
  obtain hvalues | ⟨values, hvalues⟩ := options.user_persisted_values.eq_none_or_eq_some
  · simp [hkey, hvalues]
  by_cases hactive : get_sticky_aware_is_experiment_active layer.is_experiment_active specs_data
      (HashMap.get values layer.name) = true
  · obtain hfound | ⟨found, hfound⟩ := (HashMap.get values layer.name).eq_none_or_eq_some
    · rw [hfound] at hactive
      by_cases hin : (layer.evaluation.bind (·.is_user_in_experiment)).getD false = true
      · simp [hkey, hvalues, hfound, hactive, hin]
      · simp [hkey, hvalues, hfound, hactive, hin]
    · rw [hfound] at hactive
      by_cases hkeep : layer_should_return_sticky_value options found reeval = true
      · simp [hkey, hvalues, hfound, hactive, hkeep]
      · simp [hkey, hvalues, hfound, hactive, hkeep]
  · simp [hkey, hvalues, hactive]

theorem raw_experiment_path (details : EvaluationDetails) (result : EvaluatorResult) :
    try_apply_sticky_value_to_raw_experiment_impl to_lowercase now user options details result
        reeval =
      (Request.of_raw_experiment to_lowercase user options reeval result).answer
        options.user_persisted_values (result, details)
        (fun found => (make_evaluation_result_from_sticky_value result found,
          make_evaluation_details_from_sticky_value now found))
        (some (make_sticky_value_from_evaluation_result result details.lcut)) := by
  unfold try_apply_sticky_value_to_raw_experiment_impl Request.answer Request.branch
  simp only [Request.of_raw_experiment, raw_storage_key]
  obtain hid | ⟨id_type, hid⟩ := result.id_type.eq_none_or_eq_some
  · simp [hid]
  obtain hname | ⟨name, hname⟩ := result.name.eq_none_or_eq_some
  · simp [hid, hname]
  obtain hkey | ⟨key, hkey⟩ :=
    (get_persistent_storage_key to_lowercase user id_type).eq_none_or_eq_some
  · simp [hid, hname, hkey]
  obtain hvalues | ⟨values, hvalues⟩ := options.user_persisted_values.eq_none_or_eq_some
  · simp [hid, hname, hkey, hvalues]
  by_cases hactive : result.is_experiment_active = true
  · obtain hfound | ⟨found, hfound⟩ := (HashMap.get values name).eq_none_or_eq_some
    · by_cases hin : result.is_experiment_group = true
      · simp [hid, hname, hkey, hvalues, hactive, hfound, hin]
      · simp [hid, hname, hkey, hvalues, hactive, hfound, hin]
    · by_cases hkeep : keep_sticky options name reeval = true
      · simp [hid, hname, hkey, hvalues, hactive, hfound, hkeep]
      · simp [hid, hname, hkey, hvalues, hactive, hfound, hkeep]
  · simp [hid, hname, hkey, hvalues, hactive]

theorem raw_layer_path (details : EvaluationDetails) (result : EvaluatorResult) :
    try_apply_sticky_value_to_raw_layer_impl to_lowercase now user options specs_data details
        result reeval =
      (Request.of_raw_layer to_lowercase user options specs_data reeval result).answer
        options.user_persisted_values (result, details)
        (fun found => (make_evaluation_result_from_sticky_value result found,
          make_evaluation_details_from_sticky_value now found))
        (some (make_sticky_value_from_evaluation_result result details.lcut)) := by
  unfold try_apply_sticky_value_to_raw_layer_impl Request.answer Request.branch
  simp only [Request.of_raw_layer, raw_storage_key]
  obtain hid | ⟨id_type, hid⟩ := result.id_type.eq_none_or_eq_some
  · simp [hid]
  obtain hname | ⟨name, hname⟩ := result.name.eq_none_or_eq_some
  · simp [hid, hname]
  obtain hkey | ⟨key, hkey⟩ :=
    (get_persistent_storage_key to_lowercase user id_type).eq_none_or_eq_some
  · simp [hid, hname, hkey]
  obtain hvalues | ⟨values, hvalues⟩ := options.user_persisted_values.eq_none_or_eq_some
  · simp [hid, hname, hkey, hvalues]
  obtain hfound | ⟨found, hfound⟩ := (HashMap.get values name).eq_none_or_eq_some
  · by_cases hactive : result.is_experiment_active = true
    · by_cases hin : result.is_experiment_group = true
      · simp [hid, hname, hkey, hvalues, hfound, hactive, hin]
      · simp [hid, hname, hkey, hvalues, hfound, hactive, hin]
    · simp [hid, hname, hkey, hvalues, hfound, hactive]
  · by_cases hactive : get_sticky_aware_is_experiment_active result.is_experiment_active
        specs_data (some found) = true
    · by_cases hkeep : layer_should_return_sticky_value options found reeval = true
      · simp [hid, hname, hkey, hvalues, hfound, hactive, hkeep]
      · simp [hid, hname, hkey, hvalues, hfound, hactive, hkeep]
    · simp [hid, hname, hkey, hvalues, hfound, hactive]

end Refinement

/-! ## What a caller sees -/

/-- The part of an object that the typed and the raw caller both get. -/
structure View where
  rule_id : String
  value : HashMap String JsonValue
  group_name : Option String

namespace View

def of_experiment (experiment : Experiment) : View :=
  ⟨experiment.rule_id, experiment.value, experiment.group_name⟩

def of_layer (layer : Layer) : View := ⟨layer.rule_id, layer.value, layer.group_name⟩

/-- A raw value that is no object reads as an empty one. -/
def of_raw_experiment (raw : ExperimentRaw) : View where
  rule_id := raw.rule_id.unperformant_to_string
  value := (raw.value.map json_or_default).getD []
  group_name := raw.group_name

def of_raw_layer (raw : LayerRaw) : View where
  rule_id := raw.rule_id.unperformant_to_string
  value := (raw.value.map json_or_default).getD []
  group_name := raw.group_name

/-- The view of an evaluation. -/
def of_result (result : EvaluatorResult) : View where
  rule_id := suffixed result.rule_id result.rule_id_suffix
  value := (result.json_value.map json_or_default).getD []
  group_name := result.group_name

/-- The view of a sticky value. -/
def of_sticky (found : StickyValues) : View where
  rule_id := found.rule_id.getD ""
  value := sticky_json found
  group_name := found.group_name

end View

section Views

variable (name : String) (details : EvaluationDetails) (result : EvaluatorResult)

theorem json_or_default_get (value : Option DynamicReturnable) :
    json_or_default (value.getD DynamicReturnable.empty) =
      (value.map json_or_default).getD [] := by
  cases value <;> rfl

theorem view_get_experiment :
    View.of_experiment (get_experiment_impl name (details, some result)) = .of_result result := by
  simp [View.of_experiment, get_experiment_impl, make_experiment, View.of_result,
    result_to_experiment_eval, result_to_base_eval, get_json_value, json_or_default_get]

theorem view_get_layer (user : UserData) (disable_exposure : Bool) :
    View.of_layer (get_layer_impl user name disable_exposure (details, some result)) =
      .of_result result := by
  simp [View.of_layer, get_layer_impl, make_layer, View.of_result, result_to_layer_eval,
    result_to_base_eval, get_json_value, json_or_default_get]

theorem view_raw_experiment :
    View.of_raw_experiment (result_to_experiment_raw name details (some result)) =
      .of_result result := by
  simp [View.of_raw_experiment, result_to_experiment_raw, View.of_result]

theorem view_raw_layer (user : UserData) (disable_exposure : Bool) :
    View.of_raw_layer (result_to_layer_raw user name disable_exposure details (some result)) =
      .of_result result := by
  simp [View.of_raw_layer, result_to_layer_raw, View.of_result]

theorem view_sticky_result (found : StickyValues) :
    View.of_result (make_evaluation_result_from_sticky_value result found) = .of_sticky found := by
  unfold View.of_result View.of_sticky sticky_json
  simp only [make_evaluation_result_from_sticky_value, suffixed]
  cases found.json_value <;> rfl

theorem view_sticky_experiment (now : Nat) (experiment : Experiment) (found : StickyValues) :
    View.of_experiment (make_experiment_from_sticky_value now experiment found) =
      .of_sticky found := by
  simp [View.of_experiment, make_experiment_from_sticky_value, View.of_sticky]

theorem view_sticky_layer (now : Nat) (layer : Layer) (found : StickyValues) :
    View.of_layer (make_layer_from_sticky_value now layer found) = .of_sticky found := by
  simp [View.of_layer, make_layer_from_sticky_value, View.of_sticky]

end Views

end statsig_rust.persistent_storage
