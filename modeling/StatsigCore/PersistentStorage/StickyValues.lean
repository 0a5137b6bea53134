-- Sticky values (`persistent_storage/persistent_values_manager.rs` and
-- `persistent_storage_trait.rs`): a user who was given a group of an experiment keeps
-- it. The manager is written four times, for experiments and layers, and for typed
-- objects and the raw results that cross the FFI. The storage itself belongs to the
-- caller, so a call answers with the operation that it issues.
import StatsigCore.Evaluation.Objects

namespace statsig_rust.persistent_storage

open evaluation

/-! ## Values, options and operations -/

structure StickyValues where
  value : Bool := false
  json_value : Option DynamicReturnable := none
  rule_id : Option InternedString := none
  group_name : Option InternedString := none
  secondary_exposures : List SecondaryExposure := []
  undelegated_secondary_exposures : Option (List SecondaryExposure) := none
  config_delegate : Option InternedString := none
  explicit_parameters : Option (List InternedString) := none
  time : Option Nat := none
  config_version : Option Nat := none

abbrev UserPersistedValues := HashMap String StickyValues

/-- The options of an experiment. Those of a layer have the same fields. -/
structure ExperimentEvaluationOptions where
  disable_exposure_logging : Bool := false
  user_persisted_values : Option UserPersistedValues := none
  enforce_overrides : Bool := false
  enforce_targeting : Bool := false

abbrev LayerEvaluationOptions := ExperimentEvaluationOptions

inductive StickyRuleFilter where
  | Targeting | Overrides
deriving DecidableEq

/-- Re-evaluates a spec with one part of its rules. -/
abbrev StickyReeval := String → SpecType → StickyRuleFilter → Bool

/-- What a call does to the storage. -/
inductive StorageOp where
  | delete (key config_name : String)
  | save (key config_name : String) (data : StickyValues)

def StorageOp.config_name : StorageOp → String
  | delete _ config_name => config_name
  | save _ config_name _ => config_name

/-- `to_lowercase` is the one of Unicode. -/
def get_persistent_storage_key (to_lowercase : String → String) (user : StatsigUserInternal)
    (id_type : String) : Option String :=
  (user.get_unit_id ⟨id_type, to_lowercase id_type⟩).map fun id =>
    (match id.string_value with
      | some s => s.value
      | none => "") ++ ":" ++ id_type

def should_return_sticky_value (enforce_overrides enforce_targeting : Bool)
    (reeval_spec_name : String) (reeval : StickyReeval) : Bool :=
  if enforce_targeting && reeval reeval_spec_name .Experiment .Targeting then false
  else if enforce_overrides && reeval reeval_spec_name .Experiment .Overrides then false
  else true

/-- Whether a sticky value of an experiment is returned. -/
def keep_sticky (options : ExperimentEvaluationOptions) (config_name : String)
    (reeval : StickyReeval) : Bool :=
  !(options.enforce_overrides || options.enforce_targeting) ||
    should_return_sticky_value options.enforce_overrides options.enforce_targeting config_name
      reeval

/-- A sticky value without a delegate has nothing to re-evaluate, so it is honored. -/
def layer_should_return_sticky_value (options : LayerEvaluationOptions)
    (sticky_value : StickyValues) (reeval : StickyReeval) : Bool :=
  if !(options.enforce_overrides || options.enforce_targeting) then true
  else
    match sticky_value.config_delegate with
    | none => true
    | some delegate =>
      should_return_sticky_value options.enforce_overrides options.enforce_targeting delegate reeval

/-- The experiment behind a sticky value decides whether it is active, if its spec is
there and says so. -/
def get_sticky_aware_is_experiment_active (layer_is_active : Bool) (specs_data : SpecsResponseFull)
    (sticky_value : Option StickyValues) : Bool :=
  match sticky_value.bind (·.config_delegate) with
  | none => layer_is_active
  | some config_delegate =>
    match specs_data.dynamic_configs.get config_delegate with
    | some delegate => delegate.is_active.getD layer_is_active
    | none => layer_is_active

/-- Without a sticky value the layer's own flag counts. -/
@[simp] theorem sticky_aware_none (layer_is_active : Bool) (specs_data : SpecsResponseFull) :
    get_sticky_aware_is_experiment_active layer_is_active specs_data none = layer_is_active := rfl

/-! ## New sticky values -/

def make_sticky_value_from_experiment (experiment : Experiment) : Option StickyValues :=
  experiment.evaluation.map fun evaluation =>
    { value := true
      json_value := some evaluation.value
      rule_id := some evaluation.base.rule_id.text
      group_name := evaluation.group_name
      secondary_exposures := evaluation.base.secondary_exposures
      undelegated_secondary_exposures := evaluation.undelegated_secondary_exposures
      config_delegate := none
      explicit_parameters := evaluation.explicit_parameters
      time := experiment.details.lcut
      config_version := evaluation.base.exposure_info.bind (·.version) }

def make_sticky_value_from_layer (layer : Layer) : Option StickyValues :=
  layer.evaluation.map fun evaluation =>
    { value := true
      json_value := some evaluation.value
      rule_id := some evaluation.base.rule_id.text
      group_name := evaluation.group_name
      secondary_exposures := evaluation.base.secondary_exposures
      undelegated_secondary_exposures := evaluation.undelegated_secondary_exposures
      config_delegate := evaluation.allocated_experiment_name
      explicit_parameters := some evaluation.explicit_parameters
      time := layer.details.lcut
      config_version := evaluation.base.exposure_info.bind (·.version) }

def make_sticky_value_from_evaluation_result (result : EvaluatorResult) (lcut : Option Nat) :
    StickyValues where
  value := result.bool_value
  json_value := result.json_value
  rule_id := result.rule_id
  group_name := result.group_name
  secondary_exposures := result.secondary_exposures
  undelegated_secondary_exposures := result.undelegated_secondary_exposures
  config_delegate := result.config_delegate
  explicit_parameters := result.explicit_parameters
  time := lcut
  config_version := result.version

/-! ## Objects from sticky values -/

section FromSticky

variable (now : Nat)

def make_evaluation_details_from_sticky_value (sticky_value : StickyValues) :
    EvaluationDetails where
  reason := "Persisted"
  lcut := sticky_value.time
  received_at := some now
  version := sticky_value.config_version

def prep_sticky_rule_id (sticky_value : StickyValues) : Interned :=
  match sticky_value.rule_id with
  | some rule_id => .stored rule_id
  | none => .empty

@[simp] theorem prep_sticky_rule_id_text (sticky_value : StickyValues) :
    (prep_sticky_rule_id sticky_value).text = sticky_value.rule_id.getD "" := by
  unfold prep_sticky_rule_id
  cases sticky_value.rule_id <;> rfl

def sticky_json (sticky_value : StickyValues) : HashMap String JsonValue :=
  (sticky_value.json_value.bind (·.get_json)).getD []

def sticky_value_to_experiment_evaluation (curr_experiment : Experiment)
    (sticky_value : StickyValues) : ExperimentEvaluation where
  base :=
    { name := .from_str_ref curr_experiment.name
      rule_id := prep_sticky_rule_id sticky_value
      secondary_exposures := sticky_value.secondary_exposures
      exposure_info := curr_experiment.evaluation.bind (·.base.exposure_info) }
  id_type := some curr_experiment.id_type
  value := sticky_value.json_value.getD DynamicReturnable.empty
  is_device_based := curr_experiment.evaluation.any (·.is_device_based)
  is_in_layer := curr_experiment.evaluation.any (·.is_in_layer)
  explicit_parameters := sticky_value.explicit_parameters
  group_name := sticky_value.group_name
  is_experiment_active := some true
  is_user_in_experiment := some true
  undelegated_secondary_exposures := sticky_value.undelegated_secondary_exposures

def make_experiment_from_sticky_value (curr_experiment : Experiment)
    (sticky_value : StickyValues) : Experiment where
  name := curr_experiment.name
  value := sticky_json sticky_value
  rule_id := (prep_sticky_rule_id sticky_value).text
  id_type := curr_experiment.id_type
  group_name := sticky_value.group_name
  details := make_evaluation_details_from_sticky_value now sticky_value
  is_experiment_active := true
  evaluation := some (sticky_value_to_experiment_evaluation curr_experiment sticky_value)

def get_current_layer_exposure_info (curr_layer : Layer) : Option ExtraExposureInfo :=
  (curr_layer.evaluation.bind (·.base.exposure_info)).or curr_layer.exposure_info

def sticky_value_to_layer_evaluation (curr_layer : Layer) (sticky_value : StickyValues) :
    LayerEvaluation where
  base :=
    { name := .from_str_ref curr_layer.name
      rule_id := prep_sticky_rule_id sticky_value
      secondary_exposures := sticky_value.secondary_exposures
      exposure_info := get_current_layer_exposure_info curr_layer }
  value := sticky_value.json_value.getD DynamicReturnable.empty
  id_type := some curr_layer.id_type
  is_device_based := curr_layer.evaluation.any (·.is_device_based)
  group_name := sticky_value.group_name
  is_experiment_active := some true
  is_user_in_experiment := some true
  allocated_experiment_name := sticky_value.config_delegate
  explicit_parameters := sticky_value.explicit_parameters.getD []
  undelegated_secondary_exposures := sticky_value.undelegated_secondary_exposures
  parameter_rule_ids := none

def make_layer_from_sticky_value (curr_layer : Layer) (sticky_value : StickyValues) : Layer where
  name := curr_layer.name
  rule_id := (prep_sticky_rule_id sticky_value).text
  id_type := curr_layer.id_type
  group_name := sticky_value.group_name
  details := make_evaluation_details_from_sticky_value now sticky_value
  allocated_experiment_name := sticky_value.config_delegate
  is_experiment_active := true
  parameter_rule_ids := none
  evaluation := some (sticky_value_to_layer_evaluation curr_layer sticky_value)
  value := sticky_json sticky_value
  user := curr_layer.user
  disable_exposure := curr_layer.disable_exposure
  version := sticky_value.config_version
  exposure_info := get_current_layer_exposure_info curr_layer
  event_logger_ptr := curr_layer.event_logger_ptr

end FromSticky

def make_evaluation_result_from_sticky_value (curr_result : EvaluatorResult)
    (sticky_value : StickyValues) : EvaluatorResult where
  name := curr_result.name
  id_type := curr_result.id_type
  bool_value := sticky_value.value
  rule_id := sticky_value.rule_id
  group_name := sticky_value.group_name
  json_value := sticky_value.json_value
  version := sticky_value.config_version
  config_delegate := sticky_value.config_delegate
  explicit_parameters := sticky_value.explicit_parameters
  secondary_exposures := sticky_value.secondary_exposures
  undelegated_secondary_exposures := sticky_value.undelegated_secondary_exposures
  is_experiment_active := true
  is_experiment_group := true
  sampling_rate := curr_result.sampling_rate
  forward_all_exposures := curr_result.forward_all_exposures
  override_config_name := curr_result.override_config_name
  has_seen_analytical_gates := curr_result.has_seen_analytical_gates

/-! ## The four paths -/

section Paths

variable (to_lowercase : String → String) (now : Nat) (user : StatsigUserInternal)

def try_apply_sticky_value_to_experiment_impl (options : ExperimentEvaluationOptions)
    (curr_experiment : Experiment) (reeval : StickyReeval) : Experiment × Option StorageOp :=
  match get_persistent_storage_key to_lowercase user curr_experiment.id_type with
  | none => (curr_experiment, none)
  | some storage_key =>
    let config_name := curr_experiment.name
    if options.user_persisted_values.isNone || !curr_experiment.is_experiment_active then
      (curr_experiment, some (.delete storage_key config_name))
    else
      match options.user_persisted_values.bind (·.get config_name) with
      | some found =>
        if keep_sticky options config_name reeval then
          (make_experiment_from_sticky_value now curr_experiment found, none)
        else (curr_experiment, none)
      | none =>
        let is_in_experiment :=
          (curr_experiment.evaluation.bind (·.is_user_in_experiment)).getD false
        if is_in_experiment && curr_experiment.is_experiment_active then
          (curr_experiment,
            (make_sticky_value_from_experiment curr_experiment).map (.save storage_key config_name))
        else (curr_experiment, none)

def try_apply_sticky_value_to_layer_impl (options : LayerEvaluationOptions)
    (specs_data : SpecsResponseFull) (curr_layer : Layer) (reeval : StickyReeval) :
    Layer × Option StorageOp :=
  let config_name := curr_layer.name
  match get_persistent_storage_key to_lowercase user curr_layer.id_type with
  | none => (curr_layer, none)
  | some storage_key =>
    let sticky_value := options.user_persisted_values.bind (·.get config_name)
    let is_experiment_active := get_sticky_aware_is_experiment_active
      curr_layer.is_experiment_active specs_data sticky_value
    if options.user_persisted_values.isNone || !is_experiment_active then
      (curr_layer, some (.delete storage_key config_name))
    else
      match sticky_value with
      | some found =>
        if !layer_should_return_sticky_value options found reeval then (curr_layer, none)
        else (make_layer_from_sticky_value now curr_layer found, none)
      | none =>
        let is_in_experiment := (curr_layer.evaluation.bind (·.is_user_in_experiment)).getD false
        if is_in_experiment && is_experiment_active then
          (curr_layer,
            (make_sticky_value_from_layer curr_layer).map (.save storage_key config_name))
        else (curr_layer, none)

def try_apply_sticky_value_to_raw_experiment_impl (options : ExperimentEvaluationOptions)
    (curr_details : EvaluationDetails) (curr_result : EvaluatorResult) (reeval : StickyReeval) :
    (EvaluatorResult × EvaluationDetails) × Option StorageOp :=
  match curr_result.id_type, curr_result.name with
  | some id_type, some config_name =>
    match get_persistent_storage_key to_lowercase user id_type with
    | none => ((curr_result, curr_details), none)
    | some storage_key =>
      if options.user_persisted_values.isNone || !curr_result.is_experiment_active then
        ((curr_result, curr_details), some (.delete storage_key config_name))
      else
        match options.user_persisted_values.bind (·.get config_name) with
        | some found =>
          if keep_sticky options config_name reeval then
            ((make_evaluation_result_from_sticky_value curr_result found,
              make_evaluation_details_from_sticky_value now found), none)
          else ((curr_result, curr_details), none)
        | none =>
          if curr_result.is_experiment_active && curr_result.is_experiment_group then
            ((curr_result, curr_details), some (.save storage_key config_name
              (make_sticky_value_from_evaluation_result curr_result curr_details.lcut)))
          else ((curr_result, curr_details), none)
  | _, _ => ((curr_result, curr_details), none)

def try_apply_sticky_value_to_raw_layer_impl (options : LayerEvaluationOptions)
    (specs_data : SpecsResponseFull) (curr_details : EvaluationDetails)
    (curr_result : EvaluatorResult) (reeval : StickyReeval) :
    (EvaluatorResult × EvaluationDetails) × Option StorageOp :=
  match curr_result.id_type, curr_result.name with
  | some id_type, some config_name =>
    match get_persistent_storage_key to_lowercase user id_type with
    | none => ((curr_result, curr_details), none)
    | some storage_key =>
      let sticky_value := options.user_persisted_values.bind (·.get config_name)
      let is_experiment_active := get_sticky_aware_is_experiment_active
        curr_result.is_experiment_active specs_data sticky_value
      if options.user_persisted_values.isNone || !is_experiment_active then
        ((curr_result, curr_details), some (.delete storage_key config_name))
      else
        match sticky_value with
        | some found =>
          if !layer_should_return_sticky_value options found reeval then
            ((curr_result, curr_details), none)
          else
            ((make_evaluation_result_from_sticky_value curr_result found,
              make_evaluation_details_from_sticky_value now found), none)
        | none =>
          if curr_result.is_experiment_active && curr_result.is_experiment_group then
            ((curr_result, curr_details), some (.save storage_key config_name
              (make_sticky_value_from_evaluation_result curr_result curr_details.lcut)))
          else ((curr_result, curr_details), none)
  | _, _ => ((curr_result, curr_details), none)

/-- The public functions: without a manager nothing is applied. -/
def try_apply_sticky_value_to_experiment (manager : Bool) (options : ExperimentEvaluationOptions)
    (curr_experiment : Experiment) (reeval : StickyReeval) : Experiment × Option StorageOp :=
  if !manager then (curr_experiment, none)
  else
    try_apply_sticky_value_to_experiment_impl to_lowercase now user options curr_experiment reeval

def try_apply_sticky_value_to_layer (manager : Bool) (options : LayerEvaluationOptions)
    (specs_data : SpecsResponseFull) (curr_layer : Layer) (reeval : StickyReeval) :
    Layer × Option StorageOp :=
  if !manager then (curr_layer, none)
  else
    try_apply_sticky_value_to_layer_impl to_lowercase now user options specs_data curr_layer reeval

def try_apply_sticky_value_to_raw_experiment (manager : Bool)
    (options : ExperimentEvaluationOptions) (details : EvaluationDetails)
    (result : Option EvaluatorResult) (reeval : StickyReeval) :
    (Option EvaluatorResult × EvaluationDetails) × Option StorageOp :=
  match result with
  | none => ((none, details), none)
  | some result =>
    if !manager then ((some result, details), none)
    else
      let ((result, details), op) := try_apply_sticky_value_to_raw_experiment_impl to_lowercase now
        user options details result reeval
      ((some result, details), op)

def try_apply_sticky_value_to_raw_layer (manager : Bool) (options : LayerEvaluationOptions)
    (specs_data : SpecsResponseFull) (details : EvaluationDetails)
    (result : Option EvaluatorResult) (reeval : StickyReeval) :
    (Option EvaluatorResult × EvaluationDetails) × Option StorageOp :=
  match result with
  | none => ((none, details), none)
  | some result =>
    if !manager then ((some result, details), none)
    else
      let ((result, details), op) := try_apply_sticky_value_to_raw_layer_impl to_lowercase now user
        options specs_data details result reeval
      ((some result, details), op)

end Paths

end statsig_rust.persistent_storage
