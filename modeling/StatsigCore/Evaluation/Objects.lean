-- The objects that a caller is given: the typed ones (`statsig_types.rs`, made by
-- `statsig_type_factories.rs`) and the raw ones that cross the FFI
-- (`statsig_types_raw.rs`), with the functions of `statsig.rs` that evaluate a
-- spec for them.
import StatsigCore.Evaluation.EvaluationTypes

namespace statsig_rust

open evaluation

/-! ## Typed objects -/

structure FeatureGate where
  name : String
  value : Bool
  rule_id : String
  id_type : String
  details : EvaluationDetails
  evaluation : Option GateEvaluation

structure DynamicConfig where
  name : String
  value : HashMap String JsonValue
  rule_id : String
  id_type : String
  details : EvaluationDetails
  evaluation : Option DynamicConfigEvaluation

structure Experiment where
  name : String
  value : HashMap String JsonValue
  rule_id : String
  id_type : String
  group_name : Option String
  details : EvaluationDetails
  is_experiment_active : Bool
  evaluation : Option ExperimentEvaluation

/-- The user of a layer is the loggable part of the user that it was evaluated
for. `event_logger_ptr` says whether the layer knows its logger. -/
structure Layer where
  name : String
  rule_id : String
  id_type : String
  group_name : Option String
  details : EvaluationDetails
  allocated_experiment_name : Option String
  is_experiment_active : Bool
  parameter_rule_ids : Option (HashMap InternedString InternedString)
  evaluation : Option LayerEvaluation
  value : HashMap String JsonValue
  user : UserData
  disable_exposure : Bool
  version : Option Nat
  exposure_info : Option ExtraExposureInfo
  event_logger_ptr : Bool

/-- The JSON object of a returned value, or an empty one. -/
def json_or_default (value : DynamicReturnable) : HashMap String JsonValue := value.get_json.getD []

def make_feature_gate (name : String) (evaluation : Option GateEvaluation)
    (details : EvaluationDetails) : FeatureGate where
  name := name
  value := match evaluation with
    | some e => e.value
    | none => false
  rule_id := match evaluation with
    | some e => e.base.rule_id.text
    | none => default_rule_id
  id_type := (evaluation.bind (·.id_type)).getD ""
  details := details
  evaluation := evaluation

def make_dynamic_config (name : String) (evaluation : Option DynamicConfigEvaluation)
    (details : EvaluationDetails) : DynamicConfig where
  name := name
  value := match evaluation with
    | some e => json_or_default e.value
    | none => []
  rule_id := match evaluation with
    | some e => e.base.rule_id.text
    | none => default_rule_id
  id_type := (evaluation.bind (·.id_type)).getD ""
  details := details
  evaluation := evaluation

def make_experiment (name : String) (evaluation : Option ExperimentEvaluation)
    (details : EvaluationDetails) : Experiment where
  name := name
  value := match evaluation with
    | some e => json_or_default e.value
    | none => []
  rule_id := match evaluation with
    | some e => e.base.rule_id.text
    | none => default_rule_id
  id_type := (evaluation.bind (·.id_type)).getD ""
  group_name := evaluation.bind (·.group_name)
  details := details
  is_experiment_active := (evaluation.bind (·.is_experiment_active)).getD false
  evaluation := evaluation

def make_layer (user : UserData) (name : String) (evaluation : Option LayerEvaluation)
    (details : EvaluationDetails) (event_logger_ptr disable_exposure : Bool) : Layer where
  name := name
  rule_id := match evaluation with
    | some e => e.base.rule_id.text
    | none => default_rule_id
  id_type := (evaluation.bind (·.id_type)).getD ""
  group_name := evaluation.bind (·.group_name)
  details := details
  allocated_experiment_name := evaluation.bind (·.allocated_experiment_name)
  is_experiment_active := (evaluation.bind (·.is_experiment_active)).getD false
  parameter_rule_ids := evaluation.bind (·.parameter_rule_ids)
  evaluation := evaluation
  value := match evaluation with
    | some e => json_or_default e.value
    | none => []
  user := user
  disable_exposure := disable_exposure
  version := (evaluation.bind (·.base.exposure_info)).bind (·.version)
  exposure_info := evaluation.bind (·.base.exposure_info)
  event_logger_ptr := event_logger_ptr

/-! ## Raw objects -/

structure SuffixedRuleId where
  rule_id : InternedString
  rule_id_suffix : Option String

/-- `Display`, and with it what is serialized. -/
def SuffixedRuleId.unperformant_to_string (id : SuffixedRuleId) : String :=
  match id.rule_id_suffix with
  | some suffix => id.rule_id ++ ":" ++ suffix
  | none => id.rule_id

def create_raw_suffixed_rule_id (result : EvaluatorResult) : SuffixedRuleId where
  rule_id := result.rule_id.getD ""
  rule_id_suffix := result.rule_id_suffix

@[simp] theorem raw_suffixed_rule_id_text (result : EvaluatorResult) :
    (create_raw_suffixed_rule_id result).unperformant_to_string =
      suffixed result.rule_id result.rule_id_suffix := by
  unfold SuffixedRuleId.unperformant_to_string create_raw_suffixed_rule_id suffixed
  cases result.rule_id_suffix <;> rfl

structure FeatureGateRaw where
  name : String
  value : Bool := false
  rule_id : SuffixedRuleId := ⟨"", none⟩
  id_type : Option InternedString := none
  details : EvaluationDetails

structure DynamicConfigRaw where
  name : String
  value : Option DynamicReturnable := none
  rule_id : SuffixedRuleId := ⟨"", none⟩
  id_type : Option InternedString := none
  details : EvaluationDetails

structure ExperimentRaw where
  name : String
  value : Option DynamicReturnable := none
  rule_id : SuffixedRuleId := ⟨"", none⟩
  id_type : Option InternedString := none
  group_name : Option InternedString := none
  is_experiment_active : Option Bool := none
  details : EvaluationDetails
  secondary_exposures : Option (List SecondaryExposure) := none

structure LayerRaw where
  name : String
  value : Option DynamicReturnable := none
  rule_id : SuffixedRuleId := ⟨"", none⟩
  id_type : Option InternedString := none
  group_name : Option InternedString := none
  is_experiment_active : Option Bool := none
  details : EvaluationDetails
  allocated_experiment_name : Option InternedString := none
  disable_exposure : Bool := false
  user : UserData := {}
  secondary_exposures : Option (List SecondaryExposure) := none
  undelegated_secondary_exposures : Option (List SecondaryExposure) := none
  explicit_parameters : Option (List InternedString) := none
  parameter_rule_ids : Option (HashMap InternedString InternedString) := none
  exposure_info : Option ExtraExposureInfo := none

def result_to_gate_raw (gate_name : String) (eval_details : EvaluationDetails)
    (result : Option EvaluatorResult) : FeatureGateRaw :=
  match result with
  | some result =>
    { name := gate_name
      details := eval_details
      rule_id := create_raw_suffixed_rule_id result
      id_type := result.id_type
      value := result.bool_value }
  | none => { name := gate_name, details := eval_details }

def result_to_dynamic_config_raw (dynamic_config_name : String)
    (eval_details : EvaluationDetails) (result : Option EvaluatorResult) : DynamicConfigRaw :=
  match result with
  | some result =>
    { name := dynamic_config_name
      value := result.json_value
      details := eval_details
      rule_id := create_raw_suffixed_rule_id result
      id_type := result.id_type }
  | none => { name := dynamic_config_name, details := eval_details }

def result_to_experiment_raw (experiment_name : String) (eval_details : EvaluationDetails)
    (result : Option EvaluatorResult) : ExperimentRaw :=
  match result with
  | some result =>
    { name := experiment_name
      value := result.json_value
      details := eval_details
      rule_id := create_raw_suffixed_rule_id result
      id_type := result.id_type
      group_name := result.group_name
      is_experiment_active := some result.is_experiment_active
      secondary_exposures := some result.secondary_exposures }
  | none => { name := experiment_name, details := eval_details }

def result_to_layer_raw (user : UserData) (layer_name : String) (disable_exposure_logging : Bool)
    (eval_details : EvaluationDetails) (result : Option EvaluatorResult) : LayerRaw :=
  match result with
  | some result =>
    { name := layer_name
      details := eval_details
      rule_id := create_raw_suffixed_rule_id result
      id_type := result.id_type
      group_name := result.group_name
      is_experiment_active := some result.is_experiment_active
      value := result.json_value
      allocated_experiment_name := result.config_delegate
      disable_exposure := disable_exposure_logging
      user := user
      secondary_exposures := some result.secondary_exposures
      undelegated_secondary_exposures := result.undelegated_secondary_exposures
      explicit_parameters := result.explicit_parameters
      parameter_rule_ids := result.parameter_rule_ids
      exposure_info := some (result_to_extra_exposure_info result) }
  | none => { name := layer_name, details := eval_details }

/-- The part of a raw layer that comes back with an exposure. -/
structure PartialLayerRaw where
  name : InternedString
  rule_id : Option InternedString
  id_type : Option InternedString
  group_name : Option InternedString
  details : EvaluationDetails
  allocated_experiment_name : Option InternedString
  disable_exposure : Bool
  user : UserData
  secondary_exposures : Option (List SecondaryExposure)
  undelegated_secondary_exposures : Option (List SecondaryExposure)
  explicit_parameters : Option (List InternedString)
  parameter_rule_ids : Option (HashMap InternedString InternedString)
  exposure_info : Option ExtraExposureInfo

/-- `From<&LayerRaw>`. -/
def PartialLayerRaw.from_raw (raw : LayerRaw) : PartialLayerRaw where
  name := raw.name
  rule_id := some raw.rule_id.unperformant_to_string
  id_type := raw.id_type
  group_name := raw.group_name
  details := raw.details
  allocated_experiment_name := raw.allocated_experiment_name
  disable_exposure := raw.disable_exposure
  user := raw.user
  secondary_exposures := raw.secondary_exposures
  undelegated_secondary_exposures := raw.undelegated_secondary_exposures
  explicit_parameters := raw.explicit_parameters
  parameter_rule_ids := raw.parameter_rule_ids
  exposure_info := raw.exposure_info

/-! ## Evaluating a spec -/

/-- The text of the one error that the evaluator raises. -/
def StatsigErr.to_string : StatsigErr → String
  | .StackOverflowError => "Statsig Evaluation Depth Exceeded"

/-- The end of `evaluate_with_details`. -/
def details_of (data : SpecStoreData) (recognition : Recognition) (result : EvaluatorResult) :
    EvaluationDetails :=
  if recognition = .Unrecognized then .unrecognized data
  else
    match result.override_reason with
    | some reason => .recognized_but_overridden data reason result.version
    | none => .recognized data result

/-- `evaluate_spec_raw` with room for `depth` calls on the stack: `none` when the
evaluation needs more. `data` is what the read lock gives, if it is acquired. -/
def evaluate_spec_raw (env : EvaluatorEnv) (depth : Nat) (data : Option SpecStoreData)
    (spec_name : String) (spec_type : SpecType) :
    Option (EvaluationDetails × Option EvaluatorResult) :=
  match data with
  | none => some (.unrecognized_no_data, none)
  | some data =>
    match evaluate env depth spec_name spec_type {} with
    | .ok recognition ctx => some (details_of data recognition ctx.result, some ctx.result)
    | .err e _ => some (.error (StatsigErr.to_string e), none)
    | .deep => none

/-- `evaluate_spec` runs as `evaluate_spec_raw` does. The typed functions differ
only in what they make of the outcome. -/
def get_gate_evaluation (gate_name : String)
    (outcome : EvaluationDetails × Option EvaluatorResult) :
    EvaluationDetails × Option GateEvaluation :=
  (outcome.1, outcome.2.map (result_to_gate_eval gate_name))

def get_dynamic_config_impl (config_name : String)
    (outcome : EvaluationDetails × Option EvaluatorResult) : DynamicConfig :=
  make_dynamic_config config_name (outcome.2.map (result_to_dynamic_config_eval config_name))
    outcome.1

def get_experiment_impl (experiment_name : String)
    (outcome : EvaluationDetails × Option EvaluatorResult) : Experiment :=
  make_experiment experiment_name
    (outcome.2.map (result_to_experiment_eval experiment_name none)) outcome.1

/-- `get_layer_impl` up to the sticky values. -/
def get_layer_impl (user : UserData) (layer_name : String) (disable_exposure_logging : Bool)
    (outcome : EvaluationDetails × Option EvaluatorResult) : Layer :=
  make_layer user layer_name (outcome.2.map (result_to_layer_eval layer_name)) outcome.1
    outcome.2.isSome disable_exposure_logging

end statsig_rust
