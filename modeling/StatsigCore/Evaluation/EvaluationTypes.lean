-- What an evaluation becomes once the evaluator is done with it: the typed
-- evaluations of `evaluation/evaluation_types.rs` and the conversions of
-- `evaluation/evaluator_result.rs`, with the details of
-- `evaluation/evaluation_details.rs`. The `_v2` conversions serve the client
-- initialize response and are not part of this.
import StatsigCore.Evaluation.Evaluator

open program

namespace statsig_rust.evaluation

/-! ## Interned strings with their hash -/

/-- Two interned strings of one text may differ in their hash: the static empty
string has hash 0, and an empty string of the store has the hash of its bytes. -/
inductive Interned where
  | empty
  | stored (text : String)
deriving DecidableEq

namespace Interned

/-- `as_str` and `unperformant_to_string`. -/
def text : Interned → String
  | empty => ""
  | stored s => s

@[simp] theorem text_empty : empty.text = "" := rfl

@[simp] theorem text_stored (s : String) : (stored s).text = s := rfl

/-- `from_str_ref` and `from_string`. -/
def from_str_ref (value : String) : Interned := stored value

/-- `from_str_parts`. -/
def from_str_parts (parts : List String) : Interned := stored (parts.foldl (· ++ ·) "")

end Interned

/-- A secondary exposure with its strings as the store holds them. -/
structure InternedExposure where
  gate : Interned
  gate_value : Interned
  rule_id : Interned

/-- What the strings read. -/
def InternedExposure.texts (exposure : InternedExposure) : SecondaryExposure where
  gate := exposure.gate.text
  gate_value := exposure.gate_value.text
  rule_id := exposure.rule_id.text

/-! ## Evaluation details -/

inductive SpecsSource where
  | Uninitialized | NoValues | Error | Loading | Bootstrap | Adapter (name : String) | Network
deriving DecidableEq

def SpecsSource.to_string : SpecsSource → String
  | Adapter name => "Adapter(" ++ name ++ ")"
  | Uninitialized => "Uninitialized"
  | NoValues => "NoValues"
  | Error => "Error"
  | Loading => "Loading"
  | Network => "Network"
  | Bootstrap => "Bootstrap"

structure EvaluationDetails where
  reason : String
  lcut : Option Nat := none
  received_at : Option Nat := none
  version : Option Nat := none
deriving DecidableEq

/-- The part of the spec store's data that the details are made from. The specs
themselves are in the environment of the evaluation. -/
structure SpecStoreData where
  source : SpecsSource
  time : Nat
  time_received_at : Option Nat

namespace EvaluationDetails

def unrecognized_no_data : EvaluationDetails := { reason := SpecsSource.NoValues.to_string }

def error (sub_reason : String) : EvaluationDetails := { reason := "Error:" ++ sub_reason }

def create_from_data (data : SpecStoreData) (sub_reason : String) (eval_result : EvaluatorResult) :
    EvaluationDetails :=
  if data.source = .Uninitialized ∨ data.source = .NoValues then
    { reason := data.source.to_string, version := eval_result.version }
  else
    { reason := data.source.to_string ++ ":" ++
        if eval_result.unsupported then "Unsupported" else sub_reason
      lcut := some data.time
      received_at := data.time_received_at
      version := eval_result.version }

def unrecognized (data : SpecStoreData) : EvaluationDetails :=
  create_from_data data "Unrecognized" {}

def recognized (data : SpecStoreData) (eval_result : EvaluatorResult) : EvaluationDetails :=
  create_from_data data "Recognized" eval_result

def recognized_but_overridden (data : SpecStoreData) (override_reason : String)
    (version : Option Nat) : EvaluationDetails where
  reason := override_reason ++ ":Recognized"
  lcut := some data.time
  received_at := data.time_received_at
  version := version

end EvaluationDetails

/-! ## Typed evaluations -/

structure ExtraExposureInfo where
  sampling_rate : Option Nat
  forward_all_exposures : Option Bool
  has_seen_analytical_gates : Option Bool
  override_config_name : Option InternedString
  version : Option Nat

structure BaseEvaluation where
  name : Interned
  rule_id : Interned
  secondary_exposures : List SecondaryExposure
  exposure_info : Option ExtraExposureInfo

structure GateEvaluation where
  base : BaseEvaluation
  id_type : Option InternedString
  value : Bool

structure DynamicConfigEvaluation where
  base : BaseEvaluation
  id_type : Option InternedString
  value : DynamicReturnable
  is_device_based : Bool
  passed : Bool

structure ExperimentEvaluation where
  base : BaseEvaluation
  id_type : Option InternedString
  value : DynamicReturnable
  is_device_based : Bool
  is_in_layer : Bool
  explicit_parameters : Option (List InternedString)
  group_name : Option InternedString
  is_experiment_active : Option Bool
  is_user_in_experiment : Option Bool
  undelegated_secondary_exposures : Option (List SecondaryExposure)

structure LayerEvaluation where
  base : BaseEvaluation
  value : DynamicReturnable
  id_type : Option InternedString
  is_device_based : Bool
  group_name : Option InternedString
  is_experiment_active : Option Bool
  is_user_in_experiment : Option Bool
  allocated_experiment_name : Option InternedString
  explicit_parameters : List InternedString
  undelegated_secondary_exposures : Option (List SecondaryExposure)
  parameter_rule_ids : Option (HashMap InternedString InternedString)

/-! ## From the result of the evaluator -/

def create_suffixed_rule_id (rule_id : Option InternedString) (suffix : Option String) :
    Interned :=
  match suffix with
  | some suffix => .from_str_parts [rule_id.getD "", ":", suffix]
  | none =>
    match rule_id with
    | some rule_id => .stored rule_id
    | none => .empty

/-- The hashing of names is for the client initialize response: here the name
is the one asked for. -/
def get_exposure_name_if_not_hashed (possibly_hashed_name : String)
    (exposure_name : Option InternedString) : Interned :=
  let exposure_name := match exposure_name with
    | some name => Interned.stored name
    | none => .empty
  if possibly_hashed_name = exposure_name.text then exposure_name
  else .from_str_ref possibly_hashed_name

def result_to_extra_exposure_info (result : EvaluatorResult) : ExtraExposureInfo where
  sampling_rate := result.sampling_rate
  forward_all_exposures := result.forward_all_exposures
  has_seen_analytical_gates := result.has_seen_analytical_gates
  override_config_name := result.override_config_name
  version := result.version

def result_to_base_eval (spec_name : String) (result : EvaluatorResult) : BaseEvaluation where
  name := get_exposure_name_if_not_hashed spec_name result.name
  rule_id := create_suffixed_rule_id result.rule_id result.rule_id_suffix
  secondary_exposures := result.secondary_exposures
  exposure_info := some (result_to_extra_exposure_info result)

def get_id_type_info (id_type : Option InternedString) : InternedString × Bool :=
  let id_type := id_type.getD ""
  (id_type, id_type == "stableID" || id_type == "stableid")

/-- `DynamicReturnable::empty`. -/
def DynamicReturnable.empty : DynamicReturnable := .null

def get_json_value (result : EvaluatorResult) : DynamicReturnable :=
  result.json_value.getD DynamicReturnable.empty

def result_to_gate_eval (gate_name : String) (result : EvaluatorResult) : GateEvaluation where
  base := result_to_base_eval gate_name result
  id_type := result.id_type
  value := result.bool_value

def result_to_dynamic_config_eval (dynamic_config_name : String) (result : EvaluatorResult) :
    DynamicConfigEvaluation where
  base := result_to_base_eval dynamic_config_name result
  id_type := some (get_id_type_info result.id_type).1
  value := get_json_value result
  is_device_based := (get_id_type_info result.id_type).2
  passed := result.bool_value

/-- The membership flags are for experiments. No entity counts as one. -/
def result_to_experiment_eval (experiment_name : String) (spec_entity : Option String)
    (result : EvaluatorResult) : ExperimentEvaluation :=
  let is_experiment := spec_entity.all (· == "experiment")
  { base := result_to_base_eval experiment_name result
    id_type := some (get_id_type_info result.id_type).1
    value := get_json_value result
    is_device_based := (get_id_type_info result.id_type).2
    is_in_layer := result.is_in_layer
    explicit_parameters := result.explicit_parameters
    group_name := result.group_name
    is_experiment_active := if is_experiment then some result.is_experiment_active else none
    is_user_in_experiment := if is_experiment then some result.is_experiment_group else none
    undelegated_secondary_exposures := result.undelegated_secondary_exposures }

/-- The membership flags of a layer are those of the experiment that it is
allocated to: without a delegate there are none. -/
def result_to_layer_eval (layer_name : String) (result : EvaluatorResult) : LayerEvaluation :=
  let allocated := result.config_delegate.filter (· ≠ "")
  { base := result_to_base_eval layer_name result
    value := get_json_value result
    id_type := some (get_id_type_info result.id_type).1
    is_device_based := (get_id_type_info result.id_type).2
    group_name := result.group_name
    is_experiment_active := allocated.map fun _ => result.is_experiment_active
    is_user_in_experiment := allocated.map fun _ => result.is_experiment_group
    allocated_experiment_name := allocated
    explicit_parameters := result.explicit_parameters.getD []
    undelegated_secondary_exposures := some (result.undelegated_secondary_exposures.getD [])
    parameter_rule_ids := result.parameter_rule_ids }

/-- The rule id with its suffix, as a text. -/
def suffixed (rule_id : Option InternedString) (suffix : Option String) : String :=
  match suffix with
  | some suffix => rule_id.getD "" ++ ":" ++ suffix
  | none => rule_id.getD ""

@[simp] theorem create_suffixed_rule_id_text (rule_id : Option InternedString)
    (suffix : Option String) :
    (create_suffixed_rule_id rule_id suffix).text = suffixed rule_id suffix := by
  unfold create_suffixed_rule_id suffixed
  cases suffix with
  | some s => simp [Interned.from_str_parts]
  | none => cases rule_id <;> rfl

/-- A suffix always shows. -/
theorem suffixed_eq_iff (rule_id : Option InternedString) (suffix : Option String) :
    suffixed rule_id suffix = rule_id.getD "" ↔ suffix = none := by
  unfold suffixed
  cases suffix with
  | none => simp
  | some s =>
    simp only [reduceCtorEq, iff_false]
    intro h
    have hlen := congrArg String.length h
    simp only [String.length_append] at hlen
    have hcolon : (":" : String).length = 1 := by decide
    omega

@[simp] theorem get_exposure_name_text (name : String) (exposure_name : Option InternedString) :
    (get_exposure_name_if_not_hashed name exposure_name).text = name := by
  unfold get_exposure_name_if_not_hashed
  cases exposure_name with
  | none =>
    by_cases h : name = ""
    · simp [h]
    · simp [h, Interned.from_str_ref]
  | some other =>
    by_cases h : name = other
    · simp [h]
    · simp [h, Interned.from_str_ref]

end statsig_rust.evaluation
