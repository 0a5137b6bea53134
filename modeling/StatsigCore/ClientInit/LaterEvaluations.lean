-- The typed evaluations of the two later response formats (`evaluation/evaluation_types_v2.rs`,
-- `evaluation/evaluation_types_initialize_v2.rs`), and how `evaluation/evaluator_result.rs` makes
-- them. Format v2 lists an exposure by the Djb2 hash of its text. Format init_v2 lists exposures
-- and values by ids, and the ids come from tables that the whole response shares.
import StatsigCore.ClientInit.ClientInitTypes

namespace statsig_rust

namespace evaluation

open gcir

/-! ## The interned store -/

/-- `DynamicReturnable` with its hash. -/
structure InternedReturnable where
  hash : Nat
  value : DynamicReturnable

namespace InternedReturnable

def empty : InternedReturnable := ⟨0, .null⟩

def from_bool (value : Bool) : InternedReturnable := ⟨0, .bool value⟩

end InternedReturnable

/-- The store of the values: the hash of a raw text, and the object that the text is parsed
to. A text that is no object gives the empty one. -/
structure InternedStore where
  hash_one : String → Nat
  parse : String → HashMap String JsonValue

def InternedStore.get_or_intern_returnable (store : InternedStore) (raw_string : String) :
    InternedReturnable :=
  if raw_string = "true" then .from_bool true
  else if raw_string = "false" then .from_bool false
  else if raw_string = "null" then .empty
  else ⟨store.hash_one raw_string, .json (store.parse raw_string)⟩

/-- A result of the evaluator with the hashes that its exposures and its value carry. -/
structure InternedResult where
  result : EvaluatorResult
  exposures : List InternedExposure
  undelegated : Option (List InternedExposure)
  json_value : Option InternedReturnable
  exposures_eq : exposures.map InternedExposure.texts = result.secondary_exposures
  undelegated_eq : undelegated.map (·.map InternedExposure.texts) =
    result.undelegated_secondary_exposures
  value_eq : json_value.map (·.value) = result.json_value

/-! ## Format v2 -/

structure BaseEvaluationV2 where
  name : String
  rule_id : Interned
  secondary_exposures : List String

structure GateEvaluationV2 where
  base : BaseEvaluationV2
  id_type : Option InternedString
  value : Bool

structure DynamicConfigEvaluationV2 where
  base : BaseEvaluationV2
  id_type : Option InternedString
  value : DynamicReturnable
  is_device_based : Bool
  passed : Bool

structure ExperimentEvaluationV2 where
  base : BaseEvaluationV2
  id_type : Option InternedString
  value : DynamicReturnable
  is_device_based : Bool
  is_in_layer : Bool
  explicit_parameters : Option (List InternedString)
  group_name : Option InternedString
  is_experiment_active : Option Bool
  is_user_in_experiment : Option Bool
  undelegated_secondary_exposures : Option (List SecondaryExposure)

inductive AnyConfigEvaluationV2 where
  | DynamicConfig (eval : DynamicConfigEvaluationV2)
  | Experiment (eval : ExperimentEvaluationV2)

structure LayerEvaluationV2 where
  base : BaseEvaluationV2
  value : DynamicReturnable
  id_type : Option InternedString
  is_device_based : Bool
  group_name : Option InternedString
  is_experiment_active : Option Bool
  is_user_in_experiment : Option Bool
  allocated_experiment_name : Option InternedString
  explicit_parameters : List InternedString
  undelegated_secondary_exposures : Option (List InternedString)

/-- The text of an exposure that its key is the hash of. -/
def exposure_text (exposure : SecondaryExposure) : String :=
  exposure.gate ++ ":" ++ exposure.gate_value ++ ":" ++ exposure.rule_id

/-- The key that an evaluation lists an exposure by. -/
def exposure_key (hashing : HashUtil) (exposure : SecondaryExposure) : String :=
  hashing.hash (exposure_text exposure) .Djb2

def result_to_base_eval_v2 (hashing : HashUtil) (spec_name : String) (result : EvaluatorResult) :
    BaseEvaluationV2 where
  name := spec_name
  rule_id := create_suffixed_rule_id result.rule_id result.rule_id_suffix
  secondary_exposures := result.secondary_exposures.map (exposure_key hashing)

def result_to_gate_eval_v2 (hashing : HashUtil) (gate_name : String) (result : EvaluatorResult) :
    GateEvaluationV2 where
  base := result_to_base_eval_v2 hashing gate_name result
  id_type := result.id_type
  value := result.bool_value

def result_to_dynamic_config_eval_v2 (hashing : HashUtil) (dynamic_config_name : String)
    (result : EvaluatorResult) : DynamicConfigEvaluationV2 where
  base := result_to_base_eval_v2 hashing dynamic_config_name result
  id_type := some (get_id_type_info result.id_type).1
  value := get_json_value result
  is_device_based := (get_id_type_info result.id_type).2
  passed := result.bool_value

/-- Here no entity does not count as an experiment. -/
def result_to_experiment_eval_v2 (hashing : HashUtil) (experiment_name : String)
    (spec_entity : Option String) (result : EvaluatorResult) : ExperimentEvaluationV2 :=
  let is_experiment := spec_entity.any (· == "experiment")
  { base := result_to_base_eval_v2 hashing experiment_name result
    id_type := some (get_id_type_info result.id_type).1
    value := get_json_value result
    is_device_based := (get_id_type_info result.id_type).2
    is_in_layer := result.is_in_layer
    explicit_parameters := result.explicit_parameters
    group_name := result.group_name
    is_experiment_active := if is_experiment then some result.is_experiment_active else none
    is_user_in_experiment := if is_experiment then some result.is_experiment_group else none
    undelegated_secondary_exposures := result.undelegated_secondary_exposures }

def result_to_layer_eval_v2 (hashing : HashUtil) (layer_name : String) (result : EvaluatorResult) :
    LayerEvaluationV2 :=
  let allocated := result.config_delegate.filter (· ≠ "")
  { base := result_to_base_eval_v2 hashing layer_name result
    value := get_json_value result
    id_type := some (get_id_type_info result.id_type).1
    is_device_based := (get_id_type_info result.id_type).2
    group_name := result.group_name
    is_experiment_active := allocated.map fun _ => result.is_experiment_active
    is_user_in_experiment := allocated.map fun _ => result.is_experiment_group
    allocated_experiment_name := allocated
    explicit_parameters := result.explicit_parameters.getD []
    undelegated_secondary_exposures := some
      ((result.undelegated_secondary_exposures.getD []).map (exposure_key hashing)) }

/-! ## Format init_v2 -/

structure SecondaryExposureKey where
  gate_name_hash : Nat
  rule_id_hash : Nat
  gate_value_hash : Nat
deriving DecidableEq

def SecondaryExposureKey.from_exposure (hasher : Hasher) (val : InternedExposure) :
    SecondaryExposureKey where
  gate_name_hash := hasher.hash_of val.gate
  rule_id_hash := hasher.hash_of val.rule_id
  gate_value_hash := hasher.hash_of val.gate_value

structure ExposureTables where
  expo_id_to_exposure_map : HashMap InternedString InternedExposure := []
  expo_key_to_expo_id_map : HashMap SecondaryExposureKey InternedString := []

structure ValueTables where
  value_id_to_value_map : HashMap InternedString InternedReturnable := []
  value_key_to_value_id : HashMap Nat InternedString := []

/-- The tables of one response. -/
structure InitTables where
  exposures : ExposureTables := {}
  values : ValueTables := {}

structure BaseEvaluationInitV2 where
  rule_id : Option Interned
  secondary_exposures : Option (List InternedString)

structure GateEvaluationInitV2 where
  base : BaseEvaluationInitV2
  id_type : Option InternedString
  value : Option Bool

structure DynamicConfigEvaluationInitV2 where
  base : BaseEvaluationInitV2
  id_type : Option InternedString
  value : InternedString
  passed : Bool

structure ExperimentEvaluationInitV2 where
  base : BaseEvaluationInitV2
  id_type : Option InternedString
  value : InternedString
  group_name : Option InternedString
  is_experiment_active : Option Bool
  is_user_in_experiment : Option Bool

inductive AnyConfigEvaluationInitV2 where
  | DynamicConfig (eval : DynamicConfigEvaluationInitV2)
  | Experiment (eval : ExperimentEvaluationInitV2)

structure LayerEvaluationInitV2 where
  base : BaseEvaluationInitV2
  value : InternedString
  id_type : Option InternedString
  group_name : Option InternedString
  is_experiment_active : Option Bool
  is_user_in_experiment : Option Bool
  allocated_experiment_name : Option InternedString
  explicit_parameters : Option (List InternedString)
  undelegated_secondary_exposures : Option (List InternedString)

def get_mapped_value (value : Option InternedReturnable) (tables : ValueTables) :
    InternedString × ValueTables :=
  let val := value.getD .empty
  match tables.value_key_to_value_id.get val.hash with
  | some mapped_key => (mapped_key, tables)
  | none =>
    let value_id := toString tables.value_id_to_value_map.len
    (value_id, {
      value_id_to_value_map := tables.value_id_to_value_map.insert value_id val
      value_key_to_value_id := tables.value_key_to_value_id.insert val.hash value_id })

section

variable (hasher : Hasher)

/-- One turn of the loop of `map_exposures`. -/
def map_exposure (exposure : InternedExposure) (tables : ExposureTables) :
    InternedString × ExposureTables :=
  let expo_key := SecondaryExposureKey.from_exposure hasher exposure
  match tables.expo_key_to_expo_id_map.get expo_key with
  | some expo_id => (expo_id, tables)
  | none =>
    let expo_id := toString tables.expo_id_to_exposure_map.len
    (expo_id, {
      expo_id_to_exposure_map := tables.expo_id_to_exposure_map.insert expo_id exposure
      expo_key_to_expo_id_map := tables.expo_key_to_expo_id_map.insert expo_key expo_id })

def map_exposures : List InternedExposure → ExposureTables → List InternedString × ExposureTables
  | [], tables => ([], tables)
  | exposure :: input_exposures, tables =>
    let mapped := map_exposure hasher exposure tables
    let rest := map_exposures input_exposures mapped.2
    (mapped.1 :: rest.1, rest.2)

/-- An empty list is not written. -/
def map_some_exposures (exposures : List InternedExposure) (tables : ExposureTables) :
    Option (List InternedString) × ExposureTables :=
  if exposures.isEmpty then (none, tables)
  else
    let mapped := map_exposures hasher exposures tables
    (some mapped.1, mapped.2)

def result_to_base_eval_init_v2 (result : InternedResult) (tables : ExposureTables) :
    BaseEvaluationInitV2 × ExposureTables :=
  let rule_id := create_suffixed_rule_id result.result.rule_id result.result.rule_id_suffix
  let mapped := map_some_exposures hasher result.exposures tables
  ({ rule_id := if rule_id.text = "default" then none else some rule_id
     secondary_exposures := mapped.1 }, mapped.2)

def result_to_gate_eval_init_v2 (result : InternedResult) (tables : InitTables) :
    GateEvaluationInitV2 × InitTables :=
  let base := result_to_base_eval_init_v2 hasher result tables.exposures
  ({ base := base.1
     id_type := result.result.id_type
     value := if result.result.bool_value then some true else none },
    { tables with exposures := base.2 })

def result_to_dynamic_config_eval_init_v2 (result : InternedResult) (tables : InitTables) :
    DynamicConfigEvaluationInitV2 × InitTables :=
  let mapped_value := get_mapped_value result.json_value tables.values
  let base := result_to_base_eval_init_v2 hasher result tables.exposures
  ({ base := base.1
     id_type := result.result.id_type
     value := mapped_value.1
     passed := result.result.bool_value },
    { exposures := base.2, values := mapped_value.2 })

def result_to_experiment_eval_init_v2 (spec_entity : Option String) (result : InternedResult)
    (tables : InitTables) : ExperimentEvaluationInitV2 × InitTables :=
  let is_experiment := spec_entity.any (· == "experiment")
  let mapped_value := get_mapped_value result.json_value tables.values
  let base := result_to_base_eval_init_v2 hasher result tables.exposures
  ({ base := base.1
     id_type := result.result.id_type
     value := mapped_value.1
     group_name := result.result.group_name
     is_experiment_active := if is_experiment then some result.result.is_experiment_active else none
     is_user_in_experiment :=
       if is_experiment then some result.result.is_experiment_group else none },
    { exposures := base.2, values := mapped_value.2 })

/-- The undelegated exposures are registered before the others. -/
def result_to_layer_eval_init_v2 (result : InternedResult) (tables : InitTables) :
    LayerEvaluationInitV2 × InitTables :=
  let allocated := result.result.config_delegate.filter (· ≠ "")
  let mapped_exposures := map_some_exposures hasher (result.undelegated.getD []) tables.exposures
  let mapped_value := get_mapped_value result.json_value tables.values
  let base := result_to_base_eval_init_v2 hasher result mapped_exposures.2
  ({ base := base.1
     value := mapped_value.1
     id_type := result.result.id_type
     group_name := result.result.group_name
     is_experiment_active := allocated.map fun _ => result.result.is_experiment_active
     is_user_in_experiment := allocated.map fun _ => result.result.is_experiment_group
     allocated_experiment_name := allocated
     explicit_parameters := result.result.explicit_parameters
     undelegated_secondary_exposures := mapped_exposures.1 },
    { exposures := base.2, values := mapped_value.2 })

/-! ## Conversions over shared tables -/

/-- A call of one of the four conversions to init_v2. -/
inductive Conversion where
  | gate (result : InternedResult)
  | dynamic_config (result : InternedResult)
  | experiment (spec_entity : Option String) (result : InternedResult)
  | layer (result : InternedResult)

inductive EvaluationInitV2 where
  | gate (eval : GateEvaluationInitV2)
  | dynamic_config (eval : DynamicConfigEvaluationInitV2)
  | experiment (eval : ExperimentEvaluationInitV2)
  | layer (eval : LayerEvaluationInitV2)

def Conversion.convert : Conversion → InitTables → EvaluationInitV2 × InitTables
  | gate result, tables => (result_to_gate_eval_init_v2 hasher result tables).map .gate id
  | dynamic_config result, tables =>
    (result_to_dynamic_config_eval_init_v2 hasher result tables).map .dynamic_config id
  | experiment spec_entity result, tables =>
    (result_to_experiment_eval_init_v2 hasher spec_entity result tables).map .experiment id
  | layer result, tables => (result_to_layer_eval_init_v2 hasher result tables).map .layer id

/-- The conversions one after the other. -/
def convert_all : List Conversion → InitTables → List EvaluationInitV2 × InitTables
  | [], tables => ([], tables)
  | conversion :: conversions, tables =>
    let converted := conversion.convert hasher tables
    let rest := convert_all conversions converted.2
    (converted.1 :: rest.1, rest.2)

end

end evaluation

end statsig_rust
