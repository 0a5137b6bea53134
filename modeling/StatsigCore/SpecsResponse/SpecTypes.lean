-- The whole specs response (`specs_response/spec_types.rs` and
-- `specs_response/param_store_types.rs`), with what the evaluator does not read: the
-- checksums, the entity kinds, the parameter stores and the top level fields.
import StatsigCore.Evaluation.SpecTypes

namespace statsig_rust.specs_response

/-- A spec as it is downloaded. `_type`, `fields_used` and the name of a rule are read by
no function of the model. -/
structure Spec extends statsig_rust.Spec where
  checksum : Option InternedString := none
  entity : InternedString := "feature_gate"
  target_app_ids : Option (List InternedString) := none

structure Condition extends statsig_rust.Condition where
  checksum : Option InternedString := none

inductive Parameter where
  | StaticValue (name : Option String) (ref_type param_type : String) (value : JsonValue)
  | Gate (name : Option String) (ref_type param_type gate_name : String)
      (pass_value fail_value : JsonValue)
  | DynamicConfig (name : Option String) (ref_type param_type config_name param_name : String)
  | Experiment (name : Option String) (ref_type param_type experiment_name param_name : String)
  | Layer (name : Option String) (ref_type param_type layer_name param_name : String)

structure ParameterStore where
  parameters : HashMap String Parameter := []
  target_app_ids : Option (List InternedString) := none
  version : Option Nat := none
  checksum : Option InternedString := none

structure SessionReplayTrigger where
  sampling_rate : Option F64 := none
  values : Option (List InternedString) := none
  passes_sampling : Option Bool := none

structure SessionReplayPrivacySetting where
  privacy_mode : InternedString
  unmasked_elements : Option (List InternedString) := none
  masked_elements : Option (List InternedString) := none
  blocked_elements : Option (List InternedString) := none

structure SessionReplayInfo where
  sampling_rate : Option F64 := none
  targeting_gate : Option String := none
  recording_blocked : Option Bool := none
  session_recording_event_triggers : Option (HashMap InternedString SessionReplayTrigger) := none
  session_recording_exposure_triggers :
    Option (HashMap InternedString SessionReplayTrigger) := none
  session_recording_privacy_settings : Option SessionReplayPrivacySetting := none

structure AutoCaptureSettings where
  disabled_events : HashMap InternedString Bool

structure GCIRConfig where
  remove_default_value_gates : Bool

/-- A contextual bandit as it is downloaded. -/
structure CMABConfig extends statsig_rust.CMABConfig where
  target_app_ids : Option (List InternedString) := none

/-- The fields that the two response types of the source share. -/
structure SpecsResponsePartial where
  app_id : Option DynamicValue := none
  cmab_configs : Option (HashMap String CMABConfig) := none
  default_environment : Option String := none
  diagnostics : Option (HashMap String F64) := none
  experiment_to_layer : HashMap String String := []
  hashed_sdk_keys_to_app_ids : Option (HashMap String DynamicValue) := none
  id_lists : Option (HashMap String Bool) := none
  override_rules : Option (HashMap String Rule) := none
  overrides : Option (HashMap String (List ConfigMapping)) := none
  sdk_configs : Option (HashMap String DynamicValue) := none
  sdk_flags : Option (HashMap String Bool) := none
  sdk_keys_to_app_ids : Option (HashMap String DynamicValue) := none
  session_replay_info : Option SessionReplayInfo := none
  auto_capture_settings : Option AutoCaptureSettings := none
  gcir_config : Option GCIRConfig := none

structure SpecsResponseFull extends SpecsResponsePartial where
  checksum : Option String := none
  company_id : Option String := none
  condition_map : HashMap InternedString Condition := []
  dynamic_configs : HashMap InternedString Spec := []
  feature_gates : HashMap InternedString Spec := []
  has_updates : Bool := false
  layer_configs : HashMap InternedString Spec := []
  param_stores : Option (HashMap InternedString ParameterStore) := none
  response_format : Option String := none
  time : Nat := 0

namespace SpecsResponseFull

def merge_from_partial (specs : SpecsResponseFull) (rest : SpecsResponsePartial) :
    SpecsResponseFull :=
  { specs with toSpecsResponsePartial := rest }

def is_empty (specs : SpecsResponseFull) : Bool :=
  specs.checksum.isNone
    && specs.feature_gates.isEmpty
    && specs.dynamic_configs.isEmpty
    && specs.layer_configs.isEmpty
    && specs.condition_map.isEmpty
    && specs.time == 0

end SpecsResponseFull

/-- The cases of `StatsigErr` that an update of the specs can end with. -/
inductive StatsigErr where
  | LockFailure (msg : String)
  | JsonParseError (type_name err_msg : String)
  | ProtobufParseError (type_name err_msg : String)
  | ChecksumFailure (msg : String)
  | SerializationError (msg : String)
deriving DecidableEq

end statsig_rust.specs_response
