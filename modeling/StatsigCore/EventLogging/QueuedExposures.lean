-- The exposures that the event logger is asked to log: the operations of
-- `event_logging/event_queue/queued_*_expo.rs` and `queued_expo.rs`, the key that
-- they are deduplicated by (`event_logging/exposure_sampling.rs`) and the event
-- that each becomes. The sampling decision, which only adds to the SDK metadata of
-- an event, is left out.
import Mathlib.Data.List.Dedup
import StatsigCore.Evaluation.Objects

namespace statsig_rust.event_logging

open evaluation

def GATE_EXPOSURE_EVENT_NAME : String := "statsig::gate_exposure"

def CONFIG_EXPOSURE_EVENT_NAME : String := "statsig::config_exposure"

def LAYER_EXPOSURE_EVENT_NAME : String := "statsig::layer_exposure"

inductive ExposureTrigger where
  | Auto | Manual
deriving DecidableEq

/-! ## The sampling key -/

/-- The hash functions behind a key. A string of the store is hashed by its bytes,
which is another function than `ahash_str`. -/
structure Hashing where
  ahash_str : String → UInt64
  hash_bytes : String → UInt64
  hash_one : List UInt64 → UInt64
  hash_value : DynamicValue → UInt64
  to_lowercase : String → String

def Hashing.interned (hashing : Hashing) : Interned → UInt64
  | .empty => 0
  | .stored text => hashing.hash_bytes text

section User

variable (hashing : Hashing) (user : UserData)

def id_hash : Option DynamicValue → UInt64
  | some id => hashing.hash_value id
  | none => 0

def sum_custom_id_hashes : UInt64 :=
  match user.custom_ids with
  | none => 0
  | some custom_ids =>
    ((custom_ids.map Prod.fst).dedup.filterMap custom_ids.get).foldl
      (fun acc value => acc + hashing.hash_value value) 0

def get_unit_id_hash (id_type : String) : UInt64 :=
  -- `eq_ignore_ascii_case`
  if id_type.toLower = "userid" then id_hash hashing user.user_id
  else
    match user.custom_ids with
    | none => 0
    | some custom_ids =>
      id_hash hashing
        ((custom_ids.get id_type).or (custom_ids.get (hashing.to_lowercase id_type)))

def create_exposure_dedupe_user_hash (unit_id_type : Option String) : UInt64 :=
  hashing.hash_one [
    id_hash hashing user.user_id,
    get_unit_id_hash hashing user "stableID",
    match unit_id_type with
    | some id_type => get_unit_id_hash hashing user id_type
    | none => 0,
    sum_custom_id_hashes hashing user]

end User

structure ExposureSamplingKey where
  spec_name_hash : UInt64
  rule_id_hash : UInt64
  user_values_hash : UInt64
  additional_hash : UInt64
deriving DecidableEq

/-- A name or a rule id that is missing counts as the static empty string. -/
def or_empty : Option Interned → Interned
  | some interned => interned
  | none => .empty

@[simp] theorem or_empty_some (interned : Interned) : or_empty (some interned) = interned := rfl

@[simp] theorem or_empty_text (id : Option InternedString) :
    (or_empty (id.map .stored)).text = id.getD "" := by
  cases id <;> rfl

def ExposureSamplingKey.new (hashing : Hashing) (evaluation : Option BaseEvaluation)
    (user : UserData) (additional_hash : UInt64) (unit_id_type : Option String) :
    ExposureSamplingKey where
  spec_name_hash := hashing.interned (or_empty (evaluation.map (·.name)))
  rule_id_hash := hashing.interned (or_empty (evaluation.map (·.rule_id)))
  user_values_hash := create_exposure_dedupe_user_hash hashing user unit_id_type
  additional_hash := additional_hash

/-! ## Events -/

structure StatsigEvent where
  event_name : String
  metadata : HashMap String String
  exposure_time : Nat
  user : UserData
  secondary_exposures : Option (List SecondaryExposure)

def insert_some (key : String) (value : Option String) (metadata : HashMap String String) :
    HashMap String String :=
  match value with
  | some value => metadata.insert key value
  | none => metadata

@[simp] theorem get_insert_some (key other : String) (value : Option String)
    (metadata : HashMap String String) :
    (insert_some key value metadata).get other =
      if other = key then value.or (metadata.get other) else metadata.get other := by
  unfold insert_some
  cases value with
  | none => simp
  | some value =>
    rw [HashMap.get_insert]
    by_cases h : other = key
    · simp [h]
    · simp [h]

def get_metadata_with_details (details : EvaluationDetails) : HashMap String String :=
  HashMap.insert [] "reason" details.reason
    |> insert_some "lcut" (details.lcut.map toString)
    |> insert_some "receivedAt" (details.received_at.map toString)

/-- The entries that every exposure ends with. -/
def insert_common (version : Option Nat) (trigger : ExposureTrigger)
    (override_name : Option String) (metadata : HashMap String String) : HashMap String String :=
  metadata
    |> insert_some "configVersion" (version.map toString)
    |> insert_some "isManualExposure" (if trigger = .Manual then some "true" else none)
    |> insert_some "overrideConfigName" override_name

/-- What an event says about the exposure: the spec is under `gate` or under
`config`. -/
structure Exposure where
  event_name : String
  spec_name : Option String
  rule_id : Option String
  gate_value : Option String := none
  rule_passed : Option String := none
  parameter_name : Option String := none
deriving DecidableEq

def StatsigEvent.exposure (event : StatsigEvent) : Exposure where
  event_name := event.event_name
  spec_name := (event.metadata.get "gate").or (event.metadata.get "config")
  rule_id := event.metadata.get "ruleID"
  gate_value := event.metadata.get "gateValue"
  rule_passed := event.metadata.get "rulePassed"
  parameter_name := event.metadata.get "parameterName"

/-! ## Typed operations -/

structure EnqueueGateExpoOp where
  user : UserData
  queried_gate_name : String
  evaluation : Option GateEvaluation
  details : EvaluationDetails
  trigger : ExposureTrigger
  exposure_time : Nat

namespace EnqueueGateExpoOp

def create_exposure_sampling_key (hashing : Hashing) (op : EnqueueGateExpoOp) :
    ExposureSamplingKey :=
  let value := op.evaluation.any (·.value)
  .new hashing (op.evaluation.map (·.base)) op.user value.toUInt64
    (op.evaluation.bind (·.id_type))

/-- `into_queued_event` and then `into_statsig_event_internal`. Without an
evaluation the gate, too, is reported as an empty string. -/
def into_event (op : EnqueueGateExpoOp) : StatsigEvent :=
  let gate_name := or_empty (op.evaluation.map (·.base.name))
  let rule_id := or_empty (op.evaluation.map (·.base.rule_id))
  let info := op.evaluation.bind (·.base.exposure_info)
  { event_name := GATE_EXPOSURE_EVENT_NAME
    metadata := get_metadata_with_details op.details
      |> (·.insert "gate" gate_name.text)
      |> (·.insert "gateValue" (from_bool (op.evaluation.any (·.value))))
      |> (·.insert "ruleID" rule_id.text)
      |> insert_common (info.bind (·.version)) op.trigger (info.bind (·.override_config_name))
    exposure_time := op.exposure_time
    user := op.user
    secondary_exposures := op.evaluation.map (·.base.secondary_exposures) }

end EnqueueGateExpoOp

structure EnqueueConfigExpoOp where
  user : UserData
  config : DynamicConfig
  trigger : ExposureTrigger
  exposure_time : Nat

namespace EnqueueConfigExpoOp

def create_exposure_sampling_key (hashing : Hashing) (op : EnqueueConfigExpoOp) :
    ExposureSamplingKey :=
  let passed := op.config.evaluation.any (·.passed)
  .new hashing (op.config.evaluation.map (·.base)) op.user passed.toUInt64
    (op.config.evaluation.bind (·.id_type))

def into_event (op : EnqueueConfigExpoOp) : StatsigEvent :=
  let info := op.config.evaluation.bind (·.base.exposure_info)
  { event_name := CONFIG_EXPOSURE_EVENT_NAME
    metadata := get_metadata_with_details op.config.details
      |> (·.insert "config" op.config.name)
      |> (·.insert "ruleID" op.config.rule_id)
      |> insert_some "rulePassed" (op.config.evaluation.map fun e => from_bool e.passed)
      |> insert_common (info.bind (·.version)) op.trigger (info.bind (·.override_config_name))
    exposure_time := op.exposure_time
    user := op.user
    secondary_exposures :=
      some ((op.config.evaluation.map (·.base.secondary_exposures)).getD []) }

end EnqueueConfigExpoOp

structure EnqueueExperimentExpoOp where
  user : UserData
  experiment : Experiment
  trigger : ExposureTrigger
  exposure_time : Nat

namespace EnqueueExperimentExpoOp

def create_exposure_sampling_key (hashing : Hashing) (op : EnqueueExperimentExpoOp) :
    ExposureSamplingKey :=
  let in_experiment := op.experiment.evaluation.any (·.is_user_in_experiment == some true)
  .new hashing (op.experiment.evaluation.map (·.base)) op.user in_experiment.toUInt64
    (some op.experiment.id_type)

def into_event (op : EnqueueExperimentExpoOp) : StatsigEvent :=
  let info := op.experiment.evaluation.bind (·.base.exposure_info)
  { event_name := CONFIG_EXPOSURE_EVENT_NAME
    metadata := get_metadata_with_details op.experiment.details
      |> (·.insert "config" op.experiment.name)
      |> (·.insert "ruleID" op.experiment.rule_id)
      |> insert_common (info.bind (·.version)) op.trigger (info.bind (·.override_config_name))
    exposure_time := op.exposure_time
    user := op.user
    secondary_exposures :=
      some ((op.experiment.evaluation.map (·.base.secondary_exposures)).getD []) }

end EnqueueExperimentExpoOp

/-- `LayerRef` and `LayerOwned` differ in who owns the layer. -/
structure EnqueueLayerParamExpoOp where
  exposure_time : Nat
  layer : Layer
  parameter_name : String
  trigger : ExposureTrigger

namespace EnqueueLayerParamExpoOp

def create_exposure_sampling_key (hashing : Hashing) (op : EnqueueLayerParamExpoOp) :
    ExposureSamplingKey :=
  .new hashing (op.layer.evaluation.map (·.base)) op.layer.user
    (hashing.ahash_str op.parameter_name) (op.layer.evaluation.bind (·.id_type))

/-- The rule id of `extract_from_layer_ref` and `extract_from_layer_owned`. -/
def rule_id (op : EnqueueLayerParamExpoOp) : String :=
  match op.layer.parameter_rule_ids with
  | some rule_ids => (rule_ids.get op.parameter_name).getD op.layer.rule_id
  | none => op.layer.rule_id

def get_layer_exposure_info (layer : Layer) : Option ExtraExposureInfo :=
  (layer.evaluation.bind (·.base.exposure_info)).or layer.exposure_info

def into_event (op : EnqueueLayerParamExpoOp) : StatsigEvent :=
  let is_explicit := op.layer.evaluation.any (op.parameter_name ∈ ·.explicit_parameters)
  let info := op.layer.evaluation.bind fun _ => get_layer_exposure_info op.layer
  -- the version is on the layer or in the exposure info
  let version := match info with
    | some info => info.version
    | none => op.layer.evaluation.bind fun _ => op.layer.version
  let allocated := op.layer.evaluation.bind fun e =>
    if is_explicit then e.allocated_experiment_name else none
  let secondary_exposures := op.layer.evaluation.bind fun e =>
    if is_explicit then some e.base.secondary_exposures else e.undelegated_secondary_exposures
  { event_name := LAYER_EXPOSURE_EVENT_NAME
    metadata := get_metadata_with_details op.layer.details
      |> (·.insert "config" op.layer.name)
      |> (·.insert "ruleID" op.rule_id)
      |> (·.insert "allocatedExperiment" (allocated.getD ""))
      |> (·.insert "parameterName" op.parameter_name)
      |> (·.insert "isExplicitParameter" (from_bool is_explicit))
      |> insert_common version op.trigger (info.bind (·.override_config_name))
    exposure_time := op.exposure_time
    user := op.layer.user
    secondary_exposures := some (secondary_exposures.getD []) }

end EnqueueLayerParamExpoOp

/-! ## Raw and manual operations -/

structure ExposureData where
  event_name : String
  spec_name : Interned
  rule_id : Option Interned := none
  exposure_time : Nat
  trigger : ExposureTrigger
  evaluation_details : EvaluationDetails
  secondary_exposures : Option (List SecondaryExposure) := none
  undelegated_secondary_exposures : Option (List SecondaryExposure) := none
  version : Option Nat := none
  override_spec_name : Option InternedString := none
  gate_value : Option Bool := none
  rule_passed : Option Bool := none
  is_user_in_experiment : Option Bool := none
  parameter_name : Option Interned := none
  explicit_params : Option (List InternedString) := none
  allocated_experiment : Option InternedString := none

structure EnqueueExposureOp where
  user : UserData
  data : ExposureData

/-- The call that one of the four evaluated exposures is made by. -/
structure ExposureCall where
  user : UserData
  spec_name : Interned
  trigger : ExposureTrigger
  details : EvaluationDetails
  result : Option EvaluatorResult
  exposure_time : Nat

namespace EnqueueExposureOp

/-- The rule id is the one of the result, without its suffix. -/
def new (event_name : String) (call : ExposureCall) : EnqueueExposureOp where
  user := call.user
  data :=
    { event_name := event_name
      spec_name := call.spec_name
      rule_id := (call.result.bind (·.rule_id)).map .stored
      exposure_time := call.exposure_time
      trigger := call.trigger
      evaluation_details := call.details
      secondary_exposures := call.result.map (·.secondary_exposures)
      version := call.result.bind (·.version)
      override_spec_name := call.result.bind (·.override_config_name) }

def gate_exposure (call : ExposureCall) : EnqueueExposureOp :=
  let op := new GATE_EXPOSURE_EVENT_NAME call
  { op with data.gate_value := some (call.result.any (·.bool_value)) }

def dynamic_config_exposure (call : ExposureCall) : EnqueueExposureOp :=
  let op := new CONFIG_EXPOSURE_EVENT_NAME call
  { op with data.rule_passed := some (call.result.any (·.bool_value)) }

def experiment_exposure (call : ExposureCall) : EnqueueExposureOp :=
  let op := new CONFIG_EXPOSURE_EVENT_NAME call
  { op with data.is_user_in_experiment := some (call.result.any (·.is_experiment_group)) }

def layer_param_exposure (parameter_name : Interned) (call : ExposureCall) : EnqueueExposureOp :=
  let op := new LAYER_EXPOSURE_EVENT_NAME call
  { op with
    data.parameter_name := some parameter_name
    data.explicit_params := call.result.bind (·.explicit_parameters)
    data.allocated_experiment := call.result.bind (·.config_delegate)
    data.undelegated_secondary_exposures :=
      call.result.bind (·.undelegated_secondary_exposures) }

/-- The rule id of a parameter of a partial raw layer. -/
def partial_raw_rule_id (parameter_name : Interned) (partial_raw : PartialLayerRaw) :
    Option InternedString :=
  (partial_raw.parameter_rule_ids.bind (·.get parameter_name.text)).or partial_raw.rule_id

def layer_param_exposure_from_partial_raw (parameter_name : Interned) (trigger : ExposureTrigger)
    (partial_raw : PartialLayerRaw) (exposure_time : Nat) : EnqueueExposureOp where
  user := partial_raw.user
  data :=
    { event_name := LAYER_EXPOSURE_EVENT_NAME
      spec_name := .stored partial_raw.name
      rule_id := (partial_raw_rule_id parameter_name partial_raw).map .stored
      exposure_time := exposure_time
      trigger := trigger
      evaluation_details := partial_raw.details
      secondary_exposures := partial_raw.secondary_exposures
      undelegated_secondary_exposures := partial_raw.undelegated_secondary_exposures
      version := partial_raw.details.version
      parameter_name := some parameter_name
      explicit_params := partial_raw.explicit_parameters
      allocated_experiment := partial_raw.allocated_experiment_name }

/-- The first field that is set counts. -/
def additional_hash (hashing : Hashing) (data : ExposureData) : UInt64 :=
  match data.gate_value, data.rule_passed, data.is_user_in_experiment, data.parameter_name with
  | some gate_value, _, _, _ => gate_value.toUInt64
  | none, some rule_passed, _, _ => rule_passed.toUInt64
  | none, none, some is_user_in_experiment, _ => is_user_in_experiment.toUInt64
  | none, none, none, some parameter_name => hashing.interned parameter_name
  | none, none, none, none => 0

def create_exposure_sampling_key (hashing : Hashing) (op : EnqueueExposureOp) :
    ExposureSamplingKey where
  spec_name_hash := hashing.interned op.data.spec_name
  rule_id_hash := hashing.interned (or_empty op.data.rule_id)
  user_values_hash := create_exposure_dedupe_user_hash hashing op.user none
  additional_hash := additional_hash hashing op.data

def try_add_gate_fields (data : ExposureData) (metadata : HashMap String String) :
    HashMap String String :=
  if data.event_name ≠ GATE_EXPOSURE_EVENT_NAME then metadata
  else metadata
    |> (·.insert "gate" data.spec_name.text)
    |> (·.insert "gateValue" (from_bool (data.gate_value == some true)))

def try_add_config_fields (data : ExposureData) (metadata : HashMap String String) :
    HashMap String String :=
  if data.event_name ≠ CONFIG_EXPOSURE_EVENT_NAME then metadata
  else metadata
    |> (·.insert "config" data.spec_name.text)
    |> insert_some "rulePassed" (data.rule_passed.map from_bool)

def is_explicit (data : ExposureData) : Bool :=
  data.explicit_params.any ((or_empty data.parameter_name).text ∈ ·)

def try_add_layer_fields (data : ExposureData) (metadata : HashMap String String) :
    HashMap String String :=
  if data.event_name ≠ LAYER_EXPOSURE_EVENT_NAME then metadata
  else metadata
    |> (·.insert "config" data.spec_name.text)
    |> (·.insert "parameterName" (or_empty data.parameter_name).text)
    |> (·.insert "isExplicitParameter" (from_bool (is_explicit data)))
    |> (·.insert "allocatedExperiment"
      (if is_explicit data then data.allocated_experiment.getD "" else ""))

def add_eval_details (details : EvaluationDetails) (metadata : HashMap String String) :
    HashMap String String :=
  metadata
    |> (·.insert "reason" details.reason)
    |> insert_some "lcut" (details.lcut.map toString)
    |> insert_some "receivedAt" (details.received_at.map toString)

def into_event (op : EnqueueExposureOp) : StatsigEvent where
  event_name := op.data.event_name
  metadata := []
    |> try_add_gate_fields op.data
    |> try_add_config_fields op.data
    |> try_add_layer_fields op.data
    |> add_eval_details op.data.evaluation_details
    |> (·.insert "ruleID" (or_empty op.data.rule_id).text)
    |> insert_common op.data.version op.data.trigger op.data.override_spec_name
  exposure_time := op.data.exposure_time
  user := op.user
  secondary_exposures :=
    if op.data.event_name = LAYER_EXPOSURE_EVENT_NAME ∧ is_explicit op.data = false then
      op.data.undelegated_secondary_exposures
    else op.data.secondary_exposures

end EnqueueExposureOp

/-- A secondary exposure that is logged like a gate of its own. -/
structure EnqueueSecondaryExposureAsPrimaryOp where
  user : UserData
  secondary_exposure : InternedExposure
  exposure_time : Nat

def EnqueueSecondaryExposureAsPrimaryOp.create_exposure_sampling_key (hashing : Hashing)
    (op : EnqueueSecondaryExposureAsPrimaryOp) : ExposureSamplingKey where
  spec_name_hash := hashing.interned op.secondary_exposure.gate
  rule_id_hash := hashing.interned op.secondary_exposure.rule_id
  user_values_hash := create_exposure_dedupe_user_hash hashing op.user none
  additional_hash := (op.secondary_exposure.gate_value.text == "true").toUInt64

/-! ## What the events report -/

section Reports

theorem EnqueueGateExpoOp.exposure (op : EnqueueGateExpoOp) : op.into_event.exposure =
    { event_name := GATE_EXPOSURE_EVENT_NAME
      spec_name := some (or_empty (op.evaluation.map (·.base.name))).text
      rule_id := some (or_empty (op.evaluation.map (·.base.rule_id))).text
      gate_value := some (from_bool (op.evaluation.any (·.value))) } := by
  simp [into_event, StatsigEvent.exposure, insert_common, get_metadata_with_details,
    HashMap.get_insert]

theorem EnqueueConfigExpoOp.exposure (op : EnqueueConfigExpoOp) : op.into_event.exposure =
    { event_name := CONFIG_EXPOSURE_EVENT_NAME
      spec_name := some op.config.name
      rule_id := some op.config.rule_id
      rule_passed := op.config.evaluation.map fun e => from_bool e.passed } := by
  simp [into_event, StatsigEvent.exposure, insert_common, get_metadata_with_details,
    HashMap.get_insert]

theorem EnqueueExperimentExpoOp.exposure (op : EnqueueExperimentExpoOp) :
    op.into_event.exposure =
      { event_name := CONFIG_EXPOSURE_EVENT_NAME
        spec_name := some op.experiment.name
        rule_id := some op.experiment.rule_id } := by
  simp [into_event, StatsigEvent.exposure, insert_common, get_metadata_with_details,
    HashMap.get_insert]

theorem EnqueueLayerParamExpoOp.exposure (op : EnqueueLayerParamExpoOp) :
    op.into_event.exposure =
      { event_name := LAYER_EXPOSURE_EVENT_NAME
        spec_name := some op.layer.name
        rule_id := some op.rule_id
        parameter_name := some op.parameter_name } := by
  simp [into_event, StatsigEvent.exposure, insert_common, get_metadata_with_details,
    HashMap.get_insert]

namespace EnqueueExposureOp

/-- A raw or manual event reports the fields that its name stands for. -/
theorem exposure (op : EnqueueExposureOp) : op.into_event.exposure =
    { event_name := op.data.event_name
      spec_name :=
        if op.data.event_name = GATE_EXPOSURE_EVENT_NAME ∨
            op.data.event_name = CONFIG_EXPOSURE_EVENT_NAME ∨
            op.data.event_name = LAYER_EXPOSURE_EVENT_NAME then some op.data.spec_name.text
        else none
      rule_id := some (or_empty op.data.rule_id).text
      gate_value :=
        if op.data.event_name = GATE_EXPOSURE_EVENT_NAME then
          some (from_bool (op.data.gate_value == some true))
        else none
      rule_passed :=
        if op.data.event_name = CONFIG_EXPOSURE_EVENT_NAME then
          op.data.rule_passed.map from_bool
        else none
      parameter_name :=
        if op.data.event_name = LAYER_EXPOSURE_EVENT_NAME then
          some (or_empty op.data.parameter_name).text
        else none } := by
  have hgc : GATE_EXPOSURE_EVENT_NAME ≠ CONFIG_EXPOSURE_EVENT_NAME := by decide
  have hgl : GATE_EXPOSURE_EVENT_NAME ≠ LAYER_EXPOSURE_EVENT_NAME := by decide
  have hcl : CONFIG_EXPOSURE_EVENT_NAME ≠ LAYER_EXPOSURE_EVENT_NAME := by decide
  simp only [into_event, StatsigEvent.exposure, insert_common, add_eval_details,
    try_add_layer_fields, try_add_config_fields, try_add_gate_fields]
  by_cases hg : op.data.event_name = GATE_EXPOSURE_EVENT_NAME
  · simp [hg, hgc, hgl, HashMap.get_insert]
  · by_cases hc : op.data.event_name = CONFIG_EXPOSURE_EVENT_NAME
    · simp [hc, hgc.symm, hcl, HashMap.get_insert]
    · by_cases hl : op.data.event_name = LAYER_EXPOSURE_EVENT_NAME
      · simp [hl, hgl.symm, hcl.symm, HashMap.get_insert]
      · simp [hg, hc, hl, HashMap.get_insert]

theorem gate_exposure_reports (call : ExposureCall) : (gate_exposure call).into_event.exposure =
    { event_name := GATE_EXPOSURE_EVENT_NAME
      spec_name := some call.spec_name.text
      rule_id := some ((call.result.bind (·.rule_id)).getD "")
      gate_value := some (from_bool (call.result.any (·.bool_value))) } := by
  have hvalue : ((gate_exposure call).data.gate_value == some true) =
      call.result.any (·.bool_value) := by simp [gate_exposure]
  rw [exposure, hvalue, ← or_empty_text]
  rfl

theorem dynamic_config_exposure_reports (call : ExposureCall) :
    (dynamic_config_exposure call).into_event.exposure =
      { event_name := CONFIG_EXPOSURE_EVENT_NAME
        spec_name := some call.spec_name.text
        rule_id := some ((call.result.bind (·.rule_id)).getD "")
        rule_passed := some (from_bool (call.result.any (·.bool_value))) } := by
  rw [exposure, ← or_empty_text]
  rfl

theorem experiment_exposure_reports (call : ExposureCall) :
    (experiment_exposure call).into_event.exposure =
      { event_name := CONFIG_EXPOSURE_EVENT_NAME
        spec_name := some call.spec_name.text
        rule_id := some ((call.result.bind (·.rule_id)).getD "") } := by
  rw [exposure, ← or_empty_text]
  rfl

theorem layer_param_exposure_reports (parameter_name : Interned) (call : ExposureCall) :
    (layer_param_exposure parameter_name call).into_event.exposure =
      { event_name := LAYER_EXPOSURE_EVENT_NAME
        spec_name := some call.spec_name.text
        rule_id := some ((call.result.bind (·.rule_id)).getD "")
        parameter_name := some parameter_name.text } := by
  rw [exposure, ← or_empty_text]
  rfl

theorem partial_raw_exposure_reports (parameter_name : Interned) (trigger : ExposureTrigger)
    (partial_raw : PartialLayerRaw) (exposure_time : Nat) :
    (layer_param_exposure_from_partial_raw parameter_name trigger partial_raw
      exposure_time).into_event.exposure =
      { event_name := LAYER_EXPOSURE_EVENT_NAME
        spec_name := some partial_raw.name
        rule_id := some ((partial_raw_rule_id parameter_name partial_raw).getD "")
        parameter_name := some parameter_name.text } := by
  rw [exposure, ← or_empty_text]
  rfl

end EnqueueExposureOp

end Reports

end statsig_rust.event_logging
