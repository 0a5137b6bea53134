-- The events of the queue (`event_logging/event_queue/queued_*.rs`): what each becomes when it is
-- sent, and how its secondary exposures are taken from it (`queued_event.rs`). An exposure keeps
-- its strings as the store holds them, because the sampling asks for their hashes.
import StatsigCore.EventLogging.ExposureSampling

namespace statsig_rust

/-- `user/statsig_user_loggable.rs`. -/
structure StatsigUserLoggable where
  data : UserData
  environment : Option UserDataMap := none
  global_custom : Option (HashMap String DynamicValue) := none

namespace event_logging.event_queue

open evaluation

/-! ## Events as they are sent -/

structure StatsigEvent where
  event_name : String
  value : Option JsonValue
  metadata : Option (HashMap String JsonValue)
  statsig_metadata : Option (HashMap String JsonValue)

structure StatsigEventInternal where
  event_data : StatsigEvent
  user : StatsigUserLoggable
  time : Nat
  secondary_exposures : Option (List InternedExposure)

def string_metadata_to_value_metadata (metadata : HashMap String String) :
    HashMap String JsonValue :=
  metadata.map fun entry => (entry.1, .string entry.2)

def get_statsig_metadata_with_sampling_decision : EvtSamplingDecision → HashMap String JsonValue
  | .Sampled sampling_rate mode was_sampled =>
    HashMap.insert [] "samplingRate" (sampling_rate.elim .null fun rate => .number rate)
      |> (·.insert "samplingMode" (.string (if mode = .On then "on" else "shadow")))
      |> (·.insert "shadowLogged" (.string (if was_sampled then "logged" else "dropped")))
  | _ => []

/-- The list without repetitions that the source makes here is not the one that it returns. -/
def secondary_exposure_keys_to_expos (secondary_exposures : Option (List InternedExposure)) :
    Option (List InternedExposure) := secondary_exposures

def StatsigEventInternal.new (time : Nat) (user : StatsigUserLoggable) (event : StatsigEvent)
    (secondary_exposures : Option (List InternedExposure)) : StatsigEventInternal where
  event_data := event
  user := user
  time := time
  secondary_exposures := secondary_exposure_keys_to_expos secondary_exposures

/-- The event of an exposure, which has no value. -/
def exposure_event (event_name : String) (metadata : HashMap String String)
    (sampling_decision : EvtSamplingDecision) : StatsigEvent where
  event_name := event_name
  value := none
  metadata := some (string_metadata_to_value_metadata metadata)
  statsig_metadata := some (get_statsig_metadata_with_sampling_decision sampling_decision)

/-! ## Typed exposures -/

structure QueuedGateExposureEvent where
  user : StatsigUserLoggable
  gate_name : Interned
  value : Bool
  rule_id : Interned
  secondary_exposures : Option (List InternedExposure)
  evaluation_details : EvaluationDetails
  version : Option Nat
  exposure_trigger : ExposureTrigger
  sampling_decision : EvtSamplingDecision
  override_config_name : Option InternedString
  exposure_time : Nat

/-- Of the typed exposures the one that keeps a missing list of exposures apart from an empty
one. -/
def QueuedGateExposureEvent.into_statsig_event_internal (event : QueuedGateExposureEvent) :
    StatsigEventInternal :=
  let metadata := get_metadata_with_details event.evaluation_details
    |> (·.insert "gate" event.gate_name.text)
    |> (·.insert "gateValue" (from_bool event.value))
    |> (·.insert "ruleID" event.rule_id.text)
    |> insert_common event.version event.exposure_trigger event.override_config_name
  .new event.exposure_time event.user
    (exposure_event GATE_EXPOSURE_EVENT_NAME metadata event.sampling_decision)
    event.secondary_exposures

structure QueuedConfigExposureEvent where
  user : StatsigUserLoggable
  config_name : String
  rule_id : String
  rule_passed : Option Bool
  secondary_exposures : Option (List InternedExposure)
  evaluation_details : EvaluationDetails
  version : Option Nat
  exposure_trigger : ExposureTrigger
  sampling_decision : EvtSamplingDecision
  override_config_name : Option InternedString
  exposure_time : Nat

def QueuedConfigExposureEvent.into_statsig_event_internal (event : QueuedConfigExposureEvent) :
    StatsigEventInternal :=
  let metadata := get_metadata_with_details event.evaluation_details
    |> (·.insert "config" event.config_name)
    |> (·.insert "ruleID" event.rule_id)
    |> insert_some "rulePassed" (event.rule_passed.map from_bool)
    |> insert_common event.version event.exposure_trigger event.override_config_name
  .new event.exposure_time event.user
    (exposure_event CONFIG_EXPOSURE_EVENT_NAME metadata event.sampling_decision)
    (some (event.secondary_exposures.getD []))

structure QueuedExperimentExposureEvent where
  user : StatsigUserLoggable
  experiment_name : String
  rule_id : String
  secondary_exposures : Option (List InternedExposure)
  evaluation_details : EvaluationDetails
  version : Option Nat
  exposure_trigger : ExposureTrigger
  sampling_decision : EvtSamplingDecision
  override_config_name : Option InternedString
  exposure_time : Nat

def QueuedExperimentExposureEvent.into_statsig_event_internal
    (event : QueuedExperimentExposureEvent) : StatsigEventInternal :=
  let metadata := get_metadata_with_details event.evaluation_details
    |> (·.insert "config" event.experiment_name)
    |> (·.insert "ruleID" event.rule_id)
    |> insert_common event.version event.exposure_trigger event.override_config_name
  .new event.exposure_time event.user
    (exposure_event CONFIG_EXPOSURE_EVENT_NAME metadata event.sampling_decision)
    (some (event.secondary_exposures.getD []))

/-- Which of the two lists of the layer it has is settled when it is made. -/
structure QueuedLayerParamExposureEvent where
  user : StatsigUserLoggable
  layer_name : String
  rule_id : String
  parameter_name : String
  secondary_exposures : Option (List InternedExposure)
  evaluation_details : EvaluationDetails
  version : Option Nat
  exposure_trigger : ExposureTrigger
  sampling_decision : EvtSamplingDecision
  override_config_name : Option InternedString
  is_explicit : Bool
  allocated_experiment : Option InternedString
  exposure_time : Nat

def QueuedLayerParamExposureEvent.into_statsig_event_internal
    (event : QueuedLayerParamExposureEvent) : StatsigEventInternal :=
  let metadata := get_metadata_with_details event.evaluation_details
    |> (·.insert "config" event.layer_name)
    |> (·.insert "ruleID" event.rule_id)
    |> (·.insert "allocatedExperiment" (event.allocated_experiment.getD ""))
    |> (·.insert "parameterName" event.parameter_name)
    |> (·.insert "isExplicitParameter" (from_bool event.is_explicit))
    |> insert_common event.version event.exposure_trigger event.override_config_name
  .new event.exposure_time event.user
    (exposure_event LAYER_EXPOSURE_EVENT_NAME metadata event.sampling_decision)
    (some (event.secondary_exposures.getD []))

/-! ## Secondary exposures as primary ones -/

structure QueuedSecondaryExposureAsPrimaryEvent where
  user : StatsigUserLoggable
  secondary_exposure : InternedExposure
  exposure_time : Nat
  sampling_decision : EvtSamplingDecision

def QueuedSecondaryExposureAsPrimaryEvent.into_statsig_event_internal
    (event : QueuedSecondaryExposureAsPrimaryEvent) : StatsigEventInternal :=
  let metadata : HashMap String String :=
    [("gate", event.secondary_exposure.gate.text),
      ("gateValue", event.secondary_exposure.gate_value.text),
      ("ruleID", event.secondary_exposure.rule_id.text)]
  .new event.exposure_time event.user
    (exposure_event GATE_EXPOSURE_EVENT_NAME metadata event.sampling_decision) (some [])

/-! ## The unified exposure -/

structure ExposureData where
  event_name : String
  spec_name : Interned
  rule_id : Option Interned := none
  exposure_time : Nat
  trigger : ExposureTrigger
  evaluation_details : EvaluationDetails
  secondary_exposures : Option (List InternedExposure) := none
  undelegated_secondary_exposures : Option (List InternedExposure) := none
  version : Option Nat := none
  override_spec_name : Option InternedString := none
  exposure_info : Option ExtraExposureInfo := none
  gate_value : Option Bool := none
  rule_passed : Option Bool := none
  is_user_in_experiment : Option Bool := none
  parameter_name : Option Interned := none
  explicit_params : Option (List InternedString) := none
  allocated_experiment : Option InternedString := none

structure QueuedExposureEvent where
  user : StatsigUserLoggable
  sampling_decision : EvtSamplingDecision
  data : ExposureData

namespace ExposureData

variable (data : ExposureData)

def try_add_gate_fields (metadata : HashMap String String) : HashMap String String :=
  if data.event_name ≠ GATE_EXPOSURE_EVENT_NAME then metadata
  else metadata
    |> (·.insert "gate" data.spec_name.text)
    |> (·.insert "gateValue" (from_bool (data.gate_value == some true)))

def try_add_config_fields (metadata : HashMap String String) : HashMap String String :=
  if data.event_name ≠ CONFIG_EXPOSURE_EVENT_NAME then metadata
  else metadata
    |> (·.insert "config" data.spec_name.text)
    |> insert_some "rulePassed" (data.rule_passed.map from_bool)

/-- The conversion reads a missing parameter name as the empty one. -/
def is_explicit : Bool := data.explicit_params.any ((or_empty data.parameter_name).text ∈ ·)

/-- The metadata, and whether the undelegated exposures are the ones to use. -/
def try_add_layer_fields (metadata : HashMap String String) : HashMap String String × Bool :=
  if data.event_name ≠ LAYER_EXPOSURE_EVENT_NAME then (metadata, false)
  else
    let metadata := metadata
      |> (·.insert "config" data.spec_name.text)
      |> (·.insert "parameterName" (or_empty data.parameter_name).text)
      |> (·.insert "isExplicitParameter" (from_bool data.is_explicit))
    if data.is_explicit then
      (metadata.insert "allocatedExperiment" (data.allocated_experiment.getD ""), false)
    else (metadata.insert "allocatedExperiment" "", true)

/-- The choice of the conversion. -/
def sends_undelegated : Bool := data.event_name == LAYER_EXPOSURE_EVENT_NAME && !data.is_explicit

theorem try_add_layer_fields_fst (metadata : HashMap String String) :
    (data.try_add_layer_fields metadata).1 =
      if data.event_name ≠ LAYER_EXPOSURE_EVENT_NAME then metadata
      else metadata
        |> (·.insert "config" data.spec_name.text)
        |> (·.insert "parameterName" (or_empty data.parameter_name).text)
        |> (·.insert "isExplicitParameter" (from_bool data.is_explicit))
        |> (·.insert "allocatedExperiment"
          (if data.is_explicit then data.allocated_experiment.getD "" else "")) := by
  unfold try_add_layer_fields
  by_cases hlayer : data.event_name = LAYER_EXPOSURE_EVENT_NAME
  · cases hexplicit : data.is_explicit <;> simp [hlayer]
  · simp [hlayer]

theorem try_add_layer_fields_snd (metadata : HashMap String String) :
    (data.try_add_layer_fields metadata).2 = data.sends_undelegated := by
  unfold try_add_layer_fields sends_undelegated
  by_cases hlayer : data.event_name = LAYER_EXPOSURE_EVENT_NAME
  · cases hexplicit : data.is_explicit <;> simp [hlayer]
  · simp [hlayer]

end ExposureData

namespace QueuedExposureEvent

def into_statsig_event_internal (event : QueuedExposureEvent) : StatsigEventInternal :=
  let data := event.data
  let (metadata, should_use_undelegated_secondary_exposures) := []
    |> data.try_add_gate_fields
    |> data.try_add_config_fields
    |> data.try_add_layer_fields
  let metadata := metadata
    |> EnqueueExposureOp.add_eval_details data.evaluation_details
    |> (·.insert "ruleID" (or_empty data.rule_id).text)
    |> insert_common data.version data.trigger data.override_spec_name
  let secondary_exposures :=
    if should_use_undelegated_secondary_exposures then data.undelegated_secondary_exposures
    else data.secondary_exposures
  .new data.exposure_time event.user
    (exposure_event data.event_name metadata event.sampling_decision) secondary_exposures

/-- What is sent, whatever the two lists are. -/
theorem sent_with (event : QueuedExposureEvent)
    (delegated undelegated : Option (List InternedExposure)) :
    into_statsig_event_internal
      { event with
        data.secondary_exposures := delegated
        data.undelegated_secondary_exposures := undelegated } =
      { event.into_statsig_event_internal with
        secondary_exposures :=
          if event.data.sends_undelegated then undelegated else delegated } := by
  unfold into_statsig_event_internal
  dsimp only
  rw [← event.data.try_add_layer_fields_snd
    (event.data.try_add_config_fields (event.data.try_add_gate_fields []))]
  rfl

theorem sent_exposures (event : QueuedExposureEvent) :
    event.into_statsig_event_internal.secondary_exposures =
      if event.data.sends_undelegated then event.data.undelegated_secondary_exposures
      else event.data.secondary_exposures :=
  congrArg StatsigEventInternal.secondary_exposures
    (sent_with event event.data.secondary_exposures event.data.undelegated_secondary_exposures)

/-- The take does not read a missing parameter name as the empty one. -/
def should_use_undelegated_secondary_exposures (event : QueuedExposureEvent) : Bool :=
  if event.data.event_name ≠ LAYER_EXPOSURE_EVENT_NAME then false
  else
    match event.data.parameter_name with
    | none => false
    | some parameter_name => !event.data.explicit_params.any (parameter_name.text ∈ ·)

end QueuedExposureEvent

/-! ## The queued event -/

/-- What is taken, and what is left in its place. -/
def take_non_empty_secondary_exposures :
    Option (List InternedExposure) → List InternedExposure × Option (List InternedExposure)
  | some exposures => if !exposures.isEmpty then (exposures, some []) else ([], some exposures)
  | none => ([], none)

/-- All of the list is taken. A missing list stays missing, and any other is left empty. -/
theorem take_non_empty_eq (exposures : Option (List InternedExposure)) :
    take_non_empty_secondary_exposures exposures =
      (exposures.getD [], exposures.map fun _ => []) := by
  cases exposures with
  | none => rfl
  | some exposures => cases exposures <;> rfl

def QueuedExposureEvent.take_secondary_exposures_for_primary_logging
    (event : QueuedExposureEvent) : List InternedExposure × QueuedExposureEvent :=
  if event.should_use_undelegated_secondary_exposures then
    let (taken, left) :=
      take_non_empty_secondary_exposures event.data.undelegated_secondary_exposures
    (taken, { event with data.undelegated_secondary_exposures := left })
  else
    let (taken, left) := take_non_empty_secondary_exposures event.data.secondary_exposures
    (taken, { event with data.secondary_exposures := left })

theorem QueuedExposureEvent.take_undelegated {event : QueuedExposureEvent}
    (h : event.should_use_undelegated_secondary_exposures = true) :
    event.take_secondary_exposures_for_primary_logging =
      (event.data.undelegated_secondary_exposures.getD [],
        { event with
          data.undelegated_secondary_exposures :=
            event.data.undelegated_secondary_exposures.map fun _ => [] }) := by
  unfold take_secondary_exposures_for_primary_logging
  rw [if_pos h, take_non_empty_eq]

theorem QueuedExposureEvent.take_delegated {event : QueuedExposureEvent}
    (h : event.should_use_undelegated_secondary_exposures = false) :
    event.take_secondary_exposures_for_primary_logging =
      (event.data.secondary_exposures.getD [],
        { event with
          data.secondary_exposures := event.data.secondary_exposures.map fun _ => [] }) := by
  unfold take_secondary_exposures_for_primary_logging
  rw [if_neg (by simp [h]), take_non_empty_eq]

inductive QueuedEvent where
  | Exposure (event : QueuedExposureEvent)
  | Passthrough (event : StatsigEventInternal)
  | GateExposure (event : QueuedGateExposureEvent)
  | ConfigExposure (event : QueuedConfigExposureEvent)
  | ExperimentExposure (event : QueuedExperimentExposureEvent)
  | LayerParamExposure (event : QueuedLayerParamExposureEvent)
  | SecondaryExposureAsPrimary (event : QueuedSecondaryExposureAsPrimaryEvent)

namespace QueuedEvent

def into_statsig_event_internal : QueuedEvent → StatsigEventInternal
  | Exposure event => event.into_statsig_event_internal
  | Passthrough event => event
  | GateExposure event => event.into_statsig_event_internal
  | ConfigExposure event => event.into_statsig_event_internal
  | ExperimentExposure event => event.into_statsig_event_internal
  | LayerParamExposure event => event.into_statsig_event_internal
  | SecondaryExposureAsPrimary event => event.into_statsig_event_internal

def exposure_time : QueuedEvent → Option Nat
  | Exposure event => some event.data.exposure_time
  | GateExposure event => some event.exposure_time
  | ConfigExposure event => some event.exposure_time
  | ExperimentExposure event => some event.exposure_time
  | LayerParamExposure event => some event.exposure_time
  | SecondaryExposureAsPrimary event => some event.exposure_time
  | Passthrough _ => none

def user_for_secondary_exposures : QueuedEvent → Option StatsigUserLoggable
  | Exposure event => some event.user
  | GateExposure event => some event.user
  | ConfigExposure event => some event.user
  | ExperimentExposure event => some event.user
  | LayerParamExposure event => some event.user
  | SecondaryExposureAsPrimary event => some event.user
  | Passthrough _ => none

/-- What is taken, and the event that is left. -/
def take_secondary_exposures_for_primary_logging :
    QueuedEvent → List InternedExposure × QueuedEvent
  | Exposure event =>
    let (taken, event) := event.take_secondary_exposures_for_primary_logging
    (taken, Exposure event)
  | GateExposure event =>
    let (taken, left) := take_non_empty_secondary_exposures event.secondary_exposures
    (taken, GateExposure { event with secondary_exposures := left })
  | ConfigExposure event =>
    let (taken, left) := take_non_empty_secondary_exposures event.secondary_exposures
    (taken, ConfigExposure { event with secondary_exposures := left })
  | ExperimentExposure event =>
    let (taken, left) := take_non_empty_secondary_exposures event.secondary_exposures
    (taken, ExperimentExposure { event with secondary_exposures := left })
  | LayerParamExposure event =>
    let (taken, left) := take_non_empty_secondary_exposures event.secondary_exposures
    (taken, LayerParamExposure { event with secondary_exposures := left })
  | Passthrough event => ([], Passthrough event)
  | SecondaryExposureAsPrimary event => ([], SecondaryExposureAsPrimary event)

/-- An event of a kind that stands for an exposure. -/
def IsExposure : QueuedEvent → Prop
  | Passthrough _ => False
  | _ => True

theorem IsExposure.exposure_time {event : QueuedEvent} (h : event.IsExposure) :
    event.exposure_time = some event.into_statsig_event_internal.time := by
  cases event with
  | Passthrough event => cases h
  | _ => rfl

theorem IsExposure.user {event : QueuedEvent} (h : event.IsExposure) :
    event.user_for_secondary_exposures = some event.into_statsig_event_internal.user := by
  cases event with
  | Passthrough event => cases h
  | _ => rfl

theorem user_of_left (event : QueuedEvent) :
    event.take_secondary_exposures_for_primary_logging.2.user_for_secondary_exposures =
      event.user_for_secondary_exposures := by
  cases event with
  | Exposure event =>
    unfold take_secondary_exposures_for_primary_logging
    dsimp only
    cases h : event.should_use_undelegated_secondary_exposures
    · rw [QueuedExposureEvent.take_delegated h]
      rfl
    · rw [QueuedExposureEvent.take_undelegated h]
      rfl
  | _ => rfl

/-- The exposures that are sent with an event. -/
def attached (event : QueuedEvent) : List InternedExposure :=
  event.into_statsig_event_internal.secondary_exposures.getD []

end QueuedEvent

namespace StatsigEventInternal

/-- The same event without exposures. -/
def emptied (event : StatsigEventInternal) : StatsigEventInternal :=
  { event with secondary_exposures := event.secondary_exposures.map fun _ => [] }

theorem eq_emptied_iff (event : StatsigEventInternal) :
    event = event.emptied ↔ event.secondary_exposures.getD [] = [] := by
  obtain ⟨event_data, user, time, secondary_exposures⟩ := event
  cases secondary_exposures <;> simp [emptied]

/-- What the kinds are sent with that send a missing list as an empty one. -/
theorem emptied_some (time : Nat) (user : StatsigUserLoggable) (event : StatsigEvent)
    (exposures : Option (List InternedExposure)) :
    new time user event (some ((exposures.map fun _ => []).getD [])) =
      (new time user event (some (exposures.getD []))).emptied := by
  cases exposures <;> rfl

end StatsigEventInternal

/-! ## The operations -/

/-- An event is sent as the one that an operation was said to log. -/
structure StatsigEventInternal.Sends (sent : StatsigEventInternal)
    (event : event_logging.StatsigEvent) : Prop where
  event_name : sent.event_data.event_name = event.event_name
  metadata : sent.event_data.metadata = some (string_metadata_to_value_metadata event.metadata)
  user : sent.user.data = event.user
  time : sent.time = event.exposure_time
  secondary_exposures :
    sent.secondary_exposures.map (·.map InternedExposure.texts) = event.secondary_exposures

section Operations

/- The user of an operation with what the instance adds to it, and the exposures of its evaluation
as the store holds them. -/
variable (user : StatsigUserLoggable) (held : Option (List InternedExposure))
  (sampling_decision : EvtSamplingDecision)

/-- `extract_from_cow`. -/
def gate_event (op : EnqueueGateExpoOp) : QueuedGateExposureEvent :=
  let info := op.evaluation.bind (·.base.exposure_info)
  { user
    gate_name := or_empty (op.evaluation.map (·.base.name))
    value := op.evaluation.any (·.value)
    rule_id := or_empty (op.evaluation.map (·.base.rule_id))
    secondary_exposures := held
    evaluation_details := op.details
    version := info.bind (·.version)
    exposure_trigger := op.trigger
    sampling_decision
    override_config_name := info.bind (·.override_config_name)
    exposure_time := op.exposure_time }

def config_event (op : EnqueueConfigExpoOp) : QueuedConfigExposureEvent :=
  let info := op.config.evaluation.bind (·.base.exposure_info)
  { user
    config_name := op.config.name
    rule_id := op.config.rule_id
    rule_passed := op.config.evaluation.map (·.passed)
    secondary_exposures := held
    evaluation_details := op.config.details
    version := info.bind (·.version)
    exposure_trigger := op.trigger
    sampling_decision
    override_config_name := info.bind (·.override_config_name)
    exposure_time := op.exposure_time }

def experiment_event (op : EnqueueExperimentExpoOp) : QueuedExperimentExposureEvent :=
  let info := op.experiment.evaluation.bind (·.base.exposure_info)
  { user
    experiment_name := op.experiment.name
    rule_id := op.experiment.rule_id
    secondary_exposures := held
    evaluation_details := op.experiment.details
    version := info.bind (·.version)
    exposure_trigger := op.trigger
    sampling_decision
    override_config_name := info.bind (·.override_config_name)
    exposure_time := op.exposure_time }

/-- `extract_exposure_info`: the two lists of a layer are those of its evaluation. -/
def layer_event (undelegated : Option (List InternedExposure)) (op : EnqueueLayerParamExpoOp) :
    QueuedLayerParamExposureEvent :=
  let is_explicit := op.layer.evaluation.any (op.parameter_name ∈ ·.explicit_parameters)
  let info := op.layer.evaluation.bind fun _ =>
    EnqueueLayerParamExpoOp.get_layer_exposure_info op.layer
  { user
    layer_name := op.layer.name
    rule_id := op.rule_id
    parameter_name := op.parameter_name
    secondary_exposures := if is_explicit then held else undelegated
    evaluation_details := op.layer.details
    version := match info with
      | some info => info.version
      | none => op.layer.evaluation.bind fun _ => op.layer.version
    exposure_trigger := op.trigger
    sampling_decision
    override_config_name := info.bind (·.override_config_name)
    is_explicit
    allocated_experiment := op.layer.evaluation.bind fun e =>
      if is_explicit then e.allocated_experiment_name else none
    exposure_time := op.exposure_time }

/-- The data of a raw or manual operation. -/
def exposure_event_of (undelegated : Option (List InternedExposure))
    (exposure_info : Option ExtraExposureInfo) (op : EnqueueExposureOp) : QueuedExposureEvent where
  user
  sampling_decision
  data :=
    { event_name := op.data.event_name
      spec_name := op.data.spec_name
      rule_id := op.data.rule_id
      exposure_time := op.data.exposure_time
      trigger := op.data.trigger
      evaluation_details := op.data.evaluation_details
      secondary_exposures := held
      undelegated_secondary_exposures := undelegated
      version := op.data.version
      override_spec_name := op.data.override_spec_name
      exposure_info
      gate_value := op.data.gate_value
      rule_passed := op.data.rule_passed
      is_user_in_experiment := op.data.is_user_in_experiment
      parameter_name := op.data.parameter_name
      explicit_params := op.data.explicit_params
      allocated_experiment := op.data.allocated_experiment }

variable {user held}

theorem gate_event_sends (op : EnqueueGateExpoOp) (huser : user.data = op.user)
    (hheld : held.map (·.map InternedExposure.texts) =
      op.evaluation.map (·.base.secondary_exposures)) :
    (gate_event user held sampling_decision op).into_statsig_event_internal.Sends op.into_event :=
  ⟨rfl, rfl, huser, rfl, hheld⟩

/-- A missing list is sent as an empty one. -/
theorem texts_of_held {texts : Option (List SecondaryExposure)}
    (hheld : held.map (·.map InternedExposure.texts) = texts) :
    (some (held.getD [])).map (·.map InternedExposure.texts) = some (texts.getD []) := by
  rw [← hheld]
  cases held <;> rfl

theorem config_event_sends (op : EnqueueConfigExpoOp) (huser : user.data = op.user)
    (hheld : held.map (·.map InternedExposure.texts) =
      op.config.evaluation.map (·.base.secondary_exposures)) :
    (config_event user held sampling_decision op).into_statsig_event_internal.Sends
      op.into_event := by
  refine ⟨rfl, ?_, huser, rfl, texts_of_held hheld⟩
  unfold config_event QueuedConfigExposureEvent.into_statsig_event_internal
    EnqueueConfigExpoOp.into_event StatsigEventInternal.new exposure_event
  dsimp only
  rw [Option.map_map]
  rfl

theorem experiment_event_sends (op : EnqueueExperimentExpoOp) (huser : user.data = op.user)
    (hheld : held.map (·.map InternedExposure.texts) =
      op.experiment.evaluation.map (·.base.secondary_exposures)) :
    (experiment_event user held sampling_decision op).into_statsig_event_internal.Sends
      op.into_event :=
  ⟨rfl, rfl, huser, rfl, texts_of_held hheld⟩

variable {undelegated : Option (List InternedExposure)}

theorem layer_event_sends (op : EnqueueLayerParamExpoOp) (huser : user.data = op.layer.user)
    (hheld : held.map (·.map InternedExposure.texts) =
      op.layer.evaluation.map (·.base.secondary_exposures))
    (hundelegated : undelegated.map (·.map InternedExposure.texts) =
      op.layer.evaluation.bind (·.undelegated_secondary_exposures)) :
    (layer_event user held sampling_decision undelegated op).into_statsig_event_internal.Sends
      op.into_event := by
  refine ⟨rfl, rfl, huser, rfl, texts_of_held ?_⟩
  unfold layer_event
  dsimp only
  cases hevaluation : op.layer.evaluation with
  | none =>
    rw [hevaluation] at hundelegated
    simpa using hundelegated
  | some evaluation =>
    rw [hevaluation] at hheld hundelegated
    cases hexplicit : decide (op.parameter_name ∈ evaluation.explicit_parameters)
    · simpa [hexplicit] using hundelegated
    · simpa [hexplicit] using hheld

theorem exposure_event_of_sends (exposure_info : Option ExtraExposureInfo)
    (op : EnqueueExposureOp) (huser : user.data = op.user)
    (hheld : held.map (·.map InternedExposure.texts) = op.data.secondary_exposures)
    (hundelegated : undelegated.map (·.map InternedExposure.texts) =
      op.data.undelegated_secondary_exposures) :
    (exposure_event_of user held sampling_decision undelegated exposure_info
      op).into_statsig_event_internal.Sends op.into_event := by
  refine ⟨rfl, ?_, huser, rfl, ?_⟩
  · unfold QueuedExposureEvent.into_statsig_event_internal
    dsimp only
    rw [ExposureData.try_add_layer_fields_fst]
    rfl
  · have hchoice : (exposure_event_of user held sampling_decision undelegated exposure_info
        op).data.sends_undelegated = true ↔
        op.data.event_name = LAYER_EXPOSURE_EVENT_NAME ∧
          EnqueueExposureOp.is_explicit op.data = false := by
      unfold ExposureData.sends_undelegated
      rw [Bool.and_eq_true, beq_iff_eq, Bool.not_eq_true']
      rfl
    rw [QueuedExposureEvent.sent_exposures]
    unfold EnqueueExposureOp.into_event
    dsimp only
    rw [← hheld, ← hundelegated, apply_ite (Option.map (List.map InternedExposure.texts))]
    exact if_congr hchoice rfl rfl

end Operations

end event_logging.event_queue

end statsig_rust
