-- The rule id of an exposure against the rule id that the caller was given. The rule id
-- has three ways to the event: through the typed object, through the result of the
-- evaluator on the raw and the manual paths, and through the raw layer that comes back
-- from the FFI. The functions are those of `statsig.rs`.
import StatsigCore.EventLogging.QueuedExposures
import StatsigCore.PersistentStorage.StickyAgreement

namespace statsig_rust.event_logging

open evaluation persistent_storage

/-! ## Entry points -/

/-- What a call is made with, apart from the outcome of the evaluation. Gates and
dynamic configs read only the flag for exposure logging of the options. `locked` says
whether the read lock for the sticky values of a layer is acquired. -/
structure SpecCall where
  to_lowercase : String → String
  user : StatsigUserInternal
  name : String
  options : ExperimentEvaluationOptions
  specs_data : SpecsResponseFull
  manager : Bool
  locked : Bool
  reeval : StickyReeval
  now : Nat
  exposure_time : Nat

/-- What the evaluation of the spec came to. -/
abbrev Evaluated := EvaluationDetails × Option EvaluatorResult

namespace SpecCall

variable (call : SpecCall) (outcome : Evaluated)

/-- The event of an exposure, unless exposure logging is disabled. -/
def unless_disabled (event : StatsigEvent) : Option StatsigEvent :=
  if call.options.disable_exposure_logging then none else some event

def exposure_call (trigger : ExposureTrigger) : ExposureCall where
  user := call.user.data
  spec_name := .from_str_ref call.name
  trigger := trigger
  details := outcome.1
  result := outcome.2
  exposure_time := call.exposure_time

def get_feature_gate_with_options : FeatureGate × Option StatsigEvent :=
  let evaluation := (get_gate_evaluation call.name outcome).2
  let op : EnqueueGateExpoOp :=
    ⟨call.user.data, call.name, evaluation, outcome.1, .Auto, call.exposure_time⟩
  (make_feature_gate call.name evaluation outcome.1, call.unless_disabled op.into_event)

def get_dynamic_config_with_options : DynamicConfig × Option StatsigEvent :=
  let config := get_dynamic_config_impl call.name outcome
  let op : EnqueueConfigExpoOp := ⟨call.user.data, config, .Auto, call.exposure_time⟩
  (config, call.unless_disabled op.into_event)

def get_experiment_with_options : Experiment × Option StatsigEvent :=
  let experiment := (try_apply_sticky_value_to_experiment call.to_lowercase call.now call.user
    call.manager call.options (get_experiment_impl call.name outcome) call.reeval).1
  let op : EnqueueExperimentExpoOp := ⟨call.user.data, experiment, .Auto, call.exposure_time⟩
  (experiment, call.unless_disabled op.into_event)

def use_raw_feature_gate_with_options : FeatureGateRaw × Option StatsigEvent :=
  (result_to_gate_raw call.name outcome.1 outcome.2,
    call.unless_disabled
      (EnqueueExposureOp.gate_exposure (call.exposure_call outcome .Auto)).into_event)

def use_raw_dynamic_config_with_options : DynamicConfigRaw × Option StatsigEvent :=
  (result_to_dynamic_config_raw call.name outcome.1 outcome.2,
    call.unless_disabled
      (EnqueueExposureOp.dynamic_config_exposure (call.exposure_call outcome .Auto)).into_event)

/-- The raw experiment is logged as a dynamic config. -/
def use_raw_experiment_with_options : ExperimentRaw × Option StatsigEvent :=
  let applied := (try_apply_sticky_value_to_raw_experiment call.to_lowercase call.now call.user
    call.manager call.options outcome.1 outcome.2 call.reeval).1
  (result_to_experiment_raw call.name applied.2 applied.1,
    call.unless_disabled (EnqueueExposureOp.dynamic_config_exposure
      (call.exposure_call (applied.2, applied.1) .Auto)).into_event)

def get_layer_with_options : Layer :=
  let layer := get_layer_impl call.user.data call.name call.options.disable_exposure_logging outcome
  if call.manager && call.locked then
    (try_apply_sticky_value_to_layer call.to_lowercase call.now call.user call.manager call.options
      call.specs_data layer call.reeval).1
  else layer

/-- `log_param_exposure` of a layer: it needs its logger. -/
def log_param_exposure (layer : Layer) (parameter_name : String) : Option StatsigEvent :=
  if !layer.event_logger_ptr || layer.disable_exposure then none
  else
    let op : EnqueueLayerParamExpoOp := ⟨call.exposure_time, layer, parameter_name, .Auto⟩
    some op.into_event

def log_layer_param_exposure_with_layer (layer : Layer) (parameter_name : String) :
    Option StatsigEvent :=
  if layer.disable_exposure then none
  else
    let op : EnqueueLayerParamExpoOp := ⟨call.exposure_time, layer, parameter_name, .Auto⟩
    some op.into_event

def use_raw_layer_with_options : LayerRaw :=
  let applied := if call.manager && call.locked then
    (try_apply_sticky_value_to_raw_layer call.to_lowercase call.now call.user call.manager
      call.options call.specs_data outcome.1 outcome.2 call.reeval).1
    else (outcome.2, outcome.1)
  result_to_layer_raw call.user.data call.name call.options.disable_exposure_logging applied.2
    applied.1

def log_layer_param_exposure_from_partial_raw (partial_raw : PartialLayerRaw)
    (parameter_name : String) : Option StatsigEvent :=
  if partial_raw.disable_exposure then none
  else some (EnqueueExposureOp.layer_param_exposure_from_partial_raw
    (.from_str_ref parameter_name) .Auto partial_raw call.exposure_time).into_event

def manually_log_gate_exposure : StatsigEvent :=
  (EnqueueExposureOp.gate_exposure (call.exposure_call outcome .Manual)).into_event

def manually_log_dynamic_config_exposure : StatsigEvent :=
  (EnqueueExposureOp.dynamic_config_exposure (call.exposure_call outcome .Manual)).into_event

def manually_log_experiment_exposure : StatsigEvent :=
  (EnqueueExposureOp.experiment_exposure (call.exposure_call outcome .Manual)).into_event

def manually_log_layer_parameter_exposure (parameter_name : String) : StatsigEvent :=
  (EnqueueExposureOp.layer_param_exposure (.from_str_ref parameter_name)
    (call.exposure_call outcome .Manual)).into_event

end SpecCall

/-! ## Paths -/

inductive ExposurePath where
  | get_feature_gate | get_dynamic_config | get_experiment
  | use_raw_feature_gate | use_raw_dynamic_config | use_raw_experiment
  | manual_gate | manual_dynamic_config | manual_experiment
  | layer_param (parameter_name : String)
  | layer_with_param (parameter_name : String)
  | raw_layer_param (parameter_name : String)
  | manual_layer_param (parameter_name : String)

def ExposurePath.spec_type : ExposurePath → SpecType
  | get_feature_gate | use_raw_feature_gate | manual_gate => .Gate
  | get_dynamic_config | use_raw_dynamic_config | manual_dynamic_config => .DynamicConfig
  | get_experiment | use_raw_experiment | manual_experiment => .Experiment
  | layer_param _ | layer_with_param _ | raw_layer_param _ | manual_layer_param _ => .Layer

/-- The rule id of a layer's parameter: its own, or else the layer's. -/
def parameter_rule_id (rule_ids : Option (HashMap InternedString InternedString))
    (rule_id parameter_name : String) : String :=
  (rule_ids.bind (·.get parameter_name)).getD rule_id

namespace ExposurePath

/-- The rule id that the caller was given. A manual exposure has no object of its own:
it stands for the one that the typed function makes of the evaluation. -/
def given (call : SpecCall) (outcome : Evaluated) : ExposurePath → String
  | get_feature_gate | manual_gate => (call.get_feature_gate_with_options outcome).1.rule_id
  | get_dynamic_config | manual_dynamic_config =>
    (call.get_dynamic_config_with_options outcome).1.rule_id
  | get_experiment => (call.get_experiment_with_options outcome).1.rule_id
  | manual_experiment => (get_experiment_impl call.name outcome).rule_id
  | use_raw_feature_gate =>
    (call.use_raw_feature_gate_with_options outcome).1.rule_id.unperformant_to_string
  | use_raw_dynamic_config =>
    (call.use_raw_dynamic_config_with_options outcome).1.rule_id.unperformant_to_string
  | use_raw_experiment =>
    (call.use_raw_experiment_with_options outcome).1.rule_id.unperformant_to_string
  | layer_param parameter_name | layer_with_param parameter_name =>
    let layer := call.get_layer_with_options outcome
    parameter_rule_id layer.parameter_rule_ids layer.rule_id parameter_name
  | raw_layer_param parameter_name =>
    let raw := call.use_raw_layer_with_options outcome
    parameter_rule_id raw.parameter_rule_ids raw.rule_id.unperformant_to_string parameter_name
  | manual_layer_param parameter_name =>
    let layer := get_layer_impl call.user.data call.name false outcome
    parameter_rule_id layer.parameter_rule_ids layer.rule_id parameter_name

/-- The event that is logged, if one is. -/
def event (call : SpecCall) (outcome : Evaluated) : ExposurePath → Option StatsigEvent
  | get_feature_gate => (call.get_feature_gate_with_options outcome).2
  | get_dynamic_config => (call.get_dynamic_config_with_options outcome).2
  | get_experiment => (call.get_experiment_with_options outcome).2
  | use_raw_feature_gate => (call.use_raw_feature_gate_with_options outcome).2
  | use_raw_dynamic_config => (call.use_raw_dynamic_config_with_options outcome).2
  | use_raw_experiment => (call.use_raw_experiment_with_options outcome).2
  | manual_gate => some (call.manually_log_gate_exposure outcome)
  | manual_dynamic_config => some (call.manually_log_dynamic_config_exposure outcome)
  | manual_experiment => some (call.manually_log_experiment_exposure outcome)
  | layer_param parameter_name =>
    call.log_param_exposure (call.get_layer_with_options outcome) parameter_name
  | layer_with_param parameter_name =>
    call.log_layer_param_exposure_with_layer (call.get_layer_with_options outcome) parameter_name
  | raw_layer_param parameter_name =>
    call.log_layer_param_exposure_from_partial_raw
      (.from_raw (call.use_raw_layer_with_options outcome)) parameter_name
  | manual_layer_param parameter_name =>
    some (call.manually_log_layer_parameter_exposure outcome parameter_name)

/-- The event, if there is one, has the rule id that the caller was given. -/
def Faithful (call : SpecCall) (outcome : Evaluated) (path : ExposurePath) : Prop :=
  ∀ event, path.event call outcome = some event →
    event.exposure.rule_id = some (path.given call outcome)

/-- When the two rule ids are the same. A typed gate needs an evaluation, a raw object
no suffix, and a manual exposure both. A manual exposure of a parameter must not have
a rule id of its own other than the result's. -/
def RuleShows (call : SpecCall) (outcome : Evaluated) : ExposurePath → Prop
  | get_feature_gate =>
    call.options.disable_exposure_logging = true ∨ outcome.2.isSome
  | use_raw_feature_gate | use_raw_dynamic_config =>
    call.options.disable_exposure_logging = true ∨
      ∀ result, outcome.2 = some result → result.rule_id_suffix = none
  | use_raw_experiment =>
    call.options.disable_exposure_logging = true ∨
      ∀ result, outcome.2 = some result → result.rule_id_suffix = none ∨
        -- a sticky value has no suffix
        ∃ found, (raw_experiment_request call.to_lowercase call.user call.options call.reeval
          call.manager outcome.2).branch call.options.user_persisted_values = .replay found
  | manual_gate | manual_dynamic_config | manual_experiment =>
    ∃ result, outcome.2 = some result ∧ result.rule_id_suffix = none
  | manual_layer_param parameter_name =>
    ∃ result, outcome.2 = some result ∧
      match result.parameter_rule_ids.bind (·.get parameter_name) with
      | some id => id = result.rule_id.getD ""
      | none => result.rule_id_suffix = none
  | get_dynamic_config | get_experiment | layer_param _ | layer_with_param _
  | raw_layer_param _ => True

end ExposurePath

/-! ## Rule ids of results -/

section Rules

variable {call : SpecCall} {outcome : Evaluated}

/-- An event that is logged only in one case is right just when the case does not arise
or the event is. -/
theorem logged_unless_iff {P : StatsigEvent → Prop} (disabled : Bool) (event : StatsigEvent) :
    (∀ e, (if disabled then none else some event) = some e → P e) ↔ disabled = true ∨ P event := by
  by_cases h : disabled = true
  · simp [h]
  · simp [h]

theorem faithful_of_event {path : ExposurePath} {event : StatsigEvent}
    (hevent : path.event call outcome = some event) :
    path.Faithful call outcome ↔ event.exposure.rule_id = some (path.given call outcome) := by
  simp [ExposurePath.Faithful, hevent]

/-- The rule id of a raw object. -/
def raw_rule_id : Option EvaluatorResult → String
  | some result => suffixed result.rule_id result.rule_id_suffix
  | none => ""

/-- The rule id of a typed object. -/
def typed_rule_id : Option EvaluatorResult → String
  | some result => suffixed result.rule_id result.rule_id_suffix
  | none => default_rule_id

/-- A raw object shows the rule id of its result when there is no suffix. -/
theorem raw_rule_id_iff (result : Option EvaluatorResult) :
    some ((result.bind (·.rule_id)).getD "") = some (raw_rule_id result) ↔
      ∀ live, result = some live → live.rule_id_suffix = none := by
  cases result with
  | none => simp [raw_rule_id]
  | some live =>
    simp only [raw_rule_id, Option.bind_some, Option.some.injEq, forall_eq']
    rw [eq_comm]
    exact suffixed_eq_iff live.rule_id live.rule_id_suffix

/-- A typed object without an evaluation shows the default rule, and no result has it. -/
theorem typed_rule_id_iff (result : Option EvaluatorResult) :
    some ((result.bind (·.rule_id)).getD "") = some (typed_rule_id result) ↔
      ∃ live, result = some live ∧ live.rule_id_suffix = none := by
  cases result with
  | none => simp [typed_rule_id, default_rule_id]
  | some live =>
    simp only [typed_rule_id, Option.bind_some, Option.some.injEq, exists_eq_left']
    rw [eq_comm]
    exact suffixed_eq_iff live.rule_id live.rule_id_suffix

theorem gate_rule_id :
    (call.get_feature_gate_with_options outcome).1.rule_id = typed_rule_id outcome.2 := by
  obtain ⟨details, _ | result⟩ := outcome
  · rfl
  · exact create_suffixed_rule_id_text result.rule_id result.rule_id_suffix

theorem config_rule_id :
    (call.get_dynamic_config_with_options outcome).1.rule_id = typed_rule_id outcome.2 := by
  obtain ⟨details, _ | result⟩ := outcome
  · rfl
  · exact create_suffixed_rule_id_text result.rule_id result.rule_id_suffix

theorem experiment_rule_id :
    (get_experiment_impl call.name outcome).rule_id = typed_rule_id outcome.2 := by
  obtain ⟨details, _ | result⟩ := outcome
  · rfl
  · exact create_suffixed_rule_id_text result.rule_id result.rule_id_suffix

theorem layer_rule_id (user : UserData) (disable_exposure : Bool) :
    (get_layer_impl user call.name disable_exposure outcome).rule_id = typed_rule_id outcome.2 := by
  obtain ⟨details, _ | result⟩ := outcome
  · rfl
  · exact create_suffixed_rule_id_text result.rule_id result.rule_id_suffix

theorem raw_gate_rule_id (name : String) (details : EvaluationDetails)
    (result : Option EvaluatorResult) :
    (result_to_gate_raw name details result).rule_id.unperformant_to_string =
      raw_rule_id result := by
  cases result with
  | none => rfl
  | some result => exact raw_suffixed_rule_id_text result

theorem raw_config_rule_id (name : String) (details : EvaluationDetails)
    (result : Option EvaluatorResult) :
    (result_to_dynamic_config_raw name details result).rule_id.unperformant_to_string =
      raw_rule_id result := by
  cases result with
  | none => rfl
  | some result => exact raw_suffixed_rule_id_text result

theorem raw_experiment_rule_id (name : String) (details : EvaluationDetails)
    (result : Option EvaluatorResult) :
    (result_to_experiment_raw name details result).rule_id.unperformant_to_string =
      raw_rule_id result := by
  cases result with
  | none => rfl
  | some result => exact raw_suffixed_rule_id_text result

/-- After the sticky values a suffix is left just when there was one and no value is
replayed. -/
theorem sticky_suffix_iff (details : EvaluationDetails) (result : Option EvaluatorResult) :
    (∀ live, (try_apply_sticky_value_to_raw_experiment call.to_lowercase call.now call.user
        call.manager call.options details result call.reeval).1.1 = some live →
        live.rule_id_suffix = none) ↔
      ∀ live, result = some live → live.rule_id_suffix = none ∨
        ∃ found, (raw_experiment_request call.to_lowercase call.user call.options call.reeval
          call.manager result).branch call.options.user_persisted_values = .replay found := by
  unfold try_apply_sticky_value_to_raw_experiment
  cases result with
  | none => simp
  | some result =>
    cases hmanager : call.manager with
    | false =>
      have hlive : (raw_experiment_request call.to_lowercase call.user call.options call.reeval
          false (some result)).branch call.options.user_persisted_values = .live := rfl
      simp [hlive]
    | true =>
      simp only [Bool.not_true, Bool.false_eq_true, if_false]
      rw [raw_experiment_path]
      have hrequest : Request.of_raw_experiment call.to_lowercase call.user call.options
          call.reeval result = raw_experiment_request call.to_lowercase call.user call.options
          call.reeval true (some result) := rfl
      rw [hrequest]
      unfold Request.answer
      cases hb : (raw_experiment_request call.to_lowercase call.user call.options call.reeval true
          (some result)).branch call.options.user_persisted_values with
      | live | drop | record => simp
      | replay found => simp [make_evaluation_result_from_sticky_value]

/-- A layer's operation reports the rule id of the parameter. -/
theorem layer_param_rule_id (exposure_time : Nat) (layer : Layer) (parameter_name : String)
    (trigger : ExposureTrigger) :
    (EnqueueLayerParamExpoOp.into_event
      ⟨exposure_time, layer, parameter_name, trigger⟩).exposure.rule_id =
      some (parameter_rule_id layer.parameter_rule_ids layer.rule_id parameter_name) := by
  rw [EnqueueLayerParamExpoOp.exposure]
  unfold EnqueueLayerParamExpoOp.rule_id parameter_rule_id
  cases layer.parameter_rule_ids <;> rfl

/-- The partial raw layer keeps the rule id of each parameter. -/
theorem partial_raw_param_rule_id (raw : LayerRaw) (parameter_name : String)
    (trigger : ExposureTrigger) (exposure_time : Nat) :
    (EnqueueExposureOp.layer_param_exposure_from_partial_raw (.from_str_ref parameter_name)
      trigger (.from_raw raw) exposure_time).into_event.exposure.rule_id =
      some (parameter_rule_id raw.parameter_rule_ids raw.rule_id.unperformant_to_string
        parameter_name) := by
  rw [EnqueueExposureOp.partial_raw_exposure_reports]
  change some (((raw.parameter_rule_ids.bind (·.get parameter_name)).or _).getD "") = _
  unfold parameter_rule_id
  cases raw.parameter_rule_ids.bind (·.get parameter_name) <;> rfl

/-- A manual exposure of a parameter has the rule id of the result, whatever rule id the
parameter has. -/
theorem manual_param_rule_id_iff (result : Option EvaluatorResult) (parameter_name : String) :
    some ((result.bind (·.rule_id)).getD "") =
        some (parameter_rule_id (result.bind (·.parameter_rule_ids)) (typed_rule_id result)
          parameter_name) ↔
      ∃ live, result = some live ∧
        match live.parameter_rule_ids.bind (·.get parameter_name) with
        | some id => id = live.rule_id.getD ""
        | none => live.rule_id_suffix = none := by
  cases result with
  | none => simp [parameter_rule_id, typed_rule_id, default_rule_id]
  | some live =>
    simp only [parameter_rule_id, Option.bind_some, Option.some.injEq, exists_eq_left']
    cases live.parameter_rule_ids.bind (·.get parameter_name) with
    | some id => exact eq_comm
    | none =>
      rw [eq_comm]
      exact suffixed_eq_iff live.rule_id live.rule_id_suffix

theorem layer_parameter_rule_ids (user : UserData) (disable_exposure : Bool) :
    (get_layer_impl user call.name disable_exposure outcome).parameter_rule_ids =
      outcome.2.bind (·.parameter_rule_ids) := by
  obtain ⟨details, _ | result⟩ := outcome <;> rfl

end Rules

/-! ## The law -/

/-- On every path the event has the rule id that the caller was given just when the rule
shows. -/
theorem exposure_rule_id_iff (call : SpecCall) (outcome : Evaluated) (path : ExposurePath) :
    path.Faithful call outcome ↔ path.RuleShows call outcome := by
  cases path with
  | get_feature_gate =>
    refine (logged_unless_iff _ _).trans (or_congr_right ?_)
    rw [EnqueueGateExpoOp.exposure]
    obtain ⟨details, _ | result⟩ := outcome
    · simp [ExposurePath.given, gate_rule_id, typed_rule_id, get_gate_evaluation, or_empty,
        default_rule_id]
    · simp [ExposurePath.given, SpecCall.get_feature_gate_with_options, make_feature_gate,
        get_gate_evaluation]
  | get_dynamic_config =>
    refine (logged_unless_iff _ _).trans ?_
    rw [EnqueueConfigExpoOp.exposure]
    exact iff_of_true (.inr rfl) trivial
  | get_experiment =>
    refine (logged_unless_iff _ _).trans ?_
    rw [EnqueueExperimentExpoOp.exposure]
    exact iff_of_true (.inr rfl) trivial
  | use_raw_feature_gate =>
    refine (logged_unless_iff _ _).trans (or_congr_right ?_)
    rw [EnqueueExposureOp.gate_exposure_reports]
    refine Iff.trans ?_ (raw_rule_id_iff outcome.2)
    rw [← raw_gate_rule_id call.name outcome.1]
    exact Iff.rfl
  | use_raw_dynamic_config =>
    refine (logged_unless_iff _ _).trans (or_congr_right ?_)
    rw [EnqueueExposureOp.dynamic_config_exposure_reports]
    refine Iff.trans ?_ (raw_rule_id_iff outcome.2)
    rw [← raw_config_rule_id call.name outcome.1]
    exact Iff.rfl
  | use_raw_experiment =>
    refine (logged_unless_iff _ _).trans (or_congr_right ?_)
    rw [EnqueueExposureOp.dynamic_config_exposure_reports]
    refine Iff.trans ?_ (sticky_suffix_iff outcome.1 outcome.2)
    refine Iff.trans ?_ (raw_rule_id_iff _)
    rw [← raw_experiment_rule_id call.name]
    exact Iff.rfl
  | manual_gate =>
    rw [faithful_of_event rfl, SpecCall.manually_log_gate_exposure,
      EnqueueExposureOp.gate_exposure_reports, ExposurePath.given, gate_rule_id]
    exact typed_rule_id_iff outcome.2
  | manual_dynamic_config =>
    rw [faithful_of_event rfl, SpecCall.manually_log_dynamic_config_exposure,
      EnqueueExposureOp.dynamic_config_exposure_reports, ExposurePath.given, config_rule_id]
    exact typed_rule_id_iff outcome.2
  | manual_experiment =>
    rw [faithful_of_event rfl, SpecCall.manually_log_experiment_exposure,
      EnqueueExposureOp.experiment_exposure_reports, ExposurePath.given, experiment_rule_id]
    exact typed_rule_id_iff outcome.2
  | layer_param parameter_name =>
    refine iff_of_true ((logged_unless_iff _ _).mpr ?_) trivial
    exact .inr (layer_param_rule_id _ _ parameter_name .Auto)
  | layer_with_param parameter_name =>
    refine iff_of_true ((logged_unless_iff _ _).mpr ?_) trivial
    exact .inr (layer_param_rule_id _ _ parameter_name .Auto)
  | raw_layer_param parameter_name =>
    refine iff_of_true ((logged_unless_iff _ _).mpr ?_) trivial
    exact .inr (partial_raw_param_rule_id _ parameter_name .Auto _)
  | manual_layer_param parameter_name =>
    rw [faithful_of_event rfl, SpecCall.manually_log_layer_parameter_exposure,
      EnqueueExposureOp.layer_param_exposure_reports, ExposurePath.given, layer_rule_id,
      layer_parameter_rule_ids]
    exact manual_param_rule_id_iff outcome.2 parameter_name

/-- A bandit that has no records yet and explores its one group. -/
def SpecsResponseFull.exploring : SpecsResponseFull where
  cmab_configs := some [("bandit", {
    salt := "salt"
    default_value := .json []
    id_type := ⟨"userID", "userID"⟩
    version := 1
    enabled := true
    sample_rate := 0
    higher_is_better := true
    targeting_gate_name := none
    groups := [{ id := "group", name := "Group", parameter_values := .json [] }]
    config := none })]

/-- The raw object of an exploring bandit has a rule id with a suffix, and its exposure
has one without. -/
theorem explored_bandit_is_logged_without_suffix :
    ¬ ∀ (env : EvaluatorEnv) (depth : Nat) (data : Option SpecStoreData) (call : SpecCall)
      (outcome : Evaluated) (path : ExposurePath),
      evaluate_spec_raw { env with user := call.user, specs_data := call.specs_data } depth data
        call.name path.spec_type = some outcome → path.Faithful call outcome := by
  intro h
  let call : SpecCall :=
    { to_lowercase := String.toLower
      user := { data := { user_id := some { string_value := some ⟨"ada", "ada"⟩ } } }
      name := "bandit"
      options := {}
      specs_data := SpecsResponseFull.exploring
      manager := false
      locked := false
      reeval := fun _ _ _ => false
      now := 0
      exposure_time := 0 }
  let outcome := evaluate_spec_raw { EvaluatorEnv.plain {} with
    user := call.user, specs_data := call.specs_data } 3 (some ⟨.Network, 1, none⟩) "bandit"
    .Experiment
  have hrules : (outcome.map fun outcome =>
      (ExposurePath.use_raw_experiment.given call outcome,
        (ExposurePath.use_raw_experiment.event call outcome).map (·.exposure.rule_id))) =
      some ("group:explore", some (some "group")) := by decide +kernel
  obtain ⟨evaluated, houtcome, hevaluated⟩ := Option.map_eq_some_iff.mp hrules
  obtain ⟨hgiven, hlogged⟩ := Prod.mk.inj hevaluated
  obtain ⟨event, hevent, hrule⟩ := Option.map_eq_some_iff.mp hlogged
  have hsame := h (EvaluatorEnv.plain {}) 3 (some ⟨.Network, 1, none⟩) call evaluated
    .use_raw_experiment houtcome event hevent
  rw [hgiven, hrule] at hsame
  exact absurd hsame (by decide)

end statsig_rust.event_logging
