-- The client initialize response (`gcir/gcir_formatter.rs`), with the functions that make
-- its parts: the gates, the configs with the bandits, the layers, the parameter stores and
-- the session replay.
import StatsigCore.ClientInit.GcirProcessIter

open program

namespace statsig_rust.gcir

open evaluation

/-! ## The context -/

/-- The specs as the evaluator reads them. -/
def evaluator_view (specs : specs_response.SpecsResponseFull) : SpecsResponseFull where
  condition_map := specs.condition_map.map fun entry => (entry.1, entry.2.toCondition)
  feature_gates := specs.feature_gates.map fun entry => (entry.1, entry.2.toSpec)
  dynamic_configs := specs.dynamic_configs.map fun entry => (entry.1, entry.2.toSpec)
  layer_configs := specs.layer_configs.map fun entry => (entry.1, entry.2.toSpec)
  param_stores := specs.param_stores.map fun stores => stores.map Prod.fst
  cmab_configs := specs.cmab_configs.map fun cmabs =>
    cmabs.map fun entry => (entry.1, entry.2.toCMABConfig)
  override_rules := specs.override_rules
  overrides := specs.overrides

/-- What `create_gcir_eval_context` borrows. It has no `Statsig` instance. -/
def create_gcir_eval_context (outside : EvaluatorEnv) (specs : specs_response.SpecsResponseFull)
    (options : ClientInitResponseOptions) : EvaluatorEnv :=
  { outside with
    specs_data := evaluator_view specs
    app_id := select_app_id_for_gcir outside.parsers options specs
    override_adapter :=
      if options.include_local_overrides = some true then outside.override_adapter else none
    statsig := false }

section

variable (env : EvaluatorEnv) (depth : Nat) (hasher : Hasher) (orders : MapOrders)
  (options : ClientInitResponseOptions) (specs : specs_response.SpecsResponseFull)

/-! ## Gates, configs and layers -/

def kept_id_type (id_type : Option InternedString) : Option InternedString :=
  if options.remove_id_type.getD false then none else id_type

def gate_factory : EvaluationFactory GateEvaluation := fun _ hashed_name result =>
  let res := result_to_gate_eval hashed_name result
  ({ res with id_type := kept_id_type options res.id_type },
    { result with secondary_exposures := [], id_type := none })

def get_gate_evaluations : Gcir (HashMap String GateEvaluation) :=
  gcir_process_iter env depth options (fun _ => .Gate) (gate_factory options) hasher orders
    specs.feature_gates orders.feature_gates

def get_dynamic_config_type (spec : specs_response.Spec) : SpecType :=
  if spec.entity = "dynamic_config" then .DynamicConfig else .Experiment

def config_factory : EvaluationFactory AnyConfigEvaluation := fun spec_entity hashed_name result =>
  if spec_entity = "dynamic_config" then
    let res := result_to_dynamic_config_eval hashed_name result
    (.DynamicConfig { res with id_type := kept_id_type options res.id_type },
      { result with secondary_exposures := [], json_value := none })
  else
    let evaluation := result_to_experiment_eval hashed_name (some spec_entity) result
    (.Experiment { evaluation with
        id_type := kept_id_type options evaluation.id_type
        undelegated_secondary_exposures := none },
      { result with
        secondary_exposures := []
        json_value := none
        group_name := none
        undelegated_secondary_exposures := none })

/-- Whether the loop over the bandits goes past the one of this name. -/
def skips_cmab (cmab_configs : HashMap String specs_response.CMABConfig) (config_name : String) :
    Bool :=
  filtered_out options.experiment_filter config_name
    || should_filter_config_for_app ((cmab_configs.get config_name).bind (·.target_app_ids))
        env.app_id options

/-- One bandit: an error of the evaluator leaves whatever the result holds by then. -/
def process_cmab (config_name : String) : Gcir AnyConfigEvaluation := do
  update fun ctx => { ctx with evaluator := ctx.evaluator.reset_result }
  let _ ← attempt (evaluator_call (evaluate env depth config_name .Experiment))
  update (hash_secondary_exposures env.hashing options.get_hash_algorithm)
  run_factory (config_factory options) "autotune"
    (env.hashing.hash config_name options.get_hash_algorithm)

def process_cmabs (cmab_configs : HashMap String specs_response.CMABConfig) :
    List String → HashMap String AnyConfigEvaluation →
    Gcir (HashMap String AnyConfigEvaluation)
  | [], result => pure result
  | config_name :: names, result =>
    if skips_cmab env options cmab_configs config_name then
      process_cmabs cmab_configs names result
    else do
      let eval ← process_cmab env depth options config_name
      process_cmabs cmab_configs names
        (result.insert (env.hashing.hash config_name options.get_hash_algorithm) eval)

/-- The configs and experiments among the specs. -/
def get_config_spec_evaluations : Gcir (HashMap String AnyConfigEvaluation) :=
  gcir_process_iter env depth options get_dynamic_config_type (config_factory options) hasher
    orders specs.dynamic_configs orders.dynamic_configs

def add_cmab_evaluations (result : HashMap String AnyConfigEvaluation) :
    Gcir (HashMap String AnyConfigEvaluation) :=
  match specs.cmab_configs with
  | none => pure result
  | some cmab_configs => process_cmabs env depth options cmab_configs orders.cmab_configs result

def get_dynamic_config_evaluations : Gcir (HashMap String AnyConfigEvaluation) := do
  let result ← get_config_spec_evaluations env depth hasher orders options specs
  add_cmab_evaluations env depth orders options specs result

def layer_factory : EvaluationFactory LayerEvaluation := fun _ hashed_name result =>
  let eval := result_to_layer_eval hashed_name result
  ({ eval with
      allocated_experiment_name := eval.allocated_experiment_name.map fun name =>
        env.hashing.hash name options.get_hash_algorithm
      id_type := kept_id_type options eval.id_type },
    { result with
      config_delegate := none
      secondary_exposures := []
      undelegated_secondary_exposures := none
      json_value := none
      group_name := none })

def get_layer_evaluations : Gcir (HashMap String LayerEvaluation) :=
  gcir_process_iter env depth options (fun _ => .Layer) (layer_factory env options) hasher orders
    specs.layer_configs orders.layer_configs

/-! ## Parameter stores -/

/-- A parameter of the response: the names that it refers to are hashed. -/
def response_parameter (param_name : String) :
    specs_response.Parameter → specs_response.Parameter
  | .StaticValue _ ref_type param_type value =>
    .StaticValue (some param_name) ref_type param_type value
  | .Gate _ ref_type param_type gate_name pass_value fail_value =>
    .Gate (some param_name) ref_type param_type
      (env.hashing.hash gate_name options.get_hash_algorithm) pass_value fail_value
  | .DynamicConfig _ ref_type param_type config_name name =>
    .DynamicConfig (some param_name) ref_type param_type
      (env.hashing.hash config_name options.get_hash_algorithm) name
  | .Experiment _ ref_type param_type experiment_name name =>
    .Experiment (some param_name) ref_type param_type
      (env.hashing.hash experiment_name options.get_hash_algorithm) name
  | .Layer _ ref_type param_type layer_name name =>
    .Layer (some param_name) ref_type param_type
      (env.hashing.hash layer_name options.get_hash_algorithm) name

def get_parameters_from_store (store : specs_response.ParameterStore) :
    HashMap String specs_response.Parameter :=
  store.parameters.map fun entry => (entry.1, response_parameter env options entry.1 entry.2)

def skips_store (name : InternedString) (store : specs_response.ParameterStore) : Bool :=
  should_filter_config_for_app store.target_app_ids env.app_id options
    || filtered_out options.param_store_filter name

/-- The parameter stores of the response, in the order of the map. -/
def visited_stores (stores : HashMap InternedString specs_response.ParameterStore) :
    List (InternedString × specs_response.ParameterStore) :=
  (entries_in stores orders.param_stores).filter fun entry =>
    !skips_store env options entry.1 entry.2

def get_serializeable_param_stores : Gcir SerializeableParamStore :=
  match specs.param_stores with
  | none => do
    if options.previous_response_hash.isSome then push_hash 0
    pure []
  | some stores => do
    let visited := visited_stores env orders options stores
    if options.previous_response_hash.isSome then
      push_hash (hasher.hash_one (visited.map fun entry =>
        create_hash hasher orders entry.2 entry.1))
    pure (visited.foldl (fun param_stores entry => param_stores.insert
      (env.hashing.hash entry.1 options.get_hash_algorithm)
      (get_parameters_from_store env options entry.2)) [])

/-! ## Session replay -/

/-- The value of the targeting gate. It is evaluated in the context as it is. -/
def get_session_targeting (targeting_gate : Option String) : Gcir (Option Bool) :=
  match targeting_gate with
  | none => pure none
  | some gate_name => do
    match ← attempt (evaluator_call (evaluate env depth gate_name .Gate)) with
    | .ok _ => do
      let ctx ← state
      pure (some ctx.evaluator.result.bool_value)
    | .error _ => pure (some false)

def draw_random : Gcir F64 := fun ctx =>
  .ok (env.thread_rng ctx.evaluator.draws)
    { ctx with evaluator.draws := ctx.evaluator.draws + 1 }

/-- A trigger of the response: whether it passes its sampling, in place of its rate. -/
def new_trigger (random : F64) (trigger : specs_response.SessionReplayTrigger) :
    specs_response.SessionReplayTrigger where
  values := trigger.values
  sampling_rate := none
  passes_sampling := trigger.sampling_rate.map fun rate => decide (random ≤ rate)

/-- The new triggers, in the order of the map. -/
def new_triggers (random : F64)
    (triggers : Option (HashMap InternedString specs_response.SessionReplayTrigger))
    (keys : List InternedString) :
    List (InternedString × specs_response.SessionReplayTrigger) :=
  (entries_in (triggers.getD []) keys).map fun entry => (entry.1, new_trigger random entry.2)

/-- The hashes of the new triggers. -/
def triggers_hash (triggers : List (InternedString × specs_response.SessionReplayTrigger)) :
    Nat :=
  hasher.hash_one (triggers.map fun entry => create_hash hasher orders entry.2 entry.1)

/-- Whether the session can be recorded, as far as the specs and the user say. -/
def can_record (data : specs_response.SessionReplayInfo) (targeting : Option Bool)
    (random : F64) : Bool :=
  data.recording_blocked != some true && targeting != some false
    && data.sampling_rate.all fun rate => !decide (random > rate)

def get_session_replay_info : Gcir GCIRSessionReplayInfo :=
  match specs.session_replay_info with
  | none => do
    push_hash 0
    pure {}
  | some data => do
    let targeting ← get_session_targeting env depth data.targeting_gate
    let random ← draw_random env
    let events := new_triggers random data.session_recording_event_triggers orders.event_triggers
    let exposures :=
      new_triggers random data.session_recording_exposure_triggers orders.exposure_triggers
    let info : GCIRSessionReplayInfo :=
      { can_record_session := some (can_record data targeting random)
        session_recording_rate := data.sampling_rate
        recording_blocked := data.recording_blocked
        passes_session_recording_targeting := targeting
        session_recording_event_triggers := data.session_recording_event_triggers.map fun _ =>
          events.foldl (fun triggers entry => triggers.insert entry.1 entry.2) []
        session_recording_exposure_triggers :=
          data.session_recording_exposure_triggers.map fun _ =>
            exposures.foldl (fun triggers entry => triggers.insert
              (env.hashing.hash entry.1 options.get_hash_algorithm) entry.2) []
        session_recording_privacy_settings := data.session_recording_privacy_settings }
    if options.previous_response_hash.isSome then
      push_hash (hasher.hash_one [
        create_hash hasher orders info "",
        triggers_hash hasher orders events,
        triggers_hash hasher orders exposures])
    pure info

/-! ## The formats -/

def EvaluatedKeys.from_user (user : UserData) : EvaluatedKeys where
  user_id := (user.user_id.bind (·.string_value)).bind fun text =>
    if text.value = "" then none else some text.value
  custom_ids := user.custom_ids.bind fun custom_ids =>
    if custom_ids.isEmpty then none
    else some (custom_ids.map fun entry =>
      (entry.1, ((entry.2.string_value).map (·.value)).getD ""))

/-- The hash of the whole response. -/
def full_response_hash (gcir_hashes : List Nat) : String :=
  toString (hasher.hash_one gcir_hashes)

def generate_v1_format : Gcir InitializeResponse := do
  let gates ← get_gate_evaluations env depth hasher orders options specs
  let configs ← get_dynamic_config_evaluations env depth hasher orders options specs
  let layers ← get_layer_evaluations env depth hasher orders options specs
  let param_stores ← get_serializeable_param_stores env hasher orders options specs
  let session_replay_info ← get_session_replay_info env depth hasher orders options specs
  let ctx ← state
  let new_full_hash := full_response_hash hasher ctx.gcir_hashes
  if options.previous_response_hash = some new_full_hash then
    pure InitializeResponse.blank_without_user
  else
    pure {
      feature_gates := gates
      dynamic_configs := configs
      layer_configs := layers
      time := specs.time
      has_updates := true
      hash_used := options.get_hash_algorithm.to_string
      evaluated_keys := EvaluatedKeys.from_user env.user.data
      param_stores
      session_replay_info
      full_checksum := options.previous_response_hash.map fun _ => new_full_hash }

/-- The parts that the two later formats share. They differ in the entries of the specs. -/
structure LaterResponse (Gates Configs Layers : Type) where
  feature_gates : Gates
  dynamic_configs : Configs
  layer_configs : Layers
  param_stores : SerializeableParamStore
  session_replay_info : GCIRSessionReplayInfo

/-- `generate_v2_format` and `generate_init_v2_format`: the parameter stores and the session
replay come before the specs. -/
def generate_later_format {Gates Configs Layers : Type} (get_gates : Gcir Gates)
    (get_configs : Gcir Configs) (get_layers : Gcir Layers) :
    Gcir (LaterResponse Gates Configs Layers) := do
  let param_stores ← get_serializeable_param_stores env hasher orders options specs
  let session_replay_info ← get_session_replay_info env depth hasher orders options specs
  let feature_gates ← get_gates
  let dynamic_configs ← get_configs
  let layer_configs ← get_layers
  pure { feature_gates, dynamic_configs, layer_configs, param_stores, session_replay_info }

end

end statsig_rust.gcir
