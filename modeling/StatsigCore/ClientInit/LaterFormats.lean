-- The two later response formats (`gcir/gcir_formatter.rs`) with their loops over the gates, the
-- configs, the bandits and the layers. Their factories write to tables that one loop leaves to
-- the next. The loops of init_v2 each start with a memo of their own.
import StatsigCore.ClientInit.GcirFormatter
import StatsigCore.ClientInit.LaterEvaluations

open program

namespace statsig_rust.gcir

open evaluation

/-! ## The loop with tables -/

/-- A factory that writes to tables of its caller. It only reads the result: what the code
takes out of the result is gone before the next spec anyway. -/
abbrev TableFactory (Tables T : Type) :=
  InternedString → String → EvaluatorResult → Tables → T × Tables

/-- The result itself, for a factory that runs after it. -/
def keep_result : EvaluationFactory EvaluatorResult := fun _ _ result => (result, result)

section Loop

variable {Tables T : Type} (env : EvaluatorEnv) (depth : Nat) (options : ClientInitResponseOptions)
  (get_spec_type : specs_response.Spec → SpecType) (evaluation_factory : TableFactory Tables T)

def process_keys_into (specs_map : HashMap InternedString specs_response.Spec) :
    List InternedString → Tables → Gcir (List (InternedString × T) × Tables)
  | [], tables => pure ([], tables)
  | name :: names, tables =>
    match specs_map.get name with
    | none => process_keys_into specs_map names tables
    | some spec =>
      if skips env options spec name then process_keys_into specs_map names tables
      else do
        match ← process_spec env depth options get_spec_type keep_result name spec with
        | none => process_keys_into specs_map names tables
        | some result => do
          let eval := evaluation_factory spec.entity
            (env.hashing.hash name options.get_hash_algorithm) result tables
          let rest ← process_keys_into specs_map names eval.2
          pure ((name, eval.1) :: rest.1, rest.2)

/-- `gcir_process_iter` of the later formats, whose hash of the entries nobody reads. -/
def gcir_process_iter_into (specs_map : HashMap InternedString specs_response.Spec)
    (keys : List InternedString) (tables : Tables) : Gcir (HashMap String T × Tables) := do
  let evals ← process_keys_into env depth options get_spec_type evaluation_factory specs_map
    (ordered_keys options keys) tables
  pure (collect_results env options evals.1, evals.2)

/-- One bandit, with what is done to the exposures of its result and the factory for it. -/
def process_cmab_into (prepare : GcirContext → GcirContext) (config_name : String)
    (tables : Tables) : Gcir (T × Tables) := do
  update fun ctx => { ctx with evaluator := ctx.evaluator.reset_result }
  let _ ← attempt (evaluator_call (evaluate env depth config_name .Experiment))
  update prepare
  let ctx ← state
  pure (evaluation_factory "autotune" (env.hashing.hash config_name options.get_hash_algorithm)
    ctx.evaluator.result tables)

def process_cmabs_into (prepare : GcirContext → GcirContext)
    (cmab_configs : HashMap String specs_response.CMABConfig) :
    List String → HashMap String T → Tables → Gcir (HashMap String T × Tables)
  | [], result, tables => pure (result, tables)
  | config_name :: names, result, tables =>
    if skips_cmab env options cmab_configs config_name then
      process_cmabs_into prepare cmab_configs names result tables
    else do
      let eval ← process_cmab_into env depth options evaluation_factory prepare config_name tables
      process_cmabs_into prepare cmab_configs names
        (result.insert (env.hashing.hash config_name options.get_hash_algorithm) eval.1) eval.2

def add_cmab_evaluations_into (prepare : GcirContext → GcirContext) (orders : MapOrders)
    (specs : specs_response.SpecsResponseFull) (result : HashMap String T) (tables : Tables) :
    Gcir (HashMap String T × Tables) :=
  match specs.cmab_configs with
  | none => pure (result, tables)
  | some cmab_configs =>
    process_cmabs_into env depth options evaluation_factory prepare cmab_configs
      orders.cmab_configs result tables

end Loop

section

variable (env : EvaluatorEnv) (depth : Nat) (hasher : Hasher) (orders : MapOrders)
  (options : ClientInitResponseOptions) (specs : specs_response.SpecsResponseFull)

/-! ## Format v2 -/

abbrev ExposureMap := HashMap String SecondaryExposure

def stringify_sec_exposures (secondary_exposures : List SecondaryExposure)
    (resulting_exposures : ExposureMap) : ExposureMap :=
  secondary_exposures.foldl (fun exposures exposure =>
    exposures.insert (exposure_key env.hashing exposure) exposure) resulting_exposures

def gate_factory_v2 : TableFactory ExposureMap GateEvaluationV2 :=
  fun _ hashed_name result exposures =>
    let res := result_to_gate_eval_v2 env.hashing hashed_name result
    ({ res with id_type := kept_id_type options res.id_type },
      stringify_sec_exposures env result.secondary_exposures exposures)

def get_gate_evaluations_v2 (exposures : ExposureMap) :
    Gcir (HashMap String GateEvaluationV2 × ExposureMap) :=
  gcir_process_iter_into env depth options (fun _ => .Gate) (gate_factory_v2 env options)
    specs.feature_gates orders.feature_gates exposures

def config_factory_v2 : TableFactory ExposureMap AnyConfigEvaluationV2 :=
  fun spec_entity hashed_name result exposures =>
    let exposures := stringify_sec_exposures env result.secondary_exposures exposures
    if spec_entity = "dynamic_config" then
      let res := result_to_dynamic_config_eval_v2 env.hashing hashed_name result
      (.DynamicConfig { res with id_type := kept_id_type options res.id_type }, exposures)
    else
      let evaluation := result_to_experiment_eval_v2 env.hashing hashed_name (some spec_entity)
        result
      (.Experiment { evaluation with
        id_type := kept_id_type options evaluation.id_type
        undelegated_secondary_exposures := none }, exposures)

def get_dynamic_config_evaluations_v2 (exposures : ExposureMap) :
    Gcir (HashMap String AnyConfigEvaluationV2 × ExposureMap) := do
  let result ← gcir_process_iter_into env depth options get_dynamic_config_type
    (config_factory_v2 env options) specs.dynamic_configs orders.dynamic_configs exposures
  add_cmab_evaluations_into env depth options (config_factory_v2 env options)
    (hash_secondary_exposures env.hashing options.get_hash_algorithm) orders specs result.1 result.2

def layer_factory_v2 : TableFactory ExposureMap LayerEvaluationV2 :=
  fun _ hashed_name result exposures =>
    let exposures := stringify_sec_exposures env result.secondary_exposures exposures
    let exposures := match result.undelegated_secondary_exposures with
      | some undelegated => stringify_sec_exposures env undelegated exposures
      | none => exposures
    let eval := result_to_layer_eval_v2 env.hashing hashed_name result
    ({ eval with
        allocated_experiment_name := eval.allocated_experiment_name.map fun name =>
          env.hashing.hash name options.get_hash_algorithm
        id_type := kept_id_type options eval.id_type },
      exposures)

def get_layer_evaluations_v2 (exposures : ExposureMap) :
    Gcir (HashMap String LayerEvaluationV2 × ExposureMap) :=
  gcir_process_iter_into env depth options (fun _ => .Layer) (layer_factory_v2 env options)
    specs.layer_configs orders.layer_configs exposures

structure InitializeEvaluationsResponse where
  feature_gates : HashMap String GateEvaluationV2
  dynamic_configs : HashMap String AnyConfigEvaluationV2
  layer_configs : HashMap String LayerEvaluationV2
  time : Nat
  has_updates : Bool
  hash_used : String
  evaluated_keys : EvaluatedKeys
  param_stores : SerializeableParamStore
  exposures : ExposureMap
  session_replay_info : GCIRSessionReplayInfo

def generate_v2_format : Gcir InitializeEvaluationsResponse := do
  let param_stores ← get_serializeable_param_stores env hasher orders options specs
  let session_replay_info ← get_session_replay_info env depth hasher orders options specs
  let gates ← get_gate_evaluations_v2 env depth orders options specs []
  let configs ← get_dynamic_config_evaluations_v2 env depth orders options specs gates.2
  let layers ← get_layer_evaluations_v2 env depth orders options specs configs.2
  pure {
    feature_gates := gates.1
    dynamic_configs := configs.1
    layer_configs := layers.1
    time := specs.time
    has_updates := true
    hash_used := options.get_hash_algorithm.to_string
    evaluated_keys := EvaluatedKeys.from_user env.user.data
    param_stores
    exposures := layers.2
    session_replay_info }

/-! ## Format init_v2 -/

/-- How the strings and the value of a result are stored, for the entry of a name. -/
structure Storage where
  store : String → EvaluatorResult → InternedResult
  result : ∀ hashed_name result, (store hashed_name result).result = result

variable (storage : Storage)

def gate_factory_init_v2 : TableFactory InitTables GateEvaluationInitV2 :=
  fun _ hashed_name result tables =>
    let res := result_to_gate_eval_init_v2 hasher (storage.store hashed_name result) tables
    ({ res.1 with id_type := kept_id_type options res.1.id_type }, res.2)

def new_memo : Gcir Unit := update fun ctx => { ctx with sec_expo_hash_memo := [] }

def get_gate_evaluations_init_v2 (tables : InitTables) :
    Gcir (HashMap String GateEvaluationInitV2 × InitTables) := do
  new_memo
  gcir_process_iter_into env depth options (fun _ => .Gate)
    (gate_factory_init_v2 hasher options storage) specs.feature_gates orders.feature_gates tables

def config_factory_init_v2 : TableFactory InitTables AnyConfigEvaluationInitV2 :=
  fun spec_entity hashed_name result tables =>
    let result := storage.store hashed_name result
    if spec_entity = "dynamic_config" then
      let res := result_to_dynamic_config_eval_init_v2 hasher result tables
      (.DynamicConfig { res.1 with id_type := kept_id_type options res.1.id_type }, res.2)
    else
      let evaluation := result_to_experiment_eval_init_v2 hasher (some spec_entity) result tables
      (.Experiment { evaluation.1 with id_type := kept_id_type options evaluation.1.id_type },
        evaluation.2)

/-- The exposures of a bandit stay as the evaluator left them. -/
def get_dynamic_config_evaluations_init_v2 (tables : InitTables) :
    Gcir (HashMap String AnyConfigEvaluationInitV2 × InitTables) := do
  new_memo
  let result ← gcir_process_iter_into env depth options get_dynamic_config_type
    (config_factory_init_v2 hasher options storage) specs.dynamic_configs orders.dynamic_configs
    tables
  add_cmab_evaluations_into env depth options (config_factory_init_v2 hasher options storage) id
    orders specs result.1 result.2

def layer_factory_init_v2 : TableFactory InitTables LayerEvaluationInitV2 :=
  fun _ hashed_name result tables =>
    let eval := result_to_layer_eval_init_v2 hasher (storage.store hashed_name result) tables
    ({ eval.1 with
        allocated_experiment_name := eval.1.allocated_experiment_name.map fun name =>
          env.hashing.hash name options.get_hash_algorithm
        id_type := kept_id_type options eval.1.id_type },
      eval.2)

def get_layer_evaluations_init_v2 (tables : InitTables) :
    Gcir (HashMap String LayerEvaluationInitV2 × InitTables) := do
  new_memo
  gcir_process_iter_into env depth options (fun _ => .Layer)
    (layer_factory_init_v2 env hasher options storage) specs.layer_configs orders.layer_configs
    tables

structure InitializeV2Response where
  feature_gates : HashMap String GateEvaluationInitV2
  dynamic_configs : HashMap String AnyConfigEvaluationInitV2
  layer_configs : HashMap String LayerEvaluationInitV2
  param_stores : SerializeableParamStore
  time : Nat
  has_updates : Bool
  hash_used : String
  evaluated_keys : EvaluatedKeys
  exposures : HashMap InternedString InternedExposure
  session_replay_info : GCIRSessionReplayInfo
  values : HashMap InternedString InternedReturnable
  response_format : String

def generate_init_v2_format : Gcir InitializeV2Response := do
  let param_stores ← get_serializeable_param_stores env hasher orders options specs
  let session_replay_info ← get_session_replay_info env depth hasher orders options specs
  let gates ← get_gate_evaluations_init_v2 env depth hasher orders options specs storage {}
  let configs ←
    get_dynamic_config_evaluations_init_v2 env depth hasher orders options specs storage gates.2
  let layers ←
    get_layer_evaluations_init_v2 env depth hasher orders options specs storage configs.2
  pure {
    feature_gates := gates.1
    dynamic_configs := configs.1
    layer_configs := layers.1
    param_stores
    time := specs.time
    has_updates := true
    hash_used := options.get_hash_algorithm.to_string
    evaluated_keys := EvaluatedKeys.from_user env.user.data
    exposures := layers.2.exposures.expo_id_to_exposure_map
    session_replay_info
    values := layers.2.values.value_id_to_value_map
    response_format := "init-v2" }

end

end statsig_rust.gcir
