-- The loop over the specs of one kind (`gcir/gcir_process_iter.rs`) and the filter by the
-- target app (`gcir/target_app_id_utils.rs`). All specs are evaluated in one context, with
-- one memo of nested gates.
import Mathlib.Data.List.Sort
import Mathlib.Data.String.Basic
import StatsigCore.ClientInit.ClientInitTypes

open program

namespace statsig_rust.gcir

open evaluation

/-! ## Filters -/

def select_app_id_for_gcir (parsers : Parsers) (options : ClientInitResponseOptions)
    (dcs_values : specs_response.SpecsResponseFull) : Option DynamicValue :=
  match options.get_target_app_id with
  | some target_app_id => some (parsers.from_string target_app_id)
  | none =>
    match options.client_sdk_key with
    | none => dcs_values.app_id
    | some client_sdk_key =>
      let app_id := match dcs_values.sdk_keys_to_app_ids with
        | some app_id_value => app_id_value.get client_sdk_key
        | none => dcs_values.app_id
      match dcs_values.hashed_sdk_keys_to_app_ids with
      | some app_id_value => app_id_value.get (djb2 client_sdk_key)
      | none => app_id

def should_filter_config_for_app (target_app_ids : Option (List InternedString))
    (app_id : Option DynamicValue) (options : ClientInitResponseOptions) : Bool :=
  if options.client_sdk_key.isNone && options.get_target_app_id.isNone then false
  else
    match app_id.bind (·.string_value) with
    | none => false
    | some string_app_id =>
      match target_app_ids with
      | none => true
      | some target_app_ids => !target_app_ids.contains string_app_id.value

/-- A filter that is set and does not hold the name. -/
def filtered_out (filter : Option (List String)) (name : String) : Bool :=
  match filter with
  | some names => !names.contains name
  | none => false

def should_filter_entity (spec : specs_response.Spec) (name : String)
    (options : ClientInitResponseOptions) : Bool :=
  if spec.entity = "feature_gate" then filtered_out options.feature_gate_filter name
  else if spec.entity = "experiment" then filtered_out options.experiment_filter name
  else if spec.entity = "dynamic_config" then filtered_out options.dynamic_config_filter name
  else if spec.entity = "layer" then filtered_out options.layer_filter name
  else false

/-- Whether the loop goes past the spec without evaluating it. -/
def skips (env : EvaluatorEnv) (options : ClientInitResponseOptions) (spec : specs_response.Spec)
    (name : String) : Bool :=
  spec.entity == "segment" || spec.entity == "holdout"
    || should_filter_entity spec name options
    || should_filter_config_for_app spec.target_app_ids env.app_id options

/-! ## Exposures -/

def SecondaryExposure.get_dedupe_key (exposure : SecondaryExposure) : String :=
  exposure.gate ++ "|" ++ exposure.gate_value ++ "|" ++ exposure.rule_id

/-- The loop of `hash_secondary_exposures`: an exposure that was seen is dropped, and the
gate of any other one is hashed. -/
def loop_filter_n_hash (hashing : HashUtil) (hash_algorithm : HashAlgorithm) :
    List SecondaryExposure → List String → HashMap InternedString InternedString →
    List SecondaryExposure × HashMap InternedString InternedString
  | [], _, memo => ([], memo)
  | expo :: exposures, seen, memo =>
    let expo_key := SecondaryExposure.get_dedupe_key expo
    if seen.contains expo_key then loop_filter_n_hash hashing hash_algorithm exposures seen memo
    else
      match memo.get expo.gate with
      | some hash =>
        let rest := loop_filter_n_hash hashing hash_algorithm exposures (expo_key :: seen) memo
        ({ expo with gate := hash } :: rest.1, rest.2)
      | none =>
        let hash := hashing.hash expo.gate hash_algorithm
        let rest := loop_filter_n_hash hashing hash_algorithm exposures (expo_key :: seen)
          (memo.insert expo.gate hash)
        ({ expo with gate := hash } :: rest.1, rest.2)

/-- `hash_secondary_exposures` of the loop: both lists of the result. -/
def hash_secondary_exposures (hashing : HashUtil) (hash_algorithm : HashAlgorithm)
    (ctx : GcirContext) : GcirContext :=
  let result := ctx.evaluator.result
  let (exposures, memo) :=
    loop_filter_n_hash hashing hash_algorithm result.secondary_exposures [] ctx.sec_expo_hash_memo
  match result.undelegated_secondary_exposures with
  | none =>
    { ctx with
      evaluator.result.secondary_exposures := exposures
      sec_expo_hash_memo := memo }
  | some undelegated =>
    let (undelegated, memo) := loop_filter_n_hash hashing hash_algorithm undelegated [] memo
    { ctx with
      evaluator.result.secondary_exposures := exposures
      evaluator.result.undelegated_secondary_exposures := some undelegated
      sec_expo_hash_memo := memo }

/-! ## The loop -/

/-- The typed evaluation of a result, from the entity of the spec and its hashed name, and
what is left of the result. -/
abbrev EvaluationFactory (T : Type) :=
  InternedString → String → EvaluatorResult → T × EvaluatorResult

def run_factory {T : Type} (evaluation_factory : EvaluationFactory T)
    (entity : InternedString) (hashed_name : String) : Gcir T := fun ctx =>
  let (eval, result) := evaluation_factory entity hashed_name ctx.evaluator.result
  .ok eval { ctx with evaluator.result := result }

def is_default_value_gate (options : ClientInitResponseOptions) (spec : specs_response.Spec)
    (result : EvaluatorResult) : Bool :=
  options.remove_default_value_gates.getD false && spec.entity == "feature_gate"
    && result.rule_id == some "default" && !result.bool_value
    && result.secondary_exposures.isEmpty

def is_experiment_in_layer (options : ClientInitResponseOptions) (spec : specs_response.Spec)
    (result : EvaluatorResult) : Bool :=
  spec.entity == "experiment" && options.remove_experiments_in_layers.getD false
    && result.is_in_layer

section

variable {T : Type} (env : EvaluatorEnv) (depth : Nat) (options : ClientInitResponseOptions)
  (get_spec_type : specs_response.Spec → SpecType) (evaluation_factory : EvaluationFactory T)

/-- One turn of the loop, for a spec that is not skipped. -/
def process_spec (name : InternedString) (spec : specs_response.Spec) : Gcir (Option T) := do
  update fun ctx => { ctx with evaluator := ctx.evaluator.reset_result }
  let _ ← evaluator_call (evaluate env depth name (get_spec_type spec))
  let ctx ← state
  if is_default_value_gate options spec ctx.evaluator.result then pure none
  else if is_experiment_in_layer options spec ctx.evaluator.result then pure none
  else do
    update (hash_secondary_exposures env.hashing options.get_hash_algorithm)
    let eval ← run_factory evaluation_factory spec.entity
      (env.hashing.hash name options.get_hash_algorithm)
    pure (some eval)

/-- The evaluations of the specs that stay, in the order of the keys. -/
def process_keys (specs_map : HashMap InternedString specs_response.Spec) :
    List InternedString → Gcir (List (InternedString × T))
  | [] => pure []
  | name :: names =>
    match specs_map.get name with
    | none => process_keys specs_map names
    | some spec =>
      if skips env options spec name then process_keys specs_map names
      else do
        let eval ← process_spec env depth options get_spec_type evaluation_factory name spec
        let rest ← process_keys specs_map names
        pure ((eval.map fun eval => (name, eval)).toList ++ rest)

/-- The keys are in the order of the map, unless a previous hash is compared with. -/
def ordered_keys (keys : List InternedString) : List InternedString :=
  if options.previous_response_hash.isSome then keys.mergeSort fun a b => decide (a ≤ b)
  else keys

/-- The map of the evaluations under their hashed names. A later one replaces an earlier one
of the same hashed name. -/
def collect_results (evals : List (InternedString × T)) : HashMap String T :=
  evals.foldl (fun results entry => results.insert
    (env.hashing.hash entry.1 options.get_hash_algorithm) entry.2) []

def gcir_process_iter [GCIRHashable T] (hasher : Hasher) (orders : MapOrders)
    (specs_map : HashMap InternedString specs_response.Spec) (keys : List InternedString) :
    Gcir (HashMap String T) := do
  let evals ← process_keys env depth options get_spec_type evaluation_factory specs_map
    (ordered_keys options keys)
  if options.previous_response_hash.isSome then
    push_hash (hasher.hash_one (evals.map fun entry =>
      create_hash hasher orders entry.2 entry.1))
  pure (collect_results env options evals)

end

end statsig_rust.gcir
