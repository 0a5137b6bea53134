-- The contextual bandits (`evaluation/cmab_evaluator.rs`). A bandit is asked
-- for an experiment only. Its targeting gate is evaluated as a nested gate,
-- and an overflow of the nesting there counts as failed targeting.
import StatsigCore.Evaluation.EvaluatorContext

open program

namespace statsig_rust.evaluation

def EXPLORE_RULE_ID_SUFFIX : String := "explore"

def NOT_STARTED_RULE : InternedString := "prestart"

def FAILS_TARGETING : InternedString := "inlineTargetingRules"

/-- `str::starts_with`. -/
def starts_with (s start : String) : Bool := start.toList.isPrefixOf s.toList

def is_cmab_started (cmab : CMABConfig) : Bool := cmab.enabled && !cmab.groups.isEmpty

/-- The exposure of the targeting gate, unless the gate is a segment. -/
def push_targeting_exposure (targeting_gate_name : InternedString) (result : Bool)
    (ctx : EvaluatorContext) : EvaluatorContext :=
  if starts_with targeting_gate_name "segment:" then ctx
  else
    let expo : SecondaryExposure :=
      { gate := targeting_gate_name
        gate_value := from_bool result
        rule_id := ctx.result.rule_id.getD "" }
    { ctx with result.secondary_exposures := ctx.result.secondary_exposures ++ [expo] }

/-- `get_passes_targeting` when the nesting limit is reached. -/
def fail_targeting (ctx : EvaluatorContext) : EvaluatorContext :=
  { ctx with result.bool_value := false, result.rule_id := some FAILS_TARGETING }

def get_passes_targeting (rec : Recur) (cmab : CMABConfig) : Eval Bool :=
  match cmab.targeting_gate_name with
  | none => pure true
  | some targeting_gate_name => do
    match ← attempt prep_for_nested_evaluation with
    | .error _ => do
      update fail_targeting
      pure false
    | .ok _ => do
      let recognition ← attempt (rec targeting_gate_name .Gate)
      let ctx ← state
      let result := match recognition with
        | .ok _ => ctx.result.bool_value
        | .error _ => false
      update (push_targeting_exposure targeting_gate_name result)
      pure result

/-! ## The groups -/

/-- The fields that every bandit sets, whichever way it ends. -/
def set_cmab_fields (cmab : CMABConfig) (ctx : EvaluatorContext) : EvaluatorContext :=
  { ctx with
    result.id_type := some cmab.id_type.value
    result.version := some cmab.version
    result.is_experiment_active := cmab.enabled }

/-- A bandit that does not run for the user: not started, or failed targeting. -/
def apply_cmab_default (cmab : CMABConfig) (rule_id : InternedString) (ctx : EvaluatorContext) :
    EvaluatorContext :=
  { set_cmab_fields cmab ctx with
    result.bool_value := false
    result.rule_id := some rule_id
    result.json_value := some cmab.default_value }

def apply_group (group : CMABGroup) (suffix : Option String) (ctx : EvaluatorContext) :
    EvaluatorContext :=
  { ctx with
    result.bool_value := true
    result.rule_id := some group.id
    result.rule_id_suffix := suffix
    result.group_name := some group.name
    result.json_value := some group.parameter_values }

def apply_random_group (env : EvaluatorEnv) (cmab : CMABConfig) (user_hash : Option Nat)
    (ctx : EvaluatorContext) : EvaluatorContext :=
  let group_size := env.f64_round (10000 / (cmab.groups.length : F64))
  let i := match user_hash with
    | some hash => (env.f64_round (((hash % 10000 : Nat) : F64) / group_size)).floor.toNat
    | none => 0
  -- the rounded index is below the number of groups, so `none` does not arise
  match cmab.groups[i]? with
  | some group => apply_group group (some EXPLORE_RULE_ID_SUFFIX) ctx
  | none => ctx

/-- One more than the records of a group. -/
def cur_count (config : HashMap String CMABGroupConfig) (group : CMABGroup) : F64 :=
  match config.get group.id with
  | some config_for_group => (config_for_group.records + 1 : Nat)
  | none => 1

/-- The first group whose running share of the records passes the random value. -/
def find_sampling_group (env : EvaluatorEnv) (config : HashMap String CMABGroupConfig)
    (total_records value : F64) : List CMABGroup → F64 → Option CMABGroup
  | [], _ => none
  | group :: groups, sum =>
    let share := env.f64_round (env.f64_round (1 / cur_count config group) / total_records)
    let sum := env.f64_round (sum + share)
    if value < sum then some group
    else find_sampling_group env config total_records value groups sum

def sampling_group (env : EvaluatorEnv) (cmab : CMABConfig)
    (config : HashMap String CMABGroupConfig) (value : F64) : Option CMABGroup :=
  let total_records := cmab.groups.foldl
    (fun total group => env.f64_round (total + env.f64_round (1 / cur_count config group))) 0
  find_sampling_group env config total_records value cmab.groups 0

/-- One turn of the loop of `apply_best_group`: a better score takes the place of
the best one, and the first of two equal scores stays. -/
def pick_best (env : EvaluatorEnv) (cmab : CMABConfig) (config : HashMap String CMABGroupConfig)
    (best : Option (F64 × CMABGroup)) (group : CMABGroup) : Option (F64 × CMABGroup) :=
  match env.cmab_score group config, best with
  | none, best => best
  | some score, none => some (score, group)
  | some score, some (best_score, best_group) =>
    if (cmab.higher_is_better && score > best_score) ||
        (!cmab.higher_is_better && score < best_score) then some (score, group)
    else some (best_score, best_group)

/-- With no score for any group, one of them is picked at random. -/
def apply_best_group (env : EvaluatorEnv) (cmab : CMABConfig)
    (config : HashMap String CMABGroupConfig) (ctx : EvaluatorContext) : EvaluatorContext :=
  match cmab.groups.foldl (pick_best env cmab config) none with
  | some (_, best_group) => apply_group best_group ctx.result.rule_id_suffix ctx
  | none =>
    let i := (env.f64_round (env.thread_rng ctx.draws * (cmab.groups.length : F64))).floor.toNat
    let ctx := { ctx with draws := ctx.draws + 1 }
    match cmab.groups[i]? with
    | some best_group => apply_group best_group ctx.result.rule_id_suffix ctx
    | none => ctx

/-- The group of a user that passes the targeting: a random one without a config,
else a sampled one, else the best one. -/
def assign_cmab_group (env : EvaluatorEnv) (cmab : CMABConfig) (ctx : EvaluatorContext) :
    EvaluatorContext :=
  let user_hash := env.hashing.evaluation_hash_dot2 cmab.salt (get_unit_id env cmab.id_type)
  match cmab.config with
  | none => apply_random_group env cmab user_hash ctx
  | some config =>
    let should_sample : Bool := match user_hash with
      | some hash => ((hash % 10000 : Nat) : F64) < env.f64_round (cmab.sample_rate * 10000)
      | none => false
    if should_sample then
      let value := env.thread_rng ctx.draws
      let ctx := { ctx with draws := ctx.draws + 1 }
      match sampling_group env cmab config value with
      | some group => apply_group group (some EXPLORE_RULE_ID_SUFFIX) ctx
      | none => apply_best_group env cmab config ctx
    else apply_best_group env cmab config ctx

def evaluate_cmab (env : EvaluatorEnv) (rec : Recur) (spec_name : String) (spec_type : SpecType) :
    Eval Bool :=
  match spec_type, env.specs_data.cmab_configs with
  | .Experiment, some cmabs =>
    match cmabs.get spec_name with
    | none => pure false
    | some cmab =>
      if !is_cmab_started cmab then do
        update (apply_cmab_default cmab NOT_STARTED_RULE)
        pure true
      else do
        if ← get_passes_targeting rec cmab then do
          update (fun ctx => assign_cmab_group env cmab (set_cmab_fields cmab ctx))
          pure true
        else do
          update (apply_cmab_default cmab FAILS_TARGETING)
          pure true
  | _, _ => pure false

end statsig_rust.evaluation
