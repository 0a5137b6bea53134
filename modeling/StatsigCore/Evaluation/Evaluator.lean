-- `Evaluator::evaluate` and the functions that it calls
-- (`evaluation/evaluator.rs`). Each function takes the recursive calls as an
-- argument, and `evaluate` closes the recursion at a depth: `evaluate d` runs
-- with at most `d` calls of `evaluate` on the stack.
import StatsigCore.Evaluation.CmabEvaluator

open program

namespace statsig_rust.evaluation

open EvaluatorContext (set_bool set_unsupported)

/-! ## Conditions -/

inductive ConditionType where
  | Public | FailGate | PassGate | ExperimentGroup | UaBased | IpBased | UserField
  | EnvironmentField | CurrentTime | UserBucket | TargetApp | UnitId | Unknown
deriving DecidableEq

def ConditionType.from_str : String → ConditionType
  | "public" => .Public
  | "fail_gate" => .FailGate
  | "pass_gate" => .PassGate
  | "experiment_group" => .ExperimentGroup
  | "ua_based" => .UaBased
  | "ip_based" => .IpBased
  | "user_field" => .UserField
  | "environment_field" => .EnvironmentField
  | "current_time" => .CurrentTime
  | "user_bucket" => .UserBucket
  | "target_app" => .TargetApp
  | "unit_id" => .UnitId
  | _ => .Unknown

def type_of (condition : Condition) : ConditionType :=
  ConditionType.from_str condition.condition_type

def target_of (condition : Condition) : MemoizedEvaluatorValue :=
  condition.target_value.getD (MemoizedEvaluatorValue.new .Null)

/-- The gate that a `pass_gate` or `fail_gate` condition names. -/
def gate_name_of (target_value : MemoizedEvaluatorValue) : InternedString :=
  match target_value.string_value with
  | some name => name.value
  | none => ""

/-- A value that a condition reads, and the override reason that the reading
leaves behind when a parser is not loaded. -/
structure Reading where
  value : Option DynamicValue
  override_reason : Option String := none

def get_value_from_user_agent (env : EvaluatorEnv) (field : Option DynamicString) : Reading :=
  match field with
  | none => { value := none }
  | some f =>
    match (env.user.get_user_value (some ⟨"userAgent", "useragent"⟩)).bind (·.string_value) with
    | none => { value := none }
    | some user_agent =>
      if user_agent.value.utf8ByteSize > 1000 then { value := none }
      else if env.should_user_third_party_ua then
        match env.parsers.third_party_ua f.lowercased_value user_agent.value with
        | some v => { value := v }
        | none => { value := none, override_reason := some "UAParserNotLoaded" }
      else { value := env.parsers.first_party_ua f.lowercased_value user_agent.value }

def get_value_from_ip (env : EvaluatorEnv) (field : Option DynamicString) : Reading :=
  match field with
  | none => { value := none }
  | some f =>
    if f.value ≠ "country" then { value := none }
    else
      match (env.user.get_user_value (some ⟨"ip", "ip"⟩)).bind (·.string_value) with
      | none => { value := none }
      | some ip =>
        match env.parsers.country_lookup ip.value with
        | some v => { value := v }
        | none => { value := none, override_reason := some "CountryLookupNotLoaded" }

def get_hash_for_user_bucket (env : EvaluatorEnv) (condition : Condition) : DynamicValue :=
  let salt := (condition.additional_values.bind fun m => m.get "salt").getD ""
  let hash := (env.hashing.evaluation_hash_dot2 salt (get_unit_id env condition.id_type)).getD 1
  DynamicValue.from_number (hash % 1000)

/-- The value that a condition compares, for the types that read one without
another evaluation. -/
def read_value (env : EvaluatorEnv) (condition : Condition) : Reading :=
  match type_of condition with
  | .UaBased =>
    match env.user.get_user_value condition.field with
    | some value => { value := some value }
    | none => get_value_from_user_agent env condition.field
  | .IpBased =>
    match env.user.get_user_value condition.field with
    | some value => { value := some value }
    | none => get_value_from_ip env condition.field
  | .UserField => { value := env.user.get_user_value condition.field }
  | .EnvironmentField => { value := env.user.get_value_from_environment condition.field }
  | .CurrentTime => { value := some (DynamicValue.for_timestamp_evaluation env.now) }
  | .UserBucket => { value := some (get_hash_for_user_bucket env condition) }
  | .TargetApp => { value := env.app_id }
  | .UnitId => { value := env.user.get_unit_id condition.id_type }
  | _ => { value := none }

def is_in_id_list (env : EvaluatorEnv) (target_value : MemoizedEvaluatorValue)
    (value : DynamicValue) : Bool :=
  match target_value.string_value, value.string_value with
  | some list_name, some dyn_str =>
    let lookup_id := String.ofList ((env.hashing.sha256 dyn_str.value).toList.take 8)
    match env.id_list_resolver with
    | .MapLookup id_lists =>
      match id_lists.get list_name.value with
      | some ids => ids.contains lookup_id
      | none => false
    | .Callback callback => callback list_name.value lookup_id
  | _, _ => false

def evaluate_id_list (env : EvaluatorEnv) (op : String) (target_value : MemoizedEvaluatorValue)
    (value : DynamicValue) : Bool :=
  let is_in_list := is_in_id_list env target_value value
  if op = "not_in_segment_list" then !is_in_list else is_in_list

/-- The comparison of an operator, or `none` for an unknown operator. -/
def compare_with (env : EvaluatorEnv) (operator : String) (value : DynamicValue)
    (target_value : MemoizedEvaluatorValue) : Option Bool :=
  let cmp := env.comparisons
  if operator ∈ ["gt", "gte", "lt", "lte"] then
    some (cmp.compare_numbers value target_value operator)
  else if operator ∈ ["version_gt", "version_gte", "version_lt", "version_lte", "version_eq",
      "version_neq"] then
    some (cmp.compare_versions value target_value operator)
  else if operator ∈ ["any", "none", "str_starts_with_any", "str_ends_with_any",
      "str_contains_any", "str_contains_none"] then
    some (cmp.compare_strings_in_array value target_value operator true)
  else if operator ∈ ["any_case_sensitive", "none_case_sensitive"] then
    some (cmp.compare_strings_in_array value target_value operator false)
  else if operator = "str_matches" then
    some (cmp.compare_str_with_regex value target_value)
  else if operator ∈ ["before", "after", "on"] then
    some (cmp.compare_time value target_value operator)
  else if operator = "eq" then
    some (cmp.is_equal_to_dynamic_value target_value value)
  else if operator = "neq" then
    some (!cmp.is_equal_to_dynamic_value target_value value)
  else if operator ∈ ["in_segment_list", "not_in_segment_list"] then
    some (evaluate_id_list env operator target_value value)
  else if operator ∈ ["array_contains_any", "array_contains_none", "array_contains_all",
      "not_array_contains_all"] then
    some (cmp.compare_arrays value target_value operator)
  else none

/-- What the operator of a condition answers for a value, or `none` when the
condition has no operator or an unknown one. -/
def operator_outcome (env : EvaluatorEnv) (condition : Condition) (value : Option DynamicValue) :
    Option Bool :=
  condition.operator.bind fun operator =>
    compare_with env operator (value.getD DynamicValue.new) (target_of condition)

/-- The last part of `evaluate_condition`: the operator decides the boolean, or
the condition is unsupported. -/
def apply_operator (env : EvaluatorEnv) (condition : Condition) (value : Option DynamicValue)
    (ctx : EvaluatorContext) : EvaluatorContext :=
  match operator_outcome env condition value with
  | some b => ctx.set_bool b
  | none => ctx.set_unsupported

/-- A condition that reads its value from the user or the clock. -/
def evaluate_reading (env : EvaluatorEnv) (condition : Condition) (ctx : EvaluatorContext) :
    EvaluatorContext :=
  let reading := read_value env condition
  let ctx := match reading.override_reason with
    | some reason => { ctx with result.override_reason := some reason }
    | none => ctx
  apply_operator env condition reading.value ctx

/-! ## Nested gates -/

/-- The exposure of a nested gate, unless the gate is a segment or has no rule id. -/
def push_nested_exposure (gate_name : InternedString) (ctx : EvaluatorContext) :
    EvaluatorContext :=
  let is_empty_rule_id := match ctx.result.rule_id with
    | some id => id == ""
    | none => true
  if !starts_with gate_name "segment:" && !is_empty_rule_id then
    let expo : SecondaryExposure :=
      { gate := gate_name
        gate_value := from_bool ctx.result.bool_value
        rule_id := ctx.result.rule_id.getD "" }
    { ctx with
      result.has_seen_analytical_gates :=
        if ctx.result.sampling_rate.isNone then some true
        else ctx.result.has_seen_analytical_gates
      result.secondary_exposures := ctx.result.secondary_exposures ++ [expo] }
  else ctx

/-- The end of `evaluate_nested_gate`: the exposure of the gate, and the
negation of a `fail_gate` condition. -/
def record_nested_gate (gate_name : InternedString) (condition_type : ConditionType)
    (ctx : EvaluatorContext) : EvaluatorContext :=
  let ctx := push_nested_exposure gate_name ctx
  if condition_type = .FailGate then ctx.set_bool (!ctx.result.bool_value) else ctx

/-- A gate that the memo holds is not evaluated again. -/
def replay_nested_gate
    (memo : Bool × Option InternedString × List SecondaryExposure) (ctx : EvaluatorContext) :
    EvaluatorContext :=
  { ctx with
    result.bool_value := memo.1
    result.rule_id := memo.2.1
    result.secondary_exposures := ctx.result.secondary_exposures ++ memo.2.2 }

/-- The exposures of the outer evaluation are set aside for the nested one. -/
def take_exposures (ctx : EvaluatorContext) : EvaluatorContext :=
  { ctx with result.secondary_exposures := [] }

/-- A gate with a name goes to the memo, and the outer exposures come back before
the nested ones. -/
def memoize_nested_gate (gate_name : InternedString) (current_exposures : List SecondaryExposure)
    (ctx : EvaluatorContext) : EvaluatorContext :=
  let entry := (ctx.result.bool_value, ctx.result.rule_id, ctx.result.secondary_exposures)
  { ctx with
    nested_gate_memo :=
      if gate_name = "" then ctx.nested_gate_memo
      else HashMap.insert ctx.nested_gate_memo gate_name entry
    result.secondary_exposures := current_exposures ++ ctx.result.secondary_exposures }

def evaluate_nested_gate (rec : Recur) (target_value : MemoizedEvaluatorValue)
    (condition_type : ConditionType) : Eval Unit := do
  let gate_name := gate_name_of target_value
  let ctx ← state
  match ctx.nested_gate_memo.get gate_name with
  | some memo =>
    update fun ctx => record_nested_gate gate_name condition_type (replay_nested_gate memo ctx)
  | none => do
    prep_for_nested_evaluation
    let ctx ← state
    update take_exposures
    let _ ← rec gate_name .Gate
    let inner ← state
    if inner.result.unsupported then pure ()
    else update fun inner =>
      record_nested_gate gate_name condition_type <|
        memoize_nested_gate gate_name ctx.result.secondary_exposures inner

/-- `Statsig::get_experiment_with_options`, as far as the group name goes: the
experiment is evaluated in a brand-new context, and an error gives no group. -/
def get_experiment_group_name (rec : Recur) (experiment_name : String) : Eval (Option String) :=
  fun ctx =>
    match rec experiment_name .Experiment { draws := ctx.draws } with
    | .ok _ inner => .ok inner.result.group_name { ctx with draws := inner.draws }
    | .err _ inner => .ok none { ctx with draws := inner.draws }
    | .deep => .deep

def evaluate_experiment_group (env : EvaluatorEnv) (rec : Recur)
    (experiment_name : Option DynamicString) : Eval (Option String) :=
  match experiment_name with
  | none => pure none
  | some name =>
    if env.statsig then get_experiment_group_name rec name.value
    else do
      update set_unsupported
      pure none

def evaluate_condition (env : EvaluatorEnv) (rec : Recur) (condition : Condition) : Eval Unit :=
  match type_of condition with
  | .Public => update fun ctx => ctx.set_bool true
  | .FailGate => evaluate_nested_gate rec (target_of condition) .FailGate
  | .PassGate => evaluate_nested_gate rec (target_of condition) .PassGate
  | .ExperimentGroup => do
    let group_name ← evaluate_experiment_group env rec condition.field
    update (apply_operator env condition (group_name.map env.parsers.from_string))
  | .Unknown => update set_unsupported
  | _ => update (evaluate_reading env condition)

/-! ## Rules -/

/-- The loop of `evaluate_rule`. Every condition is evaluated, also after one
that fails. A missing condition ends the loop at once. -/
def evaluate_conditions (env : EvaluatorEnv) (rec : Recur) : List InternedString → Bool → Eval Unit
  | [], all_conditions_pass => update fun ctx => ctx.set_bool all_conditions_pass
  | condition_hash :: hashes, all_conditions_pass =>
    match env.specs_data.condition_map.get condition_hash with
    | none => update set_unsupported
    | some condition => do
      evaluate_condition env rec condition
      let ctx ← state
      evaluate_conditions env rec hashes (all_conditions_pass && ctx.result.bool_value)

def evaluate_rule (env : EvaluatorEnv) (rec : Recur) (rule : Rule) : Eval Unit :=
  evaluate_conditions env rec rule.conditions true

def evaluate_pass_percentage (env : EvaluatorEnv) (rule : Rule) (spec_salt : InternedString) :
    Bool :=
  if rule.pass_percentage = 100 then true
  else if rule.pass_percentage = 0 then false
  else
    let rule_salt := rule.salt.getD rule.id
    match env.hashing.evaluation_hash_dot3 spec_salt rule_salt (get_unit_id env rule.id_type) with
    | some hash => ((hash % 10000 : Nat) : F64) < env.f64_round (rule.pass_percentage * 100)
    | none => false

/-- The delegate's own fields, once its evaluation is done. -/
def accept_delegate (rule : Rule) (delegate_spec : Spec) (ctx : EvaluatorContext) :
    EvaluatorContext :=
  { ctx with
    result.explicit_parameters := delegate_spec.explicit_parameters
    result.config_delegate := rule.config_delegate }

def evaluate_config_delegate (env : EvaluatorEnv) (rec : Recur) (rule : Rule) : Eval Bool :=
  match rule.config_delegate with
  | none => pure false
  | some delegate =>
    match env.specs_data.dynamic_configs.get delegate with
    | none => pure false
    | some delegate_spec => do
      update fun ctx => { ctx with
        result.undelegated_secondary_exposures := some ctx.result.secondary_exposures }
      prep_for_nested_evaluation
      let recognition ← rec delegate .Experiment
      if recognition = .Unrecognized then do
        update fun ctx => { ctx with result.undelegated_secondary_exposures := none }
        pure false
      else do
        update (accept_delegate rule delegate_spec)
        pure true

def rule_matches_filter (ctx : EvaluatorContext) (rule : Rule) : Bool :=
  (ctx.only_evaluate_targeting && rule.is_targeting_rule) ||
    (ctx.only_evaluate_overrides && rule.is_override_rule)

def spec_has_filtered_rule (ctx : EvaluatorContext) (spec : Spec) : Bool :=
  spec.rules.any (rule_matches_filter ctx)

/-! ## The layers that merge their rules -/

/-- The parameters that no earlier rule set get their value and their rule id. -/
def update_parameter_values (rule_id : InternedString) :
    HashMap String JsonValue → HashMap String JsonValue × HashMap InternedString InternedString →
      HashMap String JsonValue × HashMap InternedString InternedString
  | [], acc => acc
  | (k, v) :: entries, (value, rule_ids) =>
    update_parameter_values rule_id entries
      (if (value.get k).isSome then (value, rule_ids)
        else (HashMap.insert value k v, HashMap.insert rule_ids k rule_id))

/-- The local variables of `new_layer_eval`. -/
structure LayerState where
  has_passed_rule : Bool := false
  passed : Bool := false
  rule_id : InternedString := default_rule_id
  delegate_name : Option InternedString := none
  rule_ids : HashMap InternedString InternedString := []
  value : HashMap String JsonValue := []
  group_name : Option InternedString := none
  is_experiment_group : Bool := false
  explicit_parameters : Option (List InternedString) := none
  secondary_exposures : List SecondaryExposure := []
  undelegated_secondary_exposures : List SecondaryExposure := []

def LayerState.update (s : LayerState) (values : Option (HashMap String JsonValue))
    (rule_id : InternedString) : LayerState :=
  match values with
  | none => s
  | some map =>
    let (value, rule_ids) := update_parameter_values rule_id map (s.value, s.rule_ids)
    { s with value, rule_ids }

/-- The exposures of a rule move to the layer. The first append empties the
exposures of the result, so the second one appends nothing. -/
def LayerState.append_exposures (s : LayerState) (ctx : EvaluatorContext) : LayerState :=
  { s with
    secondary_exposures := s.secondary_exposures ++ ctx.result.secondary_exposures
    undelegated_secondary_exposures :=
      s.undelegated_secondary_exposures ++ (take_exposures ctx).result.secondary_exposures }

/-- The delegate's value, when it sets no parameter that is set already. -/
def LayerState.accept (s : LayerState) (rule : Rule) (value : DynamicReturnable)
    (ctx : EvaluatorContext) : LayerState :=
  { s.update value.get_json rule.id with
    secondary_exposures := s.secondary_exposures ++ ctx.result.secondary_exposures
    passed := ctx.result.bool_value
    delegate_name := ctx.result.config_delegate
    group_name := ctx.result.group_name
    rule_id := rule.id
    is_experiment_group := rule.is_experiment_group.getD false
    explicit_parameters := ctx.result.explicit_parameters
    has_passed_rule := true }

def LayerState.reuses (s : LayerState) (value : DynamicReturnable) : Bool :=
  match value.get_json with
  | some map => map.any fun e => (s.value.get e.1).isSome
  | none => false

/-- The end of `new_layer_eval`. -/
def LayerState.finish (s : LayerState) (spec : Spec) (ctx : EvaluatorContext) : EvaluatorContext :=
  let s := s.update spec.default_value.get_json default_rule_id
  let ctx := { ctx with
    result.bool_value := s.passed
    result.config_delegate := s.delegate_name
    result.group_name := s.group_name
    result.rule_id := some s.rule_id
    result.json_value := some (DynamicReturnable.from_map s.value)
    result.is_experiment_group := s.is_experiment_group
    result.is_experiment_active := spec.is_active.getD false
    result.explicit_parameters := s.explicit_parameters
    result.secondary_exposures := s.secondary_exposures
    result.undelegated_secondary_exposures := some s.undelegated_secondary_exposures
    result.parameter_rule_ids := some s.rule_ids }
  ctx.finalize_evaluation spec none

def new_layer_rules (env : EvaluatorEnv) (rec : Recur) (spec : Spec) (filter_active : Bool) :
    List Rule → LayerState → Eval Recognition
  | [], s => do
    update (s.finish spec)
    pure .Recognized
  | rule :: rules, s => do
    let ctx ← state
    if filter_active && !rule_matches_filter ctx rule then
      new_layer_rules env rec spec filter_active rules s
    else do
      evaluate_rule env rec rule
      let ctx ← state
      let s := s.append_exposures ctx
      update take_exposures
      if ctx.result.unsupported then pure .Recognized
      else if !ctx.result.bool_value then new_layer_rules env rec spec filter_active rules s
      else if !evaluate_pass_percentage env rule spec.salt then
        new_layer_rules env rec spec filter_active rules s
      else do
        if ← evaluate_config_delegate env rec rule then do
          let ctx ← state
          if s.has_passed_rule then new_layer_rules env rec spec filter_active rules s
          else
            match ctx.result.json_value with
            | none => new_layer_rules env rec spec filter_active rules s
            | some value =>
              if s.reuses value then new_layer_rules env rec spec filter_active rules s
              else do
                update take_exposures
                new_layer_rules env rec spec filter_active rules (s.accept rule value ctx)
        else do
          let ctx ← state
          let s := { s.update rule.return_value.get_json rule.id with
            passed := ctx.result.bool_value
            has_passed_rule := true }
          new_layer_rules env rec spec filter_active rules s

def new_layer_eval (env : EvaluatorEnv) (rec : Recur) (spec : Spec) : Eval Recognition := do
  let ctx ← state
  let filter_active :=
    ctx.nested_count == 0 && (ctx.only_evaluate_targeting || ctx.only_evaluate_overrides)
  if filter_active && !spec_has_filtered_rule ctx spec then do
    update fun ctx => (ctx.set_bool false).finalize_evaluation spec none
    pure .Recognized
  else new_layer_rules env rec spec filter_active spec.rules {}

/-! ## Specs -/

/-- The rule that passes decides the value, by its pass percentage. -/
def apply_rule (spec : Spec) (rule : Rule) (did_pass : Bool) (ctx : EvaluatorContext) :
    EvaluatorContext :=
  let ctx := { ctx with
    result.bool_value :=
      if did_pass then rule.return_value.get_bool != some false
      else spec.default_value.get_bool == some true
    result.json_value := if did_pass then some rule.return_value else some spec.default_value
    result.rule_id := some rule.id
    result.group_name := rule.group_name
    result.is_experiment_group := rule.is_experiment_group.getD false
    result.is_experiment_active := spec.is_active.getD false }
  ctx.finalize_evaluation spec (some rule)

/-- No rule passes: the spec's default. -/
def apply_default (spec : Spec) (ctx : EvaluatorContext) : EvaluatorContext :=
  let ctx := { ctx with
    result.bool_value := spec.default_value.get_bool == some true
    result.json_value := some spec.default_value
    result.rule_id := some (if spec.enabled then default_rule_id else DISABLED_RULE) }
  ctx.finalize_evaluation spec none

/-- The loop over the rules of a spec: the first rule that passes decides. -/
def evaluate_rules (env : EvaluatorEnv) (rec : Recur) (spec : Spec) (filter_active : Bool) :
    List Rule → Eval Recognition
  | [] => do
    update (apply_default spec)
    pure .Recognized
  | rule :: rules => do
    let ctx ← state
    if filter_active && !rule_matches_filter ctx rule then
      evaluate_rules env rec spec filter_active rules
    else do
      evaluate_rule env rec rule
      let ctx ← state
      if ctx.result.unsupported then pure .Recognized
      else if !ctx.result.bool_value then evaluate_rules env rec spec filter_active rules
      else do
        if ← evaluate_config_delegate env rec rule then do
          update fun ctx => ctx.finalize_evaluation spec none
          pure .Recognized
        else do
          update (apply_rule spec rule (evaluate_pass_percentage env rule spec.salt))
          pure .Recognized

/-- The fields that a spec sets before its rules: the outermost spec gives the
name, the id type and the version. -/
def begin_spec (spec_name : String) (spec : Spec) (ctx : EvaluatorContext) : EvaluatorContext :=
  { ctx with
    result.name := ctx.result.name.or (some spec_name)
    result.id_type := ctx.result.id_type.or (some spec.id_type)
    result.version := ctx.result.version.or spec.version
    result.is_experiment_active := spec.is_active.getD ctx.result.is_experiment_active
    result.is_in_layer := spec.has_shared_params.getD ctx.result.is_in_layer
    result.explicit_parameters := spec.explicit_parameters.or ctx.result.explicit_parameters }

/-- The second half of `Evaluator::evaluate`, once no override, mapping or bandit
applies. -/
def evaluate_spec (env : EvaluatorEnv) (rec : Recur) (filter_active : Bool) (spec_name : String)
    (spec_type : SpecType) (opt_spec : Option Spec) : Eval Recognition :=
  match opt_spec with
  | none => pure .Unrecognized
  | some spec => do
    update (begin_spec spec_name spec)
    if spec.use_new_layer_eval = some true ∧ spec_type = .Layer then new_layer_eval env rec spec
    else do
      let ctx ← state
      if filter_active && !spec_has_filtered_rule ctx spec then do
        update fun ctx => (ctx.set_bool false).finalize_evaluation spec none
        pure .Recognized
      else evaluate_rules env rec spec filter_active spec.rules

/-! ## Overrides and config mappings -/

def try_apply_override (env : EvaluatorEnv) (spec_name : String) (spec_type : SpecType)
    (opt_spec : Option Spec) : Eval Bool := fun ctx =>
  match env.override_adapter with
  | none => .ok false ctx
  | some adapter =>
    let data := env.user.data
    let (applied, result) := match spec_type with
      | .Gate => adapter.get_gate_override data spec_name ctx.result
      | .DynamicConfig => adapter.get_dynamic_config_override data spec_name ctx.result
      | .Experiment => adapter.get_experiment_override data spec_name ctx.result opt_spec
      | .Layer => adapter.get_layer_override data spec_name ctx.result
      | .ParameterStore => adapter.get_parameter_store_override data spec_name ctx.result
    .ok applied { ctx with result }

/-- The rule of an override rule that has started, or `none`. -/
def started_rule (env : EvaluatorEnv) (override_rules : HashMap String Rule)
    (override_rule : OverrideRule) : Option Rule :=
  if override_rule.start_time.getD 0 > env.now then none
  else override_rules.get override_rule.rule_name

/-- The loop over the override rules of one mapping. `true` ends the whole
search, `false` goes on with the next mapping. -/
def try_override_rules (env : EvaluatorEnv) (rec : Recur) (spec_type : SpecType)
    (spec_salt new_config_name : InternedString) (override_rules : HashMap String Rule) :
    List OverrideRule → Eval Bool
  | [] => pure false
  | override_rule :: rest =>
    match started_rule env override_rules override_rule with
    | none =>
      try_override_rules env rec spec_type spec_salt new_config_name override_rules rest
    | some rule => do
      let evaluated ← attempt (evaluate_rule env rec rule)
      let ctx ← state
      update EvaluatorContext.reset_result
      if evaluated.isOk && ctx.result.bool_value && !ctx.result.unsupported &&
          evaluate_pass_percentage env rule spec_salt then do
        update fun ctx => { ctx with result.override_config_name := some new_config_name }
        let recognition ← attempt (rec new_config_name spec_type)
        match recognition with
        | .ok .Recognized => pure true
        | _ => do
          update EvaluatorContext.reset_result
          pure false
      else try_override_rules env rec spec_type spec_salt new_config_name override_rules rest

def try_mappings (env : EvaluatorEnv) (rec : Recur) (spec_type : SpecType)
    (spec_salt : InternedString) (override_rules : HashMap String Rule) :
    List ConfigMapping → Eval Bool
  | [] => pure false
  | mapping :: mapping_list => do
    if ← try_override_rules env rec spec_type spec_salt mapping.new_config_name override_rules
        mapping.rules then pure true
    else try_mappings env rec spec_type spec_salt override_rules mapping_list

def try_apply_config_mapping (env : EvaluatorEnv) (rec : Recur) (spec_name : String)
    (spec_type : SpecType) (opt_spec : Option Spec) : Eval Bool :=
  match env.specs_data.overrides, env.specs_data.override_rules with
  | some overrides, some override_rules =>
    match overrides.get spec_name with
    | none => pure false
    | some mapping_list =>
      let spec_salt := match opt_spec with
        | some spec => spec.salt
        | none => ""
      try_mappings env rec spec_type spec_salt override_rules mapping_list
  | _, _ => pure false

/-! ## Evaluator::evaluate -/

def find_spec (specs_data : SpecsResponseFull) (spec_name : String) : SpecType → Option Spec
  | .Gate => specs_data.feature_gates.get spec_name
  | .DynamicConfig => specs_data.dynamic_configs.get spec_name
  | .Experiment => specs_data.dynamic_configs.get spec_name
  | .Layer => specs_data.layer_configs.get spec_name
  | .ParameterStore => none

def evaluate_param_store_reason (env : EvaluatorEnv) (spec_name : String) : Recognition :=
  if spec_name ∈ env.specs_data.param_stores.getD [] then .Recognized else .Unrecognized

/-- One call of `Evaluator::evaluate`, with its recursive calls as an argument. -/
def evaluate_with (env : EvaluatorEnv) (rec : Recur) : Recur := fun spec_name spec_type =>
  if spec_type = .ParameterStore then pure (evaluate_param_store_reason env spec_name)
  else do
    let ctx ← state
    let filter_active :=
      ctx.nested_count == 0 && (ctx.only_evaluate_targeting || ctx.only_evaluate_overrides)
    let opt_spec := find_spec env.specs_data spec_name spec_type
    if filter_active then evaluate_spec env rec true spec_name spec_type opt_spec
    else do
      if ← try_apply_override env spec_name spec_type opt_spec then pure .Recognized
      else do
        if ← try_apply_config_mapping env rec spec_name spec_type opt_spec then pure .Recognized
        else do
          if ← evaluate_cmab env rec spec_name spec_type then pure .Recognized
          else evaluate_spec env rec false spec_name spec_type opt_spec

/-- `Evaluator::evaluate` with room for `depth` calls on the stack. A run that
would need more ends in `deep`. -/
def evaluate (env : EvaluatorEnv) : Nat → Recur
  | 0 => fun _ _ _ => .deep
  | depth + 1 => evaluate_with env (evaluate env depth)

end statsig_rust.evaluation
