-- The steps that one call of `evaluate` takes: the rules that it evaluates and the calls that it
-- makes, each with the context that it starts from. They follow the run, so a rule behind one
-- that decides is no step, and neither is a gate that the memo holds.
import Mathlib.Logic.Relation
import StatsigCore.Library.Graph
import StatsigCore.Evaluation.Calls

open program Relation

namespace statsig_rust.evaluation

inductive Step where
  /-- A rule of the spec is evaluated. -/
  | asks (rule : Rule) (ctx : EvaluatorContext)
  /-- A rule of a config mapping is evaluated. -/
  | tries (rule : Rule)
  /-- The limit on nesting is checked. -/
  | checks (ctx : EvaluatorContext)
  /-- A gate, a delegate or a targeting gate is evaluated, after the limit check. -/
  | nests (node : Node) (ctx : EvaluatorContext)
  /-- An experiment is evaluated for its group, in a context of its own. -/
  | groups (node : Node) (ctx : EvaluatorContext)
  /-- The target of a config mapping is evaluated. -/
  | maps (node : Node) (ctx : EvaluatorContext)

/-! ## The steps of a run -/

section Steps

variable (env : EvaluatorEnv) (rec : Recur)

def nested_gate_steps (target : MemoizedEvaluatorValue) (ctx : EvaluatorContext) : List Step :=
  let gate := gate_name_of target
  match ctx.nested_gate_memo.get gate with
  | some _ => []
  | none =>
    .checks ctx :: onward (prep_for_nested_evaluation ctx) fun _ prepped =>
      [.nests (.Gate, gate) (take_exposures prepped)]

def experiment_group_steps (experiment_name : Option DynamicString) (ctx : EvaluatorContext) :
    List Step :=
  match experiment_name with
  | none => []
  | some name =>
    if env.statsig then [.groups (.Experiment, name.value) { draws := ctx.draws }] else []

def condition_steps (condition : Condition) (ctx : EvaluatorContext) : List Step :=
  match type_of condition with
  | .FailGate | .PassGate => nested_gate_steps (target_of condition) ctx
  | .ExperimentGroup => experiment_group_steps env condition.field ctx
  | _ => []

def conditions_steps : List InternedString → EvaluatorContext → List Step
  | [], _ => []
  | hash :: hashes, ctx =>
    match env.specs_data.condition_map.get hash with
    | none => []
    | some condition =>
      condition_steps env condition ctx ++
        onward (evaluate_condition env rec condition ctx) fun _ => conditions_steps hashes

def delegate_steps (rule : Rule) (ctx : EvaluatorContext) : List Step :=
  match rule.config_delegate with
  | none => []
  | some delegate =>
    match env.specs_data.dynamic_configs.get delegate with
    | none => []
    | some _ =>
      let ctx := { ctx with
        result.undelegated_secondary_exposures := some ctx.result.secondary_exposures }
      .checks ctx :: onward (prep_for_nested_evaluation ctx) fun _ prepped =>
        [.nests (.Experiment, delegate) prepped]

def rules_steps (filter_active : Bool) : List Rule → EvaluatorContext → List Step
  | [], _ => []
  | rule :: rules, ctx =>
    if filter_active && !rule_matches_filter ctx rule then rules_steps filter_active rules ctx
    else
      .asks rule ctx :: (conditions_steps env rec rule.conditions ctx ++
        onward (evaluate_rule env rec rule ctx) fun _ asked =>
          if asked.result.unsupported then []
          else if !asked.result.bool_value then rules_steps filter_active rules asked
          else delegate_steps env rule asked)

def layer_steps (spec : Spec) (filter_active : Bool) :
    List Rule → LayerState → EvaluatorContext → List Step
  | [], _, _ => []
  | rule :: rules, s, ctx =>
    if filter_active && !rule_matches_filter ctx rule then
      layer_steps spec filter_active rules s ctx
    else
      .asks rule ctx :: (conditions_steps env rec rule.conditions ctx ++
        onward (evaluate_rule env rec rule ctx) fun _ asked =>
          let s := s.append_exposures asked
          let ctx := take_exposures asked
          if asked.result.unsupported then []
          else if !asked.result.bool_value then layer_steps spec filter_active rules s ctx
          else if !evaluate_pass_percentage env rule spec.salt then
            layer_steps spec filter_active rules s ctx
          else
            delegate_steps env rule ctx ++
              onward (evaluate_config_delegate env rec rule ctx) fun delegated ctx =>
                if delegated then
                  if s.has_passed_rule then layer_steps spec filter_active rules s ctx
                  else
                    match ctx.result.json_value with
                    | none => layer_steps spec filter_active rules s ctx
                    | some value =>
                      if s.reuses value then layer_steps spec filter_active rules s ctx
                      else layer_steps spec filter_active rules (s.accept rule value ctx)
                        (take_exposures ctx)
                else
                  layer_steps spec filter_active rules
                    { s.update rule.return_value.get_json rule.id with
                      passed := ctx.result.bool_value
                      has_passed_rule := true } ctx)

def spec_steps (filter_active : Bool) (spec_name : String) (spec_type : SpecType)
    (opt_spec : Option Spec) (ctx : EvaluatorContext) : List Step :=
  match opt_spec with
  | none => []
  | some spec =>
    let ctx := begin_spec spec_name spec ctx
    if spec.use_new_layer_eval = some true ∧ spec_type = .Layer then
      let filter_active :=
        ctx.nested_count == 0 && (ctx.only_evaluate_targeting || ctx.only_evaluate_overrides)
      if filter_active && !spec_has_filtered_rule ctx spec then []
      else layer_steps env rec spec filter_active spec.rules {} ctx
    else if filter_active && !spec_has_filtered_rule ctx spec then []
    else rules_steps env rec filter_active spec.rules ctx

def targeting_steps (cmab : CMABConfig) (ctx : EvaluatorContext) : List Step :=
  match cmab.targeting_gate_name with
  | none => []
  | some gate =>
    .checks ctx :: onward (prep_for_nested_evaluation ctx) fun _ prepped =>
      [.nests (.Gate, gate) prepped]

def cmab_steps (spec_name : String) (spec_type : SpecType) (ctx : EvaluatorContext) : List Step :=
  match spec_type, env.specs_data.cmab_configs with
  | .Experiment, some cmabs =>
    match cmabs.get spec_name with
    | none => []
    | some cmab => if !is_cmab_started cmab then [] else targeting_steps cmab ctx
  | _, _ => []

def override_rules_steps (spec_type : SpecType) (spec_salt new_config_name : InternedString)
    (override_rules : HashMap String Rule) : List OverrideRule → EvaluatorContext → List Step
  | [], _ => []
  | override_rule :: rest, ctx =>
    match started_rule env override_rules override_rule with
    | none => override_rules_steps spec_type spec_salt new_config_name override_rules rest ctx
    | some rule =>
      .tries rule :: (conditions_steps env rec rule.conditions ctx ++
        onward (attempt (evaluate_rule env rec rule) ctx) fun evaluated tried =>
          if evaluated.isOk && tried.result.bool_value && !tried.result.unsupported &&
              evaluate_pass_percentage env rule spec_salt then
            [.maps (spec_type, new_config_name) { tried.reset_result with
              result.override_config_name := some new_config_name }]
          else
            override_rules_steps spec_type spec_salt new_config_name override_rules rest
              tried.reset_result)

def mappings_steps (spec_type : SpecType) (spec_salt : InternedString)
    (override_rules : HashMap String Rule) : List ConfigMapping → EvaluatorContext → List Step
  | [], _ => []
  | mapping :: mapping_list, ctx =>
    override_rules_steps env rec spec_type spec_salt mapping.new_config_name override_rules
        mapping.rules ctx ++
      onward (try_override_rules env rec spec_type spec_salt mapping.new_config_name
        override_rules mapping.rules ctx) fun applied ctx =>
          if applied then [] else mappings_steps spec_type spec_salt override_rules mapping_list ctx

def config_mapping_steps (spec_name : String) (spec_type : SpecType) (opt_spec : Option Spec)
    (ctx : EvaluatorContext) : List Step :=
  match env.specs_data.overrides, env.specs_data.override_rules with
  | some overrides, some override_rules =>
    match overrides.get spec_name with
    | none => []
    | some mapping_list =>
      mappings_steps env rec spec_type (salt_of opt_spec) override_rules mapping_list ctx
  | _, _ => []

/-- The steps of one call of `Evaluator::evaluate`. -/
def steps_with (spec_name : String) (spec_type : SpecType) (ctx : EvaluatorContext) : List Step :=
  if spec_type = .ParameterStore then []
  else
    let filter_active :=
      ctx.nested_count == 0 && (ctx.only_evaluate_targeting || ctx.only_evaluate_overrides)
    let opt_spec := find_spec env.specs_data spec_name spec_type
    if filter_active then spec_steps env rec true spec_name spec_type opt_spec ctx
    else
      onward (try_apply_override env spec_name spec_type opt_spec ctx) fun overridden ctx =>
        if overridden then []
        else
          config_mapping_steps env rec spec_name spec_type opt_spec ctx ++
            onward (try_apply_config_mapping env rec spec_name spec_type opt_spec ctx)
              fun mapped ctx =>
                if mapped then []
                else
                  cmab_steps env spec_name spec_type ctx ++
                    onward (evaluate_cmab env rec spec_name spec_type ctx) fun applied ctx =>
                      if applied then []
                      else spec_steps env rec false spec_name spec_type opt_spec ctx

end Steps

/-- Where its rules decide, a call takes the steps of the spec. -/
theorem mem_steps_with {env : EvaluatorEnv} {rec : Recur} {node : Node} {ctx : EvaluatorContext}
    {step : Step} (h : ¬ LeavesEarly env node)
    (hstep : step ∈ spec_steps env rec (filter_active ctx) node.2 node.1 (spec_of env node) ctx) :
    step ∈ steps_with env rec node.2 node.1 ctx := by
  unfold LeavesEarly at h
  push Not at h
  obtain ⟨hspec, hoverride, hmapped, hbandit⟩ := h
  have hstore : node.1 ≠ .ParameterStore := by
    intro hstore
    unfold spec_of at hspec
    rw [hstore] at hspec
    exact hspec rfl
  have hmapping : ∀ mapping rule, ¬ MappingRule env node.2 mapping rule :=
    fun mapping rule hrule => hmapped ⟨mapping, rule, hrule⟩
  unfold Untouched spec_of at hoverride
  unfold filter_active spec_of at hstep
  unfold steps_with
  rw [if_neg hstore]
  dsimp only
  split
  · rename_i hfilter
    rwa [hfilter] at hstep
  · rename_i hfilter
    rw [Bool.eq_false_iff.mpr hfilter] at hstep
    rw [hoverride, try_apply_config_mapping_skips rec hmapping, evaluate_cmab_skips rec hbandit]
    exact List.mem_append_right _ (List.mem_append_right _ hstep)

/-! ## Calls that make calls -/

/-- A call of `Evaluator::evaluate`, by the spec and the context that it starts from. -/
structure Call where
  node : Node
  ctx : EvaluatorContext

namespace Call

variable (env : EvaluatorEnv)

def run (depth : Nat) (a : Call) : Outcome EvaluatorContext StatsigErr Recognition :=
  evaluate env depth a.node.2 a.node.1 a.ctx

/-- The steps of a run whose own calls have room for `depth` calls more. -/
def steps (depth : Nat) (a : Call) : List Step :=
  steps_with env (evaluate env depth) a.node.2 a.node.1 a.ctx

/-- A run of the call takes the step, with room enough. -/
def Takes (a : Call) (step : Step) : Prop := ∃ depth, step ∈ a.steps env depth

/-- The first call evaluates the second one after `prep_for_nested_evaluation`. -/
def Nests (a b : Call) : Prop := a.Takes env (.nests b.node b.ctx)

/-- The first call makes the second one. -/
def Makes (a b : Call) : Prop :=
  a.Nests env b ∨ a.Takes env (.groups b.node b.ctx) ∨ a.Takes env (.maps b.node b.ctx)

/-- The first call makes the second one in its own context. -/
def InPlace (a b : Call) : Prop := a.Nests env b ∨ a.Takes env (.maps b.node b.ctx)

end Call

end statsig_rust.evaluation
