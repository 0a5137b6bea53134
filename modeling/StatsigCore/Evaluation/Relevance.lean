-- What an evaluation reads of the specs and of the user: the specs that it can reach by their
-- references, with their conditions, mappings and bandits, and the fields and ids of the user that
-- these name. Whatever else a download changes, and whatever else is known of the user, the outcome
-- is the same. The references may form cycles.
import Mathlib.Logic.Relation
import StatsigCore.Evaluation.Calls

open program

namespace statsig_rust.evaluation

/-- The scores of the groups of the bandits. They are computed from the user. -/
abbrev GroupScores := CMABGroup → HashMap String CMABGroupConfig → Option F64

variable {env env' : EvaluatorEnv} {specs : SpecsResponseFull} {user : StatsigUserInternal}
  {scores : GroupScores} {rec rec' : Recur}

/-- The same evaluation over other specs, for another user. -/
def EvaluatorEnv.over (env : EvaluatorEnv) (specs : SpecsResponseFull) (user : StatsigUserInternal)
    (scores : GroupScores) : EvaluatorEnv :=
  { env with specs_data := specs, user := user, cmab_score := scores }

/-- The same evaluation over other specs. -/
abbrev EvaluatorEnv.with_specs (env : EvaluatorEnv) (specs : SpecsResponseFull) : EvaluatorEnv :=
  env.over specs env.user env.cmab_score

/-- The same evaluation for another user. -/
abbrev EvaluatorEnv.for_user (env : EvaluatorEnv) (user : StatsigUserInternal)
    (scores : GroupScores) :
    EvaluatorEnv := env.over env.specs_data user scores

/-! ## What is read for one spec -/

/-- The mappings of a config, if the specs have mappings and override rules at all. -/
def mappings_of (specs : SpecsResponseFull) (spec_name : String) : Option (List ConfigMapping) :=
  match specs.overrides, specs.override_rules with
  | some overrides, some _ => overrides.get spec_name
  | _, _ => none

def override_rule_of (specs : SpecsResponseFull) (rule_name : String) : Option Rule :=
  specs.override_rules.bind fun override_rules => override_rules.get rule_name

def bandit_of (specs : SpecsResponseFull) (spec_name : String) : Option CMABConfig :=
  specs.cmab_configs.bind fun cmabs => cmabs.get spec_name

def SameUnit (env env' : EvaluatorEnv) (id_type : DynamicString) : Prop :=
  get_unit_id env id_type = get_unit_id env' id_type

/-- The two environments agree on the conditions of the rule, and on what these read. -/
def SameConditions (env env' : EvaluatorEnv) (rule : Rule) : Prop :=
  ∀ hash ∈ rule.conditions,
    env.specs_data.condition_map.get hash = env'.specs_data.condition_map.get hash ∧
      ∀ condition ∈ env.specs_data.condition_map.get hash,
        read_value env condition = read_value env' condition

/-- They agree on the id that puts the user below or above the pass percentage too. -/
structure SameRule (env env' : EvaluatorEnv) (rule : Rule) : Prop where
  conditions : SameConditions env env' rule
  unit : SameUnit env env' rule.id_type

/-- They agree on the unit that a bandit is about, and on the scores of its groups. -/
structure SameBandit (env env' : EvaluatorEnv) (cmab : CMABConfig) : Prop where
  unit : SameUnit env env' cmab.id_type
  scores : ∀ config ∈ cmab.config, ∀ group ∈ cmab.groups,
    env.cmab_score group config = env'.cmab_score group config

/-- The two environments agree on the mappings and the bandit of the node. -/
structure SameAround (env env' : EvaluatorEnv) (node : Node) : Prop where
  override : ∀ opt_spec, try_apply_override env node.2 node.1 opt_spec =
    try_apply_override env' node.2 node.1 opt_spec
  mappings : mappings_of env.specs_data node.2 = mappings_of env'.specs_data node.2
  override_rules : ∀ mapping_list ∈ mappings_of env.specs_data node.2, ∀ mapping ∈ mapping_list,
    ∀ override_rule ∈ mapping.rules,
      override_rule_of env.specs_data override_rule.rule_name =
        override_rule_of env'.specs_data override_rule.rule_name
  mapping_rules : ∀ mapping rule, MappingRule env node.2 mapping rule → SameRule env env' rule
  bandit : node.1 = .Experiment → bandit_of env.specs_data node.2 = bandit_of env'.specs_data node.2 ∧
    ∀ cmab ∈ bandit_of env.specs_data node.2, SameBandit env env' cmab

/-- The two environments agree on all that a call for the node reads itself. -/
structure SameAt (env env' : EvaluatorEnv) (node : Node) : Prop
    extends SameAround env env' node where
  spec : find_spec env.specs_data node.2 node.1 = find_spec env'.specs_data node.2 node.1
  spec_rules : ∀ spec, find_spec env.specs_data node.2 node.1 = some spec → ∀ rule ∈ spec.rules,
    SameRule env env' rule
  delegates : ∀ spec, find_spec env.specs_data node.2 node.1 = some spec → ∀ rule ∈ spec.rules,
    ∀ delegate ∈ rule.config_delegate,
      env.specs_data.dynamic_configs.get delegate = env'.specs_data.dynamic_configs.get delegate
  param_store : node.1 = .ParameterStore →
    (node.2 ∈ env.specs_data.param_stores.getD [] ↔ node.2 ∈ env'.specs_data.param_stores.getD [])

/-- A mapping that may take the first node to the second one. -/
def MayMapTo (env : EvaluatorEnv) (a b : Node) : Prop :=
  b.1 = a.1 ∧ ∃ mapping rule, MappingRule env a.2 mapping rule ∧ b.2 = mapping.new_config_name

/-- The evaluation of the first node may evaluate the second one. -/
def Mentions (env : EvaluatorEnv) (a b : Node) : Prop :=
  Nests env a b ∨ AsksGroup env a b ∨ MayMapTo env a b

/-! ## Conditions -/

theorem evaluate_nested_gate_congr {target : MemoizedEvaluatorValue} (ty : ConditionType)
    (h : rec (gate_name_of target) .Gate = rec' (gate_name_of target) .Gate) :
    evaluate_nested_gate rec target ty = evaluate_nested_gate rec' target ty := by
  unfold evaluate_nested_gate
  simp only [h]

theorem evaluate_experiment_group_congr {name : Option DynamicString}
    (h : ∀ field ∈ name, env.statsig = true →
      rec field.value .Experiment = rec' field.value .Experiment) :
    evaluate_experiment_group env rec name =
      evaluate_experiment_group (env.over specs user scores) rec' name := by
  unfold evaluate_experiment_group
  cases name with
  | none => rfl
  | some field =>
    dsimp only [EvaluatorEnv.over]
    by_cases hstatsig : env.statsig = true
    · simp only [hstatsig, ↓reduceIte]
      unfold get_experiment_group_name
      rw [h field rfl hstatsig]
    · simp only [hstatsig, Bool.false_eq_true, ↓reduceIte]

/-- The operators do not look at the user. -/
theorem evaluate_reading_congr {condition : Condition}
    (hread : read_value env condition = read_value (env.over specs user scores) condition) :
    evaluate_reading env condition = evaluate_reading (env.over specs user scores) condition := by
  funext ctx
  unfold evaluate_reading
  rw [← hread]
  rfl

theorem evaluate_condition_congr {condition : Condition}
    (hread : read_value env condition = read_value (env.over specs user scores) condition)
    (hgate : type_of condition = .PassGate ∨ type_of condition = .FailGate →
      rec (gate_name_of (target_of condition)) .Gate =
        rec' (gate_name_of (target_of condition)) .Gate)
    (hgroup : type_of condition = .ExperimentGroup → ∀ field ∈ condition.field,
      env.statsig = true → rec field.value .Experiment = rec' field.value .Experiment) :
    evaluate_condition env rec condition =
      evaluate_condition (env.over specs user scores) rec' condition := by
  unfold evaluate_condition
  cases htype : type_of condition with
  | FailGate => exact evaluate_nested_gate_congr _ (hgate (.inr htype))
  | PassGate => exact evaluate_nested_gate_congr _ (hgate (.inl htype))
  | ExperimentGroup =>
    have heval : evaluate_experiment_group env rec condition.field =
        evaluate_experiment_group (env.over specs user scores) rec' condition.field :=
      evaluate_experiment_group_congr (hgroup htype)
    dsimp only
    rw [heval]
    rfl
  | Public | Unknown => rfl
  | UaBased | IpBased | UserField | EnvironmentField | CurrentTime | UserBucket | TargetApp
  | UnitId =>
    dsimp only
    rw [evaluate_reading_congr hread]

/-- The gates and experiments that the conditions of the list ask for are answered alike. -/
structure AnswersAlike (env : EvaluatorEnv) (rec rec' : Recur) (hashes : List InternedString) :
    Prop where
  gate : ∀ gate, GateCondition env hashes gate → rec gate .Gate = rec' gate .Gate
  group : ∀ name, GroupCondition env hashes name → rec name .Experiment = rec' name .Experiment

theorem AnswersAlike.tail {hash : InternedString} {hashes : List InternedString}
    (h : AnswersAlike env rec rec' (hash :: hashes)) : AnswersAlike env rec rec' hashes := by
  constructor
  · rintro gate ⟨hash', hmem, hcondition⟩
    exact h.gate gate ⟨hash', List.mem_cons_of_mem _ hmem, hcondition⟩
  · rintro name ⟨hash', hmem, hcondition⟩
    exact h.group name ⟨hash', List.mem_cons_of_mem _ hmem, hcondition⟩

theorem evaluate_conditions_congr {hashes : List InternedString} (passed : Bool)
    (hsame : ∀ hash ∈ hashes,
      env.specs_data.condition_map.get hash = specs.condition_map.get hash ∧
        ∀ condition ∈ env.specs_data.condition_map.get hash,
          read_value env condition = read_value (env.over specs user scores) condition)
    (h : AnswersAlike env rec rec' hashes) :
    evaluate_conditions env rec hashes passed =
      evaluate_conditions (env.over specs user scores) rec' hashes passed := by
  induction hashes generalizing passed with
  | nil => rfl
  | cons hash hashes ih =>
    obtain ⟨hhash, hread⟩ := hsame hash List.mem_cons_self
    have hmap : (env.over specs user scores).specs_data.condition_map.get hash =
        env.specs_data.condition_map.get hash := hhash.symm
    unfold evaluate_conditions
    rw [hmap]
    cases hcondition : env.specs_data.condition_map.get hash with
    | none => rfl
    | some condition =>
      have hgate (ht : type_of condition = .PassGate ∨ type_of condition = .FailGate) :=
        h.gate _ ⟨hash, List.mem_cons_self, condition, hcondition, ht, rfl⟩
      have hgroup (ht : type_of condition = .ExperimentGroup) (field : DynamicString)
          (hfield : field ∈ condition.field) (hstatsig : env.statsig = true) :=
        h.group _ ⟨hash, List.mem_cons_self, condition, field, hcondition, ht, hfield, rfl,
          hstatsig⟩
      dsimp only
      rw [evaluate_condition_congr (hread condition hcondition) hgate hgroup]
      congr 1
      funext _
      congr 1
      funext ctx
      exact ih _ (fun hash' hmem => hsame hash' (List.mem_cons_of_mem _ hmem)) h.tail

theorem evaluate_rule_congr {rule : Rule}
    (hsame : SameConditions env (env.over specs user scores) rule)
    (h : AnswersAlike env rec rec' rule.conditions) :
    evaluate_rule env rec rule = evaluate_rule (env.over specs user scores) rec' rule :=
  evaluate_conditions_congr true hsame h

theorem evaluate_pass_percentage_congr {rule : Rule}
    (hsame : SameUnit env (env.over specs user scores) rule.id_type) (spec_salt : InternedString) :
    evaluate_pass_percentage env rule spec_salt =
      evaluate_pass_percentage (env.over specs user scores) rule spec_salt := by
  unfold evaluate_pass_percentage
  rw [hsame]
  rfl

/-! ## Specs -/

theorem evaluate_config_delegate_congr {rule : Rule}
    (hsame : ∀ delegate ∈ rule.config_delegate,
      env.specs_data.dynamic_configs.get delegate = specs.dynamic_configs.get delegate)
    (h : ∀ delegate ∈ rule.config_delegate, ∀ spec,
      env.specs_data.dynamic_configs.get delegate = some spec →
        rec delegate .Experiment = rec' delegate .Experiment) :
    evaluate_config_delegate env rec rule =
      evaluate_config_delegate (env.over specs user scores) rec' rule := by
  unfold evaluate_config_delegate
  cases hdelegate : rule.config_delegate with
  | none => rfl
  | some delegate =>
    have hget := hsame delegate hdelegate
    dsimp only [EvaluatorEnv.over]
    rw [← hget]
    cases hspec : env.specs_data.dynamic_configs.get delegate with
    | none => rfl
    | some spec =>
      dsimp only
      rw [h delegate hdelegate spec hspec]

/-- What a spec refers to is answered alike, and its rules read the same. -/
structure RulesAlike (env env' : EvaluatorEnv) (rec rec' : Recur) (rules : List Rule) : Prop where
  same : ∀ rule ∈ rules, SameRule env env' rule
  answers : ∀ rule ∈ rules, AnswersAlike env rec rec' rule.conditions
  delegates : ∀ rule ∈ rules,
    evaluate_config_delegate env rec rule = evaluate_config_delegate env' rec' rule

theorem RulesAlike.tail {rule : Rule} {rules : List Rule}
    (h : RulesAlike env env' rec rec' (rule :: rules)) : RulesAlike env env' rec rec' rules :=
  ⟨fun r hr => h.same r (List.mem_cons_of_mem _ hr),
    fun r hr => h.answers r (List.mem_cons_of_mem _ hr),
    fun r hr => h.delegates r (List.mem_cons_of_mem _ hr)⟩

theorem RulesAlike.evaluate_rule {rule : Rule} {rules : List Rule}
    (h : RulesAlike env (env.over specs user scores) rec rec' rules) (hrule : rule ∈ rules) :
    evaluate_rule env rec rule = evaluate_rule (env.over specs user scores) rec' rule :=
  evaluate_rule_congr (h.same rule hrule).conditions (h.answers rule hrule)

theorem evaluate_rules_congr {rules : List Rule} (spec : Spec) (filter_active : Bool)
    (h : RulesAlike env (env.over specs user scores) rec rec' rules) :
    evaluate_rules env rec spec filter_active rules =
      evaluate_rules (env.over specs user scores) rec' spec filter_active rules := by
  induction rules with
  | nil => rfl
  | cons rule rules ih =>
    unfold evaluate_rules
    rw [ih h.tail, h.delegates rule List.mem_cons_self, h.evaluate_rule List.mem_cons_self,
      evaluate_pass_percentage_congr (h.same rule List.mem_cons_self).unit]

theorem new_layer_rules_congr {rules : List Rule} (spec : Spec) (filter_active : Bool)
    (s : LayerState) (h : RulesAlike env (env.over specs user scores) rec rec' rules) :
    new_layer_rules env rec spec filter_active rules s =
      new_layer_rules (env.over specs user scores) rec' spec filter_active rules s := by
  induction rules generalizing s with
  | nil => rfl
  | cons rule rules ih =>
    have ih' := fun s => ih s h.tail
    unfold new_layer_rules
    simp only [ih', h.delegates rule List.mem_cons_self, h.evaluate_rule List.mem_cons_self,
      evaluate_pass_percentage_congr (h.same rule List.mem_cons_self).unit]

theorem evaluate_spec_congr {opt_spec : Option Spec} (filter_active : Bool) (spec_name : String)
    (spec_type : SpecType)
    (h : ∀ spec ∈ opt_spec, RulesAlike env (env.over specs user scores) rec rec' spec.rules) :
    evaluate_spec env rec filter_active spec_name spec_type opt_spec =
      evaluate_spec (env.over specs user scores) rec' filter_active spec_name spec_type opt_spec := by
  cases opt_spec with
  | none => rfl
  | some spec =>
    unfold evaluate_spec new_layer_eval
    simp only [evaluate_rules_congr spec _ (h spec rfl),
      new_layer_rules_congr spec _ _ (h spec rfl)]

/-! ## Mappings and bandits -/

theorem started_rule_congr {override_rules override_rules' : HashMap String Rule}
    {override_rule : OverrideRule}
    (h : override_rules.get override_rule.rule_name = override_rules'.get override_rule.rule_name) :
    started_rule env override_rules override_rule =
      started_rule (env.over specs user scores) override_rules' override_rule := by
  unfold started_rule
  rw [h]
  rfl

theorem try_override_rules_congr {spec_type : SpecType} {spec_salt new_config_name : InternedString}
    {override_rules override_rules' : HashMap String Rule} {rules : List OverrideRule}
    (hget : ∀ override_rule ∈ rules, override_rules.get override_rule.rule_name =
      override_rules'.get override_rule.rule_name)
    (hrule : ∀ override_rule ∈ rules, ∀ rule ∈ started_rule env override_rules override_rule,
      SameRule env (env.over specs user scores) rule ∧
        AnswersAlike env rec rec' rule.conditions ∧
        rec new_config_name spec_type = rec' new_config_name spec_type) :
    try_override_rules env rec spec_type spec_salt new_config_name override_rules rules =
      try_override_rules (env.over specs user scores) rec' spec_type spec_salt new_config_name
        override_rules' rules := by
  induction rules with
  | nil => rfl
  | cons override_rule rules ih =>
    have ih := ih (fun o ho => hget o (List.mem_cons_of_mem _ ho))
      fun o ho => hrule o (List.mem_cons_of_mem _ ho)
    have hsame_start : started_rule env override_rules override_rule =
        started_rule (env.over specs user scores) override_rules' override_rule :=
      started_rule_congr (hget override_rule List.mem_cons_self)
    unfold try_override_rules
    rw [← hsame_start]
    cases hstarted : started_rule env override_rules override_rule with
    | none => exact ih
    | some rule =>
      obtain ⟨hsame, hanswers, hrec⟩ := hrule override_rule List.mem_cons_self rule hstarted
      dsimp only
      rw [evaluate_rule_congr hsame.conditions hanswers, hrec, ih,
        evaluate_pass_percentage_congr hsame.unit]

theorem try_mappings_congr {spec_type : SpecType} {spec_salt : InternedString}
    {override_rules override_rules' : HashMap String Rule} {mapping_list : List ConfigMapping}
    (h : ∀ mapping ∈ mapping_list,
      try_override_rules env rec spec_type spec_salt mapping.new_config_name override_rules
          mapping.rules =
        try_override_rules env' rec' spec_type spec_salt mapping.new_config_name
          override_rules' mapping.rules) :
    try_mappings env rec spec_type spec_salt override_rules mapping_list =
      try_mappings env' rec' spec_type spec_salt override_rules' mapping_list := by
  induction mapping_list with
  | nil => rfl
  | cons mapping mappings ih =>
    unfold try_mappings
    rw [h mapping List.mem_cons_self, ih fun m hm => h m (List.mem_cons_of_mem _ hm)]

theorem get_passes_targeting_congr {cmab : CMABConfig}
    (h : ∀ gate ∈ cmab.targeting_gate_name, rec gate .Gate = rec' gate .Gate) :
    get_passes_targeting rec cmab = get_passes_targeting rec' cmab := by
  unfold get_passes_targeting
  cases hgate : cmab.targeting_gate_name with
  | none => rfl
  | some gate => simp only [h gate hgate]

theorem find_sampling_group_over (config : HashMap String CMABGroupConfig)
    (total_records value : F64) (groups : List CMABGroup) (sum : F64) :
    find_sampling_group (env.over specs user scores) config total_records value groups sum =
      find_sampling_group env config total_records value groups sum := by
  induction groups generalizing sum with
  | nil => rfl
  | cons group groups ih =>
    unfold find_sampling_group
    simp only [ih]
    rfl

theorem apply_best_group_congr {cmab : CMABConfig} {config : HashMap String CMABGroupConfig}
    (h : ∀ group ∈ cmab.groups, env.cmab_score group config = scores group config)
    (ctx : EvaluatorContext) :
    apply_best_group env cmab config ctx =
      apply_best_group (env.over specs user scores) cmab config ctx := by
  have hbest : cmab.groups.foldl (pick_best env cmab config) none =
      cmab.groups.foldl (pick_best (env.over specs user scores) cmab config) none := by
    refine List.foldl_ext _ _ _ fun best group hmem => ?_
    unfold pick_best
    rw [h group hmem]
    rfl
  unfold apply_best_group
  rw [hbest]
  rfl

/-- The groups of a bandit read nothing else of the specs and of the user. -/
theorem assign_cmab_group_congr {cmab : CMABConfig}
    (hsame : SameBandit env (env.over specs user scores) cmab) (ctx : EvaluatorContext) :
    assign_cmab_group env cmab ctx = assign_cmab_group (env.over specs user scores) cmab ctx := by
  unfold assign_cmab_group
  rw [hsame.unit]
  cases hconfig : cmab.config with
  | none => rfl
  | some config =>
    have hbest : ∀ ctx, apply_best_group env cmab config ctx =
        apply_best_group (env.over specs user scores) cmab config ctx :=
      apply_best_group_congr (hsame.scores config hconfig)
    unfold sampling_group
    simp only [find_sampling_group_over, hbest]
    rfl

section Node

variable {node : Node}

/-- What the node mentions is answered alike. -/
def MentionsAlike (env : EvaluatorEnv) (rec rec' : Recur) (node : Node) : Prop :=
  ∀ b, Mentions env node b → rec b.2 b.1 = rec' b.2 b.1

theorem answers_alike (h : MentionsAlike env rec rec' node) {rule : Rule}
    (hrule : RuleOf env node rule) : AnswersAlike env rec rec' rule.conditions where
  gate _ hgate := h (.Gate, _) (.inl (.gate hrule hgate))
  group name hname := h (.Experiment, name) (.inr (.inl ⟨rfl, rule, hrule, hname⟩))

theorem rules_alike (hsame : SameAt env (env.over specs user scores) node)
    (h : MentionsAlike env rec rec' node) {spec : Spec}
    (hspec : find_spec env.specs_data node.2 node.1 = some spec) :
    RulesAlike env (env.over specs user scores) rec rec' spec.rules where
  same rule hrule := hsame.spec_rules spec hspec rule hrule
  answers _ hrule := answers_alike h (.inl ⟨spec, hspec, hrule⟩)
  delegates rule hrule := evaluate_config_delegate_congr (hsame.delegates spec hspec rule hrule)
    fun delegate hdelegate _ hget =>
      h (.Experiment, delegate) (.inl (.delegate hspec hrule hdelegate hget))

theorem mapping_rule_of_started {override_rules : HashMap String Rule}
    {overrides : HashMap String (List ConfigMapping)} {mapping_list : List ConfigMapping}
    {mapping : ConfigMapping} {override_rule : OverrideRule} {rule : Rule}
    (hoverrides : env.specs_data.overrides = some overrides)
    (hrules : env.specs_data.override_rules = some override_rules)
    (hlist : overrides.get node.2 = some mapping_list) (hmapping : mapping ∈ mapping_list)
    (hmem : override_rule ∈ mapping.rules)
    (hstarted : started_rule env override_rules override_rule = some rule) :
    MappingRule env node.2 mapping rule :=
  ⟨overrides, override_rules, mapping_list, hoverrides, hrules, hlist, hmapping, override_rule,
    hmem, hstarted⟩

theorem try_apply_config_mapping_none (rec : Recur) (opt_spec : Option Spec)
    (h : mappings_of env.specs_data node.2 = none) :
    try_apply_config_mapping env rec node.2 node.1 opt_spec = pure false := by
  unfold try_apply_config_mapping
  unfold mappings_of at h
  cases hoverrides : env.specs_data.overrides with
  | none => rfl
  | some overrides =>
    cases hrules : env.specs_data.override_rules with
    | none => rfl
    | some override_rules =>
      rw [hoverrides, hrules] at h
      dsimp only at h ⊢
      rw [h]

theorem mappings_of_eq_some {spec_name : String} {mapping_list : List ConfigMapping}
    (h : mappings_of specs spec_name = some mapping_list) :
    ∃ overrides override_rules, specs.overrides = some overrides ∧
      specs.override_rules = some override_rules ∧ overrides.get spec_name = some mapping_list := by
  unfold mappings_of at h
  split at h
  · next overrides override_rules hoverrides hrules =>
    exact ⟨overrides, override_rules, hoverrides, hrules, h⟩
  · cases h

theorem override_rule_of_eq {override_rules : HashMap String Rule}
    (h : specs.override_rules = some override_rules) (rule_name : String) :
    override_rule_of specs rule_name = override_rules.get rule_name := by
  unfold override_rule_of
  rw [h]
  rfl

theorem try_apply_config_mapping_congr (hsame : SameAround env (env.over specs user scores) node)
    (h : MentionsAlike env rec rec' node) (opt_spec : Option Spec) :
    try_apply_config_mapping env rec node.2 node.1 opt_spec =
      try_apply_config_mapping (env.over specs user scores) rec' node.2 node.1 opt_spec := by
  have hmappings := hsame.mappings
  cases hlist : mappings_of env.specs_data node.2 with
  | none =>
    rw [try_apply_config_mapping_none rec opt_spec hlist,
      try_apply_config_mapping_none rec' opt_spec (hmappings.symm.trans hlist)]
  | some mapping_list =>
    have hrules := hsame.override_rules mapping_list hlist
    obtain ⟨overrides, override_rules, hoverrides, hoverride_rules, hget⟩ :=
      mappings_of_eq_some hlist
    obtain ⟨overrides', override_rules', hoverrides', hoverride_rules', hget'⟩ :=
      mappings_of_eq_some (hmappings.symm.trans hlist)
    unfold try_apply_config_mapping
    rw [hoverrides, hoverride_rules, hoverrides', hoverride_rules']
    dsimp only
    rw [hget, hget']
    dsimp only
    refine try_mappings_congr fun mapping hmapping => try_override_rules_congr ?_ ?_
    · intro override_rule hmem
      have hname := hrules mapping hmapping override_rule hmem
      rwa [override_rule_of_eq hoverride_rules, override_rule_of_eq hoverride_rules'] at hname
    · intro override_rule hmem rule hstarted
      have hmapping_rule := mapping_rule_of_started hoverrides hoverride_rules hget hmapping hmem
        hstarted
      exact ⟨hsame.mapping_rules mapping rule hmapping_rule,
        answers_alike h (.inr ⟨mapping, hmapping_rule⟩), h (node.1, mapping.new_config_name)
          (.inr (.inr ⟨rfl, mapping, rule, hmapping_rule, rfl⟩))⟩

theorem evaluate_cmab_none (rec : Recur) (h : bandit_of env.specs_data node.2 = none) :
    evaluate_cmab env rec node.2 node.1 = pure false := by
  refine evaluate_cmab_skips rec fun cmab hcmab => ?_
  obtain ⟨-, cmabs, hcmabs, hget⟩ := hcmab
  unfold bandit_of at h
  rw [hcmabs, Option.bind_some, hget] at h
  cases h

theorem evaluate_cmab_congr (hsame : SameAround env (env.over specs user scores) node)
    (h : MentionsAlike env rec rec' node) :
    evaluate_cmab env rec node.2 node.1 =
      evaluate_cmab (env.over specs user scores) rec' node.2 node.1 := by
  by_cases htype : node.1 = .Experiment
  · obtain ⟨hbandit, hsame_bandit⟩ := hsame.bandit htype
    cases hcmab : bandit_of env.specs_data node.2 with
    | none =>
      rw [evaluate_cmab_none rec hcmab, evaluate_cmab_none rec' (hbandit.symm.trans hcmab)]
    | some cmab =>
      obtain ⟨cmabs, hcmabs, hget⟩ := Option.bind_eq_some_iff.mp hcmab
      obtain ⟨cmabs', hcmabs', hget'⟩ := Option.bind_eq_some_iff.mp (hbandit.symm.trans hcmab)
      have hgate : ∀ gate ∈ cmab.targeting_gate_name, rec gate .Gate = rec' gate .Gate :=
        fun gate hgate => h (.Gate, gate) (.inl (.targeting ⟨htype, cmabs, hcmabs, hget⟩ hgate))
      unfold evaluate_cmab
      rw [htype, hcmabs, hcmabs']
      dsimp only
      rw [hget, hget']
      dsimp only
      simp only [get_passes_targeting_congr hgate,
        assign_cmab_group_congr (hsame_bandit cmab hcmab)]
  · unfold evaluate_cmab
    obtain ⟨ty, name⟩ := node
    cases ty with
    | Experiment => exact absurd rfl htype
    | Gate | DynamicConfig | Layer | ParameterStore => rfl

/-! ## One call -/

theorem evaluate_with_congr (hsame : SameAt env (env.over specs user scores) node)
    (h : MentionsAlike env rec rec' node) :
    evaluate_with env rec node.2 node.1 =
      evaluate_with (env.over specs user scores) rec' node.2 node.1 := by
  have hspec := hsame.spec
  unfold evaluate_with
  by_cases htype : node.1 = .ParameterStore
  · rw [if_pos htype, if_pos htype]
    have hreason : evaluate_param_store_reason env node.2 =
        evaluate_param_store_reason (env.over specs user scores) node.2 :=
      if_congr (hsame.param_store htype) rfl rfl
    rw [hreason]
  · rw [if_neg htype, if_neg htype]
    have hfind : find_spec (env.over specs user scores).specs_data node.2 node.1 =
        find_spec env.specs_data node.2 node.1 := hspec.symm
    have hrules : ∀ spec ∈ find_spec env.specs_data node.2 node.1,
        RulesAlike env (env.over specs user scores) rec rec' spec.rules :=
      fun spec hmem => rules_alike hsame h hmem
    rw [hfind]
    simp only [hsame.override, try_apply_config_mapping_congr hsame.toSameAround h,
      evaluate_cmab_congr hsame.toSameAround h, evaluate_spec_congr _ _ _ hrules]

end Node

/-- Two environments that read the same at every node that the evaluation can reach. -/
theorem evaluate_congr {node : Node}
    (h : ∀ b, Relation.ReflTransGen (Mentions env) node b →
      SameAt env (env.over specs user scores) b) (depth : Nat) :
    evaluate env depth node.2 node.1 =
      evaluate (env.over specs user scores) depth node.2 node.1 := by
  induction depth generalizing node with
  | zero => rfl
  | succ depth ih =>
    refine evaluate_with_congr (h node .refl) fun b hb => ih fun c hc => h c ?_
    exact Relation.ReflTransGen.head hb hc

/-! ## Another download -/

/-- Another download agrees on all that a call for the node reads itself. -/
structure SpecsAgree (env : EvaluatorEnv) (specs : SpecsResponseFull) (node : Node) : Prop where
  spec : find_spec env.specs_data node.2 node.1 = find_spec specs node.2 node.1
  conditions : ∀ rule, RuleOf env node rule → ∀ hash ∈ rule.conditions,
    env.specs_data.condition_map.get hash = specs.condition_map.get hash
  delegates : ∀ spec, find_spec env.specs_data node.2 node.1 = some spec → ∀ rule ∈ spec.rules,
    ∀ delegate ∈ rule.config_delegate,
      env.specs_data.dynamic_configs.get delegate = specs.dynamic_configs.get delegate
  mappings : mappings_of env.specs_data node.2 = mappings_of specs node.2
  override_rules : ∀ mapping_list ∈ mappings_of env.specs_data node.2, ∀ mapping ∈ mapping_list,
    ∀ override_rule ∈ mapping.rules,
      override_rule_of env.specs_data override_rule.rule_name =
        override_rule_of specs override_rule.rule_name
  bandit : node.1 = .Experiment → bandit_of env.specs_data node.2 = bandit_of specs node.2
  param_store : node.1 = .ParameterStore →
    (node.2 ∈ env.specs_data.param_stores.getD [] ↔ node.2 ∈ specs.param_stores.getD [])

/-- The same user reads the same, whatever the download. -/
theorem SpecsAgree.same_at {node : Node} (h : SpecsAgree env specs node) :
    SameAt env (env.with_specs specs) node := by
  have hrule {rule : Rule} (hrule : RuleOf env node rule) :
      SameRule env (env.with_specs specs) rule :=
    ⟨fun hash hmem => ⟨h.conditions rule hrule hash hmem, fun _ _ => rfl⟩, rfl⟩
  exact
    { override := fun _ => rfl
      mappings := h.mappings
      override_rules := h.override_rules
      mapping_rules := fun mapping rule hmapping => hrule (.inr ⟨mapping, hmapping⟩)
      bandit := fun htype => ⟨h.bandit htype, fun _ _ => ⟨rfl, fun _ _ _ _ => rfl⟩⟩
      spec := h.spec
      spec_rules := fun spec hspec rule hmem => hrule (.inl ⟨spec, hspec, hmem⟩)
      delegates := h.delegates
      param_store := h.param_store }

/-- An evaluation depends on a download only by what it reads at the nodes that it can reach: the
same run, from the same context, has the same outcome over any other download that agrees there. -/
theorem evaluate_depends_on_reachable {node : Node}
    (h : ∀ b, Relation.ReflTransGen (Mentions env) node b → SpecsAgree env specs b)
    (depth : Nat) (ctx : EvaluatorContext) :
    evaluate env depth node.2 node.1 ctx =
      evaluate (env.with_specs specs) depth node.2 node.1 ctx := by
  have heval : evaluate env depth node.2 node.1 =
      evaluate (env.with_specs specs) depth node.2 node.1 :=
    evaluate_congr (fun b hb => (h b hb).same_at) depth
  rw [heval]

/-! ## A gate on its own -/

/-- The rules of a gate without mappings. -/
theorem rule_of_gate {name : String} {spec : Spec} {rule : Rule}
    (hspec : env.specs_data.feature_gates.get name = some spec)
    (hoverrides : env.specs_data.overrides = none) (h : RuleOf env (.Gate, name) rule) :
    rule ∈ spec.rules := by
  have hfind : spec_of env (.Gate, name) = some spec := hspec
  rcases h with ⟨spec', hspec', hmem⟩ | ⟨mapping, overrides, _, _, hsome, -⟩
  · rw [hfind] at hspec'
    cases hspec'
    exact hmem
  · rw [hoverrides] at hsome
    cases hsome

/-- A gate whose conditions ask for no other evaluation mentions nothing. -/
theorem mentions_nothing {name : String} {spec : Spec}
    (hspec : env.specs_data.feature_gates.get name = some spec)
    (hoverrides : env.specs_data.overrides = none)
    (hrules : ∀ rule ∈ spec.rules, (∀ gate, ¬ GateCondition env rule.conditions gate) ∧
      (∀ name, ¬ GroupCondition env rule.conditions name) ∧ rule.config_delegate = none)
    (b : Node) : ¬ Mentions env (.Gate, name) b := by
  have hrule {rule : Rule} (h : RuleOf env (.Gate, name) rule) :=
    hrules rule (rule_of_gate hspec hoverrides h)
  rintro (h | ⟨-, rule, h, hgroup⟩ | ⟨-, mapping, rule, ⟨overrides, _, _, hsome, -⟩, -⟩)
  · cases h with
    | gate h hgate => exact (hrule h).1 _ hgate
    | delegate hspec' hmem hdelegate =>
      rw [(hrule (.inl ⟨_, hspec', hmem⟩)).2.2] at hdelegate
      cases hdelegate
    | targeting h => cases h.1
  · exact (hrule h).2.1 _ hgroup
  · rw [hoverrides] at hsome
    cases hsome

/-- A node that mentions nothing reaches itself only. -/
theorem reaches_itself {node b : Node} (halone : ∀ b, ¬ Mentions env node b)
    (h : Relation.ReflTransGen (Mentions env) node b) : b = node := by
  induction h with
  | refl => rfl
  | tail _ hstep ih =>
    subst ih
    exact absurd hstep (halone _)

theorem no_gate_condition (gate : InternedString) : ¬ GateCondition env [] gate := by
  rintro ⟨hash, hmem, -⟩
  cases hmem

theorem no_group_condition (name : InternedString) : ¬ GroupCondition env [] name := by
  rintro ⟨hash, hmem, -⟩
  cases hmem

/-- A gate for everyone, and another one that a download turns on or off. -/
def two_gates (other : Bool) : SpecsResponseFull where
  feature_gates := [("gate", { rules := [{ id := "on", conditions := [] }] }),
    ("other", { rules := [], enabled := other })]

theorem gate_does_not_depend_on_other :
    evaluate (.plain (two_gates true)) 2 "gate" .Gate {} =
      evaluate (.plain (two_gates false)) 2 "gate" .Gate {} := by
  have halone := @mentions_nothing (.plain (two_gates true)) "gate" _ rfl rfl
    (List.forall_mem_singleton.mpr ⟨no_gate_condition, no_group_condition, rfl⟩)
  refine @evaluate_depends_on_reachable (.plain (two_gates true)) (two_gates false)
    (.Gate, "gate") ?_ 2 {}
  intro b hb
  obtain rfl := reaches_itself halone hb
  refine ⟨rfl, ?_, ?_, rfl, fun _ h => (nomatch h), fun h => (nomatch h), fun h => (nomatch h)⟩
  · intro rule h hash hhash
    have hmem := @rule_of_gate (.plain (two_gates true)) "gate" _ _ rfl rfl h
    rw [List.mem_singleton.mp hmem] at hhash
    cases hhash
  · rintro spec ⟨⟩ rule hmem delegate hdelegate
    rw [List.mem_singleton.mp hmem] at hdelegate
    cases hdelegate

end statsig_rust.evaluation
