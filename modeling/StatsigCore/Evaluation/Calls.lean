-- What one call of `evaluate` calls in turn. A spec nests the gates that its
-- conditions name, the delegates of its rules and the targeting gate of its
-- bandit. It starts over with the experiments whose group it asks for and with
-- the configs that it is mapped to. The depth decides nothing else: a run to a
-- greater depth gives the same outcome.
import StatsigCore.Evaluation.Evaluator

open program

namespace statsig_rust.evaluation

/-! ## The references of a spec -/

abbrev Node := SpecType × String

section References

variable (env : EvaluatorEnv)

def spec_of (node : Node) : Option Spec := find_spec env.specs_data node.2 node.1

/-- A condition of the list asks for the value of the gate. -/
def GateCondition (hashes : List InternedString) (gate : InternedString) : Prop :=
  ∃ hash ∈ hashes, ∃ condition, env.specs_data.condition_map.get hash = some condition ∧
    (type_of condition = .PassGate ∨ type_of condition = .FailGate) ∧
    gate_name_of (target_of condition) = gate

/-- A condition of the list asks for the group of the experiment. -/
def GroupCondition (hashes : List InternedString) (experiment : InternedString) : Prop :=
  ∃ hash ∈ hashes, ∃ condition field, env.specs_data.condition_map.get hash = some condition ∧
    type_of condition = .ExperimentGroup ∧ condition.field = some field ∧
    field.value = experiment ∧ env.statsig = true

/-- A rule that the mappings of a config evaluate: one that has started and that
the specs hold. -/
def MappingRule (spec_name : String) (mapping : ConfigMapping) (rule : Rule) : Prop :=
  ∃ overrides override_rules mapping_list,
    env.specs_data.overrides = some overrides ∧
    env.specs_data.override_rules = some override_rules ∧
    overrides.get spec_name = some mapping_list ∧ mapping ∈ mapping_list ∧
    ∃ override_rule ∈ mapping.rules, started_rule env override_rules override_rule = some rule

def Mapped (node : Node) : Prop := ∃ mapping rule, MappingRule env node.2 mapping rule

/-- A rule that a call for the node may evaluate. -/
def RuleOf (node : Node) (rule : Rule) : Prop :=
  (∃ spec, spec_of env node = some spec ∧ rule ∈ spec.rules) ∨
    ∃ mapping, MappingRule env node.2 mapping rule

/-- What a condition answers without another evaluation, or `none`. -/
def leaf_outcome (condition : Condition) : Option Bool :=
  match type_of condition with
  | .Public => some true
  | .FailGate | .PassGate | .ExperimentGroup | .Unknown => none
  | _ => operator_outcome env condition (read_value env condition).value

/-- A condition of the rule fails, whatever the nested gates answer. -/
def Refuted (rule : Rule) : Prop :=
  ∃ hash ∈ rule.conditions, ∃ condition,
    env.specs_data.condition_map.get hash = some condition ∧
    leaf_outcome env condition = some false

def salt_of (opt_spec : Option Spec) : InternedString :=
  match opt_spec with
  | some spec => spec.salt
  | none => ""

def BanditOf (node : Node) (cmab : CMABConfig) : Prop :=
  node.1 = .Experiment ∧
    ∃ cmabs, env.specs_data.cmab_configs = some cmabs ∧ cmabs.get node.2 = some cmab

/-- The first node may evaluate the second one after `prep_for_nested_evaluation`. -/
inductive Nests : Node → Node → Prop where
  | gate {node : Node} {rule : Rule} {gate : InternedString} :
      RuleOf env node rule → GateCondition env rule.conditions gate → Nests node (.Gate, gate)
  | delegate {node : Node} {spec delegate_spec : Spec} {rule : Rule} {delegate : InternedString} :
      spec_of env node = some spec → rule ∈ spec.rules → rule.config_delegate = some delegate →
      env.specs_data.dynamic_configs.get delegate = some delegate_spec →
      Nests node (.Experiment, delegate)
  | targeting {node : Node} {cmab : CMABConfig} {gate : InternedString} :
      BanditOf env node cmab → cmab.targeting_gate_name = some gate → Nests node (.Gate, gate)

/-- The first node may ask for the group of the second one. -/
def AsksGroup (a b : Node) : Prop :=
  b.1 = .Experiment ∧ ∃ rule, RuleOf env a rule ∧ GroupCondition env rule.conditions b.2

/-- The mappings may take the first node to the second one. -/
def MapsTo (a b : Node) : Prop :=
  b.1 = a.1 ∧ ∃ mapping rule, MappingRule env a.2 mapping rule ∧ ¬ Refuted env rule ∧
    evaluate_pass_percentage env rule (salt_of (spec_of env a)) = true ∧
    b.2 = mapping.new_config_name

/-- The evaluation of the first node may evaluate the second one. -/
def Refers (a b : Node) : Prop := Nests env a b ∨ AsksGroup env a b ∨ MapsTo env a b

end References

/-! ## Supported conditions -/

/-- The operators that `evaluate_condition` knows. -/
def operators : List String :=
  ["gt", "gte", "lt", "lte"] ++
  ["version_gt", "version_gte", "version_lt", "version_lte", "version_eq", "version_neq"] ++
  ["any", "none", "str_starts_with_any", "str_ends_with_any", "str_contains_any",
    "str_contains_none"] ++
  ["any_case_sensitive", "none_case_sensitive"] ++ ["str_matches"] ++ ["before", "after", "on"] ++
  ["eq"] ++ ["neq"] ++ ["in_segment_list", "not_in_segment_list"] ++
  ["array_contains_any", "array_contains_none", "array_contains_all", "not_array_contains_all"]

def known_operator (condition : Condition) : Bool :=
  match condition.operator with
  | some operator => operators.contains operator
  | none => false

/-- The condition does not mark the result as unsupported. -/
def is_supported (env : EvaluatorEnv) (condition : Condition) : Bool :=
  match type_of condition with
  | .Public | .PassGate | .FailGate => true
  | .Unknown => false
  | .ExperimentGroup => (env.statsig || condition.field.isNone) && known_operator condition
  | _ => known_operator condition

def SupportedHash (env : EvaluatorEnv) (hash : InternedString) : Prop :=
  ∃ condition, env.specs_data.condition_map.get hash = some condition ∧
    is_supported env condition = true

theorem compare_with_isSome (env : EvaluatorEnv) (operator : String) (value : DynamicValue)
    (target : MemoizedEvaluatorValue) :
    (compare_with env operator value target).isSome = operators.contains operator := by
  have hor : ∀ {p q : Prop} [Decidable p] {a : Bool} {b : Option Bool}, (b.isSome = true ↔ q) →
      ((if p then some a else b).isSome = true ↔ p ∨ q) := by
    intro p q _ a b h
    by_cases hp : p
    · simp [hp]
    · simp [hp, h]
  rw [Bool.eq_iff_iff, List.contains_iff_mem]
  unfold compare_with operators
  simp only [List.mem_append, List.mem_singleton, or_assoc]
  -- one step for each group of operators, in the order of the source
  iterate 9 refine hor ?_
  split
  · rename_i h
    exact iff_of_true rfl h
  · rename_i h
    exact iff_of_false (by simp) h

theorem operator_outcome_isSome (env : EvaluatorEnv) (condition : Condition)
    (value : Option DynamicValue) :
    (operator_outcome env condition value).isSome = known_operator condition := by
  unfold operator_outcome known_operator
  cases condition.operator with
  | none => rfl
  | some operator => exact compare_with_isSome env operator _ _

/-! ## A refuted rule does not pass -/

/-- The rule did not pass: its boolean is false, or it is unsupported. -/
def NotPassed (ctx : EvaluatorContext) : Prop :=
  ctx.result.bool_value = false ∨ ctx.result.unsupported = true

section Refuted

variable {env : EvaluatorEnv} (rec : Recur)

/-- Once a condition failed, the rule cannot pass any more. -/
theorem evaluate_conditions_failed (hashes : List InternedString) :
    Triple (fun _ => True) (evaluate_conditions env rec hashes false)
      (fun _ c => NotPassed c) (fun _ _ => True) True := by
  induction hashes with
  | nil => exact triple_update fun _ _ => .inl rfl
  | cons hash hashes ih =>
    unfold evaluate_conditions
    split
    · exact triple_update fun _ _ => .inr rfl
    · exact (triple_true _).bind fun _ => triple_state_any fun _ => ih

/-- A condition that needs no other evaluation only writes its outcome, and the
reason that its reading leaves. -/
def answer_leaf (env : EvaluatorEnv) (condition : Condition) (b : Bool) (ctx : EvaluatorContext) :
    EvaluatorContext :=
  { ctx with
    result.bool_value := b
    result.override_reason :=
      (read_value env condition).override_reason.or ctx.result.override_reason }

theorem evaluate_condition_leaf {condition : Condition} {b : Bool}
    (h : leaf_outcome env condition = some b) :
    evaluate_condition env rec condition = update (answer_leaf env condition b) := by
  have hreading : operator_outcome env condition (read_value env condition).value = some b →
      evaluate_reading env condition = answer_leaf env condition b := by
    intro hop
    funext ctx
    unfold evaluate_reading apply_operator answer_leaf
    dsimp only
    rw [hop]
    cases (read_value env condition).override_reason <;> rfl
  unfold leaf_outcome at h
  unfold evaluate_condition
  cases hty : type_of condition <;> simp only [hty] at h ⊢
  case Public =>
    cases h
    unfold answer_leaf read_value
    rw [hty]
    rfl
  all_goals first
    | exact absurd h (by simp)
    | rw [hreading h]

theorem refuted_rule_does_not_pass {rule : Rule} (h : Refuted env rule) :
    Triple (fun _ => True) (evaluate_rule env rec rule) (fun _ c => NotPassed c)
      (fun _ _ => True) True := by
  obtain ⟨bad, hbad, condition, hget, hleaf⟩ := h
  unfold evaluate_rule
  generalize true = all
  generalize rule.conditions = hashes at hbad
  induction hashes generalizing all with
  | nil => exact absurd hbad List.not_mem_nil
  | cons hash hashes ih =>
    unfold evaluate_conditions
    split
    · exact triple_update fun _ _ => .inr rfl
    · rename_i condition' hget'
      by_cases hhash : hash = bad
      · subst hhash
        obtain rfl : condition' = condition := by
          rw [hget] at hget'
          exact (Option.some.inj hget').symm
        rw [evaluate_condition_leaf rec hleaf]
        refine triple_update_bind (M := fun c => c.result.bool_value = false) (fun _ _ => rfl) ?_
        refine triple_state_bind fun c hc => ?_
        rw [hc, Bool.and_false]
        exact (evaluate_conditions_failed rec hashes).pre fun _ _ => trivial
      · have hmem : bad ∈ hashes := by
          rcases List.mem_cons.mp hbad with h | h
          · exact absurd h.symm hhash
          · exact h
        exact (triple_true _).bind fun _ => triple_state_any fun _ => ih _ hmem

/-- A rule that passed was not refuted. -/
theorem attempted_rule_not_refuted {P : EvaluatorContext → Prop} (rule : Rule) :
    Triple P (attempt (evaluate_rule env rec rule))
      (fun r c => r.isOk → Refuted env rule → NotPassed c) (fun _ _ => True) True := by
  refine Triple.attempt (R := fun r c => r.isOk → Refuted env rule → NotPassed c) ?_
  by_cases href : Refuted env rule
  · exact (refuted_rule_does_not_pass rec href).weaken (fun _ _ => trivial)
      (fun _ _ h _ _ => h) fun _ _ _ h => absurd h (by simp [Except.isOk, Except.toBool])
  · exact (triple_true _).weaken (fun _ h => h) (fun _ _ _ _ h => absurd h href)
      fun _ _ _ _ h => absurd h href

end Refuted

section Skips

variable {env : EvaluatorEnv} (rec : Recur)

/-- With no rule that has started, the mappings are skipped. -/
theorem try_apply_config_mapping_skips {name : String}
    (h : ∀ mapping rule, ¬ MappingRule env name mapping rule) (ty : SpecType)
    (opt_spec : Option Spec) : try_apply_config_mapping env rec name ty opt_spec = pure false := by
  unfold try_apply_config_mapping
  split
  · rename_i overrides override_rules hoverrides hrules
    split
    · rfl
    · rename_i mapping_list hlist
      have hunstarted : ∀ m ∈ mapping_list, ∀ o ∈ m.rules,
          started_rule env override_rules o = none := by
        intro m hm o ho
        by_contra hsome
        obtain ⟨rule, hrule⟩ := Option.ne_none_iff_exists'.mp hsome
        exact h m rule ⟨_, _, _, hoverrides, hrules, hlist, hm, o, ho, hrule⟩
      have hskip : ∀ salt target (rules : List OverrideRule),
          (∀ o ∈ rules, started_rule env override_rules o = none) →
          try_override_rules env rec ty salt target override_rules rules = pure false := by
        intro salt target rules hrules
        induction rules with
        | nil => rfl
        | cons o rules ih =>
          unfold try_override_rules
          rw [hrules o (List.mem_cons_self ..)]
          exact ih fun o' ho' => hrules o' (List.mem_cons_of_mem _ ho')
      clear hlist
      induction mapping_list with
      | nil => rfl
      | cons mapping mappings ih =>
        dsimp only at ih ⊢
        unfold try_mappings
        rw [hskip _ _ _ (hunstarted mapping (List.mem_cons_self ..))]
        exact ih fun m hm => hunstarted m (List.mem_cons_of_mem _ hm)
  · rfl

theorem evaluate_cmab_skips {node : Node} (h : ∀ cmab, ¬ BanditOf env node cmab) :
    evaluate_cmab env rec node.2 node.1 = pure false := by
  unfold evaluate_cmab
  split
  · rename_i cmabs hty hcmabs
    split
    · rfl
    · rename_i cmab hcmab
      exact absurd ⟨hty, cmabs, hcmabs, hcmab⟩ (h cmab)
  · rfl

/-- The override adapter leaves the node alone. -/
def Untouched (env : EvaluatorEnv) (node : Node) : Prop :=
  try_apply_override env node.2 node.1 (spec_of env node) = pure false

/-- The node may end a call before its rules are asked. -/
def LeavesEarly (env : EvaluatorEnv) (node : Node) : Prop :=
  spec_of env node = none ∨ ¬ Untouched env node ∨ Mapped env node ∨ ∃ cmab, BanditOf env node cmab

/-- Whether the evaluation looks at a subset of the rules only. -/
def filter_active (ctx : EvaluatorContext) : Bool :=
  ctx.nested_count == 0 && (ctx.only_evaluate_targeting || ctx.only_evaluate_overrides)

/-- With no override, mapping or bandit, a call goes straight to the spec. -/
theorem evaluate_with_spec {node : Node} (hty : node.1 ≠ .ParameterStore)
    (hoverride : Untouched env node) (hmapped : ¬ Mapped env node)
    (hbandit : ∀ cmab, ¬ BanditOf env node cmab) :
    evaluate_with env rec node.2 node.1 = (do
      let ctx ← state
      evaluate_spec env rec (filter_active ctx) node.2 node.1 (spec_of env node)) := by
  have hmapping : ∀ mapping rule, ¬ MappingRule env node.2 mapping rule :=
    fun mapping rule hrule => hmapped ⟨mapping, rule, hrule⟩
  unfold Untouched spec_of at hoverride
  unfold evaluate_with
  rw [if_neg hty]
  funext ctx
  simp only [state_bind]
  unfold filter_active spec_of
  split
  · rename_i hfilter
    rw [hfilter]
  · rename_i hfilter
    rw [Bool.eq_false_iff.mpr hfilter, hoverride]
    simp only [pure_bind_apply, Bool.false_eq_true, ↓reduceIte]
    rw [try_apply_config_mapping_skips rec hmapping]
    simp only [pure_bind_apply, Bool.false_eq_true, ↓reduceIte]
    rw [evaluate_cmab_skips rec hbandit]
    rfl

theorem evaluate_with_rules {node : Node} (h : ¬ LeavesEarly env node) :
    evaluate_with env rec node.2 node.1 = (do
      let ctx ← state
      evaluate_spec env rec (filter_active ctx) node.2 node.1 (spec_of env node)) := by
  unfold LeavesEarly at h
  push Not at h
  obtain ⟨hspec, hoverride, hmapped, hbandit⟩ := h
  refine evaluate_with_spec rec ?_ hoverride hmapped hbandit
  intro hstore
  unfold spec_of at hspec
  rw [hstore] at hspec
  exact hspec rfl

end Skips

/-! ## A deeper run gives the same outcome -/

section Monotone

variable (env : EvaluatorEnv) {r r' : Recur}

/-- `r` runs out of depth, or does what `r'` does. -/
def CallsBelow (r r' : Recur) : Prop := ∀ name ty, Below (r name ty) (r' name ty)

variable (h : CallsBelow r r')

include h

theorem evaluate_nested_gate_below (target : MemoizedEvaluatorValue) (ty : ConditionType) :
    Below (evaluate_nested_gate r target ty) (evaluate_nested_gate r' target ty) := by
  unfold evaluate_nested_gate
  refine (Below.refl _).bind fun ctx => ?_
  split
  · exact Below.refl _
  · refine (Below.refl _).bind fun _ => (Below.refl _).bind fun _ => (Below.refl _).bind fun _ => ?_
    exact (h _ _).bind fun _ => Below.refl _

theorem evaluate_experiment_group_below (name : Option DynamicString) :
    Below (evaluate_experiment_group env r name) (evaluate_experiment_group env r' name) := by
  unfold evaluate_experiment_group
  split
  · exact Below.refl _
  · split
    · intro ctx
      unfold get_experiment_group_name
      rcases h _ .Experiment { draws := ctx.draws } with hd | he
      · exact .inl (by rw [hd])
      · exact .inr (by rw [he])
    · exact Below.refl _

theorem evaluate_condition_below (condition : Condition) :
    Below (evaluate_condition env r condition) (evaluate_condition env r' condition) := by
  unfold evaluate_condition
  split
  · exact Below.refl _
  · exact evaluate_nested_gate_below h _ _
  · exact evaluate_nested_gate_below h _ _
  · exact (evaluate_experiment_group_below env h _).bind fun _ => Below.refl _
  · exact Below.refl _
  · exact Below.refl _

theorem evaluate_conditions_below (hashes : List InternedString) (all : Bool) :
    Below (evaluate_conditions env r hashes all) (evaluate_conditions env r' hashes all) := by
  induction hashes generalizing all with
  | nil => exact Below.refl _
  | cons hash hashes ih =>
    unfold evaluate_conditions
    split
    · exact Below.refl _
    · exact (evaluate_condition_below env h _).bind fun _ => (Below.refl _).bind fun _ => ih _

theorem evaluate_config_delegate_below (rule : Rule) :
    Below (evaluate_config_delegate env r rule) (evaluate_config_delegate env r' rule) := by
  unfold evaluate_config_delegate
  split
  · exact Below.refl _
  · split
    · exact Below.refl _
    · refine (Below.refl _).bind fun _ => (Below.refl _).bind fun _ => ?_
      exact (h _ _).bind fun _ => Below.refl _

theorem evaluate_rules_below (spec : Spec) (filter_active : Bool) (rules : List Rule) :
    Below (evaluate_rules env r spec filter_active rules)
      (evaluate_rules env r' spec filter_active rules) := by
  induction rules with
  | nil => exact Below.refl _
  | cons rule rules ih =>
    unfold evaluate_rules evaluate_rule
    refine (Below.refl _).bind fun ctx => ?_
    split
    · exact ih
    · refine (evaluate_conditions_below env h _ _).bind fun _ => (Below.refl _).bind fun ctx => ?_
      split
      · exact Below.refl _
      · split
        · exact ih
        · exact (evaluate_config_delegate_below env h _).bind fun _ => Below.refl _

theorem new_layer_rules_below (spec : Spec) (filter_active : Bool) (rules : List Rule)
    (s : LayerState) :
    Below (new_layer_rules env r spec filter_active rules s)
      (new_layer_rules env r' spec filter_active rules s) := by
  induction rules generalizing s with
  | nil => exact Below.refl _
  | cons rule rules ih =>
    unfold new_layer_rules evaluate_rule
    refine (Below.refl _).bind fun ctx => ?_
    split
    · exact ih _
    · refine (evaluate_conditions_below env h _ _).bind fun _ => (Below.refl _).bind fun ctx => ?_
      refine (Below.refl _).bind fun _ => ?_
      split
      · exact Below.refl _
      · split
        · exact ih _
        · split
          · exact ih _
          · refine (evaluate_config_delegate_below env h _).bind fun delegated => ?_
            split
            · refine (Below.refl _).bind fun ctx => ?_
              split
              · exact ih _
              · split
                · exact ih _
                · split
                  · exact ih _
                  · exact (Below.refl _).bind fun _ => ih _
            · exact (Below.refl _).bind fun ctx => ih _

theorem evaluate_spec_below (filter_active : Bool) (name : String) (ty : SpecType)
    (opt_spec : Option Spec) :
    Below (evaluate_spec env r filter_active name ty opt_spec)
      (evaluate_spec env r' filter_active name ty opt_spec) := by
  unfold evaluate_spec new_layer_eval
  split
  · exact Below.refl _
  · refine (Below.refl _).bind fun _ => ?_
    split
    · refine (Below.refl _).bind fun ctx => ?_
      dsimp only
      split
      · exact Below.refl _
      · exact new_layer_rules_below env h _ _ _ _
    · refine (Below.refl _).bind fun ctx => ?_
      split
      · exact Below.refl _
      · exact evaluate_rules_below env h _ _ _

theorem try_override_rules_below (ty : SpecType) (salt name : InternedString)
    (override_rules : HashMap String Rule) (rules : List OverrideRule) :
    Below (try_override_rules env r ty salt name override_rules rules)
      (try_override_rules env r' ty salt name override_rules rules) := by
  induction rules with
  | nil => exact Below.refl _
  | cons rule rules ih =>
    unfold try_override_rules evaluate_rule
    split
    · exact ih
    · refine (evaluate_conditions_below env h _ _).attempt.bind fun evaluated => ?_
      refine (Below.refl _).bind fun ctx => (Below.refl _).bind fun _ => ?_
      split
      · refine (Below.refl _).bind fun _ => ?_
        exact (h _ _).attempt.bind fun _ => Below.refl _
      · exact ih

theorem try_apply_config_mapping_below (name : String) (ty : SpecType) (opt_spec : Option Spec) :
    Below (try_apply_config_mapping env r name ty opt_spec)
      (try_apply_config_mapping env r' name ty opt_spec) := by
  have hmaps : ∀ salt override_rules mappings,
      Below (try_mappings env r ty salt override_rules mappings)
        (try_mappings env r' ty salt override_rules mappings) := by
    intro salt override_rules mappings
    induction mappings with
    | nil => exact Below.refl _
    | cons mapping mappings ih =>
      unfold try_mappings
      refine (try_override_rules_below env h _ _ _ _ _).bind fun applied => ?_
      split
      · exact Below.refl _
      · exact ih
  unfold try_apply_config_mapping
  split
  · split
    · exact Below.refl _
    · exact hmaps _ _ _
  · exact Below.refl _

theorem evaluate_cmab_below (name : String) (ty : SpecType) :
    Below (evaluate_cmab env r name ty) (evaluate_cmab env r' name ty) := by
  have htarget : ∀ cmab, Below (get_passes_targeting r cmab) (get_passes_targeting r' cmab) := by
    intro cmab
    unfold get_passes_targeting
    split
    · exact Below.refl _
    · refine (Below.refl _).bind fun prepped => ?_
      split
      · exact Below.refl _
      · exact (h _ _).attempt.bind fun _ => Below.refl _
  unfold evaluate_cmab
  split
  · split
    · exact Below.refl _
    · split
      · exact Below.refl _
      · exact (htarget _).bind fun _ => Below.refl _
  · exact Below.refl _

theorem evaluate_with_below : CallsBelow (evaluate_with env r) (evaluate_with env r') := by
  intro name ty
  unfold evaluate_with
  split
  · exact Below.refl _
  · refine (Below.refl _).bind fun ctx => ?_
    dsimp only
    split
    · exact evaluate_spec_below env h _ _ _ _
    · refine (Below.refl _).bind fun applied => ?_
      split
      · exact Below.refl _
      · refine (try_apply_config_mapping_below env h _ _ _).bind fun applied => ?_
        split
        · exact Below.refl _
        · refine (evaluate_cmab_below env h _ _).bind fun applied => ?_
          split
          · exact Below.refl _
          · exact evaluate_spec_below env h _ _ _ _

end Monotone

theorem evaluate_below {d d' : Nat} (env : EvaluatorEnv) (h : d ≤ d') :
    CallsBelow (evaluate env d) (evaluate env d') := by
  induction d generalizing d' with
  | zero => exact fun _ _ => below_deep _
  | succ d ih =>
    obtain ⟨e, rfl⟩ : ∃ e, d' = e + 1 := ⟨d' - 1, by omega⟩
    exact evaluate_with_below env (ih (by omega))

/-- Once an evaluation ends, more depth changes nothing. -/
theorem evaluate_of_more_depth {d d' : Nat} (env : EvaluatorEnv) (h : d ≤ d') {name : String}
    {ty : SpecType} {ctx : EvaluatorContext} (hd : evaluate env d name ty ctx ≠ .deep) :
    evaluate env d' name ty ctx = evaluate env d name ty ctx :=
  (evaluate_below env h name ty).eq_of_not_deep hd

/-! ## Recognition -/

section Recognition

variable {env : EvaluatorEnv} {rec : Recur}

/-- Whatever the rules of a spec do, the spec is recognized. -/
theorem evaluate_rules_recognizes (spec : Spec) (filter_active : Bool) (rules : List Rule) :
    Triple (fun _ => True) (evaluate_rules env rec spec filter_active rules)
      (fun recognition _ => recognition = .Recognized) (fun _ _ => True) True := by
  induction rules with
  | nil => exact triple_update_bind (M := fun _ => True) (fun _ _ => trivial) fun _ _ => rfl
  | cons rule rules ih =>
    unfold evaluate_rules
    refine triple_state_any fun ctx => ?_
    split
    · exact ih
    · refine (triple_true _).bind fun _ => triple_state_any fun ctx => ?_
      split
      · exact fun _ _ => rfl
      · split
        · exact ih
        · refine (triple_true _).bind fun delegated => ?_
          split
          · exact triple_update_bind (M := fun _ => True) (fun _ _ => trivial) fun _ _ => rfl
          · exact triple_update_bind (M := fun _ => True) (fun _ _ => trivial) fun _ _ => rfl

theorem evaluate_spec_recognizes (filter_active : Bool) (name : String) (spec : Spec) :
    Triple (fun _ => True) (evaluate_spec env rec filter_active name .Experiment (some spec))
      (fun recognition _ => recognition = .Recognized) (fun _ _ => True) True := by
  unfold evaluate_spec
  refine triple_update_bind (M := fun _ => True) (fun _ _ => trivial) ?_
  rw [if_neg fun h => by cases h.2]
  refine triple_state_any fun ctx => ?_
  split
  · exact triple_update_bind (M := fun _ => True) (fun _ _ => trivial) fun _ _ => rfl
  · exact evaluate_rules_recognizes spec filter_active spec.rules

/-- An experiment that the specs hold is recognized. -/
theorem evaluate_recognizes {name : String} {spec : Spec}
    (hget : env.specs_data.dynamic_configs.get name = some spec) (depth : Nat) :
    Triple (fun _ => True) (evaluate env depth name .Experiment)
      (fun recognition _ => recognition = .Recognized) (fun _ _ => True) True := by
  cases depth with
  | zero => exact fun _ _ => trivial
  | succ depth =>
    have hfind : find_spec env.specs_data name .Experiment = some spec := hget
    show Triple _ (evaluate_with env (evaluate env depth) name .Experiment) _ _ _
    unfold evaluate_with
    rw [if_neg (by decide), hfind]
    refine triple_state_any fun ctx => ?_
    dsimp only
    split
    · exact evaluate_spec_recognizes true name spec
    · refine (triple_true _).bind fun overridden => ?_
      split
      · exact fun _ _ => rfl
      · refine (triple_true _).bind fun mapped => ?_
        split
        · exact fun _ _ => rfl
        · refine (triple_true _).bind fun applied => ?_
          split
          · exact fun _ _ => rfl
          · exact evaluate_spec_recognizes false name spec

end Recognition

end statsig_rust.evaluation
