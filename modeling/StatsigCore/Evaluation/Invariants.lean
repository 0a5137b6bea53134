-- What every path of the evaluator keeps. Hardly any step touches the rule filter of a context
-- or the rule ids of the parameters, so an invariant of the two is followed once.
import StatsigCore.Evaluation.Evaluator

open program

namespace statsig_rust.evaluation

/-- The rule filter of a context. -/
def filter_of (ctx : EvaluatorContext) : Bool × Bool :=
  (ctx.only_evaluate_targeting, ctx.only_evaluate_overrides)

/-- The rule filter, and the rule ids of the parameters. -/
def fixed_of (ctx : EvaluatorContext) :
    (Bool × Bool) × Option (HashMap InternedString InternedString) :=
  (filter_of ctx, ctx.result.parameter_rule_ids)

/-- A run that keeps an invariant, however it ends. -/
def Maintains {α : Type} (I : EvaluatorContext → Prop) (x : Eval α) : Prop :=
  Triple I x (fun _ => I) (fun _ => I) True

/-- An invariant of the rule filter and the rule ids of the parameters, with what the steps
that touch these need. -/
structure Stable (env : EvaluatorEnv) (I : EvaluatorContext → Prop) : Prop where
  fixed : ∀ c c', fixed_of c' = fixed_of c → I c → I c'
  reset : ∀ c, I c → I c.reset_result
  finish : ∀ name spec, env.specs_data.layer_configs.get name = some spec →
    spec.use_new_layer_eval = some true → ∀ (state : LayerState) c, I c → I (state.finish spec c)
  override : ∀ name ty spec c applied c', I c →
    try_apply_override env name ty spec c = .ok applied c' → I c'

section Maintains

variable {α β : Type} {I : EvaluatorContext → Prop} {x : Eval α} {f : α → Eval β}

theorem maintains_pure (a : α) : Maintains I (pure a : Eval α) := triple_pure fun _ h => h

theorem Maintains.bind (hx : Maintains I x) (hf : ∀ a, Maintains I (f a)) : Maintains I (x >>= f) :=
  Triple.bind hx hf

theorem maintains_state {f : EvaluatorContext → Eval β} (hf : ∀ c, Maintains I (f c)) :
    Maintains I (state >>= f) :=
  triple_state_any hf

theorem Maintains.attempt (hx : Maintains I x) : Maintains I (attempt x) :=
  Triple.attempt (R := fun _ => I) hx

variable {env : EvaluatorEnv} {rec : Recur} (hI : Stable env I)

include hI

theorem Stable.step {g : EvaluatorContext → EvaluatorContext}
    (hg : ∀ c, fixed_of (g c) = fixed_of c) : Maintains I (update g) :=
  triple_update fun c h => hI.fixed c (g c) (hg c) h

theorem Stable.step_bind {g : EvaluatorContext → EvaluatorContext} {f : Unit → Eval β}
    (hg : ∀ c, fixed_of (g c) = fixed_of c) (hf : Maintains I (f ())) :
    Maintains I (update g >>= f) :=
  (hI.step hg).bind fun _ => hf

theorem prep_maintains : Maintains I prep_for_nested_evaluation := by
  intro ctx h
  unfold prep_for_nested_evaluation
  dsimp only
  split
  · exact hI.fixed ctx _ rfl h
  · exact hI.fixed ctx _ rfl h

omit hI

theorem record_nested_gate_fixed (gate : InternedString) (ty : ConditionType)
    (ctx : EvaluatorContext) : fixed_of (record_nested_gate gate ty ctx) = fixed_of ctx := by
  have hpush : fixed_of (push_nested_exposure gate ctx) = fixed_of ctx := by
    unfold push_nested_exposure
    dsimp only
    split <;> split <;> rfl
  unfold record_nested_gate
  dsimp only
  split <;> exact hpush

theorem apply_operator_fixed (condition : Condition) (value : Option DynamicValue)
    (ctx : EvaluatorContext) :
    fixed_of (apply_operator env condition value ctx) = fixed_of ctx := by
  unfold apply_operator
  split <;> rfl

theorem finalize_fixed (ctx : EvaluatorContext) (spec : Spec) (rule : Option Rule) :
    fixed_of (ctx.finalize_evaluation spec rule) = fixed_of ctx := by
  unfold EvaluatorContext.finalize_evaluation
  dsimp only
  repeat' split
  all_goals rfl

theorem assign_cmab_group_fixed (cmab : CMABConfig) (ctx : EvaluatorContext) :
    fixed_of (assign_cmab_group env cmab ctx) = fixed_of ctx := by
  unfold assign_cmab_group apply_random_group apply_best_group
  dsimp only
  repeat' split
  all_goals rfl

variable (hrec : ∀ name ty, Maintains I (rec name ty))

include hI hrec

theorem evaluate_condition_maintains (condition : Condition) :
    Maintains I (evaluate_condition env rec condition) := by
  have hgate : ∀ ty, Maintains I (evaluate_nested_gate rec (target_of condition) ty) := by
    intro ty
    unfold evaluate_nested_gate
    refine maintains_state fun ctx => ?_
    split
    · exact hI.step fun c => record_nested_gate_fixed ..
    · refine (prep_maintains hI).bind fun _ => maintains_state fun ctx => ?_
      refine hI.step_bind (fun _ => rfl) ((hrec _ _).bind fun _ => ?_)
      refine maintains_state fun inner => ?_
      split
      · exact maintains_pure _
      · exact hI.step fun c => record_nested_gate_fixed ..
  have hgroup : Maintains I (evaluate_experiment_group env rec condition.field) := by
    unfold evaluate_experiment_group
    split
    · exact maintains_pure _
    · rename_i name hname
      split
      · intro ctx h
        unfold get_experiment_group_name
        cases rec name.value .Experiment { draws := ctx.draws } with
        | ok _ _ => exact hI.fixed ctx _ rfl h
        | err _ _ => exact hI.fixed ctx _ rfl h
        | deep => trivial
      · exact hI.step_bind (fun _ => rfl) (maintains_pure _)
  have hreading : Maintains I (update (evaluate_reading env condition)) := by
    refine hI.step fun c => (apply_operator_fixed ..).trans ?_
    split <;> rfl
  unfold evaluate_condition
  cases type_of condition
  case Public => exact hI.step fun _ => rfl
  case FailGate => exact hgate _
  case PassGate => exact hgate _
  case ExperimentGroup => exact hgroup.bind fun _ => hI.step fun c => apply_operator_fixed ..
  case Unknown => exact hI.step fun _ => rfl
  all_goals exact hreading

theorem evaluate_rule_maintains (rule : Rule) : Maintains I (evaluate_rule env rec rule) := by
  unfold evaluate_rule
  generalize true = all
  generalize rule.conditions = hashes
  induction hashes generalizing all with
  | nil => exact hI.step fun _ => rfl
  | cons hash hashes ih =>
    unfold evaluate_conditions
    split
    · exact hI.step fun _ => rfl
    · exact (evaluate_condition_maintains hI hrec _).bind fun _ => maintains_state fun _ => ih _

theorem evaluate_config_delegate_maintains (rule : Rule) :
    Maintains I (evaluate_config_delegate env rec rule) := by
  unfold evaluate_config_delegate
  split
  · exact maintains_pure _
  · split
    · exact maintains_pure _
    · refine hI.step_bind (fun _ => rfl) ((prep_maintains hI).bind fun _ => ?_)
      refine (hrec _ _).bind fun _ => ?_
      split
      · exact hI.step_bind (fun _ => rfl) (maintains_pure _)
      · exact hI.step_bind (fun _ => rfl) (maintains_pure _)

theorem new_layer_rules_maintains {spec : Spec}
    (hfinish : ∀ (state : LayerState) c, I c → I (state.finish spec c)) (filter_active : Bool)
    (rules : List Rule) (s : LayerState) :
    Maintains I (new_layer_rules env rec spec filter_active rules s) := by
  induction rules generalizing s with
  | nil => exact triple_update_bind (fun c h => hfinish s c h) (maintains_pure _)
  | cons rule rules ih =>
    unfold new_layer_rules
    refine maintains_state fun c => ?_
    split
    · exact ih s
    · refine (evaluate_rule_maintains hI hrec rule).bind fun _ => maintains_state fun c => ?_
      refine hI.step_bind (fun _ => rfl) ?_
      split
      · exact maintains_pure _
      · split
        · exact ih _
        · split
          · exact ih _
          · refine (evaluate_config_delegate_maintains hI hrec rule).bind fun delegated => ?_
            split
            · refine maintains_state fun c => ?_
              split
              · exact ih _
              · split
                · exact ih _
                · split
                  · exact ih _
                  · exact hI.step_bind (fun _ => rfl) (ih _)
            · exact maintains_state fun c => ih _

theorem evaluate_rules_maintains (spec : Spec) (filter_active : Bool) (rules : List Rule) :
    Maintains I (evaluate_rules env rec spec filter_active rules) := by
  induction rules with
  | nil => exact hI.step_bind (fun c => finalize_fixed _ _ _) (maintains_pure _)
  | cons rule rules ih =>
    unfold evaluate_rules
    refine maintains_state fun c => ?_
    split
    · exact ih
    · refine (evaluate_rule_maintains hI hrec rule).bind fun _ => maintains_state fun c => ?_
      split
      · exact maintains_pure _
      · split
        · exact ih
        · refine (evaluate_config_delegate_maintains hI hrec rule).bind fun delegated => ?_
          split
          · exact hI.step_bind (fun c => finalize_fixed _ _ _) (maintains_pure _)
          · exact hI.step_bind (fun c => finalize_fixed _ _ _) (maintains_pure _)

theorem evaluate_spec_maintains (filter_active : Bool) (name : String) (ty : SpecType) :
    Maintains I
      (evaluate_spec env rec filter_active name ty (find_spec env.specs_data name ty)) := by
  unfold evaluate_spec
  split
  · exact maintains_pure _
  · rename_i spec hfind
    have hfalse : Maintains I (do
        update fun ctx => (ctx.set_bool false).finalize_evaluation spec none
        pure Recognition.Recognized) :=
      hI.step_bind (fun c => finalize_fixed _ _ _) (maintains_pure _)
    refine hI.step_bind (fun _ => rfl) ?_
    split
    · rename_i hnew
      rw [hnew.2] at hfind
      unfold new_layer_eval
      refine maintains_state fun c => ?_
      dsimp only
      split
      · exact hfalse
      · exact new_layer_rules_maintains hI hrec (hI.finish name spec hfind hnew.1) _ _ _
    · refine maintains_state fun c => ?_
      split
      · exact hfalse
      · exact evaluate_rules_maintains hI hrec spec _ _

theorem try_override_rules_maintains (ty : SpecType) (salt target : InternedString)
    (override_rules : HashMap String Rule) (rules : List OverrideRule) :
    Maintains I (try_override_rules env rec ty salt target override_rules rules) := by
  have hreset : Maintains I (update EvaluatorContext.reset_result) := triple_update hI.reset
  induction rules with
  | nil => exact maintains_pure _
  | cons o rules ih =>
    unfold try_override_rules
    split
    · exact ih
    · refine (evaluate_rule_maintains hI hrec _).attempt.bind fun _ => ?_
      refine maintains_state fun c => ?_
      refine hreset.bind fun _ => ?_
      split
      · refine hI.step_bind (fun _ => rfl) ((hrec _ _).attempt.bind fun r => ?_)
        split
        · exact maintains_pure _
        · exact hreset.bind fun _ => maintains_pure _
      · exact ih

theorem try_apply_config_mapping_maintains (name : String) (ty : SpecType)
    (opt_spec : Option Spec) :
    Maintains I (try_apply_config_mapping env rec name ty opt_spec) := by
  unfold try_apply_config_mapping
  split
  · rename_i overrides override_rules _ _
    split
    · exact maintains_pure _
    · rename_i mapping_list hlist
      clear hlist
      dsimp only
      induction mapping_list with
      | nil => exact maintains_pure _
      | cons mapping mapping_list ih =>
        unfold try_mappings
        refine (try_override_rules_maintains hI hrec _ _ _ _ _).bind fun applied => ?_
        split
        · exact maintains_pure _
        · exact ih
  · exact maintains_pure _

theorem evaluate_cmab_maintains (name : String) (ty : SpecType) :
    Maintains I (evaluate_cmab env rec name ty) := by
  have htargeting : ∀ cmab, Maintains I (get_passes_targeting rec cmab) := by
    intro cmab
    unfold get_passes_targeting
    split
    · exact maintains_pure _
    · refine (prep_maintains hI).attempt.bind fun prepped => ?_
      split
      · exact hI.step_bind (fun _ => rfl) (maintains_pure _)
      · refine (hrec _ _).attempt.bind fun r => maintains_state fun c => ?_
        refine hI.step_bind (fun c => ?_) (maintains_pure _)
        unfold push_targeting_exposure
        split <;> rfl
  unfold evaluate_cmab
  split
  · split
    · exact maintains_pure _
    · rename_i cmab _
      split
      · exact hI.step_bind (fun _ => rfl) (maintains_pure _)
      · refine (htargeting cmab).bind fun passes => ?_
        split
        · exact hI.step_bind (fun c => assign_cmab_group_fixed ..) (maintains_pure _)
        · exact hI.step_bind (fun _ => rfl) (maintains_pure _)
  · exact maintains_pure _

omit hrec in
/-- Every evaluation keeps a stable invariant. -/
theorem evaluate_maintains (depth : Nat) (name : String) (ty : SpecType) :
    Maintains I (evaluate env depth name ty) := by
  induction depth generalizing name ty with
  | zero => exact fun _ _ => trivial
  | succ depth ih =>
    show Maintains I (evaluate_with env (evaluate env depth) name ty)
    unfold evaluate_with
    split
    · exact maintains_pure _
    · refine maintains_state fun c => ?_
      dsimp only
      split
      · exact evaluate_spec_maintains hI ih _ _ _
      · refine Maintains.bind ?_ fun overridden => ?_
        · intro ctx h
          cases happly : try_apply_override env name ty (find_spec env.specs_data name ty) ctx with
          | ok applied ctx' => exact hI.override _ _ _ _ _ _ h happly
          | err e ctx' =>
            unfold try_apply_override at happly
            split at happly
            · cases happly
            · cases happly
          | deep => trivial
        · split
          · exact maintains_pure _
          · refine (try_apply_config_mapping_maintains hI ih _ _ _).bind fun mapped => ?_
            split
            · exact maintains_pure _
            · refine (evaluate_cmab_maintains hI ih _ _).bind fun cmab => ?_
              split
              · exact maintains_pure _
              · exact evaluate_spec_maintains hI ih _ _ _

end Maintains

end statsig_rust.evaluation
