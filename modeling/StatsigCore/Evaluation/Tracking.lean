-- Two runs of the evaluator side by side, from contexts that differ in their rule filter at
-- most and with recursive calls of their own. They do the same as long as the calls that the
-- first run makes come out the same in the second one.
import StatsigCore.Evaluation.RuleFilter
import StatsigCore.Evaluation.Steps

open program

namespace statsig_rust.evaluation

/-- The context with another rule filter. -/
def refilter (f : Bool → Bool) (ctx : EvaluatorContext) : EvaluatorContext :=
  { ctx with
    only_evaluate_targeting := f ctx.only_evaluate_targeting
    only_evaluate_overrides := f ctx.only_evaluate_overrides }

/-- The call that a step makes comes out the same with the other filter and the other
recursion. The group of an experiment is asked for in a context of its own. -/
def Step.Agrees (f : Bool → Bool) (rec rec' : Recur) : Step → Prop
  | .nests b ctx =>
    (rec b.2 b.1 ctx).map_state (refilter f) = rec' b.2 b.1 (refilter f ctx)
  | .maps b ctx =>
    (rec b.2 b.1 ctx).map_state (refilter f) = rec' b.2 b.1 (refilter f ctx)
  | .groups b ctx => rec b.2 b.1 ctx = rec' b.2 b.1 ctx
  | _ => True

section Fields

variable {f : Bool → Bool} {ctx : EvaluatorContext}

@[simp] theorem refilter_result : (refilter f ctx).result = ctx.result := rfl

@[simp] theorem refilter_nested_count : (refilter f ctx).nested_count = ctx.nested_count := rfl

@[simp] theorem refilter_memo : (refilter f ctx).nested_gate_memo = ctx.nested_gate_memo := rfl

@[simp] theorem refilter_draws : (refilter f ctx).draws = ctx.draws := rfl

theorem map_state_id {α : Type} (o : Outcome EvaluatorContext StatsigErr α) :
    o.map_state (refilter id) = o := by
  cases o <;> rfl

end Fields

/-! ## Steps that do not look at the filter -/

section Steps

variable {env : EvaluatorEnv} (f : Bool → Bool)

theorem record_nested_gate_refilter (gate : InternedString) (ty : ConditionType)
    (ctx : EvaluatorContext) :
    refilter f (record_nested_gate gate ty ctx) = record_nested_gate gate ty (refilter f ctx) := by
  have hpush : refilter f (push_nested_exposure gate ctx) =
      push_nested_exposure gate (refilter f ctx) := by
    unfold push_nested_exposure
    dsimp only
    rw [apply_ite (refilter f)]
    rfl
  unfold record_nested_gate
  dsimp only
  rw [← hpush, apply_ite (refilter f)]
  rfl

theorem apply_operator_refilter (condition : Condition) (value : Option DynamicValue)
    (ctx : EvaluatorContext) :
    refilter f (apply_operator env condition value ctx) =
      apply_operator env condition value (refilter f ctx) := by
  unfold apply_operator
  split <;> rfl

theorem finalize_refilter (ctx : EvaluatorContext) (spec : Spec) (rule : Option Rule) :
    refilter f (ctx.finalize_evaluation spec rule) =
      (refilter f ctx).finalize_evaluation spec rule := by
  unfold EvaluatorContext.finalize_evaluation
  dsimp only
  rw [apply_ite (refilter f), apply_ite (refilter f), apply_ite (refilter f)]
  rfl

theorem assign_cmab_group_refilter (cmab : CMABConfig) (ctx : EvaluatorContext) :
    refilter f (assign_cmab_group env cmab ctx) = assign_cmab_group env cmab (refilter f ctx) := by
  unfold assign_cmab_group apply_random_group apply_best_group
  dsimp only [refilter]
  repeat' split
  all_goals rfl

theorem prep_refilter (ctx : EvaluatorContext) :
    (prep_for_nested_evaluation ctx).map_state (refilter f) =
      prep_for_nested_evaluation (refilter f ctx) := by
  unfold prep_for_nested_evaluation
  dsimp only
  rw [apply_ite (Outcome.map_state (refilter f))]
  rfl

end Steps

/-! ## Conditions, delegates and bandits -/

section Calls

variable {env : EvaluatorEnv} {f : Bool → Bool} {rec rec' : Recur} {ctx : EvaluatorContext}

theorem evaluate_nested_gate_tracks (target : MemoizedEvaluatorValue) (ty : ConditionType)
    (ctx : EvaluatorContext) :
    Tracks (Step.Agrees f rec rec') (refilter f) ctx (evaluate_nested_gate rec target ty)
      (evaluate_nested_gate rec' target ty) (nested_gate_steps target ctx) := by
  unfold evaluate_nested_gate nested_gate_steps
  refine tracks_state ?_
  simp only [refilter_memo]
  cases hmemo : ctx.nested_gate_memo.get (gate_name_of target) with
  | some memo =>
    dsimp only
    exact tracks_update (record_nested_gate_refilter ..)
  | none =>
    dsimp only
    refine tracks_cons fun _ => tracks_after (prep_refilter f ctx) fun _ prepped _ => ?_
    refine tracks_state (tracks_after_update rfl ?_)
    refine Tracks.bind_quiet (tracks_one fun h => h) fun _ inner _ => ?_
    simp only [state_bind, refilter_result]
    refine map_state_ite (fun _ => rfl) fun _ => ?_
    exact congrArg (Outcome.ok ()) (record_nested_gate_refilter ..)

theorem evaluate_experiment_group_tracks (name : Option DynamicString) (ctx : EvaluatorContext) :
    Tracks (Step.Agrees f rec rec') (refilter f) ctx (evaluate_experiment_group env rec name)
      (evaluate_experiment_group env rec' name) (experiment_group_steps env name ctx) := by
  unfold evaluate_experiment_group experiment_group_steps
  cases name with
  | none => exact tracks_pure _
  | some name =>
    dsimp only
    split
    · refine tracks_one fun h => ?_
      unfold get_experiment_group_name
      simp only [refilter_draws]
      have hsame : rec name.value .Experiment { draws := ctx.draws } =
        rec' name.value .Experiment { draws := ctx.draws } := h
      rw [hsame]
      cases rec' name.value .Experiment { draws := ctx.draws } <;> rfl
    · exact tracks_update_pure rfl

theorem evaluate_condition_tracks (condition : Condition) (ctx : EvaluatorContext) :
    Tracks (Step.Agrees f rec rec') (refilter f) ctx (evaluate_condition env rec condition)
      (evaluate_condition env rec' condition) (condition_steps env condition ctx) := by
  have hreading : Tracks (Step.Agrees f rec rec') (refilter f) ctx
      (update (evaluate_reading env condition) : Eval Unit)
      (update (evaluate_reading env condition)) [] := by
    refine tracks_update ?_
    unfold evaluate_reading
    dsimp only
    rw [apply_operator_refilter]
    split <;> rfl
  unfold evaluate_condition condition_steps
  cases hty : type_of condition
  case Public => exact tracks_update rfl
  case FailGate => exact evaluate_nested_gate_tracks (target_of condition) .FailGate ctx
  case PassGate => exact evaluate_nested_gate_tracks (target_of condition) .PassGate ctx
  case ExperimentGroup =>
    refine (evaluate_experiment_group_tracks condition.field ctx).bind_quiet fun _ inner _ => ?_
    exact congrArg (Outcome.ok ()) (apply_operator_refilter ..)
  case Unknown => exact tracks_update rfl
  all_goals exact hreading

theorem evaluate_conditions_tracks (hashes : List InternedString) (all : Bool)
    (ctx : EvaluatorContext) :
    Tracks (Step.Agrees f rec rec') (refilter f) ctx (evaluate_conditions env rec hashes all)
      (evaluate_conditions env rec' hashes all) (conditions_steps env rec hashes ctx) := by
  induction hashes generalizing all ctx with
  | nil => exact tracks_update rfl
  | cons hash hashes ih =>
    unfold evaluate_conditions conditions_steps
    cases hget : env.specs_data.condition_map.get hash with
    | none => exact tracks_update rfl
    | some condition =>
      dsimp only
      exact (evaluate_condition_tracks condition ctx).bind fun _ inner _ =>
        tracks_state (ih _ inner)

theorem evaluate_rule_tracks (rule : Rule) (ctx : EvaluatorContext) :
    Tracks (Step.Agrees f rec rec') (refilter f) ctx (evaluate_rule env rec rule)
      (evaluate_rule env rec' rule) (conditions_steps env rec rule.conditions ctx) :=
  evaluate_conditions_tracks rule.conditions true ctx

theorem evaluate_config_delegate_tracks (rule : Rule) (ctx : EvaluatorContext) :
    Tracks (Step.Agrees f rec rec') (refilter f) ctx (evaluate_config_delegate env rec rule)
      (evaluate_config_delegate env rec' rule) (delegate_steps env rule ctx) := by
  unfold evaluate_config_delegate delegate_steps
  cases rule.config_delegate with
  | none => exact tracks_pure _
  | some delegate =>
    dsimp only
    cases env.specs_data.dynamic_configs.get delegate with
    | none => exact tracks_pure _
    | some delegate_spec =>
      refine tracks_after_update rfl ?_
      refine tracks_cons fun _ => tracks_after (prep_refilter f _) fun _ prepped _ => ?_
      refine Tracks.bind_quiet (tracks_one fun h => h) fun recognition inner _ => ?_
      split
      · rfl
      · rfl

theorem get_passes_targeting_tracks (cmab : CMABConfig) (ctx : EvaluatorContext) :
    Tracks (Step.Agrees f rec rec') (refilter f) ctx (get_passes_targeting rec cmab)
      (get_passes_targeting rec' cmab) (targeting_steps cmab ctx) := by
  unfold get_passes_targeting targeting_steps
  cases cmab.targeting_gate_name with
  | none => exact tracks_pure _
  | some gate =>
    dsimp only
    have hpush : ∀ passes c, refilter f (push_targeting_exposure gate passes c) =
        push_targeting_exposure gate passes (refilter f c) := by
      intro passes c
      unfold push_targeting_exposure
      dsimp only
      rw [apply_ite (refilter f)]
      rfl
    refine tracks_cons fun _ => tracks_after_attempt (prep_refilter f ctx)
      (fun _ prepped _ => ?_) fun _ _ _ => rfl
    refine Tracks.bind_quiet (Tracks.attempt (tracks_one fun h => h)) fun recognition inner _ => ?_
    exact congrArg (Outcome.ok _) (hpush _ inner)

theorem evaluate_cmab_tracks (name : String) (ty : SpecType) (ctx : EvaluatorContext) :
    Tracks (Step.Agrees f rec rec') (refilter f) ctx (evaluate_cmab env rec name ty)
      (evaluate_cmab env rec' name ty) (cmab_steps env name ty ctx) := by
  unfold evaluate_cmab cmab_steps
  have hnone : Tracks (Step.Agrees f rec rec') (refilter f) ctx (pure false : Eval Bool)
      (pure false) [] := tracks_pure _
  cases ty
  case Experiment =>
    cases env.specs_data.cmab_configs with
    | none => exact hnone
    | some cmabs =>
      dsimp only
      cases cmabs.get name with
      | none => exact hnone
      | some cmab =>
        dsimp only
        refine tracks_ite (fun _ => tracks_update_pure rfl) fun _ => ?_
        refine (get_passes_targeting_tracks cmab ctx).bind_quiet fun passes c _ => ?_
        split
        · exact congrArg (Outcome.ok true) (assign_cmab_group_refilter f cmab _)
        · rfl
  all_goals exact hnone

theorem try_override_rules_tracks (ty : SpecType) (salt target : InternedString)
    (override_rules : HashMap String Rule) (rules : List OverrideRule) (ctx : EvaluatorContext) :
    Tracks (Step.Agrees f rec rec') (refilter f) ctx
      (try_override_rules env rec ty salt target override_rules rules)
      (try_override_rules env rec' ty salt target override_rules rules)
      (override_rules_steps env rec ty salt target override_rules rules ctx) := by
  induction rules generalizing ctx with
  | nil => exact tracks_pure _
  | cons override_rule rules ih =>
    unfold try_override_rules override_rules_steps
    cases started_rule env override_rules override_rule with
    | none => exact ih ctx
    | some rule =>
      dsimp only
      refine tracks_cons fun _ =>
        (evaluate_rule_tracks rule ctx).attempt.bind fun evaluated c _ => ?_
      refine tracks_state (tracks_after_update rfl ?_)
      simp only [refilter_result]
      refine tracks_ite (fun _ => tracks_after_update rfl ?_) fun _ => ih _
      refine Tracks.bind_quiet (Tracks.attempt (tracks_one fun h => h))
        fun recognition inner _ => ?_
      split
      · rfl
      · rfl

theorem try_apply_config_mapping_tracks (name : String) (ty : SpecType) (opt_spec : Option Spec)
    (ctx : EvaluatorContext) :
    Tracks (Step.Agrees f rec rec') (refilter f) ctx
      (try_apply_config_mapping env rec name ty opt_spec)
      (try_apply_config_mapping env rec' name ty opt_spec)
      (config_mapping_steps env rec name ty opt_spec ctx) := by
  have hmappings : ∀ salt override_rules mappings ctx,
      Tracks (Step.Agrees f rec rec') (refilter f) ctx
        (try_mappings env rec ty salt override_rules mappings)
        (try_mappings env rec' ty salt override_rules mappings)
        (mappings_steps env rec ty salt override_rules mappings ctx) := by
    intro salt override_rules mappings
    induction mappings with
    | nil => exact fun ctx => tracks_pure _
    | cons mapping mappings ih =>
      intro ctx
      unfold try_mappings mappings_steps
      refine (try_override_rules_tracks ty salt _ override_rules _ ctx).bind fun applied c _ => ?_
      exact tracks_ite (fun _ => tracks_pure _) fun _ => ih c
  unfold try_apply_config_mapping config_mapping_steps
  cases env.specs_data.overrides with
  | none => exact tracks_pure _
  | some overrides =>
    cases env.specs_data.override_rules with
    | none => exact tracks_pure _
    | some override_rules =>
      dsimp only
      cases overrides.get name with
      | none => exact tracks_pure _
      | some mapping_list => exact hmappings _ override_rules mapping_list ctx

theorem try_apply_override_refilter (name : String) (ty : SpecType) (opt_spec : Option Spec)
    (ctx : EvaluatorContext) :
    (try_apply_override env name ty opt_spec ctx).map_state (refilter f) =
      try_apply_override env name ty opt_spec (refilter f ctx) := by
  unfold try_apply_override
  split <;> rfl

end Calls

/-! ## The filter of the calls -/

theorem Steady.of_ok {α : Type} {x : Eval α} (h : Steady x) {a : α} {ctx ctx' : EvaluatorContext}
    (hrun : x ctx = .ok a ctx') : filter_of ctx' = filter_of ctx := by
  have hmeets := h (filter_of ctx) ctx rfl
  rw [hrun] at hmeets
  exact hmeets

section Filter

variable {env : EvaluatorEnv} {rec : Recur} {filter : Bool × Bool} {ctx : EvaluatorContext}

variable (hsteady : ∀ name ty, Steady (rec name ty))

include hsteady

end Filter

/-! ## The rules that a run looks at -/

section Rules

variable {env : EvaluatorEnv} {f : Bool → Bool} {rec rec' : Recur} {filter : Bool × Bool}
  {active active' : Bool} {keep : Rule → Bool}

/-- The second run skips the kept rules that the first one skips, and the first one skips the
rest. -/
structure Skips (f : Bool → Bool) (filter : Bool × Bool) (active active' : Bool)
    (keep : Rule → Bool) : Prop where
  kept : ∀ ctx, filter_of ctx = filter → ∀ rule, keep rule = true →
    (active' && !rule_matches_filter (refilter f ctx) rule) =
      (active && !rule_matches_filter ctx rule)
  dropped : ∀ ctx, filter_of ctx = filter → ∀ rule, keep rule = false →
    (active && !rule_matches_filter ctx rule) = true

variable (hsteady : ∀ name ty, Steady (rec name ty)) (hskips : Skips f filter active active' keep)

include hsteady hskips

theorem evaluate_rules_tracks (spec : Spec) (kept rules : List Rule) (ctx : EvaluatorContext)
    (hctx : filter_of ctx = filter) :
    Tracks (Step.Agrees f rec rec') (refilter f) ctx (evaluate_rules env rec spec active rules)
      (evaluate_rules env rec' { spec with rules := kept } active' (rules.filter keep))
      (rules_steps env rec active rules ctx) := by
  induction rules generalizing ctx with
  | nil => exact tracks_update_pure (finalize_refilter f ..)
  | cons rule rules ih =>
    by_cases hkeep : keep rule = true
    · rw [List.filter_cons_of_pos hkeep]
      unfold evaluate_rules rules_steps
      refine tracks_state ?_
      rw [hskips.kept ctx hctx rule hkeep]
      refine tracks_ite (fun _ => ih ctx hctx) fun _ => tracks_cons fun _ => ?_
      refine (evaluate_rule_tracks rule ctx).bind fun _ asked hrun => tracks_state ?_
      have hasked := ((evaluate_rule_steady hsteady rule).of_ok hrun).trans hctx
      simp only [refilter_result]
      refine tracks_ite (fun _ => tracks_pure _) fun _ => ?_
      refine tracks_ite (fun _ => ih asked hasked) fun _ => ?_
      refine (evaluate_config_delegate_tracks rule asked).bind_quiet fun delegated c _ => ?_
      refine map_state_ite (fun _ => ?_) fun _ => ?_
      · exact congrArg (Outcome.ok _) (finalize_refilter f ..)
      · exact congrArg (Outcome.ok _) (finalize_refilter f ..)
    · have hskip := hskips.dropped ctx hctx rule (Bool.eq_false_iff.mpr hkeep)
      rw [List.filter_cons_of_neg hkeep]
      simp only [evaluate_rules, rules_steps, hskip, ↓reduceIte]
      intro hsteps
      rw [state_bind, hskip, if_pos rfl]
      exact ih ctx hctx hsteps

theorem new_layer_rules_tracks (spec : Spec) (kept rules : List Rule) (s : LayerState)
    (ctx : EvaluatorContext) (hctx : filter_of ctx = filter) :
    Tracks (Step.Agrees f rec rec') (refilter f) ctx (new_layer_rules env rec spec active rules s)
      (new_layer_rules env rec' { spec with rules := kept } active' (rules.filter keep) s)
      (layer_steps env rec spec active rules s ctx) := by
  induction rules generalizing s ctx with
  | nil => exact tracks_update_pure (finalize_refilter f ..)
  | cons rule rules ih =>
    by_cases hkeep : keep rule = true
    · rw [List.filter_cons_of_pos hkeep]
      unfold new_layer_rules layer_steps
      refine tracks_state ?_
      rw [hskips.kept ctx hctx rule hkeep]
      refine tracks_ite (fun _ => ih s ctx hctx) fun _ => tracks_cons fun _ => ?_
      refine (evaluate_rule_tracks rule ctx).bind fun _ asked hrun => tracks_state ?_
      have hasked := ((evaluate_rule_steady hsteady rule).of_ok hrun).trans hctx
      refine tracks_after_update rfl ?_
      dsimp only
      simp only [refilter_result]
      refine tracks_ite (fun _ => tracks_pure _) fun _ => ?_
      refine tracks_ite (fun _ => ih _ _ hasked) fun _ => ?_
      refine tracks_ite (fun _ => ih _ _ hasked) fun _ => ?_
      refine (evaluate_config_delegate_tracks rule (take_exposures asked)).bind
        fun delegated c hdelegate => ?_
      have hc : filter_of c = filter :=
        ((evaluate_config_delegate_steady hsteady rule).of_ok hdelegate).trans hasked
      refine tracks_ite (fun _ => tracks_state ?_) fun _ => tracks_state (ih _ c hc)
      refine tracks_ite (fun _ => ih _ c hc) fun _ => ?_
      simp only [refilter_result]
      cases c.result.json_value with
      | none => exact ih _ c hc
      | some value =>
        exact tracks_ite (fun _ => ih _ c hc) fun _ => tracks_after_update rfl (ih _ _ hc)
    · have hskip := hskips.dropped ctx hctx rule (Bool.eq_false_iff.mpr hkeep)
      rw [List.filter_cons_of_neg hkeep]
      simp only [new_layer_rules, layer_steps, hskip, ↓reduceIte]
      intro hsteps
      rw [state_bind, hskip, if_pos rfl]
      exact ih s ctx hctx hsteps

end Rules

/-! ## A whole call -/

section Whole

variable {env : EvaluatorEnv} {f : Bool → Bool} {rec rec' : Recur}
  (hsteady : ∀ name ty, Steady (rec name ty))

/-- Either the filter is the same, or it is not looked at. -/
theorem skips_alike {active : Bool} (h : f = id ∨ active = false) (filter : Bool × Bool) :
    Skips f filter active active fun _ => true where
  kept ctx _ rule _ := by
    rcases h with rfl | rfl
    · rfl
    · rfl
  dropped _ _ _ h := absurd h (by decide)

include hsteady

theorem all_rules_track {active : Bool} (h : f = id ∨ active = false) (spec : Spec)
    (rules : List Rule) (ctx : EvaluatorContext) :
    Tracks (Step.Agrees f rec rec') (refilter f) ctx (evaluate_rules env rec spec active rules)
      (evaluate_rules env rec' spec active rules) (rules_steps env rec active rules ctx) := by
  have htracks := @evaluate_rules_tracks env f rec rec' _ _ _ _ hsteady
    (skips_alike h (filter_of ctx)) spec spec.rules rules ctx rfl
  rwa [List.filter_true] at htracks

theorem all_layer_rules_track {active : Bool} (h : f = id ∨ active = false) (spec : Spec)
    (rules : List Rule) (s : LayerState) (ctx : EvaluatorContext) :
    Tracks (Step.Agrees f rec rec') (refilter f) ctx (new_layer_rules env rec spec active rules s)
      (new_layer_rules env rec' spec active rules s)
      (layer_steps env rec spec active rules s ctx) := by
  have htracks := @new_layer_rules_tracks env f rec rec' _ _ _ _ hsteady
    (skips_alike h (filter_of ctx)) spec spec.rules rules s ctx rfl
  rwa [List.filter_true] at htracks

/-- A spec, with its rule filter or with all its rules. -/
theorem evaluate_spec_tracks {active : Bool} {name : String} {ty : SpecType}
    (h : f = id ∨ active = false ∧ ty ≠ .Layer) (opt_spec : Option Spec) (ctx : EvaluatorContext) :
    Tracks (Step.Agrees f rec rec') (refilter f) ctx
      (evaluate_spec env rec active name ty opt_spec)
      (evaluate_spec env rec' active name ty opt_spec)
      (spec_steps env rec active name ty opt_spec ctx) := by
  have hactive : f = id ∨ active = false := h.imp_right And.left
  unfold evaluate_spec spec_steps
  cases opt_spec with
  | none => exact tracks_pure _
  | some spec =>
    refine tracks_after_update rfl ?_
    refine tracks_ite (fun hlayer => ?_) fun _ => ?_
    · obtain rfl : f = id := h.resolve_right fun hplain => hplain.2 hlayer.2
      unfold new_layer_eval
      refine tracks_state ?_
      dsimp only
      refine tracks_ite (fun _ => tracks_update_pure (finalize_refilter id ..)) fun _ => ?_
      exact all_layer_rules_track hsteady (.inl rfl) spec spec.rules {} _
    · refine tracks_state ?_
      have hsame : (active && !spec_has_filtered_rule (refilter f (begin_spec name spec ctx)) spec) =
          (active && !spec_has_filtered_rule (begin_spec name spec ctx) spec) := by
        rcases hactive with rfl | rfl
        · rfl
        · rfl
      rw [hsame]
      refine tracks_ite (fun _ => tracks_update_pure (finalize_refilter f ..)) fun _ => ?_
      exact all_rules_track hsteady hactive spec spec.rules _

/-- A whole call, with the same filter or from within another call. -/
theorem evaluate_with_tracks {name : String} {ty : SpecType} {ctx : EvaluatorContext}
    (h : f = id ∨ ctx.nested_count ≠ 0 ∧ ty ≠ .Layer) :
    Tracks (Step.Agrees f rec rec') (refilter f) ctx (evaluate_with env rec name ty)
      (evaluate_with env rec' name ty) (steps_with env rec name ty ctx) := by
  unfold evaluate_with steps_with
  refine tracks_ite (fun _ => tracks_pure _) fun _ => tracks_state ?_
  have hsame : ((refilter f ctx).nested_count == 0 &&
      ((refilter f ctx).only_evaluate_targeting || (refilter f ctx).only_evaluate_overrides)) =
      (ctx.nested_count == 0 && (ctx.only_evaluate_targeting || ctx.only_evaluate_overrides)) := by
    rcases h with rfl | ⟨hcount, -⟩
    · rfl
    · rw [refilter_nested_count, beq_false_of_ne hcount]
      rfl
  dsimp only
  rw [hsame]
  refine tracks_ite (fun hactive => ?_) fun _ => ?_
  · refine evaluate_spec_tracks hsteady (.inl (h.resolve_right ?_)) _ _
    rintro ⟨hcount, -⟩
    rw [beq_false_of_ne hcount] at hactive
    cases hactive
  · have hplain : f = id ∨ false = false ∧ ty ≠ .Layer :=
      h.imp_right fun hnested => ⟨rfl, hnested.2⟩
    refine tracks_after (try_apply_override_refilter ..) fun overridden c _ => ?_
    refine tracks_ite (fun _ => tracks_pure _) fun _ => ?_
    refine (try_apply_config_mapping_tracks name ty _ c).bind fun mapped c _ => ?_
    refine tracks_ite (fun _ => tracks_pure _) fun _ => ?_
    refine (evaluate_cmab_tracks name ty c).bind fun applied c _ => ?_
    exact tracks_ite (fun _ => tracks_pure _) fun _ => evaluate_spec_tracks hsteady hplain _ c

/-- A call reads its recursion only where its steps say so. -/
theorem evaluate_with_same_calls {name : String} {ty : SpecType} {ctx : EvaluatorContext}
    (h : ∀ step ∈ steps_with env rec name ty ctx, step.Agrees id rec rec') :
    evaluate_with env rec name ty ctx = evaluate_with env rec' name ty ctx := by
  have htracks := evaluate_with_tracks hsteady (.inl rfl) h
  rwa [map_state_id] at htracks

end Whole

end statsig_rust.evaluation
