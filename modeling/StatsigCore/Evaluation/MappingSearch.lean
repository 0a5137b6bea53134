-- The mappings of a config whose search finds nothing. The search evaluates override rules on
-- the result of its caller and wipes it out, and what the rules evaluate goes into the memo.
-- So the config evaluates as it does without the mappings where there was nothing to lose and
-- nothing is left.
import StatsigCore.Evaluation.CallChains
import StatsigCore.Evaluation.Tracking

open program Relation

namespace statsig_rust.evaluation

/-! ## What a search leaves -/

/-- What `reset_result` leaves. -/
def Wiped (ctx : EvaluatorContext) : Prop := ctx.result = {} ∧ ctx.nested_count = 0

section Wiped

variable {env : EvaluatorEnv} (rec : Recur)

/-- After a rule that has started, or from a wiped context, a search that finds
nothing leaves a wiped context. -/
theorem try_override_rules_wipes (ty : SpecType) (salt name : InternedString)
    (override_rules : HashMap String Rule) (rules : List OverrideRule) (P : EvaluatorContext → Prop)
    (h : (∀ c, P c → Wiped c) ∨
      ∃ o ∈ rules, ∃ rule, started_rule env override_rules o = some rule) :
    Triple P (try_override_rules env rec ty salt name override_rules rules)
      (fun applied c => applied = false → Wiped c) (fun _ _ => True) True := by
  induction rules generalizing P with
  | nil =>
    rcases h with h | ⟨_, hmem, _⟩
    · exact triple_pure fun c hc _ => h c hc
    · exact absurd hmem List.not_mem_nil
  | cons o rules ih =>
    unfold try_override_rules
    split
    · rename_i hnone
      apply ih
      rcases h with h | ⟨o', hmem, rule, hstarted⟩
      · exact .inl h
      · rcases List.mem_cons.mp hmem with rfl | hmem
        · rw [hnone] at hstarted
          cases hstarted
        · exact .inr ⟨o', hmem, rule, hstarted⟩
    · refine (triple_true _).bind fun evaluated => triple_state_any fun c => ?_
      refine triple_update_bind (M := Wiped) (fun _ _ => ⟨rfl, rfl⟩) ?_
      split
      · refine (triple_true _).bind fun _ => (triple_true _).bind fun recognition => ?_
        split
        · exact triple_pure fun _ _ h => absurd h (by decide)
        · exact triple_update_bind (M := Wiped) (fun _ _ => ⟨rfl, rfl⟩)
            (triple_pure fun _ h _ => h)
      · exact ih _ (.inl fun _ h => h)

theorem try_mappings_wipes (ty : SpecType) (salt : InternedString)
    (override_rules : HashMap String Rule) (mappings : List ConfigMapping)
    (P : EvaluatorContext → Prop)
    (h : (∀ c, P c → Wiped c) ∨ ∃ m ∈ mappings, ∃ o ∈ m.rules, ∃ rule,
      started_rule env override_rules o = some rule) :
    Triple P (try_mappings env rec ty salt override_rules mappings)
      (fun applied c => applied = false → Wiped c) (fun _ _ => True) True := by
  induction mappings generalizing P with
  | nil =>
    rcases h with h | ⟨_, hmem, _⟩
    · exact triple_pure fun c hc _ => h c hc
    · exact absurd hmem List.not_mem_nil
  | cons mapping mappings ih =>
    unfold try_mappings
    by_cases hhere : (∀ c, P c → Wiped c) ∨ ∃ o ∈ mapping.rules, ∃ rule,
        started_rule env override_rules o = some rule
    · refine (try_override_rules_wipes rec ty salt _ _ _ P hhere).bind fun applied => ?_
      cases applied with
      | true => exact triple_pure fun _ _ h => absurd h (by decide)
      | false => exact ih _ (.inl fun _ h => h rfl)
    · refine (triple_true _).bind fun applied => ?_
      cases applied with
      | true => exact triple_pure fun _ _ h => absurd h (by decide)
      | false =>
        apply ih
        right
        rcases h with h | ⟨m, hmem, hm⟩
        · exact absurd (.inl h) hhere
        · rcases List.mem_cons.mp hmem with rfl | hmem
          · exact absurd (.inr hm) hhere
          · exact ⟨m, hmem, hm⟩

theorem try_apply_config_mapping_wipes {name : String} {mapping : ConfigMapping} {rule : Rule}
    (h : MappingRule env name mapping rule) (ty : SpecType) (opt_spec : Option Spec) :
    Triple (fun _ => True) (try_apply_config_mapping env rec name ty opt_spec)
      (fun applied c => applied = false → Wiped c) (fun _ _ => True) True := by
  obtain ⟨overrides, override_rules, list, ho, hr, hlist, hmem, o, hrules, hstart⟩ := h
  unfold try_apply_config_mapping
  simp only [ho, hr, hlist]
  exact try_mappings_wipes rec ty _ _ _ _ (.inr ⟨mapping, hmem, o, hrules, rule, hstart⟩)

end Wiped

/-- The specs without the mappings of one config. -/
def without_mapping (env : EvaluatorEnv) (name : String) : EvaluatorEnv :=
  { env with
    specs_data.overrides := env.specs_data.overrides.map fun overrides => overrides.remove name }

section Without

variable (env : EvaluatorEnv) (removed : String) (rec : Recur)

/-! Only `try_apply_config_mapping` reads the mappings. -/

theorem evaluate_conditions_without (hashes : List InternedString) (all : Bool) :
    evaluate_conditions (without_mapping env removed) rec hashes all =
      evaluate_conditions env rec hashes all := by
  induction hashes generalizing all with
  | nil => rfl
  | cons hash hashes ih =>
    unfold evaluate_conditions
    simp only [ih]
    rfl

theorem evaluate_rules_without (spec : Spec) (filter_active : Bool) (rules : List Rule) :
    evaluate_rules (without_mapping env removed) rec spec filter_active rules =
      evaluate_rules env rec spec filter_active rules := by
  induction rules with
  | nil => rfl
  | cons rule rules ih =>
    unfold evaluate_rules evaluate_rule
    simp only [ih, evaluate_conditions_without]
    rfl

theorem new_layer_rules_without (spec : Spec) (filter_active : Bool) (rules : List Rule)
    (s : LayerState) :
    new_layer_rules (without_mapping env removed) rec spec filter_active rules s =
      new_layer_rules env rec spec filter_active rules s := by
  induction rules generalizing s with
  | nil => rfl
  | cons rule rules ih =>
    unfold new_layer_rules evaluate_rule
    simp only [ih, evaluate_conditions_without]
    rfl

theorem evaluate_spec_without (filter_active : Bool) (name : String) (ty : SpecType)
    (opt_spec : Option Spec) :
    evaluate_spec (without_mapping env removed) rec filter_active name ty opt_spec =
      evaluate_spec env rec filter_active name ty opt_spec := by
  unfold evaluate_spec new_layer_eval
  simp only [evaluate_rules_without, new_layer_rules_without]

theorem try_override_rules_without (ty : SpecType) (salt name : InternedString)
    (override_rules : HashMap String Rule) (rules : List OverrideRule) :
    try_override_rules (without_mapping env removed) rec ty salt name override_rules rules =
      try_override_rules env rec ty salt name override_rules rules := by
  induction rules with
  | nil => rfl
  | cons o rules ih =>
    unfold try_override_rules evaluate_rule
    simp only [ih, evaluate_conditions_without]
    rfl

theorem try_mappings_without (ty : SpecType) (salt : InternedString)
    (override_rules : HashMap String Rule) (mappings : List ConfigMapping) :
    try_mappings (without_mapping env removed) rec ty salt override_rules mappings =
      try_mappings env rec ty salt override_rules mappings := by
  induction mappings with
  | nil => rfl
  | cons mapping mappings ih =>
    unfold try_mappings
    simp only [ih, try_override_rules_without]

theorem try_apply_config_mapping_without {name : String} (hname : name ≠ removed) (ty : SpecType)
    (opt_spec : Option Spec) :
    try_apply_config_mapping (without_mapping env removed) rec name ty opt_spec =
      try_apply_config_mapping env rec name ty opt_spec := by
  unfold try_apply_config_mapping
  simp only [try_mappings_without]
  unfold without_mapping
  dsimp only
  cases env.specs_data.overrides with
  | none => rfl
  | some overrides =>
    cases env.specs_data.override_rules with
    | none => rfl
    | some override_rules =>
      dsimp only [Option.map_some]
      rw [HashMap.get_remove, if_neg hname]

theorem try_apply_config_mapping_removed (ty : SpecType) (opt_spec : Option Spec) :
    try_apply_config_mapping (without_mapping env removed) rec removed ty opt_spec =
      pure false := by
  apply try_apply_config_mapping_skips
  rintro mapping rule ⟨overrides, _, _, hoverrides, _, hlist, _⟩
  obtain ⟨all, -, rfl⟩ := Option.map_eq_some_iff.mp hoverrides
  rw [HashMap.get_remove, if_pos rfl] at hlist
  cases hlist

theorem find_spec_without (name : String) (ty : SpecType) :
    find_spec (without_mapping env removed).specs_data name ty =
      find_spec env.specs_data name ty := by
  cases ty <;> rfl

theorem evaluate_cmab_without (name : String) (ty : SpecType) :
    evaluate_cmab (without_mapping env removed) rec name ty = evaluate_cmab env rec name ty := by
  have hfind : ∀ config total value groups sum,
      find_sampling_group (without_mapping env removed) config total value groups sum =
        find_sampling_group env config total value groups sum := by
    intro config total value groups
    induction groups with
    | nil => exact fun _ => rfl
    | cons group groups ih =>
      intro sum
      unfold find_sampling_group
      simp only [ih]
      rfl
  unfold evaluate_cmab assign_cmab_group sampling_group
  simp only [hfind]
  rfl

/-! The steps that read it are the same ones, too. -/

theorem conditions_steps_without (hashes : List InternedString) (ctx : EvaluatorContext) :
    conditions_steps (without_mapping env removed) rec hashes ctx =
      conditions_steps env rec hashes ctx := by
  induction hashes generalizing ctx with
  | nil => rfl
  | cons hash hashes ih =>
    have ih : conditions_steps (without_mapping env removed) rec hashes =
        conditions_steps env rec hashes := funext ih
    unfold conditions_steps
    simp only [ih]
    rfl

theorem rules_steps_without (filter_active : Bool) (rules : List Rule) (ctx : EvaluatorContext) :
    rules_steps (without_mapping env removed) rec filter_active rules ctx =
      rules_steps env rec filter_active rules ctx := by
  induction rules generalizing ctx with
  | nil => rfl
  | cons rule rules ih =>
    unfold rules_steps evaluate_rule
    simp only [ih, evaluate_conditions_without, conditions_steps_without]
    rfl

theorem layer_steps_without (spec : Spec) (filter_active : Bool) (rules : List Rule)
    (s : LayerState) (ctx : EvaluatorContext) :
    layer_steps (without_mapping env removed) rec spec filter_active rules s ctx =
      layer_steps env rec spec filter_active rules s ctx := by
  induction rules generalizing s ctx with
  | nil => rfl
  | cons rule rules ih =>
    unfold layer_steps evaluate_rule
    simp only [ih, evaluate_conditions_without, conditions_steps_without]
    rfl

theorem spec_steps_without (filter_active : Bool) (name : String) (ty : SpecType)
    (opt_spec : Option Spec) (ctx : EvaluatorContext) :
    spec_steps (without_mapping env removed) rec filter_active name ty opt_spec ctx =
      spec_steps env rec filter_active name ty opt_spec ctx := by
  unfold spec_steps
  simp only [rules_steps_without, layer_steps_without]

theorem cmab_steps_without (name : String) (ty : SpecType) (ctx : EvaluatorContext) :
    cmab_steps (without_mapping env removed) name ty ctx = cmab_steps env name ty ctx := rfl

theorem override_rules_steps_without (ty : SpecType) (salt name : InternedString)
    (override_rules : HashMap String Rule) (rules : List OverrideRule) (ctx : EvaluatorContext) :
    override_rules_steps (without_mapping env removed) rec ty salt name override_rules rules ctx =
      override_rules_steps env rec ty salt name override_rules rules ctx := by
  induction rules generalizing ctx with
  | nil => rfl
  | cons o rules ih =>
    unfold override_rules_steps evaluate_rule
    simp only [ih, evaluate_conditions_without, conditions_steps_without]
    rfl

theorem config_mapping_steps_without {name : String} (hname : name ≠ removed) (ty : SpecType)
    (opt_spec : Option Spec) (ctx : EvaluatorContext) :
    config_mapping_steps (without_mapping env removed) rec name ty opt_spec ctx =
      config_mapping_steps env rec name ty opt_spec ctx := by
  have hmappings : ∀ salt override_rules mappings ctx,
      mappings_steps (without_mapping env removed) rec ty salt override_rules mappings ctx =
        mappings_steps env rec ty salt override_rules mappings ctx := by
    intro salt override_rules mappings
    induction mappings with
    | nil => exact fun _ => rfl
    | cons mapping mappings ih =>
      intro ctx
      unfold mappings_steps
      simp only [ih, override_rules_steps_without, try_override_rules_without]
  unfold config_mapping_steps
  simp only [hmappings]
  unfold without_mapping
  dsimp only
  cases env.specs_data.overrides with
  | none => rfl
  | some overrides =>
    cases env.specs_data.override_rules with
    | none => rfl
    | some override_rules =>
      dsimp only [Option.map_some]
      rw [HashMap.get_remove, if_neg hname]

theorem config_mapping_steps_removed (ty : SpecType) (opt_spec : Option Spec)
    (ctx : EvaluatorContext) :
    config_mapping_steps (without_mapping env removed) rec removed ty opt_spec ctx = [] := by
  unfold config_mapping_steps without_mapping
  dsimp only
  cases env.specs_data.overrides with
  | none => rfl
  | some overrides =>
    cases env.specs_data.override_rules with
    | none => rfl
    | some override_rules =>
      dsimp only [Option.map_some]
      rw [HashMap.get_remove, if_pos rfl]

end Without

/-! ## Searches that leave no trace -/

/-- All of a context but the result and the counter. -/
def rest_of (ctx : EvaluatorContext) :=
  (ctx.nested_gate_memo, ctx.draws, filter_of ctx)

/-- The call that a step makes leaves no trace in the context: a nested gate comes out
unsupported, so that the memo does not take it, and an experiment draws no random number. -/
def Step.Traceless (rec : Recur) : Step → Prop
  | .nests b ctx =>
    (rec b.2 b.1 ctx).Meets (fun _ c => rest_of c = rest_of ctx ∧ c.result.unsupported = true)
      (fun _ c => rest_of c = rest_of ctx) True
  | .groups b ctx =>
    (rec b.2 b.1 ctx).Meets (fun _ c => c.draws = ctx.draws) (fun _ c => c.draws = ctx.draws) True
  | .maps b ctx =>
    (rec b.2 b.1 ctx).Meets (fun _ c => rest_of c = rest_of ctx)
      (fun _ c => rest_of c = rest_of ctx) True
  | _ => True

section Traces

variable {env : EvaluatorEnv} {rec : Recur} {ctx start : EvaluatorContext}

/-- Where its steps leave no trace, a run keeps the trace that `start` has. -/
abbrev KeepsTrace {α : Type} (rec : Recur) (start ctx : EvaluatorContext) (x : Eval α)
    (steps : List Step) : Prop :=
  Takes (Step.Traceless rec) (fun _ => True) ctx x steps (fun _ c => rest_of c = rest_of start)
    (fun _ c => rest_of c = rest_of start) True

theorem apply_operator_rest (condition : Condition) (value : Option DynamicValue)
    (ctx : EvaluatorContext) :
    rest_of (apply_operator env condition value ctx) = rest_of ctx := by
  unfold apply_operator
  split <;> rfl

theorem record_nested_gate_rest (gate : InternedString) (ty : ConditionType)
    (ctx : EvaluatorContext) : rest_of (record_nested_gate gate ty ctx) = rest_of ctx := by
  have hpush : rest_of (push_nested_exposure gate ctx) = rest_of ctx := by
    unfold push_nested_exposure
    dsimp only
    split <;> split <;> rfl
  unfold record_nested_gate
  dsimp only
  split <;> exact hpush

theorem evaluate_nested_gate_trace (target : MemoizedEvaluatorValue) (ty : ConditionType)
    (hctx : rest_of ctx = rest_of start) :
    KeepsTrace rec start ctx (evaluate_nested_gate rec target ty)
      (nested_gate_steps target ctx) := by
  have hprep : (prep_for_nested_evaluation ctx).Meets (fun _ c => rest_of c = rest_of start)
      (fun _ c => rest_of c = rest_of start) True := by
    unfold prep_for_nested_evaluation
    dsimp only
    split
    · exact hctx
    · exact hctx
  unfold evaluate_nested_gate nested_gate_steps
  refine takes_state ?_
  cases hmemo : ctx.nested_gate_memo.get (gate_name_of target) with
  | some memo =>
    simp only [hmemo]
    exact takes_none ((record_nested_gate_rest ..).trans hctx)
  | none =>
    simp only [hmemo]
    refine takes_cons trivial fun _ => takes_after hprep fun _ prepped hprepped =>
      takes_state (takes_after_update ?_)
    have hstart : rest_of (take_exposures prepped) = rest_of start := hprepped
    refine (takes_one (Q := fun _ c => rest_of c = rest_of start ∧ c.result.unsupported = true)
      trivial fun hallowed => ?_).bind_quiet fun _ inner hinner => ?_
    · exact Outcome.Meets.mono hallowed (fun _ _ h => ⟨h.1.trans hstart, h.2⟩)
        fun _ _ h => h.trans hstart
    · simp only [state_bind]
      rw [if_pos hinner.2]
      exact hinner.1

theorem evaluate_experiment_group_trace (name : Option DynamicString)
    (hctx : rest_of ctx = rest_of start) :
    KeepsTrace rec start ctx (evaluate_experiment_group env rec name)
      (experiment_group_steps env name ctx) := by
  unfold evaluate_experiment_group experiment_group_steps
  cases name with
  | none => exact takes_pure hctx
  | some name =>
    dsimp only
    split
    · refine takes_one trivial fun hallowed => ?_
      have hdraws : (rec name.value .Experiment { draws := ctx.draws }).Meets
        (fun _ c => c.draws = ctx.draws) (fun _ c => c.draws = ctx.draws) True := hallowed
      have hkept : ∀ inner : EvaluatorContext, inner.draws = ctx.draws →
          rest_of { ctx with draws := inner.draws } = rest_of start := by
        intro inner hinner
        rw [hinner]
        exact hctx
      unfold get_experiment_group_name
      revert hdraws
      cases rec name.value .Experiment { draws := ctx.draws } with
      | ok _ inner => exact hkept inner
      | err _ inner => exact hkept inner
      | deep => exact fun h => h
    · exact takes_update_pure hctx

theorem evaluate_condition_trace (condition : Condition) (hctx : rest_of ctx = rest_of start) :
    KeepsTrace rec start ctx (evaluate_condition env rec condition)
      (condition_steps env condition ctx) := by
  have hreading : KeepsTrace rec start ctx (update (evaluate_reading env condition)) [] := by
    refine takes_none ?_
    show rest_of (evaluate_reading env condition ctx) = rest_of start
    unfold evaluate_reading
    dsimp only
    rw [apply_operator_rest]
    split
    · exact hctx
    · exact hctx
  unfold evaluate_condition condition_steps
  cases hty : type_of condition
  case Public => exact takes_none hctx
  case FailGate => exact evaluate_nested_gate_trace (target_of condition) .FailGate hctx
  case PassGate => exact evaluate_nested_gate_trace (target_of condition) .PassGate hctx
  case ExperimentGroup =>
    refine (evaluate_experiment_group_trace condition.field hctx).bind_quiet fun _ c hc => ?_
    exact (apply_operator_rest ..).trans hc
  case Unknown => exact takes_none hctx
  all_goals exact hreading

theorem evaluate_conditions_trace (hashes : List InternedString) (all : Bool)
    (hctx : rest_of ctx = rest_of start) :
    KeepsTrace rec start ctx (evaluate_conditions env rec hashes all)
      (conditions_steps env rec hashes ctx) := by
  induction hashes generalizing all ctx with
  | nil => exact takes_none hctx
  | cons hash hashes ih =>
    unfold evaluate_conditions conditions_steps
    cases env.specs_data.condition_map.get hash with
    | none => exact takes_none hctx
    | some condition =>
      dsimp only
      exact (evaluate_condition_trace condition hctx).bind fun _ c hc => takes_state (ih _ hc)

theorem try_override_rules_trace (ty : SpecType) (salt name : InternedString)
    (override_rules : HashMap String Rule) (rules : List OverrideRule)
    (hctx : rest_of ctx = rest_of start) :
    KeepsTrace rec start ctx (try_override_rules env rec ty salt name override_rules rules)
      (override_rules_steps env rec ty salt name override_rules rules ctx) := by
  induction rules generalizing ctx with
  | nil => exact takes_pure hctx
  | cons override_rule rules ih =>
    unfold try_override_rules override_rules_steps
    cases started_rule env override_rules override_rule with
    | none => exact ih hctx
    | some rule =>
      dsimp only
      have htried := @evaluate_conditions_trace env rec ctx start rule.conditions true hctx
      refine takes_cons trivial fun _ => (Takes.attempt (R := fun _ c => rest_of c = rest_of start)
        htried).bind fun evaluated tried hkept => takes_state (takes_after_update ?_)
      have hreset : rest_of tried.reset_result = rest_of start := hkept
      split
      · refine takes_after_update ?_
        refine Takes.bind_quiet (Takes.attempt (R := fun _ c => rest_of c = rest_of start)
          (takes_one trivial fun hallowed => ?_)) fun recognition c hc => ?_
        · exact Outcome.Meets.mono hallowed (fun _ _ h => h.trans hreset)
            fun _ _ h => h.trans hreset
        · split
          · exact hc
          · exact hc
      · exact ih hreset

theorem try_apply_config_mapping_trace (name : String) (ty : SpecType) (opt_spec : Option Spec)
    (hctx : rest_of ctx = rest_of start) :
    KeepsTrace rec start ctx (try_apply_config_mapping env rec name ty opt_spec)
      (config_mapping_steps env rec name ty opt_spec ctx) := by
  have hmappings : ∀ salt override_rules (mappings : List ConfigMapping) (c : EvaluatorContext),
      rest_of c = rest_of start →
      KeepsTrace rec start c (try_mappings env rec ty salt override_rules mappings)
        (mappings_steps env rec ty salt override_rules mappings c) := by
    intro salt override_rules mappings
    induction mappings with
    | nil => exact fun c hc => takes_pure hc
    | cons mapping mappings ih =>
      intro c hc
      unfold try_mappings mappings_steps
      refine (try_override_rules_trace ty salt _ override_rules _ hc).bind fun applied c hc => ?_
      split
      · exact takes_pure hc
      · exact ih c hc
  unfold try_apply_config_mapping config_mapping_steps
  cases env.specs_data.overrides with
  | none => exact takes_pure hctx
  | some overrides =>
    cases env.specs_data.override_rules with
    | none => exact takes_pure hctx
    | some override_rules =>
      dsimp only
      cases overrides.get name with
      | none => exact takes_pure hctx
      | some mapping_list => exact hmappings _ override_rules mapping_list ctx hctx

end Traces

/-! ## A config without its mappings -/

/-- The search of the mappings, from the context that a call comes to it with, has nothing to
lose and leaves nothing. -/
def Idle (env : EvaluatorEnv) (rec : Recur) (node : Node) (ctx : EvaluatorContext) : Prop :=
  ¬ Mapped env node ∨
    (Wiped ctx ∧ ∀ step ∈ config_mapping_steps env rec node.2 node.1 (spec_of env node) ctx,
      step.Traceless rec)

/-- The call comes to the search of the mappings, and with this context. -/
def Call.Searches (env : EvaluatorEnv) (a : Call) (ctx : EvaluatorContext) : Prop :=
  a.node.1 ≠ .ParameterStore ∧ filter_active a.ctx = false ∧
    try_apply_override env a.node.2 a.node.1 (spec_of env a.node) a.ctx = .ok false ctx

/-- The mappings do not apply in the call, and the search of them is idle. -/
def Call.Bypasses (env : EvaluatorEnv) (rec : Recur) (a : Call) : Prop :=
  ∀ ctx, a.Searches env ctx → Idle env rec a.node ctx ∧
    ∀ ctx', try_apply_config_mapping env rec a.node.2 a.node.1 (spec_of env a.node) ctx ≠
      .ok true ctx'

section Bypasses

variable {env : EvaluatorEnv} {rec : Recur} {a : Call} {removed : String}

theorem context_of_wiped {ctx ctx' : EvaluatorContext} (h : Wiped ctx) (h' : Wiped ctx')
    (htrace : rest_of ctx' = rest_of ctx) : ctx' = ctx := by
  obtain ⟨result, count, memo, targeting, overrides, draws⟩ := ctx
  obtain ⟨result', count', memo', targeting', overrides', draws'⟩ := ctx'
  obtain ⟨hresult, hcount⟩ := h
  obtain ⟨hresult', hcount'⟩ := h'
  cases htrace
  cases hresult.trans hresult'.symm
  cases hcount.trans hcount'.symm
  rfl

/-- A search catches every error. -/
theorem search_never_fails (name : String) (ty : SpecType) (opt_spec : Option Spec) :
    Triple (fun _ => True) (try_apply_config_mapping env rec name ty opt_spec)
      (fun _ _ => True) (fun _ _ => False) True := by
  have hcaught : ∀ {α : Type} (x : Eval α), Triple (fun _ => True) (attempt x)
      (fun _ _ => True) (fun _ _ => False) True := by
    intro α x ctx _
    unfold attempt
    cases x ctx <;> trivial
  have hrules : ∀ salt target override_rules rules, Triple (fun _ => True)
      (try_override_rules env rec ty salt target override_rules rules)
      (fun _ _ => True) (fun _ _ => False) True := by
    intro salt target override_rules rules
    induction rules with
    | nil => exact triple_pure fun _ _ => trivial
    | cons o rules ih =>
      unfold try_override_rules
      split
      · exact ih
      · refine (hcaught _).bind fun _ => triple_state_any fun _ => ?_
        refine triple_update_bind (M := fun _ => True) (fun _ _ => trivial) ?_
        split
        · refine triple_update_bind (M := fun _ => True) (fun _ _ => trivial) ?_
          refine (hcaught _).bind fun _ => ?_
          split
          · exact triple_pure fun _ _ => trivial
          · exact triple_update_bind (M := fun _ => True) (fun _ _ => trivial)
              (triple_pure fun _ _ => trivial)
        · exact ih
  have hmappings : ∀ salt override_rules mappings, Triple (fun _ => True)
      (try_mappings env rec ty salt override_rules mappings)
      (fun _ _ => True) (fun _ _ => False) True := by
    intro salt override_rules mappings
    induction mappings with
    | nil => exact triple_pure fun _ _ => trivial
    | cons mapping mappings ih =>
      unfold try_mappings
      refine (hrules _ _ _ _).bind fun applied => ?_
      split
      · exact triple_pure fun _ _ => trivial
      · exact ih
  unfold try_apply_config_mapping
  split
  · split
    · exact triple_pure fun _ _ => trivial
    · exact hmappings _ _ _
  · exact triple_pure fun _ _ => trivial

/-- An idle search that finds nothing leaves the context as it was. -/
theorem idle_search_keeps {node : Node} {ctx ctx' : EvaluatorContext} (h : Idle env rec node ctx)
    (hfalse : try_apply_config_mapping env rec node.2 node.1 (spec_of env node) ctx =
      .ok false ctx') : ctx' = ctx := by
  by_cases hmapped : Mapped env node
  · obtain ⟨hctx, hsteps⟩ := h.resolve_left (not_not_intro hmapped)
    obtain ⟨mapping, rule, hrule⟩ := hmapped
    have hwiped := try_apply_config_mapping_wipes rec hrule node.1 (spec_of env node) ctx trivial
    have htrace := (@try_apply_config_mapping_trace env rec ctx ctx node.2 node.1 _ rfl hsteps).2
    rw [hfalse] at hwiped htrace
    exact context_of_wiped hctx (hwiped rfl) htrace
  · have hnone : ∀ mapping rule, ¬ MappingRule env node.2 mapping rule :=
      fun mapping rule hrule => hmapped ⟨mapping, rule, hrule⟩
    rw [try_apply_config_mapping_skips rec hnone] at hfalse
    cases hfalse
    rfl

/-- Without the mappings, the search finds nothing at once. -/
theorem search_without {node : Node} {ctx : EvaluatorContext}
    (h : node.2 = removed → Idle env rec node ctx ∧
      ∀ ctx', try_apply_config_mapping env rec node.2 node.1 (spec_of env node) ctx ≠ .ok true ctx')
    (hdeep : try_apply_config_mapping env rec node.2 node.1 (spec_of env node) ctx ≠ .deep) :
    try_apply_config_mapping (without_mapping env removed) rec node.2 node.1 (spec_of env node)
        ctx =
        try_apply_config_mapping env rec node.2 node.1 (spec_of env node) ctx ∧
      ∀ step ∈ config_mapping_steps (without_mapping env removed) rec node.2 node.1
          (spec_of env node) ctx,
        step ∈ config_mapping_steps env rec node.2 node.1 (spec_of env node) ctx := by
  by_cases hname : node.2 = removed
  · obtain ⟨hidle, hnever⟩ := h hname
    rw [← hname, try_apply_config_mapping_removed, config_mapping_steps_removed]
    refine ⟨?_, fun _ hstep => absurd hstep List.not_mem_nil⟩
    have hfails := @search_never_fails env rec node.2 node.1 (spec_of env node) ctx trivial
    cases hsearch : try_apply_config_mapping env rec node.2 node.1 (spec_of env node) ctx with
    | ok applied ctx' =>
      cases applied with
      | true => exact absurd hsearch (hnever ctx')
      | false =>
        rw [idle_search_keeps hidle hsearch]
        rfl
    | err e ctx' =>
      rw [hsearch] at hfails
      exact hfails.elim
    | deep => exact absurd hsearch hdeep
  · rw [try_apply_config_mapping_without env removed rec hname,
      config_mapping_steps_without env removed rec hname]
    exact ⟨rfl, fun _ h => h⟩

theorem evaluate_with_without (h : a.node.2 = removed → a.Bypasses env rec)
    (hdeep : evaluate_with env rec a.node.2 a.node.1 a.ctx ≠ .deep) :
    evaluate_with (without_mapping env removed) rec a.node.2 a.node.1 a.ctx =
        evaluate_with env rec a.node.2 a.node.1 a.ctx ∧
      ∀ step ∈ steps_with (without_mapping env removed) rec a.node.2 a.node.1 a.ctx,
        step ∈ steps_with env rec a.node.2 a.node.1 a.ctx := by
  by_cases hstore : a.node.1 = .ParameterStore
  · unfold evaluate_with steps_with
    rw [if_pos hstore, if_pos hstore, if_pos hstore, if_pos hstore]
    exact ⟨rfl, fun _ h => h⟩
  · unfold evaluate_with steps_with at *
    simp only [hstore, ↓reduceIte, state_bind, find_spec_without] at hdeep ⊢
    by_cases hfilter : filter_active a.ctx = true
    · unfold filter_active at hfilter
      simp only [hfilter, ↓reduceIte, evaluate_spec_without, spec_steps_without]
      exact ⟨trivial, fun _ h => h⟩
    · have hfilter := Bool.eq_false_iff.mpr hfilter
      have hactive := hfilter
      unfold filter_active at hfilter
      simp only [hfilter, Bool.false_eq_true, ↓reduceIte, bind_apply, evaluate_spec_without,
        evaluate_cmab_without, spec_steps_without, cmab_steps_without] at hdeep ⊢
      have hsame : try_apply_override (without_mapping env removed) a.node.2 a.node.1
          (find_spec env.specs_data a.node.2 a.node.1) a.ctx =
        try_apply_override env a.node.2 a.node.1 (find_spec env.specs_data a.node.2 a.node.1)
          a.ctx := rfl
      rw [hsame]
      cases hover : try_apply_override env a.node.2 a.node.1
          (find_spec env.specs_data a.node.2 a.node.1) a.ctx with
      | ok overridden ctx =>
        rw [hover] at hdeep
        cases overridden with
        | true => exact ⟨rfl, fun _ h => h⟩
        | false =>
          have hsearch := @search_without env rec removed a.node ctx
            fun hname => h hname ctx ⟨hstore, hactive, hover⟩
          obtain ⟨heq, hsub⟩ := hsearch fun hsearch => hdeep (by
            show Outcome.andThen (try_apply_config_mapping env rec a.node.2 a.node.1
              (spec_of env a.node) ctx) _ = _
            rw [hsearch]
            rfl)
          unfold spec_of at heq hsub
          simp only [andThen_ok, Bool.false_eq_true, ↓reduceIte, bind_apply, onward, heq]
          refine ⟨trivial, fun step hstep => ?_⟩
          rcases List.mem_append.mp hstep with hstep | hstep
          · exact List.mem_append_left _ (hsub step hstep)
          · exact List.mem_append_right _ hstep
      | err e ctx => exact ⟨rfl, fun _ h => h⟩
      | deep => exact ⟨rfl, fun _ h => h⟩

/-- What the run of a call that bypasses the mappings does without them, where its own calls do
the same without them. -/
theorem run_without {depth : Nat}
    (h : a.node.2 = removed → a.Bypasses env (evaluate env depth))
    (hcalls : ∀ b, a.Makes env b → b.run env depth ≠ .deep →
      b.run (without_mapping env removed) depth = b.run env depth)
    (hdeep : a.run env (depth + 1) ≠ .deep) :
    a.run (without_mapping env removed) (depth + 1) = a.run env (depth + 1) := by
  obtain ⟨hsame, hsub⟩ := evaluate_with_without h hdeep
  -- the calls of the run without the mappings, cut off where those with them are too deep
  let cut : Recur := fun name ty ctx =>
    match evaluate env depth name ty ctx with
    | .deep => .deep
    | _ => evaluate (without_mapping env removed) depth name ty ctx
  have hcut : ∀ b, a.Makes env b →
      evaluate env depth b.node.2 b.node.1 b.ctx = cut b.node.2 b.node.1 b.ctx := by
    intro b hab
    have hb := hcalls b hab
    unfold Call.run at hb
    dsimp only [cut]
    cases hrun : evaluate env depth b.node.2 b.node.1 b.ctx with
    | ok r c => rw [hb (by rw [hrun]; exact nofun), hrun]
    | err e c => rw [hb (by rw [hrun]; exact nofun), hrun]
    | deep => rfl
  have hagree : evaluate_with (without_mapping env removed) (evaluate env depth) a.node.2 a.node.1
      a.ctx = evaluate_with (without_mapping env removed) cut a.node.2 a.node.1 a.ctx := by
    refine evaluate_with_same_calls (evaluate_steady env depth) fun step hstep => ?_
    have hmade : step ∈ a.steps env depth := hsub step hstep
    cases step with
    | asks rule ctx => trivial
    | tries rule => trivial
    | checks ctx => trivial
    | nests node ctx =>
      show Outcome.map_state (refilter id) _ = _
      rw [map_state_id]
      exact hcut ⟨node, ctx⟩ (.inl ⟨depth, hmade⟩)
    | groups node ctx => exact hcut ⟨node, ctx⟩ (.inr (.inl ⟨depth, hmade⟩))
    | maps node ctx =>
      show Outcome.map_state (refilter id) _ = _
      rw [map_state_id]
      exact hcut ⟨node, ctx⟩ (.inr (.inr ⟨depth, hmade⟩))
  have hbelow : CallsBelow cut (evaluate (without_mapping env removed) depth) := by
    intro name ty ctx
    dsimp only [cut]
    cases evaluate env depth name ty ctx with
    | ok r c => exact .inr rfl
    | err e c => exact .inr rfl
    | deep => exact .inl rfl
  have hrun : evaluate_with (without_mapping env removed) cut a.node.2 a.node.1 a.ctx =
      a.run env (depth + 1) := hagree.symm.trans hsame
  rw [← hrun] at hdeep ⊢
  exact (evaluate_with_below _ hbelow a.node.2 a.node.1).eq_of_not_deep hdeep

end Bypasses

/-- With no rule of its mappings started, a config evaluates as if it had none. -/
theorem evaluate_without (env : EvaluatorEnv) (removed : String)
    (h : ∀ mapping rule, ¬ MappingRule env removed mapping rule) (d : Nat) :
    evaluate (without_mapping env removed) d = evaluate env d := by
  induction d with
  | zero => rfl
  | succ d ih =>
    have hmapping : ∀ name ty opt_spec,
        try_apply_config_mapping (without_mapping env removed) (evaluate env d) name ty opt_spec =
          try_apply_config_mapping env (evaluate env d) name ty opt_spec := by
      intro name ty opt_spec
      by_cases hname : name = removed
      · rw [hname, try_apply_config_mapping_removed, try_apply_config_mapping_skips _ h]
      · exact try_apply_config_mapping_without env removed _ hname ty opt_spec
    funext name ty
    unfold evaluate
    rw [ih]
    unfold evaluate_with
    simp only [hmapping, evaluate_spec_without, find_spec_without, evaluate_cmab_without]
    rfl

/-- A search of the mappings that finds nothing keeps the result and the counter exactly when no
rule of the mappings has started, or when there was nothing to lose. In a run where each call for
a config bypasses its mappings with an idle search, the config evaluates as if it had none. -/
theorem mappings_that_do_not_apply_keep_the_result (env : EvaluatorEnv) :
    (∀ (rec : Recur) (spec_name : String) (spec_type : SpecType)
        (opt_spec : Option Spec) (ctx ctx' : EvaluatorContext),
      try_apply_config_mapping env rec spec_name spec_type opt_spec ctx = .ok false ctx' →
      ((ctx'.result = ctx.result ∧ ctx'.nested_count = ctx.nested_count) ↔
        ((∀ mapping rule, ¬ MappingRule env spec_name mapping rule) ∨
          (ctx.result = {} ∧ ctx.nested_count = 0)))) ∧
    (∀ (mapped_name : String),
      (∀ mapping rule, ¬ MappingRule env mapped_name mapping rule) →
      ∀ depth spec_name spec_type ctx,
        evaluate env depth spec_name spec_type ctx =
          evaluate (without_mapping env mapped_name) depth spec_name spec_type ctx) ∧
    ∀ (mapped_name : String) (root : Call),
      (∀ a, ReflTransGen (Call.Makes env) root a → a.node.2 = mapped_name →
        ∀ depth, a.Bypasses env (evaluate env depth)) →
      ∀ depth, root.run env depth ≠ .deep →
        root.run env depth = root.run (without_mapping env mapped_name) depth := by
  refine ⟨?_, ?_, ?_⟩
  · intro rec spec_name spec_type opt_spec ctx ctx' hfalse
    by_cases hstarted : ∀ mapping rule, ¬ MappingRule env spec_name mapping rule
    · rw [try_apply_config_mapping_skips rec hstarted] at hfalse
      cases hfalse
      exact ⟨fun _ => .inl hstarted, fun _ => ⟨rfl, rfl⟩⟩
    · push Not at hstarted
      obtain ⟨mapping, rule, hrule⟩ := hstarted
      have hwiped := try_apply_config_mapping_wipes rec hrule spec_type opt_spec ctx trivial
      rw [hfalse] at hwiped
      obtain ⟨hresult, hcount⟩ := hwiped rfl
      rw [hresult, hcount]
      constructor
      · rintro ⟨hr, hc⟩
        exact .inr ⟨hr.symm, hc.symm⟩
      · rintro (hnone | ⟨hr, hc⟩)
        · exact absurd hrule (hnone mapping rule)
        · exact ⟨hr.symm, hc.symm⟩
  · intro mapped_name h depth spec_name spec_type ctx
    rw [evaluate_without env mapped_name h depth]
  · intro mapped_name root hbypass depth
    induction depth generalizing root with
    | zero => exact fun h => absurd rfl h
    | succ depth ih =>
      intro hdeep
      refine (run_without (fun hname => hbypass root .refl hname depth) (fun b hb hdeep => ?_)
        hdeep).symm
      exact (ih b (fun a ha => hbypass a (.head hb ha)) hdeep).symm

/-- The layered specs, and a mapping of the experiment that no user passes. -/
def delegated : SpecsResponseFull :=
  { SpecsResponseFull.layered with
    condition_map := [("passes_gate", .on_gate "pass_gate" "gate"),
      ("nobody", { condition_type := "user_field", operator := some "eq" })]
    override_rules := some [("nobody", { id := "nobody", conditions := ["nobody"] })]
    overrides := some [("experiment", [
      { new_config_name := "new_experiment", rules := [{ rule_name := "nobody" }] }])] }

/-- The gate has a mapping, too, whose rule is not there. -/
def idle_mappings : SpecsResponseFull :=
  { delegated with
    overrides := some [
      ("experiment",
        [{ new_config_name := "new_experiment", rules := [{ rule_name := "nobody" }] }]),
      ("gate", [{ new_config_name := "new_gate", rules := [{ rule_name := "absent" }] }])] }

def experiment_call : Call := ⟨(.Experiment, "experiment"), {}⟩

theorem experiment_call_steps (depth : Nat) :
    experiment_call.steps (.plain idle_mappings) depth =
      [.tries { id := "nobody", conditions := ["nobody"] }] := by
  cases depth with
  | zero => rfl
  | succ depth => rfl

theorem mappings_that_do_not_apply_keep_the_result_for_a_table :
    (∃ ctx', try_apply_config_mapping (.plain idle_mappings) (evaluate (.plain idle_mappings) 1)
        "gate" .Gate none { nested_count := 1 } = .ok false ctx' ∧ ctx'.nested_count = 1) ∧
    evaluate (.plain idle_mappings) 2 "layer" .Layer {} =
      evaluate (without_mapping (.plain idle_mappings) "gate") 2 "layer" .Layer {} ∧
    experiment_call.run (.plain idle_mappings) 2 =
      experiment_call.run (without_mapping (.plain idle_mappings) "experiment") 2 := by
  have hnone : ∀ mapping rule, ¬ MappingRule (.plain idle_mappings) "gate" mapping rule := by
    rintro mapping rule ⟨overrides, override_rules, list, ⟨⟩, ⟨⟩, ⟨⟩, hmem, o, ho, hstarted⟩
    cases List.mem_singleton.mp hmem
    cases List.mem_singleton.mp ho
    cases hstarted
  obtain ⟨hkeeps, hevaluates, hruns⟩ :=
    mappings_that_do_not_apply_keep_the_result (.plain idle_mappings)
  have hkept := (hkeeps (evaluate (.plain idle_mappings) 1) "gate" .Gate none
    { nested_count := 1 } _ rfl).mpr (.inl hnone)
  have hsearch : ∀ depth, try_apply_config_mapping (.plain idle_mappings)
      (evaluate (.plain idle_mappings) depth) "experiment" .Experiment (some { rules := [] }) {} =
        .ok false {} := fun _ => rfl
  have hends : ∃ ctx, experiment_call.run (.plain idle_mappings) 2 = .ok .Recognized ctx := ⟨_, rfl⟩
  obtain ⟨ctx, hends⟩ := hends
  refine ⟨⟨_, rfl, hkept.2⟩, hevaluates "gate" hnone 2 "layer" .Layer {},
    hruns "experiment" experiment_call ?_ 2 (by rw [hends]; exact nofun)⟩
  intro a ha hname depth
  -- the run makes no call, so it is the only one
  rcases ReflTransGen.cases_head ha with rfl | ⟨b, hb, -⟩
  · rintro _ ⟨-, -, ⟨⟩⟩
    refine ⟨.inr ⟨⟨rfl, rfl⟩, fun step hstep => ?_⟩, fun ctx' happlied => ?_⟩
    · cases List.mem_singleton.mp hstep
      trivial
    · cases (hsearch depth).symm.trans happlied
  · rcases hb with ⟨depth, hstep⟩ | ⟨depth, hstep⟩ | ⟨depth, hstep⟩
    all_goals
      rw [experiment_call_steps] at hstep
      cases List.mem_singleton.mp hstep

/-- The secondary exposures that a run ends with. -/
def exposures_of {α : Type} : Outcome EvaluatorContext StatsigErr α → List SecondaryExposure
  | .ok _ ctx => ctx.result.secondary_exposures
  | .err _ ctx => ctx.result.secondary_exposures
  | .deep => []

/-- Inside the layer, the mapping of the experiment does not apply, and yet it
wipes out the counter, the name and the exposure of the gate. -/
theorem delegate_mapping_wipes_the_layer :
    (∃ ctx', try_apply_config_mapping (.plain delegated) (evaluate (.plain delegated) 2)
        "experiment" .Experiment none { nested_count := 1, result := { name := some "layer" } } =
          .ok false ctx' ∧
      ctx'.nested_count = 0 ∧ ctx'.result.name = none) ∧
    exposures_of (evaluate (.plain delegated) 3 "layer" .Layer {}) = [] ∧
    exposures_of (evaluate (without_mapping (.plain delegated) "experiment") 3 "layer" .Layer {}) =
      [{ gate := "gate", gate_value := "true", rule_id := "on" }] := by
  exact ⟨⟨_, rfl, rfl, rfl⟩, rfl, rfl⟩

end statsig_rust.evaluation
