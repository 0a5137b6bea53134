-- Where the exposures of a result come from. A gate is exposed under the name that a condition
-- or a bandit asks for it by, with the rule id that its evaluation left. Both are texts of the
-- specs, so what holds of these texts holds of every exposure.
import StatsigCore.Evaluation.Invariants

open program

namespace statsig_rust.evaluation

section Traced

variable (G R : InternedString → Prop)

/-- Every gate is in `G` and every rule id is in `R`. -/
def Traced (exposures : List SecondaryExposure) : Prop := ∀ x ∈ exposures, G x.gate ∧ R x.rule_id

structure TracedResult (result : EvaluatorResult) : Prop where
  rule_id : R (result.rule_id.getD "")
  exposures : Traced G R result.secondary_exposures
  undelegated : Traced G R (result.undelegated_secondary_exposures.getD [])

structure TracedContext (ctx : EvaluatorContext) : Prop where
  result : TracedResult G R ctx.result
  memo : ∀ gate entry, ctx.nested_gate_memo.get gate = some entry →
    R (entry.2.1.getD "") ∧ Traced G R entry.2.2

/-- The texts that an evaluation can expose. -/
structure Traces (env : EvaluatorEnv) : Prop where
  gates : ∀ hash condition, env.specs_data.condition_map.get hash = some condition →
    type_of condition = .PassGate ∨ type_of condition = .FailGate →
    G (gate_name_of (target_of condition))
  rules : ∀ name ty spec, find_spec env.specs_data name ty = some spec → ∀ rule ∈ spec.rules,
    R rule.id
  targeting : ∀ cmabs name cmab gate, env.specs_data.cmab_configs = some cmabs →
    cmabs.get name = some cmab → cmab.targeting_gate_name = some gate → G gate
  groups : ∀ cmabs name cmab, env.specs_data.cmab_configs = some cmabs →
    cmabs.get name = some cmab → ∀ group ∈ cmab.groups, R group.id
  constants : ∀ id ∈ ["", default_rule_id, DISABLED_RULE, NOT_STARTED_RULE, FAILS_TARGETING], R id
  override : ∀ name ty spec c applied c', TracedContext G R c →
    try_apply_override env name ty spec c = .ok applied c' → TracedContext G R c'

end Traced

section Lists

variable {G R : InternedString → Prop}

theorem traced_nil : Traced G R [] := fun _ h => absurd h List.not_mem_nil

theorem Traced.append {xs ys : List SecondaryExposure} (h : Traced G R xs) (h' : Traced G R ys) :
    Traced G R (xs ++ ys) := by
  intro x hx
  rcases List.mem_append.mp hx with hx | hx
  · exact h x hx
  · exact h' x hx

theorem Traced.snoc {xs : List SecondaryExposure} (h : Traced G R xs) {x : SecondaryExposure}
    (hg : G x.gate) (hr : R x.rule_id) : Traced G R (xs ++ [x]) := by
  refine h.append fun y hy => ?_
  rw [List.mem_singleton.mp hy]
  exact ⟨hg, hr⟩

end Lists

/-! ## Steps -/

/-- What the invariant reads. -/
def trace_of (ctx : EvaluatorContext) : Option InternedString × List SecondaryExposure ×
    Option (List SecondaryExposure) × NestedGateMemo :=
  (ctx.result.rule_id, ctx.result.secondary_exposures,
    ctx.result.undelegated_secondary_exposures, ctx.nested_gate_memo)

section Steps

variable {G R : InternedString → Prop} {ctx ctx' : EvaluatorContext}

theorem TracedContext.of_trace (h : TracedContext G R ctx) (heq : trace_of ctx' = trace_of ctx) :
    TracedContext G R ctx' := by
  unfold trace_of at heq
  obtain ⟨hrule, heq⟩ := Prod.mk.inj heq
  obtain ⟨hexposures, heq⟩ := Prod.mk.inj heq
  obtain ⟨hundelegated, hmemo⟩ := Prod.mk.inj heq
  refine ⟨⟨?_, ?_, ?_⟩, ?_⟩
  · rw [hrule]
    exact h.result.rule_id
  · rw [hexposures]
    exact h.result.exposures
  · rw [hundelegated]
    exact h.result.undelegated
  · rw [hmemo]
    exact h.memo

/-- The exposures of the result are replaced. -/
theorem TracedContext.expose (h : TracedContext G R ctx) {xs : List SecondaryExposure}
    (hxs : Traced G R xs) :
    TracedContext G R { ctx with result.secondary_exposures := xs } :=
  ⟨⟨h.result.rule_id, hxs, h.result.undelegated⟩, h.memo⟩

theorem TracedContext.undelegate (h : TracedContext G R ctx) {xs : Option (List SecondaryExposure)}
    (hxs : Traced G R (xs.getD [])) :
    TracedContext G R { ctx with result.undelegated_secondary_exposures := xs } :=
  ⟨⟨h.result.rule_id, h.result.exposures, hxs⟩, h.memo⟩

theorem TracedContext.with_rule (h : TracedContext G R ctx) {id : InternedString} (hid : R id) :
    TracedContext G R { ctx with result.rule_id := some id } :=
  ⟨⟨hid, h.result.exposures, h.result.undelegated⟩, h.memo⟩

theorem TracedContext.reset (h : TracedContext G R ctx) (hempty : R "") :
    TracedContext G R ctx.reset_result :=
  ⟨⟨hempty, traced_nil, traced_nil⟩, h.memo⟩

theorem TracedContext.finalize (h : TracedContext G R ctx) (spec : Spec) (rule : Option Rule) :
    TracedContext G R (ctx.finalize_evaluation spec rule) := by
  unfold EvaluatorContext.finalize_evaluation
  dsimp only
  split
  · exact h.of_trace rfl
  · split
    · exact h.of_trace rfl
    · split
      · exact h.of_trace rfl
      · exact ⟨⟨h.result.rule_id, h.result.exposures, h.result.exposures⟩, h.memo⟩

theorem TracedContext.push_nested (h : TracedContext G R ctx) {gate : InternedString}
    (hgate : G gate) : TracedContext G R (push_nested_exposure gate ctx) := by
  unfold push_nested_exposure
  refine iteInduction (motive := TracedContext G R) (fun _ => ?_) fun _ => h
  exact ⟨⟨h.result.rule_id, h.result.exposures.snoc hgate h.result.rule_id,
    h.result.undelegated⟩, h.memo⟩

theorem TracedContext.record (h : TracedContext G R ctx) {gate : InternedString} (hgate : G gate)
    (ty : ConditionType) : TracedContext G R (record_nested_gate gate ty ctx) := by
  unfold record_nested_gate
  dsimp only
  split
  · exact (h.push_nested hgate).of_trace rfl
  · exact h.push_nested hgate

theorem TracedContext.replay (h : TracedContext G R ctx)
    {memo : Bool × Option InternedString × List SecondaryExposure} (hid : R (memo.2.1.getD ""))
    (hxs : Traced G R memo.2.2) : TracedContext G R (replay_nested_gate memo ctx) :=
  ⟨⟨hid, h.result.exposures.append hxs, h.result.undelegated⟩, h.memo⟩

/-- The memo takes the exposures of the nested gate, and the outer ones come before them. -/
theorem TracedContext.memoize (h : TracedContext G R ctx) (gate : InternedString)
    {outer : List SecondaryExposure} (houter : Traced G R outer) :
    TracedContext G R (memoize_nested_gate gate outer ctx) := by
  refine ⟨⟨h.result.rule_id, houter.append h.result.exposures, h.result.undelegated⟩, ?_⟩
  intro other entry hget
  unfold memoize_nested_gate at hget
  dsimp only at hget
  split at hget
  · exact h.memo other entry hget
  · rw [HashMap.get_insert] at hget
    by_cases hsame : other = gate
    · rw [if_pos hsame] at hget
      rw [← Option.some.inj hget]
      exact ⟨h.result.rule_id, h.result.exposures⟩
    · rw [if_neg hsame] at hget
      exact h.memo other entry hget

theorem TracedContext.group (h : TracedContext G R ctx) {group : CMABGroup} (hid : R group.id)
    (suffix : Option String) : TracedContext G R (apply_group group suffix ctx) :=
  (h.with_rule hid).of_trace rfl

end Steps

/-! ## Conditions and rules -/

section

variable {G R : InternedString → Prop} {env : EvaluatorEnv} {rec : Recur} {α β : Type}

theorem Traces.empty_rule (h : Traces G R env) : R "" := h.constants _ (List.mem_cons_self ..)

theorem Traces.fresh (h : Traces G R env) : TracedContext G R {} :=
  ⟨⟨h.empty_rule, traced_nil, traced_nil⟩, fun _ _ hget => by
    rw [HashMap.get_nil] at hget
    cases hget⟩

/-- A step that leaves the trace as it was. -/
theorem keeps_trace {g : EvaluatorContext → EvaluatorContext}
    (hg : ∀ c, trace_of (g c) = trace_of c) :
    Maintains (TracedContext G R) (update g) :=
  triple_update fun c h => h.of_trace (hg c)

theorem keeps_trace_bind {g : EvaluatorContext → EvaluatorContext} {f : Unit → Eval β}
    (hg : ∀ c, trace_of (g c) = trace_of c) (hf : Maintains (TracedContext G R) (f ())) :
    Maintains (TracedContext G R) (update g >>= f) :=
  (keeps_trace hg).bind fun _ => hf

theorem prep_traced : Maintains (TracedContext G R) prep_for_nested_evaluation := by
  intro ctx h
  unfold prep_for_nested_evaluation
  dsimp only
  split
  · exact h.of_trace rfl
  · exact h.of_trace rfl

theorem apply_operator_trace (condition : Condition) (value : Option DynamicValue)
    (ctx : EvaluatorContext) :
    trace_of (apply_operator env condition value ctx) = trace_of ctx := by
  unfold apply_operator
  split
  · rfl
  · rfl

theorem evaluate_reading_trace (condition : Condition) (ctx : EvaluatorContext) :
    trace_of (evaluate_reading env condition ctx) = trace_of ctx := by
  unfold evaluate_reading
  refine (apply_operator_trace ..).trans ?_
  split
  · rfl
  · rfl

theorem experiment_group_traced (field : Option DynamicString) :
    Maintains (TracedContext G R) (evaluate_experiment_group env rec field) := by
  unfold evaluate_experiment_group
  split
  · exact maintains_pure _
  · rename_i name
    split
    · -- the experiment is evaluated in a context of its own
      intro ctx h
      unfold get_experiment_group_name
      cases rec name.value .Experiment { draws := ctx.draws } with
      | ok _ _ => exact h.of_trace rfl
      | err _ _ => exact h.of_trace rfl
      | deep => trivial
    · exact keeps_trace_bind (fun _ => rfl) (maintains_pure _)

variable (hrec : ∀ name ty, Maintains (TracedContext G R) (rec name ty))

include hrec

theorem nested_gate_traced {target : MemoizedEvaluatorValue} (hgate : G (gate_name_of target))
    (ty : ConditionType) :
    Maintains (TracedContext G R) (evaluate_nested_gate rec target ty) := by
  unfold evaluate_nested_gate
  refine triple_state_bind fun c hc => ?_
  split
  · rename_i memo hmemo
    obtain ⟨hid, hxs⟩ := hc.memo _ _ hmemo
    refine triple_update fun s hs => ?_
    rw [hs]
    exact (hc.replay hid hxs).record hgate ty
  · refine Triple.pre ?_ (fun s hs => hs ▸ hc)
    refine prep_traced.bind fun _ => triple_state_bind fun outer houter => ?_
    refine triple_update_bind (M := TracedContext G R) (fun s hs => ?_) ?_
    · rw [hs]
      exact houter.expose traced_nil
    refine (hrec _ _).bind fun _ => maintains_state fun inner => ?_
    split
    · exact maintains_pure _
    · exact triple_update fun s hs => (hs.memoize _ houter.result.exposures).record hgate ty

variable (henv : Traces G R env)

include henv

theorem evaluate_condition_traced {hash : InternedString} {condition : Condition}
    (hcondition : env.specs_data.condition_map.get hash = some condition) :
    Maintains (TracedContext G R) (evaluate_condition env rec condition) := by
  unfold evaluate_condition
  cases hty : type_of condition
  case Public => exact keeps_trace fun _ => rfl
  case FailGate =>
    exact nested_gate_traced hrec (henv.gates _ _ hcondition (.inr hty)) _
  case PassGate =>
    exact nested_gate_traced hrec (henv.gates _ _ hcondition (.inl hty)) _
  case ExperimentGroup =>
    exact (experiment_group_traced _).bind fun _ => keeps_trace fun c => apply_operator_trace ..
  case Unknown => exact keeps_trace fun _ => rfl
  all_goals exact keeps_trace fun c => evaluate_reading_trace ..

theorem evaluate_rule_traced (rule : Rule) :
    Maintains (TracedContext G R) (evaluate_rule env rec rule) := by
  unfold evaluate_rule
  generalize true = all
  generalize rule.conditions = hashes
  induction hashes generalizing all with
  | nil => exact keeps_trace fun _ => rfl
  | cons hash hashes ih =>
    unfold evaluate_conditions
    split
    · exact keeps_trace fun _ => rfl
    · rename_i condition hcondition
      exact (evaluate_condition_traced hrec henv hcondition).bind fun _ =>
        maintains_state fun _ => ih _

omit henv in
theorem delegate_traced (rule : Rule) :
    Maintains (TracedContext G R) (evaluate_config_delegate env rec rule) := by
  unfold evaluate_config_delegate
  split
  · exact maintains_pure _
  · split
    · exact maintains_pure _
    · refine triple_update_bind (M := TracedContext G R)
        (fun _ h => h.undelegate h.result.exposures) (prep_traced.bind fun _ => ?_)
      refine (hrec _ _).bind fun _ => ?_
      split
      · exact triple_update_bind (M := TracedContext G R) (fun _ h => h.undelegate traced_nil)
          (maintains_pure _)
      · exact keeps_trace_bind (fun _ => rfl) (maintains_pure _)

/-! ## Layers -/

omit hrec henv in
theorem take_exposures_traced {f : Unit → Eval β} (hf : Maintains (TracedContext G R) (f ())) :
    Maintains (TracedContext G R) (update take_exposures >>= f) :=
  triple_update_bind (M := TracedContext G R) (fun _ h => h.expose traced_nil) hf

/-- What a layer has gathered from its rules. -/
structure TracedLayer (G R : InternedString → Prop) (s : LayerState) : Prop where
  rule_id : R s.rule_id
  exposures : Traced G R s.secondary_exposures
  undelegated : Traced G R s.undelegated_secondary_exposures

omit hrec henv in
theorem TracedLayer.update {s : LayerState} (h : TracedLayer G R s)
    (values : Option (HashMap String JsonValue)) (id : InternedString) :
    TracedLayer G R (s.update values id) := by
  unfold LayerState.update
  split
  · exact h
  · exact ⟨h.rule_id, h.exposures, h.undelegated⟩

omit hrec henv in
theorem TracedLayer.append_exposures {s : LayerState} (h : TracedLayer G R s)
    {ctx : EvaluatorContext} (hctx : TracedContext G R ctx) :
    TracedLayer G R (s.append_exposures ctx) :=
  ⟨h.rule_id, h.exposures.append hctx.result.exposures, h.undelegated.append traced_nil⟩

omit hrec henv in
theorem TracedLayer.accept {s : LayerState} (h : TracedLayer G R s) {rule : Rule}
    (hrule : R rule.id) (value : DynamicReturnable) {ctx : EvaluatorContext}
    (hctx : TracedContext G R ctx) : TracedLayer G R (s.accept rule value ctx) :=
  ⟨hrule, h.exposures.append hctx.result.exposures,
    (h.update value.get_json rule.id).undelegated⟩

omit hrec henv in
theorem TracedLayer.finish {s : LayerState} (h : TracedLayer G R s) (spec : Spec)
    {ctx : EvaluatorContext} (hctx : TracedContext G R ctx) :
    TracedContext G R (s.finish spec ctx) := by
  have hs := h.update spec.default_value.get_json default_rule_id
  unfold LayerState.finish
  refine TracedContext.finalize ?_ spec none
  exact ⟨⟨hs.rule_id, hs.exposures, hs.undelegated⟩, hctx.memo⟩

theorem new_layer_rules_traced (spec : Spec) (filter_active : Bool) {rules : List Rule}
    (hrules : ∀ rule ∈ rules, R rule.id) {s : LayerState} (hs : TracedLayer G R s) :
    Maintains (TracedContext G R) (new_layer_rules env rec spec filter_active rules s) := by
  induction rules generalizing s with
  | nil =>
    exact triple_update_bind (M := TracedContext G R) (fun _ h => hs.finish spec h)
      (maintains_pure _)
  | cons rule rules ih =>
    have hnext : ∀ {s}, TracedLayer G R s → Maintains (TracedContext G R)
        (new_layer_rules env rec spec filter_active rules s) :=
      fun h => ih (fun other hmem => hrules other (List.mem_cons_of_mem _ hmem)) h
    unfold new_layer_rules
    refine maintains_state fun c => ?_
    split
    · exact hnext hs
    · refine (evaluate_rule_traced hrec henv rule).bind fun _ => triple_state_bind fun c hc => ?_
      have happended := hs.append_exposures hc
      refine Triple.pre ?_ (fun s hs => hs ▸ hc)
      refine take_exposures_traced ?_
      split
      · exact maintains_pure _
      · split
        · exact hnext happended
        · split
          · exact hnext happended
          · refine (delegate_traced hrec rule).bind fun delegated => ?_
            split
            · refine triple_state_bind fun c' hc' => ?_
              refine Triple.pre ?_ (fun s hs => hs ▸ hc')
              split
              · exact hnext happended
              · split
                · exact hnext happended
                · split
                  · exact hnext happended
                  · exact take_exposures_traced
                      (hnext (happended.accept (hrules rule (List.mem_cons_self ..)) _ hc'))
            · refine maintains_state fun c' => hnext ?_
              have hupdated := happended.update rule.return_value.get_json rule.id
              exact ⟨hupdated.rule_id, hupdated.exposures, hupdated.undelegated⟩

/-! ## Specs -/

omit hrec in
theorem apply_default_traced (spec : Spec) {ctx : EvaluatorContext} (h : TracedContext G R ctx) :
    TracedContext G R (apply_default spec ctx) := by
  have hid : R (if spec.enabled then default_rule_id else DISABLED_RULE) := by
    split
    · exact henv.constants _ (by simp)
    · exact henv.constants _ (by simp)
  unfold apply_default
  refine TracedContext.finalize ?_ spec none
  exact ⟨⟨hid, h.result.exposures, h.result.undelegated⟩, h.memo⟩

omit hrec henv in
theorem apply_rule_traced (spec : Spec) {rule : Rule} (hrule : R rule.id) (did_pass : Bool)
    {ctx : EvaluatorContext} (h : TracedContext G R ctx) :
    TracedContext G R (apply_rule spec rule did_pass ctx) := by
  unfold apply_rule
  refine TracedContext.finalize ?_ spec (some rule)
  exact ⟨⟨hrule, h.result.exposures, h.result.undelegated⟩, h.memo⟩

theorem evaluate_rules_traced (spec : Spec) (filter_active : Bool) {rules : List Rule}
    (hrules : ∀ rule ∈ rules, R rule.id) :
    Maintains (TracedContext G R) (evaluate_rules env rec spec filter_active rules) := by
  induction rules with
  | nil =>
    exact triple_update_bind (M := TracedContext G R)
      (fun c h => apply_default_traced henv spec h) (maintains_pure _)
  | cons rule rules ih =>
    have hnext := ih fun other hmem => hrules other (List.mem_cons_of_mem _ hmem)
    unfold evaluate_rules
    refine maintains_state fun c => ?_
    split
    · exact hnext
    · refine (evaluate_rule_traced hrec henv rule).bind fun _ => maintains_state fun c => ?_
      split
      · exact maintains_pure _
      · split
        · exact hnext
        · refine (delegate_traced hrec rule).bind fun delegated => ?_
          split
          · exact triple_update_bind (M := TracedContext G R) (fun c h => h.finalize spec none)
              (maintains_pure _)
          · exact triple_update_bind (M := TracedContext G R)
              (fun c h => apply_rule_traced spec (hrules rule (List.mem_cons_self ..)) _ h)
              (maintains_pure _)

theorem evaluate_spec_traced (filter_active : Bool) (name : String) (ty : SpecType) :
    Maintains (TracedContext G R)
      (evaluate_spec env rec filter_active name ty (find_spec env.specs_data name ty)) := by
  have hfalse : ∀ spec, Maintains (TracedContext G R) (do
      update fun ctx => (ctx.set_bool false).finalize_evaluation spec none
      pure Recognition.Recognized) := by
    intro spec
    refine triple_update_bind (M := TracedContext G R) (fun c h => ?_) (maintains_pure _)
    refine TracedContext.finalize ?_ spec none
    exact h.of_trace rfl
  unfold evaluate_spec
  split
  · exact maintains_pure _
  · rename_i spec hfind
    have hrules := henv.rules name ty spec hfind
    refine keeps_trace_bind (fun _ => rfl) ?_
    split
    · unfold new_layer_eval
      refine maintains_state fun c => ?_
      dsimp only
      split
      · exact hfalse spec
      · exact new_layer_rules_traced hrec henv spec _ hrules
          ⟨henv.constants _ (by simp), traced_nil, traced_nil⟩
    · refine maintains_state fun c => ?_
      split
      · exact hfalse spec
      · exact evaluate_rules_traced hrec henv spec _ hrules

/-! ## Config mappings and bandits -/

theorem config_mapping_traced (name : String) (ty : SpecType) (opt_spec : Option Spec) :
    Maintains (TracedContext G R) (try_apply_config_mapping env rec name ty opt_spec) := by
  have hreset : Maintains (TracedContext G R) (update EvaluatorContext.reset_result) :=
    triple_update fun c h => h.reset henv.empty_rule
  unfold try_apply_config_mapping
  split
  · rename_i overrides override_rules _ _
    split
    · exact maintains_pure _
    · rename_i mapping_list hlist
      clear hlist
      have hrules : ∀ salt target (rules : List OverrideRule), Maintains (TracedContext G R)
          (try_override_rules env rec ty salt target override_rules rules) := by
        intro salt target rules
        induction rules with
        | nil => exact maintains_pure _
        | cons o rules ih =>
          unfold try_override_rules
          split
          · exact ih
          · refine (evaluate_rule_traced hrec henv _).attempt.bind fun _ =>
              maintains_state fun c => hreset.bind fun _ => ?_
            split
            · refine keeps_trace_bind (fun _ => rfl) ((hrec _ _).attempt.bind fun r => ?_)
              split
              · exact maintains_pure _
              · exact hreset.bind fun _ => maintains_pure _
            · exact ih
      dsimp only
      induction mapping_list with
      | nil => exact maintains_pure _
      | cons mapping mapping_list ih =>
        unfold try_mappings
        refine (hrules _ _ _).bind fun applied => ?_
        split
        · exact maintains_pure _
        · exact ih
  · exact maintains_pure _

omit hrec henv in
theorem sampled_group_mem {config : HashMap String CMABGroupConfig} {total_records value : F64}
    {groups : List CMABGroup} {sum : F64} {group : CMABGroup}
    (h : find_sampling_group env config total_records value groups sum = some group) :
    group ∈ groups := by
  induction groups generalizing sum with
  | nil => cases h
  | cons g groups ih =>
    unfold find_sampling_group at h
    dsimp only at h
    split at h
    · rw [Option.some.inj h]
      exact List.mem_cons_self ..
    · exact List.mem_cons_of_mem _ (ih h)

omit hrec henv in
theorem best_group_mem {cmab : CMABConfig} {config : HashMap String CMABGroupConfig}
    {best : F64 × CMABGroup}
    (h : cmab.groups.foldl (pick_best env cmab config) none = some best) :
    best.2 ∈ cmab.groups := by
  have hfold : ∀ (groups : List CMABGroup) (start : Option (F64 × CMABGroup)),
      (∀ b, start = some b → b.2 ∈ cmab.groups) → (∀ group ∈ groups, group ∈ cmab.groups) →
      ∀ b, groups.foldl (pick_best env cmab config) start = some b → b.2 ∈ cmab.groups := by
    intro groups
    induction groups with
    | nil => exact fun start hstart _ => hstart
    | cons group groups ih =>
      intro start hstart hgroups
      refine ih _ (fun b hb => ?_) fun g hg => hgroups g (List.mem_cons_of_mem _ hg)
      have hgroup := hgroups group (List.mem_cons_self ..)
      unfold pick_best at hb
      split at hb
      · exact hstart b hb
      · rw [← Option.some.inj hb]
        exact hgroup
      · split at hb
        · rw [← Option.some.inj hb]
          exact hgroup
        · exact hstart b hb
  exact hfold cmab.groups none (fun _ hb => absurd hb (by simp)) (fun _ h => h) best h

omit hrec in
/-- A bandit gives one of its groups. -/
theorem assign_group_traced {cmabs : HashMap String CMABConfig} {name : String} {cmab : CMABConfig}
    (hcmabs : env.specs_data.cmab_configs = some cmabs) (hcmab : cmabs.get name = some cmab)
    {ctx : EvaluatorContext} (h : TracedContext G R ctx) :
    TracedContext G R (assign_cmab_group env cmab ctx) := by
  have hgroups := henv.groups cmabs name cmab hcmabs hcmab
  have hat : ∀ {i : Nat} {group : CMABGroup} (suffix : Option String) {c : EvaluatorContext},
      cmab.groups[i]? = some group → TracedContext G R c →
      TracedContext G R (apply_group group suffix c) :=
    fun suffix _ hget hc => hc.group (hgroups _ (List.mem_of_getElem? hget)) suffix
  have hrandom : ∀ user_hash {c : EvaluatorContext}, TracedContext G R c →
      TracedContext G R (apply_random_group env cmab user_hash c) := by
    intro user_hash c hc
    unfold apply_random_group
    dsimp only
    split
    · rename_i hget
      exact hat _ hget hc
    · exact hc
  have hbest : ∀ config {c : EvaluatorContext}, TracedContext G R c →
      TracedContext G R (apply_best_group env cmab config c) := by
    intro config c hc
    unfold apply_best_group
    dsimp only
    split
    · rename_i best hbest
      exact hc.group (hgroups _ (best_group_mem hbest)) _
    · have hdrawn : TracedContext G R { c with draws := c.draws + 1 } := hc.of_trace rfl
      split
      · rename_i hget
        exact hat _ hget hdrawn
      · exact hdrawn
  unfold assign_cmab_group
  dsimp only
  split
  · exact hrandom _ h
  · refine iteInduction (motive := TracedContext G R) (fun _ => ?_) fun _ => hbest _ h
    split
    · rename_i group hsample
      refine TracedContext.group ?_ (hgroups _ (sampled_group_mem hsample)) _
      exact h.of_trace rfl
    · exact hbest _ (h.of_trace rfl)

theorem targeting_traced {cmabs : HashMap String CMABConfig} {name : String} {cmab : CMABConfig}
    (hcmabs : env.specs_data.cmab_configs = some cmabs) (hcmab : cmabs.get name = some cmab) :
    Maintains (TracedContext G R) (get_passes_targeting rec cmab) := by
  unfold get_passes_targeting
  split
  · exact maintains_pure _
  · rename_i gate hgate
    have hname := henv.targeting cmabs name cmab gate hcmabs hcmab hgate
    refine prep_traced.attempt.bind fun prepped => ?_
    split
    · refine triple_update_bind (M := TracedContext G R) (fun c hc => ?_) (maintains_pure _)
      have hfails : R FAILS_TARGETING := henv.constants _ (by simp)
      exact ⟨⟨hfails, hc.result.exposures, hc.result.undelegated⟩, hc.memo⟩
    · refine (hrec _ _).attempt.bind fun r => maintains_state fun c => ?_
      refine triple_update_bind (M := TracedContext G R) (fun c hc => ?_) (maintains_pure _)
      unfold push_targeting_exposure
      split
      · exact hc
      · exact hc.expose (hc.result.exposures.snoc hname hc.result.rule_id)

theorem cmab_traced (name : String) (ty : SpecType) :
    Maintains (TracedContext G R) (evaluate_cmab env rec name ty) := by
  unfold evaluate_cmab
  split
  · rename_i cmabs hcmabs
    split
    · exact maintains_pure _
    · rename_i cmab hcmab
      have hdefault : ∀ id ∈ [NOT_STARTED_RULE, FAILS_TARGETING],
          ∀ c, TracedContext G R c → TracedContext G R (apply_cmab_default cmab id c) := by
        intro id hid c hc
        have hconstant : R id := henv.constants id (by
          simp only [List.mem_cons, List.not_mem_nil, or_false] at hid ⊢
          rcases hid with rfl | rfl <;> simp)
        exact ⟨⟨hconstant, hc.result.exposures, hc.result.undelegated⟩, hc.memo⟩
      split
      · exact triple_update_bind (M := TracedContext G R)
          (fun c hc => hdefault _ (by simp) c hc) (maintains_pure _)
      · refine (targeting_traced hrec henv hcmabs hcmab).bind fun passes => ?_
        split
        · exact triple_update_bind (M := TracedContext G R)
            (fun c hc => assign_group_traced henv hcmabs hcmab (hc.of_trace rfl))
            (maintains_pure _)
        · exact triple_update_bind (M := TracedContext G R)
            (fun c hc => hdefault _ (by simp) c hc) (maintains_pure _)
  · exact maintains_pure _

omit hrec in
/-- Every evaluation keeps its exposures within the texts of the specs. -/
theorem evaluate_traced (depth : Nat) (name : String) (ty : SpecType) :
    Maintains (TracedContext G R) (evaluate env depth name ty) := by
  induction depth generalizing name ty with
  | zero => exact fun _ _ => trivial
  | succ depth ih =>
    show Maintains _ (evaluate_with env (evaluate env depth) name ty)
    unfold evaluate_with
    split
    · exact maintains_pure _
    · refine maintains_state fun c => ?_
      dsimp only
      split
      · exact evaluate_spec_traced ih henv _ _ _
      · refine Maintains.bind ?_ fun overridden => ?_
        · intro ctx h
          cases happly : try_apply_override env name ty (find_spec env.specs_data name ty) ctx with
          | ok applied ctx' => exact henv.override _ _ _ _ _ _ h happly
          | err e ctx' =>
            unfold try_apply_override at happly
            split at happly
            · cases happly
            · cases happly
          | deep => trivial
        · split
          · exact maintains_pure _
          · refine (config_mapping_traced ih henv _ _ _).bind fun mapped => ?_
            split
            · exact maintains_pure _
            · refine (cmab_traced ih henv _ _).bind fun cmab => ?_
              split
              · exact maintains_pure _
              · exact evaluate_spec_traced ih henv _ _ _

end

end statsig_rust.evaluation
