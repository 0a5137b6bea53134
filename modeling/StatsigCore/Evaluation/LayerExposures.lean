-- The exposures of the layers that merge their rules. `new_layer_eval` drains one vector into
-- two lists: the first append leaves nothing for the second, and a delegate that is turned down
-- leaves its exposures to the next rule.
import StatsigCore.Evaluation.LayerMerges

open program

namespace statsig_rust.evaluation

/-! ## What the conditions of a rule add -/

section Conditions

variable {env : EvaluatorEnv} {rec : Recur} {ctx ctx' : EvaluatorContext}

theorem record_nested_gate_appends (gate : InternedString) (ty : ConditionType)
    (ctx : EvaluatorContext) : ctx.result.secondary_exposures <+:
      (record_nested_gate gate ty ctx).result.secondary_exposures := by
  have hpush : ctx.result.secondary_exposures <+:
      (push_nested_exposure gate ctx).result.secondary_exposures := by
    unfold push_nested_exposure
    dsimp only
    split <;> split
    all_goals first
      | exact List.prefix_append _ _
      | exact List.prefix_rfl
  unfold record_nested_gate
  dsimp only
  split
  · exact hpush
  · exact hpush

theorem prep_exposures (h : prep_for_nested_evaluation ctx = .ok () ctx') :
    ctx'.result.secondary_exposures = ctx.result.secondary_exposures := by
  unfold prep_for_nested_evaluation at h
  dsimp only at h
  split at h
  · cases h
  · obtain ⟨-, rfl⟩ := Outcome.ok.inj h
    rfl

/-- A nested gate adds its exposures after those of the rule. -/
theorem evaluate_nested_gate_appends {target : MemoizedEvaluatorValue} {ty : ConditionType}
    (h : evaluate_nested_gate rec target ty ctx = .ok () ctx')
    (hsupported : ctx'.result.unsupported = false) :
    ctx.result.secondary_exposures <+: ctx'.result.secondary_exposures := by
  unfold evaluate_nested_gate at h
  rw [state_bind] at h
  cases hmemo : ctx.nested_gate_memo.get (gate_name_of target) with
  | some memo =>
    simp only [hmemo] at h
    obtain ⟨-, rfl⟩ := Outcome.ok.inj h
    have hreplay : ctx.result.secondary_exposures <+:
        (replay_nested_gate memo ctx).result.secondary_exposures := List.prefix_append _ _
    exact hreplay.trans (record_nested_gate_appends _ _ _)
  | none =>
    simp only [hmemo] at h
    obtain ⟨⟨⟩, prepped, hprep, h⟩ := ok_of_bind h
    rw [state_bind, update_bind] at h
    obtain ⟨recognition, inner, -, h⟩ := ok_of_bind h
    rw [state_bind] at h
    by_cases hunsupported : inner.result.unsupported = true
    · rw [if_pos hunsupported] at h
      obtain ⟨-, rfl⟩ := Outcome.ok.inj h
      rw [hunsupported] at hsupported
      cases hsupported
    · rw [if_neg hunsupported] at h
      obtain ⟨-, rfl⟩ := Outcome.ok.inj h
      rw [prep_exposures hprep]
      have hmemoize : ctx.result.secondary_exposures <+: (memoize_nested_gate (gate_name_of target)
          ctx.result.secondary_exposures inner).result.secondary_exposures :=
        List.prefix_append _ _
      exact hmemoize.trans (record_nested_gate_appends _ _ _)

theorem evaluate_reading_exposures (condition : Condition) (ctx : EvaluatorContext) :
    (evaluate_reading env condition ctx).result.secondary_exposures =
      ctx.result.secondary_exposures := by
  unfold evaluate_reading apply_operator
  dsimp only
  split <;> split <;> rfl

theorem evaluate_experiment_group_exposures {name : Option DynamicString} {group : Option String}
    (h : evaluate_experiment_group env rec name ctx = .ok group ctx') :
    ctx'.result.secondary_exposures = ctx.result.secondary_exposures := by
  unfold evaluate_experiment_group at h
  cases name with
  | none =>
    obtain ⟨-, rfl⟩ := Outcome.ok.inj h
    rfl
  | some name =>
    by_cases hstatsig : env.statsig = true
    · simp only [hstatsig, ↓reduceIte] at h
      unfold get_experiment_group_name at h
      split at h
      · obtain ⟨-, rfl⟩ := Outcome.ok.inj h
        rfl
      · obtain ⟨-, rfl⟩ := Outcome.ok.inj h
        rfl
      · cases h
    · simp only [hstatsig, Bool.false_eq_true, ↓reduceIte] at h
      obtain ⟨-, rfl⟩ := Outcome.ok.inj h
      rfl

theorem evaluate_condition_appends {condition : Condition}
    (h : evaluate_condition env rec condition ctx = .ok () ctx')
    (hsupported : ctx'.result.unsupported = false) :
    ctx.result.secondary_exposures <+: ctx'.result.secondary_exposures := by
  have hupdate : ∀ f : EvaluatorContext → EvaluatorContext,
      (f ctx).result.secondary_exposures = ctx.result.secondary_exposures →
      (update f : Eval Unit) ctx = .ok () ctx' →
      ctx.result.secondary_exposures <+: ctx'.result.secondary_exposures := by
    intro f hf hrun
    obtain ⟨-, rfl⟩ := Outcome.ok.inj hrun
    rw [hf]
  have hreading := hupdate (evaluate_reading env condition)
    (evaluate_reading_exposures condition ctx)
  unfold evaluate_condition at h
  cases htype : type_of condition <;> simp only [htype] at h
  case Public => exact hupdate _ rfl h
  case Unknown => exact hupdate _ rfl h
  case FailGate => exact evaluate_nested_gate_appends h hsupported
  case PassGate => exact evaluate_nested_gate_appends h hsupported
  case ExperimentGroup =>
    obtain ⟨group, asked, hasked, h⟩ := ok_of_bind h
    obtain ⟨-, rfl⟩ := Outcome.ok.inj h
    rw [← evaluate_experiment_group_exposures hasked]
    unfold apply_operator
    split <;> exact List.prefix_rfl
  all_goals exact hreading h

/-- The conditions of a rule add to the exposures, when each leaves the result supported. -/
theorem evaluate_conditions_appends {hashes : List InternedString} {all : Bool}
    (h : evaluate_conditions env rec hashes all ctx = .ok () ctx')
    (hsupported : conditions_supported env rec hashes ctx = true) :
    ctx.result.secondary_exposures <+: ctx'.result.secondary_exposures := by
  induction hashes generalizing all ctx with
  | nil =>
    obtain ⟨-, rfl⟩ := Outcome.ok.inj h
    exact List.prefix_rfl
  | cons hash hashes ih =>
    unfold evaluate_conditions at h
    unfold conditions_supported at hsupported
    cases hget : env.specs_data.condition_map.get hash with
    | none => simp [hget] at hsupported
    | some condition =>
      simp only [hget] at h hsupported
      obtain ⟨⟨⟩, next, hnext, h⟩ := ok_of_bind h
      rw [state_bind] at h
      simp only [hnext, Bool.and_eq_true, Bool.not_eq_true'] at hsupported
      exact (evaluate_condition_appends hnext hsupported.1).trans (ih h hsupported.2)

end Conditions

/-! ## What the turns say -/

/-- What the delegate of a rule adds: the exposures of the accepted one. -/
def delegate_exposures (turn : Turn) (earlier : Bool) : List SecondaryExposure :=
  match turn.outcome with
  | .delegated result => if accepts earlier result then result.secondary_exposures else []
  | _ => []

/-- What a delegate that is turned down leaves in the result. -/
def left_by (turn : Turn) (earlier : Bool) : List SecondaryExposure :=
  match turn.outcome with
  | .delegated result => if accepts earlier result then [] else result.secondary_exposures
  | _ => []

/-- The exposures of the rules, with those of the accepted delegate after its rule's. -/
def merged_exposures : List Turn → Bool → List SecondaryExposure
  | [], _ => []
  | turn :: turns, earlier => turn.exposures ++ delegate_exposures turn earlier ++
      merged_exposures turns (earlier || (contribution turn earlier).isSome)

/-- What the loop collects, from the exposures that are left before a rule. -/
def collected_exposures : List Turn → Bool → List SecondaryExposure → List SecondaryExposure
  | [], _, _ => []
  | turn :: turns, earlier, left => left ++ (turn.exposures ++ delegate_exposures turn earlier) ++
      collected_exposures turns (earlier || (contribution turn earlier).isSome)
        (left_by turn earlier)

/-- The exposures that were left before a rule of the loop. Those left after the last rule are
overwritten. -/
def left_behind : List Turn → Bool → List SecondaryExposure → List SecondaryExposure
  | [], _, _ => []
  | turn :: turns, earlier, left => left ++
      left_behind turns (earlier || (contribution turn earlier).isSome) (left_by turn earlier)

theorem collected_length (turns : List Turn) (earlier : Bool) (left : List SecondaryExposure) :
    (collected_exposures turns earlier left).length =
      (merged_exposures turns earlier).length + (left_behind turns earlier left).length := by
  induction turns generalizing earlier left with
  | nil => rfl
  | cons turn turns ih =>
    simp only [collected_exposures, merged_exposures, left_behind, List.length_append, ih]
    omega

theorem collected_of_nothing_left {turns : List Turn} {earlier : Bool}
    {left : List SecondaryExposure} (h : left_behind turns earlier left = []) :
    collected_exposures turns earlier left = merged_exposures turns earlier := by
  induction turns generalizing earlier left with
  | nil => rfl
  | cons turn turns ih =>
    rw [left_behind, List.append_eq_nil_iff] at h
    rw [collected_exposures, merged_exposures, ih h.2, h.1, List.nil_append]

/-- The loop collects the merged exposures just when nothing is left before a rule. -/
theorem collected_eq_merged_iff (turns : List Turn) (earlier : Bool)
    (left : List SecondaryExposure) :
    collected_exposures turns earlier left = merged_exposures turns earlier ↔
      left_behind turns earlier left = [] := by
  constructor
  · intro h
    have hlength := collected_length turns earlier left
    rw [h] at hlength
    apply List.eq_nil_of_length_eq_zero
    omega
  · exact collected_of_nothing_left

/-! ## What the loop collects -/

section Run

variable {env : EvaluatorEnv} {rec : Recur} {s s' : LayerState} {ctx ctx' : EvaluatorContext}

/-- The conditions of the rule moved their exposures behind the ones that were left. -/
theorem turn_of_exposures {rule : Rule} {asked : EvaluatorContext} {outcome : RuleOutcome}
    (hasked : evaluate_rule env rec rule ctx = .ok () asked)
    (hsupported : (turn_of env rec rule ctx asked outcome).supported = true) :
    asked.result.secondary_exposures = ctx.result.secondary_exposures ++
      (turn_of env rec rule ctx asked outcome).exposures :=
  (List.prefix_iff_eq_append.mp (evaluate_conditions_appends hasked hsupported)).symm

theorem update_exposures (s : LayerState) (values : Option (HashMap String JsonValue))
    (rule_id : InternedString) :
    (s.update values rule_id).secondary_exposures = s.secondary_exposures ∧
      (s.update values rule_id).undelegated_secondary_exposures =
        s.undelegated_secondary_exposures := by
  unfold LayerState.update
  cases values <;> exact ⟨rfl, rfl⟩

theorem LayerStep.exposures {rule : Rule} {turn : Turn}
    (step : LayerStep env rec rule s ctx turn s' ctx') (hsupported : turn.supported = true) :
    s'.secondary_exposures = s.secondary_exposures ++ (ctx.result.secondary_exposures ++
        (turn.exposures ++ delegate_exposures turn s.has_passed_rule)) ∧
      s'.undelegated_secondary_exposures = s.undelegated_secondary_exposures ∧
      ctx'.result.secondary_exposures = left_by turn s.has_passed_rule := by
  have hmove : ∀ {asked : EvaluatorContext} {outcome : RuleOutcome},
      evaluate_rule env rec rule ctx = .ok () asked →
      (turn_of env rec rule ctx asked outcome).supported = true →
      (s.append_exposures asked).secondary_exposures = s.secondary_exposures ++
        (ctx.result.secondary_exposures ++ (turn_of env rec rule ctx asked outcome).exposures) ∧
      (s.append_exposures asked).undelegated_secondary_exposures =
        s.undelegated_secondary_exposures := by
    intro asked outcome hasked hsupported
    unfold LayerState.append_exposures
    rw [← turn_of_exposures hasked hsupported]
    exact ⟨rfl, List.append_nil _⟩
  cases step with
  | @failed asked hasked =>
    obtain ⟨hmerged, hown⟩ := hmove hasked hsupported
    exact ⟨by rw [hmerged]; simp [delegate_exposures, turn_of], hown, rfl⟩
  | @own asked hasked =>
    obtain ⟨hmerged, hown⟩ := hmove hasked hsupported
    have hkeeps := update_exposures (s.append_exposures asked) rule.return_value.get_json rule.id
    exact ⟨by simp [LayerState.contribute, hkeeps, hmerged, delegate_exposures, turn_of],
      hkeeps.2.trans hown, rfl⟩
  | @delegated asked inner value hasked hname hpassed hvalue =>
    obtain ⟨hmerged, hown⟩ := hmove hasked hsupported
    have hkeeps := update_exposures (s.append_exposures asked) value.get_json rule.id
    have haccepts : accepts s.has_passed_rule inner.result = true := by
      simp [accepts, hpassed, hvalue]
    refine ⟨?_, hkeeps.2.trans hown, ?_⟩
    · simp [LayerState.accept, hkeeps, hmerged, delegate_exposures, turn_of, haccepts]
    · simp [take_exposures, left_by, turn_of, haccepts]
  | @turned_down asked inner hasked hturned =>
    obtain ⟨hmerged, hown⟩ := hmove hasked hsupported
    refine ⟨?_, hown, ?_⟩
    · rw [hmerged]
      simp [delegate_exposures, turn_of, hturned]
    · simp [left_by, turn_of, hturned]

theorem LayerRun.exposures {turns : List Turn} (run : LayerRun env rec turns s ctx s' ctx')
    (hsupported : ∀ turn ∈ turns, turn.supported = true) :
    s'.secondary_exposures = s.secondary_exposures ++
        collected_exposures turns s.has_passed_rule ctx.result.secondary_exposures ∧
      s'.undelegated_secondary_exposures = s.undelegated_secondary_exposures := by
  induction run with
  | nil s ctx => exact ⟨(List.append_nil _).symm, rfl⟩
  | cons step rest ih =>
    obtain ⟨hmerged, hown, hleft⟩ := step.exposures (hsupported _ (List.mem_cons_self ..))
    obtain ⟨hrest, hkept⟩ := ih fun turn h => hsupported turn (List.mem_cons_of_mem _ h)
    refine ⟨?_, hkept.trans hown⟩
    rw [hrest, hmerged, hleft, step.has_passed_rule, collected_exposures]
    simp only [List.append_assoc]

end Run

/-! ## The exposures of a layer -/

/-- The exposures of the rules without a delegate's, and with the accepted delegate's. A result
without undelegated exposures has an empty list of them. -/
structure Exposes (turns : List Turn) (result : EvaluatorResult) : Prop where
  undelegated : result.undelegated_secondary_exposures.getD [] = turns.flatMap (·.exposures)
  secondary : result.secondary_exposures = merged_exposures turns false

theorem LayerState.finish_exposures (s : LayerState) (spec : Spec) (ctx : EvaluatorContext) :
    (s.finish spec ctx).result.secondary_exposures = s.secondary_exposures ∧
      (s.finish spec ctx).result.undelegated_secondary_exposures =
        some s.undelegated_secondary_exposures := by
  obtain ⟨hmerged, hown⟩ := update_exposures s spec.default_value.get_json default_rule_id
  unfold LayerState.finish EvaluatorContext.finalize_evaluation
  dsimp only
  rw [hmerged, hown]
  split
  · exact ⟨rfl, rfl⟩
  · split
    · exact ⟨rfl, rfl⟩
    · exact ⟨rfl, rfl⟩

/-- A filter that no rule meets leaves no turn. -/
theorem layer_turns_filtered {env : EvaluatorEnv} {rec : Recur} {spec : Spec}
    {rules : List Rule} {ctx : EvaluatorContext}
    (h : ∀ rule ∈ rules, rule_matches_filter ctx rule = false) (has_passed_rule : Bool) :
    layer_turns env rec spec true rules has_passed_rule ctx = [] := by
  induction rules with
  | nil => rfl
  | cons rule rules ih =>
    unfold layer_turns
    rw [h rule (List.mem_cons_self ..), if_pos (by rfl)]
    exact ih fun rule hrule => h rule (List.mem_cons_of_mem _ hrule)

/-- A layer that merges its rules exposes the gates of its rules and of the accepted delegate,
just when its rules ask for no gate and no delegate leaves exposures to a later rule. -/
theorem layer_exposures_are_merged_iff {env : EvaluatorEnv} {depth : Nat} {spec : Spec}
    {ctx ctx' : EvaluatorContext} {recognition : Recognition} {turns : List Turn}
    (hturns : turns = layer_turns env (evaluate env depth) spec (filter_active ctx) spec.rules
      false ctx)
    (hrun : new_layer_eval env (evaluate env depth) spec ctx = .ok recognition ctx')
    (hsupported : ctx'.result.unsupported = false ∧ ∀ turn ∈ turns, turn.supported = true)
    (hfresh : ctx.result.secondary_exposures = [] ∧
      ctx.result.undelegated_secondary_exposures = none) :
    Exposes turns ctx'.result ↔
      (∀ turn ∈ turns, turn.exposures = []) ∧ left_behind turns false [] = [] := by
  have hlayer := new_layer_eval_run hrun hsupported.1
  rw [← hturns] at hlayer
  obtain ⟨hsecondary, hundelegated⟩ : ctx'.result.secondary_exposures =
      collected_exposures turns false [] ∧
      ctx'.result.undelegated_secondary_exposures.getD [] = [] := by
    by_cases hfilter : (filter_active ctx && !spec_has_filtered_rule ctx spec) = true
    · -- no rule is looked at, and both lists stay empty
      rw [if_pos hfilter] at hlayer
      subst hlayer
      obtain ⟨hactive, hnone⟩ := Bool.and_eq_true_iff.mp hfilter
      have hnothing : turns = [] := by
        rw [hturns, hactive]
        apply layer_turns_filtered
        intro rule hrule
        unfold spec_has_filtered_rule at hnone
        rw [Bool.not_eq_true', List.any_eq_false] at hnone
        simpa using hnone rule hrule
      rw [hnothing]
      unfold EvaluatorContext.finalize_evaluation EvaluatorContext.set_bool
      simp only [hfresh.1, hfresh.2, List.isEmpty_nil, ↓reduceIte]
      split <;> exact ⟨rfl, rfl⟩
    · rw [if_neg hfilter] at hlayer
      obtain ⟨s, last, rfl, hlayer⟩ := hlayer
      obtain ⟨hmerged, hown⟩ := hlayer.exposures hsupported.2
      obtain ⟨hsecondary, hundelegated⟩ := LayerState.finish_exposures s spec last
      rw [hsecondary, hundelegated, hmerged, hown, hfresh.1]
      exact ⟨rfl, rfl⟩
  constructor
  · rintro ⟨hown, hmerged⟩
    rw [hundelegated, eq_comm, List.flatMap_eq_nil_iff] at hown
    rw [hsecondary, collected_eq_merged_iff] at hmerged
    exact ⟨hown, hmerged⟩
  · rintro ⟨hown, hleft⟩
    refine ⟨?_, ?_⟩
    · rw [hundelegated, eq_comm, List.flatMap_eq_nil_iff]
      exact hown
    · rw [hsecondary, collected_eq_merged_iff]
      exact hleft

/-- An experiment that asks for a gate, and a layer that does. -/
def gated_specs : SpecsResponseFull where
  condition_map := [("passes_gate", .on_gate "pass_gate" "gate")]
  feature_gates := [("gate", { rules := [{ id := "on", conditions := [] }] })]
  dynamic_configs := [("experiment", {
    rules := [{ id := "group", conditions := ["passes_gate"], return_value := .json [] }] })]

def asking_layer : Spec where
  use_new_layer_eval := some true
  rules := [{ id := "asks", conditions := ["passes_gate"], return_value := .json [] }]

def delegating_layer : Spec where
  use_new_layer_eval := some true
  rules := [{ id := "allocation", conditions := [], config_delegate := some "experiment" }]

def delegating_layer_turns : List Turn :=
  layer_turns (.plain gated_specs) (evaluate (.plain gated_specs) 3) delegating_layer false
    delegating_layer.rules false {}

/-- The exposure of the delegate's gate comes with the delegate only. -/
theorem delegating_layer_exposes :
    (∃ ctx', new_layer_eval (.plain gated_specs) (evaluate (.plain gated_specs) 3)
        delegating_layer {} = .ok .Recognized ctx' ∧
      Exposes delegating_layer_turns ctx'.result) ∧
    merged_exposures delegating_layer_turns false = [⟨"gate", "true", "on"⟩] := by
  refine ⟨⟨_, rfl, ?_⟩, rfl⟩
  exact (@layer_exposures_are_merged_iff (.plain gated_specs) 3 delegating_layer {} _ _ _ rfl rfl
    ⟨rfl, by decide⟩ ⟨rfl, rfl⟩).mpr ⟨by decide, rfl⟩

/-- The gate that the rule of a layer asks for is missing from the undelegated exposures. -/
theorem undelegated_exposures_are_lost :
    ¬ ∀ (env : EvaluatorEnv) (depth : Nat) (spec : Spec) (ctx ctx' : EvaluatorContext)
      (recognition : Recognition) (turns : List Turn),
      turns = layer_turns env (evaluate env depth) spec (filter_active ctx) spec.rules false ctx →
      new_layer_eval env (evaluate env depth) spec ctx = .ok recognition ctx' →
      (ctx'.result.unsupported = false ∧ ∀ turn ∈ turns, turn.supported = true) →
      (ctx.result.secondary_exposures = [] ∧
        ctx.result.undelegated_secondary_exposures = none) →
      Exposes turns ctx'.result := by
  intro h
  have hexposes := h (.plain gated_specs) 3 asking_layer {} _ _ _ rfl rfl ⟨rfl, by decide⟩
    ⟨rfl, rfl⟩
  have hlength := congrArg List.length hexposes.undelegated
  exact absurd hlength (by decide)

end statsig_rust.evaluation
