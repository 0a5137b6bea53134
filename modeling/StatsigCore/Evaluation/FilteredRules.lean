-- The filtered mode of the evaluator: a sticky value is checked against the targeting
-- rules or the override rules of its spec only. Such a run is an ordinary run of the spec
-- with the other rules taken out, and all that it nests is evaluated in full, as long as
-- no call that it makes goes on to a mapped config that the filter cuts.
import StatsigCore.Evaluation.CallChains
import StatsigCore.Evaluation.Tracking

open program Relation

namespace statsig_rust.evaluation

/-- The context with no rule filter. -/
abbrev unfiltered (ctx : EvaluatorContext) : EvaluatorContext := refilter (fun _ => false) ctx

/-- The spec with only the rules that the filter of the context asks for. -/
def matching_part (ctx : EvaluatorContext) (spec : Spec) : Spec :=
  { spec with rules := spec.rules.filter (rule_matches_filter ctx) }

section Filter

variable {env : EvaluatorEnv} {ctx : EvaluatorContext}

theorem unfiltered_of_plain (h : filter_of ctx = (false, false)) : unfiltered ctx = ctx := by
  obtain ⟨htargeting, hoverrides⟩ := Prod.mk.inj h
  unfold unfiltered refilter
  nth_rewrite 1 [← htargeting]
  rw [← hoverrides]

theorem filter_of_inactive (hcount : ctx.nested_count = 0) (h : filter_active ctx = false) :
    filter_of ctx = (false, false) := by
  unfold filter_active at h
  rw [hcount] at h
  obtain ⟨htargeting, hoverrides⟩ := Bool.or_eq_false_iff.mp h
  exact Prod.ext htargeting hoverrides

/-- A run that starts with no filter ends with none. -/
theorem map_state_of_plain {x : Eval Recognition} (hsteady : Steady x)
    (h : filter_of ctx = (false, false)) : (x ctx).map_state unfiltered = x ctx := by
  have hrun := hsteady _ ctx h
  cases hend : x ctx with
  | ok a c =>
    rw [hend] at hrun
    exact congrArg (Outcome.ok a) (unfiltered_of_plain hrun)
  | err e c =>
    rw [hend] at hrun
    exact congrArg (Outcome.err e) (unfiltered_of_plain hrun)
  | deep => rfl

/-- The filtered run and the run of the matching rules skip the same rules. -/
theorem matching_skips (ctx : EvaluatorContext) :
    Skips (fun _ => false) (filter_of ctx) true false (rule_matches_filter ctx) := by
  have hsame : ∀ c, filter_of c = filter_of ctx → ∀ rule,
      rule_matches_filter c rule = rule_matches_filter ctx rule := by
    intro c hc rule
    obtain ⟨htargeting, hoverrides⟩ := Prod.mk.inj hc
    unfold rule_matches_filter
    rw [htargeting, hoverrides]
  constructor
  · intro c hc rule hrule
    rw [hsame c hc rule, hrule]
    rfl
  · intro c hc rule hrule
    rw [hsame c hc rule, hrule]
    rfl

end Filter

/-! ## The spec under a filter -/

section Top

variable {env : EvaluatorEnv} {node : Node} {spec : Spec} {ctx : EvaluatorContext}

theorem filtered_call_goes_to_the_spec (hspec : spec_of env node = some spec)
    (htop : filter_active ctx = true) (rec : Recur) :
    evaluate_with env rec node.2 node.1 ctx =
        evaluate_spec env rec true node.2 node.1 (some spec) ctx ∧
      steps_with env rec node.2 node.1 ctx =
        spec_steps env rec true node.2 node.1 (some spec) ctx := by
  have hstore : node.1 ≠ .ParameterStore := by
    intro hty
    unfold spec_of find_spec at hspec
    rw [hty] at hspec
    cases hspec
  unfold filter_active at htop
  unfold evaluate_with steps_with
  rw [if_neg hstore, if_neg hstore, state_bind, htop, ← hspec]
  exact ⟨rfl, rfl⟩

/-- With no rule that matches, the value is false. -/
theorem filtered_call_without_rules (hspec : spec_of env node = some spec)
    (htop : filter_active ctx = true)
    (hnone : spec.rules.filter (rule_matches_filter ctx) = []) (rec : Recur) :
    ∃ inner, evaluate_with env rec node.2 node.1 ctx = .ok .Recognized inner ∧
      inner.result.bool_value = false := by
  have hany : spec_has_filtered_rule ctx spec = false := by
    unfold spec_has_filtered_rule
    simpa [List.filter_eq_nil_iff] using hnone
  have hbegin : spec_has_filtered_rule (begin_spec node.2 spec ctx) spec = false := hany
  have hactive : filter_active (begin_spec node.2 spec ctx) = true := htop
  have hfinalize : ∀ c : EvaluatorContext,
      ((c.set_bool false).finalize_evaluation spec none).result.bool_value = false := by
    intro c
    unfold EvaluatorContext.finalize_evaluation
    dsimp only
    repeat' split
    all_goals rfl
  rw [(filtered_call_goes_to_the_spec hspec htop rec).1]
  unfold evaluate_spec
  simp only [update_bind]
  split
  · unfold new_layer_eval
    unfold filter_active at hactive
    simp only [state_bind, hactive, hbegin, Bool.not_false, Bool.and_self, ↓reduceIte]
    exact ⟨_, rfl, hfinalize _⟩
  · simp only [state_bind, hbegin, Bool.not_false, Bool.and_self, ↓reduceIte]
    exact ⟨_, rfl, hfinalize _⟩

/-- With a rule that matches, the run is one of the spec with only these rules. -/
theorem filtered_call_follows (hspec : spec_of env node = some spec)
    (htop : filter_active ctx = true) (hsome : spec.rules.filter (rule_matches_filter ctx) ≠ [])
    {rec : Recur} (hsteady : ∀ name ty, Steady (rec name ty))
    (hagree : ∀ step ∈ steps_with env rec node.2 node.1 ctx,
      step.Agrees (fun _ => false) rec rec) :
    (evaluate_with env rec node.2 node.1 ctx).map_state unfiltered =
      evaluate_spec env rec false node.2 node.1 (some (matching_part ctx spec))
        (unfiltered ctx) := by
  obtain ⟨hcall, hsteps⟩ := filtered_call_goes_to_the_spec hspec htop rec
  have hany : spec_has_filtered_rule (begin_spec node.2 spec ctx) spec = true := by
    obtain ⟨rule, hrule⟩ := List.exists_mem_of_ne_nil _ hsome
    exact List.any_eq_true.mpr ⟨rule, List.mem_filter.mp hrule⟩
  have hactive : filter_active (begin_spec node.2 spec ctx) = true := htop
  rw [hsteps] at hagree
  rw [hcall]
  unfold evaluate_spec
  unfold spec_steps at hagree
  simp only [update_bind]
  dsimp only at hagree
  by_cases hlayer : spec.use_new_layer_eval = some true ∧ node.1 = .Layer
  · have htracks := @new_layer_rules_tracks env _ rec rec _ _ _ _ hsteady (matching_skips ctx)
      spec (spec.rules.filter (rule_matches_filter ctx)) spec.rules {}
      (begin_spec node.2 spec ctx) rfl
    have hplain : filter_active (begin_spec node.2 (matching_part ctx spec) (unfiltered ctx)) =
        false := Bool.and_false _
    unfold filter_active at hactive hplain
    rw [if_pos hlayer] at hagree
    rw [if_pos hlayer, if_pos (show (matching_part ctx spec).use_new_layer_eval = some true ∧
      node.1 = .Layer from hlayer)]
    unfold new_layer_eval
    simp only [hactive, hany, Bool.not_true, Bool.and_false, Bool.false_eq_true, ↓reduceIte]
      at hagree
    simp only [state_bind, hactive, hplain, hany, Bool.not_true, Bool.and_false, Bool.false_and,
      Bool.false_eq_true, ↓reduceIte]
    exact htracks hagree
  · have htracks := @evaluate_rules_tracks env _ rec rec _ _ _ _ hsteady (matching_skips ctx)
      spec (spec.rules.filter (rule_matches_filter ctx)) spec.rules
      (begin_spec node.2 spec ctx) rfl
    rw [if_neg hlayer] at hagree
    rw [if_neg hlayer, if_neg (show ¬ ((matching_part ctx spec).use_new_layer_eval = some true ∧
      node.1 = .Layer) from hlayer)]
    simp only [hany, Bool.not_true, Bool.and_false, Bool.false_eq_true, ↓reduceIte] at hagree
    simp only [state_bind, hany, Bool.not_true, Bool.and_false, Bool.false_eq_true, ↓reduceIte,
      Bool.false_and]
    exact htracks hagree

end Top

/-! ## What is nested sees all its rules -/

/-- A call of the config is the same with the filter of the context: the config has no
override, mapping or bandit that the filter would skip, and the filter asks for all its
rules. -/
structure LetThrough (env : EvaluatorEnv) (ctx : EvaluatorContext) (node : Node) : Prop where
  untouched : Untouched env node
  unmapped : ¬ Mapped env node
  no_bandit : ∀ cmab, ¬ BanditOf env node cmab
  all_match : ∀ spec, spec_of env node = some spec →
    spec.rules ≠ [] ∧ ∀ rule ∈ spec.rules, rule_matches_filter ctx rule = true

/-- The call goes on to no mapped config, or to one that the filter lets through. -/
def Call.Stays (env : EvaluatorEnv) (a : Call) : Prop :=
  ∀ node ctx, a.Takes env (.maps node ctx) → LetThrough env ctx node

/-- The call with no rule filter. -/
def Call.unfiltered (a : Call) : Call := ⟨a.node, evaluation.unfiltered a.ctx⟩

section Nested

variable {env : EvaluatorEnv} {a b : Call} {depth : Nat}

theorem let_through_agrees (hcount : a.ctx.nested_count = 0)
    (hopen : LetThrough env a.ctx a.node)
    (hagree : ∀ step ∈ a.steps env depth,
      step.Agrees (fun _ => false) (evaluate env depth) (evaluate env depth)) :
    (a.run env (depth + 1)).map_state unfiltered = a.unfiltered.run env (depth + 1) := by
  have hsteady := evaluate_steady env depth
  by_cases hactive : filter_active a.ctx = true
  · by_cases hstore : a.node.1 = .ParameterStore
    · show (evaluate_with env _ _ _ _).map_state unfiltered = evaluate_with env _ _ _ _
      unfold evaluate_with
      rw [if_pos hstore, if_pos (show a.unfiltered.node.1 = .ParameterStore from hstore)]
      rfl
    have hplain : a.unfiltered.run env (depth + 1) =
        evaluate_spec env (evaluate env depth) false a.node.2 a.node.1 (spec_of env a.node)
          (unfiltered a.ctx) := by
      show evaluate_with env _ a.node.2 a.node.1 _ = _
      rw [evaluate_with_spec _ hstore hopen.untouched hopen.unmapped hopen.no_bandit, state_bind]
      rw [show filter_active a.unfiltered.ctx = false from Bool.and_false _]
      rfl
    rw [hplain]
    show (evaluate_with env _ _ _ _).map_state unfiltered = _
    cases hspec : spec_of env a.node with
    | none =>
      rw [evaluate_with_spec _ hstore hopen.untouched hopen.unmapped hopen.no_bandit, state_bind,
        hspec]
      rfl
    | some spec =>
      obtain ⟨hsome, hall⟩ := hopen.all_match spec hspec
      have hwhole : spec.rules.filter (rule_matches_filter a.ctx) = spec.rules :=
        List.filter_eq_self.mpr hall
      rw [filtered_call_follows hspec hactive (by rwa [hwhole]) hsteady hagree]
      unfold matching_part
      rw [hwhole]
  · have hplain := filter_of_inactive hcount (Bool.eq_false_iff.mpr hactive)
    have hself : a.unfiltered = a := by
      unfold Call.unfiltered
      rw [unfiltered_of_plain hplain]
    rw [hself]
    exact map_state_of_plain (evaluate_steady env (depth + 1) a.node.2 a.node.1) hplain

/-- A call from within another one, or one that the filter lets through. -/
def Call.Sees (env : EvaluatorEnv) (a : Call) : Prop :=
  (a.ctx.nested_count ≠ 0 ∧ a.node.1 ≠ .Layer) ∨
    (a.ctx.nested_count = 0 ∧ LetThrough env a.ctx a.node)

theorem sees_of_in_place (hstays : a.Stays env) (h : a.InPlace env b) : b.Sees env := by
  rcases h with ⟨depth, hstep⟩ | ⟨depth, hstep⟩
  · have hfits := Call.step_fits hstep
    exact .inl ⟨Nat.ne_of_gt hfits.2.1, Call.nests_no_layer hfits.1⟩
  · exact .inr ⟨(Call.step_fits hstep).2.1, hstays _ _ ⟨depth, hstep⟩⟩

/-- The calls of a run come out the same without the filter. -/
theorem calls_agree (hcalls : ∀ b, a.InPlace env b →
    (b.run env depth).map_state unfiltered = b.unfiltered.run env depth) :
    ∀ step ∈ a.steps env depth,
      step.Agrees (fun _ => false) (evaluate env depth) (evaluate env depth) := by
  intro step hstep
  cases step with
  | asks rule ctx => trivial
  | tries rule => trivial
  | checks ctx => trivial
  | nests node ctx => exact hcalls ⟨node, ctx⟩ (.inl ⟨depth, hstep⟩)
  | groups node ctx => rfl
  | maps node ctx => exact hcalls ⟨node, ctx⟩ (.inr ⟨depth, hstep⟩)

/-- Such a call comes out as without the filter, if what it goes on to is let through. -/
theorem evaluate_blind (depth : Nat) (hsees : a.Sees env)
    (hstays : ∀ b, ReflTransGen (Call.InPlace env) a b → b.Stays env) :
    (a.run env depth).map_state unfiltered = a.unfiltered.run env depth := by
  induction depth generalizing a with
  | zero => rfl
  | succ depth ih =>
    have hagree := calls_agree fun b hab => ih (sees_of_in_place (hstays a .refl) hab)
      fun c hbc => hstays c (.head hab hbc)
    rcases hsees with hnested | ⟨hcount, hopen⟩
    · exact evaluate_with_tracks (evaluate_steady env depth) (.inr hnested) hagree
    · exact let_through_agrees hcount hopen hagree

end Nested

/-- In a run whose calls go on to no mapped config, save to those that the filter lets
through, a filtered evaluation is an evaluation of the spec with only the matching rules, and
false without any. All that it makes in its own context is evaluated as without a filter. -/
theorem filtered_evaluation_is_one_of_the_matching_rules (env : EvaluatorEnv) {root : Call}
    {spec : Spec} (hspec : spec_of env root.node = some spec)
    (htop : filter_active root.ctx = true)
    (hstays : ∀ a, ReflTransGen (Call.InPlace env) root a → a.Stays env) (depth : Nat) :
    (spec.rules.filter (rule_matches_filter root.ctx) = [] →
      ∃ inner, root.run env (depth + 1) = .ok .Recognized inner ∧
        inner.result.bool_value = false) ∧
    (spec.rules.filter (rule_matches_filter root.ctx) ≠ [] →
      (root.run env (depth + 1)).map_state unfiltered =
        evaluate_spec env (evaluate env depth) false root.node.2 root.node.1
          (some (matching_part root.ctx spec)) (unfiltered root.ctx)) ∧
    ∀ a, TransGen (Call.InPlace env) root a → ∀ depth,
      (a.run env depth).map_state unfiltered = a.unfiltered.run env depth := by
  have hcalls : ∀ a, TransGen (Call.InPlace env) root a → ∀ depth,
      (a.run env depth).map_state unfiltered = a.unfiltered.run env depth := by
    intro a ha depth
    obtain ⟨b, hb, hba⟩ := TransGen.tail'_iff.mp ha
    exact evaluate_blind depth (sees_of_in_place (hstays b hb) hba)
      fun c hac => hstays c (ha.to_reflTransGen.trans hac)
  refine ⟨fun hnone => filtered_call_without_rules hspec htop hnone _, fun hsome => ?_, hcalls⟩
  exact filtered_call_follows hspec htop hsome (evaluate_steady env depth)
    (calls_agree fun b hb => hcalls b (.single hb) depth)

/-- A gate with a targeting rule that asks for an inner gate. -/
def asking_gate : Spec where
  rules := [{ id := "targetingGate", conditions := ["passes_inner"] }]

/-- The inner gate is on for every user, before it asks for a gate that is mapped to another
one. -/
def asking_specs : SpecsResponseFull where
  feature_gates := [("outer", asking_gate),
    ("inner", { rules := [
      { id := "on", conditions := [] }, { id := "second", conditions := ["passes_mapped"] }] }),
    ("mapped", { rules := [] }), ("target", { rules := [{ id := "on", conditions := [] }] })]
  condition_map := [("passes_inner", .on_gate "pass_gate" "inner"),
    ("passes_mapped", .on_gate "pass_gate" "mapped")]
  override_rules := some [("everyone", { id := "everyone", conditions := [] })]
  overrides := some [("mapped", [
    { new_config_name := "target", rules := [{ rule_name := "everyone" }] }])]

/-- The inner gate is mapped to another gate that is on for every user. -/
def mapped_specs : SpecsResponseFull where
  feature_gates := [("outer", asking_gate), ("inner", { rules := [] }),
    ("target", { rules := [{ id := "on", conditions := [] }] })]
  condition_map := [("passes_inner", .on_gate "pass_gate" "inner")]
  override_rules := some [("everyone", { id := "everyone", conditions := [] })]
  overrides := some [("inner", [
    { new_config_name := "target", rules := [{ rule_name := "everyone" }] }])]

def targeting_only : EvaluatorContext := { only_evaluate_targeting := true }

def asking_call : Call := ⟨(.Gate, "outer"), targeting_only⟩

/-- The one call that the run makes. -/
def asked_call : Call :=
  ⟨(.Gate, "inner"), { begin_spec "outer" asking_gate targeting_only with nested_count := 1 }⟩

theorem asking_call_steps (depth : Nat) :
    asking_call.steps (.plain asking_specs) depth =
      [.asks { id := "targetingGate", conditions := ["passes_inner"] }
          (begin_spec "outer" asking_gate targeting_only),
        .checks (begin_spec "outer" asking_gate targeting_only),
        .nests asked_call.node asked_call.ctx] := by
  cases depth with
  | zero => rfl
  | succ depth => rfl

theorem asked_call_steps (depth : Nat) :
    asked_call.steps (.plain asking_specs) depth =
      [.asks { id := "on", conditions := [] } asked_call.ctx] :=
  rfl

theorem filtered_evaluation_of_the_asking_gate :
    (evaluate (.plain asking_specs) 3 "outer" .Gate targeting_only).map_state unfiltered =
        evaluate_spec (.plain asking_specs) (evaluate (.plain asking_specs) 2) false "outer" .Gate
          (some (matching_part targeting_only asking_gate)) (unfiltered targeting_only) ∧
      ∀ depth, (asked_call.run (.plain asking_specs) depth).map_state unfiltered =
        asked_call.unfiltered.run (.plain asking_specs) depth := by
  have hspec : spec_of (.plain asking_specs) asking_call.node = some asking_gate := rfl
  have hreached : ∀ a, ReflTransGen (Call.InPlace (.plain asking_specs)) asking_call a →
      a = asking_call ∨ a = asked_call := by
    intro a ha
    induction ha with
    | refl => exact .inl rfl
    | @tail b c _ hbc ih =>
      obtain ⟨node, ctx⟩ := c
      rcases ih with rfl | rfl
      all_goals rcases hbc with ⟨depth, hstep⟩ | ⟨depth, hstep⟩
      all_goals first
        | rw [asking_call_steps, List.mem_cons, List.mem_cons, List.mem_singleton] at hstep
        | rw [asked_call_steps, List.mem_singleton] at hstep
      · rcases hstep with hstep | hstep | hstep
        · cases hstep
        · cases hstep
        · cases hstep
          exact .inr rfl
      · rcases hstep with hstep | hstep | hstep
        · cases hstep
        · cases hstep
        · cases hstep
      · cases hstep
      · cases hstep
  have hstays : ∀ a, ReflTransGen (Call.InPlace (.plain asking_specs)) asking_call a →
      a.Stays (.plain asking_specs) := by
    rintro a ha node ctx ⟨depth, hstep⟩
    rcases hreached a ha with rfl | rfl
    · rw [asking_call_steps] at hstep
      simp at hstep
    · rw [asked_call_steps] at hstep
      simp at hstep
  have hasked : asking_call.InPlace (.plain asking_specs) asked_call := by
    refine .inl ⟨0, ?_⟩
    rw [asking_call_steps]
    exact List.mem_cons_of_mem _ (List.mem_cons_of_mem _ List.mem_cons_self)
  obtain ⟨-, hruns, hcalls⟩ :=
    filtered_evaluation_is_one_of_the_matching_rules _ hspec rfl hstays 2
  exact ⟨hruns (by decide), hcalls asked_call (.single hasked)⟩

/-- The mapping sets the counter back, so the target counts as the spec at the top: its
only rule is no targeting rule, and the inner gate comes out false. -/
theorem mapped_inner_gate_is_filtered :
    (∃ ctx, evaluate (.plain mapped_specs) 4 "outer" .Gate targeting_only = .ok .Recognized ctx ∧
      ctx.result.bool_value = false) ∧
    ∃ ctx, evaluate_spec (.plain mapped_specs) (evaluate (.plain mapped_specs) 3) false "outer"
      .Gate
        (some (matching_part targeting_only asking_gate)) (unfiltered targeting_only) =
        .ok .Recognized ctx ∧ ctx.result.bool_value = true :=
  ⟨⟨_, rfl, rfl⟩, ⟨_, rfl, rfl⟩⟩

end statsig_rust.evaluation
