-- A condition on the group of an experiment asks the public API for the experiment, in
-- a context of its own. So the nesting counter starts from 0 there, and it does not bound
-- a chain of experiments that ask for the groups of one another. It bounds the chains that
-- come back to an experiment with a higher counter than before.
import StatsigCore.Evaluation.ConfigMapping

open program Relation

namespace statsig_rust.evaluation

/-! ## Groups that are asked for without end -/

section NeverEnds

variable {env : EvaluatorEnv} {rec : Recur}

/-- The first condition of the first rule of an experiment asks for the group of another. -/
def AsksFirst (env : EvaluatorEnv) (name asked : String) : Prop :=
  ∃ spec rule rules hash hashes condition field,
    env.specs_data.dynamic_configs.get name = some spec ∧ spec.rules = rule :: rules ∧
    rule.conditions = hash :: hashes ∧ env.specs_data.condition_map.get hash = some condition ∧
    type_of condition = .ExperimentGroup ∧ condition.field = some field ∧ field.value = asked ∧
    env.statsig = true

/-- The rules of the experiment decide: no override, mapping or bandit comes before them. -/
structure Undisturbed (env : EvaluatorEnv) (name : String) : Prop where
  override : env.override_adapter = none
  mapping : ¬ Mapped env (.Experiment, name)
  bandit : ∀ cmab, ¬ BanditOf env (.Experiment, name) cmab

theorem evaluate_condition_never_ends {condition : Condition} {field : DynamicString}
    (hty : type_of condition = .ExperimentGroup) (hstatsig : env.statsig = true)
    (hfield : condition.field = some field) (hrec : NeverEnds (rec field.value .Experiment)) :
    NeverEnds (evaluate_condition env rec condition) := by
  intro ctx hctx
  have hdeep : rec field.value .Experiment { draws := ctx.draws } = .deep :=
    hrec.deep ⟨rfl, rfl, rfl⟩
  have hgroup : evaluate_experiment_group env rec condition.field ctx = .deep := by
    unfold evaluate_experiment_group get_experiment_group_name
    simp only [hfield, hstatsig, hdeep, ↓reduceIte]
  unfold evaluate_condition
  simp only [hty]
  rw [bind_apply, hgroup]
  trivial

/-- A call goes on into the experiment whose group it asks for first. -/
theorem evaluate_with_asks_first {name asked : String} (hasks : AsksFirst env name asked)
    (hplain : Undisturbed env name) (hrec : NeverEnds (rec asked .Experiment)) :
    NeverEnds (evaluate_with env rec name .Experiment) := by
  obtain ⟨spec, rule, rules, hash, hashes, condition, field, hspec, hrules, hhashes, hget, hty,
    hfield, rfl, hstatsig⟩ := hasks
  have hcondition := evaluate_condition_never_ends hty hstatsig hfield hrec
  have hrule : NeverEnds (evaluate_rule env rec rule) := by
    unfold evaluate_rule
    rw [hhashes]
    unfold evaluate_conditions
    simp only [hget]
    exact Triple.bind hcondition fun _ _ h => h.elim
  have huntouched : Untouched env (.Experiment, name) := by
    unfold Untouched try_apply_override
    rw [hplain.override]
    rfl
  have hspec' : spec_of env (.Experiment, name) = some spec := hspec
  intro ctx hctx
  have hactive : filter_active ctx = false := by
    unfold filter_active
    rw [hctx.no_targeting, hctx.no_overrides]
    exact Bool.and_false _
  have hbegin : Plain (begin_spec name spec ctx) :=
    ⟨hctx.supported, hctx.no_targeting, hctx.no_overrides⟩
  have hspec : (SpecType.Experiment, name).1 ≠ .ParameterStore := by simp
  have hcall := evaluate_with_spec rec hspec huntouched hplain.mapping hplain.bandit
  show (evaluate_with env rec (SpecType.Experiment, name).2 (SpecType.Experiment, name).1
    ctx).Meets _ _ _
  rw [hcall, state_bind, hactive, hspec']
  unfold evaluate_spec
  simp only [update_bind, reduceCtorEq, and_false, ↓reduceIte, state_bind, Bool.false_and,
    Bool.false_eq_true, hrules]
  unfold evaluate_rules
  simp only [state_bind, Bool.false_and, Bool.false_eq_true, ↓reduceIte]
  exact Triple.bind hrule (fun _ _ h => h.elim) _ hbegin

/-- A chain of experiments that each ask for the group of the next one runs to any depth. -/
theorem group_chain_never_ends (chain : Nat → String)
    (hchain : ∀ i, AsksFirst env (chain i) (chain (i + 1)) ∧ Undisturbed env (chain i))
    (depth i : Nat) : NeverEnds (evaluate env depth (chain i) .Experiment) := by
  induction depth generalizing i with
  | zero => exact fun _ _ => trivial
  | succ depth ih => exact evaluate_with_asks_first (hchain i).1 (hchain i).2 (ih (i + 1))

end NeverEnds

/-- Where the calls of an evaluation find a higher counter whenever they come back to a spec,
it evaluates boundedly many specs within one another and it returns, also from the new
context of the public API. A chain of experiments that each ask for the group of the next one
first, and that comes back to one of the chain, runs to any depth. -/
theorem group_conditions_end_off_the_cycles (env : EvaluatorEnv) :
    (∀ (experiment_name : String) (ctx : EvaluatorContext),
      ctx.nested_count ≤ MAX_RECURSIVE_DEPTH →
      Call.Climbs env ⟨(.Experiment, experiment_name), ctx⟩ →
      (∀ n b, graph.Path (Call.Makes env) n ⟨(.Experiment, experiment_name), ctx⟩ b →
        n ≤ (call_keys env.specs_data).card) ∧
      ∀ depth > (call_keys env.specs_data).card,
        evaluate env depth experiment_name .Experiment ctx ≠ .deep) ∧
    ∀ chain : Nat → String,
      (∀ i, AsksFirst env (chain i) (chain (i + 1)) ∧ Undisturbed env (chain i)) →
      ∀ depth, evaluate env depth (chain 0) .Experiment {} = .deep := by
  constructor
  · intro experiment_name ctx hroot hclimbs
    exact ⟨fun n b hpath => climbing_chain_is_short hroot hclimbs hpath,
      fun depth hdepth => climbing_calls_end hroot hclimbs hdepth⟩
  · intro chain hchain depth
    exact (group_chain_never_ends chain hchain depth 0).deep ⟨rfl, rfl, rfl⟩

/-- An experiment whose one rule asks for the group of another experiment. -/
def asking_experiment (name asked : String) : SpecsResponseFull where
  condition_map := [("group", {
    condition_type := "experiment_group"
    operator := some "any"
    field := some ⟨asked, asked⟩ })]
  dynamic_configs := [(name, { rules := [{ id := "rule", conditions := ["group"] }] })]

/-- The context of the public API has the `Statsig` instance. -/
def asking (name asked : String) : EvaluatorEnv :=
  { EvaluatorEnv.plain (asking_experiment name asked) with statsig := true }

theorem asking_asks_first (name asked : String) : AsksFirst (asking name asked) name asked := by
  have hspec : (asking name asked).specs_data.dynamic_configs.get name =
      some { rules := [{ id := "rule", conditions := ["group"] }] } := by
    simp [asking, asking_experiment, EvaluatorEnv.plain, HashMap.get]
  exact ⟨_, _, _, _, _, _, _, hspec, rfl, rfl, rfl, rfl, rfl, rfl, rfl⟩

theorem asking_undisturbed (name asked other : String) :
    Undisturbed (asking name asked) other := by
  refine ⟨rfl, ?_, ?_⟩
  · rintro ⟨mapping, rule, overrides, _, _, hoverrides, -⟩
    cases hoverrides
  · rintro cmab ⟨-, cmabs, hcmabs, -⟩
    cases hcmabs

theorem refers_of_asking {name asked : String} {a b : Node}
    (h : Refers (asking name asked) a b) : a.2 = name ∧ b.2 = asked := by
  have hspec : ∀ {spec}, spec_of (asking name asked) a = some spec →
      a.2 = name ∧ spec = { rules := [{ id := "rule", conditions := ["group"] }] } := by
    intro spec hspec
    obtain ⟨ty, other⟩ := a
    cases ty with
    | Gate | Layer | ParameterStore => cases hspec
    | DynamicConfig | Experiment =>
      exact Prod.mk.inj (List.mem_singleton.mp (HashMap.mem_of_get hspec))
  have hmapping : ∀ {other mapping rule}, ¬ MappingRule (asking name asked) other mapping rule := by
    rintro other mapping rule ⟨overrides, _, _, hoverrides, -⟩
    cases hoverrides
  have hrule : ∀ {rule}, RuleOf (asking name asked) a rule →
      a.2 = name ∧ rule.conditions = ["group"] ∧ rule.config_delegate = none := by
    rintro rule (⟨spec, hfind, hmem⟩ | ⟨mapping, hof⟩)
    · obtain ⟨hname, rfl⟩ := hspec hfind
      obtain rfl := List.mem_singleton.mp hmem
      exact ⟨hname, rfl, rfl⟩
    · exact absurd hof hmapping
  have hcondition : ∀ {hash condition},
      (asking name asked).specs_data.condition_map.get hash = some condition →
      type_of condition = .ExperimentGroup ∧ condition.field = some ⟨asked, asked⟩ := by
    intro hash condition hget
    obtain ⟨-, rfl⟩ := Prod.mk.inj (List.mem_singleton.mp (HashMap.mem_of_get hget))
    exact ⟨rfl, rfl⟩
  rcases h with hnest | ⟨-, rule, hof, hash, -, condition, field, hget, -, hfield, hname, -⟩ |
    ⟨-, mapping, rule, hof, -⟩
  · cases hnest with
    | gate hof hgate =>
      obtain ⟨hash, -, condition, hget, hty, -⟩ := hgate
      rw [(hcondition hget).1] at hty
      rcases hty with hty | hty <;> cases hty
    | delegate hfind hmem hdelegate _ =>
      rw [(hrule (.inl ⟨_, hfind, hmem⟩)).2.2] at hdelegate
      cases hdelegate
    | targeting hbandit _ =>
      obtain ⟨-, cmabs, hcmabs, -⟩ := hbandit
      cases hcmabs
  · rw [(hcondition hget).2] at hfield
    cases hfield
    exact ⟨(hrule hof).1, hname.symm⟩
  · exact absurd hof hmapping

/-- An experiment that asks for the group of another one is on no cycle. -/
theorem asking_has_no_cycle {name asked : String} (hne : name ≠ asked) (a : Node) :
    ¬ TransGen (Refers (asking name asked)) a a := by
  intro hcycle
  obtain ⟨b, hab, hba⟩ := TransGen.head'_iff.mp hcycle
  have hb := (refers_of_asking hab).2
  rcases ReflTransGen.cases_head hba with rfl | ⟨c, hbc, -⟩
  · exact hne ((refers_of_asking hab).1.symm.trans hb)
  · exact hne ((refers_of_asking hbc).1.symm.trans hb)

/-- An experiment that lets everyone in before it asks for its own group. -/
def shielded_experiment : EvaluatorEnv :=
  { asking "experiment" "experiment" with
    specs_data := { asking_experiment "experiment" "experiment" with
      condition_map := [("everyone", .everyone), ("group", {
        condition_type := "experiment_group"
        operator := some "any"
        field := some ⟨"experiment", "experiment"⟩ })]
      dynamic_configs := [("experiment", { rules := [
        { id := "first", conditions := ["everyone"], pass_percentage := 100 },
        { id := "second", conditions := ["group"] }] })] } }

theorem group_conditions_end_for_two_experiments :
    (∀ depth > (call_keys (asking_experiment "first" "second")).card,
      evaluate (asking "first" "second") depth "first" .Experiment {} ≠ .deep) ∧
    (∀ depth > (call_keys shielded_experiment.specs_data).card,
      evaluate shielded_experiment depth "experiment" .Experiment {} ≠ .deep) ∧
    ∀ depth, evaluate (asking "first" "first") depth "first" .Experiment {} = .deep := by
  refine ⟨?_, ?_, ?_⟩
  · exact ((group_conditions_end_off_the_cycles (asking "first" "second")).1 "first" {}
      (by decide)
      (climbs_of_no_cycle (asking_has_no_cycle (by decide)))).2
  · refine ((group_conditions_end_off_the_cycles shielded_experiment).1 "experiment" {} (by decide)
      (climbs_of_no_call ?_)).2
    have hsteps : ∀ depth, ∃ ctx, Call.steps shielded_experiment depth
        ⟨(.Experiment, "experiment"), {}⟩ =
          [.asks { id := "first", conditions := ["everyone"], pass_percentage := 100 } ctx] :=
      fun _ => ⟨_, rfl⟩
    rintro b (⟨depth, hstep⟩ | ⟨depth, hstep⟩ | ⟨depth, hstep⟩)
    all_goals
      obtain ⟨ctx, hsteps⟩ := hsteps depth
      rw [hsteps] at hstep
      cases List.mem_singleton.mp hstep
  · exact (group_conditions_end_off_the_cycles (asking "first" "first")).2 (fun _ => "first")
      fun _ => ⟨asking_asks_first _ _, asking_undisturbed _ _ _⟩

/-- An experiment with a condition on its own group is evaluated for ever. -/
theorem own_group_never_ends :
    ¬ ∃ depth, evaluate (asking "experiment" "experiment") depth "experiment" .Experiment {} ≠
      .deep := by
  rintro ⟨depth, h⟩
  have hrun : NeverEnds (evaluate (asking "experiment" "experiment") depth "experiment"
      .Experiment) := group_chain_never_ends (fun _ => "experiment")
    (fun _ => ⟨asking_asks_first _ _, asking_undisturbed _ _ _⟩) depth 0
  exact h (hrun.deep ⟨rfl, rfl, rfl⟩)

end statsig_rust.evaluation
