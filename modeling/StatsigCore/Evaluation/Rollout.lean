-- Rolling a gate out further: the pass percentages of its rules are raised, and nothing else. A
-- user who had the gate keeps it, since the bucket of a user for a rule does not depend on the
-- percentage.
import Mathlib.Algebra.Order.Field.Rat
import Mathlib.Tactic.Linarith
import StatsigCore.Evaluation.Relevance

open program

namespace statsig_rust.evaluation

variable {env : EvaluatorEnv}

/-! ## One rule -/

/-- The same rule with a percentage that is not lower. -/
structure RolledOut (rule rule' : Rule) : Prop where
  same : rule' = { rule with pass_percentage := rule'.pass_percentage }
  lower : 0 ≤ rule.pass_percentage
  raised : rule.pass_percentage ≤ rule'.pass_percentage
  upper : rule'.pass_percentage ≤ 100

theorem evaluate_pass_percentage_mono (hround : Monotone env.f64_round) {rule rule' : Rule}
    (h : RolledOut rule rule') (spec_salt : InternedString)
    (hpass : evaluate_pass_percentage env rule spec_salt = true) :
    evaluate_pass_percentage env rule' spec_salt = true := by
  obtain ⟨hsame, hlower, hraised, hupper⟩ := h
  have hsalt : rule'.salt = rule.salt := by rw [hsame]
  have hid : rule'.id = rule.id := by rw [hsame]
  have htype : rule'.id_type = rule.id_type := by rw [hsame]
  unfold evaluate_pass_percentage at hpass ⊢
  rw [hsalt, hid, htype]
  by_cases hfull' : rule'.pass_percentage = 100
  · rw [if_pos hfull']
  · by_cases hzero : rule.pass_percentage = 0
    · have hfull : rule.pass_percentage ≠ 100 := by
        rw [hzero]
        decide
      rw [if_neg hfull, if_pos hzero] at hpass
      cases hpass
    · have hpos : 0 < rule.pass_percentage := lt_of_le_of_ne hlower (Ne.symm hzero)
      have hfull : rule.pass_percentage ≠ 100 := fun heq =>
        hfull' (le_antisymm hupper (heq ▸ hraised))
      have hzero' : rule'.pass_percentage ≠ 0 := (lt_of_lt_of_le hpos hraised).ne'
      rw [if_neg hfull, if_neg hzero] at hpass
      rw [if_neg hfull', if_neg hzero']
      cases hhash : env.hashing.evaluation_hash_dot3 spec_salt (rule.salt.getD rule.id)
          (get_unit_id env rule.id_type) with
      | none =>
        simp only [hhash] at hpass
        cases hpass
      | some hash =>
        simp only [hhash, decide_eq_true_eq] at hpass ⊢
        have hle : rule.pass_percentage * 100 ≤ rule'.pass_percentage * 100 := by linarith
        exact lt_of_lt_of_le hpass (hround hle)

/-! ## The rules of a gate -/

/-- Whoever has the gate after the first run has it after the second one. -/
def KeepsGate (o o' : Outcome EvaluatorContext StatsigErr Recognition) : Prop :=
  ∀ r c, o = .ok r c → c.result.bool_value = true →
    ∃ c', o' = .ok r c' ∧ c'.result.bool_value = true

theorem KeepsGate.refl (o : Outcome EvaluatorContext StatsigErr Recognition) : KeepsGate o o :=
  fun _ c ho hbool => ⟨c, ho, hbool⟩

/-- The same step, and after it whoever had the gate keeps it. -/
theorem KeepsGate.after {α : Type} {f f' : α → Eval Recognition}
    (o : Outcome EvaluatorContext StatsigErr α) (h : ∀ a c, KeepsGate (f a c) (f' a c)) :
    KeepsGate (o.andThen f) (o.andThen f') := by
  cases o with
  | ok a c => exact h a c
  | err e c => exact KeepsGate.refl _
  | deep => exact KeepsGate.refl _

theorem finalize_bool_value (ctx : EvaluatorContext) (spec : Spec) (rule : Option Rule) :
    (ctx.finalize_evaluation spec rule).result.bool_value = ctx.result.bool_value := by
  unfold EvaluatorContext.finalize_evaluation
  dsimp only
  repeat' split
  all_goals rfl

theorem apply_rule_bool_value (spec : Spec) (rule : Rule) (did_pass : Bool)
    (ctx : EvaluatorContext) : (apply_rule spec rule did_pass ctx).result.bool_value =
      if did_pass then rule.return_value.get_bool != some false
      else spec.default_value.get_bool == some true := by
  unfold apply_rule
  rw [finalize_bool_value]

/-- The same gate, with rules that are rolled out further. -/
structure GateRolledOut (spec spec' : Spec) : Prop where
  same : spec' = { spec with rules := spec'.rules }
  rules : List.Forall₂ RolledOut spec.rules spec'.rules
  /-- A rule that passes turns the gate on. -/
  turns_on : ∀ rule ∈ spec.rules, rule.return_value.get_bool ≠ some false

variable {specs : SpecsResponseFull} {rec rec' : Recur} {spec spec' : Spec}

theorem GateRolledOut.finalize (h : GateRolledOut spec spec') (ctx : EvaluatorContext) :
    ctx.finalize_evaluation spec' none = ctx.finalize_evaluation spec none := by
  rw [h.same]
  rfl

theorem apply_rule_keeps (hround : Monotone env.f64_round) {rule rule' : Rule}
    (h : RolledOut rule rule') (hon : rule.return_value.get_bool ≠ some false)
    (hspec : GateRolledOut spec spec') {ctx : EvaluatorContext}
    (hbool : (apply_rule spec rule (evaluate_pass_percentage env rule spec.salt)
      ctx).result.bool_value = true) :
    (apply_rule spec' rule' (evaluate_pass_percentage env rule' spec'.salt)
      ctx).result.bool_value = true := by
  have hsalt : spec'.salt = spec.salt := by rw [hspec.same]
  have hdefault : spec'.default_value = spec.default_value := by rw [hspec.same]
  have hvalue : rule'.return_value = rule.return_value := by rw [h.same]
  rw [apply_rule_bool_value] at hbool ⊢
  rw [hsalt, hdefault, hvalue]
  by_cases hpass : evaluate_pass_percentage env rule spec.salt = true
  · rw [if_pos (evaluate_pass_percentage_mono hround h spec.salt hpass)]
    rwa [if_pos hpass] at hbool
  · rw [if_neg hpass] at hbool
    split
    · exact bne_iff_ne.mpr hon
    · exact hbool

theorem evaluate_rules_keeps (hround : Monotone env.f64_round) (hspec : GateRolledOut spec spec')
    (filter_active : Bool) {rules rules' : List Rule} (hrules : List.Forall₂ RolledOut rules rules')
    (hon : ∀ rule ∈ rules, rule.return_value.get_bool ≠ some false)
    (halike : RulesAlike env (env.with_specs specs) rec rec' rules) (ctx : EvaluatorContext) :
    KeepsGate (evaluate_rules env rec spec filter_active rules ctx)
      (evaluate_rules (env.with_specs specs) rec' spec' filter_active rules' ctx) := by
  induction hrules generalizing ctx with
  | nil =>
    have hdefault : apply_default spec' = apply_default spec := by
      rw [hspec.same]
      rfl
    unfold evaluate_rules
    rw [hdefault]
    exact KeepsGate.refl _
  | @cons rule rule' rules rules' hrule hrest ih =>
    have ih := ih (fun r hr => hon r (List.mem_cons_of_mem _ hr)) halike.tail
    have hfilter : rule_matches_filter ctx rule' = rule_matches_filter ctx rule := by
      rw [hrule.same]
      rfl
    have heval : evaluate_rule (env.with_specs specs) rec' rule' = evaluate_rule env rec rule := by
      rw [hrule.same]
      exact (halike.evaluate_rule List.mem_cons_self).symm
    have hdelegate : evaluate_config_delegate (env.with_specs specs) rec' rule' =
        evaluate_config_delegate env rec rule := by
      rw [hrule.same]
      exact (halike.delegates rule List.mem_cons_self).symm
    unfold evaluate_rules
    simp only [state_bind, hfilter]
    split
    · exact ih ctx
    · rw [heval, bind_apply, bind_apply]
      refine KeepsGate.after (evaluate_rule env rec rule ctx) fun _ c => ?_
      simp only [state_bind]
      split
      · exact KeepsGate.refl _
      · split
        · exact ih c
        · rw [hdelegate, bind_apply, bind_apply]
          refine KeepsGate.after (evaluate_config_delegate env rec rule c) fun delegated c => ?_
          cases delegated with
          | true =>
            simp only [↓reduceIte, hspec.finalize]
            exact KeepsGate.refl _
          | false =>
            intro r c' hok hbool
            simp only [Bool.false_eq_true, ↓reduceIte, update_bind] at hok ⊢
            cases hok
            exact ⟨_, rfl, apply_rule_keeps hround hrule (hon rule List.mem_cons_self) hspec hbool⟩

/-! ## The whole evaluation -/

theorem evaluate_spec_keeps (hround : Monotone env.f64_round) (hspec : GateRolledOut spec spec')
    (halike : RulesAlike env (env.with_specs specs) rec rec' spec.rules) (filter_active : Bool)
    (name : String) (ctx : EvaluatorContext) :
    KeepsGate (evaluate_spec env rec filter_active name .Gate (some spec) ctx)
      (evaluate_spec (env.with_specs specs) rec' filter_active name .Gate (some spec') ctx) := by
  have hbegin : begin_spec name spec' = begin_spec name spec := by
    rw [hspec.same]
    rfl
  have hfiltered (c : EvaluatorContext) :
      spec_has_filtered_rule c spec' = spec_has_filtered_rule c spec := by
    have hany : ∀ {rules rules' : List Rule}, List.Forall₂ RolledOut rules rules' →
        rules'.any (rule_matches_filter c) = rules.any (rule_matches_filter c) := by
      intro rules rules' h
      induction h with
      | nil => rfl
      | cons hrule _ ih =>
        rw [List.any_cons, List.any_cons, ih, hrule.same]
        rfl
    exact hany hspec.rules
  unfold evaluate_spec
  simp only [update_bind, state_bind, hbegin, hspec.finalize, hfiltered, reduceCtorEq, and_false,
    ↓reduceIte]
  split
  · exact KeepsGate.refl _
  · exact evaluate_rules_keeps hround hspec filter_active hspec.rules hspec.turns_on halike _

/-- The download with another spec for one gate. -/
def replace_gate (specs : SpecsResponseFull) (name : String) (spec : Spec) : SpecsResponseFull :=
  { specs with feature_gates := specs.feature_gates.insert name spec }

theorem same_around_replaced (name : String) (spec : Spec) (node : Node) :
    SameAround env (env.with_specs (replace_gate env.specs_data name spec)) node where
  override _ := rfl
  mappings := rfl
  override_rules _ _ _ _ _ _ := rfl
  mapping_rules _ _ _ := ⟨fun _ _ => ⟨rfl, fun _ _ => rfl⟩, rfl⟩
  bandit _ := ⟨rfl, fun _ _ => ⟨rfl, fun _ _ _ _ => rfl⟩⟩

theorem specs_agree_replaced {name : String} {node : Node} (spec : Spec)
    (h : node ≠ (.Gate, name)) :
    SpecsAgree env (replace_gate env.specs_data name spec) node where
  spec := by
    obtain ⟨ty, other⟩ := node
    cases ty with
    | Gate =>
      have hname : other ≠ name := fun heq => h (by rw [heq])
      exact ((HashMap.get_insert _ _ _ _).trans (if_neg hname)).symm
    | DynamicConfig | Experiment | Layer | ParameterStore => rfl
  conditions _ _ _ _ := rfl
  delegates _ _ _ _ _ _ := rfl
  mappings := rfl
  override_rules _ _ _ _ _ _ := rfl
  bandit _ := rfl
  param_store _ := Iff.rfl

/-- Raising the percentages of the rules of a gate takes the gate from nobody: whoever has it over
a download has it over the same download with the gate rolled out further. The gate must not
depend on itself: a gate that some other gate denies may otherwise turn itself off. -/
theorem rolling_out_takes_no_gate_away (hround : Monotone env.f64_round) {name : String}
    (hspec : env.specs_data.feature_gates.get name = some spec) (hout : GateRolledOut spec spec')
    (hself : ¬ Relation.TransGen (Mentions env) (.Gate, name) (.Gate, name)) (depth : Nat)
    (ctx : EvaluatorContext) :
    KeepsGate (evaluate env depth name .Gate ctx)
      (evaluate (env.with_specs (replace_gate env.specs_data name spec')) depth name .Gate ctx) := by
  cases depth with
  | zero => exact KeepsGate.refl _
  | succ depth =>
    -- what the gate mentions is not the gate, so it is evaluated alike
    have hmentions : MentionsAlike env (evaluate env depth)
        (evaluate (env.with_specs (replace_gate env.specs_data name spec')) depth)
        (.Gate, name) := by
      intro b hb
      refine evaluate_congr (fun d hd => (specs_agree_replaced spec' ?_).same_at) depth
      rintro rfl
      exact hself (Relation.TransGen.head' hb hd)
    have hfind : find_spec env.specs_data name .Gate = some spec := hspec
    have hfind' : find_spec (env.with_specs (replace_gate env.specs_data name spec')).specs_data
        name .Gate = some spec' := (HashMap.get_insert _ _ _ _).trans (if_pos rfl)
    have hmapping : try_apply_config_mapping
        (env.with_specs (replace_gate env.specs_data name spec'))
        (evaluate (env.with_specs (replace_gate env.specs_data name spec')) depth) name .Gate
        (some spec') = try_apply_config_mapping env (evaluate env depth) name .Gate (some spec) := by
      have hsalt : try_apply_config_mapping env (evaluate env depth) name .Gate (some spec') =
          try_apply_config_mapping env (evaluate env depth) name .Gate (some spec) := by
        rw [hout.same]
        rfl
      rw [← hsalt]
      exact (try_apply_config_mapping_congr (same_around_replaced name spec' _) hmentions _).symm
    have halike : RulesAlike env (env.with_specs (replace_gate env.specs_data name spec'))
        (evaluate env depth)
        (evaluate (env.with_specs (replace_gate env.specs_data name spec')) depth) spec.rules := {
      same := fun _ _ => ⟨fun _ _ => ⟨rfl, fun _ _ => rfl⟩, rfl⟩
      answers := fun _ hrule => answers_alike hmentions (.inl ⟨spec, hfind, hrule⟩)
      delegates := fun rule hrule => evaluate_config_delegate_congr (fun _ _ => rfl)
        fun delegate hdelegate _ hget =>
          hmentions (.Experiment, delegate) (.inl (.delegate hfind hrule hdelegate hget)) }
    unfold evaluate evaluate_with
    simp only [reduceCtorEq, ↓reduceIte, state_bind, hfind, hfind', hmapping]
    split
    · exact evaluate_spec_keeps hround hout halike true name ctx
    · refine KeepsGate.after (try_apply_override env name .Gate (some spec) ctx)
        fun overridden c => ?_
      split
      · exact KeepsGate.refl _
      · refine KeepsGate.after (try_apply_config_mapping env (evaluate env depth) name .Gate
          (some spec) c) fun mapped c => ?_
        split
        · exact KeepsGate.refl _
        · exact evaluate_spec_keeps hround hout halike false name c

/-- A gate for a part of the users. -/
def part_gate (pass_percentage : ℚ) : Spec where
  rules := [{ id := "on", conditions := [], pass_percentage }]

theorem part_gate_is_kept : ∃ c,
    evaluate (.plain { feature_gates := [("gate", part_gate 80), ("gate", part_gate 50)] }) 1
      "gate" .Gate {} = .ok .Recognized c ∧ c.result.bool_value = true := by
  have halone := @mentions_nothing (.plain { feature_gates := [("gate", part_gate 50)] }) "gate" _
    rfl rfl (List.forall_mem_singleton.mpr ⟨no_gate_condition, no_group_condition, rfl⟩)
  have hself : ¬ Relation.TransGen
      (Mentions (.plain { feature_gates := [("gate", part_gate 50)] }))
      (.Gate, "gate") (.Gate, "gate") := by
    intro h
    obtain ⟨b, hb, -⟩ := Relation.TransGen.head'_iff.mp h
    exact halone b hb
  have hout : GateRolledOut (part_gate 50) (part_gate 80) :=
    ⟨rfl, .cons ⟨rfl, by decide, by decide, by decide⟩ .nil,
      List.forall_mem_singleton.mpr (by decide)⟩
  exact rolling_out_takes_no_gate_away monotone_id rfl hout hself 1 {} .Recognized _ rfl
    (by decide +kernel)

end statsig_rust.evaluation
