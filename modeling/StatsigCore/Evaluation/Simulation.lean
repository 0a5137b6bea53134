-- The evaluator computes the reference semantics. Through nested gates and
-- delegates the one shared result ends up with the verdict of the outer spec,
-- the memo only ever holds verdicts, and the exposures are the trace of the
-- reference. A run that fails or that is too deep says nothing.
import StatsigCore.Evaluation.Balance
import StatsigCore.Evaluation.Reference

open program Filter Relation

namespace statsig_rust.evaluation

/-! ## The evaluator computes the verdict -/

/-- What the memo holds is the verdict of the gate. -/
def Coherent (env : EvaluatorEnv) (groups : String → Option String) (memo : NestedGateMemo) :
    Prop :=
  ∀ gate entry, memo.get gate = some entry → ∃ v, Yields env groups (.Gate, gate) v ∧
    entry = (v.bool_value, some v.rule_id, v.exposures)

/-- A context at a level of nesting that has met nothing unsupported. -/
structure Good (env : EvaluatorEnv) (groups : String → Option String) (level : Nat)
    (ctx : EvaluatorContext) : Prop where
  count : ctx.nested_count = level
  supported : ctx.result.unsupported = false
  coherent : Coherent env groups ctx.nested_gate_memo

/-- The context holds a verdict, with its exposures after the ones before. -/
structure Holds (before : List SecondaryExposure) (v : Verdict) (ctx : EvaluatorContext) :
    Prop where
  bool_value : ctx.result.bool_value = v.bool_value
  json_value : (ctx.result.json_value = some v.json_value)
  rule_id : ctx.result.rule_id = some v.rule_id
  exposures : ctx.result.secondary_exposures = before ++ v.exposures

/-- From a good context, the run of the call that gives a value leaves the verdict of its
node. -/
def Call.Computes (env : EvaluatorEnv) (groups : String → Option String) (a : Call)
    (o : Outcome EvaluatorContext StatsigErr Recognition) : Prop :=
  Good env groups a.ctx.nested_count a.ctx → filter_active a.ctx = false →
    o.Meets (fun recognition c => recognition = .Recognized ∧
        Good env groups (a.ctx.nested_count - 1) c ∧
        ∃ v, Yields env groups a.node v ∧ Holds a.ctx.result.secondary_exposures v c)
      (fun _ _ => True) True

/-- What is known of a step: the rule that it asks has supported conditions, the call that it
nests computes its verdict, and the experiment that it evaluates has the group that `groups`
names. -/
def Step.Computes (env : EvaluatorEnv) (groups : String → Option String) (rec : Recur) :
    Step → Prop
  | .asks rule _ => ∀ hash ∈ rule.conditions, SupportedHash env hash
  | .nests b ctx => Call.Computes env groups ⟨b, ctx⟩ (rec b.2 b.1 ctx)
  | .groups b ctx =>
    (rec b.2 b.1 ctx).Meets (fun _ c => c.result.group_name = groups b.2)
      (fun _ _ => groups b.2 = none) True
  | _ => True

/-- Where so much is known of its steps, a run that gives a value ends with `Q`. -/
abbrev Gives {α : Type} (env : EvaluatorEnv) (groups : String → Option String) (rec : Recur)
    (ctx : EvaluatorContext) (x : Eval α) (steps : List Step) (Q : α → EvaluatorContext → Prop) :
    Prop :=
  Takes (Step.Computes env groups rec) (fun _ => True) ctx x steps Q (fun _ _ => True) True

section Conditions

variable {env : EvaluatorEnv} {groups : String → Option String} {level : Nat} {rec : Recur}
  {hashes : List InternedString} {ctx : EvaluatorContext} {before : List SecondaryExposure}

/-- The context holds a boolean and more exposures, as a reference says that can follow
references to any large depth. -/
def Answered (env : EvaluatorEnv) (groups : String → Option String) (level : Nat)
    (before : List SecondaryExposure) (meaning : Nat → Option (Bool × List SecondaryExposure))
    (ctx : EvaluatorContext) : Prop :=
  Good env groups level ctx ∧ ∃ b exposures,
    (∀ᶠ depth in atTop, meaning depth = some (b, exposures)) ∧ ctx.result.bool_value = b ∧
    ctx.result.secondary_exposures = before ++ exposures

/-- What a nested gate leaves: its verdict, with its own exposure at the end, and
negated for a `fail_gate` condition. -/
structure Records (env : EvaluatorEnv) (groups : String → Option String) (gate : InternedString)
    (ty : ConditionType) (before : List SecondaryExposure) (v : Verdict) (ctx : EvaluatorContext) :
    Prop where
  yields : Yields env groups (.Gate, gate) v
  bool_value : ctx.result.bool_value = if ty = .FailGate then !v.bool_value else v.bool_value
  rule_id : ctx.result.rule_id = some v.rule_id
  exposures : ctx.result.secondary_exposures = before ++ (v.exposures ++ gate_exposure gate v)

theorem record_nested_gate_good {gate : InternedString} {ty : ConditionType}
    (h : Good env groups level ctx) :
    Good env groups level (record_nested_gate gate ty ctx) := by
  have hkeeps : Inv.holds (fun n u => n = level ∧ u = false) (record_nested_gate gate ty ctx) :=
    record_nested_gate_keeps ⟨h.count, h.supported⟩
  refine ⟨hkeeps.1, hkeeps.2, ?_⟩
  have hmemo : (record_nested_gate gate ty ctx).nested_gate_memo = ctx.nested_gate_memo := by
    have hpush : (push_nested_exposure gate ctx).nested_gate_memo = ctx.nested_gate_memo := by
      unfold push_nested_exposure
      dsimp only
      split <;> split <;> rfl
    unfold record_nested_gate
    dsimp only
    split <;> exact hpush
  rw [hmemo]
  exact h.coherent

/-- A gate with its verdict in the result: the exposure is pushed, and a
`fail_gate` condition negates the value. -/
theorem record_nested_gate_records {gate : InternedString} {ty : ConditionType} {v : Verdict}
    (hyields : Yields env groups (.Gate, gate) v)
    (hbool : ctx.result.bool_value = v.bool_value) (hid : ctx.result.rule_id = some v.rule_id)
    (hexposures : ctx.result.secondary_exposures = before ++ v.exposures) :
    Records env groups gate ty before v (record_nested_gate gate ty ctx) := by
  have hpush : (push_nested_exposure gate ctx).result.bool_value = v.bool_value ∧
      (push_nested_exposure gate ctx).result.rule_id = some v.rule_id ∧
      (push_nested_exposure gate ctx).result.secondary_exposures =
        before ++ (v.exposures ++ gate_exposure gate v) := by
    unfold push_nested_exposure gate_exposure
    simp only [hid]
    by_cases hpushed : (!starts_with gate "segment:" && !(v.rule_id == "")) = true
    · simp only [hpushed, ↓reduceIte]
      exact ⟨hbool, trivial, by simp [hexposures, hbool]⟩
    · simp only [hpushed]
      exact ⟨hbool, hid, by simp [hexposures]⟩
  obtain ⟨hbool', hid', hexposures'⟩ := hpush
  unfold record_nested_gate
  dsimp only
  split
  · exact ⟨hyields, by simp [EvaluatorContext.set_bool, *], hid', hexposures'⟩
  · exact ⟨hyields, by simp [*], hid', hexposures'⟩

/-- A gate goes to the memo with its verdict. -/
theorem memoize_coherent {gate : InternedString} {v : Verdict}
    (hmemo : Coherent env groups ctx.nested_gate_memo)
    (hyields : Yields env groups (.Gate, gate) v) (hbool : ctx.result.bool_value = v.bool_value)
    (hid : ctx.result.rule_id = some v.rule_id)
    (hexposures : ctx.result.secondary_exposures = v.exposures) :
    Coherent env groups (memoize_nested_gate gate before ctx).nested_gate_memo := by
  intro name entry hentry
  unfold memoize_nested_gate at hentry
  dsimp only at hentry
  split at hentry
  · exact hmemo name entry hentry
  · rw [HashMap.get_insert] at hentry
    split at hentry
    · rename_i hname
      refine ⟨v, hname ▸ hyields, ?_⟩
      rw [← Option.some.inj hentry, hbool, hid, hexposures]
    · exact hmemo name entry hentry

/-- After the limit check, the nested call looks at all the rules. -/
theorem prep_good (hgood : Good env groups level ctx)
    (hbefore : ctx.result.secondary_exposures = before) :
    (prep_for_nested_evaluation ctx).Meets
      (fun _ c => Good env groups (level + 1) c ∧ c.result.secondary_exposures = before ∧
        filter_active c = false)
      (fun _ _ => True) True := by
  unfold prep_for_nested_evaluation
  dsimp only
  split
  · trivial
  · exact ⟨⟨by rw [← hgood.count], hgood.supported, hgood.coherent⟩, hbefore, rfl⟩

/-- What a step gives that nests a call from a good context. -/
theorem nested_call_gives {b : Node} (hgood : Good env groups (level + 1) ctx)
    (hfilter : filter_active ctx = false) :
    Gives env groups rec ctx (rec b.2 b.1) [.nests b ctx] fun recognition c =>
      recognition = .Recognized ∧ Good env groups level c ∧
        ∃ v, Yields env groups b v ∧ Holds ctx.result.secondary_exposures v c := by
  refine takes_one trivial fun hallowed => ?_
  have hcall := hallowed ⟨rfl, hgood.supported, hgood.coherent⟩ hfilter
  simp only [hgood.count, Nat.add_sub_cancel] at hcall
  exact hcall

/-- A nested gate is asked, or its memo is read. -/
theorem evaluate_nested_gate_records (target : MemoizedEvaluatorValue) (ty : ConditionType)
    (hgood : Good env groups level ctx) (hbefore : ctx.result.secondary_exposures = before) :
    Gives env groups rec ctx (evaluate_nested_gate rec target ty) (nested_gate_steps target ctx)
      fun _ c => Good env groups level c ∧
        ∃ v, Records env groups (gate_name_of target) ty before v c := by
  unfold evaluate_nested_gate nested_gate_steps
  refine takes_state ?_
  cases hmemo : ctx.nested_gate_memo.get (gate_name_of target) with
  | some memo =>
    simp only [hmemo]
    obtain ⟨v, hyields, rfl⟩ := hgood.coherent _ _ hmemo
    have hreplayed : Good env groups level
        (replay_nested_gate (v.bool_value, some v.rule_id, v.exposures) ctx) :=
      ⟨hgood.count, hgood.supported, hgood.coherent⟩
    exact takes_none ⟨record_nested_gate_good hreplayed, v, record_nested_gate_records hyields rfl
      rfl (by simp [replay_nested_gate, hbefore])⟩
  | none =>
    simp only [hmemo]
    refine takes_cons trivial fun _ =>
      takes_after (prep_good hgood hbefore) fun _ prepped hprepped => ?_
    obtain ⟨hprep, hset_aside, hfilter⟩ := hprepped
    refine takes_state (takes_after_update ?_)
    have hstart : Good env groups (level + 1) (take_exposures prepped) :=
      ⟨hprep.count, hprep.supported, hprep.coherent⟩
    refine (nested_call_gives hstart hfilter).bind_quiet fun recognition inner hinner => ?_
    obtain ⟨-, hgood', v, hyields, hholds⟩ := hinner
    simp only [state_bind]
    rw [if_neg (by rw [hgood'.supported]; decide)]
    have hmemoized : Good env groups level
        (memoize_nested_gate (gate_name_of target) prepped.result.secondary_exposures inner) :=
      ⟨hgood'.count, hgood'.supported, memoize_coherent hgood'.coherent hyields hholds.bool_value
        hholds.rule_id (by simpa [take_exposures] using hholds.exposures)⟩
    exact ⟨record_nested_gate_good hmemoized, v, record_nested_gate_records hyields
      hholds.bool_value hholds.rule_id
      (by simp [memoize_nested_gate, hset_aside, take_exposures, hholds.exposures])⟩

/-- As a condition, the gate answers what the reference says. -/
theorem evaluate_nested_gate_answers (target : MemoizedEvaluatorValue) (ty : ConditionType)
    (hgood : Good env groups level ctx) (hbefore : ctx.result.secondary_exposures = before) :
    Gives env groups rec ctx (evaluate_nested_gate rec target ty) (nested_gate_steps target ctx)
      fun _ => Answered env groups level before fun depth =>
        (reference env groups depth (.Gate, gate_name_of target)).map fun v =>
          (if ty = .FailGate then !v.bool_value else v.bool_value,
            v.exposures ++ gate_exposure (gate_name_of target) v) := by
  refine (evaluate_nested_gate_records target ty hgood hbefore).weaken ?_ fun _ _ h => h
  rintro _ c ⟨hgood, v, hrecords⟩
  refine ⟨hgood, _, _, ?_, hrecords.bool_value, hrecords.exposures⟩
  filter_upwards [hrecords.yields] with depth hdepth
  rw [hdepth]
  rfl

theorem leaf_answers {condition : Condition} {b : Bool} (h : leaf_outcome env condition = some b)
    (meaning : Nat → Option (Bool × List SecondaryExposure))
    (hmeaning : ∀ depth, meaning depth = some (b, [])) (hgood : Good env groups level ctx)
    (hbefore : ctx.result.secondary_exposures = before) :
    (evaluate_condition env rec condition ctx).Meets
      (fun _ => Answered env groups level before meaning) (fun _ _ => True) True := by
  rw [evaluate_condition_leaf rec h]
  refine ⟨⟨hgood.count, hgood.supported, hgood.coherent⟩, b, [], ?_, rfl, ?_⟩
  · exact .of_forall hmeaning
  · simpa [answer_leaf] using hbefore

/-- The group is looked up in a context of its own, so the result stays as it is. -/
theorem evaluate_experiment_group_finds (name : Option DynamicString)
    (hstatsig : env.statsig = true ∨ name = none) (hgood : Good env groups level ctx)
    (hbefore : ctx.result.secondary_exposures = before) :
    Gives env groups rec ctx (evaluate_experiment_group env rec name)
      (experiment_group_steps env name ctx) fun group c =>
        group = (name.bind fun f => groups f.value) ∧ Good env groups level c ∧
          c.result.secondary_exposures = before := by
  unfold evaluate_experiment_group experiment_group_steps
  cases name with
  | none => exact takes_pure ⟨rfl, hgood, hbefore⟩
  | some field =>
    have hs : env.statsig = true := hstatsig.resolve_right nofun
    dsimp only
    rw [if_pos hs, if_pos hs]
    refine takes_one trivial fun hallowed => ?_
    have hfinds : (rec field.value .Experiment { draws := ctx.draws }).Meets
      (fun _ c => c.result.group_name = groups field.value)
      (fun _ _ => groups field.value = none) True := hallowed
    unfold get_experiment_group_name
    revert hfinds
    cases rec field.value .Experiment { draws := ctx.draws } with
    | ok _ inner => exact fun h => ⟨h, ⟨hgood.count, hgood.supported, hgood.coherent⟩, hbefore⟩
    | err _ inner =>
      exact fun h => ⟨h.symm, ⟨hgood.count, hgood.supported, hgood.coherent⟩, hbefore⟩
    | deep => exact fun h => h

theorem evaluate_condition_answers {condition : Condition}
    (hsupported : is_supported env condition = true) (hgood : Good env groups level ctx)
    (hbefore : ctx.result.secondary_exposures = before) :
    Gives env groups rec ctx (evaluate_condition env rec condition)
      (condition_steps env condition ctx) fun _ =>
        Answered env groups level before fun depth => reference_condition env groups
          (fun name => reference env groups depth (.Gate, name)) condition := by
  unfold is_supported at hsupported
  cases hty : type_of condition
  case Public =>
    refine fun _ => ⟨fun _ _ => trivial, leaf_answers (b := true) ?_ _ ?_ hgood hbefore⟩
    · simp [leaf_outcome, hty]
    · simp [reference_condition, hty]
  case FailGate =>
    unfold evaluate_condition reference_condition condition_steps
    rw [hty]
    exact evaluate_nested_gate_answers (target_of condition) .FailGate hgood hbefore
  case PassGate =>
    unfold evaluate_condition reference_condition condition_steps
    rw [hty]
    exact evaluate_nested_gate_answers (target_of condition) .PassGate hgood hbefore
  case ExperimentGroup =>
    simp only [hty, Bool.and_eq_true, Bool.or_eq_true, Option.isNone_iff_eq_none] at hsupported
    unfold evaluate_condition reference_condition condition_steps
    rw [hty]
    refine (evaluate_experiment_group_finds condition.field hsupported.1 hgood hbefore).bind_quiet
      fun group c hc => ?_
    obtain ⟨rfl, hgood, hbefore⟩ := hc
    have hknown := operator_outcome_isSome env condition
      ((condition.field.bind fun f => groups f.value).map env.parsers.from_string)
    rw [hsupported.2] at hknown
    obtain ⟨b, hb⟩ := Option.isSome_iff_exists.mp hknown
    show Answered _ _ _ _ _ (apply_operator ..)
    unfold apply_operator
    rw [hb]
    refine ⟨⟨hgood.count, hgood.supported, hgood.coherent⟩, b, [], .of_forall fun _ => ?_, rfl, ?_⟩
    · dsimp only
      rw [hb]
      rfl
    · simpa [EvaluatorContext.set_bool] using hbefore
  case Unknown => simp [hty] at hsupported
  all_goals
    simp only [hty] at hsupported
    have hknown := operator_outcome_isSome env condition (read_value env condition).value
    rw [hsupported] at hknown
    obtain ⟨b, hb⟩ := Option.isSome_iff_exists.mp hknown
    refine fun _ => ⟨fun _ _ => trivial, leaf_answers (b := b) ?_ _ ?_ hgood hbefore⟩
    · simp [leaf_outcome, hty, hb]
    · simp [reference_condition, hty, hb]

theorem evaluate_conditions_answers (hsupported : ∀ hash ∈ hashes, SupportedHash env hash)
    (all : Bool) (hgood : Good env groups level ctx)
    (hbefore : ctx.result.secondary_exposures = before) :
    Gives env groups rec ctx (evaluate_conditions env rec hashes all)
      (conditions_steps env rec hashes ctx) fun _ =>
        Answered env groups level before fun depth => (reference_conditions env groups
          (fun name => reference env groups depth (.Gate, name)) hashes).map
            fun p => (all && p.1, p.2) := by
  induction hashes generalizing all ctx before with
  | nil =>
    refine takes_none ⟨⟨hgood.count, hgood.supported, hgood.coherent⟩, all, [], ?_, rfl, ?_⟩
    · exact .of_forall fun _ => by simp [reference_conditions]
    · simpa [EvaluatorContext.set_bool] using hbefore
  | cons hash hashes ih =>
    obtain ⟨condition, hget, hcondition⟩ := hsupported hash (List.mem_cons_self ..)
    have hrest : ∀ h ∈ hashes, SupportedHash env h :=
      fun h hmem => hsupported h (List.mem_cons_of_mem _ hmem)
    unfold evaluate_conditions conditions_steps
    rw [hget]
    refine (evaluate_condition_answers hcondition hgood hbefore).bind fun _ c hc => takes_state ?_
    obtain ⟨hgood, b, exposures, hmeaning, hbool, hexposures⟩ := hc
    refine (ih hrest (all && c.result.bool_value) hgood hexposures).weaken ?_ fun _ _ h => h
    rintro _ c' ⟨hgood', b', exposures', hmeaning', hbool', hexposures'⟩
    refine ⟨hgood', b', exposures ++ exposures', ?_, hbool', by
      rw [hexposures', List.append_assoc]⟩
    filter_upwards [hmeaning, hmeaning'] with depth hfirst hrest
    obtain ⟨rest, hconditions, hpair⟩ := Option.map_eq_some_iff.mp hrest
    obtain ⟨hb', hexp'⟩ := Prod.mk.inj hpair
    unfold reference_conditions
    simp only [hget, hfirst, hconditions, Option.bind_eq_bind, Option.bind_some,
      Option.pure_def, Option.map_some]
    rw [← hb', ← hexp', hbool, Bool.and_assoc]

end Conditions

/-! ## The rules of a spec -/

section Rules

variable {env : EvaluatorEnv} {groups : String → Option String} {level : Nat} {rec : Recur}
  {ctx : EvaluatorContext} {before : List SecondaryExposure}

theorem Good.finalize (h : Good env groups level ctx) (spec : Spec)
    (rule : Option Rule) : Good env groups (level - 1) (ctx.finalize_evaluation spec rule) where
  count := by rw [finalize_nested_count, h.count]
  supported := by rw [finalize_unsupported, h.supported]
  coherent := by rw [finalize_memo]; exact h.coherent

theorem Holds.finalize {v : Verdict} (h : Holds before v ctx) (spec : Spec) (rule : Option Rule) :
    Holds before v (ctx.finalize_evaluation spec rule) := by
  unfold EvaluatorContext.finalize_evaluation
  dsimp only
  repeat' split
  all_goals exact ⟨h.bool_value, h.json_value, h.rule_id, h.exposures⟩

theorem apply_default_holds {spec : Spec} (hgood : Good env groups level ctx)
    (hbefore : ctx.result.secondary_exposures = before) :
    Good env groups (level - 1) (apply_default spec ctx) ∧
      Holds before (default_verdict spec) (apply_default spec ctx) := by
  unfold apply_default
  refine ⟨Good.finalize ?_ spec none, Holds.finalize ?_ spec none⟩
  · exact ⟨hgood.count, hgood.supported, hgood.coherent⟩
  · exact ⟨rfl, rfl, rfl, by simpa [default_verdict] using hbefore⟩

theorem apply_rule_holds {spec : Spec} {rule : Rule} (hgood : Good env groups level ctx)
    (hbefore : ctx.result.secondary_exposures = before) :
    Good env groups (level - 1)
      (apply_rule spec rule (evaluate_pass_percentage env rule spec.salt) ctx) ∧
    Holds before (rule_verdict env spec rule)
      (apply_rule spec rule (evaluate_pass_percentage env rule spec.salt) ctx) := by
  unfold apply_rule rule_verdict
  refine ⟨Good.finalize ?_ spec (some rule), Holds.finalize ?_ spec (some rule)⟩
  · exact ⟨hgood.count, hgood.supported, hgood.coherent⟩
  · cases evaluate_pass_percentage env rule spec.salt with
    | true => exact ⟨rfl, rfl, rfl, by simpa using hbefore⟩
    | false => exact ⟨rfl, rfl, rfl, by simpa using hbefore⟩

theorem evaluate_config_delegate_none {rule : Rule} (h : delegate_of env rule = none) :
    evaluate_config_delegate env rec rule = pure false := by
  unfold delegate_of at h
  unfold evaluate_config_delegate
  cases hdelegate : rule.config_delegate with
  | none => rfl
  | some delegate =>
    rw [hdelegate] at h
    cases hget : env.specs_data.dynamic_configs.get delegate with
    | none => simp only [hget]
    | some spec => simp [Option.filter, hget] at h

theorem evaluate_config_delegate_computes {rule : Rule} {delegate : InternedString}
    (hdelegate : delegate_of env rule = some delegate) (hgood : Good env groups level ctx)
    (hbefore : ctx.result.secondary_exposures = before) :
    Gives env groups rec ctx (evaluate_config_delegate env rec rule) (delegate_steps env rule ctx)
      fun delegated c => delegated = true ∧ Good env groups level c ∧
        ∃ v, Yields env groups (.Experiment, delegate) v ∧ Holds before v c := by
  obtain ⟨hname, delegate_spec, hget⟩ := delegate_of_eq_some hdelegate
  unfold evaluate_config_delegate delegate_steps
  simp only [hname, hget]
  have hstart : Good env groups level { ctx with
      result.undelegated_secondary_exposures := some ctx.result.secondary_exposures } :=
    ⟨hgood.count, hgood.supported, hgood.coherent⟩
  refine takes_after_update (takes_cons trivial fun _ =>
    takes_after (prep_good hstart hbefore) fun _ prepped hprepped => ?_)
  obtain ⟨hprep, hset_aside, hfilter⟩ := hprepped
  refine (nested_call_gives (b := (.Experiment, delegate)) hprep hfilter).bind_quiet
    fun recognition c hc => ?_
  obtain ⟨rfl, hgood, v, hyields, hholds⟩ := hc
  rw [hset_aside] at hholds
  exact ⟨rfl, ⟨hgood.count, hgood.supported, hgood.coherent⟩, v, hyields,
    ⟨hholds.bool_value, hholds.json_value, hholds.rule_id, hholds.exposures⟩⟩

theorem evaluate_rules_computes (spec : Spec) (rules : List Rule)
    (hgood : Good env groups level ctx) (hbefore : ctx.result.secondary_exposures = before) :
    Gives env groups rec ctx (evaluate_rules env rec spec false rules)
      (rules_steps env rec false rules ctx) fun recognition c =>
        recognition = .Recognized ∧ Good env groups (level - 1) c ∧ ∃ v,
          (∀ᶠ depth in atTop, reference_rules env groups
            (fun name => reference env groups depth (.Gate, name))
            (fun name => reference env groups depth (.Experiment, name)) spec rules = some v) ∧
          Holds before v c := by
  induction rules generalizing ctx before with
  | nil =>
    obtain ⟨hgood', hholds⟩ := @apply_default_holds env groups _ ctx _ spec hgood hbefore
    exact takes_update_pure ⟨rfl, hgood', _, .of_forall fun _ => rfl, hholds⟩
  | cons rule rules ih =>
    unfold evaluate_rules rules_steps
    simp only [Bool.false_and, Bool.false_eq_true, ↓reduceIte]
    refine takes_state (takes_cons trivial fun hallowed => ?_)
    refine (evaluate_conditions_answers hallowed true hgood hbefore).bind fun _ asked hasked =>
      takes_state ?_
    obtain ⟨hgood, passes, exposures, hmeaning, hbool, hexposures⟩ := hasked
    simp only [Bool.true_and, Option.map_id'] at hmeaning
    have hunmarked : ¬ asked.result.unsupported = true := by
      rw [hgood.supported]
      decide
    rw [if_neg hunmarked, if_neg hunmarked, hbool]
    cases passes with
    | false =>
      refine (ih hgood hexposures).weaken ?_ fun _ _ h => h
      rintro recognition c ⟨hrecognition, hgood', v, hv, hholds⟩
      refine ⟨hrecognition, hgood', { v with exposures := exposures ++ v.exposures }, ?_, ?_⟩
      · filter_upwards [hmeaning, hv] with depth hrule hrest
        exact reference_rules_cons hrule hrest
      · exact ⟨hholds.bool_value, hholds.json_value, hholds.rule_id, by
          rw [hholds.exposures, List.append_assoc]⟩
    | true =>
      simp only [Bool.not_true, Bool.false_eq_true, ↓reduceIte]
      cases hdelegate : delegate_of env rule with
      | none =>
        obtain ⟨hgood', hholds⟩ := @apply_rule_holds env groups _ _ _ spec rule hgood hexposures
        rw [evaluate_config_delegate_none hdelegate]
        refine fun _ => ⟨fun _ _ => trivial, rfl, hgood', { rule_verdict env spec rule with
          exposures := exposures ++ (rule_verdict env spec rule).exposures }, ?_, ?_⟩
        · filter_upwards [hmeaning] with depth hrule
          exact reference_rules_cons hrule (by unfold decision; rw [hdelegate]; rfl)
        · exact ⟨hholds.bool_value, hholds.json_value, hholds.rule_id, by
            rw [hholds.exposures, List.append_assoc]⟩
      | some delegate =>
        refine (evaluate_config_delegate_computes hdelegate hgood hexposures).bind_quiet
          fun delegated c hc => ?_
        obtain ⟨rfl, hgood', v, hyields, hholds⟩ := hc
        refine ⟨rfl, hgood'.finalize spec none, { v with exposures := exposures ++ v.exposures },
          ?_, ?_⟩
        · filter_upwards [hmeaning, hyields] with depth hrule hv
          exact reference_rules_cons hrule (by unfold decision; rw [hdelegate]; exact hv)
        · have hfinal := hholds.finalize spec none
          exact ⟨hfinal.bool_value, hfinal.json_value, hfinal.rule_id, by
            rw [hfinal.exposures, List.append_assoc]⟩

/-- No layer that merges its rules. -/
def OldLayer (env : EvaluatorEnv) (node : Node) : Prop :=
  ∀ spec, spec_of env node = some spec →
    ¬ (spec.use_new_layer_eval = some true ∧ node.1 = .Layer)

/-- One whole call computes the verdict of its node. -/
theorem evaluate_with_computes {a : Call} (hrules : ¬ LeavesEarly env a.node)
    (hlayer : OldLayer env a.node)
    (hsteps : ∀ step ∈ steps_with env rec a.node.2 a.node.1 a.ctx, step.Computes env groups rec) :
    a.Computes env groups (evaluate_with env rec a.node.2 a.node.1 a.ctx) := by
  intro hgood hfilter
  obtain ⟨spec, hspec⟩ : ∃ spec, spec_of env a.node = some spec := by
    by_contra hnone
    exact hrules (.inl (Option.eq_none_iff_forall_ne_some.mpr fun spec h => hnone ⟨spec, h⟩))
  have hspec_steps : ∀ step ∈ spec_steps env rec false a.node.2 a.node.1 (some spec) a.ctx,
      step.Computes env groups rec := by
    intro step hstep
    rw [← hspec, ← hfilter] at hstep
    exact hsteps step (mem_steps_with hrules hstep)
  rw [evaluate_with_rules rec hrules, state_bind, hfilter, hspec]
  unfold evaluate_spec
  unfold spec_steps at hspec_steps
  simp only [update_bind]
  dsimp only at hspec_steps
  rw [if_neg (hlayer spec hspec)] at hspec_steps ⊢
  simp only [state_bind, Bool.false_and, Bool.false_eq_true, ↓reduceIte] at hspec_steps ⊢
  have hbegin : Good env groups a.ctx.nested_count (begin_spec a.node.2 spec a.ctx) :=
    ⟨rfl, hgood.supported, hgood.coherent⟩
  refine (evaluate_rules_computes spec spec.rules hbegin rfl hspec_steps).2.mono ?_ fun _ _ h => h
  rintro recognition c ⟨hrecognition, hgood', v, hv, hholds⟩
  refine ⟨hrecognition, hgood', v, ?_, hholds⟩
  obtain ⟨depth, hdepth⟩ := eventually_atTop.mp hv
  refine eventually_atTop.mpr ⟨depth + 1, fun d hd => ?_⟩
  obtain ⟨e, rfl⟩ : ∃ e, d = e + 1 := ⟨d - 1, by omega⟩
  unfold reference
  rw [hspec]
  exact hdepth e (by omega)

end Rules

/-! ## A whole evaluation -/

/-- The experiments that a call asks for their groups have the groups that `groups` names. -/
def Call.FindsGroups (env : EvaluatorEnv) (groups : String → Option String) (a : Call) : Prop :=
  ∀ depth b ctx, .groups b ctx ∈ a.steps env depth →
    (evaluate env depth b.2 b.1 ctx).Meets (fun _ c => c.result.group_name = groups b.2)
      (fun _ _ => groups b.2 = none) True

/-- A call that settles computes the verdict of its node. -/
theorem evaluate_computes {env : EvaluatorEnv} {groups : String → Option String} (depth : Nat)
    {a : Call} (h : a.Settles env) (hlayer : OldLayer env a.node)
    (hgroups : ∀ b, ReflTransGen (Call.Nests env) a b → b.FindsGroups env groups) :
    a.Computes env groups (a.run env depth) := by
  induction depth generalizing a with
  | zero => exact fun _ _ => trivial
  | succ depth ih =>
    refine evaluate_with_computes (h a .refl).rules hlayer fun step hstep => ?_
    cases step with
    | asks rule ctx => exact (h a .refl).supported rule ctx ⟨depth, hstep⟩
    | tries rule => trivial
    | checks ctx => trivial
    | nests node ctx =>
      have hnests : a.Nests env ⟨node, ctx⟩ := ⟨depth, hstep⟩
      have hty := Call.nests_no_layer (Call.step_fits hstep).1
      exact ih (h.nested hnests) (fun _ _ hnew => hty hnew.2)
        fun b hb => hgroups b (.head hnests hb)
    | groups node ctx => exact hgroups a .refl depth node ctx hstep
    | maps node ctx => trivial

/-- Specs with nothing but gates, delegates and supported conditions, and with no
path of references as long as the nesting limit. -/
structure Simple (env : EvaluatorEnv) : Prop where
  no_overrides : env.specs_data.overrides = none
  no_adapter : env.override_adapter = none
  no_bandits : env.specs_data.cmab_configs = none
  no_groups : ∀ hash condition, env.specs_data.condition_map.get hash = some condition →
    type_of condition ≠ .ExperimentGroup
  supported : ∀ node spec, spec_of env node = some spec → ∀ rule ∈ spec.rules,
    ∀ hash ∈ rule.conditions, SupportedHash env hash
  gates : ∀ node spec, spec_of env node = some spec → ∀ rule ∈ spec.rules,
    ∀ gate, GateCondition env rule.conditions gate →
      ∃ gate_spec, env.specs_data.feature_gates.get gate = some gate_spec
  delegates : ∀ node spec, spec_of env node = some spec → ∀ rule ∈ spec.rules,
    ∀ delegate, rule.config_delegate = some delegate →
      ∃ delegate_spec, env.specs_data.dynamic_configs.get delegate = some delegate_spec
  old_layers : ∀ node spec, spec_of env node = some spec → spec.use_new_layer_eval = none
  shallow : ∀ n a b, graph.Path (Nests env) n a b → n < MAX_RECURSIVE_DEPTH

section Simple

variable {env : EvaluatorEnv} (h : Simple env)

include h

theorem Simple.not_mapped (node : Node) : ¬ Mapped env node := by
  rintro ⟨mapping, rule, overrides, _, _, hoverrides, _⟩
  rw [h.no_overrides] at hoverrides
  cases hoverrides

theorem Simple.rule_of {node : Node} {rule : Rule} (hrule : RuleOf env node rule) :
    ∃ spec, spec_of env node = some spec ∧ rule ∈ spec.rules := by
  rcases hrule with hown | ⟨mapping, hmapping⟩
  · exact hown
  · exact absurd ⟨mapping, rule, hmapping⟩ (h.not_mapped node)

theorem Simple.not_bandit (node : Node) (cmab : CMABConfig) : ¬ BanditOf env node cmab := by
  rintro ⟨_, cmabs, hcmabs, _⟩
  rw [h.no_bandits] at hcmabs
  cases hcmabs

theorem Simple.untouched (node : Node) : Untouched env node := by
  funext ctx
  unfold try_apply_override
  rw [h.no_adapter]
  rfl

theorem Simple.rules_decide {node : Node} (hspec : ∃ spec, spec_of env node = some spec) :
    ¬ LeavesEarly env node := by
  obtain ⟨spec, hspec⟩ := hspec
  rintro (hnone | htouched | hmapped | ⟨cmab, hbandit⟩)
  · rw [hspec] at hnone
    cases hnone
  · exact htouched (h.untouched node)
  · exact h.not_mapped node hmapped
  · exact h.not_bandit node cmab hbandit

/-- What a node nests is in the specs. -/
theorem Simple.nests_present {a b : Node} (hnests : Nests env a b) :
    ∃ spec, spec_of env b = some spec := by
  cases hnests with
  | gate hrule hgate =>
    obtain ⟨spec, hspec, hmem⟩ := h.rule_of hrule
    exact h.gates a spec hspec _ hmem _ hgate
  | delegate hspec hmem hdelegate hget => exact ⟨_, hget⟩
  | targeting hbandit _ => exact absurd hbandit (h.not_bandit a _)

/-- What a node refers to, it nests. -/
theorem Simple.refers_nests {a b : Node} (hrefers : Refers env a b) : Nests env a b := by
  rcases hrefers with hnests | ⟨_, rule, _, hash, _, condition, _, hget, hty, _⟩ |
    ⟨_, mapping, rule, hrule, _⟩
  · exact hnests
  · exact absurd hty (h.no_groups hash condition hget)
  · exact absurd ⟨mapping, rule, hrule⟩ (h.not_mapped a)

theorem Simple.unmarked_frame {rec : Recur} {node : Node}
    (hnest : ∀ (b : Node) (ctx : EvaluatorContext), Inv.unmarked.holds ctx →
      (rec b.2 b.1 ctx).Meets (fun _ => Inv.unmarked.holds) (fun _ _ => True) True) :
    Frame env rec node (fun _ => True) .unmarked .unmarked .any .unmarked True where
  prep _ _ hu _ := hu
  too_deep _ _ _ _ _ _ := trivial
  nest b ctx _ hctx _ := hnest b ctx hctx
  group b ctx _ _ _ := triple_true (P := fun _ => True) _ ctx trivial
  asks spec hspec rule hrule _ _ hash hmem hunsupported :=
    absurd (h.supported node spec hspec rule hrule hash hmem) hunsupported
  tries mapping rule hrule := absurd ⟨mapping, rule, hrule⟩ (h.not_mapped node)
  override htouched := absurd (h.untouched node) htouched
  reset hmapped := absurd hmapped (h.not_mapped node)
  mapping := by
    rintro b ctx ⟨-, mapping, rule, hrule, -⟩
    exact absurd ⟨mapping, rule, hrule⟩ (h.not_mapped node)
  caught cmab hbandit := absurd hbandit (h.not_bandit node cmab)
  finalize _ _ hu := hu
  marked _ hu := hu
  early _ _ _ hu := hu

theorem Simple.stays_unmarked (depth : Nat) (node : Node) :
    Moves .unmarked .unmarked .any True (evaluate env depth node.2 node.1) := by
  induction depth generalizing node with
  | zero => exact fun _ _ => trivial
  | succ depth ih => exact (h.unmarked_frame fun b => ih b).moves

/-- In simple specs, a call for a spec that they hold settles. -/
theorem Simple.settles {a : Call} (hspec : ∃ spec, spec_of env a.node = some spec)
    (hunmarked : a.ctx.result.unsupported = false) : a.Settles env := by
  have hreached : ∀ b, ReflTransGen (Call.Nests env) a b →
      (∃ spec, spec_of env b.node = some spec) ∧ b.ctx.result.unsupported = false := by
    intro b hb
    induction hb with
    | refl => exact ⟨hspec, hunmarked⟩
    | @tail b c _ hbc ih =>
      obtain ⟨depth, hstep⟩ := hbc
      have frame : Frame env (evaluate env depth) b.node (fun _ => True) .unmarked .unmarked .any
        .unmarked True := h.unmarked_frame fun b => h.stays_unmarked depth b
      have hfits := (evaluate_with_walks frame b.ctx ih.2 fun _ _ => trivial).1 _ hstep
      exact ⟨h.nests_present hfits.1, hfits.2⟩
  intro b hb
  obtain ⟨hspec, hunmarked⟩ := hreached b hb
  refine ⟨h.rules_decide hspec, hunmarked, ?_⟩
  rintro rule ctx ⟨depth, hstep⟩
  obtain ⟨spec, hspec, hrule⟩ := Call.step_fits hstep
  exact h.supported b.node spec hspec rule hrule

/-- The chains of calls are shorter than the limit. -/
theorem Simple.short_chains {n : Nat} {a b : Call} (hpath : graph.Path (Call.Makes env) n a b) :
    n < MAX_RECURSIVE_DEPTH :=
  h.shallow n a.node b.node (hpath.map Call.node fun _ _ hmakes => h.refers_nests hmakes.refers)

end Simple

/-- The evaluator gives every simple spec its verdict: from a fresh context the
value, the rule id and the exposures are those of the reference, at every depth
from the nesting limit on. -/
theorem evaluator_gives_the_verdict (env : EvaluatorEnv) (h : Simple env)
    (groups : String → Option String) (spec_name : String) (spec_type : SpecType) (spec : Spec)
    (hspec : spec_of env (spec_type, spec_name) = some spec) (depth : Nat)
    (hdepth : MAX_RECURSIVE_DEPTH ≤ depth) :
    ∃ verdict ctx,
      (∀ d ≥ MAX_RECURSIVE_DEPTH, reference env groups d (spec_type, spec_name) = some verdict) ∧
      evaluate env depth spec_name spec_type {} = .ok .Recognized ctx ∧
      ctx.result.bool_value = verdict.bool_value ∧
      ctx.result.json_value = some verdict.json_value ∧
      ctx.result.rule_id = some verdict.rule_id ∧
      ctx.result.secondary_exposures = verdict.exposures := by
  have hmax : 0 < MAX_RECURSIVE_DEPTH := by decide
  let height := graph.height (Nests env) (MAX_RECURSIVE_DEPTH - 1)
  have hlower : ∀ a b, Nests env a b → height b < height a := by
    intro a b hab
    apply graph.height_lt_of_edge _ hab
    intro n c hpath
    have hshort := h.shallow n a c hpath
    omega
  have hbound : height (spec_type, spec_name) < MAX_RECURSIVE_DEPTH := by
    have hle : height (spec_type, spec_name) ≤ MAX_RECURSIVE_DEPTH - 1 := graph.height_le _ _
    omega
  let root : Call := ⟨(spec_type, spec_name), {}⟩
  have hsettles : root.Settles env := h.settles ⟨spec, hspec⟩ rfl
  have hnested : ∀ b, root.Nests env b → b.Settles env := fun b hb => hsettles.nested hb
  have hnot_deep : root.run env depth ≠ .deep := by
    intro hdeep
    obtain ⟨b, hpath⟩ := Call.deep_chain depth hdeep
    have hshort := h.short_chains hpath
    omega
  have hfails : ∀ e ctx, root.run env depth ≠ .err e ctx := by
    refine shallow_root_does_not_fail hnested (fun _ => rfl) (fun n a hpath => .inl ?_) depth
    have hshort := h.short_chains (hpath.mono fun _ _ hnests => Or.inl hnests)
    exact (Nat.zero_add n).symm ▸ hshort
  have hgroups : ∀ b, ReflTransGen (Call.Nests env) root b → b.FindsGroups env groups := by
    intro b _ depth c ctx hstep
    obtain ⟨⟨_, rule, _, hash, _, condition, _, hget, hty, _⟩, -⟩ := Call.step_fits hstep
    exact absurd hty (h.no_groups hash condition hget)
  have hlayer : OldLayer env root.node := by
    rintro spec hspec ⟨hnew, -⟩
    rw [h.old_layers _ spec hspec] at hnew
    cases hnew
  have hrun := evaluate_computes depth hsettles hlayer hgroups
    ⟨rfl, rfl, fun _ _ hentry => absurd hentry (by simp [root])⟩ rfl
  cases hout : root.run env depth with
  | ok recognition ctx =>
    rw [hout] at hrun
    obtain ⟨rfl, _, verdict, hyields, hholds⟩ := hrun
    obtain ⟨large, hlarge⟩ := eventually_atTop.mp hyields
    refine ⟨verdict, ctx, ?_, hout, hholds.bool_value, hholds.json_value, hholds.rule_id,
      hholds.exposures⟩
    intro d hd
    rw [reference_past_height hlower (by omega) (show _ < max large d by omega)]
    exact hlarge _ (Nat.le_max_left ..)
  | err e ctx => exact absurd hout (hfails e ctx)
  | deep => exact absurd hout hnot_deep

/-- Only the layer of the layered specs has conditions or a delegate. -/
theorem layered_rule {node : Node} {spec : Spec} {rule : Rule}
    (hspec : spec_of (.plain .layered) node = some spec) (hrule : rule ∈ spec.rules) :
    (rule.conditions = [] ∧ rule.config_delegate = none) ∨
      (node.1 = .Layer ∧ rule.conditions = ["passes_gate"] ∧
        rule.config_delegate = some "experiment") := by
  obtain ⟨ty, name⟩ := node
  cases ty with
  | ParameterStore => cases hspec
  | Gate =>
    obtain ⟨-, rfl⟩ := Prod.mk.inj (List.mem_singleton.mp (HashMap.mem_of_get hspec))
    obtain rfl := List.mem_singleton.mp hrule
    exact .inl ⟨rfl, rfl⟩
  | Layer =>
    obtain ⟨-, rfl⟩ := Prod.mk.inj (List.mem_singleton.mp (HashMap.mem_of_get hspec))
    obtain rfl := List.mem_singleton.mp hrule
    exact .inr ⟨rfl, rfl, rfl⟩
  | _ =>
    obtain ⟨-, rfl⟩ := Prod.mk.inj (List.mem_singleton.mp (HashMap.mem_of_get hspec))
    exact absurd hrule List.not_mem_nil

theorem layered_gate {hashes : List InternedString} {gate : InternedString}
    (hgate : GateCondition (.plain .layered) hashes gate) : gate = "gate" := by
  obtain ⟨hash, _, condition, hget, _, rfl⟩ := hgate
  obtain ⟨-, rfl⟩ := Prod.mk.inj (List.mem_singleton.mp (HashMap.mem_of_get hget))
  rfl

theorem layered_not_mapped (node : Node) : ¬ Mapped (.plain .layered) node := by
  rintro ⟨_, _, _, _, _, hoverrides, _⟩
  cases hoverrides

/-- Only the layer nests other specs. -/
theorem layered_nests {a b : Node} (h : Nests (.plain .layered) a b) :
    a.1 = .Layer ∧ b.1 ≠ .Layer := by
  cases h with
  | gate hrule hgate =>
    rcases hrule with ⟨spec, hspec, hmem⟩ | ⟨mapping, hmapping⟩
    · rcases layered_rule hspec hmem with ⟨hnone, _⟩ | ⟨hlayer, _⟩
      · obtain ⟨hash, hhash, _⟩ := hgate
        rw [hnone] at hhash
        exact absurd hhash List.not_mem_nil
      · exact ⟨hlayer, SpecType.noConfusion⟩
    · exact absurd ⟨mapping, _, hmapping⟩ (layered_not_mapped a)
  | delegate hspec hmem hdelegate _ =>
    rcases layered_rule hspec hmem with ⟨_, hnone⟩ | ⟨hlayer, _⟩
    · rw [hnone] at hdelegate
      cases hdelegate
    · exact ⟨hlayer, SpecType.noConfusion⟩
  | targeting hbandit _ =>
    obtain ⟨_, cmabs, hcmabs, _⟩ := hbandit
    cases hcmabs

theorem layered_path {r : Node → Node → Prop} (hr : ∀ a b, r a b → a.1 = .Layer ∧ b.1 ≠ .Layer)
    {n : Nat} {a b : Node} (h : graph.Path r n a b) : n ≤ 1 := by
  cases h with
  | nil => omega
  | cons hac hcb =>
    cases hcb with
    | nil => omega
    | cons hcd _ => exact absurd (hr _ _ hcd).1 (hr _ _ hac).2

theorem layered_simple : Simple (.plain .layered) := by
  refine ⟨rfl, rfl, rfl, ?_, ?_, ?_, ?_, ?_, ?_⟩
  · intro hash condition hget
    obtain ⟨-, rfl⟩ := Prod.mk.inj (List.mem_singleton.mp (HashMap.mem_of_get hget))
    decide
  · intro node spec hspec rule hrule hash hhash
    rcases layered_rule hspec hrule with ⟨hnone, _⟩ | ⟨_, hconditions, _⟩
    · rw [hnone] at hhash
      exact absurd hhash List.not_mem_nil
    · rw [hconditions] at hhash
      obtain rfl := List.mem_singleton.mp hhash
      exact ⟨_, rfl, rfl⟩
  · intro node spec hspec rule hrule gate hgate
    rw [layered_gate hgate]
    exact ⟨_, rfl⟩
  · intro node spec hspec rule hrule delegate hdelegate
    rcases layered_rule hspec hrule with ⟨_, hnone⟩ | ⟨_, _, hsome⟩
    · rw [hnone] at hdelegate
      cases hdelegate
    · rw [hsome] at hdelegate
      cases hdelegate
      exact ⟨_, rfl⟩
  · rintro ⟨ty, name⟩ spec hspec
    cases ty with
    | ParameterStore => cases hspec
    | _ =>
      obtain ⟨-, rfl⟩ := Prod.mk.inj (List.mem_singleton.mp (HashMap.mem_of_get hspec))
      rfl
  · intro n a b hpath
    exact lt_of_le_of_lt (layered_path (fun _ _ => layered_nests) hpath) (by decide)

theorem evaluator_gives_the_layer_its_verdict :
    ∃ verdict ctx,
      (∀ d ≥ MAX_RECURSIVE_DEPTH,
        reference (.plain .layered) (fun _ => none) d (.Layer, "layer") = some verdict) ∧
      evaluate (.plain .layered) MAX_RECURSIVE_DEPTH "layer" .Layer {} = .ok .Recognized ctx ∧
      ctx.result.bool_value = verdict.bool_value ∧
      ctx.result.json_value = some verdict.json_value ∧
      ctx.result.rule_id = some verdict.rule_id ∧
      ctx.result.secondary_exposures = verdict.exposures :=
  evaluator_gives_the_verdict (.plain .layered) layered_simple (fun _ => none) "layer" .Layer _ rfl
    MAX_RECURSIVE_DEPTH le_rfl

end statsig_rust.evaluation
