-- Whose group a result has. A rule that decides sets the group name and the experiment flag of
-- the shared result, for nested gates too. A spec that ends with its default sets neither, and
-- keeps the ones of the gate that a rule decided last.
import StatsigCore.Evaluation.Course
import StatsigCore.Evaluation.Reference

open program

namespace statsig_rust.evaluation

/-! ## The decision -/

/-- The end of the spec or of its delegate. -/
def outcome_of (events : List Event) : Option Event :=
  events.reverse.find? fun
    | .accepts _ | .delegates => false
    | _ => true

/-- The rule that decided the outcome. -/
def decider (events : List Event) : Option Rule :=
  match outcome_of events with
  | some (.decides _ rule) => some rule
  | _ => none

/-- The rule that decided last, the outcome or a nested gate. -/
def last_decided (events : List Event) : Option Rule :=
  events.reverse.findSome? fun
    | .decides _ rule => some rule
    | _ => none

theorem outcome_of_append (events events' : List Event) :
    outcome_of (events ++ events') = (outcome_of events').or (outcome_of events) := by
  unfold outcome_of
  rw [List.reverse_append, List.find?_append]

theorem outcome_of_snoc (events : List Event) {event : Event}
    (h : outcome_of [event] = some event) :
    outcome_of (events ++ [event]) = some event := by
  rw [outcome_of_append, h]
  rfl

theorem outcome_of_accepts (events : List Event) (rule : Rule) :
    outcome_of (events ++ [.accepts rule]) = outcome_of events := outcome_of_append _ _

theorem outcome_of_delegates (events : List Event) :
    outcome_of (events ++ [.delegates]) = outcome_of events := outcome_of_append _ _

/-- The group of a rule that decides the outcome stays. -/
theorem after_outcome {events : List Event} {spec : Spec} {rule : Rule} (m : Marks)
    (h : outcome_of events = some (.decides spec rule)) :
    (m.after events).group_name = rule.group_name ∧
      (m.after events).is_experiment_group = rule.is_experiment_group.getD false := by
  induction events using List.reverseRecOn with
  | nil => cases h
  | append_singleton events event ih =>
    rw [Marks.after_append]
    cases event with
    | accepts accepted =>
      rw [outcome_of_accepts] at h
      exact ih h
    | delegates =>
      rw [outcome_of_delegates] at h
      exact ih h
    | decides decided =>
      rw [outcome_of_snoc _ rfl] at h
      cases h
      exact ⟨rfl, rfl⟩
    | _ =>
      rw [outcome_of_snoc _ rfl] at h
      cases h

/-! ## Runs without bandits and merged layers -/

/-- The group after plain events is the one of the rule that decided last. -/
theorem after_plain {events : List Event} (m : Marks) (h : ∀ event ∈ events, event.is_plain) :
    (m.after events).group_name = (last_decided events).elim m.group_name (·.group_name) ∧
      (m.after events).is_experiment_group =
        (last_decided events).elim m.is_experiment_group (·.is_experiment_group.getD false) := by
  induction events using List.reverseRecOn with
  | nil => exact ⟨rfl, rfl⟩
  | append_singleton events event ih =>
    have hlast := h event (by simp)
    obtain ⟨hgroup, hflag⟩ := ih fun event hevent => h event (by simp [hevent])
    have hlast_of : last_decided (events ++ [event]) =
        (last_decided [event]).or (last_decided events) := by
      unfold last_decided
      rw [List.reverse_append, List.findSome?_append]
    rw [Marks.after_append, Marks.after_cons, Marks.after_nil, hlast_of]
    cases event with
    | decides spec rule => exact ⟨rfl, rfl⟩
    | begins name spec => exact ⟨hgroup, hflag⟩
    | ends => exact ⟨hgroup, hflag⟩
    | accepts rule => exact ⟨hgroup, hflag⟩
    | delegates => exact ⟨hgroup, hflag⟩
    | asks gate rule_id fresh =>
      unfold Marks.apply
      dsimp only
      split <;> exact ⟨hgroup, hflag⟩
    | _ => cases hlast

/-- Without bandits, every event of a call for a spec is plain, unless the spec merges layers. -/
theorem evaluate_course_plain {env : EvaluatorEnv} (hadapter : env.override_adapter = none)
    (hmapped : env.specs_data.overrides = none) (hcmabs : env.specs_data.cmab_configs = none)
    (depth : Nat) {name : String} {ty : SpecType} (hlayer : ¬ Merging env (ty, name))
    (ctx : EvaluatorContext) : ∀ event ∈ evaluate_course env depth name ty ctx, event.is_plain := by
  have hcovers : Covers env (fun node => ¬ Merging env node) fun event => event.is_plain = true :=
    { plain := fun _ h => h
      gates := fun _ h => by cases h.1
      experiments := fun _ h => by cases h.1
      merges := fun _ h hmerging => absurd hmerging h
      enters := fun h => absurd hcmabs h
      assigns := fun h => absurd hcmabs h }
  exact evaluate_course_covered hcovers hadapter hmapped depth hlayer ctx

/-- The course of the spec alone, where neither an override nor a mapping nor a bandit applies. -/
theorem course_with_spec {env : EvaluatorEnv} {rec : Recur}
    {course : String → SpecType → EvaluatorContext → List Event}
    (hadapter : env.override_adapter = none) (hmapped : env.specs_data.overrides = none)
    (hcmabs : env.specs_data.cmab_configs = none) {name : String} {ty : SpecType}
    (hty : ty ≠ .ParameterStore) (ctx : EvaluatorContext) :
    course_with env rec course name ty ctx =
      spec_course env rec course (filter_active ctx) name ty (spec_of env (ty, name)) ctx := by
  have hskips : evaluate_cmab env rec name ty = pure false :=
    @evaluate_cmab_skips env rec (ty, name) fun cmab hcmab => by
      obtain ⟨-, cmabs, hsome, -⟩ := hcmab
      rw [hcmabs] at hsome
      cases hsome
  have hcmab : cmab_course env rec course name ty ctx = [] := by
    unfold cmab_course
    rw [hcmabs]
    cases ty <;> rfl
  rw [course_with_unmapped hadapter hmapped hty, hcmab, hskips]
  cases filter_active ctx <;> rfl

/-! ## How a run concludes -/

/-- The rule may decide the outcome of the node: it is one of the node's rules, or of its
delegates'. -/
inductive DecidedBy (env : EvaluatorEnv) : Node → Rule → Prop where
  | own {node : Node} {spec : Spec} {rule : Rule} :
    spec_of env node = some spec → rule ∈ spec.rules → DecidedBy env node rule
  | delegated {node : Node} {spec : Spec} {allocation rule : Rule} {delegate : InternedString} :
    spec_of env node = some spec → allocation ∈ spec.rules →
    delegate_of env allocation = some delegate → DecidedBy env (.Experiment, delegate) rule →
    DecidedBy env node rule

/-- The outcome of a node that the specs have: its default, or a rule with its id. -/
inductive Concluded (env : EvaluatorEnv) (node : Node) (events : List Event)
    (ctx : EvaluatorContext) : Prop where
  | ends (houtcome : outcome_of events = some .ends)
  | decides {spec : Spec} {rule : Rule} (houtcome : outcome_of events = some (.decides spec rule))
    (hid : ctx.result.rule_id = some rule.id) (hrule : DecidedBy env node rule)

section Concluded

variable {env : EvaluatorEnv} {rec : Recur}
  {course : String → SpecType → EvaluatorContext → List Event} {node : Node}
  {events events' : List Event} {ctx ctx' : EvaluatorContext}

theorem Concluded.append (h : Concluded env node events' ctx) (events : List Event) :
    Concluded env node (events ++ events') ctx := by
  cases h with
  | ends houtcome => exact .ends (by rw [outcome_of_append, houtcome]; rfl)
  | decides houtcome hid hrule =>
    exact .decides (by rw [outcome_of_append, houtcome]; rfl) hid hrule

theorem Concluded.accepts (h : Concluded env node events ctx) (rule : Rule) :
    Concluded env node (events ++ [.accepts rule]) ctx := by
  cases h with
  | ends houtcome => exact .ends (by rw [outcome_of_accepts, houtcome])
  | decides houtcome hid hrule => exact .decides (by rw [outcome_of_accepts, houtcome]) hid hrule

/-- The delegate of a rule concludes for the spec. -/
theorem Concluded.delegate {spec : Spec} {allocation : Rule} {delegate : InternedString}
    (h : Concluded env (.Experiment, delegate) events ctx)
    (hspec : spec_of env node = some spec) (hmem : allocation ∈ spec.rules)
    (hdelegate : delegate_of env allocation = some delegate)
    (hid : ctx'.result.rule_id = ctx.result.rule_id) :
    Concluded env node (events ++ [.delegates]) ctx' := by
  cases h with
  | ends houtcome => exact .ends (by rw [outcome_of_delegates, houtcome])
  | decides houtcome hrule_id hrule =>
    exact .decides (by rw [outcome_of_delegates, houtcome]) (hid.trans hrule_id)
      (.delegated hspec hmem hdelegate hrule)

/-- Calls for the experiments of the specs conclude, when they end supported. -/
def CallsConclude (env : EvaluatorEnv) (rec : Recur)
    (course : String → SpecType → EvaluatorContext → List Event) : Prop :=
  ∀ name spec ctx recognition ctx', env.specs_data.dynamic_configs.get name = some spec →
    rec name .Experiment ctx = .ok recognition ctx' → ctx'.result.unsupported = false →
    Concluded env (.Experiment, name) (course name .Experiment ctx) ctx'

variable (hrec : CallsConclude env rec course)

include hrec

/-- A rule that delegates has a delegate, and the delegate concludes. -/
theorem delegate_concludes {rule : Rule}
    (hrun : evaluate_config_delegate env rec rule ctx = .ok true ctx')
    (hsupported : ctx'.result.unsupported = false) :
    ∃ delegate last, delegate_of env rule = some delegate ∧
      Concluded env (.Experiment, delegate) (delegate_course env rec course rule ctx) last ∧
      ctx'.result.rule_id = last.result.rule_id := by
  unfold evaluate_config_delegate at hrun
  unfold delegate_course
  cases hname : rule.config_delegate with
  | none =>
    simp only [hname] at hrun
    cases hrun
  | some delegate =>
    simp only [hname] at hrun
    cases hget : env.specs_data.dynamic_configs.get delegate with
    | none =>
      simp only [hget] at hrun
      cases hrun
    | some delegate_spec =>
      simp only [hget, update_bind] at hrun
      obtain ⟨⟨⟩, prepped, hprep, hrun⟩ := ok_of_bind hrun
      obtain ⟨recognition, last, hlast, hrun⟩ := ok_of_bind hrun
      by_cases hunknown : recognition = .Unrecognized
      · rw [if_pos hunknown] at hrun
        cases hrun
      · rw [if_neg hunknown, update_bind] at hrun
        obtain ⟨-, rfl⟩ := Outcome.ok.inj hrun
        refine ⟨delegate, last, delegate_of_present hname hget, ?_, rfl⟩
        simp only [hget, hprep, onward, hlast, if_neg hunknown]
        exact (hrec delegate delegate_spec prepped recognition last hget hlast hsupported).accepts
          rule

theorem rules_conclude {spec : Spec} (hspec : spec_of env node = some spec) {rules : List Rule}
    (hrules : ∀ rule ∈ rules, rule ∈ spec.rules) {filter_active : Bool}
    {recognition : Recognition}
    (hrun : evaluate_rules env rec spec filter_active rules ctx = .ok recognition ctx')
    (hsupported : ctx'.result.unsupported = false) :
    Concluded env node (rules_course env rec course spec filter_active rules ctx) ctx' := by
  induction rules generalizing ctx with
  | nil => exact .ends rfl
  | cons rule rules ih =>
    have hrest : ∀ rule ∈ rules, rule ∈ spec.rules :=
      fun rule hrule => hrules rule (List.mem_cons_of_mem _ hrule)
    unfold evaluate_rules at hrun
    unfold rules_course
    rw [state_bind] at hrun
    by_cases hfilter : (filter_active && !rule_matches_filter ctx rule) = true
    · rw [if_pos hfilter] at hrun ⊢
      exact ih hrest hrun
    rw [if_neg hfilter] at hrun ⊢
    obtain ⟨⟨⟩, asked, hasked, hrun⟩ := ok_of_bind hrun
    rw [state_bind] at hrun
    apply Concluded.append
    simp only [hasked, onward]
    by_cases hunsupported : asked.result.unsupported = true
    · rw [if_pos hunsupported] at hrun
      obtain ⟨-, rfl⟩ := Outcome.ok.inj hrun
      rw [hunsupported] at hsupported
      cases hsupported
    rw [if_neg hunsupported] at hrun ⊢
    by_cases hbool : (!asked.result.bool_value) = true
    · rw [if_pos hbool] at hrun ⊢
      exact ih hrest hrun
    rw [if_neg hbool] at hrun ⊢
    obtain ⟨delegated, inner, hinner, hrun⟩ := ok_of_bind hrun
    simp only [hinner]
    cases delegated with
    | true =>
      rw [if_pos rfl, update_bind] at hrun
      obtain ⟨-, rfl⟩ := Outcome.ok.inj hrun
      rw [finalize_unsupported] at hsupported
      obtain ⟨delegate, last, hdelegate, hlast, hid⟩ :=
        delegate_concludes hrec hinner hsupported
      refine hlast.delegate hspec (hrules rule (List.mem_cons_self ..)) hdelegate ?_
      exact (finalize_keeps inner spec none).2.2.2.1.trans hid
    | false =>
      rw [if_neg Bool.false_ne_true, update_bind] at hrun
      obtain ⟨-, rfl⟩ := Outcome.ok.inj hrun
      refine .decides (outcome_of_snoc _ rfl) ?_
        (.own hspec (hrules rule (List.mem_cons_self ..)))
      unfold apply_rule
      exact (finalize_keeps _ spec (some rule)).2.2.2.1

end Concluded

theorem evaluate_concludes {env : EvaluatorEnv} (hadapter : env.override_adapter = none)
    (hmapped : env.specs_data.overrides = none) (hcmabs : env.specs_data.cmab_configs = none)
    (depth : Nat) {name : String} {ty : SpecType} (hlayer : ¬ Merging env (ty, name)) {spec : Spec}
    (hspec : spec_of env (ty, name) = some spec) {ctx ctx' : EvaluatorContext}
    {recognition : Recognition} (hrun : evaluate env depth name ty ctx = .ok recognition ctx')
    (hsupported : ctx'.result.unsupported = false) :
    Concluded env (ty, name) (evaluate_course env depth name ty ctx) ctx' := by
  induction depth generalizing name ty spec ctx ctx' recognition with
  | zero => cases hrun
  | succ depth ih =>
    have hty : ty ≠ .ParameterStore := by
      rintro rfl
      cases hspec
    have hcalls : CallsConclude env (evaluate env depth) (evaluate_course env depth) := by
      intro name spec ctx recognition ctx' hget hrun hsupported
      have hlayer : ¬ Merging env (.Experiment, name) := fun hmerging => by cases hmerging.1
      exact ih hlayer (show spec_of env (.Experiment, name) = some spec from hget) hrun hsupported
    have hmapping : ¬ Mapped env (ty, name) := by
      rintro ⟨mapping, rule, overrides, -, -, hsome, -⟩
      rw [hmapped] at hsome
      cases hsome
    have huntouched : Untouched env (ty, name) := by
      unfold Untouched try_apply_override
      rw [hadapter]
      rfl
    have hbandit : ∀ cmab, ¬ BanditOf env (ty, name) cmab := by
      rintro cmab ⟨-, cmabs, hsome, -⟩
      rw [hcmabs] at hsome
      cases hsome
    rw [show evaluate env (depth + 1) name ty = _ from
      evaluate_with_spec (evaluate env depth) hty huntouched hmapping hbandit, state_bind] at hrun
    rw [show evaluate_course env (depth + 1) name ty ctx = _ from
      course_with_spec hadapter hmapped hcmabs hty ctx]
    unfold evaluate_spec at hrun
    unfold spec_course
    simp only [hspec] at hrun ⊢
    rw [update_bind] at hrun
    rw [← List.singleton_append]
    apply Concluded.append
    have hmerging : ¬ (spec.use_new_layer_eval = some true ∧ ty = .Layer) :=
      fun h => hlayer ⟨h.2, spec, hspec, h.1⟩
    rw [if_neg hmerging] at hrun ⊢
    rw [state_bind] at hrun
    split at hrun
    · rename_i hfilter
      rw [if_pos hfilter]
      exact .ends rfl
    · rename_i hfilter
      rw [if_neg hfilter]
      exact rules_conclude hcalls hspec (fun rule hrule => hrule) hrun hsupported

/-- A spec that is not there has no events. -/
theorem evaluate_course_absent {env : EvaluatorEnv} (hadapter : env.override_adapter = none)
    (hmapped : env.specs_data.overrides = none) (hcmabs : env.specs_data.cmab_configs = none)
    (depth : Nat) {name : String} {ty : SpecType} (hspec : spec_of env (ty, name) = none)
    (ctx : EvaluatorContext) : evaluate_course env depth name ty ctx = [] := by
  cases depth with
  | zero => rfl
  | succ depth =>
    by_cases hty : ty = .ParameterStore
    · exact if_pos hty
    · rw [show evaluate_course env (depth + 1) name ty ctx = _ from
        course_with_spec hadapter hmapped hcmabs hty ctx, hspec]
      rfl

/-! ## The group of the outcome -/

/-- The group and the experiment flag are the ones of the rule that decided the outcome, with the
id of that rule, and are unset when no rule did. -/
def Attributed (env : EvaluatorEnv) (node : Node) (events : List Event)
    (result : EvaluatorResult) : Prop :=
  match decider events with
  | some rule => DecidedBy env node rule ∧ result.rule_id = some rule.id ∧
      result.group_name = rule.group_name ∧
      result.is_experiment_group = rule.is_experiment_group.getD false
  | none => result.group_name = none ∧ result.is_experiment_group = false

/-- The rule gives a group name or an experiment flag. -/
def gives_group (rule : Rule) : Bool :=
  rule.group_name.isSome || rule.is_experiment_group.getD false

theorem decider_eq_some {events : List Event} {rule : Rule} (h : decider events = some rule) :
    ∃ spec, outcome_of events = some (.decides spec rule) := by
  unfold decider at h
  split at h
  · rename_i spec decided houtcome
    exact ⟨spec, by rw [houtcome, Option.some.inj h]⟩
  · cases h

/-- The group is attributed to the outcome just when a rule decided it, or when the rule that
decided last on the way gives no group. -/
theorem group_is_attributed_iff {env : EvaluatorEnv} (hadapter : env.override_adapter = none)
    (hmapped : env.specs_data.overrides = none) (hcmabs : env.specs_data.cmab_configs = none)
    {depth : Nat} {name : String} {ty : SpecType} (hlayer : ¬ Merging env (ty, name))
    {ctx ctx' : EvaluatorContext} {recognition : Recognition} (hfresh : ctx.result = {})
    (hrun : evaluate env depth name ty ctx = .ok recognition ctx')
    (hsupported : ctx'.result.unsupported = false) :
    Attributed env (ty, name) (evaluate_course env depth name ty ctx) ctx'.result ↔
      ((decider (evaluate_course env depth name ty ctx)).isSome ∨
        ∀ rule, last_decided (evaluate_course env depth name ty ctx) = some rule →
          gives_group rule = false) := by
  have hmarks := evaluate_documented env depth name ty ctx
  unfold Documents at hmarks
  rw [hrun, meets_ok] at hmarks
  have hplain := evaluate_course_plain hadapter hmapped hcmabs depth hlayer ctx
  have hconcluded := fun spec (hspec : spec_of env (ty, name) = some spec) =>
    evaluate_concludes hadapter hmapped hcmabs depth hlayer hspec hrun hsupported
  have habsent := fun hspec =>
    @evaluate_course_absent env hadapter hmapped hcmabs depth name ty hspec ctx
  generalize evaluate_course env depth name ty ctx = events at *
  have hgroup : ctx'.result.group_name = ((marks ctx).after events).group_name :=
    congrArg Marks.group_name hmarks
  have hflag : ctx'.result.is_experiment_group =
      ((marks ctx).after events).is_experiment_group := congrArg Marks.is_experiment_group hmarks
  unfold Attributed
  cases hdecider : decider events with
  | some rule =>
    obtain ⟨_, houtcome⟩ := decider_eq_some hdecider
    refine iff_of_true ?_ (.inl rfl)
    obtain ⟨spec, hspec⟩ : ∃ spec, spec_of env (ty, name) = some spec := by
      rw [← Option.isSome_iff_exists, Option.isSome_iff_ne_none]
      intro hnone
      rw [habsent hnone] at houtcome
      cases houtcome
    obtain ⟨hname, hexperiment⟩ := after_outcome (marks ctx) houtcome
    cases hconcluded spec hspec with
    | ends hends =>
      rw [houtcome] at hends
      cases hends
    | decides hdecides hid hrule =>
      rw [houtcome] at hdecides
      cases hdecides
      exact ⟨hrule, hid, hgroup.trans hname, hflag.trans hexperiment⟩
  | none =>
    obtain ⟨hname, hexperiment⟩ := after_plain (marks ctx) hplain
    have hstart : marks ctx = {} := by
      rw [marks, hfresh]
      rfl
    rw [hgroup, hflag, hname, hexperiment, hstart]
    cases last_decided events with
    | none => simp
    | some rule => simp [gives_group]

/-- A gate of an experiment, and two experiments that ask for it: one gives the users in the gate
a group, the other one leaves them to its default. -/
def grouped_specs : SpecsResponseFull where
  condition_map := [("in_gate", .on_gate "pass_gate" "gate"),
    ("not_in_gate", .on_gate "fail_gate" "gate")]
  feature_gates := [("gate", { rules := [{
    id := "on"
    conditions := []
    group_name := some "Test"
    is_experiment_group := some true }] })]
  dynamic_configs := [
    ("inside", { rules := [
      { id := "rule", conditions := ["in_gate"], group_name := some "Control" }] }),
    ("outside", { rules := [
      { id := "rule", conditions := ["not_in_gate"], group_name := some "Control" }] })]

/-- The group of the rule that decided, not the one of the gate. -/
theorem deciding_rule_gives_the_group : ∃ ctx',
    evaluate (.plain grouped_specs) 2 "inside" .Experiment {} = .ok .Recognized ctx' ∧
    Attributed (.plain grouped_specs) (.Experiment, "inside")
      (evaluate_course (.plain grouped_specs) 2 "inside" .Experiment {}) ctx'.result ∧
    ctx'.result.group_name = some "Control" := by
  refine ⟨_, rfl, ?_, rfl⟩
  exact (@group_is_attributed_iff (.plain grouped_specs) rfl rfl rfl 2 "inside" .Experiment
    (fun hmerging => by cases hmerging.1) {} _ _ rfl rfl rfl).mpr (.inl rfl)

/-- The default of an experiment keeps the group of a gate that it asked for. -/
theorem default_keeps_the_group_of_a_gate :
    ¬ ∀ (env : EvaluatorEnv), env.override_adapter = none → env.specs_data.overrides = none →
      env.specs_data.cmab_configs = none →
      ∀ (depth : Nat) (name : String) (ty : SpecType), ¬ Merging env (ty, name) →
      ∀ (ctx ctx' : EvaluatorContext) (recognition : Recognition), ctx.result = {} →
      evaluate env depth name ty ctx = .ok recognition ctx' →
      ctx'.result.unsupported = false →
      Attributed env (ty, name) (evaluate_course env depth name ty ctx) ctx'.result := by
  intro h
  have hattributed := h (.plain grouped_specs) rfl rfl rfl 2 "outside" .Experiment
    (fun hmerging => by cases hmerging.1) {} _ _ rfl rfl rfl
  exact absurd hattributed.2 (by decide)

end statsig_rust.evaluation
