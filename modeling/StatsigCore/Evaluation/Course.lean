-- The course of an evaluation: what its rules decide, which delegates they have and which gates
-- it asks for, in the order that they happen. The group, the delegate and the sampling fields of
-- the shared result are told from the course alone, through nested gates, delegates, bandits,
-- layers, overrides and config mappings.
import StatsigCore.Evaluation.Calls

open program

namespace statsig_rust.evaluation

/-! ## Events -/

/-- What an evaluation does to the fields that all its parts share. -/
inductive Event where
  /-- A spec begins, under the name that it was asked for. -/
  | begins (spec_name : String) (spec : Spec)
  /-- A rule decides its spec. -/
  | decides (spec : Spec) (rule : Rule)
  /-- A spec ends without a rule: by its default, or since a filter leaves no rule. -/
  | ends
  /-- The delegate of a rule has been evaluated for it. -/
  | accepts (rule : Rule)
  /-- A spec ends with the outcome of its delegate. -/
  | delegates
  /-- A layer ends with its merged rules. -/
  | merges (spec : Spec) (s : LayerState)
  /-- A bandit takes the place of an experiment. -/
  | enters (cmab : CMABConfig)
  /-- A bandit assigns a group. -/
  | assigns (group_name : Option InternedString)
  /-- A condition asks for a gate. The gate is fresh when it has just been evaluated, and not
  when the memo held it or the specs do not have it. -/
  | asks (gate : InternedString) (rule_id : Option InternedString) (fresh : Bool)
  /-- The override adapter hands a result back. -/
  | overrides (result : EvaluatorResult)
  /-- The search of a config mapping resets the result. -/
  | resets

/-- The fields of the result that the events change. -/
structure Marks where
  name : Option InternedString := none
  id_type : Option InternedString := none
  group_name : Option InternedString := none
  is_experiment_group : Bool := false
  is_experiment_active : Bool := false
  config_delegate : Option InternedString := none
  sampling_rate : Option Nat := none
  has_seen_analytical_gates : Option Bool := none

def Marks.of_result (result : EvaluatorResult) : Marks where
  name := result.name
  id_type := result.id_type
  group_name := result.group_name
  is_experiment_group := result.is_experiment_group
  is_experiment_active := result.is_experiment_active
  config_delegate := result.config_delegate
  sampling_rate := result.sampling_rate
  has_seen_analytical_gates := result.has_seen_analytical_gates

def marks (ctx : EvaluatorContext) : Marks := .of_result ctx.result

/-- The gate is no segment, and its evaluation left a rule id. -/
def is_exposed (gate : InternedString) (rule_id : Option InternedString) : Bool :=
  !starts_with gate "segment:" && rule_id.any (· != "")

def Marks.apply (m : Marks) : Event → Marks
  | .begins spec_name spec =>
    { m with
      name := m.name.or (some spec_name)
      id_type := m.id_type.or (some spec.id_type)
      is_experiment_active := spec.is_active.getD m.is_experiment_active }
  | .decides spec rule =>
    { m with
      group_name := rule.group_name
      is_experiment_group := rule.is_experiment_group.getD false
      is_experiment_active := spec.is_active.getD false
      sampling_rate := rule.sampling_rate }
  | .ends | .delegates => { m with sampling_rate := none }
  | .accepts rule => { m with config_delegate := rule.config_delegate }
  | .merges spec s =>
    { m with
      group_name := s.group_name
      is_experiment_group := s.is_experiment_group
      is_experiment_active := spec.is_active.getD false
      config_delegate := s.delegate_name
      sampling_rate := none }
  | .enters cmab =>
    { m with id_type := some cmab.id_type.value, is_experiment_active := cmab.enabled }
  | .assigns group_name => { m with group_name }
  | .asks gate rule_id _ =>
    if is_exposed gate rule_id && m.sampling_rate.isNone then
      { m with has_seen_analytical_gates := some true }
    else m
  | .overrides result => .of_result result
  | .resets => {}

def Marks.after (m : Marks) (events : List Event) : Marks := events.foldl Marks.apply m

@[simp] theorem Marks.after_nil (m : Marks) : m.after [] = m := rfl

@[simp] theorem Marks.after_cons (m : Marks) (event : Event) (events : List Event) :
    m.after (event :: events) = (m.apply event).after events := rfl

theorem Marks.after_append (m : Marks) (events events' : List Event) :
    m.after (events ++ events') = (m.after events).after events' := List.foldl_append

/-! ## The course of a run -/

section Courses

variable (env : EvaluatorEnv) (rec : Recur)
  (course : String → SpecType → EvaluatorContext → List Event)

def nested_gate_course (target : MemoizedEvaluatorValue) (ctx : EvaluatorContext) : List Event :=
  let gate := gate_name_of target
  match ctx.nested_gate_memo.get gate with
  | some memo => [.asks gate memo.2.1 false]
  | none =>
    onward (prep_for_nested_evaluation ctx) fun _ prepped =>
      course gate .Gate (take_exposures prepped) ++
        onward (rec gate .Gate (take_exposures prepped)) fun recognition inner =>
          if inner.result.unsupported then []
          else [.asks gate inner.result.rule_id (recognition = .Recognized)]

/-- The group of an experiment is asked for in a context of its own. -/
def condition_course (condition : Condition) (ctx : EvaluatorContext) : List Event :=
  match type_of condition with
  | .FailGate | .PassGate => nested_gate_course rec course (target_of condition) ctx
  | _ => []

def conditions_course : List InternedString → EvaluatorContext → List Event
  | [], _ => []
  | hash :: hashes, ctx =>
    match env.specs_data.condition_map.get hash with
    | none => []
    | some condition =>
      condition_course rec course condition ctx ++
        onward (evaluate_condition env rec condition ctx) fun _ => conditions_course hashes

def delegate_course (rule : Rule) (ctx : EvaluatorContext) : List Event :=
  match rule.config_delegate with
  | none => []
  | some delegate =>
    match env.specs_data.dynamic_configs.get delegate with
    | none => []
    | some _ =>
      onward (prep_for_nested_evaluation { ctx with
        result.undelegated_secondary_exposures := some ctx.result.secondary_exposures })
        fun _ prepped =>
          course delegate .Experiment prepped ++
            onward (rec delegate .Experiment prepped) fun recognition _ =>
              if recognition = .Unrecognized then [] else [.accepts rule]

def rules_course (spec : Spec) (filter_active : Bool) :
    List Rule → EvaluatorContext → List Event
  | [], _ => [.ends]
  | rule :: rules, ctx =>
    if filter_active && !rule_matches_filter ctx rule then
      rules_course spec filter_active rules ctx
    else
      conditions_course env rec course rule.conditions ctx ++
        onward (evaluate_rule env rec rule ctx) fun _ asked =>
          if asked.result.unsupported then []
          else if !asked.result.bool_value then rules_course spec filter_active rules asked
          else
            delegate_course env rec course rule asked ++
              onward (evaluate_config_delegate env rec rule asked) fun delegated _ =>
                if delegated then [.delegates] else [.decides spec rule]

def layer_course (spec : Spec) (filter_active : Bool) :
    List Rule → LayerState → EvaluatorContext → List Event
  | [], s, _ => [.merges spec s]
  | rule :: rules, s, ctx =>
    if filter_active && !rule_matches_filter ctx rule then
      layer_course spec filter_active rules s ctx
    else
      conditions_course env rec course rule.conditions ctx ++
        onward (evaluate_rule env rec rule ctx) fun _ asked =>
          let s := s.append_exposures asked
          let ctx := take_exposures asked
          if asked.result.unsupported then []
          else if !asked.result.bool_value then layer_course spec filter_active rules s ctx
          else if !evaluate_pass_percentage env rule spec.salt then
            layer_course spec filter_active rules s ctx
          else
            delegate_course env rec course rule ctx ++
              onward (evaluate_config_delegate env rec rule ctx) fun delegated ctx =>
                if delegated then
                  if s.has_passed_rule then layer_course spec filter_active rules s ctx
                  else
                    match ctx.result.json_value with
                    | none => layer_course spec filter_active rules s ctx
                    | some value =>
                      if s.reuses value then layer_course spec filter_active rules s ctx
                      else layer_course spec filter_active rules (s.accept rule value ctx)
                        (take_exposures ctx)
                else
                  layer_course spec filter_active rules
                    { s.update rule.return_value.get_json rule.id with
                      passed := ctx.result.bool_value
                      has_passed_rule := true } ctx

def spec_course (filter_active : Bool) (spec_name : String) (spec_type : SpecType)
    (opt_spec : Option Spec) (ctx : EvaluatorContext) : List Event :=
  match opt_spec with
  | none => []
  | some spec =>
    let ctx := begin_spec spec_name spec ctx
    .begins spec_name spec ::
      if spec.use_new_layer_eval = some true ∧ spec_type = .Layer then
        let filter_active :=
          ctx.nested_count == 0 && (ctx.only_evaluate_targeting || ctx.only_evaluate_overrides)
        if filter_active && !spec_has_filtered_rule ctx spec then [.ends]
        else layer_course env rec course spec filter_active spec.rules {} ctx
      else if filter_active && !spec_has_filtered_rule ctx spec then [.ends]
      else rules_course env rec course spec filter_active spec.rules ctx

/-- The targeting gate of a bandit is evaluated, and no condition asks for it. -/
def targeting_course (cmab : CMABConfig) (ctx : EvaluatorContext) : List Event :=
  match cmab.targeting_gate_name with
  | none => []
  | some gate => onward (prep_for_nested_evaluation ctx) fun _ => course gate .Gate

def cmab_course (spec_name : String) (spec_type : SpecType) (ctx : EvaluatorContext) :
    List Event :=
  match spec_type, env.specs_data.cmab_configs with
  | .Experiment, some cmabs =>
    match cmabs.get spec_name with
    | none => []
    | some cmab =>
      if !is_cmab_started cmab then [.enters cmab]
      else
        targeting_course course cmab ctx ++
          onward (get_passes_targeting rec cmab ctx) fun passes ctx =>
            .enters cmab ::
              if passes then
                [.assigns (assign_cmab_group env cmab (set_cmab_fields cmab ctx)).result.group_name]
              else []
  | _, _ => []

def override_course (spec_name : String) (spec_type : SpecType) (opt_spec : Option Spec)
    (ctx : EvaluatorContext) : List Event :=
  match env.override_adapter with
  | none => []
  | some _ =>
    onward (try_apply_override env spec_name spec_type opt_spec ctx) fun _ ctx =>
      [.overrides ctx.result]

/-- An override rule that errs is tried and reset like the others. -/
def override_rules_course (spec_type : SpecType) (spec_salt new_config_name : InternedString)
    (override_rules : HashMap String Rule) : List OverrideRule → EvaluatorContext → List Event
  | [], _ => []
  | override_rule :: rest, ctx =>
    match started_rule env override_rules override_rule with
    | none => override_rules_course spec_type spec_salt new_config_name override_rules rest ctx
    | some rule =>
      conditions_course env rec course rule.conditions ctx ++
        onward (attempt (evaluate_rule env rec rule) ctx) fun evaluated tried =>
          .resets ::
            if evaluated.isOk && tried.result.bool_value && !tried.result.unsupported &&
                evaluate_pass_percentage env rule spec_salt then
              let ctx := { tried.reset_result with
                result.override_config_name := some new_config_name }
              course new_config_name spec_type ctx ++
                onward (attempt (rec new_config_name spec_type) ctx) fun recognition _ =>
                  match recognition with
                  | .ok .Recognized => []
                  | _ => [.resets]
            else
              override_rules_course spec_type spec_salt new_config_name override_rules rest
                tried.reset_result

def mappings_course (spec_type : SpecType) (spec_salt : InternedString)
    (override_rules : HashMap String Rule) : List ConfigMapping → EvaluatorContext → List Event
  | [], _ => []
  | mapping :: mapping_list, ctx =>
    override_rules_course env rec course spec_type spec_salt mapping.new_config_name
        override_rules mapping.rules ctx ++
      onward (try_override_rules env rec spec_type spec_salt mapping.new_config_name
        override_rules mapping.rules ctx) fun applied ctx =>
          if applied then []
          else mappings_course spec_type spec_salt override_rules mapping_list ctx

def config_mapping_course (spec_name : String) (spec_type : SpecType) (opt_spec : Option Spec)
    (ctx : EvaluatorContext) : List Event :=
  match env.specs_data.overrides, env.specs_data.override_rules with
  | some overrides, some override_rules =>
    match overrides.get spec_name with
    | none => []
    | some mapping_list =>
      mappings_course env rec course spec_type (salt_of opt_spec) override_rules mapping_list ctx
  | _, _ => []

/-- One call of `Evaluator::evaluate`. -/
def course_with (spec_name : String) (spec_type : SpecType) (ctx : EvaluatorContext) :
    List Event :=
  if spec_type = .ParameterStore then []
  else
    let filter_active :=
      ctx.nested_count == 0 && (ctx.only_evaluate_targeting || ctx.only_evaluate_overrides)
    let opt_spec := find_spec env.specs_data spec_name spec_type
    if filter_active then spec_course env rec course true spec_name spec_type opt_spec ctx
    else
      override_course env spec_name spec_type opt_spec ctx ++
        onward (try_apply_override env spec_name spec_type opt_spec ctx) fun overridden ctx =>
          if overridden then []
          else
            config_mapping_course env rec course spec_name spec_type opt_spec ctx ++
              onward (try_apply_config_mapping env rec spec_name spec_type opt_spec ctx)
                fun mapped ctx =>
                  if mapped then []
                  else
                    cmab_course env rec course spec_name spec_type ctx ++
                      onward (evaluate_cmab env rec spec_name spec_type ctx) fun applied ctx =>
                        if applied then []
                        else
                          spec_course env rec course false spec_name spec_type opt_spec ctx

end Courses

/-- The events of `evaluate env depth`. -/
def evaluate_course (env : EvaluatorEnv) :
    Nat → String → SpecType → EvaluatorContext → List Event
  | 0 => fun _ _ _ => []
  | depth + 1 => course_with env (evaluate env depth) (evaluate_course env depth)

/-! ## The course is what happens -/

/-- A run changes the marks by the events. -/
def Documents {α : Type} (ctx : EvaluatorContext) (x : Eval α) (events : List Event) : Prop :=
  (x ctx).Meets (fun _ c => marks c = (marks ctx).after events)
    (fun _ c => marks c = (marks ctx).after events) True

section Documents

variable {α β : Type} {ctx : EvaluatorContext} {x : Eval α} {f : α → Eval β}
  {events : List Event}

theorem documents_pure (a : α) : Documents ctx (pure a : Eval α) [] := rfl

theorem documents_update {g : EvaluatorContext → EvaluatorContext}
    (h : marks (g ctx) = (marks ctx).after events) : Documents ctx (update g) events := h

/-- The events of the second step come after those of the first. -/
theorem Documents.bind {next : α → EvaluatorContext → List Event} (hx : Documents ctx x events)
    (hf : ∀ a c, x ctx = .ok a c → Documents c (f a) (next a c)) :
    Documents ctx (x >>= f) (events ++ onward (x ctx) next) := by
  unfold Documents at *
  rw [bind_apply]
  cases hrun : x ctx with
  | ok a c =>
    rw [hrun] at hx
    have hnext := hf a c hrun
    rw [show marks c = _ from hx] at hnext
    simp only [onward, Marks.after_append]
    exact hnext
  | err e c =>
    rw [hrun] at hx
    simpa [onward, Outcome.andThen] using hx
  | deep => trivial

/-- A second step that leaves the marks alone. -/
theorem Documents.bind_quiet (hx : Documents ctx x events) (hf : ∀ a c, Documents c (f a) []) :
    Documents ctx (x >>= f) events := by
  have hbind := hx.bind fun a c _ => hf a c
  rwa [onward_nil, List.append_nil] at hbind

theorem Documents.attempt (hx : Documents ctx x events) : Documents ctx (attempt x) events := by
  unfold Documents program.attempt at *
  cases hrun : x ctx with
  | ok a c => rwa [hrun] at hx
  | err e c => rwa [hrun] at hx
  | deep => trivial

/-- An attempt that leaves the marks alone, and goes on quietly after an error. -/
theorem Documents.attempt_bind {f : Except StatsigErr α → Eval β}
    {next : α → EvaluatorContext → List Event} (hx : Documents ctx x [])
    (hok : ∀ a c, Documents c (f (.ok a)) (next a c))
    (herr : ∀ e c, Documents c (f (.error e)) []) :
    Documents ctx (program.attempt x >>= f) (onward (x ctx) next) := by
  unfold Documents at *
  rw [bind_apply]
  unfold program.attempt
  cases hrun : x ctx with
  | ok a c =>
    rw [hrun] at hx
    have hnext := hok a c
    rwa [show marks c = marks ctx from hx] at hnext
  | err e c =>
    rw [hrun] at hx
    have hnext := herr e c
    rwa [show marks c = marks ctx from hx] at hnext
  | deep => trivial

theorem documents_state {f : EvaluatorContext → Eval β} (h : Documents ctx (f ctx) events) :
    Documents ctx (state >>= f) events := h

/-- A step that leaves the marks alone. -/
theorem Documents.after_update {g : EvaluatorContext → EvaluatorContext} {f : Unit → Eval β}
    (h : Documents (g ctx) (f ()) events) (hg : marks (g ctx) = marks ctx) :
    Documents ctx (update g >>= f) events := by
  unfold Documents at *
  rw [update_bind, ← hg]
  exact h

theorem documents_ite {c : Prop} [Decidable c] {x y : Eval α} {events' : List Event}
    (hx : c → Documents ctx x events) (hy : ¬ c → Documents ctx y events') :
    Documents ctx (if c then x else y) (if c then events else events') := by
  split
  · exact hx ‹_›
  · exact hy ‹_›

/-- An update that is an event of its own. -/
theorem Documents.after_event {g : EvaluatorContext → EvaluatorContext} {f : Unit → Eval β}
    {event : Event} (h : Documents (g ctx) (f ()) events)
    (hg : marks (g ctx) = (marks ctx).apply event) :
    Documents ctx (update g >>= f) (event :: events) := by
  unfold Documents at *
  rw [update_bind, Marks.after_cons, ← hg]
  exact h

/-- An update at the end. -/
theorem documents_update_pure {g : EvaluatorContext → EvaluatorContext} (a : α)
    (h : marks (g ctx) = (marks ctx).after events) :
    Documents ctx (update g >>= fun _ => pure a) events := h

end Documents

/-! ## Steps -/

section Marks

theorem marks_finalize (ctx : EvaluatorContext) (spec : Spec) (rule : Option Rule) :
    marks (ctx.finalize_evaluation spec rule) =
      { marks ctx with sampling_rate := rule.bind (·.sampling_rate) } := by
  unfold EvaluatorContext.finalize_evaluation
  dsimp only
  repeat' split
  all_goals rfl

theorem marks_apply_rule (spec : Spec) (rule : Rule) (did_pass : Bool) (ctx : EvaluatorContext) :
    marks (apply_rule spec rule did_pass ctx) = (marks ctx).after [.decides spec rule] := by
  unfold apply_rule
  exact marks_finalize _ _ _

theorem marks_apply_default (spec : Spec) (ctx : EvaluatorContext) :
    marks (apply_default spec ctx) = (marks ctx).after [.ends] := by
  unfold apply_default
  exact marks_finalize _ _ _

theorem marks_finish (s : LayerState) (spec : Spec) (ctx : EvaluatorContext) :
    marks (s.finish spec ctx) = (marks ctx).after [.merges spec s] := by
  unfold LayerState.finish
  dsimp only
  rw [marks_finalize]
  unfold LayerState.update
  cases spec.default_value.get_json <;> rfl

theorem marks_push_nested_exposure (gate : InternedString) (fresh : Bool)
    (ctx : EvaluatorContext) : marks (push_nested_exposure gate ctx) =
      (marks ctx).after [.asks gate ctx.result.rule_id fresh] := by
  rw [Marks.after_cons, Marks.after_nil, Marks.apply]
  unfold push_nested_exposure
  dsimp only
  cases hid : ctx.result.rule_id with
  | none => simp [is_exposed]
  | some id =>
    have hexposed : is_exposed gate (some id) = (!starts_with gate "segment:" && !(id == "")) := rfl
    rw [hexposed]
    by_cases hpush : (!starts_with gate "segment:" && !(id == "")) = true
    · simp only [hpush, ↓reduceIte, Bool.true_and]
      cases hrate : ctx.result.sampling_rate <;> simp [marks, Marks.of_result, hrate]
    · simp only [hpush, Bool.false_eq_true, ↓reduceIte, Bool.false_and]

theorem marks_record_nested_gate (gate : InternedString) (ty : ConditionType) (fresh : Bool)
    (ctx : EvaluatorContext) : marks (record_nested_gate gate ty ctx) =
      (marks ctx).after [.asks gate ctx.result.rule_id fresh] := by
  rw [← marks_push_nested_exposure]
  unfold record_nested_gate
  dsimp only
  split <;> rfl

theorem marks_evaluate_reading (env : EvaluatorEnv) (condition : Condition)
    (ctx : EvaluatorContext) : marks (evaluate_reading env condition ctx) = marks ctx := by
  unfold evaluate_reading apply_operator
  dsimp only
  split <;> split <;> rfl

theorem marks_apply_operator (env : EvaluatorEnv) (condition : Condition)
    (value : Option DynamicValue) (ctx : EvaluatorContext) :
    marks (apply_operator env condition value ctx) = marks ctx := by
  unfold apply_operator
  split <;> rfl

theorem marks_push_targeting_exposure (gate : InternedString) (result : Bool)
    (ctx : EvaluatorContext) : marks (push_targeting_exposure gate result ctx) = marks ctx := by
  unfold push_targeting_exposure
  split <;> rfl

/-- A bandit changes nothing but the group. -/
def Assigned (ctx ctx' : EvaluatorContext) : Prop :=
  marks ctx' = { marks ctx with group_name := ctx'.result.group_name }

theorem apply_random_group_assigned (env : EvaluatorEnv) (cmab : CMABConfig)
    (user_hash : Option Nat) (ctx : EvaluatorContext) :
    Assigned ctx (apply_random_group env cmab user_hash ctx) := by
  unfold apply_random_group
  dsimp only
  split <;> rfl

theorem apply_best_group_assigned (env : EvaluatorEnv) (cmab : CMABConfig)
    (config : HashMap String CMABGroupConfig) (ctx : EvaluatorContext) :
    Assigned ctx (apply_best_group env cmab config ctx) := by
  unfold apply_best_group
  dsimp only
  split
  · rfl
  · split <;> rfl

theorem marks_assign_cmab_group (env : EvaluatorEnv) (cmab : CMABConfig)
    (ctx : EvaluatorContext) : marks (assign_cmab_group env cmab ctx) =
      (marks ctx).after [.assigns (assign_cmab_group env cmab ctx).result.group_name] := by
  show Assigned ctx (assign_cmab_group env cmab ctx)
  unfold assign_cmab_group
  dsimp only
  split
  · exact apply_random_group_assigned env cmab _ ctx
  · refine iteInduction (motive := Assigned ctx) (fun _ => ?_) fun _ =>
      apply_best_group_assigned env cmab _ ctx
    split
    · rfl
    · exact apply_best_group_assigned env cmab _ { ctx with draws := ctx.draws + 1 }

end Marks

/-! ## Runs -/

/-- The calls are documented by their courses. -/
def CallsDocumented (rec : Recur) (course : String → SpecType → EvaluatorContext → List Event) :
    Prop :=
  ∀ name ty ctx, Documents ctx (rec name ty) (course name ty ctx)

section Runs

variable {env : EvaluatorEnv} {rec : Recur}
  {course : String → SpecType → EvaluatorContext → List Event}

theorem prep_documented (ctx : EvaluatorContext) :
    Documents ctx prep_for_nested_evaluation [] := by
  unfold Documents prep_for_nested_evaluation
  dsimp only
  split <;> rfl

/-- The group of an experiment is asked for without a mark on this evaluation. -/
theorem experiment_group_documented (env : EvaluatorEnv) (rec : Recur)
    (name : Option DynamicString) (ctx : EvaluatorContext) :
    Documents ctx (evaluate_experiment_group env rec name) [] := by
  unfold evaluate_experiment_group
  cases name with
  | none => exact documents_pure none
  | some name =>
    dsimp only
    split
    · unfold Documents get_experiment_group_name
      split <;> first | rfl | trivial
    · exact documents_update_pure none rfl

variable (hrec : CallsDocumented rec course)

include hrec

theorem nested_gate_documented (target : MemoizedEvaluatorValue) (ty : ConditionType)
    (ctx : EvaluatorContext) : Documents ctx (evaluate_nested_gate rec target ty)
      (nested_gate_course rec course target ctx) := by
  unfold evaluate_nested_gate nested_gate_course
  refine documents_state ?_
  dsimp only
  cases hmemo : ctx.nested_gate_memo.get (gate_name_of target) with
  | some memo => exact documents_update (marks_record_nested_gate (gate_name_of target) ty false _)
  | none =>
    refine (prep_documented ctx).bind fun _ prepped _ => documents_state ?_
    refine Documents.after_update ?_ rfl
    refine (hrec _ .Gate (take_exposures prepped)).bind fun recognition inner _ => ?_
    refine documents_state ?_
    split
    · exact documents_pure ()
    · exact documents_update (marks_record_nested_gate (gate_name_of target) ty _ _)

theorem condition_documented (condition : Condition) (ctx : EvaluatorContext) :
    Documents ctx (evaluate_condition env rec condition)
      (condition_course rec course condition ctx) := by
  unfold evaluate_condition condition_course
  have hreading : Documents ctx (update (evaluate_reading env condition)) [] :=
    marks_evaluate_reading env condition ctx
  cases htype : type_of condition
  case FailGate => exact nested_gate_documented hrec _ _ ctx
  case PassGate => exact nested_gate_documented hrec _ _ ctx
  case Public => exact documents_update rfl
  case Unknown => exact documents_update rfl
  case ExperimentGroup =>
    exact (experiment_group_documented env rec _ ctx).bind_quiet fun group c =>
      documents_update (marks_apply_operator env condition _ c)
  all_goals exact hreading

theorem conditions_documented (hashes : List InternedString) (all_conditions_pass : Bool)
    (ctx : EvaluatorContext) :
    Documents ctx (evaluate_conditions env rec hashes all_conditions_pass)
      (conditions_course env rec course hashes ctx) := by
  induction hashes generalizing all_conditions_pass ctx with
  | nil => exact documents_update rfl
  | cons hash hashes ih =>
    unfold evaluate_conditions conditions_course
    cases env.specs_data.condition_map.get hash with
    | none => exact documents_update rfl
    | some condition =>
      refine (condition_documented hrec condition ctx).bind fun _ next _ => documents_state ?_
      exact ih _ next

theorem delegate_documented (rule : Rule) (ctx : EvaluatorContext) :
    Documents ctx (evaluate_config_delegate env rec rule)
      (delegate_course env rec course rule ctx) := by
  unfold evaluate_config_delegate delegate_course
  cases rule.config_delegate with
  | none => exact documents_pure false
  | some delegate =>
    cases hget : env.specs_data.dynamic_configs.get delegate with
    | none =>
      simp only [hget]
      exact documents_pure false
    | some delegate_spec =>
      simp only [hget]
      refine Documents.after_update ?_ rfl
      refine (prep_documented _).bind fun _ prepped _ => ?_
      refine (hrec delegate .Experiment prepped).bind fun recognition c _ => ?_
      split
      · exact documents_update_pure _ rfl
      · exact documents_update_pure _ rfl

theorem rules_documented (spec : Spec) (filter_active : Bool) (rules : List Rule)
    (ctx : EvaluatorContext) : Documents ctx (evaluate_rules env rec spec filter_active rules)
      (rules_course env rec course spec filter_active rules ctx) := by
  induction rules generalizing ctx with
  | nil => exact documents_update_pure _ (marks_apply_default spec ctx)
  | cons rule rules ih =>
    unfold evaluate_rules rules_course
    refine documents_state ?_
    split
    · exact ih ctx
    · refine (conditions_documented hrec rule.conditions true ctx).bind fun _ asked _ => ?_
      refine documents_state ?_
      split
      · exact documents_pure _
      · split
        · exact ih asked
        · refine (delegate_documented hrec rule asked).bind fun delegated c _ => ?_
          cases delegated with
          | true => exact documents_update_pure _ (marks_finalize c spec none)
          | false => exact documents_update_pure _ (marks_apply_rule spec rule _ c)

theorem layer_documented (spec : Spec) (filter_active : Bool) (rules : List Rule) (s : LayerState)
    (ctx : EvaluatorContext) :
    Documents ctx (new_layer_rules env rec spec filter_active rules s)
      (layer_course env rec course spec filter_active rules s ctx) := by
  induction rules generalizing s ctx with
  | nil => exact documents_update_pure _ (marks_finish s spec ctx)
  | cons rule rules ih =>
    unfold new_layer_rules layer_course
    refine documents_state ?_
    split
    · exact ih s ctx
    · refine (conditions_documented hrec rule.conditions true ctx).bind fun _ asked _ => ?_
      refine documents_state (Documents.after_update ?_ rfl)
      split
      · exact documents_pure _
      · split
        · exact ih _ _
        · split
          · exact ih _ _
          · refine (delegate_documented hrec rule _).bind fun delegated c _ => ?_
            cases delegated with
            | true =>
              refine documents_state ?_
              rw [if_pos rfl]
              split
              · exact ih _ c
              · cases c.result.json_value with
                | none => exact ih _ c
                | some value =>
                  dsimp only
                  split
                  · exact ih _ c
                  · exact Documents.after_update (ih _ _) rfl
            | false => exact documents_state (ih _ c)

theorem spec_documented (filter_active : Bool) (name : String) (ty : SpecType)
    (opt_spec : Option Spec) (ctx : EvaluatorContext) :
    Documents ctx (evaluate_spec env rec filter_active name ty opt_spec)
      (spec_course env rec course filter_active name ty opt_spec ctx) := by
  unfold evaluate_spec spec_course
  cases opt_spec with
  | none => exact documents_pure _
  | some spec =>
    refine Documents.after_event ?_ rfl
    dsimp only
    split
    · unfold new_layer_eval
      refine documents_state ?_
      dsimp only
      split
      · exact documents_update_pure _ (marks_finalize _ spec none)
      · exact layer_documented hrec spec _ spec.rules {} _
    · refine documents_state ?_
      split
      · exact documents_update_pure _ (marks_finalize _ spec none)
      · exact rules_documented hrec spec _ spec.rules _

theorem targeting_documented (cmab : CMABConfig) (ctx : EvaluatorContext) :
    Documents ctx (get_passes_targeting rec cmab) (targeting_course course cmab ctx) := by
  unfold get_passes_targeting targeting_course
  cases cmab.targeting_gate_name with
  | none => exact documents_pure true
  | some gate =>
    refine (prep_documented ctx).attempt_bind (fun _ prepped => ?_) fun e c => ?_
    · exact (hrec gate .Gate prepped).attempt.bind_quiet fun recognition c =>
        documents_state (documents_update_pure _ (marks_push_targeting_exposure _ _ c))
    · exact documents_update_pure false rfl

theorem cmab_documented (name : String) (ty : SpecType) (ctx : EvaluatorContext) :
    Documents ctx (evaluate_cmab env rec name ty) (cmab_course env rec course name ty ctx) := by
  unfold evaluate_cmab cmab_course
  cases env.specs_data.cmab_configs with
  | none => cases ty <;> exact documents_pure false
  | some cmabs =>
    cases ty
    case Experiment =>
      dsimp only
      cases cmabs.get name with
      | none => exact documents_pure false
      | some cmab =>
        dsimp only
        split
        · exact documents_update_pure _ rfl
        · refine (targeting_documented hrec cmab ctx).bind fun passes c _ => ?_
          cases passes with
          | true => exact documents_update_pure _ (marks_assign_cmab_group env cmab _)
          | false => exact documents_update_pure _ rfl
    all_goals exact documents_pure false

theorem override_rules_documented (ty : SpecType) (salt target : InternedString)
    (override_rules : HashMap String Rule) (rules : List OverrideRule) (ctx : EvaluatorContext) :
    Documents ctx (try_override_rules env rec ty salt target override_rules rules)
      (override_rules_course env rec course ty salt target override_rules rules ctx) := by
  induction rules generalizing ctx with
  | nil => exact documents_pure false
  | cons override_rule rules ih =>
    unfold try_override_rules override_rules_course
    cases started_rule env override_rules override_rule with
    | none => exact ih ctx
    | some rule =>
      dsimp only
      refine (conditions_documented hrec rule.conditions true ctx).attempt.bind
        fun evaluated tried _ => documents_state (Documents.after_event ?_ rfl)
      refine documents_ite (fun _ => ?_) fun _ => ih _
      refine Documents.after_update ?_ rfl
      refine (hrec target ty _).attempt.bind fun recognition c _ => ?_
      cases recognition with
      | error e => exact documents_update_pure false rfl
      | ok recognition =>
        cases recognition with
        | Recognized => exact documents_pure true
        | Unrecognized => exact documents_update_pure false rfl

theorem config_mapping_documented (name : String) (ty : SpecType) (opt_spec : Option Spec)
    (ctx : EvaluatorContext) :
    Documents ctx (try_apply_config_mapping env rec name ty opt_spec)
      (config_mapping_course env rec course name ty opt_spec ctx) := by
  have hmappings : ∀ salt override_rules mappings ctx,
      Documents ctx (try_mappings env rec ty salt override_rules mappings)
        (mappings_course env rec course ty salt override_rules mappings ctx) := by
    intro salt override_rules mappings
    induction mappings with
    | nil => exact fun ctx => documents_pure false
    | cons mapping mappings ih =>
      intro ctx
      unfold try_mappings mappings_course
      refine (override_rules_documented hrec ty salt _ override_rules _ ctx).bind
        fun applied c _ => ?_
      exact documents_ite (fun _ => documents_pure true) fun _ => ih c
  unfold try_apply_config_mapping config_mapping_course
  cases env.specs_data.overrides with
  | none => exact documents_pure false
  | some overrides =>
    cases env.specs_data.override_rules with
    | none => exact documents_pure false
    | some override_rules =>
      dsimp only
      cases overrides.get name with
      | none => exact documents_pure false
      | some mapping_list => exact hmappings _ override_rules mapping_list ctx

omit hrec in
theorem override_documented (name : String) (ty : SpecType) (opt_spec : Option Spec)
    (ctx : EvaluatorContext) :
    Documents ctx (try_apply_override env name ty opt_spec)
      (override_course env name ty opt_spec ctx) := by
  unfold Documents override_course try_apply_override
  cases env.override_adapter with
  | none => rfl
  | some adapter => rfl

end Runs

/-- Every evaluation does what its course says. -/
theorem evaluate_documented (env : EvaluatorEnv) (depth : Nat) :
    CallsDocumented (evaluate env depth) (evaluate_course env depth) := by
  induction depth with
  | zero => exact fun _ _ _ => trivial
  | succ depth ih =>
    intro name ty ctx
    show Documents ctx (evaluate_with env (evaluate env depth) name ty)
      (course_with env (evaluate env depth) (evaluate_course env depth) name ty ctx)
    unfold evaluate_with course_with
    split
    · exact documents_pure _
    · refine documents_state ?_
      dsimp only
      split
      · exact spec_documented ih true name ty _ ctx
      · refine (override_documented name ty _ ctx).bind fun overridden c _ => ?_
        refine documents_ite (fun _ => documents_pure _) fun _ => ?_
        refine (config_mapping_documented ih name ty _ c).bind fun mapped c _ => ?_
        refine documents_ite (fun _ => documents_pure _) fun _ => ?_
        refine (cmab_documented ih name ty c).bind fun applied c _ => ?_
        exact documents_ite (fun _ => documents_pure _)
          fun _ => spec_documented ih false name ty _ c

/-! ## The kinds of events -/

/-- An event of a spec by its own rules, its delegate or its default. -/
def Event.is_plain : Event → Bool
  | .merges _ _ | .enters _ | .assigns _ | .overrides _ | .resets => false
  | _ => true

/-- The node is a layer that merges its rules. -/
def Merging (env : EvaluatorEnv) (node : Node) : Prop :=
  node.1 = .Layer ∧ ∃ spec, spec_of env node = some spec ∧ spec.use_new_layer_eval = some true

/-- The predicate holds of the events that a call for one of the nodes has, where no override
adapter and no config mapping applies. -/
structure Covers (env : EvaluatorEnv) (nodes : Node → Prop) (p : Event → Prop) : Prop where
  plain : ∀ event : Event, event.is_plain = true → p event
  gates : ∀ gate, nodes (.Gate, gate)
  experiments : ∀ experiment, nodes (.Experiment, experiment)
  merges : ∀ node, nodes node → Merging env node → ∀ spec s, p (.merges spec s)
  enters : env.specs_data.cmab_configs ≠ none → ∀ cmab, p (.enters cmab)
  assigns : env.specs_data.cmab_configs ≠ none → ∀ group_name, p (.assigns group_name)

/-- Without overrides and mappings, a bandit or the spec gives the course. -/
theorem course_with_unmapped {env : EvaluatorEnv} {rec : Recur}
    {course : String → SpecType → EvaluatorContext → List Event}
    (hadapter : env.override_adapter = none) (hmapped : env.specs_data.overrides = none)
    {name : String} {ty : SpecType} (hty : ty ≠ .ParameterStore) (ctx : EvaluatorContext) :
    course_with env rec course name ty ctx =
      if filter_active ctx then spec_course env rec course true name ty (spec_of env (ty, name)) ctx
      else
        cmab_course env rec course name ty ctx ++
          onward (evaluate_cmab env rec name ty ctx) fun applied ctx =>
            if applied then []
            else spec_course env rec course false name ty (spec_of env (ty, name)) ctx := by
  unfold course_with override_course config_mapping_course try_apply_override
    try_apply_config_mapping
  simp only [if_neg hty, hadapter, hmapped]
  rfl

section Covers

variable {env : EvaluatorEnv} {rec : Recur}
  {course : String → SpecType → EvaluatorContext → List Event} {nodes : Node → Prop}
  {p : Event → Prop}

theorem Covers.one (h : Covers env nodes p) {event : Event} (hevent : event.is_plain = true) :
    ∀ e ∈ [event], p e := List.forall_mem_singleton.mpr (h.plain event hevent)

variable (h : Covers env nodes p)
  (hcourse : ∀ name ty ctx, nodes (ty, name) → ∀ event ∈ course name ty ctx, p event)

include h hcourse

theorem conditions_covered (hashes : List InternedString) (ctx : EvaluatorContext) :
    ∀ event ∈ conditions_course env rec course hashes ctx, p event := by
  have hgate : ∀ target ctx, ∀ event ∈ nested_gate_course rec course target ctx, p event := by
    intro target ctx
    unfold nested_gate_course
    dsimp only
    split
    · exact h.one rfl
    · refine forall_mem_onward fun _ prepped _ => List.forall_mem_append.mpr
        ⟨hcourse _ .Gate _ (h.gates _), forall_mem_onward fun recognition inner _ => ?_⟩
      split
      · exact List.forall_mem_nil _
      · exact h.one rfl
  induction hashes generalizing ctx with
  | nil => exact List.forall_mem_nil _
  | cons hash hashes ih =>
    unfold conditions_course
    split
    · exact List.forall_mem_nil _
    · refine List.forall_mem_append.mpr ⟨?_, forall_mem_onward fun _ next _ => ih next⟩
      unfold condition_course
      split
      · exact hgate _ ctx
      · exact hgate _ ctx
      · exact List.forall_mem_nil _

theorem delegate_covered (rule : Rule) (ctx : EvaluatorContext) :
    ∀ event ∈ delegate_course env rec course rule ctx, p event := by
  unfold delegate_course
  split
  · exact List.forall_mem_nil _
  · split
    · exact List.forall_mem_nil _
    · refine forall_mem_onward fun _ prepped _ => List.forall_mem_append.mpr
        ⟨hcourse _ .Experiment prepped (h.experiments _), forall_mem_onward fun _ _ _ => ?_⟩
      split
      · exact List.forall_mem_nil _
      · exact h.one rfl

theorem rules_covered (spec : Spec) (filter_active : Bool) (rules : List Rule)
    (ctx : EvaluatorContext) :
    ∀ event ∈ rules_course env rec course spec filter_active rules ctx, p event := by
  induction rules generalizing ctx with
  | nil => exact h.one rfl
  | cons rule rules ih =>
    unfold rules_course
    split
    · exact ih ctx
    · refine List.forall_mem_append.mpr
        ⟨conditions_covered h hcourse _ ctx, forall_mem_onward fun _ asked _ => ?_⟩
      split
      · exact List.forall_mem_nil _
      · split
        · exact ih asked
        · refine List.forall_mem_append.mpr
            ⟨delegate_covered h hcourse rule asked, forall_mem_onward fun delegated _ _ => ?_⟩
          split
          · exact h.one rfl
          · exact h.one rfl

theorem layer_covered {spec : Spec} (hmerges : ∀ s, p (.merges spec s)) (filter_active : Bool)
    (rules : List Rule) (s : LayerState) (ctx : EvaluatorContext) :
    ∀ event ∈ layer_course env rec course spec filter_active rules s ctx, p event := by
  induction rules generalizing s ctx with
  | nil => exact List.forall_mem_singleton.mpr (hmerges s)
  | cons rule rules ih =>
    unfold layer_course
    split
    · exact ih s ctx
    · refine List.forall_mem_append.mpr
        ⟨conditions_covered h hcourse _ ctx, forall_mem_onward fun _ asked _ => ?_⟩
      dsimp only
      split
      · exact List.forall_mem_nil _
      · split
        · exact ih _ _
        · split
          · exact ih _ _
          · refine List.forall_mem_append.mpr
              ⟨delegate_covered h hcourse rule _, forall_mem_onward fun delegated c _ => ?_⟩
            split
            · split
              · exact ih _ c
              · split
                · exact ih _ c
                · split
                  · exact ih _ c
                  · exact ih _ _
            · exact ih _ c

theorem spec_covered {node : Node} (hnode : nodes node) (filter_active : Bool)
    (ctx : EvaluatorContext) :
    ∀ event ∈ spec_course env rec course filter_active node.2 node.1 (spec_of env node) ctx,
      p event := by
  unfold spec_course
  cases hspec : spec_of env node with
  | none => exact List.forall_mem_nil _
  | some spec =>
    refine List.forall_mem_cons.mpr ⟨h.plain _ rfl, ?_⟩
    dsimp only
    split
    · rename_i hlayer
      have hmerges := h.merges node hnode ⟨hlayer.2, spec, hspec, hlayer.1⟩ spec
      split
      · exact h.one rfl
      · exact layer_covered h hcourse hmerges _ _ _ _
    · split
      · exact h.one rfl
      · exact rules_covered h hcourse spec _ _ _

theorem cmab_covered (name : String) (ty : SpecType) (ctx : EvaluatorContext) :
    ∀ event ∈ cmab_course env rec course name ty ctx, p event := by
  unfold cmab_course
  split
  · rename_i cmabs hcmabs
    have hsome : env.specs_data.cmab_configs ≠ none := by simp [hcmabs]
    split
    · exact List.forall_mem_nil _
    · rename_i cmab _
      have henters := h.enters hsome cmab
      split
      · exact List.forall_mem_singleton.mpr henters
      · refine List.forall_mem_append.mpr ⟨?_, forall_mem_onward fun passes c _ =>
          List.forall_mem_cons.mpr ⟨henters, ?_⟩⟩
        · unfold targeting_course
          split
          · exact List.forall_mem_nil _
          · exact forall_mem_onward fun _ prepped _ => hcourse _ .Gate prepped (h.gates _)
        · split
          · exact List.forall_mem_singleton.mpr (h.assigns hsome _)
          · exact List.forall_mem_nil _
  · exact List.forall_mem_nil _

end Covers

/-- Without overrides and mappings, the courses have the events that are covered. -/
theorem evaluate_course_covered {env : EvaluatorEnv} {nodes : Node → Prop} {p : Event → Prop}
    (h : Covers env nodes p) (hadapter : env.override_adapter = none)
    (hmapped : env.specs_data.overrides = none) (depth : Nat) {name : String} {ty : SpecType}
    (hnode : nodes (ty, name)) (ctx : EvaluatorContext) :
    ∀ event ∈ evaluate_course env depth name ty ctx, p event := by
  induction depth generalizing name ty ctx with
  | zero => exact List.forall_mem_nil _
  | succ depth ih =>
    have hcourse := fun name ty ctx (hnode : nodes (ty, name)) => ih hnode ctx
    by_cases hty : ty = .ParameterStore
    · rw [show evaluate_course env (depth + 1) name ty ctx = [] from if_pos hty]
      exact List.forall_mem_nil _
    rw [show evaluate_course env (depth + 1) name ty ctx = _ from
      course_with_unmapped hadapter hmapped hty ctx]
    split
    · exact spec_covered h hcourse hnode true ctx
    · refine List.forall_mem_append.mpr
        ⟨cmab_covered h hcourse name ty ctx, forall_mem_onward fun applied c _ => ?_⟩
      split
      · exact List.forall_mem_nil _
      · exact spec_covered h hcourse hnode false c

end statsig_rust.evaluation
