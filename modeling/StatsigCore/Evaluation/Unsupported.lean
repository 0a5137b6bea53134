-- What a gate is worth once something in it is unsupported. A rule that meets an
-- unsupported condition ends with whatever value the result held by then. The
-- ends that a rule may have are computed from its conditions alone.
import StatsigCore.Evaluation.CallChains
import StatsigCore.Evaluation.RuleFilter

open program Relation

namespace statsig_rust.evaluation

/-! ## How a rule may end -/

/-- A nested gate leaves any value. Out of an unmarked result it does not leave a
value that is both true and marked. -/
def gate_ends (marked : Bool) : List (Bool × Bool) :=
  if marked then [(true, true), (false, true), (true, false), (false, false)]
  else [(true, false), (false, false), (false, true)]

/-- The values that a condition may leave, each with the unsupported mark. A
condition that is not supported carries the value that it found. -/
def condition_ends (env : EvaluatorEnv) (condition : Condition) (carried marked : Bool) :
    List (Bool × Bool) :=
  match type_of condition with
  | .PassGate | .FailGate => gate_ends marked
  | .ExperimentGroup =>
    if env.statsig && condition.field.isSome && known_operator condition then
      [(true, marked), (false, marked)]
    else [((operator_outcome env condition none).getD carried,
      marked || !is_supported env condition)]
  | _ => [((leaf_outcome env condition).getD carried, marked || !is_supported env condition)]

def rule_ends (env : EvaluatorEnv) : List InternedString → Bool → Bool → Bool → List (Bool × Bool)
  | [], _, all_conditions_pass, marked => [(all_conditions_pass, marked)]
  | hash :: hashes, carried, all_conditions_pass, marked =>
    match env.specs_data.condition_map.get hash with
    | none => [(carried, true)]
    | some condition =>
      (condition_ends env condition carried marked).flatMap fun (b, marked) =>
        rule_ends env hashes b (all_conditions_pass && b) marked

/-- Of the rules that may be reached, none ends both passed and unsupported. A rule
that passes, or that is unsupported, ends the loop. -/
def quiet_rules (env : EvaluatorEnv) : List Rule → Bool
  | [] => true
  | rule :: rules =>
    (rule_ends env rule.conditions false true false).all fun (passed, marked) =>
      if marked then !passed else passed || quiet_rules env rules

/-- A point in the evaluation of a rule: the conditions that are left, and whether all of those
before them passed. -/
structure Point where
  hashes : List InternedString
  all_conditions_pass : Bool
  ctx : EvaluatorContext

/-- The points at which a run evaluates the conditions of a rule. -/
def points (env : EvaluatorEnv) (rec : Recur) :
    List InternedString → Bool → EvaluatorContext → List Point
  | [], _, _ => []
  | hash :: hashes, all_conditions_pass, ctx =>
    ⟨hash :: hashes, all_conditions_pass, ctx⟩ ::
      match env.specs_data.condition_map.get hash with
      | none => []
      | some condition =>
        onward (evaluate_condition env rec condition ctx) fun _ inner =>
          points env rec hashes (all_conditions_pass && inner.result.bool_value) inner

/-- From the point on, the conditions leave no end that is both passed and unsupported. -/
def quiet_point (env : EvaluatorEnv) (point : Point) : Bool :=
  (rule_ends env point.hashes point.ctx.result.bool_value point.all_conditions_pass
    point.ctx.result.unsupported).all fun (passed, marked) => !(passed && marked)

/-- The run comes to a point of the rule from which on the conditions are quiet. -/
def quiet_run (env : EvaluatorEnv) (rec : Recur) (rule : Rule) (ctx : EvaluatorContext) : Bool :=
  rule.conditions.isEmpty || (points env rec rule.conditions true ctx).any (quiet_point env)

/-- The value and the mark of a result. -/
def end_of (ctx : EvaluatorContext) : Bool × Bool :=
  (ctx.result.bool_value, ctx.result.unsupported)

/-- All rules are asked, and the result has one of the given ends. -/
structure Within (ends : List (Bool × Bool)) (ctx : EvaluatorContext) : Prop where
  unfiltered : filter_of ctx = (false, false)
  ends : end_of ctx ∈ ends

/-- What a call leaves: no result that is both true and unsupported. -/
structure Quiet (recognition : Recognition) (ctx : EvaluatorContext) : Prop where
  unfiltered : filter_of ctx = (false, false)
  fails : ctx.result.unsupported = true → ctx.result.bool_value = false
  unrecognized : recognition = .Unrecognized → ctx.result.unsupported = false

/-- What a call leaves when it fails: the filter. -/
def Failed (_ : StatsigErr) (ctx : EvaluatorContext) : Prop := filter_of ctx = (false, false)

/-- From an unmarked result, the call leaves a quiet one. -/
def QuietCall (rec : Recur) (b : Node) (ctx : EvaluatorContext) : Prop :=
  Within [(false, false)] ctx → (rec b.2 b.1 ctx).Meets Quiet Failed True

/-- What is known of a step: the rule that it asks has a quiet run, or the call that it makes is
quiet. -/
def Step.Quiets (env : EvaluatorEnv) (rec : Recur) : Step → Prop
  | .asks rule ctx => quiet_run env rec rule ctx = true
  | .nests b ctx => QuietCall rec b ctx
  | .maps b ctx => QuietCall rec b ctx
  | _ => True

/-- Where its steps are allowed, a run from `ctx` meets its postconditions. -/
abbrev Settles {α : Type} (allowed : Step → Prop) (ctx : EvaluatorContext) (x : Eval α)
    (steps : List Step) (Q : α → EvaluatorContext → Prop)
    (E : StatsigErr → EvaluatorContext → Prop) (D : Prop) : Prop :=
  Takes allowed (fun _ => True) ctx x steps Q E D

theorem settles_of_meets {α : Type} {allowed : Step → Prop} {ctx : EvaluatorContext} {x : Eval α}
    {steps : List Step} {Q : α → EvaluatorContext → Prop}
    {E : StatsigErr → EvaluatorContext → Prop} {D : Prop} (h : (x ctx).Meets Q E D) :
    Settles allowed ctx x steps Q E D :=
  fun _ => ⟨fun _ _ => trivial, h⟩

theorem Within.eq {e : Bool × Bool} {ctx : EvaluatorContext} (h : Within [e] ctx) :
    end_of ctx = e := List.mem_singleton.mp h.ends

section Conditions

variable {env : EvaluatorEnv} {rec : Recur} {allowed : Step → Prop}
  {E : StatsigErr → EvaluatorContext → Prop} {D : Prop}

theorem mem_gate_ends {b u marked : Bool} (h : marked = false → u = true → b = false) :
    (b, u) ∈ gate_ends marked := by
  cases marked <;> cases u <;> cases b <;> simp_all [gate_ends]

theorem record_nested_gate_unsupported (gate : InternedString) (ty : ConditionType)
    (ctx : EvaluatorContext) :
    (record_nested_gate gate ty ctx).result.unsupported = ctx.result.unsupported :=
  record_nested_gate_keeps (I := fun _ u => u = ctx.result.unsupported) rfl

/-- From a marked result, a nested call only keeps the filter. -/
theorem nested_call_ends {b : Node} {ctx : EvaluatorContext} {marked : Bool}
    (hquiet : QuietCall rec b ctx) (hsteady : Steady (rec b.2 b.1))
    (hctx : Within [(false, marked)] ctx) :
    (rec b.2 b.1 ctx).Meets (fun _ c => filter_of c = (false, false) ∧
      (marked = false → c.result.unsupported = true → c.result.bool_value = false))
      Failed True := by
  cases marked with
  | false => exact (hquiet hctx).mono (fun _ _ h => ⟨h.unfiltered, fun _ => h.fails⟩) fun _ _ h => h
  | true =>
    exact (hsteady (false, false) ctx hctx.unfiltered).mono
      (fun _ _ h => ⟨h, fun hmarked => absurd hmarked (by decide)⟩) fun _ _ h => h

theorem prep_ends (carried marked : Bool) :
    Triple (Within [(carried, marked)]) prep_for_nested_evaluation
      (fun _ => Within [(false, marked)]) Failed True := by
  intro ctx h
  have hmark : ctx.result.unsupported = marked := congrArg Prod.snd h.eq
  unfold prep_for_nested_evaluation
  dsimp only
  split
  · exact h.unfiltered
  · refine ⟨h.unfiltered, List.mem_singleton.mpr ?_⟩
    rw [← hmark]
    rfl

theorem evaluate_nested_gate_ends {target : MemoizedEvaluatorValue}
    (hcall : ∀ c, allowed (.nests (.Gate, gate_name_of target) c) →
      QuietCall rec (.Gate, gate_name_of target) c)
    (hsteady : Steady (rec (gate_name_of target) .Gate)) (ty : ConditionType)
    {carried marked : Bool} {ctx : EvaluatorContext} (hctx : Within [(carried, marked)] ctx) :
    Settles allowed ctx (evaluate_nested_gate rec target ty) (nested_gate_steps target ctx)
      (fun _ => Within (gate_ends marked)) Failed True := by
  unfold evaluate_nested_gate nested_gate_steps
  refine takes_state ?_
  cases hmemo : ctx.nested_gate_memo.get (gate_name_of target) with
  | some memo =>
    simp only [hmemo]
    have hmark : ctx.result.unsupported = marked := congrArg Prod.snd hctx.eq
    refine takes_none (Q := fun _ => Within (gate_ends marked))
      ⟨(filter_of_fixed (record_nested_gate_fixed ..)).trans hctx.unfiltered, mem_gate_ends ?_⟩
    rw [record_nested_gate_unsupported]
    rintro rfl h
    exact absurd (hmark.symm.trans h) (by decide)
  | none =>
    simp only [hmemo]
    refine takes_cons trivial fun _ =>
      takes_after (prep_ends carried marked ctx hctx) fun _ prepped hprepped => ?_
    refine takes_state (takes_after_update ?_)
    have hstart : Within [(false, marked)] (take_exposures prepped) :=
      ⟨hprepped.unfiltered, hprepped.ends⟩
    refine (takes_one trivial fun hallowed =>
      nested_call_ends (hcall _ hallowed) hsteady hstart).bind_quiet fun _ inner hinner => ?_
    simp only [state_bind]
    split
    · exact ⟨hinner.1, mem_gate_ends hinner.2⟩
    · rename_i hsupported
      refine ⟨(filter_of_fixed (record_nested_gate_fixed ..)).trans hinner.1, mem_gate_ends ?_⟩
      rw [record_nested_gate_unsupported]
      exact fun _ h => absurd h hsupported

/-- What the conditions of a rule rely on. -/
structure EndFrame (env : EvaluatorEnv) (rec : Recur) (allowed : Step → Prop)
    (hashes : List InternedString) (E : StatsigErr → EvaluatorContext → Prop) (D : Prop) :
    Prop where
  gate : ∀ target, GateCondition env hashes (gate_name_of target) → ∀ ty carried marked ctx,
    Within [(carried, marked)] ctx →
      Settles allowed ctx (evaluate_nested_gate rec target ty) (nested_gate_steps target ctx)
        (fun _ => Within (gate_ends marked)) E D
  group : ∀ name, GroupCondition env hashes name →
    Triple (fun _ => True) (rec name .Experiment) (fun _ _ => True) (fun _ _ => True) D

theorem EndFrame.tail {hash : InternedString} {hashes : List InternedString}
    (frame : EndFrame env rec allowed (hash :: hashes) E D) :
    EndFrame env rec allowed hashes E D where
  gate := by
    rintro target ⟨h, hmem, hrest⟩
    exact frame.gate target ⟨h, List.mem_cons_of_mem _ hmem, hrest⟩
  group := by
    rintro name ⟨h, hmem, hrest⟩
    exact frame.group name ⟨h, List.mem_cons_of_mem _ hmem, hrest⟩

theorem apply_operator_end (condition : Condition) (value : Option DynamicValue)
    (ctx : EvaluatorContext) :
    end_of (apply_operator env condition value ctx) =
      ((operator_outcome env condition value).getD ctx.result.bool_value,
        ctx.result.unsupported || !known_operator condition) := by
  have hknown := operator_outcome_isSome env condition value
  unfold apply_operator
  cases houtcome : operator_outcome env condition value with
  | some b =>
    rw [houtcome] at hknown
    rw [← hknown]
    exact Prod.ext rfl (Bool.or_false _).symm
  | none =>
    rw [houtcome] at hknown
    rw [← hknown]
    exact Prod.ext rfl (Bool.or_true _).symm

/-- The experiment runs in a context of its own. -/
theorem get_experiment_group_name_within {name : String} {ends : List (Bool × Bool)}
    (h : Triple (fun _ => True) (rec name .Experiment) (fun _ _ => True) (fun _ _ => True) D) :
    Triple (Within ends) (get_experiment_group_name rec name) (fun _ => Within ends) E D := by
  intro ctx hctx
  have hrun := h { draws := ctx.draws } trivial
  unfold get_experiment_group_name
  revert hrun
  cases rec name .Experiment { draws := ctx.draws } with
  | ok _ _ => exact fun _ => ⟨hctx.unfiltered, hctx.ends⟩
  | err _ _ => exact fun _ => ⟨hctx.unfiltered, hctx.ends⟩
  | deep => exact fun h => h

theorem evaluate_group_condition_ends {hash : InternedString} {hashes : List InternedString}
    {condition : Condition} (frame : EndFrame env rec allowed (hash :: hashes) E D)
    (hget : env.specs_data.condition_map.get hash = some condition)
    (hty : type_of condition = .ExperimentGroup) (carried marked : Bool) :
    Triple (Within [(carried, marked)])
      (do
        let group_name ← evaluate_experiment_group env rec condition.field
        update (apply_operator env condition (group_name.map env.parsers.from_string)))
      (fun _ => Within
        (if env.statsig && condition.field.isSome && known_operator condition then
          [(true, marked), (false, marked)]
        else [((operator_outcome env condition none).getD carried,
          marked || !is_supported env condition)])) E D := by
  unfold evaluate_experiment_group
  cases hfield : condition.field with
  | none =>
    refine Triple.bind (Q := fun group c => group = none ∧ Within [(carried, marked)] c)
      (triple_pure fun c hc => ⟨rfl, hc⟩) fun group => triple_update fun c hc => ?_
    obtain ⟨rfl, hc⟩ := hc
    have hfields := hc.eq
    cases hfields
    simp only [is_supported, hty, hfield, Option.isNone_none, Bool.or_true, Bool.true_and,
      Option.isSome_none, Bool.and_false, Bool.false_and, Bool.false_eq_true, ↓reduceIte]
    exact ⟨(filter_of_fixed (apply_operator_fixed ..)).trans hc.unfiltered,
      List.mem_singleton.mpr (apply_operator_end ..)⟩
  | some field =>
    cases hs : env.statsig with
    | false =>
      simp only [Bool.false_eq_true, ↓reduceIte]
      refine Triple.bind (Q := fun group c => group = none ∧ Within [(carried, true)] c)
        (triple_update_bind (M := Within [(carried, true)]) (fun c hc => ⟨hc.unfiltered, ?_⟩)
          (triple_pure fun c hc => ⟨rfl, hc⟩)) fun group => triple_update fun c hc => ?_
      · have hbool : c.result.bool_value = carried := congrArg Prod.fst hc.eq
        rw [← hbool]
        exact List.mem_singleton.mpr rfl
      · obtain ⟨rfl, hc⟩ := hc
        have hbool : c.result.bool_value = carried := congrArg Prod.fst hc.eq
        have hmark : c.result.unsupported = true := congrArg Prod.snd hc.eq
        refine ⟨(filter_of_fixed (apply_operator_fixed ..)).trans hc.unfiltered, ?_⟩
        rw [apply_operator_end, hbool, hmark]
        simp [is_supported, hty, hs, hfield]
    | true =>
      simp only [↓reduceIte]
      have hgroup := frame.group field.value
        ⟨hash, List.mem_cons_self .., condition, field, hget, hty, hfield, rfl, hs⟩
      refine Triple.bind (Q := fun _ => Within [(carried, marked)])
        (get_experiment_group_name_within hgroup) fun group => triple_update fun c hc => ?_
      refine ⟨(filter_of_fixed (apply_operator_fixed ..)).trans hc.unfiltered, ?_⟩
      have hfields := hc.eq
      cases hfields
      rw [apply_operator_end]
      cases hknown : known_operator condition with
      | true =>
        simp only [Option.isSome_some, Bool.and_self, ↓reduceIte, Bool.not_true, Bool.or_false]
        cases (operator_outcome env condition _).getD c.result.bool_value <;> simp
      | false =>
        have houtcome : ∀ value, operator_outcome env condition value = none := by
          intro value
          have h := operator_outcome_isSome env condition value
          rw [hknown] at h
          exact Option.isNone_iff_eq_none.mp (by simpa using h)
        simp [houtcome, is_supported, hty, hknown]

theorem evaluate_condition_ends {hash : InternedString} {hashes : List InternedString}
    {condition : Condition} (frame : EndFrame env rec allowed (hash :: hashes) E D)
    (hget : env.specs_data.condition_map.get hash = some condition) {carried marked : Bool}
    {ctx : EvaluatorContext} (hctx : Within [(carried, marked)] ctx) :
    Settles allowed ctx (evaluate_condition env rec condition) (condition_steps env condition ctx)
      (fun _ => Within (condition_ends env condition carried marked)) E D := by
  have hreading : leaf_outcome env condition =
        operator_outcome env condition (read_value env condition).value →
      is_supported env condition = known_operator condition →
      Settles allowed ctx (update (evaluate_reading env condition)) []
        (fun _ => Within [((leaf_outcome env condition).getD carried,
          marked || !is_supported env condition)]) E D := by
    intro hleaf hsupported
    refine takes_none ?_
    show Within _ (evaluate_reading env condition ctx)
    rw [hleaf, hsupported]
    have hfields := hctx.eq
    unfold evaluate_reading
    dsimp only
    constructor
    · rw [filter_of_fixed (apply_operator_fixed ..)]
      split <;> exact hctx.unfiltered
    · rw [apply_operator_end, List.mem_singleton]
      cases hfields
      split <;> rfl
  have hgate : GateCondition env (hash :: hashes) (gate_name_of (target_of condition)) ∨
      (type_of condition ≠ .PassGate ∧ type_of condition ≠ .FailGate) := by
    by_cases hpass : type_of condition = .PassGate
    · exact .inl ⟨hash, List.mem_cons_self .., condition, hget, .inl hpass, rfl⟩
    · by_cases hfail : type_of condition = .FailGate
      · exact .inl ⟨hash, List.mem_cons_self .., condition, hget, .inr hfail, rfl⟩
      · exact .inr ⟨hpass, hfail⟩
  unfold evaluate_condition condition_ends condition_steps
  cases hty : type_of condition
  case Public =>
    refine takes_none ⟨hctx.unfiltered, List.mem_singleton.mpr ?_⟩
    have hmark : ctx.result.unsupported = marked := congrArg Prod.snd hctx.eq
    simp [leaf_outcome, is_supported, hty, end_of, EvaluatorContext.set_bool, hmark]
  case FailGate => exact frame.gate _ (hgate.resolve_right fun h => h.2 hty) _ _ _ ctx hctx
  case PassGate => exact frame.gate _ (hgate.resolve_right fun h => h.1 hty) _ _ _ ctx hctx
  case Unknown =>
    refine takes_none ⟨hctx.unfiltered, List.mem_singleton.mpr ?_⟩
    have hbool : ctx.result.bool_value = carried := congrArg Prod.fst hctx.eq
    simp [leaf_outcome, is_supported, hty, end_of, EvaluatorContext.set_unsupported, hbool]
  case ExperimentGroup =>
    exact settles_of_meets (evaluate_group_condition_ends frame hget hty carried marked ctx hctx)
  all_goals exact hreading (by simp [leaf_outcome, hty]) (by simp [is_supported, hty])

theorem evaluate_conditions_ends {hashes : List InternedString}
    (frame : EndFrame env rec allowed hashes E D) {carried marked : Bool} (all : Bool)
    {ctx : EvaluatorContext} (hctx : Within [(carried, marked)] ctx) :
    Settles allowed ctx (evaluate_conditions env rec hashes all)
      (conditions_steps env rec hashes ctx)
      (fun _ => Within (rule_ends env hashes carried all marked)) E D := by
  induction hashes generalizing carried all marked ctx with
  | nil =>
    refine takes_none ⟨hctx.unfiltered, List.mem_singleton.mpr ?_⟩
    have hmark : ctx.result.unsupported = marked := congrArg Prod.snd hctx.eq
    exact Prod.ext rfl hmark
  | cons hash hashes ih =>
    unfold evaluate_conditions rule_ends conditions_steps
    cases hget : env.specs_data.condition_map.get hash with
    | none =>
      refine takes_none ⟨hctx.unfiltered, List.mem_singleton.mpr ?_⟩
      have hbool : ctx.result.bool_value = carried := congrArg Prod.fst hctx.eq
      exact Prod.ext hbool rfl
    | some condition =>
      dsimp only
      refine (evaluate_condition_ends frame hget hctx).bind fun _ c hc => takes_state ?_
      have hhere : Within [(c.result.bool_value, c.result.unsupported)] c :=
        ⟨hc.unfiltered, List.mem_singleton.mpr rfl⟩
      refine (ih frame.tail (all && c.result.bool_value) hhere).weaken ?_ fun _ _ h => h
      exact fun _ c' hc' =>
        ⟨hc'.unfiltered, List.mem_flatMap.mpr ⟨_, hc.ends, hc'.ends⟩⟩

end Conditions

section Points

variable {env : EvaluatorEnv} {rec : Recur} (hsteady : ∀ name ty, Steady (rec name ty))

include hsteady

theorem quiet_frame (hashes : List InternedString) :
    EndFrame env rec (Step.Quiets env rec) hashes Failed True where
  gate _ _ ty _ _ _ hctx := evaluate_nested_gate_ends (fun _ h => h) (hsteady _ _) ty hctx
  group _ _ := triple_true _

/-- A rule does not end both passed and unsupported if its run comes to a quiet point. -/
theorem evaluate_conditions_quiet (hashes : List InternedString) (all : Bool)
    {ctx : EvaluatorContext} (hctx : filter_of ctx = (false, false))
    (hquiet : (points env rec hashes all ctx).any (quiet_point env) = true) :
    Settles (Step.Quiets env rec) ctx (evaluate_conditions env rec hashes all)
      (conditions_steps env rec hashes ctx)
      (fun _ c => filter_of c = (false, false) ∧
        (c.result.unsupported = true → c.result.bool_value = false)) Failed True := by
  induction hashes generalizing all ctx with
  | nil => cases hquiet
  | cons hash hashes ih =>
    rcases Bool.or_eq_true_iff.mp hquiet with hhere | hlater
    · have hstart : Within [(ctx.result.bool_value, ctx.result.unsupported)] ctx :=
        ⟨hctx, List.mem_singleton.mpr rfl⟩
      refine (evaluate_conditions_ends (quiet_frame hsteady _) all hstart).weaken ?_
        fun _ _ h => h
      intro _ c hc
      have hend := List.all_eq_true.mp hhere _ hc.ends
      unfold end_of at hend
      refine ⟨hc.unfiltered, fun hmark => ?_⟩
      simpa [hmark] using hend
    · unfold evaluate_conditions conditions_steps
      cases hget : env.specs_data.condition_map.get hash with
      | none =>
        rw [hget] at hlater
        cases hlater
      | some condition =>
        rw [hget] at hlater
        dsimp only at hlater ⊢
        have hkeeps := evaluate_condition_maintains (filter_stable env (false, false))
          (fun name ty => hsteady name ty (false, false)) condition ctx hctx
        -- the rest of the run starts where the condition ends
        have hrun : Settles (Step.Quiets env rec) ctx (evaluate_condition env rec condition)
            (condition_steps env condition ctx)
            (fun _ c => filter_of c = (false, false) ∧
              evaluate_condition env rec condition ctx = .ok () c) Failed True := by
          refine settles_of_meets ?_
          cases hend : evaluate_condition env rec condition ctx with
          | ok _ c =>
            rw [hend] at hkeeps
            exact ⟨hkeeps, rfl⟩
          | err e c =>
            rw [hend] at hkeeps
            exact hkeeps
          | deep => trivial
        refine hrun.bind fun _ c hc => takes_state (ih _ hc.1 ?_)
        rw [hc.2] at hlater
        exact hlater

theorem evaluate_rule_quiet {rule : Rule} {ctx : EvaluatorContext}
    (hctx : Within [(false, false)] ctx) (hquiet : quiet_run env rec rule ctx = true) :
    Settles (Step.Quiets env rec) ctx (evaluate_rule env rec rule)
      (conditions_steps env rec rule.conditions ctx)
      (fun _ c => filter_of c = (false, false) ∧
        (c.result.unsupported = true → c.result.bool_value = false)) Failed True := by
  rcases Bool.or_eq_true_iff.mp hquiet with hempty | hpoint
  · unfold evaluate_rule
    rw [List.isEmpty_iff.mp hempty]
    refine settles_of_meets ⟨hctx.unfiltered, fun hmark => ?_⟩
    have hunmarked : ctx.result.unsupported = false := congrArg Prod.snd hctx.eq
    exact absurd (hunmarked.symm.trans hmark) (by decide)
  · exact evaluate_conditions_quiet hsteady rule.conditions true hctx.unfiltered hpoint

end Points

/-! ## A whole call -/

/-- What a part of a call leaves: a quiet result when it decides, and the start of
the call when it does not. -/
def Leaves : Bool → EvaluatorContext → Prop
  | true => Quiet .Recognized
  | false => Within [(false, false)]

/-- An override adapter that decides with a quiet result, or leaves no trace. -/
def QuietAdapter (env : EvaluatorEnv) : Prop :=
  ∀ node : Node, Triple (Within [(false, false)])
    (try_apply_override env node.2 node.1 (spec_of env node)) Leaves Failed True

section Parts

variable {env : EvaluatorEnv} {rec : Recur} {ctx : EvaluatorContext}

theorem Within.supported {b : Bool} (h : Within [(b, false)] ctx) : Quiet .Unrecognized ctx := by
  have hmark : ctx.result.unsupported = false := congrArg Prod.snd h.eq
  exact ⟨h.unfiltered, fun h' => absurd (hmark.symm.trans h') (by decide), fun _ => hmark⟩

theorem Quiet.recognized {recognition : Recognition} (h : Quiet recognition ctx) :
    Quiet .Recognized ctx :=
  ⟨h.unfiltered, h.fails, fun h' => absurd h' (by decide)⟩

/-- Fields other than the value and the mark, and a value where there is no mark,
are free to change. -/
theorem finalize_quiet (ctx : EvaluatorContext) {ctx' : EvaluatorContext} (spec : Spec)
    (rule : Option Rule)
    (hfilter : filter_of ctx' = (false, false))
    (hmark : ctx'.result.unsupported = ctx.result.unsupported)
    (hvalue : ctx'.result.bool_value = ctx.result.bool_value ∨ ctx.result.unsupported = false)
    (h : Quiet .Recognized ctx) : Quiet .Recognized (ctx'.finalize_evaluation spec rule) := by
  have hbool : (ctx'.finalize_evaluation spec rule).result.bool_value = ctx'.result.bool_value := by
    unfold EvaluatorContext.finalize_evaluation
    dsimp only
    repeat' split
    all_goals rfl
  refine ⟨(filter_of_fixed (finalize_fixed ..)).trans hfilter, ?_, fun h' => absurd h' (by decide)⟩
  rw [finalize_unsupported, hbool, hmark]
  intro hmarked
  rcases hvalue with hsame | hsupported
  · rw [hsame]
    exact h.fails hmarked
  · exact absurd (hsupported.symm.trans hmarked) (by decide)

theorem evaluate_config_delegate_quiet (rule : Rule) (hctx : Within [(true, false)] ctx) :
    Settles (Step.Quiets env rec) ctx (evaluate_config_delegate env rec rule)
      (delegate_steps env rule ctx)
      (fun delegated => Quiet (if delegated then .Recognized else .Unrecognized)) Failed True := by
  unfold evaluate_config_delegate delegate_steps
  cases rule.config_delegate with
  | none => exact takes_pure hctx.supported
  | some delegate =>
    dsimp only
    cases env.specs_data.dynamic_configs.get delegate with
    | none => exact takes_pure hctx.supported
    | some delegate_spec =>
      refine takes_after_update ?_
      refine takes_cons trivial fun _ =>
        takes_after (prep_ends true false _ ⟨hctx.unfiltered, hctx.ends⟩)
          fun _ prepped hprepped => ?_
      refine (takes_one trivial fun hallowed => hallowed hprepped).bind_quiet
        fun recognition inner hinner => ?_
      split
      · rename_i hunrecognized
        subst hunrecognized
        exact ⟨hinner.unfiltered, hinner.fails, hinner.unrecognized⟩
      · exact ⟨hinner.unfiltered, hinner.fails, hinner.recognized.unrecognized⟩

theorem get_passes_targeting_quiet (cmab : CMABConfig) (hctx : Within [(false, false)] ctx) :
    Settles (Step.Quiets env rec) ctx (get_passes_targeting rec cmab) (targeting_steps cmab ctx)
      (fun passes c => filter_of c = (false, false) ∧
        (passes = true → c.result.unsupported = false)) Failed True := by
  unfold get_passes_targeting targeting_steps
  cases cmab.targeting_gate_name with
  | none => exact takes_pure ⟨hctx.unfiltered, fun _ => congrArg Prod.snd hctx.eq⟩
  | some gate =>
    dsimp only
    refine takes_cons trivial fun _ => takes_after_attempt (prep_ends false false ctx hctx)
      (fun _ prepped hprepped => ?_) fun _ c hc => ⟨hc, fun h => absurd h (by decide)⟩
    have hcall : Settles (Step.Quiets env rec) prepped (rec gate .Gate)
        [.nests (.Gate, gate) prepped]
        Quiet Failed True := takes_one trivial fun hallowed => hallowed hprepped
    have hattempt := Takes.attempt (R := fun r c => filter_of c = (false, false) ∧
      (r.isOk → Quiet .Recognized c)) (hcall.weaken (fun _ _ h => ⟨h.unfiltered, fun _ =>
        h.recognized⟩) fun _ _ h => ⟨h, fun h' => absurd h' (by simp [Except.isOk, Except.toBool])⟩)
      (E := Failed)
    refine hattempt.bind_quiet fun recognition c hc => ?_
    show filter_of (push_targeting_exposure _ _ c) = _ ∧ _
    have hpush : ∀ passes, filter_of (push_targeting_exposure gate passes c) = filter_of c ∧
        (push_targeting_exposure gate passes c).result.unsupported = c.result.unsupported := by
      intro passes
      unfold push_targeting_exposure
      split <;> exact ⟨rfl, rfl⟩
    refine ⟨(hpush _).1.trans hc.1, ?_⟩
    rw [(hpush _).2]
    cases recognition with
    | error e => exact fun h => absurd h Bool.false_ne_true
    | ok r =>
      intro hpasses
      by_contra hmark
      have hfails := (hc.2 rfl).fails (Bool.not_eq_false _ ▸ hmark)
      exact absurd (hfails.symm.trans hpasses) (by decide)

theorem evaluate_cmab_quiet (name : String) (ty : SpecType) (hctx : Within [(false, false)] ctx) :
    Settles (Step.Quiets env rec) ctx (evaluate_cmab env rec name ty) (cmab_steps env name ty ctx)
      Leaves Failed True := by
  have hdefault : ∀ cmab rule_id c, filter_of c = (false, false) →
      Quiet .Recognized (apply_cmab_default cmab rule_id c) :=
    fun _ _ _ hc => ⟨hc, fun _ => rfl, fun h => absurd h (by decide)⟩
  have hnone : Settles (Step.Quiets env rec) ctx (pure false : Eval Bool) [] Leaves Failed True :=
    takes_pure hctx
  unfold evaluate_cmab cmab_steps
  cases ty
  case Experiment =>
    cases env.specs_data.cmab_configs with
    | none => exact hnone
    | some cmabs =>
      dsimp only
      cases cmabs.get name with
      | none => exact hnone
      | some cmab =>
        dsimp only
        split
        · exact takes_update_pure (Q := Leaves) (hdefault _ _ _ hctx.unfiltered)
        · refine (get_passes_targeting_quiet cmab hctx).bind_quiet fun passes c hc => ?_
          split
          · rename_i hpasses
            have hmark : (assign_cmab_group env cmab (set_cmab_fields cmab c)).result.unsupported =
                false :=
              assign_cmab_group_keeps (I := fun _ u => u = false) (hc.2 hpasses)
            exact ⟨(filter_of_fixed (assign_cmab_group_fixed ..)).trans hc.1,
              fun h => absurd (hmark.symm.trans h) (by decide), fun h => absurd h (by decide)⟩
          · exact hdefault _ _ _ hc.1
  all_goals exact hnone

end Parts

section Call

variable {env : EvaluatorEnv} {rec : Recur} {ctx : EvaluatorContext}
  (hsteady : ∀ name ty, Steady (rec name ty)) (hctx : Within [(false, false)] ctx)

include hsteady hctx

theorem evaluate_rules_quiet (spec : Spec) (rules : List Rule) :
    Settles (Step.Quiets env rec) ctx (evaluate_rules env rec spec false rules)
      (rules_steps env rec false rules ctx) Quiet Failed True := by
  induction rules generalizing ctx with
  | nil =>
    exact takes_update_pure (finalize_quiet ctx spec none hctx.unfiltered rfl
      (.inr (congrArg Prod.snd hctx.eq)) hctx.supported.recognized)
  | cons rule rules ih =>
    unfold evaluate_rules rules_steps
    simp only [Bool.false_and, Bool.false_eq_true, ↓reduceIte]
    refine takes_state (takes_cons trivial fun hallowed => ?_)
    refine (evaluate_rule_quiet hsteady hctx hallowed).bind fun _ asked hasked => takes_state ?_
    cases hmark : asked.result.unsupported with
    | true =>
      simp only [↓reduceIte]
      exact takes_pure ⟨hasked.1, hasked.2, fun h => absurd h (by decide)⟩
    | false =>
      simp only [Bool.false_eq_true, ↓reduceIte]
      cases hbool : asked.result.bool_value with
      | false =>
        simp only [Bool.not_false, ↓reduceIte]
        exact ih ⟨hasked.1, List.mem_singleton.mpr (Prod.ext hbool hmark)⟩
      | true =>
        simp only [Bool.not_true, Bool.false_eq_true, ↓reduceIte]
        have hpassed : Within [(true, false)] asked :=
          ⟨hasked.1, List.mem_singleton.mpr (Prod.ext hbool hmark)⟩
        refine (evaluate_config_delegate_quiet rule hpassed).bind_quiet fun delegated c hc => ?_
        split
        · exact finalize_quiet c spec none hc.unfiltered rfl (.inl rfl) hc.recognized
        · rename_i hnot
          rw [if_neg hnot] at hc
          exact finalize_quiet c spec (some rule) hc.unfiltered rfl (.inr (hc.unrecognized rfl))
            hc.recognized

theorem try_override_rules_quiet (ty : SpecType) (salt name : InternedString)
    (override_rules : HashMap String Rule) (rules : List OverrideRule) :
    Settles (Step.Quiets env rec) ctx (try_override_rules env rec ty salt name override_rules rules)
      (override_rules_steps env rec ty salt name override_rules rules ctx) Leaves Failed True := by
  have hreset : ∀ c, filter_of c = (false, false) → Within [(false, false)] c.reset_result :=
    fun c hc => ⟨hc, List.mem_singleton.mpr rfl⟩
  induction rules generalizing ctx with
  | nil => exact takes_pure hctx
  | cons override_rule rules ih =>
    unfold try_override_rules override_rules_steps
    cases started_rule env override_rules override_rule with
    | none => exact ih hctx
    | some rule =>
      dsimp only
      have htried : Steady (attempt (evaluate_rule env rec rule)) :=
        (evaluate_rule_steady hsteady rule).attempt
      refine takes_cons trivial fun _ =>
        (settles_of_meets (htried _ ctx hctx.unfiltered)).bind fun evaluated tried hfilter => ?_
      refine takes_state (takes_after_update ?_)
      split
      · refine takes_after_update ?_
        have hstart : Within [(false, false)] { tried.reset_result with
            result.override_config_name := some name } := ⟨hfilter, (hreset tried hfilter).ends⟩
        have hcall : Settles (Step.Quiets env rec) _ (rec name ty) [.maps (ty, name) _] Quiet Failed
            True := takes_one trivial fun hallowed => hallowed hstart
        have hattempt := Takes.attempt (R := fun r c => filter_of c = (false, false) ∧
          (r.isOk → Quiet .Recognized c)) (hcall.weaken (fun _ _ h => ⟨h.unfiltered, fun _ =>
            h.recognized⟩) fun _ _ h => ⟨h, fun h' => absurd h' (by
              simp [Except.isOk, Except.toBool])⟩) (E := Failed)
        refine hattempt.bind_quiet fun recognition c hc => ?_
        split
        · exact hc.2 rfl
        · exact hreset c hc.1
      · exact ih (hreset tried hfilter)

theorem try_apply_config_mapping_quiet (name : String) (ty : SpecType) (opt_spec : Option Spec) :
    Settles (Step.Quiets env rec) ctx (try_apply_config_mapping env rec name ty opt_spec)
      (config_mapping_steps env rec name ty opt_spec ctx) Leaves Failed True := by
  have hmappings : ∀ salt override_rules (mappings : List ConfigMapping) (c : EvaluatorContext),
      Within [(false, false)] c →
      Settles (Step.Quiets env rec) c (try_mappings env rec ty salt override_rules mappings)
        (mappings_steps env rec ty salt override_rules mappings c) Leaves Failed True := by
    intro salt override_rules mappings
    induction mappings with
    | nil => exact fun c hc => takes_pure hc
    | cons mapping mappings ih =>
      intro c hc
      unfold try_mappings mappings_steps
      refine (try_override_rules_quiet hsteady hc ty salt _ override_rules _).bind
        fun applied c hc => ?_
      cases applied with
      | true => exact takes_pure hc
      | false => exact ih c hc
  unfold try_apply_config_mapping config_mapping_steps
  cases env.specs_data.overrides with
  | none => exact takes_pure hctx
  | some overrides =>
    cases env.specs_data.override_rules with
    | none => exact takes_pure hctx
    | some override_rules =>
      dsimp only
      cases overrides.get name with
      | none => exact takes_pure hctx
      | some mapping_list => exact hmappings _ override_rules mapping_list ctx hctx

theorem evaluate_spec_quiet {name : String} {ty : SpecType} (hty : ty ≠ .Layer)
    (opt_spec : Option Spec) :
    Settles (Step.Quiets env rec) ctx (evaluate_spec env rec false name ty opt_spec)
      (spec_steps env rec false name ty opt_spec ctx) Quiet Failed True := by
  unfold evaluate_spec spec_steps
  cases opt_spec with
  | none => exact takes_pure hctx.supported
  | some spec =>
    have hbegin : Within [(false, false)] (begin_spec name spec ctx) :=
      ⟨hctx.unfiltered, hctx.ends⟩
    refine takes_after_update ?_
    dsimp only
    rw [if_neg fun h => hty h.2, if_neg fun h => hty h.2]
    refine takes_state ?_
    simp only [Bool.false_and, Bool.false_eq_true, ↓reduceIte]
    exact evaluate_rules_quiet hsteady hbegin spec spec.rules

theorem evaluate_with_quiet (hadapter : QuietAdapter env) {node : Node} (hty : node.1 ≠ .Layer) :
    Settles (Step.Quiets env rec) ctx (evaluate_with env rec node.2 node.1)
      (steps_with env rec node.2 node.1 ctx) Quiet Failed True := by
  unfold evaluate_with steps_with
  by_cases hstore : node.1 = .ParameterStore
  · rw [if_pos hstore, if_pos hstore]
    exact takes_pure ⟨hctx.unfiltered, hctx.supported.fails,
      fun _ => hctx.supported.unrecognized rfl⟩
  · rw [if_neg hstore, if_neg hstore]
    refine takes_state ?_
    obtain ⟨htargeting, hoverrides⟩ := Prod.mk.inj hctx.unfiltered
    simp only [htargeting, hoverrides, Bool.or_self, Bool.and_false, Bool.false_eq_true,
      ↓reduceIte]
    have hoverride := hadapter node ctx hctx
    refine takes_after hoverride fun overridden c hc => ?_
    cases overridden with
    | true => exact takes_pure hc
    | false =>
      refine (try_apply_config_mapping_quiet hsteady hc _ _ _).bind fun mapped c hc => ?_
      cases mapped with
      | true => exact takes_pure hc
      | false =>
        refine (evaluate_cmab_quiet _ _ hc).bind fun applied c hc => ?_
        cases applied with
        | true => exact takes_pure hc
        | false => exact evaluate_spec_quiet hsteady hc hty _

end Call

/-! ## A whole run -/

/-- Every rule that the call asks has a quiet run. -/
def Call.Quiets (env : EvaluatorEnv) (a : Call) : Prop :=
  ∀ depth rule ctx, .asks rule ctx ∈ a.steps env depth →
    quiet_run env (evaluate env depth) rule ctx = true

/-- The first call makes the second one in its own context, out of an unmarked result. -/
def Call.Continues (env : EvaluatorEnv) (a b : Call) : Prop :=
  a.InPlace env b ∧ b.ctx.result.unsupported = false

theorem evaluate_quiet {env : EvaluatorEnv} (hadapter : QuietAdapter env) (depth : Nat) {a : Call}
    (hty : a.node.1 ≠ .Layer) (hctx : Within [(false, false)] a.ctx)
    (hquiet : ∀ b, ReflTransGen (Call.Continues env) a b → b.Quiets env) :
    (a.run env depth).Meets Quiet Failed True := by
  induction depth generalizing a with
  | zero => trivial
  | succ depth ih =>
    refine (evaluate_with_quiet (evaluate_steady env depth) hctx hadapter hty ?_).2
    have hcall : ∀ b : Call, a.InPlace env b → QuietCall (evaluate env depth) b.node b.ctx := by
      intro b hab hb
      have hnext : a.Continues env b := ⟨hab, congrArg Prod.snd hb.eq⟩
      exact ih (hab.no_layer hty) hb fun c hbc => hquiet c (.head hnext hbc)
    intro step hstep
    cases step with
    | asks rule ctx => exact hquiet a .refl depth rule ctx hstep
    | tries rule => trivial
    | checks ctx => trivial
    | nests node ctx => exact hcall ⟨node, ctx⟩ (.inl ⟨depth, hstep⟩)
    | groups node ctx => trivial
    | maps node ctx => exact hcall ⟨node, ctx⟩ (.inr ⟨depth, hstep⟩)

/-! ## Rules that need no other evaluation -/

/-- A rule with no nested gate, no experiment group and no delegate. -/
structure PlainRule (env : EvaluatorEnv) (rule : Rule) : Prop where
  no_gate : ∀ gate, ¬ GateCondition env rule.conditions gate
  no_group : ∀ name, ¬ GroupCondition env rule.conditions name
  no_delegate : rule.config_delegate = none

section PlainRules

variable {env : EvaluatorEnv}

/-- The conditions of a plain rule leave one end only. -/
theorem plain_rule_ends {hashes : List InternedString}
    (hgate : ∀ gate, ¬ GateCondition env hashes gate)
    (hgroup : ∀ name, ¬ GroupCondition env hashes name) (carried all marked : Bool) :
    ∃ e, rule_ends env hashes carried all marked = [e] := by
  induction hashes generalizing carried all marked with
  | nil => exact ⟨_, rfl⟩
  | cons hash hashes ih =>
    unfold rule_ends
    cases hget : env.specs_data.condition_map.get hash with
    | none => exact ⟨_, rfl⟩
    | some condition =>
      have hone : ∃ e, condition_ends env condition carried marked = [e] := by
        have hnot_gate : ∀ ty, type_of condition = ty → ty ≠ .PassGate ∧ ty ≠ .FailGate := by
          rintro _ rfl
          exact ⟨fun h => hgate _ ⟨hash, List.mem_cons_self .., condition, hget, .inl h, rfl⟩,
            fun h => hgate _ ⟨hash, List.mem_cons_self .., condition, hget, .inr h, rfl⟩⟩
        unfold condition_ends
        split
        · rename_i hty
          exact absurd rfl (hnot_gate _ hty).1
        · rename_i hty
          exact absurd rfl (hnot_gate _ hty).2
        · rename_i hty
          refine ⟨_, if_neg fun h => ?_⟩
          simp only [Bool.and_eq_true, Option.isSome_iff_exists] at h
          obtain ⟨⟨hs, field, hfield⟩, -⟩ := h
          exact hgroup _ ⟨hash, List.mem_cons_self .., condition, field, hget, hty, hfield, rfl, hs⟩
        · exact ⟨_, rfl⟩
      obtain ⟨⟨b, u⟩, he⟩ := hone
      dsimp only
      rw [he]
      obtain ⟨e, hrest⟩ := ih (fun gate ⟨h, hmem, hrest⟩ =>
        hgate gate ⟨h, List.mem_cons_of_mem _ hmem, hrest⟩) (fun name ⟨h, hmem, hrest⟩ =>
          hgroup name ⟨h, List.mem_cons_of_mem _ hmem, hrest⟩) b (all && b) u
      exact ⟨e, by simp [hrest]⟩

/-- Plain rules never end both passed and unsupported exactly if they are quiet. -/
theorem plain_rules_end (rec : Recur) (spec : Spec) (rules : List Rule)
    (hplain : ∀ rule ∈ rules, PlainRule env rule) :
    Triple (Within [(false, false)]) (evaluate_rules env rec spec false rules)
      (fun _ c => (c.result.unsupported = true → c.result.bool_value = false) ↔
        quiet_rules env rules = true) (fun _ _ => False) False := by
  have hfinish : ∀ (c : EvaluatorContext) (rule : Option Rule), c.result.unsupported = false →
      (c.finalize_evaluation spec rule).result.unsupported = false := by
    intro c rule hc
    rw [finalize_unsupported]
    exact hc
  induction rules with
  | nil =>
    refine triple_update_bind (M := fun c => c.result.unsupported = false)
      (fun c hc => hfinish _ none (congrArg Prod.snd hc.eq)) (triple_pure fun c hc => ?_)
    exact ⟨fun _ => rfl, fun _ h => absurd (hc.symm.trans h) (by decide)⟩
  | cons rule rules ih =>
    have ih := ih fun r hr => hplain r (List.mem_cons_of_mem _ hr)
    have hrule := hplain rule (List.mem_cons_self ..)
    have conditions : EndFrame env rec (fun _ => True) rule.conditions (fun _ _ => False) False :=
      { gate := fun target hgate => absurd hgate (hrule.no_gate _)
        group := fun name hgroup => absurd hgroup (hrule.no_group name) }
    obtain ⟨⟨passed, marked⟩, he⟩ := plain_rule_ends hrule.no_gate hrule.no_group false true false
    have hends : Triple (Within [(false, false)]) (evaluate_rule env rec rule)
        (fun _ => Within [(passed, marked)]) (fun _ _ => False) False := by
      intro ctx hctx
      have hrun := (evaluate_conditions_ends conditions true hctx fun _ _ => trivial).2
      rwa [he] at hrun
    unfold quiet_rules evaluate_rules
    rw [he]
    simp only [Bool.false_and, Bool.false_eq_true, ↓reduceIte]
    refine triple_state_any fun _ => Triple.bind hends fun _ => triple_state_bind fun c hc => ?_
    obtain ⟨hbool, hmark⟩ := Prod.mk.inj hc.eq
    rw [hbool, hmark]
    cases marked with
    | true =>
      refine triple_pure ?_
      rintro _ rfl
      rw [hbool, hmark]
      simp
    | false =>
      cases passed with
      | false =>
        refine Triple.weaken ih (by rintro _ rfl; exact hc) ?_ fun _ _ h => h
        intro _ c' hc'
        simpa using hc'
      | true =>
        unfold evaluate_config_delegate
        rw [hrule.no_delegate]
        refine Triple.bind (Q := fun _ c => c.result.unsupported = false)
          (triple_pure (by rintro _ rfl; exact hmark)) fun delegated => ?_
        have hquiet : ∀ c' : EvaluatorContext, c'.result.unsupported = false →
            ((c'.result.unsupported = true → c'.result.bool_value = false) ↔
              ([(true, false)].all fun e =>
                if e.2 = true then !e.1 else e.1 || quiet_rules env rules) = true) :=
          fun c' h => ⟨fun _ => rfl, fun _ h' => absurd (h.symm.trans h') (by decide)⟩
        split
        · exact triple_update_bind (M := fun c => c.result.unsupported = false)
            (fun c hc => hfinish c none hc) (triple_pure fun c hc => hquiet c hc)
        · exact triple_update_bind (M := fun c => c.result.unsupported = false)
            (fun c hc => hfinish _ (some rule) hc) (triple_pure fun c hc => hquiet c hc)

theorem evaluate_of_plain_gate {gate : String} {spec : Spec}
    (hspec : spec_of env (.Gate, gate) = some spec) (huntouched : Untouched env (.Gate, gate))
    (hmapped : ¬ Mapped env (.Gate, gate)) (depth : Nat) {ctx : EvaluatorContext}
    (hctx : Within [(false, false)] ctx) :
    evaluate env (depth + 1) gate .Gate ctx =
      evaluate_rules env (evaluate env depth) spec false spec.rules (begin_spec gate spec ctx) := by
  have hcall := evaluate_with_spec (evaluate env depth)
    SpecType.noConfusion huntouched hmapped (by rintro cmab ⟨hty, _⟩; cases hty)
  obtain ⟨htargeting, hoverrides⟩ := Prod.mk.inj hctx.unfiltered
  have hfilter : filter_active ctx = false := by
    unfold filter_active
    rw [htargeting, hoverrides, Bool.or_self, Bool.and_false]
  have hrun := congrFun hcall ctx
  rw [hspec] at hrun
  simp only [state_bind, hfilter] at hrun
  refine hrun.trans ?_
  unfold evaluate_spec
  simp

end PlainRules

/-- A gate is not reported as passed while it is unsupported, if in all that its run evaluates in
place every rule that is asked has a quiet run. For a gate whose rules need no other evaluation,
this is exact: it is never reported so if and only if its own rules are quiet. -/
theorem unsupported_gates_do_not_pass (env : EvaluatorEnv) (hadapter : QuietAdapter env) :
    (∀ gate ctx, Within [(false, false)] ctx →
      (∀ a, ReflTransGen (Call.Continues env) ⟨(.Gate, gate), ctx⟩ a → a.Quiets env) →
      ∀ depth recognition ctx', evaluate env depth gate .Gate ctx = .ok recognition ctx' →
        ctx'.result.unsupported = true → ctx'.result.bool_value = false) ∧
    ∀ gate spec, spec_of env (.Gate, gate) = some spec → Untouched env (.Gate, gate) →
      ¬ Mapped env (.Gate, gate) → (∀ rule ∈ spec.rules, PlainRule env rule) →
      ∀ depth ctx, Within [(false, false)] ctx →
      ((∀ recognition ctx', evaluate env (depth + 1) gate .Gate ctx = .ok recognition ctx' →
          ctx'.result.unsupported = true → ctx'.result.bool_value = false) ↔
        quiet_rules env spec.rules = true) := by
  constructor
  · intro gate ctx hctx hquiet depth recognition ctx' hrun
    have hends := evaluate_quiet (a := ⟨(.Gate, gate), ctx⟩) hadapter depth SpecType.noConfusion
      hctx hquiet
    have hrun' : Call.run env depth ⟨(.Gate, gate), ctx⟩ = .ok recognition ctx' := hrun
    rw [hrun'] at hends
    exact hends.fails
  · intro gate spec hspec huntouched hmapped hplain depth ctx hctx
    have hrules := plain_rules_end (evaluate env depth) spec spec.rules hplain
      (begin_spec gate spec ctx) ⟨hctx.unfiltered, hctx.ends⟩
    rw [← evaluate_of_plain_gate hspec huntouched hmapped depth hctx] at hrules
    obtain ⟨recognition, ctx', hrun, hend⟩ := hrules.gives
    rw [← hend, hrun]
    refine ⟨fun h => h recognition ctx' rfl, ?_⟩
    rintro h _ _ ⟨⟩
    exact h

/-- A gate with one rule. The specs hold one condition, which is open to everyone. -/
def one_condition (hashes : List InternedString) : SpecsResponseFull where
  condition_map := [("everyone", .everyone)]
  feature_gates := [("gate", { rules := [{ id := "rule", conditions := hashes }] })]

/-- A gate that lets everyone in before it asks for another gate. -/
def decided_spec : Spec where
  rules := [{ id := "first", conditions := ["everyone"] },
    { id := "second", conditions := ["passes_inner"] }]

/-- The other gate has a missing condition. -/
def decided_gate : SpecsResponseFull where
  condition_map := [("everyone", .everyone), ("passes_inner", .on_gate "pass_gate" "inner")]
  feature_gates := [("gate", decided_spec),
    ("inner", { rules := [{ id := "rule", conditions := ["everyone", "missing"] }] })]

/-- A rule with no condition but a missing one is quiet. So is the run of a gate that does not
come to the other one. -/
theorem missing_condition_does_not_pass :
    (∀ depth recognition ctx',
      evaluate (.plain decided_gate) depth "gate" .Gate {} = .ok recognition ctx' →
      ctx'.result.unsupported = true → ctx'.result.bool_value = false) ∧
    (∀ recognition ctx',
      evaluate (.plain (one_condition ["missing"])) 1 "gate" .Gate {} = .ok recognition ctx' →
      ctx'.result.unsupported = true → ctx'.result.bool_value = false) ∧
    ∃ ctx', evaluate (.plain (one_condition ["missing"])) 1 "gate" .Gate {} =
      .ok .Recognized ctx' ∧ ctx'.result.unsupported = true := by
  have hfresh : Within [(false, false)] {} := ⟨rfl, List.mem_singleton.mpr rfl⟩
  refine ⟨?_, ?_, _, rfl, rfl⟩
  · refine (unsupported_gates_do_not_pass (.plain decided_gate) fun _ _ h => h).1 "gate" {}
      hfresh ?_
    -- asking the first rule is the only step of the run
    have hsteps : ∀ depth, Call.steps (.plain decided_gate) depth ⟨(.Gate, "gate"), {}⟩ =
        [.asks { id := "first", conditions := ["everyone"] } (begin_spec "gate" decided_spec {})] :=
      fun _ => rfl
    intro a ha
    rcases ReflTransGen.cases_head ha with rfl | ⟨b, ⟨hab, -⟩, -⟩
    · intro depth rule ctx hstep
      rw [hsteps] at hstep
      cases List.mem_singleton.mp hstep
      rfl
    · rcases hab with ⟨depth, hstep⟩ | ⟨depth, hstep⟩
      all_goals
        rw [hsteps] at hstep
        cases List.mem_singleton.mp hstep
  · refine ((unsupported_gates_do_not_pass (.plain (one_condition ["missing"])) fun _ _ h => h).2
      "gate" _ rfl rfl ?_ ?_ 0 {} hfresh).mpr (by decide)
    · rintro ⟨mapping, rule, overrides, override_rules, mapping_list, hnone, -⟩
      cases hnone
    · intro rule hrule
      obtain rfl := List.mem_singleton.mp hrule
      have hmissing : ∀ hash ∈ ["missing"], ∀ condition,
          (one_condition ["missing"]).condition_map.get hash ≠ some condition := by
        intro hash hhash condition
        obtain rfl := List.mem_singleton.mp hhash
        exact nofun
      exact ⟨fun gate ⟨hash, hhash, condition, hget, _⟩ => hmissing hash hhash condition hget,
        fun name ⟨hash, hhash, condition, _, hget, _⟩ => hmissing hash hhash condition hget, rfl⟩

/-- With a public condition before the missing one, the gate is reported as passed. -/
theorem missing_condition_passes_after_a_public_one :
    ∃ ctx', evaluate (.plain (one_condition ["everyone", "missing"])) 1 "gate" .Gate {} =
      .ok .Recognized ctx' ∧ ctx'.result.unsupported = true ∧ ctx'.result.bool_value = true :=
  ⟨_, rfl, rfl, rfl⟩

end statsig_rust.evaluation
