-- The context of an evaluation (`evaluation/evaluator_context.rs`). What the
-- context borrows for the whole evaluation is the environment. What the
-- evaluation changes is the state: the result, the nesting counter and the
-- memo of the nested gates.
import StatsigCore.Library.Program
import StatsigCore.Evaluation.SpecTypes

open program

namespace statsig_rust.evaluation

def MAX_RECURSIVE_DEPTH : Nat := 300

/-! ## The environment -/

inductive IdListResolution where
  | MapLookup (id_lists : HashMap String (List String))
  | Callback (callback : String → String → Bool)

structure HashUtil where
  sha256 : String → String
  evaluation_hash_dot2 : String → String → Option Nat
  evaluation_hash_dot3 : String → String → String → Option Nat

/-- The `OverrideAdapter` trait: each method may write to the result, and says
whether an override applies. -/
structure OverrideAdapter where
  get_gate_override : UserData → String → EvaluatorResult → Bool × EvaluatorResult
  get_dynamic_config_override : UserData → String → EvaluatorResult → Bool × EvaluatorResult
  get_experiment_override :
    UserData → String → EvaluatorResult → Option Spec → Bool × EvaluatorResult
  get_layer_override : UserData → String → EvaluatorResult → Bool × EvaluatorResult
  get_parameter_store_override : UserData → String → EvaluatorResult → Bool × EvaluatorResult

/-- The comparisons of `evaluation/comparisons`. The evaluator picks one by the
operator, and no law of the evaluator depends on what it answers. -/
structure Comparisons where
  compare_numbers : DynamicValue → MemoizedEvaluatorValue → String → Bool
  compare_versions : DynamicValue → MemoizedEvaluatorValue → String → Bool
  compare_strings_in_array : DynamicValue → MemoizedEvaluatorValue → String → Bool → Bool
  compare_str_with_regex : DynamicValue → MemoizedEvaluatorValue → Bool
  compare_time : DynamicValue → MemoizedEvaluatorValue → String → Bool
  is_equal_to_dynamic_value : MemoizedEvaluatorValue → DynamicValue → Bool
  compare_arrays : DynamicValue → MemoizedEvaluatorValue → String → Bool

/-- The parsers that a condition reads a value with. `none` of a third-party
parser or of the country table means that it is not loaded. -/
structure Parsers where
  from_string : String → DynamicValue
  first_party_ua : String → String → Option DynamicValue
  third_party_ua : String → String → Option (Option DynamicValue)
  country_lookup : String → Option (Option DynamicValue)

/-- What an evaluation borrows and never changes. The clock stands still during
one evaluation. `thread_rng n` is the `n`-th random number in `[0, 1)`. -/
structure EvaluatorEnv where
  user : StatsigUserInternal
  specs_data : SpecsResponseFull
  id_list_resolver : IdListResolution
  hashing : HashUtil
  app_id : Option DynamicValue
  override_adapter : Option OverrideAdapter
  should_user_third_party_ua : Bool
  /-- Whether the context has a `Statsig` instance. -/
  statsig : Bool
  comparisons : Comparisons
  parsers : Parsers
  now : Int
  f64_round : F64 → F64
  thread_rng : Nat → F64
  cmab_score : CMABGroup → HashMap String CMABGroupConfig → Option F64

/-- An environment with nothing in it but the specs: no user data, no override
adapter, and a hash that puts every user in bucket 0. -/
def EvaluatorEnv.plain (specs_data : SpecsResponseFull) : EvaluatorEnv where
  user := {}
  specs_data := specs_data
  id_list_resolver := .MapLookup []
  hashing := ⟨id, fun _ _ => some 0, fun _ _ _ => some 0⟩
  app_id := none
  override_adapter := none
  should_user_third_party_ua := false
  statsig := false
  comparisons := ⟨fun _ _ _ => false, fun _ _ _ => false, fun _ _ _ _ => false, fun _ _ => false,
    fun _ _ _ => false, fun _ _ => false, fun _ _ _ => false⟩
  parsers := ⟨fun s => { string_value := some ⟨s, s⟩ }, fun _ _ => none, fun _ _ => none,
    fun _ => none⟩
  now := 0
  f64_round := id
  thread_rng := fun _ => 0
  cmab_score := fun _ _ => none

/-! ## The state -/

abbrev NestedGateMemo :=
  HashMap InternedString (Bool × Option InternedString × List SecondaryExposure)

/-- `nested_count` is a `u16`. It counts to the depth limit and a little past it,
so it never wraps. `draws` counts the random numbers taken from the thread. -/
structure EvaluatorContext where
  result : EvaluatorResult := {}
  nested_count : Nat := 0
  nested_gate_memo : NestedGateMemo := []
  only_evaluate_targeting : Bool := false
  only_evaluate_overrides : Bool := false
  draws : Nat := 0

abbrev Eval := Program EvaluatorContext StatsigErr

/-- The recursive calls of `Evaluator::evaluate`. -/
abbrev Recur := String → SpecType → Eval Recognition

namespace EvaluatorContext

def reset_result (ctx : EvaluatorContext) : EvaluatorContext :=
  { ctx with nested_count := 0, result := {} }

def finalize_evaluation (ctx : EvaluatorContext) (spec : Spec) (rule : Option Rule) :
    EvaluatorContext :=
  let ctx := { ctx with
    result.sampling_rate := rule.bind (·.sampling_rate)
    result.forward_all_exposures := spec.forward_all_exposures }
  if 0 < ctx.nested_count then { ctx with nested_count := ctx.nested_count - 1 }
  else if ctx.result.secondary_exposures.isEmpty then ctx
  else if ctx.result.undelegated_secondary_exposures.isSome then ctx
  else { ctx with
    result.undelegated_secondary_exposures := some ctx.result.secondary_exposures }

def set_bool (ctx : EvaluatorContext) (b : Bool) : EvaluatorContext :=
  { ctx with result.bool_value := b }

def set_unsupported (ctx : EvaluatorContext) : EvaluatorContext :=
  { ctx with result.unsupported := true }

end EvaluatorContext

def prep_for_nested_evaluation : Eval Unit := fun ctx =>
  let ctx := { ctx with
    nested_count := ctx.nested_count + 1
    result.bool_value := false
    result.json_value := none }
  if ctx.nested_count > MAX_RECURSIVE_DEPTH then .err .StackOverflowError ctx else .ok () ctx

theorem finalize_nested_count (ctx : EvaluatorContext) (spec : Spec) (rule : Option Rule) :
    (ctx.finalize_evaluation spec rule).nested_count = ctx.nested_count - 1 := by
  unfold EvaluatorContext.finalize_evaluation
  dsimp only
  split
  · rfl
  · have h : ctx.nested_count = 0 := by omega
    split
    · simp [h]
    · split <;> simp [h]

theorem finalize_unsupported (ctx : EvaluatorContext) (spec : Spec) (rule : Option Rule) :
    (ctx.finalize_evaluation spec rule).result.unsupported = ctx.result.unsupported := by
  unfold EvaluatorContext.finalize_evaluation
  dsimp only
  repeat' split
  all_goals rfl

theorem finalize_memo (ctx : EvaluatorContext) (spec : Spec) (rule : Option Rule) :
    (ctx.finalize_evaluation spec rule).nested_gate_memo = ctx.nested_gate_memo := by
  unfold EvaluatorContext.finalize_evaluation
  dsimp only
  repeat' split
  all_goals rfl

/-- The end of an evaluation keeps what has been decided. -/
theorem finalize_keeps (ctx : EvaluatorContext) (spec : Spec) (rule : Option Rule) :
    (ctx.finalize_evaluation spec rule).result.json_value = ctx.result.json_value ∧
      (ctx.finalize_evaluation spec rule).result.parameter_rule_ids =
        ctx.result.parameter_rule_ids ∧
      (ctx.finalize_evaluation spec rule).result.config_delegate = ctx.result.config_delegate ∧
      (ctx.finalize_evaluation spec rule).result.rule_id = ctx.result.rule_id ∧
      (ctx.finalize_evaluation spec rule).result.is_experiment_group =
        ctx.result.is_experiment_group ∧
      (ctx.finalize_evaluation spec rule).result.group_name = ctx.result.group_name := by
  unfold EvaluatorContext.finalize_evaluation
  dsimp only
  repeat' split
  all_goals exact ⟨rfl, rfl, rfl, rfl, rfl, rfl⟩

def get_unit_id (env : EvaluatorEnv) (id_type : DynamicString) : String :=
  match ((env.user.get_unit_id id_type).getD DynamicValue.new).string_value with
  | some s => s.value
  | none => ""

end statsig_rust.evaluation
