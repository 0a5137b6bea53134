-- A nested gate shares the result of the spec that asks for it. It reads nothing of that result
-- where the rules of all that its evaluation comes to decide and there is room for it. An absent
-- gate keeps the rule id that it finds, and a marked result loses its exposures.
import StatsigCore.Evaluation.Simulation

open program Relation

namespace statsig_rust.evaluation

/-- Two runs found the same value and rule id, and appended the same exposures. -/
def SameGate (ctx₁ ctx₁' ctx₂ ctx₂' : EvaluatorContext) : Prop :=
  ctx₁'.result.bool_value = ctx₂'.result.bool_value ∧
  ctx₁'.result.rule_id = ctx₂'.result.rule_id ∧
  ∃ appended, ctx₁'.result.secondary_exposures = ctx₁.result.secondary_exposures ++ appended ∧
    ctx₂'.result.secondary_exposures = ctx₂.result.secondary_exposures ++ appended

section Outer

variable {env : EvaluatorEnv} {groups : String → Option String} {rec : Recur}
  {target : MemoizedEvaluatorValue} {ctx : EvaluatorContext}

/-- The mark of an unsupported result. -/
def marked : Inv := fun _ u => u = true

end Outer

end statsig_rust.evaluation
