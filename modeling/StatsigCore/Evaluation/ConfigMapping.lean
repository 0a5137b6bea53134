-- The config mappings set the nesting counter back to 0 and then evaluate
-- another config. So the counter does not bound a chain of mappings.
import StatsigCore.Evaluation.CallChains
import StatsigCore.Evaluation.Depth

open program Relation

namespace statsig_rust.evaluation

/-! ## Mappings that never end -/

/-- A context that looks at all the rules and has met nothing unsupported. -/
structure Plain (ctx : EvaluatorContext) : Prop where
  supported : ctx.result.unsupported = false
  no_targeting : ctx.only_evaluate_targeting = false
  no_overrides : ctx.only_evaluate_overrides = false

/-- No run of the program ends from a plain context. -/
def NeverEnds {α : Type} (x : Eval α) : Prop :=
  Triple Plain x (fun _ _ => False) (fun _ _ => False) True

theorem NeverEnds.deep {α : Type} {x : Eval α} (h : NeverEnds x) {ctx : EvaluatorContext}
    (hctx : Plain ctx) : x ctx = .deep := by
  have hrun := h ctx hctx
  cases hout : x ctx with
  | ok _ _ =>
    rw [hout] at hrun
    exact hrun.elim
  | err _ _ =>
    rw [hout] at hrun
    exact hrun.elim
  | deep => rfl

section NeverEnds

variable {env : EvaluatorEnv} {rec : Recur}

end NeverEnds

/-- The mapping table that sends every user from one config to another. -/
def mapped (source target : String) : SpecsResponseFull where
  override_rules := some [("everyone", { id := "everyone", conditions := [] })]
  overrides := some [(source, [
    { new_config_name := target, rules := [{ rule_name := "everyone" }] }])]

end statsig_rust.evaluation
