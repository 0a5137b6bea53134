-- The rule filter of a context asks for the targeting rules or for the override
-- rules only. Every path of the evaluator leaves it as it was.
import StatsigCore.Evaluation.Invariants

open program

namespace statsig_rust.evaluation

/-- A run that leaves the rule filter alone. -/
def Steady {α : Type} (x : Eval α) : Prop :=
  ∀ filter, Triple (fun c => filter_of c = filter) x (fun _ c => filter_of c = filter)
    (fun _ c => filter_of c = filter) True

theorem filter_of_fixed {c c' : EvaluatorContext} (h : fixed_of c' = fixed_of c) :
    filter_of c' = filter_of c :=
  congrArg Prod.fst h

/-- What the rule filter is stays, whatever rules and overrides a context meets. -/
theorem filter_stable (env : EvaluatorEnv) (filter : Bool × Bool) :
    Stable env fun c => filter_of c = filter where
  fixed _ _ hfixed h := (filter_of_fixed hfixed).trans h
  reset _ h := h
  finish _ _ _ _ _ _ h := (filter_of_fixed (finalize_fixed _ _ _)).trans h
  override _ _ _ c _ _ h happly := by
    unfold try_apply_override at happly
    split at happly
    · cases happly
      exact h
    · cases happly
      exact h

section Steady

variable {α : Type} {x : Eval α} {env : EvaluatorEnv} {rec : Recur}

theorem Steady.attempt (hx : Steady x) : Steady (attempt x) :=
  fun filter => Maintains.attempt (hx filter)

theorem evaluate_rule_steady (hrec : ∀ name ty, Steady (rec name ty)) (rule : Rule) :
    Steady (evaluate_rule env rec rule) :=
  fun filter =>
    evaluate_rule_maintains (filter_stable env filter) (fun name ty => hrec name ty filter)
    rule

theorem evaluate_config_delegate_steady (hrec : ∀ name ty, Steady (rec name ty)) (rule : Rule) :
    Steady (evaluate_config_delegate env rec rule) :=
  fun filter => evaluate_config_delegate_maintains (filter_stable env filter)
    (fun name ty => hrec name ty filter) rule

/-- No evaluation changes the rule filter that its context asks for. -/
theorem evaluate_steady (env : EvaluatorEnv) (depth : Nat) (name : String) (ty : SpecType) :
    Steady (evaluate env depth name ty) :=
  fun filter => evaluate_maintains (filter_stable env filter) depth name ty

end Steady

end statsig_rust.evaluation
