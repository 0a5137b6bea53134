-- The nesting counter bounds the depth of the recursion. One call of
-- `evaluate` keeps a lower bound of the counter through every early return,
-- and it calls itself only after the counter passed the limit check. So a run
-- with no config mapping and no experiment-group condition ends, on any graph
-- of gates, delegates and targeting gates.
import StatsigCore.Evaluation.Frame

open program

namespace statsig_rust.evaluation

/-! ## The counter bounds the depth -/

/-- The node evaluates another spec with the counter at 0: it has a mapping rule
that has started, or a condition on the group of an experiment. -/
def Restarts (env : EvaluatorEnv) (node : Node) : Prop :=
  Mapped env node ∨ ∃ b, AsksGroup env node b

/-- Nothing that the node leads to sets the counter back. -/
def Cold (env : EvaluatorEnv) (node : Node) : Prop :=
  ∀ b, Relation.ReflTransGen (Refers env) node b → ¬ Restarts env b

/-- `evaluate` under watch. A call at some level of nesting must find the counter
at that level or above, and within the limit, and it must leave the counter at the
level of its caller or above. A call that does not is cut off as too deep. -/
def evaluate_watched (env : EvaluatorEnv) : Nat → Nat → Recur
  | 0, _ => fun _ _ _ => .deep
  | depth + 1, level => fun spec_name spec_type ctx =>
    if level ≤ ctx.nested_count ∧ ctx.nested_count ≤ MAX_RECURSIVE_DEPTH then
      (evaluate_with env (evaluate_watched env depth (level + 1)) spec_name spec_type ctx).demand
        fun c => level - 1 ≤ c.nested_count
    else .deep

theorem evaluate_watched_below (env : EvaluatorEnv) (d level : Nat) :
    CallsBelow (evaluate_watched env d level) (evaluate env d) := by
  induction d generalizing level with
  | zero => exact fun _ _ => below_deep _
  | succ d ih =>
    intro name ty ctx
    unfold evaluate_watched
    split
    · rcases demand_below _ (evaluate_with env (evaluate_watched env d (level + 1)) name ty ctx)
        with h | h
      · exact .inl h
      · rw [h]
        exact evaluate_with_below env (ih (level + 1)) name ty ctx
    · exact .inl rfl

/-- What a call at a level of nesting relies on. -/
theorem level_frame {env : EvaluatorEnv} {rec : Recur} {node : Node} {level : Nat}
    (hcold : ¬ Restarts env node)
    (hnest : ∀ b, Nests env node b → Moves
      (fun n _ => level + 1 ≤ n ∧ n ≤ MAX_RECURSIVE_DEPTH) (fun n _ => level ≤ n)
      (fun n _ => level ≤ n) False (rec b.2 b.1)) :
    Frame env rec node (fun _ => True) (fun n _ => level ≤ n)
      (fun n _ => level + 1 ≤ n ∧ n ≤ MAX_RECURSIVE_DEPTH) (fun n _ => level ≤ n)
      (fun n _ => level - 1 ≤ n) False where
  prep n u h hle := ⟨by omega, hle⟩
  too_deep b ctx _ hctx _ _ := Nat.le_succ_of_le hctx
  nest b ctx hb hctx _ := hnest b hb ctx hctx
  group b ctx hb _ _ := absurd (.inr ⟨b, hb⟩) hcold
  asks _ _ _ _ _ _ _ _ _ _ _ h := h
  tries _ _ _ _ _ _ _ _ _ h := h
  override _ n u u' h := h
  reset hmapped := absurd (.inl hmapped) hcold
  mapping b ctx hb _ _ := by
    obtain ⟨-, mapping, rule, hrule, -⟩ := hb
    exact absurd (.inl ⟨mapping, rule, hrule⟩) hcold
  caught _ _ n u h := by omega
  finalize n u h := by omega
  marked n h := by omega
  early _ n u h := by omega

/-- A call at a level of nesting, with room for the levels up to the limit. -/
theorem evaluate_watched_moves (env : EvaluatorEnv) {d level : Nat}
    (hd : MAX_RECURSIVE_DEPTH + 1 ≤ d + level) {node : Node} (hcold : Cold env node) :
    Moves (fun n _ => level ≤ n ∧ n ≤ MAX_RECURSIVE_DEPTH) (fun n _ => level - 1 ≤ n)
      (fun n _ => level - 1 ≤ n) False (evaluate_watched env d level node.2 node.1) := by
  induction d generalizing level node with
  | zero =>
    rintro ctx ⟨hlevel, hmax⟩
    omega
  | succ d ih =>
    rintro ctx ⟨hlevel, hmax⟩
    have frame := @level_frame env (evaluate_watched env d (level + 1)) node level
      (hcold node .refl) fun b hb => ih (by omega) fun c hc => hcold c (.head (.inl hb) hc)
    have hcall := (frame.moves ctx hlevel).mono (fun _ _ h => h)
      (F := fun _ c => level - 1 ≤ c.nested_count) fun _ c (h : level ≤ c.nested_count) => by omega
    unfold evaluate_watched
    rw [if_pos ⟨hlevel, hmax⟩, demand_of_meets (hcall.mono
      (fun _ c (h : level - 1 ≤ c.nested_count) => by simpa using h)
      (fun _ _ h => by simpa using h))]
    exact hcall

/-- Neither config mappings nor conditions on the group of an experiment. -/
structure OnlyNested (specs_data : SpecsResponseFull) : Prop where
  no_overrides : specs_data.overrides = none
  no_groups : ∀ hash condition, specs_data.condition_map.get hash = some condition →
    type_of condition ≠ .ExperimentGroup

theorem OnlyNested.cold {env : EvaluatorEnv} (h : OnlyNested env.specs_data) (node : Node) :
    Cold env node := by
  rintro b - (⟨mapping, rule, overrides, _, _, hoverrides, _⟩ |
    ⟨c, -, rule, _, hash, _, condition, _, hget, hty, _⟩)
  · rw [h.no_overrides] at hoverrides
    cases hoverrides
  · exact h.no_groups hash condition hget hty

/-- A gate whose one rule asks whether the gate passes. -/
def looping_gate : SpecsResponseFull where
  condition_map := [("passes_loop", .on_gate "pass_gate" "loop")]
  feature_gates := [("loop", { rules := [{ id := "rule", conditions := ["passes_loop"] }] })]

theorem looping_gate_only_nested : OnlyNested looping_gate where
  no_overrides := rfl
  no_groups := by
    intro hash condition hget
    have hmem : (hash, condition) ∈ looping_gate.condition_map := HashMap.mem_of_get hget
    have hall : ∀ e ∈ looping_gate.condition_map, type_of e.2 ≠ .ExperimentGroup := by
      simp only [looping_gate, List.mem_singleton, forall_eq]
      decide
    exact hall _ hmem

/-- On any graph of nested gates, delegates and targeting gates, an evaluation
needs at most `MAX_RECURSIVE_DEPTH + 1` calls on the stack, and each call finds
the counter at its own level or above. Too deep a branch ends in an error. -/
theorem nesting_never_outruns_the_counter (env : EvaluatorEnv) (h : OnlyNested env.specs_data)
    (spec_name : String) (spec_type : SpecType) (ctx : EvaluatorContext)
    (hctx : ctx.nested_count = 0) {depth : Nat} (hdepth : MAX_RECURSIVE_DEPTH + 1 ≤ depth) :
    ((∃ recognition ctx', evaluate env depth spec_name spec_type ctx = .ok recognition ctx') ∨
      ∃ ctx', evaluate env depth spec_name spec_type ctx = .err .StackOverflowError ctx') ∧
    evaluate_watched env depth 0 spec_name spec_type ctx =
      evaluate env depth spec_name spec_type ctx := by
  have hmoves := evaluate_watched_moves env (by omega) (h.cold (spec_type, spec_name))
    ctx ⟨Nat.zero_le _, by rw [hctx]; exact Nat.zero_le _⟩
  have hsame := (evaluate_watched_below env depth 0 spec_name spec_type).eq_of_not_deep
    hmoves.not_deep
  refine ⟨?_, hsame.symm⟩
  rw [hsame]
  cases hrun : evaluate_watched env depth 0 spec_name spec_type ctx with
  | ok r c => exact .inl ⟨r, c, rfl⟩
  | err e c =>
    cases e
    exact .inr ⟨c, rfl⟩
  | deep => exact absurd hrun hmoves.not_deep

theorem nesting_of_the_looping_gate :
    evaluate_watched (.plain looping_gate) (MAX_RECURSIVE_DEPTH + 1) 0 "loop" .Gate {} =
      evaluate (.plain looping_gate) (MAX_RECURSIVE_DEPTH + 1) "loop" .Gate {} :=
  (nesting_never_outruns_the_counter (.plain looping_gate) looping_gate_only_nested "loop" .Gate {}
    rfl le_rfl).2

end statsig_rust.evaluation
