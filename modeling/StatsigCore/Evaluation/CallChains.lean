-- Chains of calls of `evaluate`, each made by the one before it. A run that is too deep has a
-- chain as long as the depth. There are only so many specs and so many values of the counter,
-- so a chain that climbs whenever it comes back to a spec has an end.
import Mathlib.Data.Fintype.Prod
import StatsigCore.Evaluation.Frame

open program Relation

namespace statsig_rust.evaluation

/-- The names that the evaluator can find something under. -/
def known_names (specs_data : SpecsResponseFull) : List String :=
  specs_data.feature_gates.map Prod.fst ++ specs_data.dynamic_configs.map Prod.fst ++
    specs_data.layer_configs.map Prod.fst ++ (specs_data.overrides.getD []).map Prod.fst ++
    (specs_data.cmab_configs.getD []).map Prod.fst

instance : Fintype SpecType where
  elems := {.Gate, .DynamicConfig, .Experiment, .Layer, .ParameterStore}
  complete := by
    intro ty
    cases ty <;> decide

section Known

variable {env : EvaluatorEnv}

theorem known_of_spec {node : Node} {spec : Spec} (h : spec_of env node = some spec) :
    node.2 ∈ known_names env.specs_data := by
  obtain ⟨ty, name⟩ := node
  unfold known_names
  simp only [List.mem_append]
  cases ty with
  | Gate => exact .inl (.inl (.inl (.inl (HashMap.mem_keys_of_get h))))
  | DynamicConfig => exact .inl (.inl (.inl (.inr (HashMap.mem_keys_of_get h))))
  | Experiment => exact .inl (.inl (.inl (.inr (HashMap.mem_keys_of_get h))))
  | Layer => exact .inl (.inl (.inr (HashMap.mem_keys_of_get h)))
  | ParameterStore => cases h

theorem known_of_mapped {node : Node} (h : Mapped env node) :
    node.2 ∈ known_names env.specs_data := by
  obtain ⟨_, _, overrides, _, _, hoverrides, _, hlist, _⟩ := h
  unfold known_names
  simp only [List.mem_append, hoverrides]
  exact .inl (.inr (HashMap.mem_keys_of_get hlist))

theorem known_of_rule {node : Node} {rule : Rule} (h : RuleOf env node rule) :
    node.2 ∈ known_names env.specs_data := by
  rcases h with ⟨spec, hspec, _⟩ | ⟨mapping, hrule⟩
  · exact known_of_spec hspec
  · exact known_of_mapped ⟨mapping, rule, hrule⟩

theorem known_of_refers {a b : Node} (h : Refers env a b) : a.2 ∈ known_names env.specs_data := by
  rcases h with hnest | ⟨_, rule, hrule, _⟩ | ⟨_, mapping, rule, hrule, _⟩
  · cases hnest with
    | gate hrule _ => exact known_of_rule hrule
    | delegate hspec _ _ _ => exact known_of_spec hspec
    | targeting hbandit _ =>
      obtain ⟨_, cmabs, hcmabs, hcmab⟩ := hbandit
      unfold known_names
      simp only [List.mem_append, hcmabs]
      exact .inr (HashMap.mem_keys_of_get hcmab)
  · exact known_of_rule hrule
  · exact known_of_mapped ⟨mapping, rule, hrule⟩

end Known

/-! ## What a call makes -/

namespace Call

variable {env : EvaluatorEnv}

/-- Nothing is known of the counter. What a call nests starts after the limit check. -/
theorem loose_frame {rec : Recur} {node : Node} {allowed : Step → Prop} {D : Prop}
    (h : ∀ b ctx, allowed (.nests b ctx) ∨ allowed (.groups b ctx) ∨ allowed (.maps b ctx) →
      (rec b.2 b.1 ctx).Meets (fun _ _ => True) (fun _ _ => True) D) :
    Frame env rec node allowed .any (fun n _ => 1 ≤ n ∧ n ≤ MAX_RECURSIVE_DEPTH) .any .any D where
  prep n _ _ hle := ⟨Nat.succ_pos n, hle⟩
  too_deep _ _ _ _ _ _ := trivial
  nest b ctx _ _ hallowed := h b ctx (.inl hallowed)
  group b ctx _ _ hallowed := h b ctx (.inr (.inl hallowed))
  asks _ _ _ _ _ _ _ _ _ _ _ _ := trivial
  tries _ _ _ _ _ _ _ _ _ _ := trivial
  override _ _ _ _ _ := trivial
  reset _ := trivial
  mapping b ctx _ _ hallowed := h b ctx (.inr (.inr hallowed))
  caught _ _ _ _ _ := trivial
  finalize _ _ _ := trivial
  marked _ _ := trivial
  early _ _ _ _ := trivial

theorem step_fits {a : Call} {depth : Nat} {step : Step} (h : step ∈ a.steps env depth) :
    step.Fits env a.node fun n _ => 1 ≤ n ∧ n ≤ MAX_RECURSIVE_DEPTH := by
  have frame : Frame env (evaluate env depth) a.node (fun _ => True) .any _ .any .any True :=
    loose_frame fun b ctx _ => triple_true (P := fun _ => True) _ ctx trivial
  exact (evaluate_with_walks frame a.ctx trivial fun _ _ => trivial).1 step h

theorem Makes.refers {a b : Call} (h : a.Makes env b) : Refers env a.node b.node := by
  rcases h with ⟨depth, hstep⟩ | ⟨depth, hstep⟩ | ⟨depth, hstep⟩
  · exact .inl (step_fits hstep).1
  · exact .inr (.inl (step_fits hstep).1)
  · exact .inr (.inr (step_fits hstep).1)

theorem nests_no_layer {node node' : Node} (h : evaluation.Nests env node node') :
    node'.1 ≠ .Layer := by
  cases h <;> exact nofun

theorem InPlace.no_layer {a b : Call} (hty : a.node.1 ≠ .Layer) (h : a.InPlace env b) :
    b.node.1 ≠ .Layer := by
  rcases h with ⟨depth, hstep⟩ | ⟨depth, hstep⟩
  · exact nests_no_layer (step_fits hstep).1
  · rw [(step_fits hstep).1.1]
    exact hty

/-- A call that is made finds the counter within the limit. -/
theorem Makes.within {a b : Call} (h : a.Makes env b) :
    b.ctx.nested_count ≤ MAX_RECURSIVE_DEPTH := by
  rcases h with ⟨depth, hstep⟩ | ⟨depth, hstep⟩ | ⟨depth, hstep⟩
  · exact (step_fits hstep).2.2
  · rw [(step_fits hstep).2.1]
    exact Nat.zero_le _
  · rw [(step_fits hstep).2.1]
    exact Nat.zero_le _

theorem within_of_reached {a b : Call} (ha : a.ctx.nested_count ≤ MAX_RECURSIVE_DEPTH)
    (h : ReflTransGen (Call.Makes env) a b) : b.ctx.nested_count ≤ MAX_RECURSIVE_DEPTH := by
  rcases ReflTransGen.cases_tail h with rfl | ⟨c, -, hcb⟩
  · exact ha
  · exact hcb.within

/-- The step makes no call that is too deep. -/
def Ends (env : EvaluatorEnv) (depth : Nat) : Step → Prop
  | .nests b ctx => evaluate env depth b.2 b.1 ctx ≠ .deep
  | .groups b ctx => evaluate env depth b.2 b.1 ctx ≠ .deep
  | .maps b ctx => evaluate env depth b.2 b.1 ctx ≠ .deep
  | _ => True

theorem meets_of_not_deep {o : Outcome EvaluatorContext StatsigErr Recognition}
    (h : o ≠ .deep) : o.Meets (fun _ _ => True) (fun _ _ => True) False := by
  cases o with
  | ok _ _ => trivial
  | err _ _ => trivial
  | deep => exact h rfl

/-- A run whose calls all end, ends. -/
theorem ends_of_steps {a : Call} {depth : Nat}
    (h : ∀ step ∈ a.steps env depth, Ends env depth step) :
    a.run env (depth + 1) ≠ .deep := by
  have hcalls : ∀ b ctx, Ends env depth (.nests b ctx) ∨ Ends env depth (.groups b ctx) ∨
      Ends env depth (.maps b ctx) →
      (evaluate env depth b.2 b.1 ctx).Meets (fun _ _ => True) (fun _ _ => True) False := by
    rintro b ctx (hends | hends | hends)
    · exact meets_of_not_deep hends
    · exact meets_of_not_deep hends
    · exact meets_of_not_deep hends
  have frame := @loose_frame env (evaluate env depth) a.node _ _ hcalls
  exact (evaluate_with_walks frame a.ctx trivial h).2.not_deep

theorem makes_deep_call {a : Call} {depth : Nat} (h : a.run env (depth + 1) = .deep) :
    ∃ b, a.Makes env b ∧ b.run env depth = .deep := by
  by_contra hnone
  push Not at hnone
  apply ends_of_steps _ h
  intro step hstep
  cases step with
  | asks rule ctx => trivial
  | tries rule => trivial
  | checks ctx => trivial
  | nests b ctx => exact hnone ⟨b, ctx⟩ (.inl ⟨depth, hstep⟩)
  | groups b ctx => exact hnone ⟨b, ctx⟩ (.inr (.inl ⟨depth, hstep⟩))
  | maps b ctx => exact hnone ⟨b, ctx⟩ (.inr (.inr ⟨depth, hstep⟩))

theorem deep_chain (depth : Nat) {a : Call} (h : a.run env depth = .deep) :
    ∃ b, graph.Path (Call.Makes env) depth a b := by
  induction depth generalizing a with
  | zero => exact ⟨a, .nil a⟩
  | succ depth ih =>
    obtain ⟨b, hab, hdeep⟩ := makes_deep_call h
    obtain ⟨c, hpath⟩ := ih hdeep
    exact ⟨c, .cons hab hpath⟩

end Call

/-! ## Chains that climb -/

/-- Whenever a chain of the calls that a run makes comes back to a spec, the counter is higher
than it was there. -/
def Call.Climbs (env : EvaluatorEnv) (root : Call) : Prop :=
  ∀ a b, ReflTransGen (Call.Makes env) root a → TransGen (Call.Makes env) a b →
    a.node = b.node → a.ctx.nested_count < b.ctx.nested_count

/-- The specs that a call may be for, with the values of the counter that it may find. -/
def call_keys (specs_data : SpecsResponseFull) : Finset (Node × Nat) :=
  (Finset.univ ×ˢ (known_names specs_data).toFinset) ×ˢ Finset.range (MAX_RECURSIVE_DEPTH + 1)

section Climbs

variable {env : EvaluatorEnv} {root : Call}

theorem climbing_chain_is_short (hroot : root.ctx.nested_count ≤ MAX_RECURSIVE_DEPTH)
    (hclimbs : root.Climbs env) {n : Nat} {b : Call} (h : graph.Path (Call.Makes env) n root b) :
    n ≤ (call_keys env.specs_data).card := by
  apply h.length_le (fun c => (c.node, c.ctx.nested_count))
  · intro c d hc hcd
    have hname := known_of_refers hcd.refers
    have hcount := Call.within_of_reached hroot hc
    simp only [call_keys, Finset.mem_product, Finset.mem_univ, List.mem_toFinset, true_and,
      Finset.mem_range]
    exact ⟨hname, Nat.lt_succ_of_le hcount⟩
  · intro c d hc hcd hsame
    obtain ⟨hnode, hcount⟩ := Prod.mk.inj hsame
    exact absurd hcount (Nat.ne_of_lt (hclimbs c d hc hcd hnode))

theorem climbing_calls_end (hroot : root.ctx.nested_count ≤ MAX_RECURSIVE_DEPTH)
    (hclimbs : root.Climbs env) {depth : Nat} (hdepth : (call_keys env.specs_data).card < depth) :
    root.run env depth ≠ .deep := by
  intro hdeep
  obtain ⟨b, hpath⟩ := Call.deep_chain depth hdeep
  exact absurd (climbing_chain_is_short hroot hclimbs hpath) (Nat.not_le_of_lt hdepth)

/-- With no cycle of references, no call comes back to a spec. -/
theorem climbs_of_no_cycle (h : ∀ a, ¬ TransGen (Refers env) a a) : root.Climbs env := by
  intro a b _ hab hnode
  have hrefers : TransGen (Refers env) a.node b.node :=
    TransGen.lift Call.node (fun _ _ hmakes => Call.Makes.refers hmakes) a b hab
  rw [← hnode] at hrefers
  exact absurd hrefers (h a.node)

/-- A run that makes no call. -/
theorem climbs_of_no_call (h : ∀ b, ¬ root.Makes env b) : root.Climbs env := by
  intro a b ha hab
  obtain ⟨c, hac, -⟩ := TransGen.head'_iff.mp hab
  rcases ReflTransGen.cases_head ha with rfl | ⟨d, hd, -⟩
  · exact absurd hac (h c)
  · exact absurd hd (h d)

end Climbs

end statsig_rust.evaluation
