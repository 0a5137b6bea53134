-- The nesting counter goes up before each nested evaluation and comes down only
-- in `finalize_evaluation`. So it is balanced where the rules of every nested spec
-- decide. An absent gate, a local override, a mapping, a bandit or an unsupported
-- condition leaves without the decrement.
import StatsigCore.Evaluation.CallChains

open program Relation

namespace statsig_rust.evaluation

/-! ## The counter is balanced -/

/-- The counter is at a level and nothing unsupported was met. -/
def at_level (level : Nat) : Inv := fun n u => n = level ∧ u = false

/-- The rules of the spec that is called decide, the result is not marked at the start, and
every condition of the rules that the run asks is supported. -/
structure Call.Decides (env : EvaluatorEnv) (a : Call) : Prop where
  rules : ¬ LeavesEarly env a.node
  unmarked : a.ctx.result.unsupported = false
  supported : ∀ rule ctx, a.Takes env (.asks rule ctx) →
    ∀ hash ∈ rule.conditions, SupportedHash env hash

/-- The same of all that the run of a call nests. -/
def Call.Settles (env : EvaluatorEnv) (a : Call) : Prop :=
  ∀ b, ReflTransGen (Call.Nests env) a b → b.Decides env

/-- The call brings the counter down by one. `may_fail` says whether it may fail. -/
def Call.Returns (env : EvaluatorEnv) (may_fail : Prop) (depth : Nat) (a : Call) : Prop :=
  (a.run env depth).Meets (fun _ => (at_level (a.ctx.nested_count - 1)).holds)
    (fun _ _ => may_fail) True

/-- No chain of nested evaluations goes on past the limit: each call finds room for one more,
or its run never comes to the check of the limit. -/
def Call.Shallow (env : EvaluatorEnv) (root : Call) : Prop :=
  ∀ n a, graph.Path (Call.Nests env) n root a →
    root.ctx.nested_count + n < MAX_RECURSIVE_DEPTH ∨ ∀ ctx, ¬ a.Takes env (.checks ctx)

section Balance

variable {env : EvaluatorEnv} {a b : Call} {depth : Nat} {may_fail : Prop}

theorem Call.Settles.nested (h : a.Settles env) (hab : a.Nests env b) : b.Settles env :=
  fun c hbc => h c (.head hab hbc)

/-- The level that a nested call comes back to is the one of its caller. -/
theorem Call.Returns.to_caller (h : b.Returns env may_fail depth)
    (hlevel : b.ctx.nested_count = a.ctx.nested_count + 1) :
    (b.run env depth).Meets (fun _ => (at_level a.ctx.nested_count).holds)
      (fun _ _ => may_fail) True := by
  unfold Call.Returns at h
  rwa [hlevel, Nat.add_sub_cancel] at h

/-- What a call that settles relies on. -/
theorem settled_frame (h : a.Settles env)
    (hover : may_fail ∨ a.ctx.nested_count < MAX_RECURSIVE_DEPTH ∨
      ∀ ctx, ¬ a.Takes env (.checks ctx))
    (hnest : ∀ b, a.Nests env b → b.ctx.nested_count = a.ctx.nested_count + 1 →
      b.Returns env may_fail depth) :
    Frame env (evaluate env depth) a.node (a.Takes env) (at_level a.ctx.nested_count)
      (at_level (a.ctx.nested_count + 1)) (fun _ _ => may_fail)
      (at_level (a.ctx.nested_count - 1)) True := by
  have hrules := (h a .refl).rules
  refine
    { prep := ?_
      too_deep := ?_
      nest := fun b ctx _ hctx htakes => (hnest ⟨b, ctx⟩ htakes hctx.1).to_caller hctx.1
      group := fun b ctx _ _ _ => triple_true (P := fun _ => True) _ ctx trivial
      asks := fun spec _ rule _ ctx htakes hash hmem hunsupported =>
        absurd ((h a .refl).supported rule ctx htakes hash hmem) hunsupported
      tries := fun mapping rule hrule =>
        absurd (.inr (.inr (.inl ⟨mapping, rule, hrule⟩))) hrules
      override := fun htouched => absurd (.inr (.inl htouched)) hrules
      reset := fun hmapped => absurd (.inr (.inr (.inl hmapped))) hrules
      mapping := ?_
      caught := fun cmab hbandit => absurd (.inr (.inr (.inr ⟨cmab, hbandit⟩))) hrules
      finalize := ?_
      marked := fun n hn => absurd hn.2 (by decide)
      early := fun hearly => absurd hearly hrules }
  · rintro n u ⟨rfl, rfl⟩ _
    exact ⟨rfl, rfl⟩
  · rintro b ctx - ⟨hcount, -⟩ htakes hlt
    rcases hover with hmay | hroom | hnone
    · exact hmay
    · omega
    · exact absurd htakes (hnone ctx)
  · rintro b ctx ⟨-, mapping, rule, hrule, -⟩
    exact absurd (.inr (.inr (.inl ⟨mapping, rule, hrule⟩))) hrules
  · rintro n u ⟨rfl, rfl⟩
    exact ⟨rfl, rfl⟩

/-- A call that settles brings the counter down by one. -/
theorem evaluate_balanced (depth : Nat) (h : a.Settles env) : a.Returns env True depth := by
  induction depth generalizing a with
  | zero => trivial
  | succ depth ih =>
    have frame := settled_frame h (.inl trivial) fun b hab _ => ih (h.nested hab)
    exact (evaluate_with_walks frame a.ctx ⟨rfl, (h a .refl).unmarked⟩
      fun step hstep => ⟨depth, hstep⟩).2

/-- What a call that settles nests starts one level up. -/
theorem Call.Settles.level (h : a.Settles env) (hab : a.Nests env b) :
    b.ctx.nested_count = a.ctx.nested_count + 1 := by
  obtain ⟨depth, hstep⟩ := hab
  have frame := settled_frame h (.inl trivial) fun b hab _ => evaluate_balanced depth (h.nested hab)
  have hfits := (evaluate_with_walks frame a.ctx ⟨rfl, (h a .refl).unmarked⟩
    fun step hstep => ⟨depth, hstep⟩).1 _ hstep
  exact hfits.2.1

theorem Call.Settles.path {n : Nat} (hpath : graph.Path (Call.Nests env) n a b)
    (h : a.Settles env) : b.ctx.nested_count = a.ctx.nested_count + n := by
  induction hpath with
  | nil a => rfl
  | cons hab _ ih =>
    have hlevel := h.level hab
    have hrest := ih (h.nested hab)
    omega

theorem Call.Shallow.nested (h : a.Shallow env) (hab : a.Nests env b)
    (hlevel : b.ctx.nested_count = a.ctx.nested_count + 1) : b.Shallow env := by
  intro n c hpath
  rcases h (n + 1) c (.cons hab hpath) with hroom | hnone
  · exact .inl (by omega)
  · exact .inr hnone

theorem shallow_calls_do_not_fail (depth : Nat) (h : a.Settles env) (hshallow : a.Shallow env) :
    a.Returns env False depth := by
  induction depth generalizing a with
  | zero => trivial
  | succ depth ih =>
    have frame := settled_frame h (.inr (hshallow 0 a (.nil a))) fun b hab hlevel =>
      ih (h.nested hab) (hshallow.nested hab hlevel)
    exact (evaluate_with_walks frame a.ctx ⟨rfl, (h a .refl).unmarked⟩
      fun step hstep => ⟨depth, hstep⟩).2

/-! ## The call at the root -/

/-- What the root relies on, however it ends, where all that it nests settles. -/
theorem root_frame {root : Call}
    (hzero : Mapped env root.node → root.ctx.nested_count = 0)
    (hover : may_fail ∨ root.ctx.nested_count < MAX_RECURSIVE_DEPTH ∨
      ∀ ctx, ¬ root.Takes env (.checks ctx))
    (hnest : ∀ b, root.Nests env b → b.ctx.nested_count = root.ctx.nested_count + 1 →
      b.Returns env may_fail depth) :
    Frame env (evaluate env depth) root.node (root.Takes env)
      (fun n _ => n = root.ctx.nested_count) (fun n _ => n = root.ctx.nested_count + 1)
      (fun _ _ => may_fail) .any True where
  prep := by
    rintro n u rfl _
    rfl
  too_deep := by
    intro b ctx _ hcount htakes hlt
    have hcount : ctx.nested_count = root.ctx.nested_count := hcount
    rcases hover with hmay | hroom | hnone
    · exact hmay
    · omega
    · exact absurd htakes (hnone ctx)
  nest b ctx _ hctx htakes :=
    ((hnest ⟨b, ctx⟩ htakes hctx).to_caller hctx).mono (fun _ _ h => h.1) fun _ _ h => h
  group b ctx _ _ _ := triple_true (P := fun _ => True) _ ctx trivial
  asks _ _ _ _ _ _ _ _ _ _ _ h := h
  tries _ _ _ _ _ _ _ _ _ h := h
  override _ _ _ _ h := h
  reset hmapped := (hzero hmapped).symm
  mapping b ctx _ _ _ := triple_true (P := fun _ => True) _ ctx trivial
  caught _ _ _ _ _ := trivial
  finalize _ _ _ := trivial
  marked _ _ := trivial
  early _ _ _ _ := trivial

section Root

variable {root : Call} (h : ∀ b, root.Nests env b → b.Settles env)
  (hzero : Mapped env root.node → root.ctx.nested_count = 0)

include h hzero

theorem root_level (hab : root.Nests env b) :
    b.ctx.nested_count = root.ctx.nested_count + 1 := by
  obtain ⟨depth, hstep⟩ := hab
  have frame := root_frame hzero (.inl trivial) fun b hab _ => evaluate_balanced depth (h b hab)
  exact ((evaluate_with_walks frame root.ctx rfl fun step hstep => ⟨depth, hstep⟩).1 _ hstep).2

/-- The counter is the depth of nesting. -/
theorem root_path {n : Nat} (hpath : graph.Path (Call.Nests env) n root b) :
    b.ctx.nested_count = root.ctx.nested_count + n := by
  cases hpath with
  | nil => rfl
  | cons hab hrest =>
    have hlevel := root_level h hzero hab
    have hpath := Call.Settles.path hrest (h _ hab)
    omega

theorem shallow_root_does_not_fail (hshallow : root.Shallow env) (depth : Nat) (e : StatsigErr)
    (ctx : EvaluatorContext) : root.run env depth ≠ .err e ctx := by
  cases depth with
  | zero => exact nofun
  | succ depth =>
    have frame := root_frame hzero (.inr (hshallow 0 root (.nil root))) fun b hab hlevel =>
      shallow_calls_do_not_fail depth (h b hab) (hshallow.nested hab hlevel)
    have hrun := (evaluate_with_walks frame root.ctx rfl fun step hstep => ⟨depth, hstep⟩).2
    intro hfails
    have hfails' : evaluate_with env (evaluate env depth) root.node.2 root.node.1 root.ctx =
      .err e ctx := hfails
    rw [hfails'] at hrun
    exact hrun

end Root

/-! ## One nested evaluation -/

/-- The limit check and the evaluation after it, as the three kinds of nesting start. -/
def nested_evaluation (env : EvaluatorEnv) (depth : Nat) (node : Node) : Eval Recognition := do
  prep_for_nested_evaluation
  evaluate env depth node.2 node.1

/-- What the step nests settles. -/
def Step.Settles (env : EvaluatorEnv) : Step → Prop
  | .nests b ctx => Call.Settles env ⟨b, ctx⟩
  | _ => True

/-- The counter is at a level. -/
def counts (level : Nat) : Inv := fun n _ => n = level

theorem prep_counts {fits : Step → Prop} (level : Nat) (hfits : ∀ ctx, fits (.checks ctx)) :
    LimitCheck (Step.Settles env) fits (counts level) (counts (level + 1)) .any True :=
  fun ctx hctx =>
    ⟨hfits ctx, fun _ => prep_meets (fun _ => congrArg (· + 1) hctx) fun _ => trivial⟩

theorem nested_call_walks {fits : Step → Prop} (level : Nat) (node : Node)
    (hfits : ∀ ctx, fits (.nests node ctx)) :
    Walks (Step.Settles env) fits (counts (level + 1)) (fun _ => (counts level).holds) .any True
      (evaluate env depth node.2 node.1) fun ctx => [.nests node ctx] := by
  intro ctx hctx
  refine takes_one (hfits ctx) fun hsettles => ?_
  have hback := (evaluate_balanced depth hsettles).to_caller
    (a := ⟨node, { nested_count := level }⟩) hctx
  exact hback.mono (fun _ _ h => h.1) fun _ _ h => h

theorem nested_evaluation_balanced {node : Node} {ctx ctx' : EvaluatorContext}
    {recognition : Recognition}
    (h : ∀ prepped, prep_for_nested_evaluation ctx = .ok () prepped →
      Call.Settles env ⟨node, prepped⟩)
    (hrun : nested_evaluation env depth node ctx = .ok recognition ctx') :
    ctx'.nested_count = ctx.nested_count := by
  obtain ⟨_, prepped, hprep, hcall⟩ := ok_of_bind hrun
  have hlevel : prepped.nested_count = ctx.nested_count + 1 := by
    have hmeets := (@prep_counts env (fun _ => True) ctx.nested_count (fun _ => trivial)
      ctx rfl).2 trivial
    rw [hprep] at hmeets
    exact hmeets
  have hback := (evaluate_balanced depth (h prepped hprep)).to_caller (a := ⟨node, ctx⟩) hlevel
  have hcall' : Call.run env depth ⟨node, prepped⟩ = .ok recognition ctx' := hcall
  rw [hcall'] at hback
  exact hback.1

theorem evaluate_nested_gate_balanced {target : MemoizedEvaluatorValue} {ty : ConditionType}
    {ctx ctx' : EvaluatorContext} (h : ∀ step ∈ nested_gate_steps target ctx, step.Settles env)
    (hrun : evaluate_nested_gate (evaluate env depth) target ty ctx = .ok () ctx') :
    ctx'.nested_count = ctx.nested_count := by
  have hcheck := @prep_counts env (fun _ => True) ctx.nested_count fun _ => trivial
  have hnested := @nested_call_walks env depth (fun _ => True) ctx.nested_count
    (.Gate, gate_name_of target) fun _ => trivial
  have hwalks := evaluate_nested_gate_walks hcheck hnested ty ctx rfl h
  rw [hrun] at hwalks
  exact hwalks.2

theorem evaluate_config_delegate_balanced {rule : Rule} {ctx ctx' : EvaluatorContext}
    {delegated : Bool} (h : ∀ step ∈ delegate_steps env rule ctx, step.Settles env)
    (hrun : evaluate_config_delegate env (evaluate env depth) rule ctx = .ok delegated ctx') :
    ctx'.nested_count = ctx.nested_count := by
  have hcheck := @prep_counts env (fun _ => True) ctx.nested_count fun _ => trivial
  have hnested := fun delegate => @nested_call_walks env depth (fun _ => True) ctx.nested_count
    (.Experiment, delegate) fun _ => trivial
  have hwalks := evaluate_config_delegate_walks (fun delegate _ _ _ => ⟨hcheck, hnested delegate⟩)
    ctx rfl h
  rw [hrun] at hwalks
  exact hwalks.2

end Balance

/-- A nested evaluation that returns gives the counter back as it found it, where the rules of
all that it nests decide and every condition that they ask is supported. In a run where this
holds of every nested evaluation, the counter is the depth of nesting. A run that nests no
deeper than the limit does not overflow, and it returns if its chains of calls are bounded. -/
theorem nesting_is_balanced_where_rules_decide (env : EvaluatorEnv) :
    (∀ depth node ctx ctx' recognition,
      (∀ prepped, prep_for_nested_evaluation ctx = .ok () prepped →
        Call.Settles env ⟨node, prepped⟩) →
      nested_evaluation env depth node ctx = .ok recognition ctx' →
      ctx'.nested_count = ctx.nested_count) ∧
    (∀ depth target ty ctx ctx', (∀ step ∈ nested_gate_steps target ctx, step.Settles env) →
      evaluate_nested_gate (evaluate env depth) target ty ctx = .ok () ctx' →
      ctx'.nested_count = ctx.nested_count) ∧
    (∀ depth rule ctx ctx' delegated, (∀ step ∈ delegate_steps env rule ctx, step.Settles env) →
      evaluate_config_delegate env (evaluate env depth) rule ctx = .ok delegated ctx' →
      ctx'.nested_count = ctx.nested_count) ∧
    ∀ root : Call,
      (∀ a b, ReflTransGen (Call.Makes env) root a → a.Nests env b → b.Decides env) →
      (∀ a b, ReflTransGen (Call.Makes env) root a → a.Nests env b →
        ∀ depth recognition ctx', b.run env depth = .ok recognition ctx' →
          ctx'.nested_count + 1 = b.ctx.nested_count) ∧
      ((Mapped env root.node → root.ctx.nested_count = 0) →
        (∀ n b, graph.Path (Call.Nests env) n root b →
          b.ctx.nested_count = root.ctx.nested_count + n) ∧
        (root.Shallow env →
          (∀ depth e ctx', root.run env depth ≠ .err e ctx') ∧
          ∀ bound, (∀ n b, graph.Path (Call.Makes env) n root b → n ≤ bound) →
            ∀ depth > bound, ∃ recognition ctx', root.run env depth = .ok recognition ctx')) := by
  refine ⟨fun _ _ _ _ _ => nested_evaluation_balanced, fun _ _ _ _ _ =>
    evaluate_nested_gate_balanced, fun _ _ _ _ _ => evaluate_config_delegate_balanced, ?_⟩
  intro root hdecides
  have hmakes : ∀ {a b : Call}, ReflTransGen (Call.Nests env) a b →
      ReflTransGen (Call.Makes env) a b :=
    fun h => ReflTransGen.mono (fun _ _ hnests => Or.inl hnests) _ _ h
  have hsettles : ∀ a b, ReflTransGen (Call.Makes env) root a → a.Nests env b →
      b.Settles env := by
    intro a b ha hab c hbc
    rcases ReflTransGen.cases_tail hbc with rfl | ⟨d, hbd, hdc⟩
    · exact hdecides a _ ha hab
    · exact hdecides d c ((ha.tail (.inl hab)).trans (hmakes hbd)) hdc
  have hroot : ∀ b, root.Nests env b → b.Settles env := fun b => hsettles root b .refl
  refine ⟨?_, fun hzero => ⟨fun n b => root_path hroot hzero,
    fun hshallow => ?_⟩⟩
  · intro a b ha hab depth recognition ctx' hrun
    have hback := evaluate_balanced depth (hsettles a b ha hab)
    unfold Call.Returns at hback
    rw [hrun] at hback
    have hpositive : 1 ≤ b.ctx.nested_count := by
      obtain ⟨depth, hstep⟩ := hab
      exact (Call.step_fits hstep).2.1
    have hcount : ctx'.nested_count = b.ctx.nested_count - 1 := hback.1
    omega
  · have hfails := shallow_root_does_not_fail hroot hzero hshallow
    refine ⟨hfails, fun bound hbound depth hdepth => ?_⟩
    cases hrun : root.run env depth with
    | ok recognition ctx' => exact ⟨recognition, ctx', rfl⟩
    | err e ctx' => exact absurd hrun (hfails depth e ctx')
    | deep =>
      obtain ⟨b, hpath⟩ := Call.deep_chain depth hrun
      exact absurd (hbound depth b hpath) (Nat.not_le_of_lt hdepth)

/-- A gate with one rule, which asks for another gate. -/
def outer_spec : Spec where
  rules := [{ id := "rule", conditions := ["passes_inner"] }]

/-- The other gate lets everyone in before it asks for a gate that the specs do not hold. -/
def asks_a_decided_gate : SpecsResponseFull where
  condition_map := [("everyone", .everyone), ("passes_inner", .on_gate "pass_gate" "inner"),
    ("passes_absent", { condition_type := "pass_gate" })]
  feature_gates := [("outer", outer_spec), ("inner", { rules := [
    { id := "first", conditions := ["everyone"], pass_percentage := 100 },
    { id := "second", conditions := ["passes_absent"] }] })]

def outer_call : Call := ⟨(.Gate, "outer"), {}⟩

/-- The one call that the run of the outer gate makes. -/
def inner_call : Call :=
  ⟨(.Gate, "inner"), { begin_spec "outer" outer_spec {} with nested_count := 1 }⟩

theorem outer_call_steps (depth : Nat) :
    outer_call.steps (.plain asks_a_decided_gate) depth =
      [.asks { id := "rule", conditions := ["passes_inner"] } (begin_spec "outer" outer_spec {}),
        .checks (begin_spec "outer" outer_spec {}), .nests inner_call.node inner_call.ctx] := by
  cases depth with
  | zero => rfl
  | succ depth => rfl

theorem inner_call_steps (depth : Nat) :
    inner_call.steps (.plain asks_a_decided_gate) depth =
      [.asks { id := "first", conditions := ["everyone"], pass_percentage := 100 }
        inner_call.ctx] :=
  rfl

/-- The run of the outer gate makes one call, and that one makes none. -/
theorem outer_call_makes {b : Call} (h : outer_call.Makes (.plain asks_a_decided_gate) b) :
    b = inner_call := by
  obtain ⟨node, ctx⟩ := b
  rcases h with ⟨depth, hstep⟩ | ⟨depth, hstep⟩ | ⟨depth, hstep⟩
  all_goals
    rw [outer_call_steps, List.mem_cons, List.mem_cons, List.mem_singleton] at hstep
    rcases hstep with hstep | hstep | hstep
    · cases hstep
    · cases hstep
    · cases hstep <;> rfl

theorem inner_call_makes {b : Call} : ¬ inner_call.Makes (.plain asks_a_decided_gate) b := by
  rintro (⟨depth, hstep⟩ | ⟨depth, hstep⟩ | ⟨depth, hstep⟩)
  all_goals
    rw [inner_call_steps] at hstep
    cases List.mem_singleton.mp hstep

theorem nesting_is_balanced_for_the_outer_gate :
    (∀ depth recognition ctx', inner_call.run (.plain asks_a_decided_gate) depth =
      .ok recognition ctx' → ctx'.nested_count + 1 = 1) ∧
    ∀ depth > 1, ∃ recognition ctx',
      outer_call.run (.plain asks_a_decided_gate) depth = .ok recognition ctx' := by
  have hreached : ∀ {a b}, ReflTransGen (Call.Makes (.plain asks_a_decided_gate)) outer_call a →
      a.Makes (.plain asks_a_decided_gate) b → a = outer_call ∧ b = inner_call := by
    intro a b ha hab
    rcases ReflTransGen.cases_head ha with rfl | ⟨c, hc, hca⟩
    · exact ⟨rfl, outer_call_makes hab⟩
    · obtain rfl := outer_call_makes hc
      rcases ReflTransGen.cases_head hca with rfl | ⟨d, hd, -⟩
      · exact absurd hab inner_call_makes
      · exact absurd hd inner_call_makes
  have hdecides : inner_call.Decides (.plain asks_a_decided_gate) := by
    refine ⟨?_, rfl, ?_⟩
    · rintro (hnone | htouched | ⟨mapping, rule, _, _, _, hoverrides, -⟩ | ⟨cmab, hty, -⟩)
      · cases hnone
      · exact htouched rfl
      · cases hoverrides
      · cases hty
    · rintro rule ctx ⟨depth, hstep⟩ hash hmem
      rw [inner_call_steps] at hstep
      cases List.mem_singleton.mp hstep
      obtain rfl := List.mem_singleton.mp hmem
      exact ⟨_, rfl, rfl⟩
  have hnests : outer_call.Nests (.plain asks_a_decided_gate) inner_call := by
    refine ⟨0, ?_⟩
    rw [outer_call_steps]
    exact List.mem_cons_of_mem _ (List.mem_cons_of_mem _ (List.mem_singleton.mpr rfl))
  have hall : ∀ a b, ReflTransGen (Call.Makes (.plain asks_a_decided_gate)) outer_call a →
      a.Nests (.plain asks_a_decided_gate) b → b.Decides (.plain asks_a_decided_gate) := by
    intro a b ha hab
    obtain ⟨-, rfl⟩ := hreached ha (.inl hab)
    exact hdecides
  have hshort : ∀ n b, graph.Path (Call.Makes (.plain asks_a_decided_gate)) n outer_call b →
      n ≤ 1 := by
    intro n b hpath
    cases hpath with
    | nil => exact Nat.zero_le _
    | cons hab hrest =>
      obtain rfl := outer_call_makes hab
      cases hrest with
      | nil => exact Nat.le_refl _
      | cons hbc _ => exact absurd hbc inner_call_makes
  obtain ⟨hback, hcounts⟩ :=
    (nesting_is_balanced_where_rules_decide (.plain asks_a_decided_gate)).2.2.2 outer_call hall
  refine ⟨hback outer_call inner_call .refl hnests, ((hcounts fun _ => rfl).2 ?_).2 1 hshort⟩
  intro n a hpath
  have hmakes : graph.Path (Call.Makes (.plain asks_a_decided_gate)) n outer_call a :=
    hpath.mono fun _ _ h => Or.inl h
  have hle : outer_call.ctx.nested_count + n ≤ 1 := by
    simpa [outer_call] using hshort n a hmakes
  exact .inl (Nat.lt_of_le_of_lt hle (by decide))

/-- A gate with many conditions on a gate that the specs do not hold. -/
def absent_gates : SpecsResponseFull where
  condition_map := [("passes_absent", { condition_type := "pass_gate" })]
  feature_gates := [("gate", { rules := [
    { id := "rule", conditions := List.replicate (MAX_RECURSIVE_DEPTH + 1) "passes_absent" }] })]

/-- Whether a run ends in an overflow of the nesting limit. -/
def overflows {α : Type} : Outcome EvaluatorContext StatsigErr α → Bool
  | .err .StackOverflowError _ => true
  | _ => false

/-- An absent gate keeps the counter up, and enough of them, one after the other,
overflow the limit at a depth of two calls. -/
theorem absent_gates_keep_the_counter_up :
    (∃ ctx', evaluate_nested_gate (evaluate (.plain absent_gates) 1) (.new .Null) .PassGate {} =
      .ok () ctx' ∧ ctx'.nested_count = 1) ∧
    overflows (evaluate (.plain absent_gates) 2 "gate" .Gate {}) = true := by
  exact ⟨⟨_, rfl, rfl⟩, by decide +kernel⟩

end statsig_rust.evaluation
