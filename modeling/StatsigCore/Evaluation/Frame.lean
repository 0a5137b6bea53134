-- One call of `evaluate`, followed through every path of the source. What a
-- call does to the nesting counter and to the unsupported mark is stated once,
-- for any invariant of the two and for the steps that the call takes. The laws
-- of the counter are instances.
import StatsigCore.Evaluation.Steps

open program

namespace statsig_rust.evaluation

/-- An invariant of the nesting counter and the unsupported mark. -/
abbrev Inv := Nat → Bool → Prop

def Inv.holds (I : Inv) (ctx : EvaluatorContext) : Prop :=
  I ctx.nested_count ctx.result.unsupported

/-- Nothing is known. -/
def Inv.any : Inv := fun _ _ => True

/-- Nothing unsupported was met. -/
def Inv.unmarked : Inv := fun _ u => u = false

/-- What `reset_result` leaves. -/
def Inv.fresh : Inv := fun n u => n = 0 ∧ u = false

/-- From `P`, a run ends with `Q` on a value and with `E` on an error. -/
def Moves {α : Type} (P Q E : Inv) (D : Prop) (x : Eval α) : Prop :=
  Triple P.holds x (fun _ => Q.holds) (fun _ => E.holds) D

/-- From `P`, a run whose steps are allowed takes steps that fit, and it ends with `Q` on a
value and with `E` on an error. -/
def Walks {α : Type} (allowed fits : Step → Prop) (P : Inv) (Q : α → EvaluatorContext → Prop)
    (E : Inv) (D : Prop) (x : Eval α) (steps : EvaluatorContext → List Step) : Prop :=
  ∀ ctx, P.holds ctx → Takes allowed fits ctx x (steps ctx) Q (fun _ => E.holds) D

/-- The steps that a call for the node may take, where `Pre` holds whenever it nests. -/
def Step.Fits (env : EvaluatorEnv) (node : Node) (Pre : Inv) : Step → Prop
  | .asks rule _ => ∃ spec, spec_of env node = some spec ∧ rule ∈ spec.rules
  | .tries rule => ∃ mapping, MappingRule env node.2 mapping rule
  | .checks _ => ∃ b, Nests env node b
  | .nests b ctx => Nests env node b ∧ Pre.holds ctx
  | .groups b ctx => AsksGroup env node b ∧ Inv.fresh.holds ctx
  | .maps b ctx => MapsTo env node b ∧ Inv.fresh.holds ctx

/-! ## What a call relies on -/

/-- A condition that is not supported may mark the result. -/
def Flags (env : EvaluatorEnv) (I : Inv) (hashes : List InternedString) : Prop :=
  ∀ hash ∈ hashes, ¬ SupportedHash env hash → ∀ n u, I n u → I n true

/-- The limit check ends with `Pre`, or with `E` where it fails. -/
def LimitCheck (allowed fits : Step → Prop) (I Pre E : Inv) (D : Prop) : Prop :=
  ∀ ctx, I.holds ctx → fits (.checks ctx) ∧ (allowed (.checks ctx) →
    (prep_for_nested_evaluation ctx).Meets (fun _ => Pre.holds) (fun _ => E.holds) D)

/-- What the conditions of one rule rely on. A nested gate starts with `Pre`,
right after the limit check. -/
structure ConditionFrame (env : EvaluatorEnv) (rec : Recur) (allowed fits : Step → Prop)
    (hashes : List InternedString) (I Pre E : Inv) (D : Prop) : Prop where
  check : ∀ gate, GateCondition env hashes gate → LimitCheck allowed fits I Pre E D
  gate : ∀ gate, GateCondition env hashes gate →
    Walks allowed fits Pre (fun _ => I.holds) E D (rec gate .Gate) fun ctx =>
      [.nests (.Gate, gate) ctx]
  group : ∀ name, GroupCondition env hashes name →
    Walks allowed fits .fresh (fun _ _ => True) .any D (rec name .Experiment) fun ctx =>
      [.groups (.Experiment, name) ctx]
  flag : Flags env I hashes

/-- What one call for a node relies on, and how the invariant of the call becomes that of
its caller. Only the steps that are allowed need be known. -/
structure Frame (env : EvaluatorEnv) (rec : Recur) (node : Node) (allowed : Step → Prop)
    (I Pre E Post : Inv) (D : Prop) : Prop where
  prep : ∀ n u, I n u → n + 1 ≤ MAX_RECURSIVE_DEPTH → Pre (n + 1) u
  too_deep : ∀ b ctx, Nests env node b → I.holds ctx → allowed (.checks ctx) →
    MAX_RECURSIVE_DEPTH < ctx.nested_count + 1 → E (ctx.nested_count + 1) ctx.result.unsupported
  nest : ∀ b ctx, Nests env node b → Pre.holds ctx → allowed (.nests b ctx) →
    (rec b.2 b.1 ctx).Meets (fun _ => I.holds) (fun _ => E.holds) D
  group : ∀ b ctx, AsksGroup env node b → Inv.fresh.holds ctx → allowed (.groups b ctx) →
    (rec b.2 b.1 ctx).Meets (fun _ _ => True) (fun _ _ => True) D
  asks : ∀ spec, spec_of env node = some spec → ∀ rule ∈ spec.rules, ∀ ctx,
    allowed (.asks rule ctx) → Flags env I rule.conditions
  tries : ∀ mapping rule, MappingRule env node.2 mapping rule → allowed (.tries rule) →
    Flags env I rule.conditions
  override : ¬ Untouched env node → ∀ n u u', I n u → I n u'
  reset : Mapped env node → I 0 false
  mapping : ∀ b ctx, MapsTo env node b → Inv.fresh.holds ctx → allowed (.maps b ctx) →
    (rec b.2 b.1 ctx).Meets (fun _ => Post.holds) (fun _ _ => True) D
  caught : ∀ cmab, BanditOf env node cmab → ∀ n u, E n u → Post n u
  finalize : ∀ n u, I n u → Post (n - 1) u
  marked : ∀ n, I n true → Post n true
  early : LeavesEarly env node → ∀ n u, I n u → Post n u

/-! ## Steps that keep the counter and the mark -/

section Keeps

variable {I Pre E : Inv} {D : Prop} {α β : Type}

theorem moves_pure (a : α) : Moves I I E D (pure a : Eval α) := triple_pure fun _ h => h

theorem moves_update {f : EvaluatorContext → EvaluatorContext}
    (h : ∀ c, I.holds c → I.holds (f c)) : Moves I I E D (update f) := triple_update h

theorem moves_update_pure {f : EvaluatorContext → EvaluatorContext} (a : α)
    (h : ∀ c, I.holds c → I.holds (f c)) : Moves I I E D ((do update f; pure a) : Eval α) :=
  triple_update_bind h (moves_pure a)

theorem prep_meets {ctx : EvaluatorContext}
    (hprep : ctx.nested_count + 1 ≤ MAX_RECURSIVE_DEPTH →
      Pre (ctx.nested_count + 1) ctx.result.unsupported)
    (hover : MAX_RECURSIVE_DEPTH < ctx.nested_count + 1 →
      E (ctx.nested_count + 1) ctx.result.unsupported) :
    (prep_for_nested_evaluation ctx).Meets (fun _ => Pre.holds) (fun _ => E.holds) D := by
  unfold prep_for_nested_evaluation
  dsimp only
  split
  · rename_i hlt
    exact hover hlt
  · rename_i hle
    exact hprep (by omega)

theorem record_nested_gate_keeps {gate : InternedString} {ty : ConditionType}
    {ctx : EvaluatorContext} (h : I.holds ctx) : I.holds (record_nested_gate gate ty ctx) := by
  have hpush : I.holds (push_nested_exposure gate ctx) := by
    unfold push_nested_exposure
    dsimp only
    split <;> split <;> exact h
  unfold record_nested_gate
  dsimp only
  split <;> exact hpush

theorem assign_cmab_group_keeps {env : EvaluatorEnv} {cmab : CMABConfig} {ctx : EvaluatorContext}
    (h : I.holds ctx) : I.holds (assign_cmab_group env cmab ctx) := by
  unfold assign_cmab_group apply_random_group apply_best_group
  dsimp only
  repeat' split
  all_goals exact h

end Keeps

section Walks

variable {allowed fits : Step → Prop} {I Pre E : Inv} {D : Prop} {α β : Type}

theorem Walks.bind {Q : Inv} {R : β → EvaluatorContext → Prop} {x : Eval α} {f : α → Eval β}
    {steps : EvaluatorContext → List Step} {next : α → EvaluatorContext → List Step}
    (hx : Walks allowed fits I (fun _ => Q.holds) E D x steps)
    (hf : ∀ a, Walks allowed fits Q R E D (f a) (next a)) :
    Walks allowed fits I R E D (x >>= f) fun ctx => steps ctx ++ onward (x ctx) next :=
  fun ctx hctx => (hx ctx hctx).bind fun a => hf a

/-- A run that takes no steps before the next one. -/
theorem Moves.onward {Q : Inv} {R : β → EvaluatorContext → Prop} {x : Eval α} {f : α → Eval β}
    {next : α → EvaluatorContext → List Step} (hx : Moves I Q E D x)
    (hf : ∀ a, Walks allowed fits Q R E D (f a) (next a)) :
    Walks allowed fits I R E D (x >>= f) fun ctx => onward (x ctx) next :=
  fun ctx hctx => takes_after (hx ctx hctx) fun a => hf a

/-- A run that takes no steps. -/
theorem Moves.walks {x : Eval α} {Q : Inv} (h : Moves I Q E D x) :
    Walks allowed fits I (fun _ => Q.holds) E D x fun _ => [] :=
  fun ctx hctx => takes_none (h ctx hctx)

/-- A nested gate, whose evaluation starts with `Pre`. -/
theorem evaluate_nested_gate_walks {rec : Recur} {target : MemoizedEvaluatorValue}
    (hcheck : LimitCheck allowed fits I Pre E D)
    (hcall : Walks allowed fits Pre (fun _ => I.holds) E D (rec (gate_name_of target) .Gate)
      fun ctx => [.nests (.Gate, gate_name_of target) ctx])
    (ty : ConditionType) :
    Walks allowed fits I (fun _ => I.holds) E D (evaluate_nested_gate rec target ty)
      (nested_gate_steps target) := by
  intro ctx hctx
  unfold evaluate_nested_gate nested_gate_steps
  refine takes_state ?_
  cases hmemo : ctx.nested_gate_memo.get (gate_name_of target) with
  | some memo =>
    simp only [hmemo]
    exact takes_none (record_nested_gate_keeps hctx)
  | none =>
    simp only [hmemo]
    obtain ⟨hfits, hprep⟩ := hcheck ctx hctx
    refine takes_cons hfits fun hallowed =>
      takes_after (hprep hallowed) fun _ prepped hprepped => ?_
    refine takes_state (takes_after_update ?_)
    refine (hcall (take_exposures prepped) hprepped).bind_quiet fun _ inner hinner => ?_
    simp only [state_bind]
    split
    · exact hinner
    · exact record_nested_gate_keeps hinner

/-- A delegate, whose evaluation starts with `Pre`. -/
theorem evaluate_config_delegate_walks {env : EvaluatorEnv} {rec : Recur} {rule : Rule}
    (hcall : ∀ delegate delegate_spec, rule.config_delegate = some delegate →
      env.specs_data.dynamic_configs.get delegate = some delegate_spec →
      LimitCheck allowed fits I Pre E D ∧
        Walks allowed fits Pre (fun _ => I.holds) E D (rec delegate .Experiment) fun ctx =>
          [.nests (.Experiment, delegate) ctx]) :
    Walks allowed fits I (fun _ => I.holds) E D (evaluate_config_delegate env rec rule)
      (delegate_steps env rule) := by
  intro ctx hctx
  unfold evaluate_config_delegate delegate_steps
  cases hdelegate : rule.config_delegate with
  | none => exact takes_pure hctx
  | some delegate =>
    cases hget : env.specs_data.dynamic_configs.get delegate with
    | none =>
      simp only [hget]
      exact takes_pure hctx
    | some delegate_spec =>
      obtain ⟨hcheck, hwalks⟩ := hcall delegate delegate_spec hdelegate hget
      obtain ⟨hfits, hprep⟩ := hcheck { ctx with
        result.undelegated_secondary_exposures := some ctx.result.secondary_exposures } hctx
      simp only [hget]
      refine takes_after_update ?_
      refine takes_cons hfits fun hallowed => takes_after (hprep hallowed) fun _ prepped hpre => ?_
      refine (hwalks prepped hpre).bind_quiet fun recognition inner hinner => ?_
      split
      · exact hinner
      · exact hinner

end Walks

/-! ## The conditions of a rule -/

section Conditions

variable {env : EvaluatorEnv} {rec : Recur} {allowed fits : Step → Prop}
  {hashes : List InternedString} {I Pre E : Inv} {D : Prop}

theorem ConditionFrame.tail {hash : InternedString}
    (frame : ConditionFrame env rec allowed fits (hash :: hashes) I Pre E D) :
    ConditionFrame env rec allowed fits hashes I Pre E D where
  check := by
    rintro gate ⟨h, hmem, hrest⟩
    exact frame.check gate ⟨h, List.mem_cons_of_mem _ hmem, hrest⟩
  gate := by
    rintro gate ⟨h, hmem, hrest⟩
    exact frame.gate gate ⟨h, List.mem_cons_of_mem _ hmem, hrest⟩
  group := by
    rintro name ⟨h, hmem, hrest⟩
    exact frame.group name ⟨h, List.mem_cons_of_mem _ hmem, hrest⟩
  flag h hmem := frame.flag h (List.mem_cons_of_mem _ hmem)

variable (frame : ConditionFrame env rec allowed fits hashes I Pre E D)

include frame

theorem apply_operator_keeps {hash : InternedString} {condition : Condition}
    (hmem : hash ∈ hashes) (hget : env.specs_data.condition_map.get hash = some condition)
    (hop : is_supported env condition = true → known_operator condition = true)
    (value : Option DynamicValue) {ctx : EvaluatorContext} (h : I.holds ctx) :
    I.holds (apply_operator env condition value ctx) := by
  unfold apply_operator
  split
  · exact h
  · rename_i hnone
    apply frame.flag hash hmem _ _ _ h
    rintro ⟨condition', hget', hsupported⟩
    obtain rfl : condition' = condition := Option.some.inj (hget'.symm.trans hget)
    have hknown := operator_outcome_isSome env condition' value
    rw [hnone, hop hsupported] at hknown
    cases hknown

theorem evaluate_experiment_group_walks {hash : InternedString} {condition : Condition}
    (hmem : hash ∈ hashes) (hget : env.specs_data.condition_map.get hash = some condition)
    (hty : type_of condition = .ExperimentGroup) :
    Walks allowed fits I (fun _ => I.holds) E D
      (evaluate_experiment_group env rec condition.field)
      (experiment_group_steps env condition.field) := by
  intro ctx hctx
  unfold evaluate_experiment_group experiment_group_steps
  cases hfield : condition.field with
  | none => exact takes_pure hctx
  | some field =>
    dsimp only
    split
    · rename_i hs
      -- the experiment runs in a context of its own, with its own counter
      intro hallowed
      obtain ⟨hfits, hrun⟩ :=
        frame.group _ ⟨hash, hmem, condition, field, hget, hty, hfield, rfl, hs⟩
        { draws := ctx.draws } ⟨rfl, rfl⟩ hallowed
      refine ⟨hfits, ?_⟩
      unfold get_experiment_group_name
      revert hrun
      cases rec field.value .Experiment { draws := ctx.draws } with
      | ok _ _ => exact fun _ => hctx
      | err _ _ => exact fun _ => hctx
      | deep => exact fun h => h
    · rename_i hs
      refine Moves.walks (Q := I) ?_ ctx hctx
      refine moves_update_pure none fun c hc => frame.flag hash hmem ?_ _ _ hc
      rintro ⟨condition', hget', hsupported⟩
      obtain rfl : condition' = condition := Option.some.inj (hget'.symm.trans hget)
      simp [is_supported, hty, hs, hfield] at hsupported

theorem evaluate_condition_walks {hash : InternedString} {condition : Condition}
    (hmem : hash ∈ hashes) (hget : env.specs_data.condition_map.get hash = some condition) :
    Walks allowed fits I (fun _ => I.holds) E D (evaluate_condition env rec condition)
      (condition_steps env condition) := by
  have hreading : (is_supported env condition = true → known_operator condition = true) →
      Walks allowed fits I (fun _ => I.holds) E D (update (evaluate_reading env condition))
        fun _ => [] := by
    intro hop
    refine Moves.walks (moves_update fun c hc => apply_operator_keeps frame hmem hget hop _ ?_)
    split <;> exact hc
  unfold evaluate_condition condition_steps
  cases hty : type_of condition
  case Public => exact Moves.walks (moves_update fun _ h => h)
  case FailGate =>
    have hgate : GateCondition env hashes _ := ⟨hash, hmem, condition, hget, .inr hty, rfl⟩
    exact evaluate_nested_gate_walks (frame.check _ hgate) (frame.gate _ hgate) _
  case PassGate =>
    have hgate : GateCondition env hashes _ := ⟨hash, hmem, condition, hget, .inl hty, rfl⟩
    exact evaluate_nested_gate_walks (frame.check _ hgate) (frame.gate _ hgate) _
  case ExperimentGroup =>
    intro ctx hctx
    refine (evaluate_experiment_group_walks frame hmem hget hty ctx hctx).bind_quiet ?_
    refine fun group inner hinner => apply_operator_keeps frame hmem hget ?_ _ hinner
    intro hsupported
    simp only [is_supported, hty, Bool.and_eq_true] at hsupported
    exact hsupported.2
  case Unknown =>
    refine Moves.walks (moves_update fun c hc => frame.flag hash hmem ?_ _ _ hc)
    rintro ⟨condition', hget', hsupported⟩
    obtain rfl : condition' = condition := Option.some.inj (hget'.symm.trans hget)
    simp [is_supported, hty] at hsupported
  all_goals exact hreading fun h => by simpa [is_supported, hty] using h

theorem evaluate_conditions_walks (all : Bool) :
    Walks allowed fits I (fun _ => I.holds) E D (evaluate_conditions env rec hashes all)
      (conditions_steps env rec hashes) := by
  induction hashes generalizing all with
  | nil => exact Moves.walks (moves_update fun _ h => h)
  | cons hash hashes ih =>
    unfold evaluate_conditions
    cases hget : env.specs_data.condition_map.get hash with
    | none =>
      intro ctx hctx
      unfold conditions_steps
      simp only [hget]
      refine (moves_update fun c hc => ?_).walks ctx hctx
      refine frame.flag hash (List.mem_cons_self ..) ?_ _ _ hc
      rintro ⟨condition, hget', _⟩
      rw [hget] at hget'
      cases hget'
    | some condition =>
      intro ctx hctx
      unfold conditions_steps
      simp only [hget]
      refine (evaluate_condition_walks frame (List.mem_cons_self ..) hget ctx hctx).bind ?_
      exact fun _ inner hinner => takes_state (ih frame.tail _ inner hinner)

end Conditions

/-! ## The parts of a call -/

/-- What is known after a part of a call that may have ended it. -/
def Ended (Post I : Inv) : Bool → EvaluatorContext → Prop
  | true => Post.holds
  | false => I.holds

section Parts

variable {env : EvaluatorEnv} {rec : Recur} {node : Node} {allowed : Step → Prop}
  {I Pre E Post : Inv} {D : Prop} (frame : Frame env rec node allowed I Pre E Post D)

include frame

theorem Frame.nested {b : Node} (hb : Nests env node b) :
    Walks allowed (Step.Fits env node Pre) Pre (fun _ => I.holds) E D (rec b.2 b.1) fun ctx =>
      [.nests b ctx] :=
  fun ctx hctx => takes_one ⟨hb, hctx⟩ (frame.nest b ctx hb hctx)

theorem Frame.check {b : Node} (hb : Nests env node b) :
    LimitCheck allowed (Step.Fits env node Pre) I Pre E D := by
  intro ctx hctx
  refine ⟨⟨b, hb⟩, fun hallowed => prep_meets (fun hle => ?_) fun hlt => ?_⟩
  · exact frame.prep _ _ hctx hle
  · exact frame.too_deep b ctx hb hctx hallowed hlt

theorem Frame.conditions {rule : Rule} (hrule : RuleOf env node rule)
    (hflag : Flags env I rule.conditions) :
    ConditionFrame env rec allowed (Step.Fits env node Pre) rule.conditions I Pre E D where
  check _ hgate := frame.check (.gate hrule hgate)
  gate _ hgate := frame.nested (.gate hrule hgate)
  group name hgroup ctx hctx :=
    takes_one ⟨⟨rfl, rule, hrule, hgroup⟩, hctx⟩
      (frame.group (.Experiment, name) ctx ⟨rfl, rule, hrule, hgroup⟩ hctx)
  flag := hflag

/-- A rule of the spec, once the step that asks it is allowed. -/
theorem asked_rule_walks {spec : Spec} {rule : Rule} (hspec : spec_of env node = some spec)
    (hrule : rule ∈ spec.rules) {asked : EvaluatorContext} (hallowed : allowed (.asks rule asked)) :
    Walks allowed (Step.Fits env node Pre) I (fun _ => I.holds) E D (evaluate_rule env rec rule)
      (conditions_steps env rec rule.conditions) :=
  evaluate_conditions_walks
    (frame.conditions (.inl ⟨spec, hspec, hrule⟩)
      (frame.asks spec hspec rule hrule asked hallowed)) true

theorem delegate_walks {spec : Spec} {rule : Rule} (hspec : spec_of env node = some spec)
    (hrule : rule ∈ spec.rules) :
    Walks allowed (Step.Fits env node Pre) I (fun _ => I.holds) E D
      (evaluate_config_delegate env rec rule) (delegate_steps env rule) := by
  apply evaluate_config_delegate_walks
  intro delegate delegate_spec hdelegate hget
  have hnest : Nests env node (.Experiment, delegate) := .delegate hspec hrule hdelegate hget
  exact ⟨frame.check hnest, frame.nested hnest⟩

/-- After the targeting gate of a bandit, an error has become the end of the call. -/
theorem get_passes_targeting_walks {cmab : CMABConfig} (hbandit : BanditOf env node cmab) :
    Walks allowed (Step.Fits env node Pre) I (fun _ => Post.holds) E D
      (get_passes_targeting rec cmab) (targeting_steps cmab) := by
  have hearly : ∀ c, I.holds c → Post.holds c :=
    fun c hc => frame.early (.inr (.inr (.inr ⟨cmab, hbandit⟩))) _ _ hc
  intro ctx hctx
  unfold get_passes_targeting targeting_steps
  cases hgate : cmab.targeting_gate_name with
  | none => exact takes_pure (hearly ctx hctx)
  | some gate =>
    have hnest : Nests env node (.Gate, gate) := .targeting hbandit hgate
    have hpush : ∀ passes c, Post.holds c → Post.holds (push_targeting_exposure gate passes c) := by
      intro passes c hc
      unfold push_targeting_exposure
      split <;> exact hc
    -- the overflow of the limit check is caught here, with the counter past it
    obtain ⟨hfits, hprep⟩ := frame.check hnest ctx hctx
    refine takes_cons hfits fun hallowed => takes_after_attempt (hprep hallowed)
      (fun _ prepped hpre => ?_) fun _ c hc => frame.caught _ hbandit _ _ hc
    have hcall : Takes allowed (Step.Fits env node Pre) prepped _ _ (fun _ => Post.holds)
        (fun _ => Post.holds) D :=
      (frame.nested hnest prepped hpre).weaken (fun _ => hearly)
        fun _ c hc => frame.caught _ hbandit _ _ hc
    exact (Takes.attempt (R := fun _ => Post.holds) hcall).bind_quiet fun _ c hc => hpush _ c hc

theorem evaluate_cmab_walks :
    Walks allowed (Step.Fits env node Pre) I (Ended Post I) E D
      (evaluate_cmab env rec node.2 node.1) (cmab_steps env node.2 node.1) := by
  intro ctx hctx
  unfold evaluate_cmab cmab_steps
  obtain ⟨ty, name⟩ := node
  have hnone : Takes allowed (Step.Fits env (ty, name) Pre) ctx (pure false : Eval Bool) []
      (Ended Post I) (fun _ => E.holds) D := takes_pure hctx
  cases ty
  case Experiment =>
    cases hcmabs : env.specs_data.cmab_configs with
    | none => exact hnone
    | some cmabs =>
      cases hcmab : cmabs.get name with
      | none =>
        simp only [hcmab]
        exact hnone
      | some cmab =>
        have hbandit : BanditOf env (.Experiment, name) cmab := ⟨rfl, cmabs, hcmabs, hcmab⟩
        simp only [hcmab]
        split
        · exact takes_update_pure (Q := Ended Post I)
            (frame.early (.inr (.inr (.inr ⟨cmab, hbandit⟩))) _ _ hctx)
        · have htargeting := get_passes_targeting_walks frame hbandit ctx hctx
          refine htargeting.bind_quiet fun passes c hc => ?_
          split
          · exact assign_cmab_group_keeps (I := Post) hc
          · exact hc
  all_goals exact hnone

/-- An override rule that has started, once the step that tries it is allowed. -/
theorem tried_rule_walks {mapping : ConfigMapping} {rule : Rule}
    (hrule : MappingRule env node.2 mapping rule) (hallowed : allowed (.tries rule)) :
    Walks allowed (Step.Fits env node Pre) I
      (fun evaluated c => evaluated.isOk → Refuted env rule → NotPassed c) E D
      (attempt (evaluate_rule env rec rule)) (conditions_steps env rec rule.conditions) := by
  intro ctx hctx
  have hwalks := evaluate_conditions_walks (frame.conditions (.inr ⟨mapping, hrule⟩)
    (frame.tries mapping rule hrule hallowed)) true ctx hctx
  have hattempt := Takes.attempt (R := fun _ _ => True) (E := fun _ => E.holds)
    (hwalks.weaken (fun _ _ _ => trivial) fun _ _ _ => trivial)
  refine (hattempt.and ?_).weaken (fun _ _ h => h.2) fun _ _ h => h
  exact attempted_rule_not_refuted (P := fun _ => True) rec rule ctx trivial

theorem try_override_rules_walks {overrides : HashMap String (List ConfigMapping)}
    {override_rules : HashMap String Rule} {mapping_list : List ConfigMapping}
    {mapping : ConfigMapping} (hoverrides : env.specs_data.overrides = some overrides)
    (hrules : env.specs_data.override_rules = some override_rules)
    (hlist : overrides.get node.2 = some mapping_list) (hmapping : mapping ∈ mapping_list)
    (rules : List OverrideRule) (hsub : ∀ rule ∈ rules, rule ∈ mapping.rules) :
    Walks allowed (Step.Fits env node Pre) I (Ended Post I) E D
      (try_override_rules env rec node.1 (salt_of (spec_of env node)) mapping.new_config_name
        override_rules rules)
      (override_rules_steps env rec node.1 (salt_of (spec_of env node)) mapping.new_config_name
        override_rules rules) := by
  induction rules with
  | nil => exact fun ctx hctx => takes_pure hctx
  | cons override_rule rules ih =>
    have hrest := ih fun r hr => hsub r (List.mem_cons_of_mem _ hr)
    intro ctx hctx
    unfold try_override_rules override_rules_steps
    cases hstarted : started_rule env override_rules override_rule with
    | none =>
      dsimp only
      exact hrest ctx hctx
    | some rule =>
      have hrule : MappingRule env node.2 mapping rule :=
        ⟨overrides, override_rules, mapping_list, hoverrides, hrules, hlist, hmapping,
          override_rule, hsub _ (List.mem_cons_self ..), hstarted⟩
      have hreset := frame.reset ⟨mapping, rule, hrule⟩
      dsimp only
      refine takes_cons ⟨mapping, hrule⟩ fun hallowed => ?_
      refine (tried_rule_walks frame hrule hallowed ctx hctx).bind fun evaluated tried htried => ?_
      refine takes_state (takes_after_update ?_)
      split
      · rename_i hpass
        simp only [Bool.and_eq_true, Bool.not_eq_true'] at hpass
        obtain ⟨⟨⟨hok, hbool⟩, hsupported⟩, hpercent⟩ := hpass
        have hnot : ¬ Refuted env rule := by
          intro href
          rcases htried hok href with h | h
          · rw [hbool] at h
            cases h
          · rw [hsupported] at h
            cases h
        have htarget : MapsTo env node (node.1, mapping.new_config_name) :=
          ⟨rfl, mapping, rule, hrule, hnot, hpercent, rfl⟩
        refine takes_after_update ?_
        refine takes_one ⟨htarget, rfl, rfl⟩ fun hallowed => ?_
        have hrun := frame.mapping _ _ htarget ⟨rfl, rfl⟩ hallowed
        rw [bind_apply]
        unfold attempt
        revert hrun
        dsimp only
        cases rec mapping.new_config_name node.1 _ with
        | ok recognition inner =>
          intro hrun
          cases recognition with
          | Recognized => exact hrun
          | Unrecognized => exact hreset
        | err e inner => exact fun _ => hreset
        | deep => exact fun hrun => hrun
      · exact hrest _ hreset

theorem try_apply_config_mapping_walks :
    Walks allowed (Step.Fits env node Pre) I (Ended Post I) E D
      (try_apply_config_mapping env rec node.2 node.1 (spec_of env node))
      (config_mapping_steps env rec node.2 node.1 (spec_of env node)) := by
  intro ctx hctx
  unfold try_apply_config_mapping config_mapping_steps
  cases hoverrides : env.specs_data.overrides with
  | none => exact takes_pure hctx
  | some overrides =>
    cases hrules : env.specs_data.override_rules with
    | none => exact takes_pure hctx
    | some override_rules =>
      cases hlist : overrides.get node.2 with
      | none =>
        simp only [hlist]
        exact takes_pure hctx
      | some mapping_list =>
        have hmappings : ∀ mappings : List ConfigMapping, (∀ m ∈ mappings, m ∈ mapping_list) →
            Walks allowed (Step.Fits env node Pre) I (Ended Post I) E D
              (try_mappings env rec node.1 (salt_of (spec_of env node)) override_rules mappings)
              (mappings_steps env rec node.1 (salt_of (spec_of env node)) override_rules
                mappings) := by
          intro mappings
          induction mappings with
          | nil => exact fun _ c hc => takes_pure hc
          | cons mapping mappings ih =>
            intro hsub c hc
            unfold try_mappings mappings_steps
            refine (try_override_rules_walks frame hoverrides hrules hlist
              (hsub _ (List.mem_cons_self ..)) _ (fun _ h => h) c hc).bind fun applied c hc => ?_
            cases applied with
            | true => exact takes_pure hc
            | false => exact ih (fun m hm => hsub m (List.mem_cons_of_mem _ hm)) c hc
        simp only [hlist]
        exact hmappings mapping_list (fun _ h => h) ctx hctx

theorem try_apply_override_ends :
    Triple I.holds (try_apply_override env node.2 node.1 (spec_of env node)) (Ended Post I)
      (fun _ => E.holds) D := by
  by_cases htouched : Untouched env node
  · rw [htouched]
    exact fun _ hctx => hctx
  · intro ctx hctx
    unfold try_apply_override
    split
    · exact hctx
    · have hkept : ∀ u, I ctx.nested_count u := fun u => frame.override htouched _ _ u hctx
      have hends : ∀ applied result, Ended Post I applied { ctx with result } := by
        intro applied result
        cases applied with
        | true => exact frame.early (.inr (.inl htouched)) _ _ (hkept _)
        | false => exact hkept _
      exact hends _ _

end Parts

/-! ## The end of a call -/

section Whole

variable {env : EvaluatorEnv} {rec : Recur} {node : Node} {allowed : Step → Prop}
  {I Pre E Post : Inv} {D : Prop} (frame : Frame env rec node allowed I Pre E Post D)

include frame

theorem finalize_ends {c : EvaluatorContext} (spec : Spec) (rule : Option Rule)
    (hc : I.holds c) : Post.holds (c.finalize_evaluation spec rule) := by
  unfold Inv.holds
  rw [finalize_nested_count, finalize_unsupported]
  exact frame.finalize _ _ hc

theorem marked_ends {c : EvaluatorContext} (hc : I.holds c)
    (hmarked : c.result.unsupported = true) :
    Post.holds c := by
  unfold Inv.holds at hc ⊢
  rw [hmarked] at hc ⊢
  exact frame.marked _ hc

theorem evaluate_rules_walks {spec : Spec} (filter_active : Bool)
    (hspec : spec_of env node = some spec) (rules : List Rule)
    (hsub : ∀ rule ∈ rules, rule ∈ spec.rules) :
    Walks allowed (Step.Fits env node Pre) I (fun _ => Post.holds) E D
      (evaluate_rules env rec spec filter_active rules)
      (rules_steps env rec filter_active rules) := by
  induction rules with
  | nil => exact fun ctx hctx => takes_update_pure (finalize_ends frame spec none hctx)
  | cons rule rules ih =>
    have hmem := hsub rule (List.mem_cons_self ..)
    have hrest := ih fun r hr => hsub r (List.mem_cons_of_mem _ hr)
    intro ctx hctx
    unfold evaluate_rules rules_steps
    refine takes_state ?_
    split
    · exact hrest ctx hctx
    · refine takes_cons ⟨spec, hspec, hmem⟩ fun hallowed => ?_
      refine (asked_rule_walks frame hspec hmem hallowed ctx hctx).bind fun _ asked hasked => ?_
      refine takes_state ?_
      split
      · rename_i hmarked
        exact takes_pure (marked_ends frame hasked hmarked)
      · split
        · exact hrest asked hasked
        · refine (delegate_walks frame hspec hmem asked hasked).bind_quiet fun delegated c hc => ?_
          split
          · exact finalize_ends frame spec none hc
          · exact finalize_ends frame spec (some rule) hc

theorem new_layer_rules_walks {spec : Spec} (filter_active : Bool)
    (hspec : spec_of env node = some spec) (rules : List Rule)
    (hsub : ∀ rule ∈ rules, rule ∈ spec.rules) (s : LayerState) :
    Walks allowed (Step.Fits env node Pre) I (fun _ => Post.holds) E D
      (new_layer_rules env rec spec filter_active rules s)
      (layer_steps env rec spec filter_active rules s) := by
  induction rules generalizing s with
  | nil => exact fun ctx hctx => takes_update_pure (finalize_ends frame spec none hctx)
  | cons rule rules ih =>
    have hmem := hsub rule (List.mem_cons_self ..)
    have hrest := ih fun r hr => hsub r (List.mem_cons_of_mem _ hr)
    intro ctx hctx
    unfold new_layer_rules layer_steps
    refine takes_state ?_
    split
    · exact hrest s ctx hctx
    · refine takes_cons ⟨spec, hspec, hmem⟩ fun hallowed => ?_
      refine (asked_rule_walks frame hspec hmem hallowed ctx hctx).bind fun _ asked hasked => ?_
      refine takes_state (takes_after_update ?_)
      dsimp only
      split
      · rename_i hmarked
        exact takes_pure (marked_ends frame (c := take_exposures asked) hasked hmarked)
      · split
        · exact hrest _ _ hasked
        · split
          · exact hrest _ _ hasked
          · have hdelegate := delegate_walks frame hspec hmem (take_exposures asked) hasked
            refine hdelegate.bind fun delegated c hc => ?_
            split
            · refine takes_state ?_
              split
              · exact hrest _ c hc
              · cases c.result.json_value with
                | none => exact hrest _ c hc
                | some value =>
                  dsimp only
                  split
                  · exact hrest _ c hc
                  · exact takes_after_update (hrest _ (take_exposures c) hc)
            · exact takes_state (hrest _ c hc)

theorem evaluate_spec_walks (filter_active : Bool) :
    Walks allowed (Step.Fits env node Pre) I (fun _ => Post.holds) E D
      (evaluate_spec env rec filter_active node.2 node.1 (spec_of env node))
      (spec_steps env rec filter_active node.2 node.1 (spec_of env node)) := by
  intro ctx hctx
  unfold evaluate_spec spec_steps
  cases hspec : spec_of env node with
  | none => exact takes_pure (frame.early (.inl hspec) _ _ hctx)
  | some spec =>
    refine takes_after_update ?_
    dsimp only
    split
    · unfold new_layer_eval
      refine takes_state ?_
      dsimp only
      split
      · exact takes_update_pure (finalize_ends frame spec none hctx)
      · exact new_layer_rules_walks frame _ hspec _ (fun _ h => h) _ _ hctx
    · refine takes_state ?_
      split
      · exact takes_update_pure (finalize_ends frame spec none hctx)
      · exact evaluate_rules_walks frame _ hspec _ (fun _ h => h) _ hctx

/-- One whole call, from what holds at its start to what its caller gets back. -/
theorem evaluate_with_walks :
    Walks allowed (Step.Fits env node Pre) I (fun _ => Post.holds) E D
      (evaluate_with env rec node.2 node.1) (steps_with env rec node.2 node.1) := by
  intro ctx hctx
  unfold evaluate_with steps_with
  by_cases hty : node.1 = .ParameterStore
  · have hnone : spec_of env node = none := by
      unfold spec_of
      rw [hty]
      rfl
    rw [if_pos hty, if_pos hty]
    exact takes_pure (frame.early (.inl hnone) _ _ hctx)
  · rw [if_neg hty, if_neg hty]
    refine takes_state ?_
    dsimp only
    split
    · exact evaluate_spec_walks frame true ctx hctx
    · refine takes_after (try_apply_override_ends frame ctx hctx) fun overridden c hc => ?_
      cases overridden with
      | true => exact takes_pure hc
      | false =>
        refine (try_apply_config_mapping_walks frame c hc).bind fun mapped c hc => ?_
        cases mapped with
        | true => exact takes_pure hc
        | false =>
          refine (evaluate_cmab_walks frame c hc).bind fun applied c hc => ?_
          cases applied with
          | true => exact takes_pure hc
          | false => exact evaluate_spec_walks frame false c hc

end Whole

/-- Where every step is allowed, only what holds at the ends is left to say. -/
theorem Frame.moves {env : EvaluatorEnv} {rec : Recur} {node : Node} {I Pre E Post : Inv}
    {D : Prop} (frame : Frame env rec node (fun _ => True) I Pre E Post D) :
    Moves I Post E D (evaluate_with env rec node.2 node.1) :=
  fun ctx hctx => (evaluate_with_walks frame ctx hctx fun _ _ => trivial).2

end statsig_rust.evaluation
