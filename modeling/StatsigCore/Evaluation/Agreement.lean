-- Two evaluations of one spec agree on what they decide, whatever their memos and the results
-- around them are: over the spec's rules, its delegates, its mappings and its bandits.
import StatsigCore.Evaluation.AlikeContexts

open program

namespace statsig_rust.evaluation

/-! ## Decisions -/

section Decisions

variable {env : EvaluatorEnv} {S inner : Set Node} {height : Node → Nat} {node : Node}
  {w : Watch} {level d d' : Nat} {b₁ b₂ : Bool} {s t : EvaluatorContext}

/-- All that the end of an evaluation changes. -/
theorem finalize_eq (c : EvaluatorContext) (spec : Spec) (rule : Option Rule) :
    ∃ rate forward undelegated, c.finalize_evaluation spec rule = { c with
      nested_count := c.nested_count - 1
      result.sampling_rate := rate
      result.forward_all_exposures := forward
      result.undelegated_secondary_exposures := undelegated } := by
  unfold EvaluatorContext.finalize_evaluation
  dsimp only
  split
  · exact ⟨_, _, c.result.undelegated_secondary_exposures, rfl⟩
  · have hzero : c.nested_count - 1 = c.nested_count := by omega
    rw [hzero]
    split
    · exact ⟨_, _, c.result.undelegated_secondary_exposures, rfl⟩
    · split
      · exact ⟨_, _, c.result.undelegated_secondary_exposures, rfl⟩
      · exact ⟨_, _, _, rfl⟩

theorem Decides.finalize {kind : Kind} (h : Decides env S height w level kind b₁ b₂ s t)
    (spec : Spec) (rule : Option Rule) : Decides env S height w (level - 1) kind b₁ b₂
      (s.finalize_evaluation spec rule) (t.finalize_evaluation spec rule) := by
  have hcount := h.first.count
  have hcount' := h.second.count
  obtain ⟨_, _, _, hs⟩ := finalize_eq s spec rule
  obtain ⟨_, _, _, ht⟩ := finalize_eq t spec rule
  rw [hs, ht]
  refine ⟨⟨⟨h.first.memo, h.first.targeting, h.first.overrides⟩, ?_, h.first.supported⟩,
    ⟨⟨h.second.memo, h.second.targeting, h.second.overrides⟩, ?_, h.second.supported⟩,
    h.bool_value, h.json_value, h.has_value, h.rule_id, h.exposures, h.group_name,
    h.is_in_layer, h.rule_id_suffix, h.plain, ?_⟩
  · show s.nested_count - 1 ≤ level - 1
    omega
  · show t.nested_count - 1 ≤ level - 1
    omega
  · intro hon
    obtain ⟨hfirst, hsecond⟩ := h.kept hon
    exact ⟨⟨hfirst.group_name, hfirst.is_in_layer, hfirst.rule_id_suffix⟩,
      ⟨hsecond.group_name, hsecond.is_in_layer, hsecond.rule_id_suffix⟩⟩

/-- The fields that a decision writes. -/
def decide_result (value : Bool) (json_value : DynamicReturnable) (rule_id : InternedString)
    (c : EvaluatorContext) : EvaluatorContext :=
  { c with
    result.bool_value := value
    result.json_value := some json_value
    result.rule_id := some rule_id }

theorem Alike.decides (h : Alike env S height w level b₁ b₂ s t) (value : Bool)
    (json_value : DynamicReturnable) (rule_id : InternedString) (kind : Kind) :
    Decides env S height w level kind b₁ b₂ (decide_result value json_value rule_id s)
      (decide_result value json_value rule_id t) where
  first := h.first.with_result h.first.supported
  second := h.second.with_result h.second.supported
  bool_value := rfl
  json_value := rfl
  has_value := Option.some_ne_none _
  rule_id := rfl
  exposures := h.exposures
  group_name hw := (h.keeps_first.group_name hw).trans (h.keeps_second.group_name hw).symm
  is_in_layer hw hb := by
    show s.result.is_in_layer = t.result.is_in_layer
    rw [h.keeps_first.is_in_layer hw, h.keeps_second.is_in_layer hw, hb]
  rule_id_suffix hw :=
    (h.keeps_first.rule_id_suffix hw).trans (h.keeps_second.rule_id_suffix hw).symm
  plain _ := h.keeps_first.rule_id_suffix
  kept _ := ⟨⟨h.keeps_first.group_name, h.keeps_first.is_in_layer, h.keeps_first.rule_id_suffix⟩,
    ⟨h.keeps_second.group_name, h.keeps_second.is_in_layer, h.keeps_second.rule_id_suffix⟩⟩

theorem apply_default_decides (h : Alike env S height w level b₁ b₂ s t) (spec : Spec)
    (kind : Kind) : Decides env S height w (level - 1) kind b₁ b₂ (apply_default spec s)
      (apply_default spec t) :=
  (h.decides (spec.default_value.get_bool == some true) spec.default_value
    (if spec.enabled then default_rule_id else DISABLED_RULE) kind).finalize spec none

theorem apply_rule_decides (h : Alike env S height w level b₁ b₂ s t) (spec : Spec) (rule : Rule)
    (did_pass : Bool) {kind : Kind} (hgroup : kind.inner → w.group_name → rule.group_name = none) :
    Decides env S height w (level - 1) kind b₁ b₂ (apply_rule spec rule did_pass s)
      (apply_rule spec rule did_pass t) := by
  unfold apply_rule
  have hjson : ∃ json_value,
    (if did_pass then some rule.return_value else some spec.default_value) =
      some json_value := by
    cases did_pass with
    | true => exact ⟨_, rfl⟩
    | false => exact ⟨_, rfl⟩
  obtain ⟨json_value, hjson⟩ := hjson
  have hdecides := h.decides (if did_pass then rule.return_value.get_bool != some false
    else spec.default_value.get_bool == some true) json_value rule.id kind
  rw [hjson]
  refine Decides.finalize ?_ spec (some rule)
  refine ⟨h.first.with_result h.first.supported, h.second.with_result h.second.supported, rfl, rfl,
    hdecides.has_value, rfl, h.exposures, fun _ => rfl,
    hdecides.is_in_layer, hdecides.rule_id_suffix, hdecides.plain, ?_⟩
  intro hinner
  exact ⟨⟨fun hw => hgroup hinner hw, h.keeps_first.is_in_layer, h.keeps_first.rule_id_suffix⟩,
    ⟨fun hw => hgroup hinner hw, h.keeps_second.is_in_layer, h.keeps_second.rule_id_suffix⟩⟩

/-! ## Delegates -/

/-- After a delegate, also the fields that the delegating rule writes are the same. -/
structure Delegates (env : EvaluatorEnv) (S : Set Node) (height : Node → Nat) (w : Watch)
    (level : Nat) (kind : Kind) (b₁ b₂ : Bool) (s t : EvaluatorContext) : Prop
    extends Decides env S height w level kind b₁ b₂ s t where
  suffix_none : w.rule_id_suffix → s.result.rule_id_suffix = none
  explicit_parameters : s.result.explicit_parameters = t.result.explicit_parameters
  config_delegate : s.result.config_delegate = t.result.config_delegate

/-- The rule delegates to a spec that is there. -/
theorem evaluate_config_delegate_agrees
    (calls : AgreeingCalls env S inner height node level d d')
    (hfits : Fits env inner w) {spec : Spec}
    (hspec : spec_of env node = some spec) {rule : Rule} (hrule : rule ∈ spec.rules)
    {delegate : InternedString} (hdelegate : delegate_of env rule = some delegate) :
    Agree (Alike env S height w level b₁ b₂) (evaluate_config_delegate env (evaluate env d) rule)
      (evaluate_config_delegate env (evaluate env d') rule)
      (fun delegated s t => delegated = true ∧
        Delegates env S height w level (kind_of env inner node) b₁ b₂ s t) := by
  obtain ⟨hconfig, delegate_spec, hget⟩ := delegate_of_eq_some hdelegate
  have hnests : Nests env node (.Experiment, delegate) := .delegate hspec hrule hconfig hget
  have hrefers : Refers env node (.Experiment, delegate) := .inl hnests
  obtain ⟨hd, hd'⟩ := calls.below _ hrefers
  have hroom := calls.room _ hrefers
  have hplain := calls.regular.nested_bandits node calls.mem _ hnests
  intro s t halike
  have hcount := halike.first.count
  have hcount' := halike.second.count
  have hprep : ∀ c : EvaluatorContext, c.nested_count ≤ level →
      prep_for_nested_evaluation { c with
        result.undelegated_secondary_exposures := some c.result.secondary_exposures } =
      .ok () { c with
        nested_count := c.nested_count + 1
        result.bool_value := false
        result.json_value := none
        result.undelegated_secondary_exposures := some c.result.secondary_exposures } := by
    intro c hc
    unfold prep_for_nested_evaluation
    rw [if_neg]
    dsimp only
    omega
  obtain ⟨recognition, s', t', hrun, hrun', hends⟩ :=
    calls.agree _ hrefers d d' (level + 1) w b₁ b₂ hd hd' hroom hfits nofun
      (fun hbandit => absurd ⟨_, .refl, hbandit⟩ hplain)
      { s with
        nested_count := s.nested_count + 1
        result.bool_value := false
        result.json_value := none
        result.undelegated_secondary_exposures := some s.result.secondary_exposures }
      { t with
        nested_count := t.nested_count + 1
        result.bool_value := false
        result.json_value := none
        result.undelegated_secondary_exposures := some t.result.secondary_exposures }
      ⟨⟨⟨halike.first.memo, halike.first.targeting, halike.first.overrides⟩,
          Nat.succ_le_succ hcount, halike.first.supported⟩,
        ⟨⟨halike.second.memo, halike.second.targeting, halike.second.overrides⟩,
          Nat.succ_le_succ hcount', halike.second.supported⟩,
        ⟨halike.keeps_first.group_name, halike.keeps_first.is_in_layer,
          halike.keeps_first.rule_id_suffix⟩,
        ⟨halike.keeps_second.group_name, halike.keeps_second.is_in_layer,
          halike.keeps_second.rule_id_suffix⟩, halike.exposures⟩
  have hknown : recognition = .Recognized := by
    apply hends.present
    intro hnone
    cases hget.symm.trans hnone
  subst hknown
  have hdecides := hends.decided rfl
  rw [Nat.add_sub_cancel] at hdecides
  have hinner : node ∈ inner → (.Experiment, delegate) ∈ inner := fun hnode =>
    calls.regular.inner_refers node hnode _ (.inl hnests)
  refine ⟨true, accept_delegate rule delegate_spec s', accept_delegate rule delegate_spec t',
    ?_, ?_, rfl, ?_⟩
  · unfold evaluate_config_delegate
    simp only [hconfig, hget]
    rw [update_bind, bind_apply, hprep s hcount]
    simp only [andThen_ok]
    rw [bind_apply, hrun]
    rfl
  · unfold evaluate_config_delegate
    simp only [hconfig, hget]
    rw [update_bind, bind_apply, hprep t hcount']
    simp only [andThen_ok]
    rw [bind_apply, hrun']
    rfl
  · refine ⟨⟨hdecides.first.with_result hdecides.first.supported,
      hdecides.second.with_result hdecides.second.supported, hdecides.bool_value,
      hdecides.json_value, hdecides.has_value,
      hdecides.rule_id, hdecides.exposures, hdecides.group_name, hdecides.is_in_layer,
      hdecides.rule_id_suffix, fun _ => hdecides.plain hplain, fun hnode => ?_⟩,
      hdecides.plain hplain, rfl, rfl⟩
    obtain ⟨hfirst, hsecond⟩ := hdecides.kept (hinner hnode)
    exact ⟨⟨hfirst.group_name, hfirst.is_in_layer, hfirst.rule_id_suffix⟩,
      ⟨hsecond.group_name, hsecond.is_in_layer, hsecond.rule_id_suffix⟩⟩

/-! ## The rules of a spec -/

theorem evaluate_rules_agrees (calls : AgreeingCalls env S inner height node level d d')
    (hfits : Fits env inner w) {spec : Spec}
    (hspec : spec_of env node = some spec) (rules : List Rule)
    (hsub : ∀ rule ∈ rules, rule ∈ spec.rules) :
    Agree (Alike env S height w level b₁ b₂) (evaluate_rules env (evaluate env d) spec false rules)
      (evaluate_rules env (evaluate env d') spec false rules)
      (fun recognition s t => recognition = .Recognized ∧
        Decides env S height w (level - 1) (kind_of env inner node) b₁ b₂ s t) := by
  induction rules with
  | nil =>
    refine agree_update_bind
      (M := Decides env S height w (level - 1) (kind_of env inner node) b₁ b₂)
      (fun s t halike => apply_default_decides halike spec _) ?_
    exact agree_pure fun s t hdecides => ⟨rfl, hdecides⟩
  | cons rule rules ih =>
    have hrule := hsub rule List.mem_cons_self
    have hrest := ih fun r hr => hsub r (List.mem_cons_of_mem rule hr)
    unfold evaluate_rules
    refine agree_state_any fun s₀ t₀ _ => ?_
    simp only [Bool.false_and, Bool.false_eq_true, ↓reduceIte]
    refine Agree.bind (evaluate_rule_agrees calls hfits (.inl ⟨spec, hspec, hrule⟩)) fun _ => ?_
    refine agree_state_any fun s t hst => ?_
    rw [hst.1.first.supported, hst.1.second.supported, hst.2]
    simp only [Bool.false_eq_true, ↓reduceIte]
    split
    · exact hrest.pre fun _ _ h => h.1
    · cases hdelegate : delegate_of env rule with
      | some delegate =>
        refine Agree.bind ((evaluate_config_delegate_agrees calls hfits hspec hrule
          hdelegate).pre fun _ _ h => h.1) fun delegated => ?_
        rintro s t ⟨rfl, hdelegates⟩
        exact ⟨.Recognized, _, _, rfl, rfl, rfl, hdelegates.toDecides.finalize spec none⟩
      | none =>
        rw [evaluate_config_delegate_none hdelegate, evaluate_config_delegate_none hdelegate]
        rintro s t ⟨halike, -⟩
        refine ⟨.Recognized, _, _, rfl, rfl, rfl, apply_rule_decides halike spec rule _ ?_⟩
        intro hnode hw
        exact hfits.groups hw node hnode spec hspec rule hrule

/-! ## Layers that merge their rules -/

/-- The group name is watched while no rule has passed. -/
def Watch.until_passed (w : Watch) (s : LayerState) : Watch :=
  { w with group_name := w.group_name ∧ s.has_passed_rule = false }

theorem Keeps.until_passed {b : Bool} {result : EvaluatorResult} (h : Keeps w b result)
    (state : LayerState) : Keeps (w.until_passed state) b result :=
  ⟨fun hw => h.group_name hw.1, h.is_in_layer, h.rule_id_suffix⟩

theorem Alike.until_passed {state state' : LayerState}
    (h : Alike env S height (w.until_passed state) level b₁ b₂ s t)
    (hstate : state'.has_passed_rule = state.has_passed_rule ∨ state'.has_passed_rule = true) :
    Alike env S height (w.until_passed state') level b₁ b₂ s t := by
  have hgroup : w.group_name ∧ state'.has_passed_rule = false →
      w.group_name ∧ state.has_passed_rule = false := by
    rintro ⟨hw, hnot⟩
    refine ⟨hw, ?_⟩
    rcases hstate with hsame | hpassed
    · rw [← hsame, hnot]
    · rw [hpassed] at hnot
      cases hnot
  exact ⟨h.first, h.second, ⟨fun hw => h.keeps_first.group_name (hgroup hw),
    h.keeps_first.is_in_layer, h.keeps_first.rule_id_suffix⟩,
    ⟨fun hw => h.keeps_second.group_name (hgroup hw), h.keeps_second.is_in_layer,
      h.keeps_second.rule_id_suffix⟩, h.exposures⟩

/-- Only a rule that passed sets parameters. -/
def LayerState.EmptyUntilPassed (state : LayerState) : Prop :=
  state.has_passed_rule = false → state.value = []

theorem reuses_nothing {state : LayerState} (h : state.EmptyUntilPassed)
    (hnot : state.has_passed_rule = false) (value : DynamicReturnable) :
    state.reuses value = false := by
  unfold LayerState.reuses
  rw [h hnot]
  cases value.get_json with
  | none => rfl
  | some map => simp

theorem LayerState.append_exposures_eq (state : LayerState)
    (h : s.result.secondary_exposures = t.result.secondary_exposures) :
    state.append_exposures s = state.append_exposures t := by
  unfold LayerState.append_exposures
  rw [h]
  rfl

theorem LayerState.accept_eq (state : LayerState) (rule : Rule) (value : DynamicReturnable)
    (hexposures : s.result.secondary_exposures = t.result.secondary_exposures)
    (hbool : s.result.bool_value = t.result.bool_value)
    (hdelegate : s.result.config_delegate = t.result.config_delegate)
    (hgroup : s.result.group_name = t.result.group_name)
    (hexplicit : s.result.explicit_parameters = t.result.explicit_parameters) :
    state.accept rule value s = state.accept rule value t := by
  unfold LayerState.accept
  rw [hexposures, hbool, hdelegate, hgroup, hexplicit]

theorem Alike.take_exposures (h : Alike env S height w level b₁ b₂ s t) :
    Alike env S height w level b₁ b₂ (take_exposures s) (take_exposures t) :=
  ⟨h.first.with_result h.first.supported,
    h.second.with_result h.second.supported,
    ⟨h.keeps_first.group_name, h.keeps_first.is_in_layer, h.keeps_first.rule_id_suffix⟩,
    ⟨h.keeps_second.group_name, h.keeps_second.is_in_layer, h.keeps_second.rule_id_suffix⟩,
    fun _ => rfl⟩

/-- The contexts after a spec has decided, when the rest does not look at the group. -/
theorem Decides.alike {kind : Kind} (h : Decides env S height w level kind b₁ b₂ s t)
    (hgroup : ¬ w.group_name)
    (hsuffix : w.rule_id_suffix → s.result.rule_id_suffix = none) :
    Alike env S height w level s.result.is_in_layer t.result.is_in_layer s t :=
  ⟨h.first, h.second, ⟨fun hw => absurd hw hgroup, fun _ => rfl, hsuffix⟩,
    ⟨fun hw => absurd hw hgroup, fun _ => rfl,
      fun hw => (h.rule_id_suffix hw).symm.trans (hsuffix hw)⟩, h.exposures⟩

/-- What was in the layer before the decision, for a spec that nests. -/
theorem Decides.rebase {kind : Kind} {c₁ c₂ : Bool}
    (h : Decides env S height w level kind c₁ c₂ s t)
    (hsame : w.is_in_layer → b₁ = b₂ → c₁ = c₂)
    (hkept : kind.inner → Keeps w c₁ s.result ∧ Keeps w c₂ t.result →
      Keeps w b₁ s.result ∧ Keeps w b₂ t.result) :
    Decides env S height w level kind b₁ b₂ s t :=
  ⟨h.first, h.second, h.bool_value, h.json_value, h.has_value, h.rule_id, h.exposures,
    h.group_name, fun hw hb => h.is_in_layer hw (hsame hw hb), h.rule_id_suffix, h.plain,
    fun hinner => hkept hinner (h.kept hinner)⟩

theorem finish_decides {kind : Kind} {w' : Watch} (h : Alike env S height w' level b₁ b₂ s t)
    (hlayer : (w.is_in_layer → w'.is_in_layer) ∧ (w.rule_id_suffix → w'.rule_id_suffix))
    (houter : ¬ kind.inner) (state : LayerState) (spec : Spec) :
    Decides env S height w (level - 1) kind b₁ b₂ (state.finish spec s) (state.finish spec t) := by
  unfold LayerState.finish
  refine Decides.finalize ?_ spec none
  refine ⟨h.first.with_result h.first.supported, h.second.with_result h.second.supported, rfl, rfl,
    Option.some_ne_none _, rfl, fun _ => rfl, fun _ => rfl,
    fun hw hb => ?_, fun hw => h.keeps_first.rule_id_suffix (hlayer.2 hw) |>.trans
      (h.keeps_second.rule_id_suffix (hlayer.2 hw)).symm,
    fun _ hw => h.keeps_first.rule_id_suffix (hlayer.2 hw),
    fun hinner => absurd hinner houter⟩
  show s.result.is_in_layer = t.result.is_in_layer
  rw [h.keeps_first.is_in_layer (hlayer.1 hw), h.keeps_second.is_in_layer (hlayer.1 hw), hb]

theorem new_layer_rules_agrees (calls : AgreeingCalls env S inner height node level d d')
    (hfits : Fits env inner w) (hexposures : w.exposures) (hw : w.group_name)
    (houter : node ∉ inner) {spec : Spec} (hspec : spec_of env node = some spec)
    (rules : List Rule) (hsub : ∀ rule ∈ rules, rule ∈ spec.rules) (state : LayerState)
    (hempty : state.EmptyUntilPassed) :
    Agree (Alike env S height (w.until_passed state) level b₁ b₂)
      (new_layer_rules env (evaluate env d) spec false rules state)
      (new_layer_rules env (evaluate env d') spec false rules state)
      (fun recognition s t => recognition = .Recognized ∧
        Decides env S height w (level - 1) (kind_of env inner node) b₁ b₂ s t) := by
  induction rules generalizing state b₁ b₂ with
  | nil =>
    refine agree_update_bind
      (M := Decides env S height w (level - 1) (kind_of env inner node) b₁ b₂) (fun s t halike =>
        finish_decides (w := w) halike ⟨fun h => h, fun h => h⟩ houter state spec) ?_
    exact agree_pure fun s t hdecides => ⟨rfl, hdecides⟩
  | cons rule rules ih =>
    have hrule := hsub rule List.mem_cons_self
    have hrest := fun {c₁ c₂} => @ih c₁ c₂ fun r hr => hsub r (List.mem_cons_of_mem rule hr)
    unfold new_layer_rules
    refine agree_state_any fun s₀ t₀ _ => ?_
    simp only [Bool.false_and, Bool.false_eq_true, ↓reduceIte]
    have hfits₁ : ∀ state, Fits env inner (w.until_passed state) :=
      fun _ => ⟨hfits.layers, fun h => hfits.groups h.1⟩
    refine Agree.bind
      (evaluate_rule_agrees calls (hfits₁ state) (.inl ⟨spec, hspec, hrule⟩)) fun _ => ?_
    refine agree_state_any fun s t hst => ?_
    rw [← state.append_exposures_eq (hst.1.exposures hexposures), hst.1.first.supported,
      hst.1.second.supported, hst.2]
    simp only [Bool.false_eq_true, ↓reduceIte]
    generalize hstate : state.append_exposures s = state₁
    have hpassed : state₁.has_passed_rule = state.has_passed_rule := by
      rw [← hstate]
      rfl
    have hempty₁ : state₁.EmptyUntilPassed := by
      intro hnot
      rw [← hstate]
      exact hempty (hpassed ▸ hnot)
    refine agree_update_bind (M := fun s t =>
      Alike env S height (w.until_passed state₁) level b₁ b₂ s t ∧
        s.result.bool_value = t.result.bool_value)
      (fun s t h => ⟨h.1.take_exposures.until_passed (.inl hpassed), h.2⟩) ?_
    split
    · exact (hrest state₁ hempty₁).pre fun _ _ h => h.1
    · split
      · exact (hrest state₁ hempty₁).pre fun _ _ h => h.1
      · cases hdelegate : delegate_of env rule with
        | none =>
          rw [evaluate_config_delegate_none hdelegate, evaluate_config_delegate_none hdelegate]
          refine Agree.bind (agree_pure (Q := fun delegated s t => delegated = false ∧
            Alike env S height (w.until_passed state₁) level b₁ b₂ s t ∧
              s.result.bool_value = t.result.bool_value) fun _ _ h => ⟨rfl, h⟩) fun delegated => ?_
          rintro s t ⟨rfl, halike, hbool⟩
          simp only [Bool.false_eq_true, ↓reduceIte, state_bind]
          rw [hbool]
          exact hrest _ (fun hnot => absurd hnot (by simp)) s t (halike.until_passed (.inr rfl))
        | some delegate =>
          have hasked : Agree (Alike env S height (w.until_passed state₁) level b₁ b₂) _ _ _ :=
            evaluate_config_delegate_agrees calls (hfits₁ state₁) hspec hrule hdelegate
          refine Agree.bind (hasked.pre fun _ _ h => h.1) fun delegated => ?_
          rintro s t ⟨rfl, hdelegates⟩
          have hdecides := hdelegates.toDecides
          have hcarry : ∀ {state₂ : LayerState} {s t : EvaluatorContext},
              state₂.EmptyUntilPassed → state₂.has_passed_rule = true →
              Decides env S height (w.until_passed state₂) level (kind_of env inner node)
                b₁ b₂ s t →
              (w.rule_id_suffix → s.result.rule_id_suffix = none) → ∃ recognition s' t',
                new_layer_rules env (evaluate env d) spec false rules state₂ s =
                  .ok recognition s' ∧
                new_layer_rules env (evaluate env d') spec false rules state₂ t =
                  .ok recognition t' ∧ recognition = .Recognized ∧
                Decides env S height w (level - 1) (kind_of env inner node) b₁ b₂ s' t' := by
            intro state₂ s t hempty₂ hpassed₂ h hsuffix
            have hunwatched : ¬ (w.until_passed state₂).group_name := by
              rintro ⟨-, hnot⟩
              rw [hpassed₂] at hnot
              cases hnot
            obtain ⟨recognition, s', t', hrun, hrun', hknown, hends⟩ :=
              hrest state₂ hempty₂ s t (h.alike hunwatched hsuffix)
            exact ⟨recognition, s', t', hrun, hrun', hknown,
              hends.rebase (fun hw hb => h.is_in_layer hw hb) fun hinner => absurd hinner houter⟩
          simp only [↓reduceIte, state_bind]
          cases hnot : state₁.has_passed_rule with
          | true =>
            simp only [↓reduceIte]
            exact hcarry hempty₁ hnot hdecides hdelegates.suffix_none
          | false =>
            simp only [Bool.false_eq_true, ↓reduceIte]
            obtain ⟨value, hvalue⟩ := Option.ne_none_iff_exists'.mp hdecides.has_value
            have haccept := state₁.accept_eq rule value (hdecides.exposures hexposures)
              hdecides.bool_value hdelegates.config_delegate (hdecides.group_name ⟨hw, hnot⟩)
              hdelegates.explicit_parameters
            rw [← hdecides.json_value, hvalue]
            simp only [reuses_nothing hempty₁ hnot, Bool.false_eq_true, ↓reduceIte, update_bind]
            rw [← haccept]
            have hpassed₂ : (state₁.accept rule value s).has_passed_rule = true := rfl
            refine hcarry (fun h => absurd hpassed₂ (by simp [h])) hpassed₂ ?_
              hdelegates.suffix_none
            refine ⟨hdecides.first.with_result hdecides.first.supported,
              hdecides.second.with_result hdecides.second.supported, hdecides.bool_value,
              hdecides.json_value,
              hdecides.has_value, hdecides.rule_id, fun _ => rfl, ?_, hdecides.is_in_layer,
              hdecides.rule_id_suffix, hdecides.plain, fun hinner => absurd hinner houter⟩
            rintro ⟨-, hfalse⟩
            rw [hpassed₂] at hfalse
            cases hfalse

end Decisions

/-! ## Specs, mappings and bandits -/

section Specs

variable {env : EvaluatorEnv} {S inner : Set Node} {height : Node → Nat} {node : Node}
  {w : Watch} {level d d' : Nat} {b₁ b₂ : Bool} {s t : EvaluatorContext}

theorem Clean.unfiltered {c : EvaluatorContext} (h : Clean env S height c) :
    (c.nested_count == 0 && (c.only_evaluate_targeting || c.only_evaluate_overrides)) = false := by
  rw [h.targeting, h.overrides, Bool.or_false, Bool.and_false]

theorem begin_spec_alike (h : Alike env S height w level b₁ b₂ s t) (name : String) (spec : Spec) :
    Alike env S height w level (spec.has_shared_params.getD b₁) (spec.has_shared_params.getD b₂)
      (begin_spec name spec s) (begin_spec name spec t) := by
  refine ⟨h.first.with_result h.first.supported, h.second.with_result h.second.supported,
    ⟨h.keeps_first.group_name, fun hw => ?_, h.keeps_first.rule_id_suffix⟩,
    ⟨h.keeps_second.group_name, fun hw => ?_, h.keeps_second.rule_id_suffix⟩, h.exposures⟩
  · show spec.has_shared_params.getD s.result.is_in_layer = _
    rw [h.keeps_first.is_in_layer hw]
  · show spec.has_shared_params.getD t.result.is_in_layer = _
    rw [h.keeps_second.is_in_layer hw]

theorem evaluate_spec_agrees (calls : AgreeingCalls env S inner height node level d d')
    (hfits : Fits env inner w)
    (hlayer : node.1 = .Layer → w.exposures ∧ w.group_name) :
    Agree (Alike env S height w level b₁ b₂)
      (evaluate_spec env (evaluate env d) false node.2 node.1 (spec_of env node))
      (evaluate_spec env (evaluate env d') false node.2 node.1 (spec_of env node))
      (Ends env S height w level (kind_of env inner node) b₁ b₂ node) := by
  unfold evaluate_spec
  cases hspec : spec_of env node with
  | none =>
    refine agree_pure fun s t halike => ⟨nofun, fun _ => ⟨b₁, b₂, halike⟩, fun h => ?_⟩
    exact absurd hspec h
  | some spec =>
    have hends : ∀ recognition s t, recognition = .Recognized ∧
        Decides env S height w (level - 1) (kind_of env inner node) (spec.has_shared_params.getD b₁)
          (spec.has_shared_params.getD b₂) s t →
        Ends env S height w level (kind_of env inner node) b₁ b₂ node recognition s t := by
      rintro _ s t ⟨rfl, hdecides⟩
      refine ⟨fun _ => hdecides.rebase (fun _ hb => by rw [hb]) fun hinner hkept => ?_,
        nofun, fun _ => rfl⟩
      have hnone : w.is_in_layer → spec.has_shared_params = none := fun hw =>
        (hfits.layers hw node hinner).2 spec hspec
      refine ⟨⟨hkept.1.group_name, fun hw => ?_, hkept.1.rule_id_suffix⟩,
        ⟨hkept.2.group_name, fun hw => ?_, hkept.2.rule_id_suffix⟩⟩
      · rw [hkept.1.is_in_layer hw, hnone hw, Option.getD_none]
      · rw [hkept.2.is_in_layer hw, hnone hw, Option.getD_none]
    refine Agree.post ?_ hends
    refine agree_update_bind (fun s t halike => begin_spec_alike halike node.2 spec) ?_
    split
    · rename_i hnew
      obtain ⟨hexposures, hgroup⟩ := hlayer hnew.2
      have houter : node ∉ inner := fun hin => calls.regular.inner_types node hin hnew.2
      unfold new_layer_eval
      refine agree_state_any fun s t halike => ?_
      dsimp only
      rw [halike.first.unfiltered, halike.second.unfiltered]
      simp only [Bool.false_and, Bool.false_eq_true, ↓reduceIte]
      refine (new_layer_rules_agrees calls hfits hexposures hgroup houter hspec spec.rules
        (fun _ h => h) {} (fun _ => rfl)).pre fun s t h => ?_
      exact ⟨h.first, h.second, h.keeps_first.until_passed {}, h.keeps_second.until_passed {},
        h.exposures⟩
    · refine agree_state_any fun s t _ => ?_
      simp only [Bool.false_and, Bool.false_eq_true, ↓reduceIte]
      exact evaluate_rules_agrees calls hfits hspec spec.rules fun _ h => h

/-- Two contexts in a call that has applied nothing yet. A mapping that did not apply leaves
an empty result. -/
def Between (env : EvaluatorEnv) (S : Set Node) (height : Node → Nat) (node : Node) (w : Watch)
    (level : Nat) (b₁ b₂ : Bool) (s t : EvaluatorContext) : Prop :=
  ∃ c₁ c₂, (b₁ = b₂ → c₁ = c₂) ∧ ((c₁ = b₁ ∧ c₂ = b₂) ∨ Mapped env node) ∧
    Alike env S height w level c₁ c₂ s t

/-- A step of the call that may decide. -/
def Applies (env : EvaluatorEnv) (S : Set Node) (height : Node → Nat) (inner : Set Node)
    (node : Node) (w : Watch) (level : Nat) (b₁ b₂ : Bool) (applied : Bool)
    (s t : EvaluatorContext) : Prop :=
  if applied then Decides env S height w (level - 1) (kind_of env inner node) b₁ b₂ s t
  else Between env S height node w level b₁ b₂ s t

theorem reset_alike {c c' : EvaluatorContext} (h : Clean env S height c)
    (h' : Clean env S height c') (w : Watch) (level : Nat) :
    Alike env S height w level false false c.reset_result c'.reset_result :=
  ⟨⟨⟨h.memo, h.targeting, h.overrides⟩, Nat.zero_le level, rfl⟩,
    ⟨⟨h'.memo, h'.targeting, h'.overrides⟩, Nat.zero_le level, rfl⟩,
    ⟨fun _ => rfl, fun _ => rfl, fun _ => rfl⟩, ⟨fun _ => rfl, fun _ => rfl, fun _ => rfl⟩,
    fun _ => rfl⟩

theorem try_override_rules_agrees (calls : AgreeingCalls env S inner height node level d d')
    (hfits : Fits env inner w)
    (hlayer : node.1 = .Layer → w.exposures ∧ w.group_name)
    {override_rules : HashMap String Rule} {mapping : ConfigMapping} (rules : List OverrideRule)
    (hrules : ∀ override_rule ∈ rules, ∀ rule,
      started_rule env override_rules override_rule = some rule →
        MappingRule env node.2 mapping rule) :
    Agree (Between env S height node w level b₁ b₂)
      (try_override_rules env (evaluate env d) node.1 (salt_of (spec_of env node))
        mapping.new_config_name override_rules rules)
      (try_override_rules env (evaluate env d') node.1 (salt_of (spec_of env node))
        mapping.new_config_name override_rules rules)
      (Applies env S height inner node w level b₁ b₂) := by
  induction rules with
  | nil => exact agree_pure fun s t h => h
  | cons override_rule rules ih =>
    have hrest := ih fun r hr => hrules r (List.mem_cons_of_mem override_rule hr)
    unfold try_override_rules
    cases hstarted : started_rule env override_rules override_rule with
    | none => exact hrest
    | some rule =>
      have hmapping := hrules override_rule List.mem_cons_self rule hstarted
      have hmapped : Mapped env node := ⟨mapping, rule, hmapping⟩
      have hreset : ∀ {s t : EvaluatorContext}, Clean env S height s → Clean env S height t →
          Between env S height node w level b₁ b₂ s.reset_result t.reset_result :=
        fun hs ht => ⟨false, false, fun _ => rfl, .inr hmapped, reset_alike hs ht w level⟩
      have hasked : Agree (Between env S height node w level b₁ b₂)
          (attempt (evaluate_rule env (evaluate env d) rule))
          (attempt (evaluate_rule env (evaluate env d') rule))
          (fun evaluated s t => ((∃ a, evaluated = .ok a ∧ ∃ c₁ c₂,
              Alike env S height w level c₁ c₂ s t ∧ s.result.bool_value = t.result.bool_value)) ∧
            (evaluated.isOk → Refuted env rule → NotPassed s)) := by
        rintro s t ⟨c₁, c₂, -, -, halike⟩
        have hevaluated : Agree (Alike env S height w level c₁ c₂) _ _ _ :=
          evaluate_rule_agrees calls hfits (.inr ⟨mapping, hmapping⟩)
        refine ((hevaluated.attempt.and_left (attempted_rule_not_refuted (P := fun _ => True)
          (evaluate env d) rule) fun _ _ _ => trivial).post ?_) s t halike
        rintro evaluated s t ⟨⟨a, rfl, hst⟩, hnot_refuted⟩
        exact ⟨⟨a, rfl, c₁, c₂, hst⟩, hnot_refuted⟩
      refine Agree.bind hasked fun evaluated => agree_state fun s₁ t₁ h => ?_
      obtain ⟨⟨⟨⟩, rfl, c₁, c₂, halike, hbool⟩, hnot_refuted⟩ := h
      refine agree_update_bind (M := fun s t => Alike env S height w level false false s t ∧
        Alike env S height w 0 false false s t) ?_ ?_
      · rintro s t ⟨rfl, rfl⟩
        exact ⟨reset_alike halike.first.toClean halike.second.toClean w level,
          reset_alike halike.first.toClean halike.second.toClean w 0⟩
      rw [halike.first.supported, halike.second.supported, ← hbool]
      have hbetween : ∀ s t, Alike env S height w level false false s t →
          Between env S height node w level b₁ b₂ s t :=
        fun s t h => ⟨false, false, fun _ => rfl, .inr hmapped, h⟩
      split
      · rename_i hpass
        simp only [Bool.and_eq_true] at hpass
        obtain ⟨⟨⟨-, htrue⟩, -⟩, hpercentage⟩ := hpass
        have hmaps : MapsTo env node (node.1, mapping.new_config_name) := by
          refine ⟨rfl, mapping, rule, hmapping, fun hrefuted => ?_, hpercentage, rfl⟩
          rcases hnot_refuted rfl hrefuted with hfalse | hunsupported
          · rw [htrue] at hfalse
            cases hfalse
          · rw [halike.first.supported] at hunsupported
            cases hunsupported
        have hrefers : Refers env node (node.1, mapping.new_config_name) := .inr (.inr hmaps)
        have hroom := calls.room _ hrefers
        obtain ⟨hd, hd'⟩ := calls.below _ hrefers
        have hmapped_call := calls.agree _ hrefers d d' 0 w false false hd hd' (by omega) hfits
          hlayer fun _ => rfl
        refine agree_update_bind (M := Alike env S height w 0 false false) ?_ ?_
        · rintro s t ⟨-, h⟩
          exact ⟨h.first.with_result h.first.supported, h.second.with_result h.second.supported,
            ⟨h.keeps_first.group_name, h.keeps_first.is_in_layer, h.keeps_first.rule_id_suffix⟩,
            ⟨h.keeps_second.group_name, h.keeps_second.is_in_layer,
              h.keeps_second.rule_id_suffix⟩, h.exposures⟩
        refine Agree.bind hmapped_call.attempt fun recognition => ?_
        rintro s t ⟨known, rfl, hends⟩
        cases known with
        | Recognized =>
          have hdecides := hends.decided rfl
          refine ⟨true, s, t, rfl, rfl, ?_⟩
          refine ⟨hdecides.first.mono (Nat.zero_le _), hdecides.second.mono (Nat.zero_le _),
            hdecides.bool_value, hdecides.json_value, hdecides.has_value, hdecides.rule_id,
            hdecides.exposures, hdecides.group_name, fun hw _ => hdecides.is_in_layer hw rfl,
            hdecides.rule_id_suffix, fun hplain => hdecides.plain fun hbandits => ?_,
            fun hinner => ?_⟩
          · obtain ⟨other, hpath, hbandit⟩ := hbandits
            exact hplain ⟨other, hpath.head hmaps, hbandit⟩
          obtain ⟨hfirst, hsecond⟩ :=
            hdecides.kept (calls.regular.inner_refers node hinner _ (.inr hmaps))
          have hnever : ¬ w.is_in_layer := fun hw => (hfits.layers hw node hinner).1 hmapped
          exact ⟨⟨hfirst.group_name, fun hw => absurd hw hnever, hfirst.rule_id_suffix⟩,
            ⟨hsecond.group_name, fun hw => absurd hw hnever, hsecond.rule_id_suffix⟩⟩
        | Unrecognized =>
          obtain ⟨c₁, c₂, hunknown⟩ := hends.unknown rfl
          refine ⟨false, s.reset_result, t.reset_result, rfl, rfl, ?_⟩
          exact hbetween _ _ (reset_alike hunknown.first.toClean hunknown.second.toClean w level)
      · exact hrest.pre fun s t h => hbetween s t h.1

theorem try_apply_config_mapping_agrees
    (calls : AgreeingCalls env S inner height node level d d')
    (hfits : Fits env inner w)
    (hlayer : node.1 = .Layer → w.exposures ∧ w.group_name) :
    Agree (Alike env S height w level b₁ b₂)
      (try_apply_config_mapping env (evaluate env d) node.2 node.1 (spec_of env node))
      (try_apply_config_mapping env (evaluate env d') node.2 node.1 (spec_of env node))
      (Applies env S height inner node w level b₁ b₂) := by
  have hstart : ∀ s t, Alike env S height w level b₁ b₂ s t →
      Between env S height node w level b₁ b₂ s t :=
    fun s t h => ⟨b₁, b₂, fun hb => hb, .inl ⟨rfl, rfl⟩, h⟩
  unfold try_apply_config_mapping
  split
  · rename_i overrides override_rules hoverrides hrules
    split
    · exact agree_pure hstart
    · rename_i mapping_list hlist
      have hall : ∀ mappings, (∀ mapping ∈ mappings, mapping ∈ mapping_list) →
          Agree (Between env S height node w level b₁ b₂)
            (try_mappings env (evaluate env d) node.1 (salt_of (spec_of env node)) override_rules
              mappings)
            (try_mappings env (evaluate env d') node.1 (salt_of (spec_of env node)) override_rules
              mappings)
            (Applies env S height inner node w level b₁ b₂) := by
        intro mappings
        induction mappings with
        | nil => exact fun _ => agree_pure fun s t h => h
        | cons mapping mappings ih =>
          intro hsub
          have hmapping := hsub mapping List.mem_cons_self
          have hrest := ih fun m hm => hsub m (List.mem_cons_of_mem mapping hm)
          unfold try_mappings
          refine Agree.bind (try_override_rules_agrees calls hfits hlayer mapping.rules
            fun override_rule hmem rule hstarted => ⟨overrides, override_rules, mapping_list,
              hoverrides, hrules, hlist, hmapping, override_rule, hmem, hstarted⟩)
            fun applied => ?_
          cases applied with
          | true => exact agree_pure fun s t h => h
          | false => exact hrest
      exact (hall mapping_list fun _ h => h).pre hstart
  · exact agree_pure hstart

/-- Two contexts while a bandit is asked. -/
structure Asking (env : EvaluatorEnv) (S : Set Node) (height : Node → Nat) (w : Watch)
    (b₁ b₂ : Bool) (s t : EvaluatorContext) : Prop where
  first : Calm env S height 0 s
  second : Calm env S height 0 t
  exposures : w.exposures → s.result.secondary_exposures = t.result.secondary_exposures
  group_name : w.group_name → s.result.group_name = t.result.group_name
  is_in_layer : w.is_in_layer → b₁ = b₂ → s.result.is_in_layer = t.result.is_in_layer
  first_suffix : w.rule_id_suffix → s.result.rule_id_suffix = none
  second_suffix : w.rule_id_suffix → t.result.rule_id_suffix = none

theorem get_passes_targeting_agrees (calls : AgreeingCalls env S inner height node 0 d d')
    (hfits : Fits env inner w) {cmab : CMABConfig}
    (hbandit : BanditOf env node cmab) :
    Agree (Alike env S height w 0 b₁ b₂) (get_passes_targeting (evaluate env d) cmab)
      (get_passes_targeting (evaluate env d') cmab)
      (fun _ => Asking env S height w b₁ b₂) := by
  have hstart : ∀ s t, Alike env S height w 0 b₁ b₂ s t → Asking env S height w b₁ b₂ s t := by
    intro s t h
    refine ⟨h.first, h.second, h.exposures, fun hw => ?_, fun hw hb => ?_,
      h.keeps_first.rule_id_suffix, h.keeps_second.rule_id_suffix⟩
    · rw [h.keeps_first.group_name hw, h.keeps_second.group_name hw]
    · rw [h.keeps_first.is_in_layer hw, h.keeps_second.is_in_layer hw, hb]
  unfold get_passes_targeting
  cases htargeting : cmab.targeting_gate_name with
  | none => exact agree_pure hstart
  | some gate =>
    have hnests : Nests env node (.Gate, gate) := .targeting hbandit htargeting
    have hrefers : Refers env node (.Gate, gate) := .inl hnests
    have hroom := calls.room _ hrefers
    obtain ⟨hd, hd'⟩ := calls.below _ hrefers
    have hprep : Agree (Alike env S height w 0 b₁ b₂)
        (attempt (prep_for_nested_evaluation : Eval Unit)) (attempt prep_for_nested_evaluation)
        (fun r s t => r = .ok () ∧ Alike env S height w 1 b₁ b₂ s t) := by
      intro s t h
      have hcount := h.first.count
      have hcount' := h.second.count
      have hok : ∀ c : EvaluatorContext, c.nested_count ≤ 0 →
          attempt prep_for_nested_evaluation c = .ok (.ok ()) { c with
            nested_count := c.nested_count + 1
            result.bool_value := false
            result.json_value := none } := by
        intro c hc
        unfold attempt prep_for_nested_evaluation
        rw [if_neg]
        dsimp only
        omega
      refine ⟨.ok (), _, _, hok s hcount, hok t hcount', rfl, ?_⟩
      exact ⟨⟨⟨h.first.memo, h.first.targeting, h.first.overrides⟩, Nat.succ_le_succ hcount,
        h.first.supported⟩, ⟨⟨h.second.memo, h.second.targeting, h.second.overrides⟩,
        Nat.succ_le_succ hcount', h.second.supported⟩,
        ⟨h.keeps_first.group_name, h.keeps_first.is_in_layer, h.keeps_first.rule_id_suffix⟩,
        ⟨h.keeps_second.group_name, h.keeps_second.is_in_layer, h.keeps_second.rule_id_suffix⟩,
        h.exposures⟩
    refine Agree.bind hprep fun r => ?_
    rintro s t ⟨rfl, halike⟩
    obtain ⟨recognition, s', t', hrun, hrun', hends⟩ :=
      calls.agree _ hrefers d d' 1 w b₁ b₂ hd hd' (by omega) hfits nofun
        (fun ⟨_, hgate_bandit, _⟩ => by cases hgate_bandit) s t halike
    have hknown := hends.present (calls.regular.gates node calls.mem gate hnests)
    subst hknown
    have hdecides := hends.decided rfl
    have hsuffix := hdecides.plain (calls.regular.nested_bandits node calls.mem _ hnests)
    have hsuffix' : w.rule_id_suffix → t'.result.rule_id_suffix = none :=
      fun hw => (hdecides.rule_id_suffix hw).symm.trans (hsuffix hw)
    have hattempt : ∀ {depth : Nat} {c c' : EvaluatorContext},
        evaluate env depth gate .Gate c = .ok .Recognized c' →
        attempt (evaluate env depth gate .Gate) c = .ok (.ok .Recognized) c' := by
      intro depth c c' h
      unfold attempt
      rw [h]
    refine ⟨s'.result.bool_value, push_targeting_exposure gate s'.result.bool_value s',
      push_targeting_exposure gate t'.result.bool_value t', ?_, ?_, ?_⟩
    · dsimp only
      rw [bind_apply, hattempt hrun]
      rfl
    · dsimp only
      rw [bind_apply, hattempt hrun', hdecides.bool_value]
      rfl
    · unfold push_targeting_exposure
      split
      · exact ⟨hdecides.first, hdecides.second, hdecides.exposures, hdecides.group_name,
          hdecides.is_in_layer, hsuffix, hsuffix'⟩
      · refine ⟨hdecides.first.with_result hdecides.first.supported,
          hdecides.second.with_result hdecides.second.supported, fun hw => ?_, hdecides.group_name,
          hdecides.is_in_layer, hsuffix, hsuffix'⟩
        show s'.result.secondary_exposures ++ _ = t'.result.secondary_exposures ++ _
        rw [hdecides.exposures hw, hdecides.bool_value, hdecides.rule_id]

theorem evaluate_cmab_agrees (calls : AgreeingCalls env S inner height node level d d')
    (hfits : Fits env inner w)
    (hlevel : (∃ cmab, BanditOf env node cmab) → level = 0) :
    Agree (Between env S height node w level b₁ b₂)
      (evaluate_cmab env (evaluate env d) node.2 node.1)
      (evaluate_cmab env (evaluate env d') node.2 node.1)
      (Applies env S height inner node w level b₁ b₂) := by
  by_cases hbandit : ∃ cmab, BanditOf env node cmab
  · obtain ⟨cmab, hbandit⟩ := hbandit
    obtain rfl := hlevel ⟨cmab, hbandit⟩
    have houter : node ∉ inner := fun hin => calls.regular.inner_bandits node hin cmab hbandit
    have hbandits : Bandits env node := ⟨node, .refl, cmab, hbandit⟩
    obtain ⟨group, suffix, hgroup⟩ := calls.regular.bandits node calls.mem cmab hbandit
    obtain ⟨hty, cmabs, hcmabs, hcmab⟩ := hbandit
    have hdefault : ∀ {s t : EvaluatorContext} rule_id, Asking env S height w b₁ b₂ s t →
        Decides env S height w 0 (kind_of env inner node) b₁ b₂ (apply_cmab_default cmab rule_id s)
          (apply_cmab_default cmab rule_id t) := by
      intro s t rule_id h
      exact ⟨h.first.with_result h.first.supported, h.second.with_result h.second.supported, rfl,
        rfl, Option.some_ne_none _, rfl, h.exposures, h.group_name, h.is_in_layer,
        fun hw => (h.first_suffix hw).trans (h.second_suffix hw).symm,
        fun hplain => absurd hbandits hplain, fun hinner => absurd hinner houter⟩
    rintro s t ⟨c₁, c₂, hsame, -, halike⟩
    have hpasses := get_passes_targeting_agrees calls hfits ⟨hty, cmabs, hcmabs, hcmab⟩ s t halike
    have hrebase : ∀ {s t : EvaluatorContext}, Asking env S height w c₁ c₂ s t →
        Asking env S height w b₁ b₂ s t :=
      fun h => ⟨h.first, h.second, h.exposures, h.group_name,
        fun hw hb => h.is_in_layer hw (hsame hb), h.first_suffix, h.second_suffix⟩
    have hstart : Asking env S height w c₁ c₂ s t := by
      refine ⟨halike.first, halike.second, halike.exposures, fun hw => ?_, fun hw hc => ?_,
        halike.keeps_first.rule_id_suffix, halike.keeps_second.rule_id_suffix⟩
      · rw [halike.keeps_first.group_name hw, halike.keeps_second.group_name hw]
      · rw [halike.keeps_first.is_in_layer hw, halike.keeps_second.is_in_layer hw, hc]
    unfold evaluate_cmab
    rw [hty, hcmabs]
    dsimp only
    rw [hcmab]
    dsimp only
    split
    · exact ⟨true, _, _, rfl, rfl, hdefault NOT_STARTED_RULE (hrebase hstart)⟩
    · obtain ⟨passes, s', t', hrun, hrun', hasking⟩ := hpasses
      rw [bind_apply, hrun, bind_apply, hrun']
      have h := hrebase hasking
      cases passes with
      | false => exact ⟨true, _, _, rfl, rfl, hdefault FAILS_TARGETING h⟩
      | true =>
        refine ⟨true, _, _, rfl, rfl, ?_⟩
        obtain ⟨suffix₁, draws₁, hs, hs_suffix⟩ := hgroup (set_cmab_fields cmab s')
        obtain ⟨suffix₂, draws₂, ht, ht_suffix⟩ := hgroup (set_cmab_fields cmab t')
        show Decides env S height w 0 (kind_of env inner node) b₁ b₂ (assign_cmab_group env cmab _)
          (assign_cmab_group env cmab _)
        rw [hs, ht]
        exact ⟨h.first.with_result h.first.supported, h.second.with_result h.second.supported, rfl,
          rfl, Option.some_ne_none _, rfl, h.exposures, fun _ => rfl, h.is_in_layer,
          fun hw => (hs_suffix (h.first_suffix hw)).trans (ht_suffix (h.second_suffix hw)).symm,
          fun hplain => absurd hbandits hplain, fun hinner => absurd hinner houter⟩
  · rw [evaluate_cmab_skips _ fun cmab h => hbandit ⟨cmab, h⟩,
      evaluate_cmab_skips _ fun cmab h => hbandit ⟨cmab, h⟩]
    exact agree_pure fun s t h => h

/-! ## A whole evaluation -/

theorem evaluate_with_agrees (calls : AgreeingCalls env S inner height node level d d')
    (hfits : Fits env inner w)
    (hlayer : node.1 = .Layer → w.exposures ∧ w.group_name)
    (hlevel : (∃ cmab, BanditOf env node cmab) → level = 0) :
    Agree (Alike env S height w level b₁ b₂) (evaluate_with env (evaluate env d) node.2 node.1)
      (evaluate_with env (evaluate env d') node.2 node.1)
      (Ends env S height w level (kind_of env inner node) b₁ b₂ node) := by
  have happlied : ∀ {s t : EvaluatorContext},
      Decides env S height w (level - 1) (kind_of env inner node) b₁ b₂ s t →
      Ends env S height w level (kind_of env inner node) b₁ b₂ node .Recognized s t :=
    fun h => ⟨fun _ => h, nofun, fun _ => rfl⟩
  have huntouched : try_apply_override env node.2 node.1 (spec_of env node) = pure false :=
    calls.regular.untouched node calls.mem
  unfold evaluate_with
  rw [if_neg (calls.regular.types node calls.mem), if_neg (calls.regular.types node calls.mem)]
  refine agree_state_any fun s t halike => ?_
  dsimp only
  rw [halike.first.unfiltered, halike.second.unfiltered]
  simp only [Bool.false_eq_true, ↓reduceIte]
  change Agree _ (try_apply_override env node.2 node.1 (spec_of env node) >>= _)
    (try_apply_override env node.2 node.1 (spec_of env node) >>= _) _
  rw [huntouched]
  refine Agree.bind (agree_pure (Q := fun applied s t => applied = false ∧
    Alike env S height w level b₁ b₂ s t) fun _ _ h => ⟨rfl, h⟩) fun applied => ?_
  rintro s t ⟨rfl, halike⟩
  simp only [Bool.false_eq_true, ↓reduceIte]
  refine Agree.bind (try_apply_config_mapping_agrees calls hfits hlayer) (fun applied => ?_) s t
    halike
  cases applied with
  | true => exact agree_pure fun s t h => happlied h
  | false =>
    simp only [Bool.false_eq_true, ↓reduceIte]
    refine Agree.bind (evaluate_cmab_agrees calls hfits hlevel) fun applied => ?_
    cases applied with
    | true => exact agree_pure fun s t h => happlied h
    | false =>
      simp only [Bool.false_eq_true, ↓reduceIte]
      rintro s t ⟨c₁, c₂, hsame, hkept, halike⟩
      refine ((evaluate_spec_agrees calls hfits hlayer).post ?_) s t halike
      intro recognition s t hends
      refine ⟨fun hknown => (hends.decided hknown).rebase (fun _ hb => hsame hb) ?_,
        hends.unknown, hends.present⟩
      rintro hinner ⟨hfirst, hsecond⟩
      rcases hkept with ⟨rfl, rfl⟩ | hmapped
      · exact ⟨hfirst, hsecond⟩
      · have hnever : ¬ w.is_in_layer := fun hw => (hfits.layers hw node hinner).1 hmapped
        exact ⟨⟨hfirst.group_name, fun hw => absurd hw hnever, hfirst.rule_id_suffix⟩,
          ⟨hsecond.group_name, fun hw => absurd hw hnever, hsecond.rule_id_suffix⟩⟩

/-- All evaluations of a spec of a regular set agree. -/
theorem agreeing_of_regular (h : Regular env S inner height) {node : Node} (hnode : node ∈ S) :
    Agreeing env S inner height node := by
  have hall : ∀ n, ∀ node ∈ S, height node = n → Agreeing env S inner height node := by
    intro n
    induction n using Nat.strong_induction_on with
    | _ n ih =>
      rintro node hnode rfl d d' level w b₁ b₂ hd hd' hroom hfits hlayer hlevel
      obtain ⟨k, rfl⟩ : ∃ k, d = k + 1 := ⟨d - 1, by omega⟩
      obtain ⟨k', rfl⟩ : ∃ k', d' = k' + 1 := ⟨d' - 1, by omega⟩
      refine evaluate_with_agrees (S := S) ⟨h, hnode, ?_, ?_, ?_⟩ hfits hlayer hlevel
      · intro b hb
        obtain ⟨hmem, hlower⟩ := h.refers node hnode b hb
        exact ih _ hlower b hmem rfl
      · intro b hb
        obtain ⟨-, hlower⟩ := h.refers node hnode b hb
        exact ⟨by omega, by omega⟩
      · intro b hb
        obtain ⟨-, hlower⟩ := h.refers node hnode b hb
        omega
  exact hall _ node hnode rfl

end Specs

end statsig_rust.evaluation
