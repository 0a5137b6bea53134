-- Two evaluations of one spec, in contexts with different memos and with different results
-- around them. They agree where every gate that is asked is there, every condition is
-- supported, no path of references reaches the nesting limit, and a nested spec leaves the
-- fields of the result alone that the memo does not hold.
import StatsigCore.Evaluation.Simulation
import StatsigCore.Library.Relational

open program

namespace statsig_rust.evaluation

/-! ## Related contexts -/

/-- What two runs agree on besides the value and the rule id. -/
structure Watch where
  exposures : Prop
  group_name : Prop
  is_in_layer : Prop
  rule_id_suffix : Prop

/-- The memo entry is what an evaluation of the gate alone leaves. -/
def Remembers (env : EvaluatorEnv) (height : Node → Nat) (gate : InternedString)
    (entry : Bool × Option InternedString × List SecondaryExposure) : Prop :=
  ∀ depth, height (.Gate, gate) < depth → ∃ inner,
    evaluate env depth gate .Gate { nested_count := 1 } = .ok .Recognized inner ∧
    entry = (inner.result.bool_value, inner.result.rule_id, inner.result.secondary_exposures)

theorem Remembers.unique {env : EvaluatorEnv} {height : Node → Nat} {gate : InternedString}
    {entry other : Bool × Option InternedString × List SecondaryExposure}
    (h : Remembers env height gate entry) (h' : Remembers env height gate other) :
    entry = other := by
  obtain ⟨inner, hrun, rfl⟩ := h _ (Nat.lt_succ_self _)
  obtain ⟨inner', hrun', rfl⟩ := h' _ (Nat.lt_succ_self _)
  rw [hrun] at hrun'
  cases hrun'
  rfl

/-- The memo is right about the gates of the set, and all rules are evaluated. -/
structure Clean (env : EvaluatorEnv) (S : Set Node) (height : Node → Nat) (c : EvaluatorContext) :
    Prop where
  memo : ∀ gate entry, (.Gate, gate) ∈ S → c.nested_gate_memo.get gate = some entry →
    Remembers env height gate entry
  targeting : c.only_evaluate_targeting = false
  overrides : c.only_evaluate_overrides = false

/-- A clean context at a level of nesting that has met nothing unsupported. -/
structure Calm (env : EvaluatorEnv) (S : Set Node) (height : Node → Nat) (level : Nat)
    (c : EvaluatorContext) : Prop extends Clean env S height c where
  count : c.nested_count ≤ level
  supported : c.result.unsupported = false

/-- The watched fields that a nested gate leaves as they are. -/
structure Keeps (w : Watch) (in_layer : Bool) (result : EvaluatorResult) : Prop where
  group_name : w.group_name → result.group_name = none
  is_in_layer : w.is_in_layer → result.is_in_layer = in_layer
  rule_id_suffix : w.rule_id_suffix → result.rule_id_suffix = none

/-- Two contexts in the middle of a spec. -/
structure Alike (env : EvaluatorEnv) (S : Set Node) (height : Node → Nat) (w : Watch)
    (level : Nat) (b₁ b₂ : Bool) (s t : EvaluatorContext) : Prop where
  first : Calm env S height level s
  second : Calm env S height level t
  keeps_first : Keeps w b₁ s.result
  keeps_second : Keeps w b₂ t.result
  exposures : w.exposures → s.result.secondary_exposures = t.result.secondary_exposures

/-- The node, or one that it is mapped to, is a bandit. -/
def Bandits (env : EvaluatorEnv) (node : Node) : Prop :=
  ∃ other, Relation.ReflTransGen (MapsTo env) node other ∧ ∃ cmab, BanditOf env other cmab

/-- What a spec that decides may leave in the result: an inner spec keeps all that a nested
gate keeps, and a plain one sets no suffix. -/
structure Kind where
  inner : Prop
  plain : Prop

def kind_of (env : EvaluatorEnv) (inner : Set Node) (node : Node) : Kind where
  inner := node ∈ inner
  plain := ¬ Bandits env node

/-- Two contexts after a spec has decided. -/
structure Decides (env : EvaluatorEnv) (S : Set Node) (height : Node → Nat) (w : Watch)
    (level : Nat) (kind : Kind) (b₁ b₂ : Bool) (s t : EvaluatorContext) : Prop where
  first : Calm env S height level s
  second : Calm env S height level t
  bool_value : s.result.bool_value = t.result.bool_value
  json_value : s.result.json_value = t.result.json_value
  has_value : s.result.json_value ≠ none
  rule_id : s.result.rule_id = t.result.rule_id
  exposures : w.exposures → s.result.secondary_exposures = t.result.secondary_exposures
  group_name : w.group_name → s.result.group_name = t.result.group_name
  is_in_layer : w.is_in_layer → b₁ = b₂ → s.result.is_in_layer = t.result.is_in_layer
  rule_id_suffix : w.rule_id_suffix → s.result.rule_id_suffix = t.result.rule_id_suffix
  plain : kind.plain → w.rule_id_suffix → s.result.rule_id_suffix = none
  kept : kind.inner → Keeps w b₁ s.result ∧ Keeps w b₂ t.result

/-- Two contexts after a call. A call for a spec that is there is recognized. -/
structure Ends (env : EvaluatorEnv) (S : Set Node) (height : Node → Nat) (w : Watch)
    (level : Nat) (kind : Kind) (b₁ b₂ : Bool) (node : Node) (recognition : Recognition)
    (s t : EvaluatorContext) : Prop where
  decided : recognition = .Recognized → Decides env S height w (level - 1) kind b₁ b₂ s t
  unknown : recognition = .Unrecognized → ∃ c₁ c₂, Alike env S height w level c₁ c₂ s t
  present : spec_of env node ≠ none → recognition = .Recognized

/-- The bandit gives its group whatever the random numbers are. -/
def FixedGroup (env : EvaluatorEnv) (cmab : CMABConfig) : Prop :=
  ∃ group suffix, ∀ ctx : EvaluatorContext, ∃ suffix' draws,
    assign_cmab_group env cmab ctx = { apply_group group suffix' ctx with draws } ∧
    (ctx.result.rule_id_suffix = none → suffix' = suffix)

/-- No rule of a nested spec names a group. -/
def Ungrouped (env : EvaluatorEnv) (inner : Set Node) : Prop :=
  ∀ a ∈ inner, ∀ spec, spec_of env a = some spec → ∀ rule ∈ spec.rules, rule.group_name = none

/-- What lets the evaluations of a set of specs agree, with the specs of it that are asked
as nested gates, or that those lead to. -/
structure Regular (env : EvaluatorEnv) (S inner : Set Node) (height : Node → Nat) : Prop where
  refers : ∀ a ∈ S, ∀ b, Refers env a b → b ∈ S ∧ height b < height a
  short : ∀ a ∈ S, height a < MAX_RECURSIVE_DEPTH
  types : ∀ a ∈ S, a.1 ≠ .ParameterStore
  untouched : ∀ a ∈ S, Untouched env a
  supported : ∀ a ∈ S, ∀ rule, RuleOf env a rule → ∀ hash ∈ rule.conditions, SupportedHash env hash
  gates : ∀ a ∈ S, ∀ gate, Nests env a (.Gate, gate) → spec_of env (.Gate, gate) ≠ none
  inner_gates : ∀ a ∈ S, ∀ rule, RuleOf env a rule →
    ∀ gate, GateCondition env rule.conditions gate → (.Gate, gate) ∈ inner
  inner_refers : ∀ a ∈ inner, ∀ b, Nests env a b ∨ MapsTo env a b → b ∈ inner
  inner_types : ∀ a ∈ inner, a.1 ≠ .Layer
  asked_groups : ∀ a ∈ S, ∀ b, AsksGroup env a b → Ungrouped env inner
  inner_bandits : ∀ a ∈ inner, ∀ cmab, ¬ BanditOf env a cmab
  nested_bandits : ∀ a ∈ S, ∀ b, Nests env a b → ¬ Bandits env b
  bandits : ∀ a ∈ S, ∀ cmab, BanditOf env a cmab → FixedGroup env cmab

/-- No nested spec says whether it is in a layer, and none is mapped to another one. -/
def Unlayered (env : EvaluatorEnv) (inner : Set Node) : Prop :=
  ∀ a ∈ inner, ¬ Mapped env a ∧
    ∀ spec, spec_of env a = some spec → spec.has_shared_params = none

/-- The nested specs leave alone what is watched. -/
structure Fits (env : EvaluatorEnv) (inner : Set Node) (w : Watch) : Prop where
  layers : w.is_in_layer → Unlayered env inner
  groups : w.group_name → Ungrouped env inner

/-- All evaluations of the node agree. -/
def Agreeing (env : EvaluatorEnv) (S inner : Set Node) (height : Node → Nat) (node : Node) :
    Prop :=
  ∀ d d' level w b₁ b₂, height node < d → height node < d' →
    level + height node ≤ MAX_RECURSIVE_DEPTH → Fits env inner w →
    (node.1 = .Layer → w.exposures ∧ w.group_name) →
    ((∃ cmab, BanditOf env node cmab) → level = 0) →
    Agree (Alike env S height w level b₁ b₂) (evaluate env d node.2 node.1)
      (evaluate env d' node.2 node.1)
      (Ends env S height w level (kind_of env inner node) b₁ b₂ node)

section

variable {env : EvaluatorEnv} {S : Set Node} {height : Node → Nat} {w : Watch} {level : Nat}
  {b b₁ b₂ : Bool} {s t : EvaluatorContext}

theorem Calm.mono {c : EvaluatorContext} (h : Calm env S height level c) {higher : Nat}
    (hle : level ≤ higher) : Calm env S height higher c :=
  ⟨h.toClean, Nat.le_trans h.count hle, h.supported⟩

theorem Calm.with_result {c : EvaluatorContext} (h : Calm env S height level c)
    {result : EvaluatorResult} {draws : Nat} (hsupported : result.unsupported = false) :
    Calm env S height level { c with result, draws } :=
  ⟨⟨h.memo, h.targeting, h.overrides⟩, h.count, hsupported⟩

/-! ## Updates -/

/-- The update leaves alone what related contexts are compared by. -/
structure Unwatched (u : EvaluatorContext → EvaluatorContext) : Prop where
  memo : ∀ c, (u c).nested_gate_memo = c.nested_gate_memo
  targeting : ∀ c, (u c).only_evaluate_targeting = c.only_evaluate_targeting
  overrides : ∀ c, (u c).only_evaluate_overrides = c.only_evaluate_overrides
  count : ∀ c, (u c).nested_count = c.nested_count
  unsupported : ∀ c, (u c).result.unsupported = c.result.unsupported
  group_name : ∀ c, (u c).result.group_name = c.result.group_name
  is_in_layer : ∀ c, (u c).result.is_in_layer = c.result.is_in_layer
  rule_id_suffix : ∀ c, (u c).result.rule_id_suffix = c.result.rule_id_suffix

theorem Calm.update {c : EvaluatorContext} {u : EvaluatorContext → EvaluatorContext}
    (h : Calm env S height level c) (hu : Unwatched u) : Calm env S height level (u c) := by
  refine ⟨⟨?_, ?_, ?_⟩, ?_, ?_⟩
  · rw [hu.memo]
    exact h.memo
  · rw [hu.targeting, h.targeting]
  · rw [hu.overrides, h.overrides]
  · rw [hu.count]
    exact h.count
  · rw [hu.unsupported, h.supported]

theorem Keeps.update {c : EvaluatorContext} {u : EvaluatorContext → EvaluatorContext}
    (h : Keeps w b c.result) (hu : Unwatched u) : Keeps w b (u c).result := by
  refine ⟨fun hw => ?_, fun hw => ?_, fun hw => ?_⟩
  · rw [hu.group_name, h.group_name hw]
  · rw [hu.is_in_layer, h.is_in_layer hw]
  · rw [hu.rule_id_suffix, h.rule_id_suffix hw]

theorem Alike.update {u : EvaluatorContext → EvaluatorContext}
    (h : Alike env S height w level b₁ b₂ s t)
    (hu : Unwatched u)
    (hexposures : ∀ c, (u c).result.secondary_exposures = c.result.secondary_exposures) :
    Alike env S height w level b₁ b₂ (u s) (u t) := by
  refine ⟨h.first.update hu, h.second.update hu, h.keeps_first.update hu,
    h.keeps_second.update hu, fun hw => ?_⟩
  rw [hexposures, hexposures, h.exposures hw]

theorem unwatched_set_bool (value : Bool) : Unwatched fun c => c.set_bool value :=
  ⟨fun _ => rfl, fun _ => rfl, fun _ => rfl, fun _ => rfl, fun _ => rfl, fun _ => rfl,
    fun _ => rfl, fun _ => rfl⟩

/-! ## Nested gates -/

/-- The exposure of a gate itself. -/
def own_exposure (gate : InternedString) (value : Bool) (rule_id : Option InternedString) :
    List SecondaryExposure :=
  if !starts_with gate "segment:" && !(rule_id.getD "" == "") then
    [{ gate, gate_value := from_bool value, rule_id := rule_id.getD "" }]
  else []

/-- All that the end of a nested gate changes. -/
theorem record_nested_gate_eq (gate : InternedString) (ty : ConditionType)
    (c : EvaluatorContext) : ∃ seen, record_nested_gate gate ty c = { c with
      result.bool_value := if ty = .FailGate then !c.result.bool_value else c.result.bool_value
      result.secondary_exposures := c.result.secondary_exposures ++
        own_exposure gate c.result.bool_value c.result.rule_id
      result.has_seen_analytical_gates := seen } := by
  have hpush : ∃ seen, push_nested_exposure gate c = { c with
      result.secondary_exposures := c.result.secondary_exposures ++
        own_exposure gate c.result.bool_value c.result.rule_id
      result.has_seen_analytical_gates := seen } := by
    unfold push_nested_exposure own_exposure
    dsimp only
    cases hid : c.result.rule_id with
    | none =>
      refine ⟨c.result.has_seen_analytical_gates, ?_⟩
      simp only [Bool.not_true, Bool.and_false, Bool.false_eq_true, ↓reduceIte, List.append_nil,
        Option.getD_none, beq_self_eq_true]
      rw [← hid]
    | some id =>
      rw [Option.getD_some]
      dsimp only
      split
      · exact ⟨_, rfl⟩
      · refine ⟨c.result.has_seen_analytical_gates, ?_⟩
        rw [List.append_nil, ← hid]
  obtain ⟨seen, hpush⟩ := hpush
  refine ⟨seen, ?_⟩
  unfold record_nested_gate
  rw [hpush]
  by_cases hfail : ty = .FailGate
  · rw [if_pos hfail, if_pos hfail]
    rfl
  · rw [if_neg hfail, if_neg hfail]

end

section Gates

variable {env : EvaluatorEnv} {S inner : Set Node} {height : Node → Nat} {w : Watch} {level d : Nat}
  {b b₁ b₂ : Bool}

/-- What an asked gate leaves, by its memo entry. -/
structure Replays (env : EvaluatorEnv) (height : Node → Nat) (gate : InternedString)
    (ty : ConditionType) (before : List SecondaryExposure) (c : EvaluatorContext)
    (entry : Bool × Option InternedString × List SecondaryExposure) : Prop where
  remembers : Remembers env height gate entry
  bool_value : c.result.bool_value = if ty = .FailGate then !entry.1 else entry.1
  exposures : c.result.secondary_exposures =
    before ++ (entry.2.2 ++ own_exposure gate entry.1 entry.2.1)

/-- A gate of the set that is asked from a calm context, in the memo or not. -/
theorem evaluate_nested_gate_replays {target : MemoizedEvaluatorValue} (ty : ConditionType)
    (hagree : Agreeing env S inner height (.Gate, gate_name_of target))
    (hmem : (.Gate, gate_name_of target) ∈ S) (hinner : (.Gate, gate_name_of target) ∈ inner)
    (hpresent : spec_of env (.Gate, gate_name_of target) ≠ none)
    (hd : height (.Gate, gate_name_of target) < d)
    (hlevel : level + 1 + height (.Gate, gate_name_of target) ≤ MAX_RECURSIVE_DEPTH)
    (hfits : Fits env inner w) (before : List SecondaryExposure) :
    Triple (fun c => Calm env S height level c ∧ Keeps w b c.result ∧
        c.result.secondary_exposures = before)
      (evaluate_nested_gate (evaluate env d) target ty)
      (fun _ c => Calm env S height level c ∧ Keeps w b c.result ∧
        ∃ entry, Replays env height (gate_name_of target) ty before c entry)
      (fun _ _ => False) False := by
  rintro c ⟨hcalm, hkeeps, rfl⟩
  unfold evaluate_nested_gate
  rw [state_bind]
  cases hmemo : c.nested_gate_memo.get (gate_name_of target) with
  | some entry =>
    obtain ⟨seen, hrecord⟩ := record_nested_gate_eq (gate_name_of target) ty
      (replay_nested_gate entry c)
    show Outcome.Meets (.ok () (record_nested_gate _ ty (replay_nested_gate entry c))) _ _ _
    rw [hrecord]
    refine ⟨hcalm.with_result hcalm.supported,
      ⟨hkeeps.group_name, hkeeps.is_in_layer, hkeeps.rule_id_suffix⟩, entry,
      hcalm.memo _ _ hmem hmemo, rfl, ?_⟩
    show (c.result.secondary_exposures ++ entry.2.2) ++ _ = _
    rw [List.append_assoc]
    rfl
  | none =>
    -- the call starts where the call for the memo starts, as far as a gate can tell
    let prepped : EvaluatorContext := { c with
      nested_count := c.nested_count + 1
      result.bool_value := false
      result.json_value := none }
    have hcount := hcalm.count
    have hprep : prep_for_nested_evaluation c = .ok () prepped := by
      unfold prep_for_nested_evaluation
      rw [if_neg]
      dsimp only
      omega
    have halike : Alike env S height { w with exposures := True } (level + 1) false b
        { nested_count := 1 } (take_exposures prepped) := by
      refine ⟨⟨⟨fun gate entry _ h => ?_, rfl, rfl⟩, ?_, rfl⟩,
        ⟨⟨hcalm.memo, hcalm.targeting, hcalm.overrides⟩, ?_, hcalm.supported⟩,
        ⟨fun _ => rfl, fun _ => rfl, fun _ => rfl⟩,
        ⟨hkeeps.group_name, hkeeps.is_in_layer, hkeeps.rule_id_suffix⟩, fun _ => rfl⟩
      · rw [HashMap.get_nil] at h
        cases h
      · show 1 ≤ level + 1
        omega
      · show c.nested_count + 1 ≤ level + 1
        omega
    have hcall : ∀ depth, height (.Gate, gate_name_of target) < depth → ∃ alone left,
        evaluate env depth (gate_name_of target) .Gate { nested_count := 1 } =
          .ok .Recognized alone ∧
        evaluate env d (gate_name_of target) .Gate (take_exposures prepped) =
          .ok .Recognized left ∧
        Decides env S height { w with exposures := True } level
          (kind_of env inner (.Gate, gate_name_of target)) false b alone left := by
      intro depth hdepth
      obtain ⟨recognition, alone, left, halone, hleft, hends⟩ :=
        hagree depth d (level + 1) { w with exposures := True } false b hdepth hd hlevel
          ⟨hfits.layers, hfits.groups⟩ nofun (fun ⟨_, hbandit, _⟩ => by cases hbandit) _ _ halike
      have hknown := hends.present hpresent
      subst hknown
      exact ⟨alone, left, halone, hleft, hends.decided rfl⟩
    obtain ⟨alone, left, -, hleft, hdecides⟩ := hcall _ hd
    have hremembers : Remembers env height (gate_name_of target)
        (left.result.bool_value, left.result.rule_id, left.result.secondary_exposures) := by
      intro depth hdepth
      obtain ⟨alone, left', halone, hleft', hsame⟩ := hcall depth hdepth
      rw [hleft] at hleft'
      cases hleft'
      refine ⟨alone, halone, ?_⟩
      rw [hsame.bool_value, hsame.rule_id, hsame.exposures trivial]
    obtain ⟨-, hkept⟩ := hdecides.kept hinner
    dsimp only
    rw [bind_apply, hprep]
    simp only [andThen_ok, state_bind, update_bind]
    rw [bind_apply, hleft]
    simp only [andThen_ok, state_bind]
    rw [if_neg (by rw [hdecides.second.supported]; decide)]
    obtain ⟨seen, hrecord⟩ := record_nested_gate_eq (gate_name_of target) ty
      (memoize_nested_gate (gate_name_of target) prepped.result.secondary_exposures left)
    show Outcome.Meets (.ok () (record_nested_gate _ ty (memoize_nested_gate _ _ left))) _ _ _
    rw [hrecord]
    refine ⟨⟨⟨fun gate entry hgate h => ?_, hdecides.second.targeting, hdecides.second.overrides⟩,
      hdecides.second.count, hdecides.second.supported⟩,
      ⟨hkept.group_name, hkept.is_in_layer, hkept.rule_id_suffix⟩, _, hremembers, rfl, ?_⟩
    · have hget : (memoize_nested_gate (gate_name_of target) prepped.result.secondary_exposures
          left).nested_gate_memo.get gate = some entry := h
      unfold memoize_nested_gate at hget
      dsimp only at hget
      split at hget
      · exact hdecides.second.memo gate entry hgate hget
      · rw [HashMap.get_insert] at hget
        split at hget
        · rename_i hsame
          rw [hsame, ← Option.some.inj hget]
          exact hremembers
        · exact hdecides.second.memo gate entry hgate hget
    · show (c.result.secondary_exposures ++ left.result.secondary_exposures) ++ _ = _
      rw [List.append_assoc]
      rfl

end Gates

/-! ## Rules -/

/-- What the two calls for a node rely on. -/
structure AgreeingCalls (env : EvaluatorEnv) (S inner : Set Node) (height : Node → Nat)
    (node : Node) (level d d' : Nat) : Prop where
  regular : Regular env S inner height
  mem : node ∈ S
  agree : ∀ b, Refers env node b → Agreeing env S inner height b
  below : ∀ b, Refers env node b → height b < d ∧ height b < d'
  room : ∀ b, Refers env node b → level + 1 + height b ≤ MAX_RECURSIVE_DEPTH

section Rules

variable {env : EvaluatorEnv} {S inner : Set Node} {height : Node → Nat} {node : Node}
  {w : Watch} {level d d' : Nat} {b₁ b₂ : Bool}

theorem evaluate_nested_gate_agrees (calls : AgreeingCalls env S inner height node level d d')
    (hfits : Fits env inner w) {rule : Rule} (hrule : RuleOf env node rule)
    {target : MemoizedEvaluatorValue}
    (hgate : GateCondition env rule.conditions (gate_name_of target)) (ty : ConditionType) :
    Agree (Alike env S height w level b₁ b₂) (evaluate_nested_gate (evaluate env d) target ty)
      (evaluate_nested_gate (evaluate env d') target ty)
      (fun _ s t => Alike env S height w level b₁ b₂ s t ∧
        s.result.bool_value = t.result.bool_value) := by
  intro s t halike
  have hnests : Nests env node (.Gate, gate_name_of target) := .gate hrule hgate
  have hrefers : Refers env node (.Gate, gate_name_of target) := .inl hnests
  have hpresent := calls.regular.gates node calls.mem _ hnests
  have hinner := calls.regular.inner_gates node calls.mem rule hrule _ hgate
  obtain ⟨hmem, -⟩ := calls.regular.refers node calls.mem _ hrefers
  obtain ⟨hd, hd'⟩ := calls.below _ hrefers
  obtain ⟨⟨⟩, s', hrun, hcalm, hkeeps, entry, hentry⟩ := (evaluate_nested_gate_replays ty
    (calls.agree _ hrefers) hmem hinner hpresent hd (calls.room _ hrefers) hfits _ s
    ⟨halike.first, halike.keeps_first, rfl⟩).gives
  obtain ⟨⟨⟩, t', hrun', hcalm', hkeeps', entry', hentry'⟩ := (evaluate_nested_gate_replays ty
    (calls.agree _ hrefers) hmem hinner hpresent hd' (calls.room _ hrefers) hfits _ t
    ⟨halike.second, halike.keeps_second, rfl⟩).gives
  obtain rfl := hentry.remembers.unique hentry'.remembers
  refine ⟨(), s', t', hrun, hrun', ⟨hcalm, hcalm', hkeeps, hkeeps', fun hw => ?_⟩, ?_⟩
  · rw [hentry.exposures, hentry'.exposures, halike.exposures hw]
  · rw [hentry.bool_value, hentry'.bool_value]

/-- A condition that is neither on a gate nor on a group. -/
theorem leaf_of_supported {condition : Condition} (h : is_supported env condition = true)
    (hpass : type_of condition ≠ .PassGate) (hfail : type_of condition ≠ .FailGate)
    (hgroup : type_of condition ≠ .ExperimentGroup) :
    ∃ b, leaf_outcome env condition = some b := by
  unfold is_supported at h
  unfold leaf_outcome
  cases hty : type_of condition
  case Public => exact ⟨true, rfl⟩
  case PassGate => exact absurd hty hpass
  case FailGate => exact absurd hty hfail
  case ExperimentGroup => exact absurd hty hgroup
  case Unknown => simp [hty] at h
  all_goals
    simp only [hty] at h
    exact Option.isSome_iff_exists.mp ((operator_outcome_isSome env condition _).trans h)

theorem answer_leaf_unwatched (condition : Condition) (b : Bool) :
    Unwatched (answer_leaf env condition b) :=
  ⟨fun _ => rfl, fun _ => rfl, fun _ => rfl, fun _ => rfl, fun _ => rfl, fun _ => rfl,
    fun _ => rfl, fun _ => rfl⟩

/-- The group is looked up in a context of its own. -/
theorem evaluate_experiment_group_agrees
    (calls : AgreeingCalls env S inner height node level d d') {rule : Rule}
    (hrule : RuleOf env node rule) {hash : InternedString} (hmem : hash ∈ rule.conditions)
    {condition : Condition} (hget : env.specs_data.condition_map.get hash = some condition)
    (hty : type_of condition = .ExperimentGroup)
    (hstatsig : env.statsig = true ∨ condition.field = none) :
    Agree (Alike env S height w level b₁ b₂)
      (evaluate_experiment_group env (evaluate env d) condition.field)
      (evaluate_experiment_group env (evaluate env d') condition.field)
      (fun _ => Alike env S height w level b₁ b₂) := by
  unfold evaluate_experiment_group
  cases hfield : condition.field with
  | none => exact agree_pure fun _ _ h => h
  | some field =>
    have hs : env.statsig = true := by
      rcases hstatsig with hs | hnone
      · exact hs
      · rw [hnone] at hfield
        cases hfield
    dsimp only
    rw [if_pos hs, if_pos hs]
    intro s t halike
    have hasks : AsksGroup env node (.Experiment, field.value) :=
      ⟨rfl, rule, hrule, hash, hmem, condition, field, hget, hty, hfield, rfl, hs⟩
    have hrefers : Refers env node (.Experiment, field.value) := .inr (.inl hasks)
    have hungrouped := calls.regular.asked_groups node calls.mem _ hasks
    have hroom := calls.room _ hrefers
    obtain ⟨hd, hd'⟩ := calls.below _ hrefers
    have hfresh : ∀ draws : Nat, Calm env S height 0 { draws } := by
      intro draws
      refine ⟨⟨fun gate entry _ h => ?_, rfl, rfl⟩, Nat.le_refl 0, rfl⟩
      rw [HashMap.get_nil] at h
      cases h
    obtain ⟨recognition, s', t', hrun, hrun', hends⟩ :=
      calls.agree _ hrefers d d' 0 ⟨False, True, False, False⟩ false false hd hd' (by omega)
        ⟨False.elim, fun _ => hungrouped⟩ nofun (fun _ => rfl) { draws := s.draws }
        { draws := t.draws }
        ⟨hfresh _, hfresh _, ⟨fun _ => rfl, fun _ => rfl, fun _ => rfl⟩,
          ⟨fun _ => rfl, fun _ => rfl, fun _ => rfl⟩,
          fun _ => rfl⟩
    have hgroup : s'.result.group_name = t'.result.group_name := by
      cases recognition with
      | Recognized => exact (hends.decided rfl).group_name trivial
      | Unrecognized =>
        obtain ⟨c₁, c₂, hunknown⟩ := hends.unknown rfl
        rw [hunknown.keeps_first.group_name trivial, hunknown.keeps_second.group_name trivial]
    refine ⟨s'.result.group_name, { s with draws := s'.draws }, { t with draws := t'.draws },
      ?_, ?_, ⟨halike.first.with_result halike.first.supported,
        halike.second.with_result halike.second.supported,
        halike.keeps_first, halike.keeps_second, halike.exposures⟩⟩
    · unfold get_experiment_group_name
      rw [hrun]
    · unfold get_experiment_group_name
      rw [hrun', hgroup]

theorem evaluate_condition_agrees (calls : AgreeingCalls env S inner height node level d d')
    (hfits : Fits env inner w) {rule : Rule} (hrule : RuleOf env node rule)
    {hash : InternedString} (hmem : hash ∈ rule.conditions) {condition : Condition}
    (hget : env.specs_data.condition_map.get hash = some condition) :
    Agree (Alike env S height w level b₁ b₂) (evaluate_condition env (evaluate env d) condition)
      (evaluate_condition env (evaluate env d') condition)
      (fun _ s t => Alike env S height w level b₁ b₂ s t ∧
        s.result.bool_value = t.result.bool_value) := by
  obtain ⟨condition', hget', hsupported⟩ :=
    calls.regular.supported node calls.mem rule hrule hash hmem
  obtain rfl : condition' = condition := Option.some.inj (hget'.symm.trans hget)
  by_cases hpass : type_of condition' = .PassGate
  · unfold evaluate_condition
    rw [hpass]
    exact evaluate_nested_gate_agrees calls hfits hrule
      ⟨hash, hmem, condition', hget, .inl hpass, rfl⟩ _
  by_cases hfail : type_of condition' = .FailGate
  · unfold evaluate_condition
    rw [hfail]
    exact evaluate_nested_gate_agrees calls hfits hrule
      ⟨hash, hmem, condition', hget, .inr hfail, rfl⟩ _
  by_cases hgroup : type_of condition' = .ExperimentGroup
  · have hs := hsupported
    unfold is_supported at hs
    simp only [hgroup, Bool.and_eq_true, Bool.or_eq_true, Option.isNone_iff_eq_none] at hs
    unfold evaluate_condition
    rw [hgroup]
    refine Agree.bind (evaluate_experiment_group_agrees calls hrule hmem hget hgroup hs.1)
      fun group => ?_
    obtain ⟨b, hb⟩ := Option.isSome_iff_exists.mp
      ((operator_outcome_isSome env condition' (group.map env.parsers.from_string)).trans hs.2)
    have happly : apply_operator env condition' (group.map env.parsers.from_string) =
        fun c => c.set_bool b := by
      funext c
      unfold apply_operator
      rw [hb]
    rw [happly]
    exact agree_update fun s t halike =>
      ⟨halike.update (unwatched_set_bool b) fun _ => rfl, rfl⟩
  · obtain ⟨b, hb⟩ := leaf_of_supported hsupported hpass hfail hgroup
    rw [evaluate_condition_leaf _ hb, evaluate_condition_leaf _ hb]
    exact agree_update fun s t halike =>
      ⟨halike.update (answer_leaf_unwatched condition' b) fun _ => rfl, rfl⟩

theorem evaluate_rule_agrees (calls : AgreeingCalls env S inner height node level d d')
    (hfits : Fits env inner w) {rule : Rule} (hrule : RuleOf env node rule) :
    Agree (Alike env S height w level b₁ b₂) (evaluate_rule env (evaluate env d) rule)
      (evaluate_rule env (evaluate env d') rule)
      (fun _ s t => Alike env S height w level b₁ b₂ s t ∧
        s.result.bool_value = t.result.bool_value) := by
  have hall : ∀ hashes, (∀ hash ∈ hashes, hash ∈ rule.conditions) → ∀ all,
      Agree (Alike env S height w level b₁ b₂) (evaluate_conditions env (evaluate env d) hashes all)
        (evaluate_conditions env (evaluate env d') hashes all)
        (fun _ s t => Alike env S height w level b₁ b₂ s t ∧
          s.result.bool_value = t.result.bool_value) := by
    intro hashes
    induction hashes with
    | nil =>
      intro _ all
      exact agree_update fun s t halike =>
        ⟨halike.update (unwatched_set_bool all) fun _ => rfl, rfl⟩
    | cons hash hashes ih =>
      intro hsub all
      have hmem := hsub hash List.mem_cons_self
      obtain ⟨condition, hget, -⟩ :=
        calls.regular.supported node calls.mem rule hrule hash hmem
      unfold evaluate_conditions
      rw [hget]
      refine Agree.bind (evaluate_condition_agrees calls hfits hrule hmem hget) fun _ => ?_
      refine agree_state_any fun s t hst => ?_
      rw [hst.2]
      exact (ih (fun other hother => hsub other (List.mem_cons_of_mem hash hother)) _).pre
        fun _ _ h => h.1
  exact hall rule.conditions (fun _ h => h) true

end Rules

end statsig_rust.evaluation
