-- The targeting gate of the session replay. The later formats evaluate it before the specs.
-- The first format evaluates it after them, in the context and on the result that they leave.
import StatsigCore.ClientInit.VisitOrder

open program Relation

namespace statsig_rust.gcir

open evaluation

/-! ## The gate alone -/

/-- The value of a gate in a fresh context, or false on an error. -/
def gate_alone (env : EvaluatorEnv) (depth : Nat) (gate : String) : Bool :=
  match evaluate env depth gate .Gate {} with
  | .ok _ ctx => ctx.result.bool_value
  | _ => false

/-- A local override decides the gate, whatever the result was. -/
def Overridden (env : EvaluatorEnv) (gate : String) : Prop :=
  ∃ value, ∀ ctx, ∃ ctx', ctx'.result.bool_value = value ∧
    try_apply_override env gate .Gate (spec_of env (.Gate, gate)) ctx = .ok true ctx'

/-- The specs do not hold the gate, and nothing stands in for it. -/
structure Absent (env : EvaluatorEnv) (gate : String) : Prop where
  missing : spec_of env (.Gate, gate) = none
  untouched : Untouched env (.Gate, gate)
  unmapped : ¬ Mapped env (.Gate, gate)

/-- The rules decide the gate, by what they ask for. -/
structure DecidedByRules (env : EvaluatorEnv) (gate : String) : Prop
    extends Grounded env {(.Gate, gate)} where
  present : spec_of env (.Gate, gate) ≠ none
  untouched : ∀ a ∈ reached env {(.Gate, gate)}, Untouched env a

/-- What is left in a context does not reach the gate: the mark is down, there is room for
its references, and the memo is right about the gates among them. -/
structure Undisturbed (env : EvaluatorEnv) (gate : String) (ctx : EvaluatorContext) : Prop where
  supported : ctx.result.unsupported = false
  room : ∃ height : Node → Nat, ctx.nested_count + height (.Gate, gate) ≤ MAX_RECURSIVE_DEPTH ∧
    ∀ a ∈ reached env {(.Gate, gate)}, height a < MAX_RECURSIVE_DEPTH ∧
      ∀ b, Refers env a b → height b < height a
  memo : ∀ other entry, (.Gate, other) ∈ reached env {(.Gate, gate)} →
    ctx.nested_gate_memo.get other = some entry → ∃ inner,
      evaluate env MAX_RECURSIVE_DEPTH other .Gate { nested_count := 1 } =
        .ok .Recognized inner ∧
      entry = (inner.result.bool_value, inner.result.rule_id, inner.result.secondary_exposures)

/-- All rules are evaluated. -/
structure Unfiltered (ctx : EvaluatorContext) : Prop where
  targeting : ctx.only_evaluate_targeting = false
  overrides : ctx.only_evaluate_overrides = false

section Gate

variable {env : EvaluatorEnv} {S inner : Set Node} {height : Node → Nat} {depth level : Nat}
  {gate : String} {c : EvaluatorContext}

theorem gate_alone_of_run {recognition : Recognition}
    (h : evaluate env depth gate .Gate {} = .ok recognition c) :
    gate_alone env depth gate = c.result.bool_value := by
  unfold gate_alone
  rw [h]

/-- A gate of a regular set has its own value in every calm context. -/
theorem regular_gate_value (h : Regular env S inner height) (hgate : (.Gate, gate) ∈ S)
    (hpresent : spec_of env (.Gate, gate) ≠ none) (hdepth : MAX_RECURSIVE_DEPTH ≤ depth)
    (hcalm : Calm env S height level c)
    (hroom : level + height (.Gate, gate) ≤ MAX_RECURSIVE_DEPTH) :
    ∃ c', evaluate env depth gate .Gate c = .ok .Recognized c' ∧
      c'.result.bool_value = gate_alone env depth gate := by
  have hheight := h.short _ hgate
  have hfresh : Calm env S height level {} := by
    refine ⟨⟨fun other entry _ hget => ?_, rfl, rfl⟩, Nat.zero_le level, rfl⟩
    rw [HashMap.get_nil] at hget
    cases hget
  obtain ⟨recognition, c', alone, hrun, halone, hends⟩ :=
    agreeing_of_regular h hgate depth depth level ⟨False, False, False, False⟩ false false
      (by omega) (by omega) hroom ⟨False.elim, False.elim⟩ nofun
      (fun ⟨_, hbandit, _⟩ => by cases hbandit) c {}
      ⟨hcalm, hfresh, ⟨False.elim, False.elim, False.elim⟩,
        ⟨False.elim, False.elim, False.elim⟩, False.elim⟩
  have hknown := hends.present hpresent
  subst hknown
  refine ⟨c', hrun, ?_⟩
  rw [gate_alone_of_run halone]
  exact (hends.decided rfl).bool_value

/-- What the memo holds of a gate is right at every depth, if it is at one. -/
theorem remembers_of_run (h : Regular env S inner height) {other : String}
    (hother : (.Gate, other) ∈ S) {alone : EvaluatorContext}
    (halone : evaluate env MAX_RECURSIVE_DEPTH other .Gate { nested_count := 1 } =
      .ok .Recognized alone) :
    Remembers env height other
      (alone.result.bool_value, alone.result.rule_id, alone.result.secondary_exposures) := by
  intro depth hdepth
  have hheight := h.short _ hother
  have hfresh : Calm env S height 1 { nested_count := 1 } := by
    refine ⟨⟨fun gate entry _ hget => ?_, rfl, rfl⟩, Nat.le_refl 1, rfl⟩
    rw [HashMap.get_nil] at hget
    cases hget
  obtain ⟨recognition, c, c', hrun, hrun', hends⟩ :=
    agreeing_of_regular h hother MAX_RECURSIVE_DEPTH depth 1 ⟨True, False, False, False⟩ false
      false hheight hdepth (by omega) ⟨False.elim, False.elim⟩ nofun
      (fun ⟨_, hbandit, _⟩ => by cases hbandit) _ _
      ⟨hfresh, hfresh, ⟨False.elim, False.elim, False.elim⟩,
        ⟨False.elim, False.elim, False.elim⟩, fun _ => rfl⟩
  rw [halone] at hrun
  cases hrun
  have hdecides := hends.decided rfl
  exact ⟨c', hrun', by rw [hdecides.bool_value, hdecides.rule_id, hdecides.exposures trivial]⟩

/-- An undisturbed gate has its own value. -/
theorem undisturbed_gate_value (hstatsig : env.statsig = false) (h : DecidedByRules env gate)
    (hdepth : MAX_RECURSIVE_DEPTH ≤ depth) (hc : Unfiltered c) (hctx : Undisturbed env gate c) :
    ∃ c', evaluate env depth gate .Gate c = .ok .Recognized c' ∧
      c'.result.bool_value = gate_alone env depth gate := by
  obtain ⟨height, hroom, hheight⟩ := hctx.room
  have hregular := h.regular_at h.untouched hstatsig (by rintro a rfl; exact nofun) hheight
  refine regular_gate_value hregular (reached_of_visited rfl) h.present hdepth
    ⟨⟨fun other entry hother hget => ?_, hc.targeting, hc.overrides⟩, Nat.le_refl _,
      hctx.supported⟩ hroom
  obtain ⟨inner, halone, rfl⟩ := hctx.memo other entry hother hget
  exact remembers_of_run hregular hother halone

theorem overridden_gate_value (h : Overridden env gate) (hdepth : 0 < depth)
    (hc : Unfiltered c) :
    ∃ c', evaluate env depth gate .Gate c = .ok .Recognized c' ∧
      c'.result.bool_value = gate_alone env depth gate := by
  obtain ⟨value, hvalue⟩ := h
  obtain ⟨k, rfl⟩ : ∃ k, depth = k + 1 := ⟨depth - 1, by omega⟩
  have hrun : ∀ c, Unfiltered c → ∃ c', evaluate env (k + 1) gate .Gate c = .ok .Recognized c' ∧
      c'.result.bool_value = value := by
    intro c hc
    obtain ⟨c', hbool, happly⟩ := hvalue c
    refine ⟨c', ?_, hbool⟩
    unfold evaluate evaluate_with
    have hgate : SpecType.Gate ≠ .ParameterStore := SpecType.noConfusion
    rw [if_neg hgate, state_bind, hc.targeting, hc.overrides]
    simp only [Bool.or_false, Bool.and_false, Bool.false_eq_true, ↓reduceIte]
    change (try_apply_override env gate .Gate (spec_of env (.Gate, gate)) >>= _) c = _
    rw [bind_apply, happly]
    rfl
  obtain ⟨c', hout, hbool⟩ := hrun c hc
  obtain ⟨alone, halone, hvalue'⟩ := hrun {} ⟨rfl, rfl⟩
  refine ⟨c', hout, ?_⟩
  rw [gate_alone_of_run halone, hbool, hvalue']

/-- A gate that is not there has the value that is in the context. -/
theorem absent_gate_value (h : Absent env gate) (hdepth : 0 < depth) (c : EvaluatorContext) :
    evaluate env depth gate .Gate c = .ok .Unrecognized c := by
  obtain ⟨k, rfl⟩ : ∃ k, depth = k + 1 := ⟨depth - 1, by omega⟩
  have hgate : ((.Gate, gate) : Node).1 ≠ .ParameterStore := SpecType.noConfusion
  have hspec := evaluate_with_spec (evaluate env k) hgate
    h.untouched h.unmapped (by rintro cmab ⟨hty, _⟩; cases hty)
  unfold evaluate
  rw [hspec, h.missing]
  rfl

theorem absent_gate_alone (h : Absent env gate) (hdepth : 0 < depth) :
    gate_alone env depth gate = false :=
  gate_alone_of_run (absent_gate_value h hdepth {})

end Gate

/-! ## The first format in steps -/

/-- What the first format makes before the session replay. -/
structure FirstParts where
  feature_gates : HashMap String GateEvaluation
  dynamic_configs : HashMap String AnyConfigEvaluation
  layer_configs : HashMap String LayerEvaluation
  param_stores : SerializeableParamStore

section

variable (env : EvaluatorEnv) (depth : Nat) (hasher : Hasher) (orders : MapOrders)
  (options : ClientInitResponseOptions) (specs : specs_response.SpecsResponseFull)

def before_session_replay : Gcir FirstParts := do
  let feature_gates ← get_gate_evaluations env depth hasher orders options specs
  let dynamic_configs ← get_dynamic_config_evaluations env depth hasher orders options specs
  let layer_configs ← get_layer_evaluations env depth hasher orders options specs
  let param_stores ← get_serializeable_param_stores env hasher orders options specs
  pure { feature_gates, dynamic_configs, layer_configs, param_stores }

/-- The response of the first format, from its parts and the hashes of them. -/
def first_response (parts : FirstParts) (session_replay_info : GCIRSessionReplayInfo)
    (gcir_hashes : List Nat) : InitializeResponse :=
  if options.previous_response_hash = some (full_response_hash hasher gcir_hashes) then
    InitializeResponse.blank_without_user
  else {
    feature_gates := parts.feature_gates
    dynamic_configs := parts.dynamic_configs
    layer_configs := parts.layer_configs
    time := specs.time
    has_updates := true
    hash_used := options.get_hash_algorithm.to_string
    evaluated_keys := EvaluatedKeys.from_user env.user.data
    param_stores := parts.param_stores
    session_replay_info
    full_checksum :=
      options.previous_response_hash.map fun _ => full_response_hash hasher gcir_hashes }

theorem generate_v1_format_eq : generate_v1_format env depth hasher orders options specs = (do
    let parts ← before_session_replay env depth hasher orders options specs
    let info ← get_session_replay_info env depth hasher orders options specs
    let ctx ← state
    pure (first_response env hasher options specs parts info ctx.gcir_hashes)) := by
  unfold generate_v1_format before_session_replay first_response
  simp only [bind_bind, pure_bind_eq]
  refine bind_congr fun gates => bind_congr fun configs => bind_congr fun layers =>
    bind_congr fun param_stores => bind_congr fun info => bind_congr fun ctx => ?_
  split
  · rfl
  · rfl

end

section

variable {env : EvaluatorEnv} {S inner : Set Node} {height : Node → Nat} {depth : Nat}
  {hasher : Hasher} {orders : MapOrders} {options : ClientInitResponseOptions}
  {specs : specs_response.SpecsResponseFull} {gate : String}

/-- The parameter stores add a hash, and change nothing else. -/
theorem param_stores_run (env : EvaluatorEnv) (options : ClientInitResponseOptions)
    (specs : specs_response.SpecsResponseFull) (hasher : Hasher) (orders : MapOrders)
    (s : GcirContext) :
    ∃ param_stores gcir_hashes,
      get_serializeable_param_stores env hasher orders options specs s =
        .ok param_stores { s with gcir_hashes } := by
  unfold get_serializeable_param_stores
  cases specs.param_stores with
  | none =>
    by_cases hprevious : options.previous_response_hash.isSome
    · rw [if_pos hprevious]
      exact ⟨_, _, rfl⟩
    · rw [if_neg hprevious]
      exact ⟨_, s.gcir_hashes, rfl⟩
  | some stores =>
    by_cases hprevious : options.previous_response_hash.isSome
    · simp only [if_pos hprevious]
      exact ⟨_, _, rfl⟩
    · simp only [if_neg hprevious]
      exact ⟨_, s.gcir_hashes, rfl⟩

/-- The first format gets to the session replay, in a context that still serves. -/
theorem before_session_replay_serves (h : Uniform env S height depth options)
    (hview : env.specs_data = evaluator_view specs) (hvisited : visited env options specs ⊆ S)
    (horders : orders.Fits specs) (hasher : Hasher) {s : GcirContext}
    (hs : Serves env S height options s) :
    ∃ parts s', before_session_replay env depth hasher orders options specs s = .ok parts s' ∧
      Serves env S height options s' := by
  obtain ⟨hgate, hconfig, hlayer⟩ := visited_present options hview
  obtain ⟨gates, s₁, hrun₁, hs₁, -⟩ := gcir_process_iter_evals (gate_factory_faithful options) h
    (fun node hnode => ⟨hvisited (.inl hnode), hgate node hnode⟩) hasher orders
    orders.feature_gates hs
  obtain ⟨configs, s₂, hrun₂, hs₂, -⟩ := gcir_process_iter_evals
    (config_factory_faithful options) h
    (fun node hnode => ⟨hvisited (.inr (.inl hnode)), hconfig node hnode⟩) hasher orders
    orders.dynamic_configs hs₁
  obtain ⟨results, s₃, hrun₃, hs₃⟩ := add_cmab_evaluations_serves h
    (fun node hnode => hvisited (.inr (.inr (.inr hnode)))) horders.cmab_configs
    (collect_results env options configs) hs₂
  obtain ⟨layers, s₄, hrun₄, hs₄, -⟩ := gcir_process_iter_evals
    (layer_factory_faithful env options) h
    (fun node hnode => ⟨hvisited (.inr (.inr (.inl hnode))), hlayer node hnode⟩) hasher orders
    orders.layer_configs hs₃
  obtain ⟨param_stores, gcir_hashes, hrun₅⟩ :=
    param_stores_run env options specs hasher orders s₄
  refine ⟨⟨collect_results env options gates, results, collect_results env options layers,
    param_stores⟩, { s₄ with gcir_hashes }, ?_, ⟨hs₄.calm, hs₄.hashes⟩⟩
  unfold before_session_replay get_gate_evaluations get_dynamic_config_evaluations
    get_config_spec_evaluations get_layer_evaluations
  rw [bind_apply, hrun₁]
  simp only [andThen_ok, bind_bind]
  rw [bind_apply, hrun₂]
  simp only [andThen_ok]
  rw [bind_apply, hrun₃]
  simp only [andThen_ok]
  rw [bind_apply, hrun₄]
  simp only [andThen_ok]
  rw [bind_apply, hrun₅]
  rfl

/-! ## The rule filter of a response -/

/-- A run over the specs that keeps the rule filter of the context, however it ends. -/
def KeepsFilter {α : Type} (x : Gcir α) : Prop :=
  ∀ filter, Triple (fun c => filter_of c.evaluator = filter) x
    (fun _ c => filter_of c.evaluator = filter) (fun _ c => filter_of c.evaluator = filter) True

/-- What a run of the evaluator keeps, a response keeps across it. -/
theorem evaluator_call_maintains {I : EvaluatorContext → Prop} {x : Eval Recognition}
    (hx : Maintains I x) :
    Triple (fun c => I c.evaluator) (evaluator_call x) (fun _ c => I c.evaluator)
      (fun _ c => I c.evaluator) True := by
  intro ctx hctx
  have hmeets := hx ctx.evaluator hctx
  unfold evaluator_call
  cases hrun : x ctx.evaluator with
  | ok a c =>
    rw [hrun] at hmeets
    exact hmeets
  | err e c =>
    rw [hrun] at hmeets
    exact hmeets
  | deep => trivial

section Filter

variable {α β T : Type} {env : EvaluatorEnv} {options : ClientInitResponseOptions}

theorem keeps_filter_pure (a : α) : KeepsFilter (pure a : Gcir α) :=
  fun _ => triple_pure fun _ h => h

theorem keeps_filter_update {g : GcirContext → GcirContext}
    (h : ∀ c, filter_of (g c).evaluator = filter_of c.evaluator) :
    KeepsFilter (update g : Gcir Unit) :=
  fun _ => triple_update fun c hc => (h c).trans hc

theorem KeepsFilter.bind {x : Gcir α} {f : α → Gcir β} (hx : KeepsFilter x)
    (hf : ∀ a, KeepsFilter (f a)) : KeepsFilter (x >>= f) :=
  fun filter => Triple.bind (hx filter) fun a => hf a filter

theorem evaluate_keeps_filter (depth : Nat) (name : String) (ty : SpecType) :
    KeepsFilter (evaluator_call (evaluate env depth name ty)) :=
  fun filter =>
    evaluator_call_maintains (evaluate_maintains (filter_stable env filter) depth name ty)

theorem reset_keeps_filter : KeepsFilter
    (update fun ctx => { ctx with evaluator := ctx.evaluator.reset_result } : Gcir Unit) :=
  keeps_filter_update fun _ => rfl

theorem hash_secondary_exposures_keeps_filter (hashing : HashUtil)
    (hash_algorithm : HashAlgorithm) :
    KeepsFilter (update (hash_secondary_exposures hashing hash_algorithm) : Gcir Unit) := by
  refine keeps_filter_update fun c => ?_
  unfold hash_secondary_exposures
  dsimp only
  split
  · rfl
  · rfl

theorem run_factory_keeps_filter (evaluation_factory : EvaluationFactory T)
    (entity : InternedString) (hashed_name : String) :
    KeepsFilter (run_factory evaluation_factory entity hashed_name) :=
  fun _ _ h => h

theorem process_spec_keeps_filter (depth : Nat) (get_spec_type : specs_response.Spec → SpecType)
    (evaluation_factory : EvaluationFactory T) (name : InternedString)
    (spec : specs_response.Spec) :
    KeepsFilter (process_spec env depth options get_spec_type evaluation_factory name spec) := by
  unfold process_spec
  refine reset_keeps_filter.bind fun _ => (evaluate_keeps_filter _ _ _).bind fun _ => ?_
  refine fun filter => triple_state_any fun ctx => ?_
  split
  · exact keeps_filter_pure _ filter
  · split
    · exact keeps_filter_pure _ filter
    · exact (hash_secondary_exposures_keeps_filter _ _).bind
        (fun _ => (run_factory_keeps_filter _ _ _).bind fun _ => keeps_filter_pure _) filter

theorem process_keys_keeps_filter (depth : Nat) (get_spec_type : specs_response.Spec → SpecType)
    (evaluation_factory : EvaluationFactory T)
    (specs_map : HashMap InternedString specs_response.Spec) (keys : List InternedString) :
    KeepsFilter
      (process_keys env depth options get_spec_type evaluation_factory specs_map keys) := by
  induction keys with
  | nil => exact keeps_filter_pure _
  | cons name names ih =>
    unfold process_keys
    split
    · exact ih
    · split
      · exact ih
      · exact (process_spec_keeps_filter _ _ _ _ _).bind fun _ =>
          ih.bind fun _ => keeps_filter_pure _

theorem gcir_process_iter_keeps_filter [GCIRHashable T] (depth : Nat)
    (get_spec_type : specs_response.Spec → SpecType) (evaluation_factory : EvaluationFactory T)
    (hasher : Hasher) (orders : MapOrders)
    (specs_map : HashMap InternedString specs_response.Spec) (keys : List InternedString) :
    KeepsFilter (gcir_process_iter env depth options get_spec_type evaluation_factory hasher orders
      specs_map keys) := by
  unfold gcir_process_iter
  refine (process_keys_keeps_filter _ _ _ _ _).bind fun evals => ?_
  split
  · exact KeepsFilter.bind (keeps_filter_update fun _ => rfl) fun _ => keeps_filter_pure _
  · exact keeps_filter_pure _

theorem process_cmabs_keeps_filter (depth : Nat)
    (cmab_configs : HashMap String specs_response.CMABConfig) (names : List String)
    (result : HashMap String AnyConfigEvaluation) :
    KeepsFilter (process_cmabs env depth options cmab_configs names result) := by
  induction names generalizing result with
  | nil => exact keeps_filter_pure _
  | cons name names ih =>
    unfold process_cmabs
    split
    · exact ih result
    · refine KeepsFilter.bind ?_ fun eval => ih _
      unfold process_cmab
      refine reset_keeps_filter.bind fun _ => KeepsFilter.bind ?_ fun _ => ?_
      · exact fun filter => Triple.attempt (evaluate_keeps_filter depth name .Experiment filter)
      · exact (hash_secondary_exposures_keeps_filter _ _).bind fun _ =>
          run_factory_keeps_filter _ _ _

/-- No spec of a response changes the rule filter. -/
theorem before_session_replay_keeps_filter (depth : Nat) (hasher : Hasher) (orders : MapOrders)
    (specs : specs_response.SpecsResponseFull) :
    KeepsFilter (before_session_replay env depth hasher orders options specs) := by
  have hcmabs : ∀ result, KeepsFilter
      (add_cmab_evaluations env depth orders options specs result) := by
    intro result
    unfold add_cmab_evaluations
    split
    · exact keeps_filter_pure _
    · exact process_cmabs_keeps_filter _ _ _ _
  have hstores : KeepsFilter
      (get_serializeable_param_stores env hasher orders options specs) := by
    intro filter ctx hctx
    obtain ⟨_, _, hrun⟩ := param_stores_run env options specs hasher orders ctx
    rw [hrun]
    exact hctx
  unfold before_session_replay get_gate_evaluations get_dynamic_config_evaluations
    get_config_spec_evaluations get_layer_evaluations
  refine (gcir_process_iter_keeps_filter _ _ _ _ _ _ _).bind fun _ => ?_
  refine ((gcir_process_iter_keeps_filter _ _ _ _ _ _ _).bind hcmabs).bind fun _ => ?_
  refine (gcir_process_iter_keeps_filter _ _ _ _ _ _ _).bind fun _ => ?_
  exact hstores.bind fun _ => keeps_filter_pure _

/-- In a response, all rules are evaluated. -/
theorem before_session_replay_unfiltered {depth : Nat} {hasher : Hasher} {orders : MapOrders}
    {specs : specs_response.SpecsResponseFull} {parts : FirstParts} {ctx : GcirContext}
    (h : before_session_replay env depth hasher orders options specs {} = .ok parts ctx) :
    Unfiltered ctx.evaluator := by
  have hmeets := @before_session_replay_keeps_filter env options depth hasher orders specs
    (false, false) {} rfl
  rw [h] at hmeets
  exact ⟨congrArg Prod.fst hmeets, congrArg Prod.snd hmeets⟩

end Filter

/-! ## The targeting of the session replay -/

theorem get_session_targeting_of_run {recognition : Recognition} {ctx : GcirContext}
    {c : EvaluatorContext}
    (h : evaluate env depth gate .Gate ctx.evaluator = .ok recognition c) :
    get_session_targeting env depth (some gate) ctx =
      .ok (some c.result.bool_value) { ctx with evaluator := c } := by
  have hcall : attempt (evaluator_call (evaluate env depth gate .Gate)) ctx =
      .ok (.ok recognition) { ctx with evaluator := c } := by
    unfold attempt evaluator_call
    rw [h]
  unfold get_session_targeting
  dsimp only
  rw [bind_apply, hcall]
  rfl

/-- In a fresh context the gate has its own value, and an error counts as false. -/
theorem get_session_targeting_fresh {ctx ctx' : GcirContext} {targeting : Option Bool}
    (hfresh : ctx.evaluator = {})
    (h : get_session_targeting env depth (some gate) ctx = .ok targeting ctx') :
    targeting = some (gate_alone env depth gate) := by
  cases hrun : evaluate env depth gate .Gate {} with
  | ok recognition c =>
    rw [get_session_targeting_of_run (hfresh ▸ hrun)] at h
    cases h
    rw [gate_alone_of_run hrun]
  | err e c =>
    have hcall : attempt (evaluator_call (evaluate env depth gate .Gate)) ctx =
        .ok (.error e) { ctx with evaluator := c } := by
      unfold attempt evaluator_call
      rw [hfresh, hrun]
    unfold get_session_targeting at h
    dsimp only at h
    rw [bind_apply, hcall] at h
    cases h
    unfold gate_alone
    rw [hrun]
  | deep =>
    have hcall : attempt (evaluator_call (evaluate env depth gate .Gate)) ctx = .deep := by
      unfold attempt evaluator_call
      rw [hfresh, hrun]
    unfold get_session_targeting at h
    dsimp only at h
    rw [bind_apply, hcall] at h
    cases h

/-- The session replay starts with its targeting gate. -/
theorem session_replay_targeting {data : specs_response.SessionReplayInfo}
    (hdata : specs.session_replay_info = some data) {ctx ctx' : GcirContext}
    {info : GCIRSessionReplayInfo}
    (h : get_session_replay_info env depth hasher orders options specs ctx = .ok info ctx') :
    ∃ s, get_session_targeting env depth data.targeting_gate ctx =
      .ok info.passes_session_recording_targeting s := by
  unfold get_session_replay_info at h
  rw [hdata] at h
  obtain ⟨targeting, s, htargeting, h⟩ := ok_of_bind h
  obtain ⟨random, s', -, h⟩ := ok_of_bind h
  refine ⟨s, ?_⟩
  dsimp only at h
  by_cases hprevious : options.previous_response_hash.isSome
  · rw [if_pos hprevious] at h
    cases h
    exact htargeting
  · rw [if_neg hprevious] at h
    cases h
    exact htargeting

/-- The targeting of a response is the value of the gate alone. -/
def TargetsAlone (env : EvaluatorEnv) (depth : Nat) (gate : String)
    (info : GCIRSessionReplayInfo) : Prop :=
  info.passes_session_recording_targeting = some (gate_alone env depth gate)

/-- The specs of the response and the targeting gate leave nothing in the context that one of
them can tell. -/
structure ReplaySafe (env : EvaluatorEnv) (options : ClientInitResponseOptions)
    (specs : specs_response.SpecsResponseFull) (gate : String) : Prop where
  memo : MemoSafe env (insert (.Gate, gate) (visited env options specs))
  layers : options.remove_experiments_in_layers.getD false = true →
    Unlayered env (asked env (insert (.Gate, gate) (visited env options specs)))
  untouched : ∀ a ∈ reached env (insert (.Gate, gate) (visited env options specs)),
    Untouched env a
  present : spec_of env (.Gate, gate) ≠ none

theorem ReplaySafe.decided (h : ReplaySafe env options specs gate) : DecidedByRules env gate :=
  have hsub : ∀ a ∈ reached env {(.Gate, gate)},
      a ∈ reached env (insert (.Gate, gate) (visited env options specs)) := by
    rintro a ⟨start, rfl, hpath⟩
    exact ⟨_, Set.mem_insert _ _, hpath⟩
  { short := by
      obtain ⟨height, hheight⟩ := h.memo.short
      exact ⟨height, fun a ha => hheight a (hsub a ha)⟩
    gates := fun a ha => h.memo.gates a (hsub a ha)
    supported := fun a ha => h.memo.supported a (hsub a ha)
    bandits := fun a ha => h.memo.bandits a (hsub a ha)
    nested_bandits := fun a ha => h.memo.nested_bandits a (hsub a ha)
    present := h.present
    untouched := fun a ha => h.untouched a (hsub a ha) }

/-- Specs that are safe leave the targeting gate undisturbed. -/
theorem ReplaySafe.undisturbed (h : ReplaySafe env options specs gate)
    (hstatsig : env.statsig = false) (hview : env.specs_data = evaluator_view specs)
    (hdepth : MAX_RECURSIVE_DEPTH ≤ depth) (horders : orders.Fits specs) (hasher : Hasher) :
    ∃ parts ctx, before_session_replay env depth hasher orders options specs {} = .ok parts ctx ∧
      Unfiltered ctx.evaluator ∧ Undisturbed env gate ctx.evaluator := by
  obtain ⟨height, hheight⟩ := h.memo.short
  have hregular := h.memo.regular_at h.untouched hstatsig (by
    rintro a (rfl | ha)
    · exact nofun
    · exact visited_types ha) hheight
  obtain ⟨parts, ctx, hrun, hs⟩ := before_session_replay_serves
    (uniform_of_regular hregular hdepth ⟨h.layers, fun _ => h.memo.groups⟩) hview
    (fun a ha => reached_of_visited (Set.mem_insert_of_mem _ ha)) horders hasher fresh_serves
  have hsub : ∀ a ∈ reached env {(.Gate, gate)},
      a ∈ reached env (insert (.Gate, gate) (visited env options specs)) := by
    rintro a ⟨start, rfl, hpath⟩
    exact ⟨_, Set.mem_insert _ _, hpath⟩
  have hcount := hs.calm.count
  have hgate := hheight (.Gate, gate) (reached_of_visited (Set.mem_insert _ _))
  refine ⟨parts, ctx, hrun, ⟨hs.calm.targeting, hs.calm.overrides⟩, hs.calm.supported,
    ⟨height, by omega, fun a ha => hheight a (hsub a ha)⟩, fun other entry hother hget => ?_⟩
  exact hs.calm.memo other entry (hsub _ hother) hget MAX_RECURSIVE_DEPTH
    (hheight _ (hsub _ hother)).1

end

/-- The later formats give the targeting gate its own value. The first format does so where
the specs before it leave the gate undisturbed, which all safe specs do; of a gate that is not
there it gives the value that the last spec left. -/
theorem session_targeting_is_the_gate_where_undisturbed (outside : EvaluatorEnv) (hasher : Hasher)
    (options : ClientInitResponseOptions) (specs : specs_response.SpecsResponseFull)
    (data : specs_response.SessionReplayInfo) (gate : String)
    (hdata : specs.session_replay_info = some data) (hgate : data.targeting_gate = some gate)
    (depth : Nat) (hdepth : MAX_RECURSIVE_DEPTH ≤ depth) :
    let env := create_gcir_eval_context outside specs options
    (∀ (Gates Configs Layers : Type) (get_gates : Gcir Gates) (get_configs : Gcir Configs)
      (get_layers : Gcir Layers) orders response ctx,
      generate_later_format env depth hasher orders options specs get_gates get_configs get_layers
        {} = .ok response ctx → TargetsAlone env depth gate response.session_replay_info) ∧
    (∀ orders parts ctx response ctx',
      before_session_replay env depth hasher orders options specs {} = .ok parts ctx →
      generate_v1_format env depth hasher orders options specs {} = .ok response ctx' →
      response.has_updates = true →
      (Overridden env gate ∨
        (DecidedByRules env gate ∧ Undisturbed env gate ctx.evaluator) →
          TargetsAlone env depth gate response.session_replay_info) ∧
      (Absent env gate → (TargetsAlone env depth gate response.session_replay_info ↔
        ctx.evaluator.result.bool_value = false))) ∧
    (ReplaySafe env options specs gate → DecidedByRules env gate ∧
      ∀ orders, orders.Fits specs → ∃ parts ctx,
        before_session_replay env depth hasher orders options specs {} = .ok parts ctx ∧
        Unfiltered ctx.evaluator ∧ Undisturbed env gate ctx.evaluator) := by
  intro env
  have hpositive : 0 < depth := lt_of_lt_of_le (by decide) hdepth
  refine ⟨?_, ?_, fun h => ⟨h.decided, fun orders horders =>
    h.undisturbed rfl rfl hdepth horders hasher⟩⟩
  · intro Gates Configs Layers get_gates get_configs get_layers orders response ctx hrun
    obtain ⟨param_stores, s, hstores, hrun⟩ := ok_of_bind hrun
    obtain ⟨_, gcir_hashes, hstores'⟩ :=
      param_stores_run env options specs hasher orders {}
    rw [hstores] at hstores'
    cases hstores'
    obtain ⟨info, s, hinfo, hrun⟩ := ok_of_bind hrun
    obtain ⟨_, _, -, hrun⟩ := ok_of_bind hrun
    obtain ⟨_, _, -, hrun⟩ := ok_of_bind hrun
    obtain ⟨_, _, -, hrun⟩ := ok_of_bind hrun
    cases hrun
    obtain ⟨_, htargeting⟩ := session_replay_targeting hdata hinfo
    rw [hgate] at htargeting
    exact get_session_targeting_fresh rfl htargeting
  · intro orders parts ctx response ctx' hparts hrun hupdates
    rw [generate_v1_format_eq, bind_apply, hparts] at hrun
    simp only [andThen_ok] at hrun
    obtain ⟨info, s, hinfo, hrun⟩ := ok_of_bind hrun
    have hresponse : response.session_replay_info = info := by
      rw [state_bind] at hrun
      obtain ⟨rfl, -⟩ : first_response env hasher options specs parts info s.gcir_hashes =
          response ∧ s = ctx' := by
        cases hrun
        exact ⟨rfl, rfl⟩
      unfold first_response at hupdates ⊢
      split at hupdates
      · cases hupdates
      · rw [if_neg ‹_›]
    obtain ⟨_, htargeting⟩ := session_replay_targeting hdata hinfo
    rw [hgate] at htargeting
    have hvalue : ∀ {recognition c}, evaluate env depth gate .Gate ctx.evaluator =
        .ok recognition c →
        response.session_replay_info.passes_session_recording_targeting =
          some c.result.bool_value := by
      intro recognition c hc
      rw [get_session_targeting_of_run hc, Outcome.ok.injEq] at htargeting
      rw [hresponse, ← htargeting.1]
    have hunfiltered := before_session_replay_unfiltered hparts
    refine ⟨fun hwhen => ?_, fun habsent => ?_⟩
    · obtain ⟨c, hc, hown⟩ : ∃ c, evaluate env depth gate .Gate ctx.evaluator =
          .ok .Recognized c ∧ c.result.bool_value = gate_alone env depth gate := by
        rcases hwhen with hoverridden | ⟨hdecided, hundisturbed⟩
        · exact overridden_gate_value hoverridden hpositive hunfiltered
        · exact undisturbed_gate_value rfl hdecided hdepth hunfiltered hundisturbed
      unfold TargetsAlone
      rw [hvalue hc, hown]
    · unfold TargetsAlone
      rw [hvalue (absent_gate_value habsent hpositive ctx.evaluator),
        absent_gate_alone habsent hpositive, Option.some_inj]

/-- A gate that passes, and a targeting gate that the specs do not hold. -/
def specs_with_missing_target : specs_response.SpecsResponseFull where
  feature_gates := [("passes", { rules := [{ id := "on", conditions := [] }] })]
  session_replay_info := some { targeting_gate := some "missing" }

/-- The targeting of the missing gate, in the response to the first format. -/
def missing_target_run : Outcome GcirContext StatsigErr InitializeResponse :=
  generate_v1_format (create_gcir_eval_context (.plain {}) specs_with_missing_target plain_names)
    MAX_RECURSIVE_DEPTH zero_hasher (some_orders specs_with_missing_target) plain_names
    specs_with_missing_target {}

def updated_targeting (outcome : Outcome GcirContext StatsigErr InitializeResponse) :
    Option (Option Bool) :=
  match outcome with
  | .ok response _ =>
    if response.has_updates then
      some response.session_replay_info.passes_session_recording_targeting
    else none
  | _ => none

/-- The missing targeting gate passes, since the gate before it does. -/
theorem missing_targeting_gate_passes :
    ¬ ∀ (outside : EvaluatorEnv) (hasher : Hasher) (orders : MapOrders)
      (options : ClientInitResponseOptions) (specs : specs_response.SpecsResponseFull) data gate,
      specs.session_replay_info = some data → data.targeting_gate = some gate →
      orders.Fits specs → ∀ depth, MAX_RECURSIVE_DEPTH ≤ depth → ∀ response ctx,
        generate_v1_format (create_gcir_eval_context outside specs options) depth hasher orders
          options specs {} = .ok response ctx → response.has_updates = true →
        TargetsAlone (create_gcir_eval_context outside specs options) depth gate
          response.session_replay_info := by
  intro h
  have hpasses : updated_targeting missing_target_run = some (some true) := by decide +kernel
  have halone : gate_alone (create_gcir_eval_context (.plain {}) specs_with_missing_target
      plain_names) MAX_RECURSIVE_DEPTH "missing" = false := by decide +kernel
  cases hrun : missing_target_run with
  | ok response ctx =>
    rw [hrun] at hpasses
    unfold updated_targeting at hpasses
    dsimp only at hpasses
    split at hpasses
    · rename_i hupdates
      have htargets := h (.plain {}) zero_hasher _ plain_names specs_with_missing_target _ _ rfl
        rfl (some_orders_fit _) MAX_RECURSIVE_DEPTH (Nat.le_refl _) response ctx hrun hupdates
      unfold TargetsAlone at htargets
      rw [htargets, halone] at hpasses
      cases hpasses
    · cases hpasses
  | err e ctx =>
    rw [hrun] at hpasses
    cases hpasses
  | deep =>
    rw [hrun] at hpasses
    cases hpasses

/-! ## The layered specs -/

/-- The layered specs as they are downloaded. -/
def layered_response : specs_response.SpecsResponseFull where
  condition_map := [("passes_gate", { Condition.on_gate "pass_gate" "gate" with })]
  feature_gates := [("gate", { rules := [{ id := "on", conditions := [] }] })]
  dynamic_configs := [("experiment", { rules := [], entity := "experiment" })]
  layer_configs := [("layer", {
    rules := [{
      id := "allocation", conditions := ["passes_gate"], config_delegate := some "experiment" }]
    entity := "layer" })]

theorem layered_memo_safe {visited : Set Node}
    (h : ∀ a ∈ visited, ∃ spec, spec_of (.plain .layered) a = some spec) :
    MemoSafe (.plain .layered) visited := by
  refine simple_memo_safe layered_simple (fun node => if node.1 = .Layer then 1 else 0) ?_ ?_ ?_ h
  · intro a
    show (if a.1 = .Layer then 1 else 0) < MAX_RECURSIVE_DEPTH
    split
    · decide
    · decide
  · intro a b hab
    obtain ⟨ha, hb⟩ := layered_nests hab
    simp [ha, hb]
  · rintro ⟨ty, name⟩ spec hspec rule hrule
    cases ty with
    | ParameterStore => cases hspec
    | Gate =>
      obtain ⟨-, rfl⟩ := Prod.mk.inj (List.mem_singleton.mp (HashMap.mem_of_get hspec))
      obtain rfl := List.mem_singleton.mp hrule
      rfl
    | Layer =>
      obtain ⟨-, rfl⟩ := Prod.mk.inj (List.mem_singleton.mp (HashMap.mem_of_get hspec))
      obtain rfl := List.mem_singleton.mp hrule
      rfl
    | _ =>
      obtain ⟨-, rfl⟩ := Prod.mk.inj (List.mem_singleton.mp (HashMap.mem_of_get hspec))
      exact absurd hrule List.not_mem_nil

/-- The layered specs, with a session replay for the users that pass the gate. -/
def layered_replay : specs_response.SpecsResponseFull :=
  { layered_response with session_replay_info := some { targeting_gate := some "gate" } }

theorem layered_replay_safe : ReplaySafe (.plain .layered) {} layered_replay "gate" where
  memo := by
    apply layered_memo_safe
    rintro a (rfl | ha)
    · exact ⟨_, rfl⟩
    · have hview : (EvaluatorEnv.plain .layered).specs_data = evaluator_view layered_replay := rfl
      obtain ⟨hgates, hconfigs, hlayers⟩ := visited_present {} hview
      rcases ha with ha | ha | ha | ⟨_, hnone, _⟩
      · exact Option.ne_none_iff_exists'.mp (hgates a ha)
      · exact Option.ne_none_iff_exists'.mp (hconfigs a ha)
      · exact Option.ne_none_iff_exists'.mp (hlayers a ha)
      · cases hnone
  layers := nofun
  untouched a _ := untouched_without_adapter rfl a
  present := Option.some_ne_none _

/-- Every order leaves the targeting gate of the layered specs undisturbed. -/
theorem layered_replay_is_undisturbed :
    DecidedByRules (.plain .layered) "gate" ∧
    ∀ orders, orders.Fits layered_replay → ∃ parts ctx,
      before_session_replay (.plain .layered) MAX_RECURSIVE_DEPTH zero_hasher orders {}
        layered_replay {} = .ok parts ctx ∧
      Unfiltered ctx.evaluator ∧ Undisturbed (.plain .layered) "gate" ctx.evaluator :=
  (session_targeting_is_the_gate_where_undisturbed (.plain {}) zero_hasher {} layered_replay _
    "gate" rfl rfl MAX_RECURSIVE_DEPTH (Nat.le_refl _)).2.2 layered_replay_safe

end statsig_rust.gcir
