-- The names of gates in the exposures of a response. What an entry shows are the distinct
-- exposures that the evaluator recorded, each with the hash of its gate, as long as the texts
-- hold no bar. The bandits of an init_v2 response show what was recorded as it is.
import StatsigCore.Evaluation.Exposures
import StatsigCore.ClientInit.ExposureReferences

open program

namespace statsig_rust.gcir

open evaluation

/-! ## Due exposures -/

def NoBar (text : String) : Prop := '|' ∉ text.toList

/-- An exposure as it may be shown. -/
def with_hashed_gate (hashing : HashUtil) (hash_algorithm : HashAlgorithm)
    (exposure : SecondaryExposure) : SecondaryExposure :=
  { exposure with gate := hashing.hash exposure.gate hash_algorithm }

/-- The distinct exposures in the order in which they first occur, each with its gate hashed
once. -/
def due_exposures (hashing : HashUtil) (hash_algorithm : HashAlgorithm)
    (raw : List SecondaryExposure) : List SecondaryExposure :=
  raw.eraseDups.map (with_hashed_gate hashing hash_algorithm)

section Due

variable {hashing : HashUtil} {hash_algorithm : HashAlgorithm}

theorem dedupe_key_eq (exposure : SecondaryExposure) :
    (SecondaryExposure.get_dedupe_key exposure).toList = delimited.join '|' exposure.gate.toList
      exposure.gate_value.toList exposure.rule_id.toList := by
  unfold SecondaryExposure.get_dedupe_key delimited.join
  simp

/-- The key tells exposures apart whose gate and rule id hold no bar. -/
theorem exposure_of_dedupe_key {x y : SecondaryExposure} (hx : NoBar x.gate ∧ NoBar x.rule_id)
    (hy : NoBar y.gate ∧ NoBar y.rule_id)
    (h : SecondaryExposure.get_dedupe_key x = SecondaryExposure.get_dedupe_key y) : x = y := by
  have hjoin := congrArg String.toList h
  rw [dedupe_key_eq, dedupe_key_eq] at hjoin
  obtain ⟨hgate, hvalue, hrule⟩ := delimited.join_outer hx.1 hy.1 hx.2 hy.2 hjoin
  cases x
  cases y
  rw [SecondaryExposure.mk.injEq]
  exact ⟨String.toList_injective hgate, String.toList_injective hvalue,
    String.toList_injective hrule⟩

/-- What the loop keeps are the exposures that were not seen, each once. -/
theorem hashed_exposures_unseen (hashing : HashUtil) (hash_algorithm : HashAlgorithm)
    {raw seen : List SecondaryExposure} (hraw : Traced NoBar NoBar raw)
    (hseen : Traced NoBar NoBar seen) :
    hashed_exposures hashing hash_algorithm raw (seen.map SecondaryExposure.get_dedupe_key) =
      due_exposures hashing hash_algorithm (raw.filter fun x => !seen.contains x) := by
  induction raw generalizing seen with
  | nil => rfl
  | cons x raw ih =>
    have hx := hraw x (List.mem_cons_self ..)
    have hrest : Traced NoBar NoBar raw := fun y hy => hraw y (List.mem_cons_of_mem _ hy)
    have hcontains : (seen.map SecondaryExposure.get_dedupe_key).contains
        (SecondaryExposure.get_dedupe_key x) = seen.contains x := by
      rw [Bool.eq_iff_iff, List.contains_iff_mem, List.contains_iff_mem, List.mem_map]
      constructor
      · rintro ⟨y, hy, hkey⟩
        rwa [← exposure_of_dedupe_key (hseen y hy) hx hkey]
      · exact fun hmem => ⟨x, hmem, rfl⟩
    unfold hashed_exposures
    dsimp only
    rw [hcontains]
    by_cases hmem : seen.contains x = true
    · rw [if_pos hmem, ih hrest hseen, List.filter_cons_of_neg (by simpa using hmem)]
    · rw [if_neg hmem, List.filter_cons_of_pos (by simpa using hmem)]
      have hseen' : Traced NoBar NoBar (x :: seen) := by
        intro y hy
        rcases List.mem_cons.mp hy with rfl | hy
        · exact hx
        · exact hseen y hy
      have hnext := ih hrest hseen'
      rw [List.map_cons] at hnext
      unfold due_exposures
      rw [hnext, List.eraseDups_cons, List.map_cons, List.filter_filter]
      congr 1
      unfold due_exposures
      congr 3
      funext y
      rw [List.contains_cons]
      cases hy : seen.contains y <;> cases hyx : y == x <;> simp_all

theorem hashed_exposures_due {raw : List SecondaryExposure} (h : Traced NoBar NoBar raw) :
    hashed_exposures hashing hash_algorithm raw [] = due_exposures hashing hash_algorithm raw := by
  have hall := hashed_exposures_unseen hashing hash_algorithm h traced_nil
  simpa using hall

end Due

/-! ## Traced visits -/

/-- A run that keeps an invariant, with what it says of the value. -/
def Collects {α : Type} (I : EvaluatorContext → Prop) (x : Eval α) (F : α → Prop) : Prop :=
  Triple I x (fun a c => I c ∧ F a) (fun _ => I) True

section Collects

variable {α β : Type} {I : EvaluatorContext → Prop} {x : Eval α} {f : α → Eval β} {F : α → Prop}
  {F' : β → Prop}

theorem collects_pure {a : α} (h : F a) : Collects I (pure a : Eval α) F := fun _ hc => ⟨hc, h⟩

theorem Collects.bind (hx : Collects I x F) (hf : ∀ a, F a → Collects I (f a) F') :
    Collects I (x >>= f) F' :=
  Triple.bind hx fun a c hc => hf a hc.2 c hc.1

theorem Collects.after (hx : Maintains I x) (hf : ∀ a, Collects I (f a) F') :
    Collects I (x >>= f) F' :=
  Triple.bind hx hf

end Collects

section Visits

variable {G R : InternedString → Prop} {env : EvaluatorEnv} (henv : Traces G R env) (depth : Nat)
  (options : ClientInitResponseOptions)

include henv

theorem reset_traced : Maintains (TracedContext G R) (update EvaluatorContext.reset_result) :=
  triple_update fun _ h => h.reset henv.empty_rule

theorem visit_spec_traced (get_spec_type : specs_response.Spec → SpecType) (name : InternedString)
    (spec : specs_response.Spec) :
    Collects (TracedContext G R) (visit_spec env depth options get_spec_type name spec)
      (fun visit => ∀ v ∈ visit, TracedResult G R v.result) := by
  unfold visit_spec
  refine Collects.after (reset_traced henv) fun _ => ?_
  refine Collects.after (evaluate_traced henv depth name _) fun _ => ?_
  refine triple_state_bind fun c hc => Triple.pre ?_ fun s hs => hs ▸ hc
  split
  · exact collects_pure fun v hv => absurd hv (by simp)
  · split
    · exact collects_pure fun v hv => absurd hv (by simp)
    · refine collects_pure fun v hv => ?_
      rw [← Option.some.inj hv]
      exact hc.result

theorem visit_keys_traced (get_spec_type : specs_response.Spec → SpecType)
    (specs_map : HashMap InternedString specs_response.Spec) (names : List InternedString) :
    Collects (TracedContext G R) (visit_keys env depth options get_spec_type specs_map names)
      (fun visits => ∀ v ∈ visits, TracedResult G R v.result) := by
  induction names with
  | nil => exact collects_pure fun v hv => absurd hv List.not_mem_nil
  | cons name names ih =>
    unfold visit_keys
    split
    · exact ih
    · rename_i spec _
      split
      · exact ih
      · refine (visit_spec_traced henv depth options get_spec_type name spec).bind
          fun visit hvisit => ih.bind fun rest hrest => collects_pure fun v hv => ?_
        rcases List.mem_append.mp hv with hv | hv
        · exact hvisit v (Option.mem_toList.mp hv)
        · exact hrest v hv

theorem visit_cmabs_traced (cmab_configs : HashMap String specs_response.CMABConfig)
    (names : List String) :
    Collects (TracedContext G R) (visit_cmabs env depth options cmab_configs names)
      (fun visits => ∀ v ∈ visits, TracedResult G R v.result) := by
  have hvisit : ∀ name, Collects (TracedContext G R) (visit_cmab env depth name)
      (fun visit => TracedResult G R visit.result) := by
    intro name
    unfold visit_cmab
    refine Collects.after (reset_traced henv) fun _ => ?_
    refine Collects.after (evaluate_traced henv depth name _).attempt fun _ => ?_
    refine triple_state_bind fun c hc => Triple.pre ?_ fun s hs => hs ▸ hc
    exact collects_pure hc.result
  induction names with
  | nil => exact collects_pure fun v hv => absurd hv List.not_mem_nil
  | cons name names ih =>
    unfold visit_cmabs
    split
    · exact ih
    · refine (hvisit name).bind fun visit hv => ih.bind fun rest hrest =>
        collects_pure fun v hmem => ?_
      rcases List.mem_cons.mp hmem with rfl | hmem
      · exact hv
      · exact hrest v hmem

/-- Every visit of a response records texts of the specs only. -/
theorem visit_specs_traced (orders : MapOrders) (specs : specs_response.SpecsResponseFull) :
    Collects (TracedContext G R) (visit_specs env depth options orders specs)
      (fun visits => ∀ v ∈ visits.all, TracedResult G R v.result) := by
  have hcmabs : Collects (TracedContext G R) (visit_all_cmabs env depth options orders specs)
      (fun visits => ∀ v ∈ visits, TracedResult G R v.result) := by
    unfold visit_all_cmabs
    split
    · exact collects_pure fun v hv => absurd hv List.not_mem_nil
    · exact visit_cmabs_traced henv depth options _ _
  unfold visit_specs
  refine (visit_keys_traced henv depth options _ _ _).bind fun gates hgates => ?_
  refine (visit_keys_traced henv depth options _ _ _).bind fun configs hconfigs => ?_
  refine hcmabs.bind fun cmabs hcmabs => ?_
  refine (visit_keys_traced henv depth options _ _ _).bind fun layers hlayers => ?_
  refine collects_pure fun v hv => ?_
  unfold Visits.all at hv
  simp only [List.mem_append] at hv
  rcases hv with ((hv | hv) | hv) | hv
  · exact hgates v hv
  · exact hconfigs v hv
  · exact hcmabs v hv
  · exact hlayers v hv

theorem later_start_traced (hasher : Hasher) (orders : MapOrders)
    (specs : specs_response.SpecsResponseFull) {s : GcirContext}
    (h : later_start env depth hasher orders options specs {} = .ok () s) :
    TracedContext G R s.evaluator := by
  have hkept := later_start_preserves (P := fun c => TracedContext G R c.evaluator) env depth hasher
    orders options specs (fun _ _ hc => hc) (fun _ hc => hc.of_trace rfl) (fun gate c hc => by
      have hrun := evaluate_traced henv depth gate .Gate c.evaluator hc
      unfold attempt evaluator_call
      cases heval : evaluate env depth gate .Gate c.evaluator with
      | ok a c' =>
        rw [heval] at hrun
        exact hrun
      | err e c' =>
        rw [heval] at hrun
        exact hrun
      | deep => trivial) {} henv.fresh
  rw [h] at hkept
  exact hkept

end Visits

/-! ## The specs -/

/-- The names of gates and the rule ids of the specs hold no bar. -/
structure NoBars (specs_data : SpecsResponseFull) : Prop where
  gates : ∀ hash condition, specs_data.condition_map.get hash = some condition →
    type_of condition = .PassGate ∨ type_of condition = .FailGate →
    NoBar (gate_name_of (target_of condition))
  rules : ∀ name ty spec, find_spec specs_data name ty = some spec → ∀ rule ∈ spec.rules,
    NoBar rule.id
  targeting : ∀ cmabs name cmab gate, specs_data.cmab_configs = some cmabs →
    cmabs.get name = some cmab → cmab.targeting_gate_name = some gate → NoBar gate
  groups : ∀ cmabs name cmab, specs_data.cmab_configs = some cmabs →
    cmabs.get name = some cmab → ∀ group ∈ cmab.groups, NoBar group.id

/-- Nor do those that an override adapter writes. -/
structure WritesNoBars (adapter : OverrideAdapter) : Prop where
  gate : ∀ data name result, TracedResult NoBar NoBar result →
    TracedResult NoBar NoBar (adapter.get_gate_override data name result).2
  dynamic_config : ∀ data name result, TracedResult NoBar NoBar result →
    TracedResult NoBar NoBar (adapter.get_dynamic_config_override data name result).2
  experiment : ∀ data name result spec, TracedResult NoBar NoBar result →
    TracedResult NoBar NoBar (adapter.get_experiment_override data name result spec).2
  layer : ∀ data name result, TracedResult NoBar NoBar result →
    TracedResult NoBar NoBar (adapter.get_layer_override data name result).2
  parameter_store : ∀ data name result, TracedResult NoBar NoBar result →
    TracedResult NoBar NoBar (adapter.get_parameter_store_override data name result).2

theorem NoBars.traces {env : EvaluatorEnv} (h : NoBars env.specs_data)
    (hadapter : ∀ adapter, env.override_adapter = some adapter → WritesNoBars adapter) :
    Traces NoBar NoBar env where
  gates := h.gates
  rules := h.rules
  targeting := h.targeting
  groups := h.groups
  constants := by unfold NoBar; decide
  override := by
    intro name ty spec c applied c' hc hrun
    unfold try_apply_override at hrun
    cases hsome : env.override_adapter with
    | none =>
      rw [hsome] at hrun
      cases hrun
      exact hc
    | some adapter =>
      have hwrites := hadapter adapter hsome
      rw [hsome] at hrun
      cases ty with
      | Gate =>
        cases hrun
        exact ⟨hwrites.gate _ _ _ hc.result, hc.memo⟩
      | DynamicConfig =>
        cases hrun
        exact ⟨hwrites.dynamic_config _ _ _ hc.result, hc.memo⟩
      | Experiment =>
        cases hrun
        exact ⟨hwrites.experiment _ _ _ _ hc.result, hc.memo⟩
      | Layer =>
        cases hrun
        exact ⟨hwrites.layer _ _ _ hc.result, hc.memo⟩
      | ParameterStore =>
        cases hrun
        exact ⟨hwrites.parameter_store _ _ _ hc.result, hc.memo⟩

/-! ## What is due -/

def AnyConfigEvaluation.base : AnyConfigEvaluation → BaseEvaluation
  | DynamicConfig eval => eval.base
  | Experiment eval => eval.base

def AnyConfigEvaluation.undelegated : AnyConfigEvaluation → Option (List SecondaryExposure)
  | DynamicConfig _ => none
  | Experiment eval => eval.undelegated_secondary_exposures

def undelegated_v2 : AnyConfigEvaluationV2 → Option (List SecondaryExposure)
  | .DynamicConfig _ => none
  | .Experiment eval => eval.undelegated_secondary_exposures

section

variable (env : EvaluatorEnv) (options : ClientInitResponseOptions)

def due (visit : Visit) : List SecondaryExposure :=
  due_exposures env.hashing options.get_hash_algorithm visit.result.secondary_exposures

def due_undelegated (visit : Visit) : List SecondaryExposure :=
  due_exposures env.hashing options.get_hash_algorithm
    (visit.result.undelegated_secondary_exposures.getD [])

/-- All that a response may show. -/
def Visits.due (visits : Visits) : List SecondaryExposure :=
  (visits.gates ++ (visits.configs ++ visits.cmabs)).flatMap (gcir.due env options) ++
    visits.layers.flatMap fun visit =>
      gcir.due env options visit ++ due_undelegated env options visit

/-- Each entry of a first-format response shows what is due for the visit of its name. -/
structure V1Due (visits : Visits) (response : InitializeResponse) : Prop where
  gates : ∀ name eval, response.feature_gates.get name = some eval →
    ∃ visit ∈ visits.gates, hashed_name env options visit = name ∧
      eval.base.secondary_exposures = gcir.due env options visit
  configs : ∀ name eval, response.dynamic_configs.get name = some eval →
    ∃ visit ∈ visits.configs ++ visits.cmabs, hashed_name env options visit = name ∧
      eval.base.secondary_exposures = gcir.due env options visit ∧ eval.undelegated = none
  layers : ∀ name eval, response.layer_configs.get name = some eval →
    ∃ visit ∈ visits.layers, hashed_name env options visit = name ∧
      eval.base.secondary_exposures = gcir.due env options visit ∧
      eval.undelegated_secondary_exposures = some (due_undelegated env options visit)

/-- Each entry of a v2 response lists the keys of what is due, and the map has nothing else. -/
structure V2Due (visits : Visits) (response : InitializeEvaluationsResponse) : Prop where
  gates : ∀ name eval, response.feature_gates.get name = some eval →
    ∃ visit ∈ visits.gates, hashed_name env options visit = name ∧
      eval.base.secondary_exposures =
        (gcir.due env options visit).map (exposure_key env.hashing)
  configs : ∀ name eval, response.dynamic_configs.get name = some eval →
    ∃ visit ∈ visits.configs ++ visits.cmabs, hashed_name env options visit = name ∧
      eval.base.secondary_exposures =
        (gcir.due env options visit).map (exposure_key env.hashing) ∧ undelegated_v2 eval = none
  layers : ∀ name eval, response.layer_configs.get name = some eval →
    ∃ visit ∈ visits.layers, hashed_name env options visit = name ∧
      eval.base.secondary_exposures =
        (gcir.due env options visit).map (exposure_key env.hashing) ∧
      eval.undelegated_secondary_exposures =
        some ((due_undelegated env options visit).map (exposure_key env.hashing))
  exposures : ∀ key x, response.exposures.get key = some x →
    x ∈ visits.due env options ∧ exposure_key env.hashing x = key

end

section Due

variable {env : EvaluatorEnv} {options : ClientInitResponseOptions}

theorem shown_due {visit : Visit} (h : TracedResult NoBar NoBar visit.result) :
    shown env options visit = due env options visit :=
  hashed_exposures_due h.exposures

theorem shown_undelegated_due {visit : Visit} (h : TracedResult NoBar NoBar visit.result) :
    shown_undelegated env options visit = due_undelegated env options visit := by
  have hundelegated := h.undelegated
  unfold shown_undelegated due_undelegated hashed
  dsimp only
  cases hsome : visit.result.undelegated_secondary_exposures with
  | none => rfl
  | some undelegated =>
    rw [hsome] at hundelegated
    exact hashed_exposures_due hundelegated

theorem mem_all_gate {visits : Visits} {visit : Visit} (h : visit ∈ visits.gates) :
    visit ∈ visits.all :=
  List.mem_append_left _ (List.mem_append_left _ (List.mem_append_left _ h))

theorem mem_all_config {visits : Visits} {visit : Visit}
    (h : visit ∈ visits.configs ++ visits.cmabs) : visit ∈ visits.all := by
  unfold Visits.all
  rw [List.append_assoc visits.gates]
  exact List.mem_append_left _ (List.mem_append_right _ h)

theorem mem_all_layer {visits : Visits} {visit : Visit} (h : visit ∈ visits.layers) :
    visit ∈ visits.all :=
  List.mem_append_right _ h

theorem visits_shown_due {visits : Visits}
    (h : ∀ v ∈ visits.all, TracedResult NoBar NoBar v.result) :
    visits.shown env options = visits.due env options := by
  unfold Visits.shown Visits.due
  congr 1
  · refine List.flatMap_congr fun v hv => shown_due (h v ?_)
    rcases List.mem_append.mp hv with hv | hv
    · exact mem_all_gate hv
    · exact mem_all_config hv
  · refine List.flatMap_congr fun v hv => ?_
    have hlayer := h v (mem_all_layer hv)
    rw [shown_due hlayer, shown_undelegated_due hlayer]

theorem made_get {T : Type} {evaluation_factory : EvaluationFactory T} {visits : List Visit}
    {name : String} {eval : T}
    (h : (entry_map env options (make_entries env options evaluation_factory visits) []).get name =
      some eval) :
    ∃ visit ∈ visits, hashed_name env options visit = name ∧
      eval = (evaluation_factory visit.entity (hashed_name env options visit)
        (hashed env options visit.result)).1 := by
  rcases entry_map_get h with ⟨visit, hmem, hname⟩ | hnone
  · obtain ⟨v, hv, heq⟩ := List.mem_map.mp hmem
    obtain ⟨rfl, rfl⟩ := Prod.mk.inj heq
    exact ⟨v, hv, hname, rfl⟩
  · cases hnone

theorem config_factory_exposures (options : ClientInitResponseOptions) (entity name : String)
    (result : EvaluatorResult) :
    (config_factory options entity name result).1.base.secondary_exposures =
        result.secondary_exposures ∧
      (config_factory options entity name result).1.undelegated = none := by
  unfold config_factory
  dsimp only
  split
  · exact ⟨rfl, rfl⟩
  · exact ⟨rfl, rfl⟩

theorem config_factory_v2_undelegated (entity name : String) (result : EvaluatorResult)
    (exposures : ExposureMap) :
    undelegated_v2 (config_factory_v2 env options entity name result exposures).1 = none := by
  unfold config_factory_v2
  dsimp only
  split
  · rfl
  · rfl

theorem v1_due {visits : Visits} (htraced : ∀ v ∈ visits.all, TracedResult NoBar NoBar v.result)
    {response : InitializeResponse}
    (h : response = InitializeResponse.blank_without_user ∨
      response.feature_gates =
        entry_map env options (make_entries env options (gate_factory options) visits.gates) [] ∧
      response.dynamic_configs = entry_map env options
        (make_entries env options (config_factory options) (visits.configs ++ visits.cmabs)) [] ∧
      response.layer_configs = entry_map env options
        (make_entries env options (layer_factory env options) visits.layers) []) :
    V1Due env options visits response := by
  rcases h with rfl | ⟨hgates, hconfigs, hlayers⟩
  · refine ⟨?_, ?_, ?_⟩
    · intro name eval hget
      cases hget
    · intro name eval hget
      cases hget
    · intro name eval hget
      cases hget
  · refine ⟨?_, ?_, ?_⟩
    · intro name eval hget
      rw [hgates] at hget
      obtain ⟨visit, hvisit, hname, rfl⟩ := made_get hget
      exact ⟨visit, hvisit, hname, shown_due (htraced _ (mem_all_gate hvisit))⟩
    · intro name eval hget
      rw [hconfigs] at hget
      obtain ⟨visit, hvisit, hname, rfl⟩ := made_get hget
      obtain ⟨hexposures, hnone⟩ := config_factory_exposures options visit.entity
        (hashed_name env options visit) (hashed env options visit.result)
      rw [hexposures]
      exact ⟨visit, hvisit, hname, shown_due (htraced _ (mem_all_config hvisit)), hnone⟩
    · intro name eval hget
      rw [hlayers] at hget
      obtain ⟨visit, hvisit, hname, rfl⟩ := made_get hget
      have hlayer := htraced _ (mem_all_layer hvisit)
      exact ⟨visit, hvisit, hname, shown_due hlayer,
        congrArg some (shown_undelegated_due hlayer)⟩

theorem v2_due (depth : Nat) (hasher : Hasher) (orders : MapOrders)
    (specs : specs_response.SpecsResponseFull) (henv : Traces NoBar NoBar env)
    {response : InitializeEvaluationsResponse} {s : GcirContext}
    (h : generate_v2_format env depth hasher orders options specs {} = .ok response s) :
    ∃ start visits t, later_start env depth hasher orders options specs {} = .ok () start ∧
      visit_specs env depth options orders specs start.evaluator = .ok visits t ∧
      V2Due env options visits response := by
  obtain ⟨start, visits, t, hstart, hvisits, hgates, hconfigs, hlayers, hexposures⟩ :=
    v2_visits env depth hasher orders options specs h
  have htraced := visit_specs_traced henv depth options orders specs start.evaluator
    (later_start_traced henv depth options hasher orders specs hstart)
  rw [hvisits] at htraced
  obtain ⟨-, htraced⟩ := htraced
  rw [v2_exposures, visits_shown_due htraced] at hexposures
  refine ⟨start, visits, t, hstart, hvisits, ⟨?_, ?_, ?_, ?_⟩⟩
  · intro name eval hget
    rw [hgates] at hget
    obtain ⟨visit, hvisit, hname, exposures, rfl⟩ := filled_get hget
    refine ⟨visit, hvisit, hname, ?_⟩
    rw [← shown_due (htraced _ (mem_all_gate hvisit))]
    rfl
  · intro name eval hget
    rw [hconfigs] at hget
    obtain ⟨visit, hvisit, hname, exposures, rfl⟩ := filled_config_get hget
    refine ⟨visit, hvisit, hname, ?_, config_factory_v2_undelegated ..⟩
    rw [config_factory_v2_keys, ← shown_due (htraced _ (mem_all_config hvisit))]
    rfl
  · intro name eval hget
    rw [hlayers] at hget
    obtain ⟨visit, hvisit, hname, exposures, rfl⟩ := filled_get hget
    have hlayer := htraced _ (mem_all_layer hvisit)
    refine ⟨visit, hvisit, hname, ?_, ?_⟩
    · rw [← shown_due hlayer]
      rfl
    · rw [← shown_undelegated_due hlayer]
      rfl
  · intro key x hget
    rw [hexposures] at hget
    rcases stringify_get hget with ⟨hmem, hkey⟩ | hnone
    · exact ⟨hmem, hkey⟩
    · cases hnone

end Due

end statsig_rust.gcir
