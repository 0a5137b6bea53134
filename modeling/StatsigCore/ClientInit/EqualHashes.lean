-- When two responses of one hash are the same. A response is made of what the evaluator answers
-- for each spec and bandit, and of the parameter stores. The condition is on those answers and
-- stores: on the fields that no `create_hash` reads, and on all that a bandit answers.
import StatsigCore.ClientInit.HashCoverage
import StatsigCore.ClientInit.Visits

open program digest

namespace statsig_rust.gcir

open evaluation

/-! ## What is shown of the evaluations -/

section Shown

variable (env : EvaluatorEnv) (orders : MapOrders) (options : ClientInitResponseOptions)
  (specs : specs_response.SpecsResponseFull)

/-- The evaluations that the entries of a response are made of, by their hashed names. A later
one replaces an earlier one of the same hashed name. -/
def shown_visits (visits : List Visit) : HashMap String Visit :=
  entry_map env options (visits.map fun visit => (visit, visit)) []

/-- The stores that the response has the parameters of. -/
def shown_stores : HashMap String specs_response.ParameterStore :=
  match specs.param_stores with
  | none => []
  | some stores => (visited_stores env orders options stores).foldl (fun shown entry =>
      shown.insert (env.hashing.hash entry.1 options.get_hash_algorithm) entry.2) []

/-- What is inserted is mapped, when what was there is. -/
theorem foldl_insert_map {β υ ω : Type} {key_of : β → String} {value_of : β → υ} (f : υ → ω)
    (entries : List β) {map : HashMap String υ} {mapped : HashMap String ω}
    (h : ∀ key, mapped.get key = (map.get key).map f) (key : String) :
    (entries.foldl (fun m entry => m.insert (key_of entry) (f (value_of entry))) mapped).get key =
      ((entries.foldl (fun m entry => m.insert (key_of entry) (value_of entry)) map).get key).map
        f := by
  induction entries generalizing map mapped with
  | nil => exact h key
  | cons entry entries ih =>
    refine ih fun key => ?_
    rw [HashMap.get_insert, HashMap.get_insert]
    split
    · rfl
    · exact h key

/-- An entry is made of the evaluation that is shown under its key. -/
theorem make_entries_get {T : Type} (evaluation_factory : EvaluationFactory T)
    (visits : List Visit) (key : String) :
    (entry_map env options (make_entries env options evaluation_factory visits) []).get key =
      ((shown_visits env options visits).get key).map fun visit =>
        (evaluation_factory visit.entity (hashed_name env options visit)
          (hashed env options visit.result)).1 := by
  have hempty : ∀ key, HashMap.get ([] : HashMap String T) key =
      (HashMap.get ([] : HashMap String Visit) key).map fun visit =>
        (evaluation_factory visit.entity (hashed_name env options visit)
          (hashed env options visit.result)).1 := fun _ => rfl
  unfold entry_map make_entries shown_visits entry_map
  rw [List.foldl_map, List.foldl_map]
  exact foldl_insert_map _ visits hempty key

theorem shown_visits_name {visits : List Visit} {key : String} {visit : Visit}
    (h : (shown_visits env options visits).get key = some visit) :
    hashed_name env options visit = key := by
  rcases entry_map_get h with ⟨visit', hmem, hname⟩ | hnone
  · obtain ⟨_, -, heq⟩ := List.mem_map.mp hmem
    cases heq
    exact hname
  · rw [HashMap.get_nil] at hnone
    cases hnone

theorem response_stores_get (key : String) :
    (response_stores env orders options specs).get key =
      ((shown_stores env orders options specs).get key).map
        (get_parameters_from_store env options) := by
  unfold response_stores shown_stores
  cases specs.param_stores with
  | none => rfl
  | some stores => exact foldl_insert_map _ _ (fun _ => rfl) key

end Shown

/-! ## The answers that no hash is computed from -/

/-- The id types of two answers, as far as the client gets them. -/
structure SameUnit (options : ClientInitResponseOptions) (result result' : EvaluatorResult) :
    Prop where
  id_type : kept_id_type options (some (result.id_type.getD "")) =
    kept_id_type options (some (result'.id_type.getD ""))
  is_device_based : (get_id_type_info result.id_type).2 = (get_id_type_info result'.id_type).2

/-- The values of two answers are the same constant, or both objects. -/
def SameConstantValue (result result' : EvaluatorResult) : Prop :=
  SameConstant (get_json_value result) (get_json_value result')

structure SameUnhashedAnswer (options : ClientInitResponseOptions) (visit visit' : Visit) :
    Prop where
  kind : visit.entity = "dynamic_config" ↔ visit'.entity = "dynamic_config"
  unit : SameUnit options visit.result visit'.result
  value : SameConstantValue visit.result visit'.result
  explicit_parameters : visit.entity ≠ "dynamic_config" →
    visit.result.explicit_parameters.isSome = visit'.result.explicit_parameters.isSome

/-- The flags that an answer gives for an experiment. -/
def membership (visit : Visit) : Option (Bool × Bool) :=
  if visit.entity = "experiment" then
    some (visit.result.is_experiment_active, visit.result.is_experiment_group)
  else none

/-- All that a client gets of the answer for a bandit: its rule or group, its value, its unit and
the exposures of its targeting gate. -/
structure SameAnswer (env env' : EvaluatorEnv) (options : ClientInitResponseOptions)
    (visit visit' : Visit) : Prop where
  kind : visit.entity = "dynamic_config" ↔ visit'.entity = "dynamic_config"
  rule_id : suffixed visit.result.rule_id visit.result.rule_id_suffix =
    suffixed visit'.result.rule_id visit'.result.rule_id_suffix
  secondary_exposures : (hashed env options visit.result).secondary_exposures =
    (hashed env' options visit'.result).secondary_exposures
  unit : SameUnit options visit.result visit'.result
  value : SameValue (get_json_value visit.result) (get_json_value visit'.result)
  passed : visit.entity = "dynamic_config" → visit.result.bool_value = visit'.result.bool_value
  is_in_layer : visit.entity ≠ "dynamic_config" →
    visit.result.is_in_layer = visit'.result.is_in_layer
  explicit_parameters : visit.entity ≠ "dynamic_config" →
    visit.result.explicit_parameters = visit'.result.explicit_parameters
  group_name : visit.entity ≠ "dynamic_config" →
    visit.result.group_name = visit'.result.group_name
  membership : visit.entity ≠ "dynamic_config" → membership visit = membership visit'

/-- The evaluator answers alike wherever nothing is hashed of its answer: the id types and the
constants of the specs, and all about the bandits. The stores have the same parameters. -/
structure AlikeUnhashed (env env' : EvaluatorEnv) (orders orders' : MapOrders)
    (options : ClientInitResponseOptions) (specs specs' : specs_response.SpecsResponseFull)
    (visits visits' : Visits) : Prop where
  gates : ∀ key visit visit', (shown_visits env options visits.gates).get key = some visit →
    (shown_visits env' options visits'.gates).get key = some visit' →
    kept_id_type options visit.result.id_type = kept_id_type options visit'.result.id_type
  configs : ∀ key visit visit',
    key ∉ bandit_keys env options specs → key ∉ bandit_keys env' options specs' →
    (shown_visits env options visits.configs).get key = some visit →
    (shown_visits env' options visits'.configs).get key = some visit' →
    SameUnhashedAnswer options visit visit'
  bandits : ∀ key, key ∈ bandit_keys env options specs ∨ key ∈ bandit_keys env' options specs' →
    Option.Rel (SameAnswer env env' options)
      ((shown_visits env options (visits.configs ++ visits.cmabs)).get key)
      ((shown_visits env' options (visits'.configs ++ visits'.cmabs)).get key)
  layers : ∀ key visit visit', (shown_visits env options visits.layers).get key = some visit →
    (shown_visits env' options visits'.layers).get key = some visit' →
    SameUnit options visit.result visit'.result ∧ SameConstantValue visit.result visit'.result
  param_stores : ∀ key store store', (shown_stores env orders options specs).get key = some store →
    (shown_stores env' orders' options specs').get key = some store' →
    SameObject (get_parameters_from_store env options store)
      (get_parameters_from_store env' options store')

section Answers

variable {env env' : EvaluatorEnv} {options : ClientInitResponseOptions} {visit visit' : Visit}

/-- The typed evaluation of a config or an experiment. -/
def config_of (env : EvaluatorEnv) (options : ClientInitResponseOptions) (visit : Visit) :
    AnyConfigEvaluation :=
  (config_factory options visit.entity (hashed_name env options visit)
    (hashed env options visit.result)).1

/-- The typed evaluation of a gate. -/
def gate_of (env : EvaluatorEnv) (options : ClientInitResponseOptions) (visit : Visit) :
    GateEvaluation :=
  (gate_factory options visit.entity (hashed_name env options visit)
    (hashed env options visit.result)).1

/-- The typed evaluation of a layer. -/
def layer_of (env : EvaluatorEnv) (options : ClientInitResponseOptions) (visit : Visit) :
    LayerEvaluation :=
  (layer_factory env options visit.entity (hashed_name env options visit)
    (hashed env options visit.result)).1

theorem same_unhashed_gate_iff :
    (gate_of env options visit).id_type = (gate_of env' options visit').id_type ↔
      kept_id_type options visit.result.id_type = kept_id_type options visit'.result.id_type :=
  Iff.rfl

theorem same_unhashed_layer_iff :
    SameUnhashedLayer (layer_of env options visit) (layer_of env' options visit') ↔
      SameUnit options visit.result visit'.result ∧
        SameConstantValue visit.result visit'.result := by
  constructor
  · rintro ⟨hid, hdevice, hvalue⟩
    exact ⟨⟨hid, hdevice⟩, hvalue⟩
  · rintro ⟨hunit, hvalue⟩
    exact ⟨hunit.id_type, hunit.is_device_based, hvalue⟩

theorem same_unhashed_config_iff :
    SameUnhashedConfig (config_of env options visit) (config_of env' options visit') ↔
      SameUnhashedAnswer options visit visit' := by
  unfold config_of config_factory
  by_cases hkind : visit.entity = "dynamic_config"
  · by_cases hkind' : visit'.entity = "dynamic_config"
    · rw [if_pos hkind, if_pos hkind']
      constructor
      · rintro ⟨hid, hdevice, hvalue⟩
        exact ⟨iff_of_true hkind hkind', ⟨hid, hdevice⟩, hvalue, fun h => absurd hkind h⟩
      · intro h
        exact ⟨h.unit.id_type, h.unit.is_device_based, h.value⟩
    · rw [if_pos hkind, if_neg hkind']
      exact iff_of_false id fun h => hkind' (h.kind.mp hkind)
  · by_cases hkind' : visit'.entity = "dynamic_config"
    · rw [if_neg hkind, if_pos hkind']
      exact iff_of_false id fun h => hkind (h.kind.mpr hkind')
    · rw [if_neg hkind, if_neg hkind']
      constructor
      · rintro ⟨hid, hdevice, hvalue, hexplicit⟩
        exact ⟨iff_of_false hkind hkind', ⟨hid, hdevice⟩, hvalue, fun _ => hexplicit⟩
      · intro h
        exact ⟨h.unit.id_type, h.unit.is_device_based, h.value, h.explicit_parameters hkind⟩

/-- What the answers for two visits of one hashed name give the base of their entries. -/
theorem same_base_iff (hname : hashed_name env options visit = hashed_name env' options visit') :
    SameBase
        (result_to_base_eval (hashed_name env options visit) (hashed env options visit.result))
        (result_to_base_eval (hashed_name env' options visit')
          (hashed env' options visit'.result)) ↔
      suffixed visit.result.rule_id visit.result.rule_id_suffix =
          suffixed visit'.result.rule_id visit'.result.rule_id_suffix ∧
        (hashed env options visit.result).secondary_exposures =
          (hashed env' options visit'.result).secondary_exposures := by
  have htext : ∀ (env : EvaluatorEnv) (visit : Visit), (result_to_base_eval
      (hashed_name env options visit) (hashed env options visit.result)).rule_id.text =
        suffixed visit.result.rule_id visit.result.rule_id_suffix :=
    fun env visit => create_suffixed_rule_id_text _ _
  constructor
  · intro h
    rw [← htext env visit, ← htext env' visit']
    exact ⟨h.rule_id, h.secondary_exposures⟩
  · rintro ⟨hrule, hexposures⟩
    refine ⟨?_, ?_, hexposures⟩
    · exact (get_exposure_name_text _ _).trans (hname.trans (get_exposure_name_text _ _).symm)
    · rw [htext env visit, htext env' visit', hrule]

/-- The evaluation of an experiment, without its name. -/
def experiment_of (visit : Visit) : ExperimentEvaluation :=
  result_to_experiment_eval "" (some visit.entity) visit.result

theorem membership_eq_iff :
    membership visit = membership visit' ↔
      (experiment_of visit).is_experiment_active = (experiment_of visit').is_experiment_active ∧
        (experiment_of visit).is_user_in_experiment =
          (experiment_of visit').is_user_in_experiment := by
  unfold membership experiment_of result_to_experiment_eval
  by_cases h : visit.entity = "experiment"
  · by_cases h' : visit'.entity = "experiment" <;> simp [h, h']
  · by_cases h' : visit'.entity = "experiment" <;> simp [h, h']

/-- Two entries of one hashed name are the same just when the answers are. -/
theorem same_config_answer_iff
    (hname : hashed_name env options visit = hashed_name env' options visit') :
    SameConfig (config_of env options visit) (config_of env' options visit') ↔
      SameAnswer env env' options visit visit' := by
  unfold config_of config_factory
  by_cases hkind : visit.entity = "dynamic_config"
  · by_cases hkind' : visit'.entity = "dynamic_config"
    · rw [if_pos hkind, if_pos hkind']
      constructor
      · intro h
        obtain ⟨hrule, hexposures⟩ := (same_base_iff hname).mp h.base
        exact ⟨iff_of_true hkind hkind', hrule, hexposures, ⟨h.id_type, h.is_device_based⟩, h.value,
          fun _ => h.passed, fun h => absurd hkind h, fun h => absurd hkind h,
          fun h => absurd hkind h, fun h => absurd hkind h⟩
      · intro h
        exact ⟨(same_base_iff hname).mpr ⟨h.rule_id, h.secondary_exposures⟩, h.unit.id_type,
          h.value, h.unit.is_device_based, h.passed hkind⟩
    · rw [if_pos hkind, if_neg hkind']
      exact iff_of_false id fun h => hkind' (h.kind.mp hkind)
  · by_cases hkind' : visit'.entity = "dynamic_config"
    · rw [if_neg hkind, if_pos hkind']
      exact iff_of_false id fun h => hkind (h.kind.mpr hkind')
    · rw [if_neg hkind, if_neg hkind']
      constructor
      · intro h
        obtain ⟨hrule, hexposures⟩ := (same_base_iff hname).mp h.base
        exact ⟨iff_of_false hkind hkind', hrule, hexposures, ⟨h.id_type, h.is_device_based⟩,
          h.value, fun hdynamic => absurd hdynamic hkind, fun _ => h.is_in_layer,
          fun _ => h.explicit_parameters, fun _ => h.group_name, fun _ =>
            membership_eq_iff.mpr ⟨h.is_experiment_active, h.is_user_in_experiment⟩⟩
      · intro h
        obtain ⟨hactive, huser⟩ := membership_eq_iff.mp (h.membership hkind)
        exact ⟨(same_base_iff hname).mpr ⟨h.rule_id, h.secondary_exposures⟩, h.unit.id_type,
          h.value, h.unit.is_device_based, h.is_in_layer hkind, h.explicit_parameters hkind,
          h.group_name hkind, hactive, huser, rfl⟩

end Answers

/-! ## One hash, one response -/

section

variable {env env' : EvaluatorEnv} {depth : Nat} {hasher : Hasher} {orders orders' : MapOrders}
  {options : ClientInitResponseOptions} {specs specs' : specs_response.SpecsResponseFull}
  {run run' : FirstRun} {visits visits' : Visits}

/-- The parts of a run are made of the evaluations behind it. -/
structure FirstRun.MadeOf (env : EvaluatorEnv) (options : ClientInitResponseOptions)
    (run : FirstRun) (visits : Visits) : Prop where
  gates : run.parts.feature_gates =
    entry_map env options (make_entries env options (gate_factory options) visits.gates) []
  specs : collect_results env options run.configs =
    entry_map env options (make_entries env options (config_factory options) visits.configs) []
  configs : run.parts.dynamic_configs = entry_map env options
    (make_entries env options (config_factory options) (visits.configs ++ visits.cmabs)) []
  layers : run.parts.layer_configs =
    entry_map env options (make_entries env options (layer_factory env options) visits.layers) []

theorem evaluate_first_visits (hprevious : options.previous_response_hash.isSome)
    {c : GcirContext} (h : evaluate_first env depth hasher orders options specs {} = .ok run c) :
    ∃ visits t, visit_specs env depth options orders specs {} = .ok visits t ∧
      run.MadeOf env options visits := by
  obtain ⟨gates, s₁, hgates, h⟩ := ok_of_bind h
  obtain ⟨_, s₂, hpush₂, h⟩ := ok_of_bind h
  obtain ⟨configs, s₃, hconfigs, h⟩ := ok_of_bind h
  obtain ⟨_, s₄, hpush₄, h⟩ := ok_of_bind h
  obtain ⟨dynamic_configs, s₅, hcmabs, h⟩ := ok_of_bind h
  obtain ⟨layers, s₆, hlayers, h⟩ := ok_of_bind h
  obtain ⟨_, s₇, -, h⟩ := ok_of_bind h
  obtain ⟨param_stores, s₈, -, h⟩ := ok_of_bind h
  obtain ⟨replay, s₉, -, h⟩ := ok_of_bind h
  cases h
  have hpushed : ∀ {T : Type} [GCIRHashable T] [HashTerms T] {entries : List (InternedString × T)}
      {s s' : GcirContext} {t : EvaluatorContext}, Mirrored env options s t →
      hash_entries hasher orders options entries s = .ok () s' → Mirrored env options s' t := by
    intro T _ _ entries s s' t hm hpush
    rw [hash_entries_run hprevious] at hpush
    cases hpush
    exact ⟨hm.next, hm.hashes⟩
  obtain ⟨visited_gates, t₁, hvisit₁, hentries₁, hm₁⟩ :=
    process_keys_mirrors _ _ _ _ {} {} gates s₁ (fresh_mirrored env options) hgates
  obtain ⟨visited_configs, t₂, hvisit₂, hentries₂, hm₂⟩ :=
    process_keys_mirrors _ _ _ _ s₂ t₁ configs s₃ (hpushed hm₁ hpush₂) hconfigs
  obtain ⟨visited_cmabs, t₃, hvisit₃, hentries₃, hm₃⟩ := add_cmab_evaluations_mirrors orders specs
    (collect_results env options configs) s₄ t₂ dynamic_configs s₅ (hpushed hm₂ hpush₄) hcmabs
  obtain ⟨visited_layers, t₄, hvisit₄, hentries₄, -⟩ :=
    process_keys_mirrors _ _ _ _ s₅ t₃ layers s₆ hm₃ hlayers
  refine ⟨⟨visited_gates, visited_configs, visited_cmabs, visited_layers⟩, t₄, ?_, ?_⟩
  · unfold visit_specs
    rw [bind_apply, hvisit₁, andThen_ok, bind_apply, hvisit₂, andThen_ok, bind_apply, hvisit₃,
      andThen_ok, bind_apply, hvisit₄]
    rfl
  · have hspecs : collect_results env options configs = entry_map env options
        (make_entries env options (config_factory options) visited_configs) [] := by
      rw [hentries₂, collect_entries]
    refine ⟨?_, hspecs, ?_, ?_⟩
    · rw [hentries₁, collect_entries]
    · dsimp only
      rw [hentries₃, hspecs]
      unfold make_entries
      rw [List.map_append, entry_map_append]
    · rw [hentries₄, collect_entries]

/-- A relation of the entries is one of the evaluations that they are made of. -/
theorem entries_related_iff {T : Type} {R : T → T → Prop} {U : Visit → Visit → Prop}
    {f f' : Visit → T} {o o' : Option Visit}
    (h : ∀ visit visit', o = some visit → o' = some visit' →
      (R (f visit) (f' visit') ↔ U visit visit')) :
    (∀ eval eval', o.map f = some eval → o'.map f' = some eval' → R eval eval') ↔
      ∀ visit visit', o = some visit → o' = some visit' → U visit visit' := by
  cases o with
  | none => simp
  | some visit =>
    cases o' with
    | none => simp
    | some visit' => simpa using h visit visit' rfl rfl

theorem options_related_iff {T : Type} {R : T → T → Prop} {U : Visit → Visit → Prop}
    {f f' : Visit → T} {o o' : Option Visit}
    (h : ∀ visit visit', o = some visit → o' = some visit' →
      (R (f visit) (f' visit') ↔ U visit visit')) :
    Option.Rel R (o.map f) (o'.map f') ↔ Option.Rel U o o' := by
  cases o with
  | none => cases o' <;> simp
  | some visit =>
    cases o' with
    | none => simp
    | some visit' => simpa using h visit visit' rfl rfl

theorem FirstRun.MadeOf.get_gate (hof : run.MadeOf env options visits) (key : String) :
    run.parts.feature_gates.get key =
      ((shown_visits env options visits.gates).get key).map (gate_of env options) := by
  rw [hof.gates, make_entries_get]
  rfl

theorem FirstRun.MadeOf.get_layer (hof : run.MadeOf env options visits) (key : String) :
    run.parts.layer_configs.get key =
      ((shown_visits env options visits.layers).get key).map (layer_of env options) := by
  rw [hof.layers, make_entries_get]
  rfl

theorem FirstRun.MadeOf.get_config (hof : run.MadeOf env options visits) (key : String) :
    run.parts.dynamic_configs.get key =
      ((shown_visits env options (visits.configs ++ visits.cmabs)).get key).map
        (config_of env options) := by
  rw [hof.configs, make_entries_get]
  rfl

/-- The bandits leave the entries of the specs where their keys are others. -/
theorem FirstRun.MadeOf.get_spec (hof : run.MadeOf env options visits)
    (horders : orders.Fits specs) (hmade : run.Made env depth orders options specs) {key : String}
    (hkey : key ∉ bandit_keys env options specs) :
    run.parts.dynamic_configs.get key =
      ((shown_visits env options visits.configs).get key).map (config_of env options) := by
  obtain ⟨s, t, hrun⟩ := hmade.dynamic_configs
  rw [add_cmab_evaluations_get horders hrun hkey, hof.specs, make_entries_get]
  rfl

theorem FirstRun.Made.get_store (hmade : run.Made env depth orders options specs) (key : String) :
    run.parts.param_stores.get key =
      ((shown_stores env orders options specs).get key).map
        (get_parameters_from_store env options) := by
  rw [hmade.param_stores, response_stores_get]

/-- Two evaluations that are shown under one key give the same entry just when they answer
alike. -/
theorem shown_answer_iff {key : String} {shown shown' : List Visit} (visit visit' : Visit)
    (hvisit : (shown_visits env options shown).get key = some visit)
    (hvisit' : (shown_visits env' options shown').get key = some visit') :
    SameConfig (config_of env options visit) (config_of env' options visit') ↔
      SameAnswer env env' options visit visit' :=
  same_config_answer_iff
    ((shown_visits_name env options hvisit).trans (shown_visits_name env' options hvisit').symm)

/-- Entries agree in what no hash is computed from just when the evaluations do. -/
theorem same_unhashed_iff (horders : orders.Fits specs) (horders' : orders'.Fits specs')
    (hmade : run.Made env depth orders options specs)
    (hmade' : run'.Made env' depth orders' options specs') (hof : run.MadeOf env options visits)
    (hof' : run'.MadeOf env' options visits') :
    SameUnhashed {key | key ∈ bandit_keys env options specs ∨ key ∈ bandit_keys env' options specs'}
        run.parts run'.parts ↔
      AlikeUnhashed env env' orders orders' options specs specs' visits visits' := by
  constructor
  · intro h
    refine ⟨fun key => ?_, fun key visit visit' hkey hkey' => ?_, fun key hkey => ?_,
      fun key => ?_, fun key store store' hget hget' => ?_⟩
    · have hentries := h.feature_gates key
      rw [hof.get_gate, hof'.get_gate] at hentries
      exact (entries_related_iff (R := fun eval eval' : GateEvaluation =>
        eval.id_type = eval'.id_type) fun _ _ _ _ => same_unhashed_gate_iff).mp hentries
    · have hentries := h.dynamic_configs key
      rw [hof.get_spec horders hmade hkey, hof'.get_spec horders' hmade' hkey'] at hentries
      exact (entries_related_iff fun _ _ _ _ => same_unhashed_config_iff).mp
        (fun eval eval' => hentries eval eval' fun hmem => hmem.elim hkey hkey') visit visit'
    · have hentries := h.bandits key hkey
      rw [hof.get_config, hof'.get_config] at hentries
      exact (options_related_iff shown_answer_iff).mp hentries
    · have hentries := h.layer_configs key
      rw [hof.get_layer, hof'.get_layer] at hentries
      exact (entries_related_iff fun _ _ _ _ => same_unhashed_layer_iff).mp hentries
    · refine h.param_stores key _ _ ?_ ?_
      · rw [hmade.get_store, hget, Option.map_some]
      · rw [hmade'.get_store, hget', Option.map_some]
  · intro h
    refine ⟨fun key => ?_, fun key eval eval' hkey => ?_, fun key hkey => ?_, fun key => ?_,
      fun key store store' hget hget' => ?_⟩
    · rw [hof.get_gate, hof'.get_gate]
      exact (entries_related_iff (R := fun eval eval' : GateEvaluation =>
        eval.id_type = eval'.id_type) fun _ _ _ _ => same_unhashed_gate_iff).mpr (h.gates key)
    · obtain ⟨hkey, hkey'⟩ := not_or.mp hkey
      rw [hof.get_spec horders hmade hkey, hof'.get_spec horders' hmade' hkey']
      exact (entries_related_iff fun _ _ _ _ => same_unhashed_config_iff).mpr
        (fun visit visit' => h.configs key visit visit' hkey hkey') eval eval'
    · rw [hof.get_config, hof'.get_config]
      exact (options_related_iff shown_answer_iff).mpr (h.bandits key hkey)
    · rw [hof.get_layer, hof'.get_layer]
      exact (entries_related_iff fun _ _ _ _ => same_unhashed_layer_iff).mpr (h.layers key)
    · rw [hmade.get_store] at hget
      rw [hmade'.get_store] at hget'
      obtain ⟨_, hshown, rfl⟩ := Option.map_eq_some_iff.mp hget
      obtain ⟨_, hshown', rfl⟩ := Option.map_eq_some_iff.mp hget'
      exact h.param_stores key _ _ hshown hshown'

end

/-- Two inputs with one hash get the same response, exactly where the evaluator and the stores
answer alike in what no hash is computed from. A response that is not blank holds the parts of
its run. -/
theorem equal_hash_is_equal_response_but_for_the_unhashed (outside outside' : EvaluatorEnv)
    (hhashing : outside.hashing = outside'.hashing) (hasher : Hasher)
    (options : ClientInitResponseOptions) (hprevious : options.previous_response_hash.isSome)
    (specs specs' : specs_response.SpecsResponseFull) (orders orders' : MapOrders)
    (horders : orders.Fits specs) (horders' : orders'.Fits specs') (depth : Nat) :
    let env := create_gcir_eval_context outside specs options
    let env' := create_gcir_eval_context outside' specs' options
    ∀ run c response s run' c' response' s',
      evaluate_first env depth hasher orders options specs {} = .ok run c →
      generate_v1_format env depth hasher orders options specs {} = .ok response s →
      evaluate_first env' depth hasher orders' options specs' {} = .ok run' c' →
      generate_v1_format env' depth hasher orders' options specs' {} = .ok response' s' →
      CollisionFree hasher (run.terms env orders options specs)
        (run'.terms env' orders' options specs') →
      full_response_hash hasher s.gcir_hashes = full_response_hash hasher s'.gcir_hashes →
      (∃ visits t visits' t', visit_specs env depth options orders specs {} = .ok visits t ∧
        visit_specs env' depth options orders' specs' {} = .ok visits' t' ∧
        (SameParts run.parts run'.parts ↔
          AlikeUnhashed env env' orders orders' options specs specs' visits visits')) ∧
      (response.has_updates = true → response.parts = run.parts) ∧
      (response'.has_updates = true → response'.parts = run'.parts) := by
  intro env env' run c response s run' c' response' s' hrun hresponse hrun' hresponse' hno hhash
  have hsame : env.hashing = env'.hashing := hhashing
  clear_value env env'
  obtain ⟨hparts, hs⟩ := updated_response_parts hprevious hrun hresponse
  obtain ⟨hparts', hs'⟩ := updated_response_parts hprevious hrun' hresponse'
  have hmade := evaluate_first_made hprevious hrun
  have hmade' := evaluate_first_made hprevious hrun'
  obtain ⟨visits, t, hvisits, hof⟩ := evaluate_first_visits hprevious hrun
  obtain ⟨visits', t', hvisits', hof'⟩ := evaluate_first_visits hprevious hrun'
  rw [hs, hs'] at hhash
  refine ⟨⟨visits, t, visits', t', hvisits, hvisits', ?_⟩, hparts, hparts'⟩
  have hterms := terms_of_full_response_hash hmade hmade' hno hhash
  exact (same_parts_iff hsame horders horders' hmade hmade' hterms).trans
    (same_unhashed_iff horders horders' hmade hmade' hof hof')

/-! ## A bandit with another group -/

/-- A bandit that gives every user its only group, and nothing else. -/
def specs_with_bandit (group : InternedString) : specs_response.SpecsResponseFull where
  cmab_configs := some [("bandit", {
    salt := "salt"
    default_value := .null
    id_type := ⟨"userID", "userid"⟩
    enabled := true
    version := 1
    sample_rate := 0
    higher_is_better := true
    groups := [{ name := group, parameter_values := .null, id := group }]
    config := none
    targeting_gate_name := none })]

/-- A hasher of lists that tells their lengths apart. -/
def list_hasher : Hasher := ⟨fun hashes => hashes.length + 1, fun _ => 1, fun _ => 1⟩

def bandit_env (group : InternedString) : EvaluatorEnv :=
  create_gcir_eval_context (.plain {}) (specs_with_bandit group) returning_client

def bandit_run (group : InternedString) : Outcome GcirContext StatsigErr FirstRun :=
  evaluate_first (bandit_env group) MAX_RECURSIVE_DEPTH list_hasher
    (some_orders (specs_with_bandit group)) returning_client (specs_with_bandit group) {}

def bandit_response (group : InternedString) :
    Outcome GcirContext StatsigErr InitializeResponse :=
  generate_v1_format (bandit_env group) MAX_RECURSIVE_DEPTH list_hasher
    (some_orders (specs_with_bandit group)) returning_client (specs_with_bandit group) {}

def rule_id_of : AnyConfigEvaluation → String
  | .DynamicConfig eval => eval.base.rule_id.text
  | .Experiment eval => eval.base.rule_id.text

/-- The rule of the bandit, in a run that evaluates no spec. -/
def bandit_rule (outcome : Outcome GcirContext StatsigErr FirstRun) : Option String :=
  match outcome with
  | .ok run _ =>
    if run.gates.isEmpty && run.configs.isEmpty && run.layers.isEmpty then
      (run.parts.dynamic_configs.get "bandit").map rule_id_of
    else none
  | _ => none

theorem bandit_rule_run {outcome : Outcome GcirContext StatsigErr FirstRun} {rule : String}
    (h : bandit_rule outcome = some rule) : ∃ run c, outcome = .ok run c ∧
      run.gates = [] ∧ run.configs = [] ∧ run.layers = [] ∧
      (run.parts.dynamic_configs.get "bandit").map rule_id_of = some rule := by
  cases outcome with
  | ok run c =>
    unfold bandit_rule at h
    dsimp only at h
    split at h
    · rename_i hempty
      simp only [Bool.and_eq_true, List.isEmpty_iff] at hempty
      exact ⟨run, c, rfl, hempty.1.1, hempty.1.2, hempty.2, h⟩
    · cases h
  | err e c => cases h
  | deep => cases h

/-- Only empty lists are hashed for such a run. -/
theorem bandit_terms {group : InternedString} {run : FirstRun} {c : GcirContext}
    (hrun : bandit_run group = .ok run c) (hgates : run.gates = []) (hconfigs : run.configs = [])
    (hlayers : run.layers = []) :
    run.terms (bandit_env group) (some_orders (specs_with_bandit group)) returning_client
      (specs_with_bandit group) = [.list [], .list [], .list [], .number 0, .number 0] := by
  have hreplay : run.replay = .number 0 := (evaluate_first_made rfl hrun).replay
  unfold FirstRun.terms
  rw [hgates, hconfigs, hlayers, hreplay]
  rfl

theorem empty_lists_collision_free :
    CollisionFree list_hasher [.list [], .list [], .list [], .number 0, .number 0]
      [.list [], .list [], .list [], .number 0, .number 0] where
  atoms a ha := absurd ha List.not_mem_nil
  lists := by decide
  atom_hash a ha := by
    rcases ha with ha | ha
    · exact absurd ha List.not_mem_nil
    · exact absurd ha List.not_mem_nil
  list_hash l _ := Nat.succ_ne_zero l.length

/-- A bandit that gives another group leaves the hash as it was. -/
theorem bandit_group_is_not_hashed :
    ¬ ∀ (outside outside' : EvaluatorEnv), outside.hashing = outside'.hashing →
      ∀ (hasher : Hasher) (options : ClientInitResponseOptions),
      options.previous_response_hash.isSome →
      ∀ (specs specs' : specs_response.SpecsResponseFull) (orders orders' : MapOrders),
      orders.Fits specs → orders'.Fits specs' → ∀ depth, MAX_RECURSIVE_DEPTH ≤ depth →
      ∀ run c response s run' c' response' s',
      evaluate_first (create_gcir_eval_context outside specs options) depth hasher orders options
        specs {} = .ok run c →
      generate_v1_format (create_gcir_eval_context outside specs options) depth hasher orders
        options specs {} = .ok response s →
      evaluate_first (create_gcir_eval_context outside' specs' options) depth hasher orders'
        options specs' {} = .ok run' c' →
      generate_v1_format (create_gcir_eval_context outside' specs' options) depth hasher orders'
        options specs' {} = .ok response' s' →
      CollisionFree hasher
        (run.terms (create_gcir_eval_context outside specs options) orders options specs)
        (run'.terms (create_gcir_eval_context outside' specs' options) orders' options specs') →
      full_response_hash hasher s.gcir_hashes = full_response_hash hasher s'.gcir_hashes →
      SameParts run.parts run'.parts := by
  intro h
  have hrule : bandit_rule (bandit_run "a") = some "a:explore" := by decide +kernel
  have hrule' : bandit_rule (bandit_run "b") = some "b:explore" := by decide +kernel
  have hhash : hash_of_run list_hasher (bandit_response "a") =
      hash_of_run list_hasher (bandit_response "b") := by decide +kernel
  have hsome : hash_of_run list_hasher (bandit_response "a") ≠ none := by decide +kernel
  obtain ⟨response, s, hresponse⟩ := run_of_hash list_hasher hsome
  rw [hhash] at hsome
  obtain ⟨response', s', hresponse'⟩ := run_of_hash list_hasher hsome
  obtain ⟨run, c, hrun, hgates, hconfigs, hlayers, hbandit⟩ := bandit_rule_run hrule
  obtain ⟨run', c', hrun', hgates', hconfigs', hlayers', hbandit'⟩ := bandit_rule_run hrule'
  rw [hresponse, hresponse'] at hhash
  have hno : CollisionFree list_hasher
      (run.terms (bandit_env "a") (some_orders (specs_with_bandit "a")) returning_client
        (specs_with_bandit "a"))
      (run'.terms (bandit_env "b") (some_orders (specs_with_bandit "b")) returning_client
        (specs_with_bandit "b")) := by
    rw [bandit_terms hrun hgates hconfigs hlayers, bandit_terms hrun' hgates' hconfigs' hlayers']
    exact empty_lists_collision_free
  have hsame := h (.plain {}) (.plain {}) rfl list_hasher returning_client rfl
    (specs_with_bandit "a") (specs_with_bandit "b") _ _ (some_orders_fit _) (some_orders_fit _)
    MAX_RECURSIVE_DEPTH (Nat.le_refl _) run c response s run' c' response' s' hrun hresponse hrun'
    hresponse' hno (Option.some.inj hhash)
  have hrel := hsame.dynamic_configs "bandit"
  generalize run.parts.dynamic_configs.get "bandit" = o at hbandit hrel
  generalize run'.parts.dynamic_configs.get "bandit" = o' at hbandit' hrel
  cases hrel with
  | none => cases hbandit
  | @some eval eval' hconfig =>
    have htext : rule_id_of eval = rule_id_of eval' := by
      cases eval with
      | DynamicConfig eval =>
        cases eval' with
        | DynamicConfig eval' => exact hconfig.base.rule_id
        | Experiment eval' => exact hconfig.elim
      | Experiment eval =>
        cases eval' with
        | DynamicConfig eval' => exact hconfig.elim
        | Experiment eval' => exact hconfig.base.rule_id
    simp only [Option.map_some, Option.some.injEq] at hbandit hbandit'
    rw [htext, hbandit'] at hbandit
    exact absurd hbandit (by decide)

/-! ## Two users of two downloads -/

/-- A gate that everyone passes beside the bandit. -/
def specs_with_gate (salt : InternedString) : specs_response.SpecsResponseFull :=
  { specs_with_bandit "a" with
    feature_gates := [("gate", { salt, rules := [{ id := "everyone", conditions := [] }] })] }

/-- A hasher that tells apart the texts and the lists of this response. -/
def numbering_hasher : Hasher :=
  ⟨fun hashes => hashes.foldl (fun hash next => 1000 * hash + next + 1) 1, String.length,
    List.length⟩

def user_named (name : String) : EvaluatorEnv :=
  { EvaluatorEnv.plain {} with
    user := { data := { user_id := some { string_value := some ⟨name, name⟩ } } } }

section

variable (name : String) (salt : InternedString)

def gate_env : EvaluatorEnv :=
  create_gcir_eval_context (user_named name) (specs_with_gate salt) returning_client

def gate_run : Outcome GcirContext StatsigErr FirstRun :=
  evaluate_first (gate_env name salt) MAX_RECURSIVE_DEPTH numbering_hasher
    (some_orders (specs_with_gate salt)) returning_client (specs_with_gate salt) {}

def gate_response : Outcome GcirContext StatsigErr InitializeResponse :=
  generate_v1_format (gate_env name salt) MAX_RECURSIVE_DEPTH numbering_hasher
    (some_orders (specs_with_gate salt)) returning_client (specs_with_gate salt) {}

def gate_visits : Outcome EvaluatorContext StatsigErr Visits :=
  visit_specs (gate_env name salt) MAX_RECURSIVE_DEPTH returning_client
    (some_orders (specs_with_gate salt)) (specs_with_gate salt) {}

end

/-- What the hash of a run with one gate is computed from. -/
def hashed_gate (run : FirstRun) :
    Option (InternedString × Bool × Interned × List SecondaryExposure) :=
  match run.gates, run.configs, run.layers with
  | [(name, eval)], [], [] =>
    some (name, eval.value, eval.base.rule_id, eval.base.secondary_exposures)
  | _, _, _ => none

def gate_terms : List HashTerm := [
  .list [.list [text_term "gate", .number 1, text_term "everyone", .list []]],
  .list [], .list [], .number 0, .number 0]

theorem gate_run_terms {name : String} {salt : InternedString} {run : FirstRun} {c : GcirContext}
    (hrun : gate_run name salt = .ok run c)
    (hgate : hashed_gate run = some ("gate", true, .stored "everyone", [])) :
    run.terms (gate_env name salt) (some_orders (specs_with_gate salt)) returning_client
      (specs_with_gate salt) = gate_terms := by
  have hreplay : run.replay = .number 0 := (evaluate_first_made rfl hrun).replay
  unfold hashed_gate at hgate
  split at hgate
  · rename_i gate eval hgates hconfigs hlayers
    simp only [Option.some.injEq, Prod.mk.injEq] at hgate
    obtain ⟨rfl, hvalue, hrule, hexposures⟩ := hgate
    unfold FirstRun.terms
    rw [hgates, hconfigs, hlayers, hreplay]
    show [Term.list [gate_term eval "gate"], _, _, _, _] = _
    unfold gate_term
    rw [hvalue, hrule, hexposures]
    rfl
  · cases hgate

theorem gate_terms_collision_free : CollisionFree numbering_hasher gate_terms gate_terms where
  atoms := by
    intro atom hatom atom' hatom' _ hlength
    have hgate : ∀ atom ∈ Term.atoms (.list gate_terms),
        atom = .text "gate" ∨ atom = .text "everyone" := by
      simp [gate_terms, text_term, Term.atoms, Term.atoms_of]
    rcases hgate atom hatom with rfl | rfl
    · rcases hgate atom' hatom' with rfl | rfl
      · rfl
      · exact absurd hlength (by decide)
    · rcases hgate atom' hatom' with rfl | rfl
      · exact absurd hlength (by decide)
      · rfl
  lists := by decide +kernel
  atom_hash := by
    intro atom hatom
    have hgate : ∀ atom ∈ Term.atoms (.list gate_terms),
        atom = .text "gate" ∨ atom = .text "everyone" := by
      simp [gate_terms, text_term, Term.atoms, Term.atoms_of]
    rcases hgate atom (hatom.elim id id) with rfl | rfl
    · decide
    · decide
  list_hash := by
    intro hashes hmem
    have hall : ∀ hashes ∈ Term.lists numbering_hasher.scheme (.list gate_terms),
        numbering_hasher.scheme.hash_list hashes ≠ 0 := by decide +kernel
    exact hall hashes (hmem.elim id id)

/-- What a client gets of the answer for a bandit, but for its value. -/
structure BanditAnswer where
  name : InternedString
  entity : InternedString
  id_type : Option InternedString
  rule_id : String
  secondary_exposures : List SecondaryExposure
  is_in_layer : Bool
  explicit_parameters : Option (List InternedString)
  group_name : Option InternedString
deriving DecidableEq

def bandit_answer (visit : Visit) : BanditAnswer where
  name := visit.name
  entity := visit.entity
  id_type := visit.result.id_type
  rule_id := suffixed visit.result.rule_id visit.result.rule_id_suffix
  secondary_exposures := visit.result.secondary_exposures
  is_in_layer := visit.result.is_in_layer
  explicit_parameters := visit.result.explicit_parameters
  group_name := visit.result.group_name

/-- The id type of the gate, and the answer for a bandit without a value. -/
def gate_and_bandit (visits : Visits) : Option (Option InternedString × BanditAnswer) :=
  match visits.gates, visits.configs, visits.cmabs, visits.layers with
  | [gate], [], [bandit], [] =>
    match bandit.result.json_value with
    | some .null => some (gate.result.id_type, bandit_answer bandit)
    | _ => none
  | _, _, _, _ => none

/-- The bandit of the two downloads. -/
def bandit_a : BanditAnswer where
  name := "bandit"
  entity := "autotune"
  id_type := some "userID"
  rule_id := "a:explore"
  secondary_exposures := []
  is_in_layer := false
  explicit_parameters := none
  group_name := some "a"

theorem same_answer_of_bandit_a {env env' : EvaluatorEnv} {options : ClientInitResponseOptions}
    {visit visit' : Visit} (h : bandit_answer visit = bandit_a)
    (h' : bandit_answer visit' = bandit_a) (hvalue : visit.result.json_value = some .null)
    (hvalue' : visit'.result.json_value = some .null) :
    SameAnswer env env' options visit visit' := by
  have hentity : visit.entity = "autotune" := congrArg BanditAnswer.entity h
  have hentity' : visit'.entity = "autotune" := congrArg BanditAnswer.entity h'
  have hid : visit.result.id_type = visit'.result.id_type :=
    congrArg BanditAnswer.id_type (h.trans h'.symm)
  have hno : ∀ (env : EvaluatorEnv) (visit : Visit), bandit_answer visit = bandit_a →
      (hashed env options visit.result).secondary_exposures = [] := by
    intro env visit h
    have hnone : visit.result.secondary_exposures = [] :=
      congrArg BanditAnswer.secondary_exposures h
    unfold hashed
    rw [hnone]
    rfl
  refine ⟨by rw [hentity, hentity'], congrArg BanditAnswer.rule_id (h.trans h'.symm), ?_,
    ⟨by rw [hid], by rw [hid]⟩, ?_, fun hdynamic => ?_,
    fun _ => congrArg BanditAnswer.is_in_layer (h.trans h'.symm),
    fun _ => congrArg BanditAnswer.explicit_parameters (h.trans h'.symm),
    fun _ => congrArg BanditAnswer.group_name (h.trans h'.symm), fun _ => ?_⟩
  · rw [hno env visit h, hno env' visit' h']
  · unfold get_json_value
    rw [hvalue, hvalue']
    trivial
  · rw [hentity] at hdynamic
    exact absurd hdynamic (by decide)
  · unfold membership
    rw [hentity, hentity']
    rfl

/-- The evaluations of the gate and of the bandit, when they are known so far. -/
theorem visits_of_answers {visits : Visits} {id_type : Option InternedString}
    {answer : BanditAnswer} (h : gate_and_bandit visits = some (id_type, answer)) :
    ∃ gate bandit, visits = ⟨[gate], [], [bandit], []⟩ ∧ gate.result.id_type = id_type ∧
      bandit_answer bandit = answer ∧ bandit.result.json_value = some .null := by
  obtain ⟨gates, configs, cmabs, layers⟩ := visits
  unfold gate_and_bandit at h
  dsimp only at h
  split at h
  · rename_i gate bandit
    split at h
    · rename_i hnull
      obtain ⟨hid, hanswer⟩ := Prod.mk.inj (Option.some.inj h)
      exact ⟨gate, bandit, rfl, hid, hanswer, hnull⟩
    · cases h
  · cases h

theorem shown_visits_mem {env : EvaluatorEnv} {options : ClientInitResponseOptions}
    {visits : List Visit} {key : String} {visit : Visit}
    (h : (shown_visits env options visits).get key = some visit) : visit ∈ visits := by
  rcases entry_map_get h with ⟨visit', hmem, -⟩ | hnone
  · obtain ⟨other, hother, heq⟩ := List.mem_map.mp hmem
    cases heq
    exact hother
  · rw [HashMap.get_nil] at hnone
    cases hnone

theorem shown_visits_one (env : EvaluatorEnv) (options : ClientInitResponseOptions) (visit : Visit)
    (key : String) : (shown_visits env options [visit]).get key =
      if key = hashed_name env options visit then some visit else none :=
  HashMap.get_insert [] (hashed_name env options visit) key visit

/-- Two users of two downloads with one hash get the same gate and the same bandit. -/
theorem two_users_of_one_hash :
    ∃ run c run' c', gate_run "ada" "salt" = .ok run c ∧ gate_run "bob" "pepper" = .ok run' c' ∧
      SameParts run.parts run'.parts := by
  have hgate : (value_of (gate_run "ada" "salt")).bind hashed_gate =
      some ("gate", true, .stored "everyone", []) := by decide +kernel
  have hgate' : (value_of (gate_run "bob" "pepper")).bind hashed_gate =
      some ("gate", true, .stored "everyone", []) := by decide +kernel
  have hhash : hash_of_run numbering_hasher (gate_response "ada" "salt") =
      hash_of_run numbering_hasher (gate_response "bob" "pepper") := by decide +kernel
  have hsome : hash_of_run numbering_hasher (gate_response "ada" "salt") ≠ none := by
    decide +kernel
  have hanswers : (value_of (gate_visits "ada" "salt")).bind gate_and_bandit =
      some (some "userID", bandit_a) := by decide +kernel
  have hanswers' : (value_of (gate_visits "bob" "pepper")).bind gate_and_bandit =
      some (some "userID", bandit_a) := by decide +kernel
  obtain ⟨response, s, hresponse⟩ := run_of_hash numbering_hasher hsome
  rw [hhash] at hsome
  obtain ⟨response', s', hresponse'⟩ := run_of_hash numbering_hasher hsome
  obtain ⟨run, hvalue, hgate⟩ := Option.bind_eq_some_iff.mp hgate
  obtain ⟨run', hvalue', hgate'⟩ := Option.bind_eq_some_iff.mp hgate'
  obtain ⟨c, hrun⟩ := run_of_value hvalue
  obtain ⟨c', hrun'⟩ := run_of_value hvalue'
  rw [hresponse, hresponse'] at hhash
  have hno : CollisionFree numbering_hasher
      (run.terms (gate_env "ada" "salt") (some_orders (specs_with_gate "salt")) returning_client
        (specs_with_gate "salt"))
      (run'.terms (gate_env "bob" "pepper") (some_orders (specs_with_gate "pepper"))
        returning_client (specs_with_gate "pepper")) := by
    rw [gate_run_terms hrun hgate, gate_run_terms hrun' hgate']
    exact gate_terms_collision_free
  obtain ⟨⟨visits, t, visits', t', hvisits, hvisits', hiff⟩, -, -⟩ :=
    equal_hash_is_equal_response_but_for_the_unhashed (user_named "ada") (user_named "bob") rfl
      numbering_hasher returning_client rfl (specs_with_gate "salt") (specs_with_gate "pepper") _ _
      (some_orders_fit _) (some_orders_fit _) MAX_RECURSIVE_DEPTH run c response s run' c' response'
      s' hrun hresponse hrun' hresponse' hno (Option.some.inj hhash)
  refine ⟨run, c, run', c', hrun, hrun', hiff.mpr ?_⟩
  rw [show gate_visits "ada" "salt" = .ok visits t from hvisits] at hanswers
  rw [show gate_visits "bob" "pepper" = .ok visits' t' from hvisits'] at hanswers'
  obtain ⟨gate, bandit, rfl, hid, hanswer, hnull⟩ := visits_of_answers hanswers
  obtain ⟨gate', bandit', rfl, hid', hanswer', hnull'⟩ := visits_of_answers hanswers'
  refine ⟨fun key visit visit' hget hget' => ?_, fun key visit visit' _ _ hget => ?_,
    fun key _ => ?_, fun key visit visit' hget => ?_, fun key store store' hget => ?_⟩
  · rw [List.mem_singleton.mp (shown_visits_mem hget),
      List.mem_singleton.mp (shown_visits_mem hget'), hid, hid']
  · cases shown_visits_mem hget
  · have hsame : SameAnswer (gate_env "ada" "salt") (gate_env "bob" "pepper") returning_client
        bandit bandit' := same_answer_of_bandit_a hanswer hanswer' hnull hnull'
    have hname : bandit.name = bandit'.name :=
      congrArg BanditAnswer.name (hanswer.trans hanswer'.symm)
    have hhashed : hashed_name (gate_env "ada" "salt") returning_client bandit =
        hashed_name (gate_env "bob" "pepper") returning_client bandit' := by
      unfold hashed_name
      rw [hname]
      rfl
    change Option.Rel (SameAnswer (gate_env "ada" "salt") (gate_env "bob" "pepper") _)
      ((shown_visits (gate_env "ada" "salt") _ [bandit]).get key)
      ((shown_visits (gate_env "bob" "pepper") _ [bandit']).get key)
    rw [shown_visits_one, shown_visits_one, hhashed]
    split
    · exact .some hsame
    · exact .none
  · cases shown_visits_mem hget
  · cases hget

end statsig_rust.gcir
