-- The exposures of an init_v2 response. Its entries list ids, and the table gives for each id an
-- exposure of the visit. The gates, configs and layers show what is due. A bandit shows what
-- its evaluation recorded, with the names of the gates as they are.
import StatsigCore.ClientInit.HashedNames

open program interning

namespace statsig_rust.evaluation

/-! ## What an entry lists -/

/-- The ids that an entry lists, and those of its undelegated exposures. -/
abbrev Listed := List InternedString × List InternedString

def GateEvaluationInitV2.listed (eval : GateEvaluationInitV2) : Listed :=
  (eval.base.secondary_exposures.getD [], [])

def AnyConfigEvaluationInitV2.listed : AnyConfigEvaluationInitV2 → Listed
  | .DynamicConfig eval => (eval.base.secondary_exposures.getD [], [])
  | .Experiment eval => (eval.base.secondary_exposures.getD [], [])

def LayerEvaluationInitV2.listed (eval : LayerEvaluationInitV2) : Listed :=
  (eval.base.secondary_exposures.getD [], eval.undelegated_secondary_exposures.getD [])

end statsig_rust.evaluation

namespace statsig_rust.gcir

open evaluation

/-! ## Entries and conversions -/

section

variable (env : EvaluatorEnv) (options : ClientInitResponseOptions) (storage : Storage)

/-- What the factories convert for a visit. -/
def gate_conversion (visit : Visit) : Conversion :=
  .gate (storage.store (hashed_name env options visit) (hashed env options visit.result))

def config_conversion (prepare : EvaluatorResult → EvaluatorResult) (visit : Visit) : Conversion :=
  let result := storage.store (hashed_name env options visit) (prepare visit.result)
  if visit.entity = "dynamic_config" then .dynamic_config result
  else .experiment (some visit.entity) result

def layer_conversion (visit : Visit) : Conversion :=
  .layer (storage.store (hashed_name env options visit) (hashed env options visit.result))

/-- The conversions of a response. -/
def init_conversions (visits : Visits) : List Conversion :=
  visits.gates.map (gate_conversion env options storage) ++
    visits.configs.map (config_conversion env options storage (hashed env options)) ++
    visits.cmabs.map (config_conversion env options storage id) ++
    visits.layers.map (layer_conversion env options storage)

end

section

variable {env : EvaluatorEnv} {options : ClientInitResponseOptions} {storage : Storage}
  {hasher : Hasher} {T : Type}

/-- A factory that lists what a conversion lists, and leaves the tables that it leaves. -/
def Converts (env : EvaluatorEnv) (options : ClientInitResponseOptions) (hasher : Hasher)
    (evaluation_factory : TableFactory InitTables T) (prepare : EvaluatorResult → EvaluatorResult)
    (listed : T → Listed) (conversion : Visit → Conversion) : Prop :=
  ∀ visit tables,
    let made := evaluation_factory visit.entity (hashed_name env options visit)
      (prepare visit.result) tables
    let converted := (conversion visit).convert hasher tables
    listed made.1 = (converted.1.exposure_ids, converted.1.undelegated_ids) ∧
      made.2 = converted.2

variable (env options storage hasher) in
theorem gate_factory_converts : Converts env options hasher
    (gate_factory_init_v2 hasher options storage) (hashed env options)
    GateEvaluationInitV2.listed (gate_conversion env options storage) :=
  fun _ _ => ⟨rfl, rfl⟩

variable (env options storage hasher) in
theorem config_factory_converts (prepare : EvaluatorResult → EvaluatorResult) :
    Converts env options hasher (config_factory_init_v2 hasher options storage) prepare
      AnyConfigEvaluationInitV2.listed (config_conversion env options storage prepare) := by
  intro visit tables
  unfold config_factory_init_v2 config_conversion
  dsimp only
  by_cases hentity : visit.entity = "dynamic_config"
  · rw [if_pos hentity, if_pos hentity]
    exact ⟨rfl, rfl⟩
  · rw [if_neg hentity, if_neg hentity]
    exact ⟨rfl, rfl⟩

variable (env options storage hasher) in
theorem layer_factory_converts : Converts env options hasher
    (layer_factory_init_v2 env hasher options storage) (hashed env options)
    LayerEvaluationInitV2.listed (layer_conversion env options storage) :=
  fun _ _ => ⟨rfl, rfl⟩

/-- The table gives the ids of the exposures. -/
structure ListedAt (hasher : Hasher) (tables : InitTables) (conversion : Conversion)
    (listed : Listed) : Prop where
  exposures : ExposuresAt hasher tables conversion.result.exposures listed.1
  undelegated : ExposuresAt hasher tables conversion.undelegated listed.2

theorem ListedAt.keep {tables tables' : InitTables} {conversion : Conversion} {listed : Listed}
    (h : ListedAt hasher tables conversion listed) (hkept : Kept tables tables') :
    ListedAt hasher tables' conversion listed :=
  ⟨h.exposures.keep hkept, h.undelegated.keep hkept⟩

/-- What the entries of one loop do to the tables. -/
structure FilledPart (hasher : Hasher) (tables : InitTables) (conversion : Visit → Conversion)
    (listed : T → Listed) (visits : List Visit) (filled : List (Visit × T) × InitTables) :
    Prop where
  held : Held hasher filled.2
  kept : Kept tables filled.2
  entries : ∀ entry ∈ filled.1, ListedAt hasher filled.2 (conversion entry.1) (listed entry.2)
  known : ∀ id x, filled.2.exposures.view.element id = some x →
    tables.exposures.view.element id = some x ∨
      ∃ other ∈ visits.map conversion, x ∈ other.registered

theorem fill_part {evaluation_factory : TableFactory InitTables T}
    {prepare : EvaluatorResult → EvaluatorResult} {listed : T → Listed}
    {conversion : Visit → Conversion}
    (h : Converts env options hasher evaluation_factory prepare listed conversion)
    (visits : List Visit) {tables : InitTables} (hheld : Held hasher tables) :
    FilledPart hasher tables conversion listed visits
      (fill env options evaluation_factory prepare visits tables) := by
  induction visits generalizing tables with
  | nil => exact ⟨hheld, .refl _, fun entry hmem => absurd hmem List.not_mem_nil,
      fun _ _ hold => .inl hold⟩
  | cons visit visits ih =>
    have hstep := convert_spec hheld (conversion visit)
    obtain ⟨hlisted, htables⟩ := h visit tables
    rw [← htables] at hstep
    have hrest := ih hstep.held
    unfold fill
    dsimp only
    refine ⟨hrest.held, hstep.kept.trans hrest.kept, fun entry hmem => ?_, fun id x hget => ?_⟩
    · rcases List.mem_cons.mp hmem with rfl | hmem
      · rw [hlisted]
        exact ListedAt.keep ⟨hstep.registered.exposures, hstep.registered.undelegated⟩ hrest.kept
      · exact hrest.entries entry hmem
    · rcases hrest.known id x hget with hold | ⟨other, hother, hx⟩
      · rcases hstep.exposures id x hold with hold | hx
        · exact .inl hold
        · exact .inr ⟨conversion visit, List.mem_cons_self .., hx⟩
      · exact .inr ⟨other, List.mem_cons_of_mem _ hother, hx⟩

end

/-! ## A whole response -/

abbrev InitFilled := Filled GateEvaluationInitV2 AnyConfigEvaluationInitV2 LayerEvaluationInitV2
  InitTables

section

variable (env : EvaluatorEnv) (options : ClientInitResponseOptions) (storage : Storage)
  (hasher : Hasher)

/-- The entries of an init_v2 response, in the order in which they are made. -/
def init_filled (visits : Visits) : InitFilled :=
  fill_specs (gate_factory_init_v2 hasher options storage)
    (config_factory_init_v2 hasher options storage)
    (layer_factory_init_v2 env hasher options storage) env options id visits {}

/-- Where the entries and the table of a response come from. -/
structure Sourced (visits : Visits) (filled : InitFilled) : Prop where
  held : Held hasher filled.tables
  gates : ∀ entry ∈ filled.gates, entry.1 ∈ visits.gates ∧
    ListedAt hasher filled.tables (gate_conversion env options storage entry.1) entry.2.listed
  configs : ∀ entry ∈ filled.configs,
    (entry.1 ∈ visits.configs ∧ ListedAt hasher filled.tables
      (config_conversion env options storage (hashed env options) entry.1) entry.2.listed) ∨
    (entry.1 ∈ visits.cmabs ∧ ListedAt hasher filled.tables
      (config_conversion env options storage id entry.1) entry.2.listed)
  cmabs : ∀ visit ∈ visits.cmabs, ∃ eval, (visit, eval) ∈ filled.configs ∧
    ListedAt hasher filled.tables (config_conversion env options storage id visit) eval.listed
  layers : ∀ entry ∈ filled.layers, entry.1 ∈ visits.layers ∧
    ListedAt hasher filled.tables (layer_conversion env options storage entry.1) entry.2.listed
  known : ∀ id x, filled.tables.exposures.view.element id = some x →
    ∃ conversion ∈ init_conversions env options storage visits, x ∈ conversion.registered

theorem init_filled_sourced (visits : Visits) :
    Sourced env options storage hasher visits (init_filled env options storage hasher visits) := by
  have hgates := fill_part (gate_factory_converts env options storage hasher) visits.gates
    (fresh_tables_held hasher)
  have hconfigs := fill_part (config_factory_converts env options storage hasher
    (hashed env options)) visits.configs hgates.held
  have hcmabs := fill_part (config_factory_converts env options storage hasher id) visits.cmabs
    hconfigs.held
  have hlayers := fill_part (layer_factory_converts env options storage hasher) visits.layers
    hcmabs.held
  have hafter := hcmabs.kept.trans hlayers.kept
  refine ⟨hlayers.held, fun entry hmem => ⟨(fill_entry hmem).1, ?_⟩, fun entry hmem => ?_,
    fun visit hvisit => ?_, fun entry hmem => ⟨(fill_entry hmem).1, hlayers.entries entry hmem⟩,
    fun id x hget => ?_⟩
  · exact (hgates.entries entry hmem).keep (hconfigs.kept.trans hafter)
  · rcases List.mem_append.mp hmem with hmem | hmem
    · exact .inl ⟨(fill_entry hmem).1, (hconfigs.entries entry hmem).keep hafter⟩
    · exact .inr ⟨(fill_entry hmem).1, (hcmabs.entries entry hmem).keep hlayers.kept⟩
  · have hentries := fill_visits env options
      (config_factory_init_v2 hasher options storage) id visits.cmabs
      (fill env options (config_factory_init_v2 hasher options storage) (hashed env options)
        visits.configs (fill env options (gate_factory_init_v2 hasher options storage)
          (hashed env options) visits.gates {}).2).2
    rw [← hentries] at hvisit
    obtain ⟨⟨v, eval⟩, hmem, rfl⟩ := List.mem_map.mp hvisit
    exact ⟨eval, List.mem_append_right _ hmem, (hcmabs.entries _ hmem).keep hlayers.kept⟩
  · unfold init_conversions
    simp only [List.mem_append]
    rcases hlayers.known id x hget with hold | ⟨other, hother, hx⟩
    · rcases hcmabs.known id x hold with hold | ⟨other, hother, hx⟩
      · rcases hconfigs.known id x hold with hold | ⟨other, hother, hx⟩
        · rcases hgates.known id x hold with hold | ⟨other, hother, hx⟩
          · exact absurd hold (by simp [ExposureTables.view, view_of])
          · exact ⟨other, .inl (.inl (.inl hother)), hx⟩
        · exact ⟨other, .inl (.inl (.inr hother)), hx⟩
      · exact ⟨other, .inl (.inr hother), hx⟩
    · exact ⟨other, .inr hother, hx⟩

end

/-! ## What a client reads -/

/-- The table gives each id its exposure. -/
def Resolves (tables : InitTables) (ids : List InternedString) (xs : List SecondaryExposure) :
    Prop :=
  List.Forall₂ (fun id x => ∃ found,
    tables.exposures.expo_id_to_exposure_map.get id = some found ∧ found.texts = x) ids xs

theorem Resolves.unique {tables : InitTables} {ids : List InternedString}
    {xs ys : List SecondaryExposure} (hx : Resolves tables ids xs) (hy : Resolves tables ids ys) :
    xs = ys := by
  unfold Resolves at hx hy
  induction hx generalizing ys with
  | nil =>
    cases hy
    rfl
  | cons h _ ih =>
    cases hy with
    | cons h' hrest =>
      obtain ⟨found, hfound, rfl⟩ := h
      obtain ⟨found', hfound', rfl⟩ := h'
      rw [hfound] at hfound'
      rw [ih hrest, Option.some.inj hfound']

section

variable {env : EvaluatorEnv} {options : ClientInitResponseOptions} {storage : Storage}
  {hasher : Hasher}

theorem stored_texts (name : String) (result : EvaluatorResult) :
    (storage.store name result).exposures.map InternedExposure.texts =
      result.secondary_exposures := by
  rw [(storage.store name result).exposures_eq, storage.result]

theorem stored_undelegated_texts (name : String) (result : EvaluatorResult) :
    ((storage.store name result).undelegated.getD []).map InternedExposure.texts =
      result.undelegated_secondary_exposures.getD [] := by
  have hundelegated := (storage.store name result).undelegated_eq
  rw [storage.result] at hundelegated
  rw [← hundelegated]
  cases (storage.store name result).undelegated with
  | none => rfl
  | some undelegated => rfl

variable (env options storage) in
theorem config_conversion_result (prepare : EvaluatorResult → EvaluatorResult) (visit : Visit) :
    (config_conversion env options storage prepare visit).result =
        storage.store (hashed_name env options visit) (prepare visit.result) ∧
      (config_conversion env options storage prepare visit).undelegated = [] := by
  unfold config_conversion
  dsimp only
  split
  · exact ⟨rfl, rfl⟩
  · exact ⟨rfl, rfl⟩

/-- With distinct hashes, the ids of exposures that were converted resolve to these. -/
theorem Sourced.resolves {visits : Visits} {filled : InitFilled}
    (h : Sourced env options storage hasher visits filled)
    (hashes : DistinctHashes hasher
      (exposure_strings (init_conversions env options storage visits)))
    {xs : List InternedExposure} {ids : List InternedString}
    (hxs : ∀ x ∈ xs, ∃ conversion ∈ init_conversions env options storage visits,
      x ∈ conversion.registered)
    (hat : ExposuresAt hasher filled.tables xs ids) :
    Resolves filled.tables ids (xs.map InternedExposure.texts) := by
  induction hat with
  | nil => exact .nil
  | @cons x id xs ids hid _ ih =>
    obtain ⟨found, hfound, hkey⟩ := h.held.exposures.resolves hid
    refine .cons ⟨found, hfound, ?_⟩ (ih fun y hy => hxs y (List.mem_cons_of_mem _ hy))
    exact texts_of_key hashes (h.known id found hfound) (hxs x (List.mem_cons_self ..)) hkey

/-- Every entry lists ids of what is due for its visit, and the table has nothing else. -/
structure InitDue (env : EvaluatorEnv) (options : ClientInitResponseOptions) (visits : Visits)
    (filled : InitFilled) : Prop where
  gates : ∀ entry ∈ filled.gates,
    Resolves filled.tables entry.2.listed.1 (due env options entry.1)
  configs : ∀ entry ∈ filled.configs,
    Resolves filled.tables entry.2.listed.1 (due env options entry.1)
  layers : ∀ entry ∈ filled.layers,
    Resolves filled.tables entry.2.listed.1 (due env options entry.1) ∧
      Resolves filled.tables entry.2.listed.2 (due_undelegated env options entry.1)
  table : ∀ id x, filled.tables.exposures.expo_id_to_exposure_map.get id = some x →
    x.texts ∈ visits.due env options

section Due

variable {visits : Visits} {filled : InitFilled}
  (h : Sourced env options storage hasher visits filled)
  (hashes : DistinctHashes hasher (exposure_strings (init_conversions env options storage visits)))
  (htraced : ∀ v ∈ visits.all, TracedResult NoBar NoBar v.result)

theorem mem_gate_conversion {visit : Visit} (hvisit : visit ∈ visits.gates) :
    gate_conversion env options storage visit ∈ init_conversions env options storage visits := by
  unfold init_conversions
  simp only [List.mem_append]
  exact .inl (.inl (.inl (List.mem_map_of_mem hvisit)))

theorem mem_config_conversion {visit : Visit} (hvisit : visit ∈ visits.configs) :
    config_conversion env options storage (hashed env options) visit ∈
      init_conversions env options storage visits := by
  unfold init_conversions
  simp only [List.mem_append]
  exact .inl (.inl (.inr (List.mem_map_of_mem hvisit)))

theorem mem_cmab_conversion {visit : Visit} (hvisit : visit ∈ visits.cmabs) :
    config_conversion env options storage id visit ∈
      init_conversions env options storage visits := by
  unfold init_conversions
  simp only [List.mem_append]
  exact .inl (.inr (List.mem_map_of_mem hvisit))

theorem mem_layer_conversion {visit : Visit} (hvisit : visit ∈ visits.layers) :
    layer_conversion env options storage visit ∈ init_conversions env options storage visits := by
  unfold init_conversions
  simp only [List.mem_append]
  exact .inr (List.mem_map_of_mem hvisit)

include h hashes

/-- What an entry lists resolves to the exposures that were converted for it. -/
theorem listed_resolves {conversion : Conversion}
    (hmem : conversion ∈ init_conversions env options storage visits) {listed : Listed}
    (hat : ListedAt hasher filled.tables conversion listed) :
    Resolves filled.tables listed.1
        (conversion.result.exposures.map InternedExposure.texts) ∧
      Resolves filled.tables listed.2 (conversion.undelegated.map InternedExposure.texts) :=
  ⟨h.resolves hashes (fun _ hx => ⟨conversion, hmem, List.mem_append_right _ hx⟩) hat.exposures,
    h.resolves hashes (fun _ hx => ⟨conversion, hmem, List.mem_append_left _ hx⟩) hat.undelegated⟩

theorem gate_resolves {entry : Visit × GateEvaluationInitV2} (hmem : entry ∈ filled.gates) :
    Resolves filled.tables entry.2.listed.1 (shown env options entry.1) := by
  obtain ⟨hvisit, hat⟩ := h.gates entry hmem
  have hresolves := (listed_resolves h hashes (mem_gate_conversion hvisit) hat).1
  unfold gate_conversion at hresolves
  rw [show Conversion.result (.gate _) = storage.store _ _ from rfl, stored_texts] at hresolves
  exact hresolves

theorem layer_resolves {entry : Visit × LayerEvaluationInitV2} (hmem : entry ∈ filled.layers) :
    Resolves filled.tables entry.2.listed.1 (shown env options entry.1) ∧
      Resolves filled.tables entry.2.listed.2 (shown_undelegated env options entry.1) := by
  obtain ⟨hvisit, hat⟩ := h.layers entry hmem
  obtain ⟨hexposures, hundelegated⟩ :=
    listed_resolves h hashes (mem_layer_conversion hvisit) hat
  unfold layer_conversion at hexposures hundelegated
  rw [show Conversion.result (.layer _) = storage.store _ _ from rfl, stored_texts] at hexposures
  rw [show Conversion.undelegated (.layer _) = (storage.store _ _).undelegated.getD [] from rfl,
    stored_undelegated_texts] at hundelegated
  exact ⟨hexposures, hundelegated⟩

theorem cmab_resolves {visit : Visit} (hvisit : visit ∈ visits.cmabs) {listed : Listed}
    (hat : ListedAt hasher filled.tables (config_conversion env options storage id visit)
      listed) : Resolves filled.tables listed.1 visit.result.secondary_exposures := by
  have hresolves := (listed_resolves h hashes (mem_cmab_conversion hvisit) hat).1
  rw [(config_conversion_result env options storage id visit).1, stored_texts] at hresolves
  exact hresolves

theorem config_resolves {visit : Visit} (hvisit : visit ∈ visits.configs) {listed : Listed}
    (hat : ListedAt hasher filled.tables
      (config_conversion env options storage (hashed env options) visit) listed) :
    Resolves filled.tables listed.1 (shown env options visit) := by
  have hresolves := (listed_resolves h hashes (mem_config_conversion hvisit) hat).1
  rw [(config_conversion_result env options storage (hashed env options) visit).1, stored_texts]
    at hresolves
  exact hresolves

omit hashes
include htraced

/-- Where the bandits recorded only what is due, nothing else was converted. -/
theorem known_due
    (hcmabs : ∀ visit ∈ visits.cmabs, due env options visit = visit.result.secondary_exposures)
    {expo_id : InternedString} {x : InternedExposure}
    (hget : filled.tables.exposures.view.element expo_id = some x) :
    x.texts ∈ visits.due env options := by
  rw [← visits_shown_due htraced]
  obtain ⟨conversion, hmem, hx⟩ := h.known expo_id x hget
  have htexts : ∀ {ys : List InternedExposure}, x ∈ ys →
      x.texts ∈ ys.map InternedExposure.texts := fun hy => List.mem_map_of_mem hy
  unfold init_conversions at hmem
  simp only [List.mem_append, List.mem_map] at hmem
  rcases hmem with ((⟨visit, hvisit, rfl⟩ | ⟨visit, hvisit, rfl⟩) | ⟨visit, hvisit, rfl⟩) |
    ⟨visit, hvisit, rfl⟩
  · refine mem_shown_gate hvisit ?_
    have hx := htexts (List.mem_append.mp hx |>.resolve_left List.not_mem_nil)
    unfold gate_conversion at hx
    rw [show Conversion.result (.gate _) = storage.store _ _ from rfl, stored_texts] at hx
    exact hx
  · refine mem_shown_config (List.mem_append_left _ hvisit) ?_
    obtain ⟨hresult, hnone⟩ :=
      config_conversion_result env options storage (hashed env options) visit
    unfold Conversion.registered at hx
    rw [hnone, hresult] at hx
    have hx := htexts hx
    rw [List.nil_append, stored_texts] at hx
    exact hx
  · refine mem_shown_config (List.mem_append_right _ hvisit) ?_
    obtain ⟨hresult, hnone⟩ := config_conversion_result env options storage id visit
    unfold Conversion.registered at hx
    rw [hnone, hresult] at hx
    have hx := htexts hx
    rw [List.nil_append, stored_texts] at hx
    rw [shown_due (htraced _ (mem_all_config (List.mem_append_right _ hvisit))), hcmabs _ hvisit]
    exact hx
  · refine mem_shown_layer hvisit ?_
    unfold Conversion.registered at hx
    have hx := htexts hx
    unfold layer_conversion at hx
    rw [List.map_append, show Conversion.result (.layer _) = storage.store _ _ from rfl,
      stored_texts, show Conversion.undelegated (.layer _) =
        (storage.store _ _).undelegated.getD [] from rfl, stored_undelegated_texts] at hx
    rcases List.mem_append.mp hx with hx | hx
    · exact List.mem_append_right _ hx
    · exact List.mem_append_left _ hx

include hashes

/-- An init_v2 response shows what is due just when its bandits recorded only what is due. -/
theorem init_due_iff : InitDue env options visits filled ↔
    ∀ visit ∈ visits.cmabs, due env options visit = visit.result.secondary_exposures := by
  constructor
  · intro hdue visit hvisit
    obtain ⟨eval, hmem, hat⟩ := h.cmabs visit hvisit
    exact (hdue.configs _ hmem).unique (cmab_resolves h hashes hvisit hat)
  · intro hcmabs
    refine ⟨fun entry hmem => ?_, fun entry hmem => ?_, fun entry hmem => ?_,
      fun id x hget => known_due h htraced hcmabs hget⟩
    · rw [← shown_due (htraced _ (mem_all_gate (h.gates entry hmem).1))]
      exact gate_resolves h hashes hmem
    · rcases h.configs entry hmem with ⟨hvisit, hat⟩ | ⟨hvisit, hat⟩
      · rw [← shown_due (htraced _ (mem_all_config (List.mem_append_left _ hvisit)))]
        exact config_resolves h hashes hvisit hat
      · rw [hcmabs _ hvisit]
        exact cmab_resolves h hashes hvisit hat
    · have hlayer := htraced _ (mem_all_layer (h.layers entry hmem).1)
      rw [← shown_due hlayer, ← shown_undelegated_due hlayer]
      exact layer_resolves h hashes hmem

end Due

end

/-! ## All formats -/

/-- Every gate name that a response of the first format or of v2 shows is hashed once, and
every entry shows its distinct exposures. A response of init_v2 does so just when its bandits
recorded distinct exposures of gates that are their own hashes. -/
theorem gate_names_are_hashed_once (outside : EvaluatorEnv) (options : ClientInitResponseOptions)
    (specs : specs_response.SpecsResponseFull) (hbars : NoBars (evaluator_view specs))
    (hadapter : ∀ adapter, outside.override_adapter = some adapter → WritesNoBars adapter)
    (depth : Nat) (hasher : Hasher) (orders : MapOrders) :
    let env := create_gcir_eval_context outside specs options
    (∀ response s,
      generate_v1_format env depth hasher orders options specs {} = .ok response s →
      ∃ visits t, visit_specs env depth options orders specs {} = .ok visits t ∧
        V1Due env options visits response) ∧
    (∀ response s,
      generate_v2_format env depth hasher orders options specs {} = .ok response s →
      ∃ start visits t, later_start env depth hasher orders options specs {} = .ok () start ∧
        visit_specs env depth options orders specs start.evaluator = .ok visits t ∧
        V2Due env options visits response) ∧
    (∀ storage response s,
      generate_init_v2_format env depth hasher orders options specs storage {} =
        .ok response s →
      ∃ start visits t, later_start env depth hasher orders options specs {} = .ok () start ∧
        visit_specs env depth options orders specs start.evaluator = .ok visits t ∧
        let filled := init_filled env options storage hasher visits
        response.feature_gates = entry_map env options filled.gates [] ∧
        response.dynamic_configs = entry_map env options filled.configs [] ∧
        response.layer_configs = entry_map env options filled.layers [] ∧
        response.exposures = filled.tables.exposures.expo_id_to_exposure_map ∧
        (DistinctHashes hasher
            (exposure_strings (init_conversions env options storage visits)) →
          (InitDue env options visits filled ↔ ∀ visit ∈ visits.cmabs,
            due env options visit = visit.result.secondary_exposures))) := by
  intro env
  have henv : Traces NoBar NoBar env := by
    refine NoBars.traces hbars fun adapter hsome => hadapter adapter ?_
    change (if options.include_local_overrides = some true then outside.override_adapter
      else none) = some adapter at hsome
    split at hsome
    · exact hsome
    · cases hsome
  refine ⟨fun response s h => ?_, fun response s h => v2_due depth hasher orders specs henv h,
    fun storage response s h => ?_⟩
  · obtain ⟨visits, t, hvisits, hresponse⟩ :=
      v1_visits env depth hasher orders options specs h
    have htraced := visit_specs_traced henv depth options orders specs {} henv.fresh
    rw [hvisits] at htraced
    exact ⟨visits, t, hvisits, v1_due htraced.2 hresponse⟩
  · obtain ⟨start, visits, t, hstart, hvisits, hgates, hconfigs, hlayers, hexposures, -⟩ :=
      init_v2_visits env depth hasher orders options specs storage h
    have htraced := visit_specs_traced henv depth options orders specs start.evaluator
      (later_start_traced henv depth options hasher orders specs hstart)
    rw [hvisits] at htraced
    exact ⟨start, visits, t, hstart, hvisits, hgates, hconfigs, hlayers, hexposures,
      fun hashes => init_due_iff (init_filled_sourced env options storage hasher visits) hashes
        htraced.2⟩

/-! ## A bandit with a targeting gate -/

def stored_exposure (x : SecondaryExposure) : InternedExposure :=
  ⟨.stored x.gate, .stored x.gate_value, .stored x.rule_id⟩

theorem stored_exposures_texts (xs : List SecondaryExposure) :
    (xs.map stored_exposure).map InternedExposure.texts = xs := by
  rw [List.map_map]
  exact List.map_id xs

/-- The strings are stored as they are. -/
def plain_storage : Storage where
  store := fun _ result =>
    { result
      exposures := result.secondary_exposures.map stored_exposure
      undelegated := result.undelegated_secondary_exposures.map (·.map stored_exposure)
      json_value := result.json_value.map fun value => ⟨0, value⟩
      exposures_eq := stored_exposures_texts _
      undelegated_eq := by
        cases result.undelegated_secondary_exposures with
        | none => rfl
        | some undelegated => exact congrArg some (stored_exposures_texts undelegated)
      value_eq := by
        cases result.json_value with
        | none => rfl
        | some value => rfl }
  result := fun _ _ => rfl

/-- A bandit for the users that pass a gate. -/
def targeted_specs : specs_response.SpecsResponseFull where
  feature_gates := [("target", { rules := [{ id := "on", conditions := [] }] })]
  cmab_configs := some [("bandit", {
    salt := "salt"
    default_value := .null
    id_type := ⟨"userID", "userid"⟩
    enabled := true
    version := 1
    sample_rate := 0
    higher_is_better := true
    groups := [{ name := "group", parameter_values := .null, id := "group" }]
    config := none
    targeting_gate_name := some "target" })]

def init_v2_run (options : ClientInitResponseOptions) (specs : specs_response.SpecsResponseFull) :
    Outcome GcirContext StatsigErr InitializeV2Response :=
  generate_init_v2_format (spec_env options specs) MAX_RECURSIVE_DEPTH spelling_hasher
    (some_orders specs) options specs plain_storage {}

/-- What the bandits recorded. -/
def recorded (visits : Visits) : List (List SecondaryExposure) :=
  visits.cmabs.map (·.result.secondary_exposures)

theorem targeted_bandit_records :
    (value_of (later_visits {} spelling_hasher targeted_specs)).map recorded =
      some [[⟨"target", "true", "on"⟩]] := by
  decide +kernel

theorem targeted_run : (value_of (init_v2_run {} targeted_specs)).isSome := by
  decide +kernel

theorem distinct_spellings (strings : List Interned) :
    DistinctHashes spelling_hasher strings :=
  fun _ _ _ _ => spelling_hashes

/-- What the specs of the examples ask for holds no bar. -/
theorem targeted_no_bars : NoBars (evaluator_view targeted_specs) where
  gates hash condition hget := by cases hget
  rules name ty spec hfind rule hrule := by
    have hrules : ∀ entry ∈ (evaluator_view targeted_specs).feature_gates,
        ∀ rule ∈ entry.2.rules, '|' ∉ rule.id.toList := by decide
    cases ty with
    | Gate => exact hrules _ (HashMap.mem_of_get hfind) rule hrule
    | _ => cases hfind
  targeting cmabs name cmab gate hcmabs hcmab hgate := by
    have hgates : ∀ cmabs ∈ (evaluator_view targeted_specs).cmab_configs, ∀ entry ∈ cmabs,
        ∀ gate ∈ entry.2.targeting_gate_name, '|' ∉ gate.toList := by decide
    exact hgates cmabs hcmabs _ (HashMap.mem_of_get hcmab) gate hgate
  groups cmabs name cmab hcmabs hcmab group hgroup := by
    have hgroups : ∀ cmabs ∈ (evaluator_view targeted_specs).cmab_configs, ∀ entry ∈ cmabs,
        ∀ group ∈ entry.2.groups, '|' ∉ group.id.toList := by decide
    exact hgroups cmabs hcmabs _ (HashMap.mem_of_get hcmab) group hgroup

/-- The response shows the name of the targeting gate as it is. -/
theorem targeting_gate_is_not_hashed :
    ¬ ∀ (outside : EvaluatorEnv) (options : ClientInitResponseOptions)
      (specs : specs_response.SpecsResponseFull), NoBars (evaluator_view specs) →
      (∀ adapter, outside.override_adapter = some adapter → WritesNoBars adapter) →
      ∀ depth, MAX_RECURSIVE_DEPTH ≤ depth → ∀ hasher orders, orders.Fits specs →
      ∀ storage response s start visits t,
        let env := create_gcir_eval_context outside specs options
        generate_init_v2_format env depth hasher orders options specs storage {} =
          .ok response s →
        later_start env depth hasher orders options specs {} = .ok () start →
        visit_specs env depth options orders specs start.evaluator = .ok visits t →
        DistinctHashes hasher
          (exposure_strings (init_conversions env options storage visits)) →
        InitDue env options visits (init_filled env options storage hasher visits) := by
  intro h
  obtain ⟨response, hresponse⟩ := Option.isSome_iff_exists.mp targeted_run
  obtain ⟨s, hrun⟩ := run_of_value hresponse
  obtain ⟨start, visits, t, hstart, hvisits, hrecorded⟩ := run_of_visits targeted_bandit_records
  have henv : Traces NoBar NoBar (spec_env {} targeted_specs) :=
    NoBars.traces targeted_no_bars fun adapter hsome => by cases hsome
  have htraced := visit_specs_traced henv MAX_RECURSIVE_DEPTH {} (some_orders targeted_specs)
    targeted_specs start.evaluator
    (later_start_traced henv MAX_RECURSIVE_DEPTH {} spelling_hasher _ _ hstart)
  rw [hvisits] at htraced
  have hdue := h (.plain {}) {} targeted_specs targeted_no_bars
    (fun adapter hsome => by cases hsome)
    MAX_RECURSIVE_DEPTH (Nat.le_refl _) spelling_hasher _ (some_orders_fit _) plain_storage response
    s start visits t hrun hstart hvisits (distinct_spellings _)
  have hcmabs := (init_due_iff (init_filled_sourced (spec_env {} targeted_specs) {} plain_storage
    spelling_hasher visits) (distinct_spellings _) htraced.2).mp hdue
  obtain ⟨visit, hvisit, hexposures⟩ : ∃ visit ∈ visits.cmabs,
      visit.result.secondary_exposures = [⟨"target", "true", "on"⟩] := by
    refine List.mem_map.mp ?_
    change _ ∈ recorded visits
    rw [hrecorded]
    exact List.mem_singleton_self _
  have hsame := hcmabs visit hvisit
  unfold due at hsame
  rw [hexposures] at hsame
  exact absurd hsame (by decide +kernel)

def v1_run (options : ClientInitResponseOptions) (hasher : Hasher)
    (specs : specs_response.SpecsResponseFull) :
    Outcome GcirContext StatsigErr InitializeResponse :=
  generate_v1_format (spec_env options specs) MAX_RECURSIVE_DEPTH hasher (some_orders specs)
    options specs {}

/-- A client that asks for the names as they are gets what is due in every format. -/
theorem unhashed_bandit_is_due :
    let env := spec_env plain_names targeted_specs
    (∃ response s visits, v1_run plain_names spelling_hasher targeted_specs = .ok response s ∧
      V1Due env plain_names visits response) ∧
    (∃ response s visits, v2_run plain_names spelling_hasher targeted_specs = .ok response s ∧
      V2Due env plain_names visits response) ∧
    ∃ response s visits, init_v2_run plain_names targeted_specs = .ok response s ∧
      recorded visits = [[⟨"target", "true", "on"⟩]] ∧
      InitDue env plain_names visits
        (init_filled env plain_names plain_storage spelling_hasher visits) := by
  intro env
  obtain ⟨hv1, hv2, hinit⟩ := gate_names_are_hashed_once (.plain {}) plain_names targeted_specs
    targeted_no_bars (fun adapter hsome => by cases hsome) MAX_RECURSIVE_DEPTH spelling_hasher
    (some_orders targeted_specs)
  have hsome₁ : (value_of (v1_run plain_names spelling_hasher targeted_specs)).isSome := by
    decide +kernel
  have hsome₂ : (value_of (v2_run plain_names spelling_hasher targeted_specs)).isSome := by
    decide +kernel
  have hsome₃ : (value_of (init_v2_run plain_names targeted_specs)).isSome := by decide +kernel
  have hrecords : (value_of (later_visits plain_names spelling_hasher targeted_specs)).map
      recorded = some [[⟨"target", "true", "on"⟩]] := by decide +kernel
  obtain ⟨response₁, hresponse₁⟩ := Option.isSome_iff_exists.mp hsome₁
  obtain ⟨response₂, hresponse₂⟩ := Option.isSome_iff_exists.mp hsome₂
  obtain ⟨response₃, hresponse₃⟩ := Option.isSome_iff_exists.mp hsome₃
  obtain ⟨s₁, hrun₁⟩ := run_of_value hresponse₁
  obtain ⟨s₂, hrun₂⟩ := run_of_value hresponse₂
  obtain ⟨s₃, hrun₃⟩ := run_of_value hresponse₃
  obtain ⟨visits₁, -, -, hdue₁⟩ := hv1 response₁ s₁ hrun₁
  obtain ⟨-, visits₂, -, -, -, hdue₂⟩ := hv2 response₂ s₂ hrun₂
  obtain ⟨start, visits, t, hstart, hvisits, -, -, -, -, hiff⟩ :=
    hinit plain_storage response₃ s₃ hrun₃
  obtain ⟨start', visits', t', hstart', hvisits', hrecorded⟩ := run_of_visits hrecords
  rw [show later_start (spec_env plain_names targeted_specs) _ _ _ _ _ _ = _ from hstart]
    at hstart'
  cases hstart'
  rw [show visit_specs (spec_env plain_names targeted_specs) _ _ _ _ _ = _ from hvisits]
    at hvisits'
  cases hvisits'
  refine ⟨⟨response₁, s₁, visits₁, hrun₁, hdue₁⟩, ⟨response₂, s₂, visits₂, hrun₂, hdue₂⟩,
    response₃, s₃, visits, hrun₃, hrecorded,
    (hiff (distinct_spellings _)).mpr fun visit hvisit => ?_⟩
  have hexposures : visit.result.secondary_exposures ∈ recorded visits :=
    List.mem_map_of_mem hvisit
  rw [hrecorded, List.mem_singleton] at hexposures
  unfold due
  rw [hexposures]
  decide +kernel

end statsig_rust.gcir
