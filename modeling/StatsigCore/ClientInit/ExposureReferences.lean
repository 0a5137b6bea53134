-- The references of a response to its exposures. In init_v2 an id stands for the exposure that
-- it was given for. In v2 a key is the hash of the exposure's text, and two exposures whose
-- texts read the same stand for each other: the parts are joined by colons that a name may hold.
import Mathlib.Data.Set.Function
import StatsigCore.Library.Delimited
import StatsigCore.ClientInit.ValueTable
import StatsigCore.ClientInit.VisitOrder
import StatsigCore.ClientInit.Visits

open program interning

namespace statsig_rust.evaluation

open gcir

/-! ## Format init_v2 -/

/-- The exposures that a conversion registers, in the order in which it does. -/
def Conversion.registered (conversion : Conversion) : List InternedExposure :=
  conversion.undelegated ++ conversion.result.exposures

/-- The strings of the exposures of all conversions. -/
def exposure_strings (conversions : List Conversion) : List Interned :=
  (conversions.flatMap Conversion.registered).flatMap fun exposure =>
    [exposure.gate, exposure.gate_value, exposure.rule_id]

/-- The hashes tell the strings apart. -/
def DistinctHashes (hasher : Hasher) (strings : List Interned) : Prop :=
  ∀ s ∈ strings, ∀ s' ∈ strings, hasher.hash_of s = hasher.hash_of s' → s.text = s'.text

/-- Every exposure has one id, under which the table of the whole response holds it. -/
structure ExposuresResolve (hasher : Hasher) (conversions : List Conversion)
    (id_of : InternedExposure → InternedString) : Prop where
  shared : ∀ x y, SecondaryExposureKey.from_exposure hasher x =
    SecondaryExposureKey.from_exposure hasher y → id_of x = id_of y
  listed : List.Forall₂ (fun conversion eval =>
      EvaluationInitV2.exposure_ids eval = (Conversion.result conversion).exposures.map id_of ∧
      EvaluationInitV2.undelegated_ids eval = (Conversion.undelegated conversion).map id_of)
    conversions (convert_all hasher conversions {}).1
  found : ∀ conversion ∈ conversions, ∀ x ∈ conversion.registered, ∃ found,
    (convert_all hasher conversions {}).2.exposures.expo_id_to_exposure_map.get (id_of x) =
      some found ∧ found.texts = x.texts
  settled : ∀ before after, conversions = before ++ after → ∀ id found,
    (convert_all hasher before {}).2.exposures.expo_id_to_exposure_map.get id = some found →
      (convert_all hasher conversions {}).2.exposures.expo_id_to_exposure_map.get id = some found

section

variable {hasher : Hasher} {conversions : List Conversion}

theorem mem_exposure_strings {conversion : Conversion} (h : conversion ∈ conversions)
    {x : InternedExposure} (hx : x ∈ conversion.registered) :
    x.gate ∈ exposure_strings conversions ∧ x.gate_value ∈ exposure_strings conversions ∧
      x.rule_id ∈ exposure_strings conversions := by
  have hmem : ∀ s ∈ [x.gate, x.gate_value, x.rule_id], s ∈ exposure_strings conversions :=
    fun s hs => List.mem_flatMap.mpr ⟨x, List.mem_flatMap.mpr ⟨conversion, h, hx⟩, hs⟩
  exact ⟨hmem _ (by simp), hmem _ (by simp), hmem _ (by simp)⟩

/-- Exposures of one response that share a key read the same. -/
theorem texts_of_key (hashes : DistinctHashes hasher (exposure_strings conversions))
    {x y : InternedExposure} (hx : ∃ conversion ∈ conversions, x ∈ conversion.registered)
    (hy : ∃ conversion ∈ conversions, y ∈ conversion.registered)
    (hkey : SecondaryExposureKey.from_exposure hasher x =
      SecondaryExposureKey.from_exposure hasher y) : x.texts = y.texts := by
  obtain ⟨first, hfirst, hx⟩ := hx
  obtain ⟨second, hsecond, hy⟩ := hy
  obtain ⟨hgate, hvalue, hrule⟩ := mem_exposure_strings hfirst hx
  obtain ⟨hgate', hvalue', hrule'⟩ := mem_exposure_strings hsecond hy
  unfold SecondaryExposureKey.from_exposure at hkey
  obtain ⟨hg, hr, hv⟩ := SecondaryExposureKey.mk.inj hkey
  unfold InternedExposure.texts
  rw [hashes _ hgate _ hgate' hg, hashes _ hvalue _ hvalue' hv, hashes _ hrule _ hrule' hr]

theorem ids_of_exposures_at {tables : InitTables} {exposures : List InternedExposure}
    {ids : List InternedString} (h : ExposuresAt hasher tables exposures ids) :
    ids = exposures.map fun exposure => (tables.exposures.view.id_of
      (SecondaryExposureKey.from_exposure hasher exposure)).getD "" := by
  induction h with
  | nil => rfl
  | cons hid _ ih =>
    rw [List.map_cons, ← ih, hid]
    rfl

theorem ExposuresAt.id_of_mem {tables : InitTables} {exposures : List InternedExposure}
    {ids : List InternedString} (h : ExposuresAt hasher tables exposures ids)
    {x : InternedExposure} (hx : x ∈ exposures) : ∃ id, tables.exposures.view.id_of
      (SecondaryExposureKey.from_exposure hasher x) = some id :=
  forall₂_left h hx

/-- With distinct hashes of the strings, the ids of a response resolve. -/
theorem exposures_resolve (hashes : DistinctHashes hasher (exposure_strings conversions)) :
    ∃ id_of, ExposuresResolve hasher conversions id_of := by
  have hall := converted_all hasher conversions
  refine ⟨fun x => ((convert_all hasher conversions {}).2.exposures.view.id_of
    (SecondaryExposureKey.from_exposure hasher x)).getD "",
    fun x y hkey => by rw [hkey], ?_, ?_, ?_⟩
  · exact hall.registered.imp fun conversion eval hregistered =>
      ⟨ids_of_exposures_at hregistered.exposures, ids_of_exposures_at hregistered.undelegated⟩
  · intro conversion hmem x hx
    obtain ⟨eval, hregistered⟩ := forall₂_left hall.registered hmem
    obtain ⟨id, hid⟩ : ∃ id, (convert_all hasher conversions {}).2.exposures.view.id_of
        (SecondaryExposureKey.from_exposure hasher x) = some id := by
      rcases List.mem_append.mp hx with hundelegated | hexposure
      · exact hregistered.undelegated.id_of_mem hundelegated
      · exact hregistered.exposures.id_of_mem hexposure
    obtain ⟨found, hfound, hkey⟩ := hall.held.exposures.resolves hid
    refine ⟨found, by rw [hid]; exact hfound, ?_⟩
    -- what the table holds was converted, so the hashes tell its strings from the others
    rcases hall.exposures id found hfound with hold | ⟨other, hother, hregister⟩
    · exact absurd hold (by simp [ExposureTables.view, view_of])
    · exact texts_of_key hashes ⟨other, hother, hregister⟩ ⟨conversion, hmem, hx⟩ hkey
  · intro before after hsplit id found hget
    rw [hsplit]
    exact (convert_all_settles before after).exposures.element id found hget

end

/-! ## Format v2 -/

def AnyConfigEvaluationV2.base : AnyConfigEvaluationV2 → BaseEvaluationV2
  | DynamicConfig eval => eval.base
  | Experiment eval => eval.base

/-- The gate and its value hold no colon. -/
def NoColon (exposure : SecondaryExposure) : Prop :=
  ':' ∉ exposure.gate.toList ∧ ':' ∉ exposure.gate_value.toList

theorem exposure_text_eq (exposure : SecondaryExposure) : (exposure_text exposure).toList =
    delimited.join ':' exposure.gate.toList exposure.gate_value.toList exposure.rule_id.toList := by
  unfold exposure_text delimited.join
  simp

/-- Such an exposure is read off its text. -/
theorem exposure_of_text {x y : SecondaryExposure} (hx : NoColon x) (hy : NoColon y)
    (h : exposure_text x = exposure_text y) : x = y := by
  have hjoin := congrArg String.toList h
  rw [exposure_text_eq, exposure_text_eq] at hjoin
  obtain ⟨hgate, hvalue, hrule⟩ := delimited.join_front hx.1 hy.1 hx.2 hy.2 hjoin
  cases x
  cases y
  rw [SecondaryExposure.mk.injEq]
  exact ⟨String.toList_injective hgate, String.toList_injective hvalue,
    String.toList_injective hrule⟩

end statsig_rust.evaluation

namespace statsig_rust.gcir

open evaluation

/-! ## What entries show -/

section

variable (env : EvaluatorEnv) (options : ClientInitResponseOptions)

def shown (visit : Visit) : List SecondaryExposure :=
  (hashed env options visit.result).secondary_exposures

def shown_undelegated (visit : Visit) : List SecondaryExposure :=
  (hashed env options visit.result).undelegated_secondary_exposures.getD []

/-- The exposures of a whole response, where only the layers show their undelegated ones. -/
def Visits.shown (visits : Visits) : List SecondaryExposure :=
  (visits.gates ++ (visits.configs ++ visits.cmabs)).flatMap (gcir.shown env options) ++
    visits.layers.flatMap fun visit =>
      gcir.shown env options visit ++ shown_undelegated env options visit

end

section Fill

variable {env : EvaluatorEnv} {options : ClientInitResponseOptions} {Tables T : Type}
  {evaluation_factory : TableFactory Tables T} {prepare : EvaluatorResult → EvaluatorResult}

/-- An entry is what the factory makes of its visit. -/
theorem fill_entry {visits : List Visit} {tables : Tables} {entry : Visit × T}
    (h : entry ∈ (fill env options evaluation_factory prepare visits tables).1) :
    entry.1 ∈ visits ∧ ∃ tables', entry.2 = (evaluation_factory entry.1.entity
      (hashed_name env options entry.1) (prepare entry.1.result) tables').1 := by
  induction visits generalizing tables with
  | nil => exact absurd h List.not_mem_nil
  | cons visit visits ih =>
    rcases List.mem_cons.mp h with rfl | hrest
    · exact ⟨List.mem_cons_self .., tables, rfl⟩
    · obtain ⟨hmem, heval⟩ := ih hrest
      exact ⟨List.mem_cons_of_mem _ hmem, heval⟩

/-- A named entry of a response comes from a visit of that name. -/
theorem filled_get {visits : List Visit} {tables : Tables} {name : String} {eval : T}
    (h : (entry_map env options (fill env options evaluation_factory prepare visits tables).1
      []).get name = some eval) :
    ∃ visit ∈ visits, hashed_name env options visit = name ∧ ∃ tables',
      eval = (evaluation_factory visit.entity (hashed_name env options visit)
        (prepare visit.result) tables').1 := by
  rcases entry_map_get h with ⟨visit, hmem, hname⟩ | hnone
  · obtain ⟨hvisit, heval⟩ := fill_entry hmem
    exact ⟨visit, hvisit, hname, heval⟩
  · cases hnone

theorem fill_append (env : EvaluatorEnv) (options : ClientInitResponseOptions)
    (evaluation_factory : TableFactory Tables T) (prepare : EvaluatorResult → EvaluatorResult)
    (visits visits' : List Visit) (tables : Tables) :
    fill env options evaluation_factory prepare (visits ++ visits') tables =
      let first := fill env options evaluation_factory prepare visits tables
      let second := fill env options evaluation_factory prepare visits' first.2
      (first.1 ++ second.1, second.2) := by
  induction visits generalizing tables with
  | nil => rfl
  | cons visit visits ih =>
    simp only [List.cons_append, fill, ih]

/-- Where the bandits are prepared like the configs, both stand in one map. -/
theorem filled_config_get {Gate Config Layer : Type} {gate_factory : TableFactory Tables Gate}
    {config_factory : TableFactory Tables Config} {layer_factory : TableFactory Tables Layer}
    {visits : Visits} {tables : Tables} {name : String} {eval : Config}
    (h : (entry_map env options (fill_specs gate_factory config_factory layer_factory env options
      (hashed env options) visits tables).configs []).get name = some eval) :
    ∃ visit ∈ visits.configs ++ visits.cmabs, hashed_name env options visit = name ∧ ∃ tables',
      eval = (config_factory visit.entity (hashed_name env options visit)
        (hashed env options visit.result) tables').1 := by
  have hentries := congrArg Prod.fst (fill_append env options config_factory (hashed env options)
    visits.configs visits.cmabs
    (fill env options gate_factory (hashed env options) visits.gates tables).2)
  unfold fill_specs at h
  dsimp only at h hentries
  rw [← hentries] at h
  exact filled_get h

end Fill

/-! ## Keys -/

section

variable {env : EvaluatorEnv} {options : ClientInitResponseOptions}

theorem stringify_append (xs ys : List SecondaryExposure) (exposures : ExposureMap) :
    stringify_sec_exposures env (xs ++ ys) exposures =
      stringify_sec_exposures env ys (stringify_sec_exposures env xs exposures) :=
  List.foldl_append ..

/-- The map holds an exposure that was written or one that it held before. -/
theorem stringify_get {xs : List SecondaryExposure} {exposures : ExposureMap} {key : String}
    {found : SecondaryExposure}
    (h : (stringify_sec_exposures env xs exposures).get key = some found) :
    (found ∈ xs ∧ exposure_key env.hashing found = key) ∨ exposures.get key = some found := by
  induction xs generalizing exposures with
  | nil => exact .inr h
  | cons x xs ih =>
    rcases ih h with ⟨hmem, hkey⟩ | hget
    · exact .inl ⟨List.mem_cons_of_mem _ hmem, hkey⟩
    · rw [HashMap.get_insert] at hget
      by_cases hkey : key = exposure_key env.hashing x
      · rw [if_pos hkey] at hget
        obtain rfl := Option.some.inj hget
        exact .inl ⟨List.mem_cons_self .., hkey.symm⟩
      · rw [if_neg hkey] at hget
        exact .inr hget

/-- What was written stays under its key, or something else of that key does. -/
theorem stringify_keeps (xs : List SecondaryExposure) {exposures : ExposureMap} {key : String}
    (h : (exposures.get key).isSome) :
    ((stringify_sec_exposures env xs exposures).get key).isSome := by
  induction xs generalizing exposures with
  | nil => exact h
  | cons x xs ih =>
    refine ih ?_
    rw [HashMap.get_insert]
    split
    · rfl
    · exact h

theorem stringify_mem (env : EvaluatorEnv) {xs : List SecondaryExposure} {x : SecondaryExposure}
    (h : x ∈ xs)
    (exposures : ExposureMap) :
    ((stringify_sec_exposures env xs exposures).get (exposure_key env.hashing x)).isSome := by
  induction xs generalizing exposures with
  | nil => exact absurd h List.not_mem_nil
  | cons y xs ih =>
    rcases List.mem_cons.mp h with rfl | h
    · refine stringify_keeps xs ?_
      rw [HashMap.get_insert, if_pos rfl]
      rfl
    · exact ih h _

theorem fill_exposures {T : Type} {evaluation_factory : TableFactory ExposureMap T}
    {prepare : EvaluatorResult → EvaluatorResult} (written : Visit → List SecondaryExposure)
    (h : ∀ (visit : Visit) name exposures,
      (evaluation_factory visit.entity name (prepare visit.result) exposures).2 =
        stringify_sec_exposures env (written visit) exposures)
    (visits : List Visit) (exposures : ExposureMap) :
    (fill env options evaluation_factory prepare visits exposures).2 =
      stringify_sec_exposures env (visits.flatMap written) exposures := by
  induction visits generalizing exposures with
  | nil => rfl
  | cons visit visits ih =>
    unfold fill
    dsimp only
    rw [ih, h, List.flatMap_cons, stringify_append]

theorem config_factory_v2_writes (entity name : String) (result : EvaluatorResult)
    (exposures : ExposureMap) : (config_factory_v2 env options entity name result exposures).2 =
      stringify_sec_exposures env result.secondary_exposures exposures := by
  unfold config_factory_v2
  dsimp only
  split
  · rfl
  · rfl

theorem layer_factory_v2_writes (entity name : String) (result : EvaluatorResult)
    (exposures : ExposureMap) : (layer_factory_v2 env options entity name result exposures).2 =
      stringify_sec_exposures env (result.secondary_exposures ++
        result.undelegated_secondary_exposures.getD []) exposures := by
  rw [stringify_append]
  unfold layer_factory_v2
  dsimp only
  split
  · rename_i undelegated hundelegated
    rw [hundelegated]
    rfl
  · rename_i hnone
    rw [hnone]
    rfl

/-- The map of a v2 response is written from all exposures that its entries show. -/
theorem v2_exposures (visits : Visits) :
    (fill_specs (gate_factory_v2 env options) (config_factory_v2 env options)
      (layer_factory_v2 env options) env options (hashed env options) visits []).tables =
      stringify_sec_exposures env (visits.shown env options) [] := by
  unfold fill_specs
  dsimp only
  rw [fill_exposures (fun visit =>
      shown env options visit ++ shown_undelegated env options visit)
      fun visit name exposures => layer_factory_v2_writes ..,
    fill_exposures (shown env options)
      fun visit name exposures => config_factory_v2_writes ..,
    fill_exposures (shown env options)
      fun visit name exposures => config_factory_v2_writes ..,
    fill_exposures (shown env options) fun visit name exposures => rfl]
  unfold Visits.shown
  rw [List.flatMap_append, List.flatMap_append, stringify_append, stringify_append,
    stringify_append]

/-- The keys that an evaluation lists are those of its exposures, and under each the response
has an exposure that reads the same. -/
structure KeysResolve (env : EvaluatorEnv) (exposures : ExposureMap) (listed : List String)
    (xs : List SecondaryExposure) : Prop where
  keys : listed = xs.map (exposure_key env.hashing)
  found : ∀ x ∈ xs, ∃ found, exposures.get (exposure_key env.hashing x) = some found ∧
    exposure_text found = exposure_text x

/-- Each entry of a v2 response lists the keys of what the visit of its name shows. -/
structure ReferencesResolve (env : EvaluatorEnv) (options : ClientInitResponseOptions)
    (visits : Visits) (response : InitializeEvaluationsResponse) : Prop where
  gates : ∀ name eval, response.feature_gates.get name = some eval →
    ∃ visit ∈ visits.gates, hashed_name env options visit = name ∧
      KeysResolve env response.exposures eval.base.secondary_exposures (shown env options visit)
  configs : ∀ name eval, response.dynamic_configs.get name = some eval →
    ∃ visit ∈ visits.configs ++ visits.cmabs, hashed_name env options visit = name ∧
      KeysResolve env response.exposures eval.base.secondary_exposures (shown env options visit)
  layers : ∀ name eval, response.layer_configs.get name = some eval →
    ∃ visit ∈ visits.layers, hashed_name env options visit = name ∧
      KeysResolve env response.exposures eval.base.secondary_exposures
        (shown env options visit) ∧
      KeysResolve env response.exposures (eval.undelegated_secondary_exposures.getD [])
        (shown_undelegated env options visit)

/-- Djb2 tells the texts of the exposures apart. -/
def DistinctKeys (env : EvaluatorEnv) (xs : List SecondaryExposure) : Prop :=
  Set.InjOn (fun text => env.hashing.hash text .Djb2) {text | ∃ x ∈ xs, exposure_text x = text}

theorem written_exposure {xs : List SecondaryExposure} (h : DistinctKeys env xs)
    {x : SecondaryExposure} (hx : x ∈ xs) : ∃ found ∈ xs,
      (stringify_sec_exposures env xs []).get (exposure_key env.hashing x) = some found ∧
      exposure_text found = exposure_text x := by
  obtain ⟨found, hfound⟩ := Option.isSome_iff_exists.mp (stringify_mem env hx [])
  rcases stringify_get hfound with ⟨hmem, hkey⟩ | hnone
  · exact ⟨found, hmem, hfound, h ⟨found, hmem, rfl⟩ ⟨x, hx, rfl⟩ hkey⟩
  · cases hnone

/-- Every exposure is found under its key just when no two read the same. -/
theorem written_iff {xs : List SecondaryExposure} (h : DistinctKeys env xs) :
    (∀ x ∈ xs, (stringify_sec_exposures env xs []).get (exposure_key env.hashing x) = some x) ↔
      Set.InjOn exposure_text {x | x ∈ xs} := by
  constructor
  · intro hfound x hx y hy htext
    have hsame := hfound x hx
    have hkey : exposure_key env.hashing x = exposure_key env.hashing y := by
      unfold exposure_key
      rw [htext]
    rw [hkey, hfound y hy] at hsame
    exact (Option.some.inj hsame).symm
  · intro hinj x hx
    obtain ⟨found, hmem, hfound, htext⟩ := written_exposure h hx
    rw [hfound, hinj hmem hx htext]

theorem mem_shown_gate {visits : Visits} {visit : Visit} (h : visit ∈ visits.gates)
    {x : SecondaryExposure} (hx : x ∈ shown env options visit) :
    x ∈ visits.shown env options :=
  List.mem_append_left _ (List.mem_flatMap.mpr ⟨visit, List.mem_append_left _ h, hx⟩)

theorem mem_shown_config {visits : Visits} {visit : Visit}
    (h : visit ∈ visits.configs ++ visits.cmabs) {x : SecondaryExposure}
    (hx : x ∈ shown env options visit) : x ∈ visits.shown env options :=
  List.mem_append_left _ (List.mem_flatMap.mpr ⟨visit, List.mem_append_right _ h, hx⟩)

theorem mem_shown_layer {visits : Visits} {visit : Visit} (h : visit ∈ visits.layers)
    {x : SecondaryExposure}
    (hx : x ∈ shown env options visit ++ shown_undelegated env options visit) :
    x ∈ visits.shown env options :=
  List.mem_append_right _ (List.mem_flatMap.mpr ⟨visit, h, hx⟩)

theorem keys_resolve {visits : Visits} (h : DistinctKeys env (visits.shown env options))
    {xs : List SecondaryExposure} (hxs : ∀ x ∈ xs, x ∈ visits.shown env options) :
    KeysResolve env (stringify_sec_exposures env (visits.shown env options) [])
      (xs.map (exposure_key env.hashing)) xs := by
  refine ⟨rfl, fun x hx => ?_⟩
  obtain ⟨found, -, hfound, htext⟩ := written_exposure h (hxs x hx)
  exact ⟨found, hfound, htext⟩

theorem config_factory_v2_keys (entity name : String) (result : EvaluatorResult)
    (exposures : ExposureMap) :
    (config_factory_v2 env options entity name result exposures).1.base.secondary_exposures =
      result.secondary_exposures.map (exposure_key env.hashing) := by
  unfold config_factory_v2
  dsimp only
  split
  · rfl
  · rfl

/-- The references of a whole v2 response. -/
theorem references_resolve (depth : Nat) (hasher : Hasher) (orders : MapOrders)
    (specs : specs_response.SpecsResponseFull) {response : InitializeEvaluationsResponse}
    {s : GcirContext}
    (h : generate_v2_format env depth hasher orders options specs {} = .ok response s) :
    ∃ start visits t, later_start env depth hasher orders options specs {} = .ok () start ∧
      visit_specs env depth options orders specs start.evaluator = .ok visits t ∧
      response.exposures = stringify_sec_exposures env (visits.shown env options) [] ∧
      (DistinctKeys env (visits.shown env options) →
        ReferencesResolve env options visits response) := by
  obtain ⟨start, visits, t, hstart, hvisits, hgates, hconfigs, hlayers, hexposures⟩ :=
    v2_visits env depth hasher orders options specs h
  rw [v2_exposures] at hexposures
  refine ⟨start, visits, t, hstart, hvisits, hexposures, fun hdistinct => ⟨?_, ?_, ?_⟩⟩
  · intro name eval hget
    rw [hgates] at hget
    obtain ⟨visit, hmem, hname, exposures, rfl⟩ := filled_get hget
    rw [hexposures]
    exact ⟨visit, hmem, hname, keys_resolve hdistinct fun x hx => mem_shown_gate hmem hx⟩
  · intro name eval hget
    rw [hconfigs] at hget
    obtain ⟨visit, hmem, hname, exposures, rfl⟩ := filled_config_get hget
    rw [hexposures, config_factory_v2_keys]
    exact ⟨visit, hmem, hname, keys_resolve hdistinct fun x hx => mem_shown_config hmem hx⟩
  · intro name eval hget
    rw [hlayers] at hget
    obtain ⟨visit, hmem, hname, exposures, rfl⟩ := filled_get hget
    rw [hexposures]
    exact ⟨visit, hmem, hname,
      keys_resolve hdistinct fun x hx => mem_shown_layer hmem (List.mem_append_left _ hx),
      keys_resolve hdistinct fun x hx => mem_shown_layer hmem (List.mem_append_right _ hx)⟩

end

/-! ## Both formats -/

/-- With distinct hashes of the strings, every id that a sequence of conversions gives stands
for its exposure. With distinct keys of the texts, every key that a v2 response lists stands
for an exposure of the same text, which is the exposure itself just when no two exposures of
the response read the same. Without colons in the gates and their values, none do. -/
theorem exposure_references_resolve :
    (∀ (hasher : Hasher) (conversions : List Conversion),
      DistinctHashes hasher (exposure_strings conversions) →
      ∃ id_of, ExposuresResolve hasher conversions id_of) ∧
    ∀ (env : EvaluatorEnv) (depth : Nat) (hasher : Hasher) (orders : MapOrders)
      (options : ClientInitResponseOptions) (specs : specs_response.SpecsResponseFull)
      (response : InitializeEvaluationsResponse) (s : GcirContext),
      generate_v2_format env depth hasher orders options specs {} = .ok response s →
      ∃ start visits t, later_start env depth hasher orders options specs {} = .ok () start ∧
        visit_specs env depth options orders specs start.evaluator = .ok visits t ∧
        (DistinctKeys env (visits.shown env options) →
          ReferencesResolve env options visits response ∧
          ((∀ x ∈ visits.shown env options,
              response.exposures.get (exposure_key env.hashing x) = some x) ↔
            Set.InjOn exposure_text {x | x ∈ visits.shown env options}) ∧
          ((∀ x ∈ visits.shown env options, NoColon x) →
            Set.InjOn exposure_text {x | x ∈ visits.shown env options})) := by
  refine ⟨fun hasher conversions hashes => exposures_resolve hashes, ?_⟩
  intro env depth hasher orders options specs response s h
  obtain ⟨start, visits, t, hstart, hvisits, hexposures, hresolve⟩ :=
    references_resolve depth hasher orders specs h
  refine ⟨start, visits, t, hstart, hvisits, fun hdistinct => ⟨hresolve hdistinct, ?_, ?_⟩⟩
  · rw [hexposures]
    exact written_iff hdistinct
  · intro hplain x hx y hy htext
    exact exposure_of_text (hplain x hx) (hplain y hy) htext

/-! ## Names with colons -/

/-- A gate that asks for two others. -/
def specs_asking (gate rule gate' rule' : String) : specs_response.SpecsResponseFull where
  condition_map := [
    ("asks_first", { Condition.on_gate "pass_gate" gate with }),
    ("asks_second", { Condition.on_gate "pass_gate" gate' with })]
  feature_gates := [
    ("asks", { rules := [{ id := "rule", conditions := ["asks_first", "asks_second"] }] }),
    (gate, { rules := [{ id := rule, conditions := [] }] }),
    (gate', { rules := [{ id := rule', conditions := [] }] })]

section

variable (options : ClientInitResponseOptions) (hasher : Hasher)
  (specs : specs_response.SpecsResponseFull)

/-- The context of a response to the specs, for a user of whom nothing is known. -/
def spec_env : EvaluatorEnv := create_gcir_eval_context (.plain {}) specs options

/-- The visits of a later format. -/
def later_visits : Outcome EvaluatorContext StatsigErr Visits :=
  match later_start (spec_env options specs) MAX_RECURSIVE_DEPTH hasher (some_orders specs)
      options specs {} with
  | .ok _ start => visit_specs (spec_env options specs) MAX_RECURSIVE_DEPTH options
      (some_orders specs) specs start.evaluator
  | .err e start => .err e start.evaluator
  | .deep => .deep

def v2_run : Outcome GcirContext StatsigErr InitializeEvaluationsResponse :=
  generate_v2_format (spec_env options specs) MAX_RECURSIVE_DEPTH hasher (some_orders specs)
    options specs {}

end

/-- The visits of a response, once something is known of them. -/
theorem run_of_visits {options : ClientInitResponseOptions} {hasher : Hasher}
    {specs : specs_response.SpecsResponseFull} {α : Type} {f : Visits → α} {a : α}
    (h : (value_of (later_visits options hasher specs)).map f = some a) :
    ∃ start visits t,
      later_start (spec_env options specs) MAX_RECURSIVE_DEPTH hasher (some_orders specs) options
        specs {} = .ok () start ∧
      visit_specs (spec_env options specs) MAX_RECURSIVE_DEPTH options (some_orders specs) specs
        start.evaluator = .ok visits t ∧
      f visits = a := by
  obtain ⟨visits, hvisits, ha⟩ := Option.map_eq_some_iff.mp h
  obtain ⟨t, hvisits⟩ := run_of_value hvisits
  unfold later_visits at hvisits
  split at hvisits
  · rename_i start hstart
    exact ⟨start, visits, t, hstart, hvisits, ha⟩
  · cases hvisits
  · cases hvisits

/-- Two exposures with the text `a:true:true:b`. -/
def joined_specs : specs_response.SpecsResponseFull := specs_asking "a:true" "b" "a" "true:b"

/-- The two exposures share a key, so the response has only one of them. -/
theorem joined_texts_share_a_key :
    ¬ ∀ (outside : EvaluatorEnv) (hasher : Hasher) (options : ClientInitResponseOptions)
      (specs : specs_response.SpecsResponseFull) (orders : MapOrders), orders.Fits specs →
      ∀ depth, MAX_RECURSIVE_DEPTH ≤ depth → ∀ response s start visits t,
        let env := create_gcir_eval_context outside specs options
        generate_v2_format env depth hasher orders options specs {} = .ok response s →
        later_start env depth hasher orders options specs {} = .ok () start →
        visit_specs env depth options orders specs start.evaluator = .ok visits t →
        DistinctKeys env (visits.shown env options) →
        ∀ x ∈ visits.shown env options,
          response.exposures.get (exposure_key env.hashing x) = some x := by
  intro h
  have hnames : (value_of (later_visits plain_names zero_hasher joined_specs)).map
      (·.shown (spec_env plain_names joined_specs) plain_names) =
        some [⟨"a:true", "true", "b"⟩, ⟨"a", "true", "true:b"⟩] := by decide +kernel
  have hsome : (value_of (v2_run plain_names zero_hasher joined_specs)).isSome := by
    decide +kernel
  obtain ⟨response, hresponse⟩ := Option.isSome_iff_exists.mp hsome
  obtain ⟨s, hrun⟩ := run_of_value hresponse
  obtain ⟨start, visits, t, hstart, hvisits, hshown⟩ := run_of_visits hnames
  have hfound : DistinctKeys (spec_env plain_names joined_specs)
        (visits.shown (spec_env plain_names joined_specs) plain_names) →
      ∀ x ∈ visits.shown (spec_env plain_names joined_specs) plain_names,
        response.exposures.get (exposure_key (spec_env plain_names joined_specs).hashing x) =
          some x :=
    h (.plain {}) zero_hasher plain_names joined_specs _ (some_orders_fit _)
      MAX_RECURSIVE_DEPTH (Nat.le_refl _) response s start visits t hrun hstart hvisits
  rw [hshown] at hfound
  have htext : ∀ x ∈ [⟨"a:true", "true", "b"⟩, (⟨"a", "true", "true:b"⟩ : SecondaryExposure)],
      exposure_text x = "a:true:true:b" := by decide
  have hall := hfound fun text ⟨x, hx, hxt⟩ text' ⟨y, hy, hyt⟩ _ => by
    rw [← hxt, ← hyt, htext x hx, htext y hy]
  have hfirst := hall _ (List.mem_cons_self ..)
  have hsecond := hall _ (List.mem_cons_of_mem _ (List.mem_cons_self ..))
  unfold exposure_key at hfirst hsecond
  rw [htext _ (List.mem_cons_self ..)] at hfirst
  rw [htext _ (List.mem_cons_of_mem _ (List.mem_cons_self ..)), hfirst] at hsecond
  exact absurd (congrArg SecondaryExposure.gate (Option.some.inj hsecond)) (by decide)

/-- A hasher with a hash of its own for every string. -/
def spelling_hasher : Hasher := ⟨fun _ => 0, spelling_store.hash_one, fun _ => 0⟩

theorem spelling_hashes {s s' : Interned}
    (h : spelling_hasher.hash_of s = spelling_hasher.hash_of s') : s.text = s'.text := by
  have hspelled : ∀ s : Interned, spelling_hasher.hash_of s = spelling_store.hash_one s.text := by
    intro s
    cases s with
    | empty => rfl
    | stored text => rfl
  rw [hspelled, hspelled] at h
  exact spelling_injective h

/-- A layer with one exposure, once delegated and once not. -/
def delegating_layer : Conversion :=
  let exposure : InternedExposure := ⟨.stored "gate", .stored "true", .empty⟩
  .layer {
    result := {
      secondary_exposures := [exposure.texts]
      undelegated_secondary_exposures := some [exposure.texts] }
    exposures := [exposure]
    undelegated := some [exposure]
    json_value := none
    exposures_eq := rfl
    undelegated_eq := rfl
    value_eq := rfl }

def apart_specs : specs_response.SpecsResponseFull := specs_asking "first" "on" "second" "off"

/-- The references of a layer, and of a response whose gates hold no colon. -/
theorem plain_references_resolve :
    (∃ id_of, ExposuresResolve spelling_hasher [delegating_layer, delegating_layer] id_of) ∧
    ∃ response s, v2_run plain_names zero_hasher apart_specs = .ok response s ∧
      ∀ x ∈ [⟨"first", "true", "on"⟩, (⟨"second", "true", "off"⟩ : SecondaryExposure)],
        response.exposures.get (exposure_key (spec_env plain_names apart_specs).hashing x) =
          some x := by
  refine ⟨exposure_references_resolve.1 spelling_hasher _ fun s _ s' _ => spelling_hashes, ?_⟩
  have hnames : (value_of (later_visits plain_names zero_hasher apart_specs)).map
      (·.shown (spec_env plain_names apart_specs) plain_names) =
        some [⟨"first", "true", "on"⟩, ⟨"second", "true", "off"⟩] := by decide +kernel
  have hsome : (value_of (v2_run plain_names zero_hasher apart_specs)).isSome := by
    decide +kernel
  obtain ⟨response, hresponse⟩ := Option.isSome_iff_exists.mp hsome
  obtain ⟨s, hrun⟩ := run_of_value hresponse
  obtain ⟨start, visits, t, hstart, hvisits, hshown⟩ := run_of_visits hnames
  obtain ⟨start', visits', t', hstart', hvisits', hresolve⟩ :=
    exposure_references_resolve.2 _ _ _ _ _ _ response s hrun
  rw [hstart] at hstart'
  cases hstart'
  rw [hvisits] at hvisits'
  cases hvisits'
  rw [hshown] at hresolve
  obtain ⟨-, hiff, hplain⟩ := hresolve (by
    rintro _ ⟨x, hx, rfl⟩ _ ⟨y, hy, rfl⟩ hkey
    have hkeys : ∀ x ∈ [⟨"first", "true", "on"⟩, (⟨"second", "true", "off"⟩ : SecondaryExposure)],
        ∀ y ∈ [⟨"first", "true", "on"⟩, (⟨"second", "true", "off"⟩ : SecondaryExposure)],
        exposure_key (spec_env plain_names apart_specs).hashing x =
          exposure_key (spec_env plain_names apart_specs).hashing y →
        exposure_text x = exposure_text y := by
      decide +kernel
    exact hkeys x hx y hy hkey)
  exact ⟨response, s, hrun, hiff.mpr (hplain fun x hx => by
    have hno : ∀ x ∈ [⟨"first", "true", "on"⟩, (⟨"second", "true", "off"⟩ : SecondaryExposure)],
        ':' ∉ x.gate.toList ∧ ':' ∉ x.gate_value.toList := by decide
    exact hno x hx)⟩

end statsig_rust.gcir
