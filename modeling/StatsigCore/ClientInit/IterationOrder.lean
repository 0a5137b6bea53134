-- Whether the hash of a response depends on the orders of the hash maps. The specs are sorted
-- by name, but the parameter stores, the triggers and what a layer merges are hashed as they
-- come.
import StatsigCore.ClientInit.ResponseHash
import StatsigCore.ClientInit.MapOrders

open program digest

namespace statsig_rust.gcir

open evaluation

/-! ## Sorted names -/

/-- The names are sorted whatever order they come in. -/
theorem ordered_keys_eq {options : ClientInitResponseOptions}
    (hprevious : options.previous_response_hash.isSome) {keys keys' : List InternedString}
    (h : keys.Perm keys') : ordered_keys options keys = ordered_keys options keys' := by
  unfold ordered_keys
  rw [if_pos hprevious, if_pos hprevious]
  have hsorted : ∀ keys : List String,
      (keys.mergeSort fun a b => decide (a ≤ b)).Pairwise fun a b => decide (a ≤ b) = true := by
    apply List.pairwise_mergeSort
    · intro a b c hab hbc
      rw [decide_eq_true_eq] at hab hbc ⊢
      exact le_trans hab hbc
    · intro a b
      rw [Bool.or_eq_true, decide_eq_true_eq, decide_eq_true_eq]
      exact le_total a b
  refine List.Perm.eq_of_pairwise (fun a b _ _ hab hba => ?_) (hsorted keys) (hsorted keys')
    (((List.mergeSort_perm keys _).trans h).trans (List.mergeSort_perm keys' _).symm)
  exact le_antisymm (of_decide_eq_true hab) (of_decide_eq_true hba)

/-! ## Layers that merge nothing -/

section Layers

variable {env : EvaluatorEnv} {depth : Nat} {hasher : Hasher} {orders orders' : MapOrders}
  {options : ClientInitResponseOptions} {specs : specs_response.SpecsResponseFull}

/-- A layer whose merged value and rule ids are of one parameter at most, with no object in the
value that has two keys. -/
structure MergesAtMostOne (eval : LayerEvaluation) : Prop where
  value : ∀ ids map, eval.parameter_rule_ids = some ids → eval.value = .json map →
    OneOrder (.object map)
  rule_ids : ∀ ids, eval.parameter_rule_ids = some ids →
    {key | HashMap.get ids key ≠ none}.Subsingleton

/-- Such a layer has the same hash in every order. -/
theorem layer_hash_of_at_most_one (hasher : Hasher) (h : orders.Fits specs)
    (h' : orders'.Fits specs) {eval : LayerEvaluation} (hone : MergesAtMostOne eval)
    (name : InternedString) :
    create_hash hasher orders eval name = create_hash hasher orders' eval name := by
  have hids : parameter_rule_ids_hash hasher orders eval name =
      parameter_rule_ids_hash hasher orders' eval name := by
    unfold parameter_rule_ids_hash
    cases hsome : eval.parameter_rule_ids with
    | none => rfl
    | some ids =>
      dsimp only
      rw [entries_in_of_at_most_one (h.parameter_rule_ids name ids)
        (h'.parameter_rule_ids name ids) (hone.rule_ids ids hsome)]
  have hvalue : layer_value_hash hasher orders eval name =
      layer_value_hash hasher orders' eval name := by
    unfold layer_value_hash
    cases hsome : eval.parameter_rule_ids with
    | none => rfl
    | some ids =>
      cases hjson : eval.value with
      | null => rfl
      | bool b => rfl
      | json map =>
        have hwritten : written_object (orders.merged_values name) map =
            written_object (orders'.merged_values name) map :=
          JsonValue.object.inj (written_eq_of_one_order (h.merged_values name)
            (h'.merged_values name) (hone.value ids map hsome hjson) [])
        dsimp only
        rw [hwritten]
  show hasher.hash_one (_ ++ _) = hasher.hash_one (_ ++ _)
  rw [hids, hvalue]

end Layers

/-! ## The parts in two orders -/

/-- The parameter stores that the response holds. -/
def visited_store_names (env : EvaluatorEnv) (options : ClientInitResponseOptions)
    (specs : specs_response.SpecsResponseFull) : Set InternedString :=
  {name | ∃ stores, specs.param_stores = some stores ∧ ∃ store, stores.get name = some store ∧
    skips_store env options name store = false}

def trigger_names
    (triggers : Option (HashMap InternedString specs_response.SessionReplayTrigger)) :
    Set InternedString :=
  {name | ∃ trigger, HashMap.get (triggers.getD []) name = some trigger}

/-- The evaluations of the layers, after all that comes before them. -/
def evaluate_layers (env : EvaluatorEnv) (depth : Nat) (hasher : Hasher) (orders : MapOrders)
    (options : ClientInitResponseOptions) (specs : specs_response.SpecsResponseFull) :
    Gcir (List (InternedString × LayerEvaluation)) := do
  let _ ← get_gate_evaluations env depth hasher orders options specs
  let _ ← get_dynamic_config_evaluations env depth hasher orders options specs
  process_keys env depth options (fun _ => .Layer) (layer_factory env options)
    specs.layer_configs (ordered_keys options orders.layer_configs)

/-- There is at most one of everything that is hashed as it comes. -/
structure AtMostOne (env : EvaluatorEnv) (depth : Nat) (hasher : Hasher)
    (options : ClientInitResponseOptions) (specs : specs_response.SpecsResponseFull) : Prop where
  param_stores : (visited_store_names env options specs).Subsingleton
  event_triggers : ∀ data, specs.session_replay_info = some data →
    (trigger_names data.session_recording_event_triggers).Subsingleton
  exposure_triggers : ∀ data, specs.session_replay_info = some data →
    (trigger_names data.session_recording_exposure_triggers).Subsingleton
  layers : ∀ orders, orders.Fits specs → ∀ evals s,
    evaluate_layers env depth hasher orders options specs {} = .ok evals s →
    ∀ entry ∈ evals, MergesAtMostOne entry.2

/-- No order of a map gets into a response, or into the context that makes it. -/
structure OrderBlind (env : EvaluatorEnv) (depth : Nat) (hasher : Hasher)
    (options : ClientInitResponseOptions) (specs : specs_response.SpecsResponseFull) : Prop
    extends AtMostOne env depth hasher options specs where
  bandits : (visited_cmabs env options specs).Subsingleton

section Parts

variable {env : EvaluatorEnv} {depth : Nat} {hasher : Hasher} {orders orders' : MapOrders}
  {options : ClientInitResponseOptions} {specs : specs_response.SpecsResponseFull}

theorem get_gate_evaluations_eq (hprevious : options.previous_response_hash.isSome)
    (h : orders.Fits specs) (h' : orders'.Fits specs) :
    get_gate_evaluations env depth hasher orders options specs =
      get_gate_evaluations env depth hasher orders' options specs := by
  unfold get_gate_evaluations gcir_process_iter
  rw [ordered_keys_eq hprevious (h.feature_gates.perm h'.feature_gates)]
  rfl

theorem get_config_spec_evaluations_eq (hprevious : options.previous_response_hash.isSome)
    (h : orders.Fits specs) (h' : orders'.Fits specs) :
    get_config_spec_evaluations env depth hasher orders options specs =
      get_config_spec_evaluations env depth hasher orders' options specs := by
  have hhash : ∀ entry : InternedString × AnyConfigEvaluation,
      create_hash hasher orders entry.2 entry.1 = create_hash hasher orders' entry.2 entry.1 := by
    rintro ⟨name, eval⟩
    cases eval with
    | DynamicConfig eval => rfl
    | Experiment eval => rfl
  unfold get_config_spec_evaluations gcir_process_iter
  rw [ordered_keys_eq hprevious (h.dynamic_configs.perm h'.dynamic_configs)]
  simp only [hhash]

/-- The loop over the bandits goes past the ones that it skips. -/
theorem process_cmabs_filter (cmab_configs : HashMap String specs_response.CMABConfig)
    (names : List String) (result : HashMap String AnyConfigEvaluation) :
    process_cmabs env depth options cmab_configs names result =
      process_cmabs env depth options cmab_configs
        (names.filter fun name => !skips_cmab env options cmab_configs name) result := by
  induction names generalizing result with
  | nil => rfl
  | cons name names ih =>
    cases hskips : skips_cmab env options cmab_configs name with
    | true =>
      rw [List.filter_cons_of_neg (by rw [hskips]; decide), process_cmabs, if_pos hskips]
      exact ih result
    | false =>
      rw [List.filter_cons_of_pos (by rw [hskips]; decide), process_cmabs, process_cmabs, hskips]
      exact bind_congr fun eval => ih _

theorem add_cmab_evaluations_eq (hone : (visited_cmabs env options specs).Subsingleton)
    (h : orders.Fits specs) (h' : orders'.Fits specs)
    (result : HashMap String AnyConfigEvaluation) :
    add_cmab_evaluations env depth orders options specs result =
      add_cmab_evaluations env depth orders' options specs result := by
  have hcmab := h.cmab_configs
  have hcmab' := h'.cmab_configs
  unfold add_cmab_evaluations
  cases hconfigs : specs.cmab_configs with
  | none => rfl
  | some cmab_configs =>
    rw [hconfigs, Option.getD_some] at hcmab hcmab'
    dsimp only
    rw [process_cmabs_filter cmab_configs orders.cmab_configs,
      process_cmabs_filter cmab_configs orders'.cmab_configs]
    have hvisited : ∀ name ∈ orders.cmab_configs.filter
        (fun name => !skips_cmab env options cmab_configs name),
        (.Experiment, name) ∈ visited_cmabs env options specs := by
      intro name hname
      rw [List.mem_filter, Bool.not_eq_true'] at hname
      exact ⟨cmab_configs, hconfigs, name, (hcmab.mem name).mp hname.1, hname.2, rfl⟩
    rw [eq_of_at_most_one (hcmab.nodup.filter _) (hcmab'.nodup.filter _) (fun name => ?_)
      fun a ha b hb => (Prod.mk.inj (hone (hvisited a ha) (hvisited b hb))).2]
    rw [List.mem_filter, List.mem_filter, hcmab.mem, hcmab'.mem]

theorem get_layer_evaluations_eq (hprevious : options.previous_response_hash.isSome)
    (h : orders.Fits specs) (h' : orders'.Fits specs) {s : GcirContext}
    (hlayers : ∀ evals s', process_keys env depth options (fun _ => .Layer)
      (layer_factory env options) specs.layer_configs
      (ordered_keys options orders'.layer_configs) s = .ok evals s' →
      ∀ entry ∈ evals, MergesAtMostOne entry.2) :
    get_layer_evaluations env depth hasher orders options specs s =
      get_layer_evaluations env depth hasher orders' options specs s := by
  unfold get_layer_evaluations gcir_process_iter
  rw [ordered_keys_eq hprevious (h.layer_configs.perm h'.layer_configs)]
  refine bind_congr_run fun evals s' hrun => ?_
  have hhashes : (evals.map fun entry => create_hash hasher orders entry.2 entry.1) =
      evals.map fun entry => create_hash hasher orders' entry.2 entry.1 :=
    List.map_congr_left fun entry hentry =>
      layer_hash_of_at_most_one hasher h h' (hlayers evals s' hrun entry hentry) entry.1
  rw [hhashes]

theorem get_serializeable_param_stores_eq
    (hone : (visited_store_names env options specs).Subsingleton) (h : orders.Fits specs)
    (h' : orders'.Fits specs) :
    get_serializeable_param_stores env hasher orders options specs =
      get_serializeable_param_stores env hasher orders' options specs := by
  have hstores := h.param_stores
  have hstores' := h'.param_stores
  unfold get_serializeable_param_stores
  cases hsome : specs.param_stores with
  | none => rfl
  | some stores =>
    rw [hsome, Option.getD_some] at hstores hstores'
    have hvisited : visited_stores env orders options stores =
        visited_stores env orders' options stores := by
      refine filtered_entries_eq hstores hstores' _ fun a ha b hb => hone ?_ ?_
      · obtain ⟨store, hget, hskips⟩ := ha
        exact ⟨stores, hsome, store, hget, by simpa using hskips⟩
      · obtain ⟨store, hget, hskips⟩ := hb
        exact ⟨stores, hsome, store, hget, by simpa using hskips⟩
    dsimp only
    rw [hvisited]
    rfl

theorem new_triggers_eq
    {triggers : Option (HashMap InternedString specs_response.SessionReplayTrigger)}
    {keys keys' : List InternedString} (hone : (trigger_names triggers).Subsingleton)
    (h : Iterates (triggers.getD []) keys) (h' : Iterates (triggers.getD []) keys')
    (random : F64) : new_triggers random triggers keys = new_triggers random triggers keys' := by
  unfold new_triggers
  rw [entries_in_of_at_most_one h h' fun a ha b hb =>
    hone (Option.ne_none_iff_exists'.mp ha) (Option.ne_none_iff_exists'.mp hb)]

theorem get_session_replay_info_eq (hone : AtMostOne env depth hasher options specs)
    (h : orders.Fits specs)
    (h' : orders'.Fits specs) :
    get_session_replay_info env depth hasher orders options specs =
      get_session_replay_info env depth hasher orders' options specs := by
  unfold get_session_replay_info
  cases hdata : specs.session_replay_info with
  | none => rfl
  | some data =>
    dsimp only
    refine bind_congr fun targeting => bind_congr fun random => ?_
    rw [new_triggers_eq (hone.event_triggers data hdata) (h.event_triggers data hdata)
        (h'.event_triggers data hdata) random,
      new_triggers_eq (hone.exposure_triggers data hdata) (h.exposure_triggers data hdata)
        (h'.exposure_triggers data hdata) random]
    rfl

/-- The first format gives the same response in every order. -/
theorem OrderBlind.generate_v1_format_eq (hblind : OrderBlind env depth hasher options specs)
    (hprevious : options.previous_response_hash.isSome) (h : orders.Fits specs)
    (h' : orders'.Fits specs) :
    generate_v1_format env depth hasher orders options specs {} =
      generate_v1_format env depth hasher orders' options specs {} := by
  have hlayers := hblind.layers orders' h'
  unfold evaluate_layers at hlayers
  unfold generate_v1_format
  have hconfigs : get_dynamic_config_evaluations env depth hasher orders options specs =
      get_dynamic_config_evaluations env depth hasher orders' options specs := by
    unfold get_dynamic_config_evaluations
    rw [get_config_spec_evaluations_eq hprevious h h']
    simp only [add_cmab_evaluations_eq hblind.bandits h h']
  rw [get_gate_evaluations_eq hprevious h h', hconfigs,
    get_serializeable_param_stores_eq hblind.param_stores h h',
    get_session_replay_info_eq hblind.toAtMostOne h h']
  -- all but the layers is the same program, so the context before them is the same
  refine bind_congr_run fun gates s hgates => bind_congr_run fun configs s' hrun => ?_
  rw [bind_apply, bind_apply, get_layer_evaluations_eq hprevious h h' fun evals t hevals => ?_]
  refine hlayers evals t ?_
  rw [bind_apply, hgates, andThen_ok, bind_apply, hrun, andThen_ok]
  exact hevals

end Parts

/-! ## The same hash in every order -/

/-- Runs that differ in the orders of the maps compute the same hash. -/
def Reproducible (env : EvaluatorEnv) (depth : Nat) (hasher : Hasher)
    (options : ClientInitResponseOptions) (specs : specs_response.SpecsResponseFull) : Prop :=
  ∀ orders orders', orders.Fits specs → orders'.Fits specs → ∀ response s response' s',
    generate_v1_format env depth hasher orders options specs {} = .ok response s →
    generate_v1_format env depth hasher orders' options specs {} = .ok response' s' →
    full_response_hash hasher s.gcir_hashes = full_response_hash hasher s'.gcir_hashes

section Previous

variable {env : EvaluatorEnv} {depth : Nat} {hasher : Hasher} {orders : MapOrders}
  {options : ClientInitResponseOptions} {specs : specs_response.SpecsResponseFull}

end Previous

/-! ## What the same hash in every order comes to -/

section Reversed

variable {env : EvaluatorEnv} {depth : Nat} {hasher : Hasher} {orders orders' : MapOrders}
  {options : ClientInitResponseOptions} {specs : specs_response.SpecsResponseFull}

/-- The runs in all orders give a response. -/
def Answers (env : EvaluatorEnv) (depth : Nat) (hasher : Hasher)
    (options : ClientInitResponseOptions) (specs : specs_response.SpecsResponseFull) : Prop :=
  ∀ orders, orders.Fits specs → ∃ response s,
    generate_v1_format env depth hasher orders options specs {} = .ok response s

/-- Nothing collides that is hashed in the runs of these specs. -/
def Collisionless (env : EvaluatorEnv) (depth : Nat) (hasher : Hasher)
    (options : ClientInitResponseOptions) (specs : specs_response.SpecsResponseFull) : Prop :=
  ∀ orders orders', orders.Fits specs → orders'.Fits specs → ∀ run s run' s',
    evaluate_first env depth hasher orders options specs {} = .ok run s →
    evaluate_first env depth hasher orders' options specs {} = .ok run' s' →
    CollisionFree hasher (run.terms env orders options specs)
      (run'.terms env orders' options specs)

/-- Without collisions, the terms of a reproducible hash are the same in any two orders. -/
theorem Reproducible.terms (hrep : Reproducible env depth hasher options specs)
    (hno : Collisionless env depth hasher options specs)
    (hprevious : options.previous_response_hash.isSome)
    (hanswers : Answers env depth hasher options specs) (h : orders.Fits specs)
    (h' : orders'.Fits specs) :
    ∃ run s run' s', evaluate_first env depth hasher orders options specs {} = .ok run s ∧
      evaluate_first env depth hasher orders' options specs {} = .ok run' s' ∧
      run.terms env orders options specs = run'.terms env orders' options specs := by
  obtain ⟨response, s, hrun⟩ := hanswers orders h
  obtain ⟨response', s', hrun'⟩ := hanswers orders' h'
  have hhash := hrep orders orders' h h' response s response' s' hrun hrun'
  obtain ⟨run, c, -, hfirst, -, hs⟩ := generate_v1_format_run hprevious hrun
  obtain ⟨run', c', -, hfirst', -, hs'⟩ := generate_v1_format_run hprevious hrun'
  rw [hs, hs'] at hhash
  exact ⟨run, c, run', c', hfirst, hfirst', terms_of_full_response_hash
    (evaluate_first_made hprevious hfirst) (evaluate_first_made hprevious hfirst')
    (hno orders orders' h h' run c run' c' hfirst hfirst') hhash⟩

theorem Reproducible.replay (hrep : Reproducible env depth hasher options specs)
    (hno : Collisionless env depth hasher options specs)
    (hprevious : options.previous_response_hash.isSome)
    (hanswers : Answers env depth hasher options specs) (h : orders.Fits specs)
    (h' : orders'.Fits specs) {data : specs_response.SessionReplayInfo}
    (hdata : specs.session_replay_info = some data) :
    ∃ targeting random targeting' random',
      replay_term orders data targeting random = replay_term orders' data targeting' random' := by
  obtain ⟨run, s, run', s', hrun, hrun', hterms⟩ := hrep.terms hno hprevious hanswers h h'
  have hreplay := (evaluate_first_made hprevious hrun).replay
  have hreplay' := (evaluate_first_made hprevious hrun').replay
  unfold IsReplayTerm at hreplay hreplay'
  rw [hdata] at hreplay hreplay'
  obtain ⟨targeting, random, hterm⟩ := hreplay
  obtain ⟨targeting', random', hterm'⟩ := hreplay'
  simp only [FirstRun.terms, List.cons.injEq] at hterms
  exact ⟨targeting, random, targeting', random',
    hterm.symm.trans (hterms.2.2.2.2.1.trans hterm')⟩

/-- The names of entries are in their terms. -/
theorem names_of_entries_term {T : Type} [GCIRHashable T] [HashTerms T]
    (hname : ∀ orders (value : T) name, ∃ rest,
      HashTerms.term orders value name = .list (text_term name :: rest))
    {entries entries' : List (InternedString × T)}
    (h : entries_term orders entries = entries_term orders' entries') :
    entries.map Prod.fst = entries'.map Prod.fst := by
  have hlists := Term.list.inj h
  clear h
  induction entries generalizing entries' with
  | nil =>
    cases entries' with
    | nil => rfl
    | cons entry' entries' => cases hlists
  | cons entry entries ih =>
    cases entries' with
    | nil => cases hlists
    | cons entry' entries' =>
      obtain ⟨hhead, htail⟩ := List.cons.inj hlists
      obtain ⟨rest, hrest⟩ := hname orders entry.2 entry.1
      obtain ⟨rest', hrest'⟩ := hname orders' entry'.2 entry'.1
      dsimp only at hhead
      rw [hrest, hrest'] at hhead
      have hsame := HashAtom.text.inj (Term.atom.inj (List.cons.inj (Term.list.inj hhead)).1)
      rw [List.map_cons, List.map_cons, hsame, ih htail]

theorem flat_pairs_injective {entries entries' : List (InternedString × InternedString)}
    (h : (entries.flatMap fun entry => [entry.1, entry.2]) =
      entries'.flatMap fun entry => [entry.1, entry.2]) : entries = entries' := by
  induction entries generalizing entries' with
  | nil =>
    cases entries' with
    | nil => rfl
    | cons entry' entries' => cases h
  | cons entry entries ih =>
    cases entries' with
    | nil => cases h
    | cons entry' entries' =>
      simp only [List.flatMap_cons, List.cons_append, List.nil_append, List.cons.injEq] at h
      rw [ih h.2.2, Prod.ext h.1 h.2.1]

theorem texts_term_injective {texts texts' : List InternedString}
    (h : texts_term texts = texts_term texts') : texts = texts' :=
  List.map_injective_iff.mpr (fun _ _ htext => HashAtom.text.inj (Term.atom.inj htext))
    (Term.list.inj h)

end Reversed

/-- A client that has some response already. -/
def returning_client : ClientInitResponseOptions :=
  { plain_names with previous_response_hash := some "" }

def hash_of_run (hasher : Hasher) (outcome : Outcome GcirContext StatsigErr InitializeResponse) :
    Option String :=
  match outcome with
  | .ok _ ctx => some (full_response_hash hasher ctx.gcir_hashes)
  | _ => none

theorem run_of_hash (hasher : Hasher)
    {outcome : Outcome GcirContext StatsigErr InitializeResponse}
    (h : hash_of_run hasher outcome ≠ none) :
    ∃ response ctx, outcome = .ok response ctx := by
  cases outcome with
  | ok response ctx => exact ⟨response, ctx, rfl⟩
  | err e ctx => exact absurd rfl h
  | deep => exact absurd rfl h

end statsig_rust.gcir
