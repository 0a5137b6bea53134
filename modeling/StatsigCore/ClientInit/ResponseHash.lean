-- What the hash of a response is made of. Each part of the first format adds one hash, of the
-- entries in the order in which the part goes through them.
import StatsigCore.ClientInit.SessionReplay
import StatsigCore.Library.Digest

open program digest

namespace statsig_rust.gcir

open evaluation

/-! ## Runs that add no hash -/

/-- A run that leaves the hashes as they are, however it ends. -/
def Silent {α : Type} (x : Gcir α) : Prop :=
  ∀ hashes, Triple (fun c => c.gcir_hashes = hashes) x (fun _ c => c.gcir_hashes = hashes)
    (fun _ c => c.gcir_hashes = hashes) True

section Silent

variable {α β : Type} {x : Gcir α} {f : α → Gcir β}

theorem silent_pure (a : α) : Silent (pure a : Gcir α) := fun _ => triple_pure fun _ h => h

theorem Silent.bind (hx : Silent x) (hf : ∀ a, Silent (f a)) : Silent (x >>= f) :=
  fun hashes => (hx hashes).bind fun a => hf a hashes

theorem silent_state {f : GcirContext → Gcir β} (hf : ∀ c, Silent (f c)) :
    Silent (state >>= f) :=
  fun hashes => triple_state_any fun c => hf c hashes

theorem silent_update {u : GcirContext → GcirContext}
    (hu : ∀ c, (u c).gcir_hashes = c.gcir_hashes) : Silent (update u) :=
  fun _ ctx h => (hu ctx).trans h

theorem silent_update_bind {u : GcirContext → GcirContext} {f : Unit → Gcir β}
    (hu : ∀ c, (u c).gcir_hashes = c.gcir_hashes) (hf : Silent (f ())) :
    Silent (update u >>= f) :=
  (silent_update hu).bind fun _ => hf

theorem Silent.attempt (hx : Silent x) : Silent (attempt x) :=
  fun hashes => Triple.attempt (R := fun _ (c : GcirContext) => c.gcir_hashes = hashes) (hx hashes)

theorem silent_evaluator_call (x : Eval α) : Silent (evaluator_call x) := by
  intro hashes ctx h
  unfold evaluator_call
  cases x ctx.evaluator with
  | ok a c => exact h
  | err e c => exact h
  | deep => trivial

/-- A value of a silent run comes with the hashes from before. -/
theorem Silent.hashes (hx : Silent x) {s s' : GcirContext} {a : α} (h : x s = .ok a s') :
    s'.gcir_hashes = s.gcir_hashes := by
  have hmeets := hx s.gcir_hashes s rfl
  rw [h] at hmeets
  exact hmeets

theorem hash_secondary_exposures_hashes (hashing : HashUtil) (hash_algorithm : HashAlgorithm)
    (ctx : GcirContext) :
    (hash_secondary_exposures hashing hash_algorithm ctx).gcir_hashes = ctx.gcir_hashes := by
  unfold hash_secondary_exposures
  dsimp only
  split
  · rfl
  · rfl

theorem run_factory_silent {T : Type} (evaluation_factory : EvaluationFactory T)
    (entity : InternedString) (hashed_name : String) :
    Silent (run_factory evaluation_factory entity hashed_name) :=
  fun _ _ h => h

variable {T : Type} (env : EvaluatorEnv) (depth : Nat) (options : ClientInitResponseOptions)

theorem process_keys_silent (get_spec_type : specs_response.Spec → SpecType)
    (evaluation_factory : EvaluationFactory T)
    (specs_map : HashMap InternedString specs_response.Spec) (keys : List InternedString) :
    Silent (process_keys env depth options get_spec_type evaluation_factory specs_map keys) := by
  have hspec : ∀ name spec, Silent (process_spec env depth options get_spec_type
      evaluation_factory name spec) := by
    intro name spec
    unfold process_spec
    refine silent_update_bind (fun _ => rfl) ?_
    refine (silent_evaluator_call _).bind fun _ => silent_state fun ctx => ?_
    split
    · exact silent_pure none
    · split
      · exact silent_pure none
      · refine silent_update_bind (fun c => hash_secondary_exposures_hashes _ _ c) ?_
        exact (run_factory_silent _ _ _).bind fun eval => silent_pure (some eval)
  induction keys with
  | nil => exact silent_pure []
  | cons name names ih =>
    unfold process_keys
    split
    · exact ih
    · split
      · exact ih
      · exact (hspec _ _).bind fun eval => ih.bind fun rest => silent_pure _

theorem add_cmab_evaluations_silent (orders : MapOrders)
    (specs : specs_response.SpecsResponseFull) (result : HashMap String AnyConfigEvaluation) :
    Silent (add_cmab_evaluations env depth orders options specs result) := by
  have hcmab : ∀ config_name, Silent (process_cmab env depth options config_name) := by
    intro config_name
    unfold process_cmab
    refine silent_update_bind (fun _ => rfl) ?_
    refine (silent_evaluator_call _).attempt.bind fun _ => ?_
    refine silent_update_bind (fun c => hash_secondary_exposures_hashes _ _ c) ?_
    exact run_factory_silent _ _ _
  unfold add_cmab_evaluations
  split
  · exact silent_pure result
  · rename_i cmab_configs _
    generalize orders.cmab_configs = names
    induction names generalizing result with
    | nil => exact silent_pure result
    | cons name names ih =>
      unfold process_cmabs
      split
      · exact ih result
      · exact (hcmab name).bind fun eval => ih _

theorem get_session_targeting_silent (targeting_gate : Option String) :
    Silent (get_session_targeting env depth targeting_gate) := by
  unfold get_session_targeting
  split
  · exact silent_pure none
  · refine (silent_evaluator_call _).attempt.bind fun recognition => ?_
    split
    · exact silent_state fun ctx => silent_pure _
    · exact silent_pure _

theorem draw_random_silent : Silent (draw_random env) := fun _ _ h => h

end Silent

/-! ## What is hashed -/

inductive HashAtom where
  | text (s : String)
  | object (map : HashMap String JsonValue)

def HashAtom.is_text : HashAtom → Bool
  | text _ => true
  | object _ => false

/-- Texts and objects are hashed by themselves, and lists by `hash_one`. -/
def Hasher.scheme (hasher : Hasher) : Scheme HashAtom Bool where
  kind := HashAtom.is_text
  hash_atom
    | .text s => hasher.interned s
    | .object map => hasher.returnable map
  hash_list := hasher.hash_one

abbrev HashTerm := Term HashAtom

def text_term (text : String) : HashTerm := .atom (.text text)

def rule_id_term : Interned → HashTerm
  | .empty => .number 0
  | .stored text => text_term text

def optional_term : Option InternedString → HashTerm
  | some text => text_term text
  | none => .number 0

/-- The three constants have the hash of nothing. -/
def value_term : DynamicReturnable → HashTerm
  | .null => .number 0
  | .bool _ => .number 0
  | .json map => .atom (.object map)

def exposure_term (exposure : SecondaryExposure) : HashTerm :=
  .list [text_term exposure.gate, text_term exposure.gate_value, text_term exposure.rule_id]

def exposures_term (exposures : List SecondaryExposure) : HashTerm :=
  .list (exposures.map exposure_term)

def texts_term (texts : List InternedString) : HashTerm := .list (texts.map text_term)

section

variable {hasher : Hasher}

theorem rule_id_term_hash (rule_id : Interned) :
    (rule_id_term rule_id).hash hasher.scheme = hasher.hash_of rule_id := by
  cases rule_id with
  | empty => rfl
  | stored text => rfl

theorem optional_term_hash (text : Option InternedString) :
    (optional_term text).hash hasher.scheme = hasher.hash_or_zero text := by
  cases text with
  | none => rfl
  | some text => rfl

theorem value_term_hash (value : DynamicReturnable) :
    (value_term value).hash hasher.scheme = hasher.get_hash value := by
  cases value with
  | null => rfl
  | bool b => rfl
  | json map => rfl

theorem list_term_hash {β : Type} {f : β → HashTerm} {g : β → Nat}
    (h : ∀ b, (f b).hash hasher.scheme = g b) (bs : List β) :
    (Term.list (bs.map f)).hash hasher.scheme = hasher.hash_one (bs.map g) := by
  show hasher.hash_one (Term.hashes hasher.scheme (bs.map f)) = _
  rw [Term.hashes_eq_map, List.map_map]
  exact congrArg hasher.hash_one (List.map_congr_left fun b _ => h b)

theorem exposures_term_hash (exposures : List SecondaryExposure) :
    (exposures_term exposures).hash hasher.scheme = hash_of_exposures hasher exposures :=
  list_term_hash (fun _ => rfl) exposures

theorem texts_term_hash (texts : List InternedString) :
    (texts_term texts).hash hasher.scheme = hasher.hash_one (texts.map hasher.interned) :=
  list_term_hash (fun _ => rfl) texts

/-! ## Terms of one shape -/

theorem text_term_shape (text text' : String) :
    Term.SameShape hasher.scheme (text_term text) (text_term text') :=
  rfl

theorem rule_id_term_shape (rule_id rule_id' : Interned) :
    Term.SameShape hasher.scheme (rule_id_term rule_id) (rule_id_term rule_id') := by
  cases rule_id <;> cases rule_id' <;> trivial

theorem optional_term_shape (text text' : Option InternedString) :
    Term.SameShape hasher.scheme (optional_term text) (optional_term text') := by
  cases text <;> cases text' <;> trivial

theorem value_term_shape (value value' : DynamicReturnable) :
    Term.SameShape hasher.scheme (value_term value) (value_term value') := by
  cases value <;> cases value' <;> trivial

theorem exposures_term_shape (exposures exposures' : List SecondaryExposure) :
    Term.SameShape hasher.scheme (exposures_term exposures) (exposures_term exposures') :=
  Term.sameShape_list_map (f := exposure_term) (g := exposure_term)
    (fun _ _ _ => ⟨text_term_shape _ _, text_term_shape _ _, text_term_shape _ _, trivial⟩)
    exposures exposures'

theorem texts_term_shape (texts texts' : List InternedString) :
    Term.SameShape hasher.scheme (texts_term texts) (texts_term texts') :=
  Term.sameShape_list_map (f := text_term) (g := text_term) text_term_shape texts texts'

end

/-! ## Entries -/

/-- What the hash of an entry is computed from. The hashes of any two entries of the kind are
computed in the same way, or from lists of different lengths. -/
class HashTerms (T : Type) [GCIRHashable T] where
  term : MapOrders → T → InternedString → HashTerm
  hash_term : ∀ (hasher : Hasher) orders value name,
    create_hash hasher orders value name = (term orders value name).hash hasher.scheme
  shape : ∀ (hasher : Hasher) orders orders' value value' name name',
    Term.SameShape hasher.scheme (term orders value name) (term orders' value' name')

def gate_term (eval : GateEvaluation) (name : InternedString) : HashTerm := .list [
  text_term name,
  .number eval.value.toNat,
  rule_id_term eval.base.rule_id,
  exposures_term eval.base.secondary_exposures]

instance : HashTerms GateEvaluation where
  term _ := gate_term
  hash_term hasher orders value name := by
    show hasher.hash_one _ = hasher.hash_one _
    simp only [Term.hashes, rule_id_term_hash, exposures_term_hash]
    rfl
  shape hasher orders orders' value value' name name' _ :=
    ⟨rfl, trivial, rule_id_term_shape _ _, exposures_term_shape _ _, trivial⟩

def config_term (eval : DynamicConfigEvaluation) (name : InternedString) : HashTerm := .list [
  text_term name,
  value_term eval.value,
  rule_id_term eval.base.rule_id,
  exposures_term eval.base.secondary_exposures,
  .number eval.passed.toNat]

def experiment_term (eval : ExperimentEvaluation) (name : InternedString) : HashTerm := .list [
  text_term name,
  value_term eval.value,
  rule_id_term eval.base.rule_id,
  exposures_term eval.base.secondary_exposures,
  .number eval.is_in_layer.toNat,
  texts_term (eval.explicit_parameters.getD []),
  optional_term eval.group_name,
  .number (opt_bool_to_hashable eval.is_experiment_active),
  .number (opt_bool_to_hashable eval.is_user_in_experiment)]

def any_config_term (eval : AnyConfigEvaluation) (name : InternedString) : HashTerm :=
  match eval with
  | .DynamicConfig eval => config_term eval name
  | .Experiment eval => experiment_term eval name

instance : HashTerms AnyConfigEvaluation where
  term _ := any_config_term
  hash_term hasher orders value name := by
    cases value with
    | DynamicConfig eval =>
      show hasher.hash_one _ = hasher.hash_one _
      simp only [Term.hashes, value_term_hash, rule_id_term_hash, exposures_term_hash]
      rfl
    | Experiment eval =>
      show hasher.hash_one _ = hasher.hash_one _
      simp only [Term.hashes, value_term_hash, rule_id_term_hash, exposures_term_hash,
        texts_term_hash, optional_term_hash]
      rfl
  shape hasher orders orders' value value' name name' := by
    cases value with
    | DynamicConfig eval =>
      cases value' with
      | DynamicConfig eval' =>
        exact fun _ => ⟨rfl, value_term_shape _ _, rule_id_term_shape _ _,
          exposures_term_shape _ _, trivial, trivial⟩
      | Experiment eval' => exact nofun
    | Experiment eval =>
      cases value' with
      | DynamicConfig eval' => exact nofun
      | Experiment eval' =>
        exact fun _ => ⟨rfl, value_term_shape _ _, rule_id_term_shape _ _,
          exposures_term_shape _ _, trivial, texts_term_shape _ _, optional_term_shape _ _,
          trivial, trivial, trivial⟩

/-- The value of a layer that merged its rules, in the order in which its text is written. -/
def layer_value_term (orders : MapOrders) (eval : LayerEvaluation) (name : InternedString) :
    HashTerm :=
  match eval.parameter_rule_ids, eval.value with
  | some _, .json map => .atom (.object (written_object (orders.merged_values name) map))
  | _, value => value_term value

def parameter_rule_ids_term (orders : MapOrders) (eval : LayerEvaluation)
    (name : InternedString) : List HashTerm :=
  match eval.parameter_rule_ids with
  | none => []
  | some parameter_rule_ids =>
    let entries := entries_in parameter_rule_ids (orders.parameter_rule_ids name parameter_rule_ids)
    [texts_term (entries.flatMap fun entry => [entry.1, entry.2])]

def layer_term (orders : MapOrders) (eval : LayerEvaluation) (name : InternedString) :
    HashTerm := .list ([
  text_term name,
  layer_value_term orders eval name,
  rule_id_term eval.base.rule_id,
  exposures_term eval.base.secondary_exposures,
  optional_term eval.group_name,
  .number (opt_bool_to_hashable eval.is_experiment_active),
  .number (opt_bool_to_hashable eval.is_user_in_experiment),
  optional_term eval.allocated_experiment_name,
  texts_term eval.explicit_parameters,
  exposures_term (eval.undelegated_secondary_exposures.getD [])]
  ++ parameter_rule_ids_term orders eval name)

theorem layer_value_term_hash {hasher : Hasher} (orders : MapOrders) (eval : LayerEvaluation)
    (name : InternedString) :
    (layer_value_term orders eval name).hash hasher.scheme =
      layer_value_hash hasher orders eval name := by
  unfold layer_value_term layer_value_hash
  cases eval.parameter_rule_ids with
  | none => exact value_term_hash _
  | some ids =>
    cases eval.value with
    | null => rfl
    | bool b => rfl
    | json map => rfl

theorem layer_value_term_shape {hasher : Hasher} (orders orders' : MapOrders)
    (eval eval' : LayerEvaluation) (name name' : InternedString) :
    Term.SameShape hasher.scheme (layer_value_term orders eval name)
      (layer_value_term orders' eval' name') := by
  have hform : ∀ orders eval name, ∃ value, layer_value_term orders eval name =
      value_term value := by
    intro orders eval name
    unfold layer_value_term
    split
    · exact ⟨.json _, rfl⟩
    · exact ⟨_, rfl⟩
  obtain ⟨value, hvalue⟩ := hform orders eval name
  obtain ⟨value', hvalue'⟩ := hform orders' eval' name'
  rw [hvalue, hvalue']
  exact value_term_shape value value'

theorem parameter_rule_ids_term_hashes {hasher : Hasher} (orders : MapOrders)
    (eval : LayerEvaluation) (name : InternedString) :
    Term.hashes hasher.scheme (parameter_rule_ids_term orders eval name) =
      parameter_rule_ids_hash hasher orders eval name := by
  unfold parameter_rule_ids_term parameter_rule_ids_hash
  cases eval.parameter_rule_ids with
  | none => rfl
  | some ids =>
    simp only [Term.hashes, texts_term_hash, List.map_flatMap, List.map_cons, List.map_nil]

instance : HashTerms LayerEvaluation where
  term := layer_term
  hash_term hasher orders value name := by
    show hasher.hash_one _ = hasher.hash_one _
    rw [Term.hashes_eq_map, List.map_append, ← Term.hashes_eq_map, ← Term.hashes_eq_map,
      parameter_rule_ids_term_hashes]
    simp only [Term.hashes, layer_value_term_hash, rule_id_term_hash, exposures_term_hash,
      texts_term_hash, optional_term_hash]
    rfl
  shape hasher orders orders' value value' name name' := by
    have hids : Term.SameShapes hasher.scheme (parameter_rule_ids_term orders value name)
        (parameter_rule_ids_term orders' value' name') := by
      unfold parameter_rule_ids_term
      cases value.parameter_rule_ids with
      | none => trivial
      | some ids =>
        cases value'.parameter_rule_ids with
        | none => trivial
        | some ids' => exact ⟨texts_term_shape _ _, trivial⟩
    exact fun _ => ⟨rfl, layer_value_term_shape _ _ _ _ _ _, rule_id_term_shape _ _,
      exposures_term_shape _ _, optional_term_shape _ _, trivial, trivial,
      optional_term_shape _ _, texts_term_shape _ _, exposures_term_shape _ _, hids⟩

instance : HashTerms specs_response.ParameterStore where
  term _ store name := .list [text_term name, .number (store.version.getD 0)]
  hash_term _ _ _ _ := rfl
  shape _ _ _ _ _ _ _ _ := ⟨rfl, trivial, trivial⟩

instance : HashTerms specs_response.SessionReplayTrigger where
  term _ trigger name := .list ([
    text_term name,
    .number (opt_bool_to_hashable trigger.passes_sampling)]
    ++ (trigger.values.getD []).map text_term)
  hash_term hasher _ trigger name := by
    show hasher.hash_one _ = hasher.hash_one _
    rw [Term.hashes_eq_map, List.map_append, List.map_map]
    rfl
  shape hasher _ _ trigger trigger' name name' _ :=
    ⟨rfl, trivial, Term.sameShapes_map (f := text_term) (g := text_term) text_term_shape _ _⟩

section

variable {T : Type} [GCIRHashable T] [HashTerms T]

/-- A list of entries. -/
def entries_term (orders : MapOrders) (entries : List (InternedString × T)) : HashTerm :=
  .list (entries.map fun entry => HashTerms.term orders entry.2 entry.1)

theorem entries_term_hash {hasher : Hasher} (orders : MapOrders)
    (entries : List (InternedString × T)) :
    (entries_term orders entries).hash hasher.scheme =
      hasher.hash_one (entries.map fun entry => create_hash hasher orders entry.2 entry.1) :=
  list_term_hash (f := fun entry => HashTerms.term orders entry.2 entry.1)
    (fun entry => (HashTerms.hash_term hasher orders entry.2 entry.1).symm) entries

theorem entries_term_shape {hasher : Hasher} (orders orders' : MapOrders)
    (entries entries' : List (InternedString × T)) :
    Term.SameShape hasher.scheme (entries_term orders entries) (entries_term orders' entries') :=
  Term.sameShape_list_map (f := fun entry => HashTerms.term orders entry.2 entry.1)
    (g := fun entry => HashTerms.term orders' entry.2 entry.1)
    (fun _ _ => HashTerms.shape _ _ _ _ _ _ _) entries entries'

end

/-! ## The parameter stores and the session replay -/

def stores_term (env : EvaluatorEnv) (orders : MapOrders) (options : ClientInitResponseOptions)
    (specs : specs_response.SpecsResponseFull) : HashTerm :=
  match specs.param_stores with
  | none => .number 0
  | some stores => entries_term orders (visited_stores env orders options stores)

/-- The parameter stores of the response. -/
def response_stores (env : EvaluatorEnv) (orders : MapOrders) (options : ClientInitResponseOptions)
    (specs : specs_response.SpecsResponseFull) : SerializeableParamStore :=
  match specs.param_stores with
  | none => []
  | some stores => (visited_stores env orders options stores).foldl (fun param_stores entry =>
      param_stores.insert (env.hashing.hash entry.1 options.get_hash_algorithm)
        (get_parameters_from_store env options entry.2)) []

/-- The hash of the session replay is computed from the value of its gate and the triggers. -/
def replay_term (orders : MapOrders) (data : specs_response.SessionReplayInfo)
    (targeting : Option Bool) (random : F64) : HashTerm := .list [
  .list [
    .number (opt_bool_to_hashable (some (can_record data targeting random))),
    .number (opt_bool_to_hashable data.recording_blocked),
    .number (opt_bool_to_hashable targeting)],
  entries_term orders
    (new_triggers random data.session_recording_event_triggers orders.event_triggers),
  entries_term orders
    (new_triggers random data.session_recording_exposure_triggers orders.exposure_triggers)]

/-- What the hash of the session replay is computed from in this context. -/
def session_replay_term (env : EvaluatorEnv) (depth : Nat) (orders : MapOrders)
    (specs : specs_response.SpecsResponseFull) : Gcir HashTerm :=
  match specs.session_replay_info with
  | none => pure (.number 0)
  | some data => do
    let targeting ← get_session_targeting env depth data.targeting_gate
    let random ← draw_random env
    pure (replay_term orders data targeting random)

/-- The terms that the session replay of these specs can have. -/
def IsReplayTerm (orders : MapOrders) (specs : specs_response.SpecsResponseFull) (t : HashTerm) :
    Prop :=
  match specs.session_replay_info with
  | none => t = .number 0
  | some data => ∃ targeting random, t = replay_term orders data targeting random

section

variable {env : EvaluatorEnv} {depth : Nat} {hasher : Hasher} {orders orders' : MapOrders}
  {options : ClientInitResponseOptions} {specs specs' : specs_response.SpecsResponseFull}

theorem stores_term_shape (env' : EvaluatorEnv) :
    Term.SameShape hasher.scheme (stores_term env orders options specs)
      (stores_term env' orders' options specs') := by
  unfold stores_term
  cases specs.param_stores with
  | none =>
    cases specs'.param_stores with
    | none => trivial
    | some stores' => rfl
  | some stores =>
    cases specs'.param_stores with
    | none => rfl
    | some stores' => exact entries_term_shape _ _ _ _

theorem replay_term_shape {t t' : HashTerm} (h : IsReplayTerm orders specs t)
    (h' : IsReplayTerm orders' specs' t') : Term.SameShape hasher.scheme t t' := by
  unfold IsReplayTerm at h h'
  split at h
  · subst h
    split at h'
    · subst h'
      trivial
    · obtain ⟨targeting', random', rfl⟩ := h'
      rfl
  · obtain ⟨targeting, random, rfl⟩ := h
    split at h'
    · subst h'
      rfl
    · obtain ⟨targeting', random', rfl⟩ := h'
      exact fun _ => ⟨fun _ => ⟨trivial, trivial, trivial, trivial⟩, entries_term_shape _ _ _ _,
        entries_term_shape _ _ _ _, trivial⟩

theorem param_stores_hash_run (hprevious : options.previous_response_hash.isSome)
    (s : GcirContext) : get_serializeable_param_stores env hasher orders options specs s =
      .ok (response_stores env orders options specs) { s with gcir_hashes :=
        s.gcir_hashes ++ [(stores_term env orders options specs).hash hasher.scheme] } := by
  unfold get_serializeable_param_stores stores_term response_stores
  cases specs.param_stores with
  | none =>
    rw [if_pos hprevious]
    rfl
  | some stores =>
    simp only [if_pos hprevious, entries_term_hash]
    rfl

/-- The session replay adds the hash of its term. -/
theorem session_replay_hash_run (hprevious : options.previous_response_hash.isSome)
    {s s' : GcirContext} {info : GCIRSessionReplayInfo}
    (h : get_session_replay_info env depth hasher orders options specs s = .ok info s') :
    ∃ t s₁, session_replay_term env depth orders specs s = .ok t s₁ ∧
      s'.gcir_hashes = s.gcir_hashes ++ [t.hash hasher.scheme] := by
  unfold get_session_replay_info at h
  unfold session_replay_term
  cases hdata : specs.session_replay_info with
  | none =>
    rw [hdata] at h
    cases h
    exact ⟨.number 0, s, rfl, rfl⟩
  | some data =>
    rw [hdata] at h
    obtain ⟨targeting, s₁, htargeting, h⟩ := ok_of_bind h
    obtain ⟨random, s₂, hrandom, h⟩ := ok_of_bind h
    dsimp only at h
    rw [if_pos hprevious] at h
    have hsilent := (get_session_targeting_silent env depth data.targeting_gate).hashes htargeting
    have hdraw := (draw_random_silent env).hashes hrandom
    cases h
    refine ⟨replay_term orders data targeting random, s₂, ?_, ?_⟩
    · dsimp only
      rw [bind_apply, htargeting]
      simp only [andThen_ok]
      rw [bind_apply, hrandom]
      rfl
    · show s₂.gcir_hashes ++ _ = s.gcir_hashes ++ _
      rw [hdraw, hsilent]
      show _ ++ [hasher.hash_one _] = _ ++ [hasher.hash_one _]
      simp only [Term.hashes, entries_term_hash]
      rfl

theorem session_replay_term_is {s s' : GcirContext} {t : HashTerm}
    (h : session_replay_term env depth orders specs s = .ok t s') :
    IsReplayTerm orders specs t := by
  unfold session_replay_term at h
  unfold IsReplayTerm
  cases hdata : specs.session_replay_info with
  | none =>
    rw [hdata] at h
    cases h
    rfl
  | some data =>
    rw [hdata] at h
    obtain ⟨targeting, s₁, -, h⟩ := ok_of_bind h
    obtain ⟨random, s₂, -, h⟩ := ok_of_bind h
    cases h
    exact ⟨targeting, random, rfl⟩

end

/-! ## A run of the first format -/

/-- The evaluations of a run in the order in which they are made, the parts of the response
that are made of them, and the term of its session replay. -/
structure FirstRun where
  gates : List (InternedString × GateEvaluation)
  configs : List (InternedString × AnyConfigEvaluation)
  layers : List (InternedString × LayerEvaluation)
  parts : FirstParts
  replay : HashTerm

section

variable (env : EvaluatorEnv) (depth : Nat) (hasher : Hasher) (orders : MapOrders)
  (options : ClientInitResponseOptions) (specs : specs_response.SpecsResponseFull)

/-- The step that adds the hash of the evaluations of one kind. -/
def hash_entries {T : Type} [GCIRHashable T] (entries : List (InternedString × T)) : Gcir Unit :=
  if options.previous_response_hash.isSome then
    push_hash (hasher.hash_one (entries.map fun entry =>
      create_hash hasher orders entry.2 entry.1))
  else pure ()

/-- The run of the first format up to its session replay. -/
def evaluate_first : Gcir FirstRun := do
  let gates ← process_keys env depth options (fun _ => .Gate) (gate_factory options)
    specs.feature_gates (ordered_keys options orders.feature_gates)
  hash_entries hasher orders options gates
  let configs ← process_keys env depth options get_dynamic_config_type (config_factory options)
    specs.dynamic_configs (ordered_keys options orders.dynamic_configs)
  hash_entries hasher orders options configs
  let dynamic_configs ← add_cmab_evaluations env depth orders options specs
    (collect_results env options configs)
  let layers ← process_keys env depth options (fun _ => .Layer) (layer_factory env options)
    specs.layer_configs (ordered_keys options orders.layer_configs)
  hash_entries hasher orders options layers
  let param_stores ← get_serializeable_param_stores env hasher orders options specs
  let replay ← session_replay_term env depth orders specs
  pure {
    gates
    configs
    layers
    parts := {
      feature_gates := collect_results env options gates
      dynamic_configs
      layer_configs := collect_results env options layers
      param_stores }
    replay }

variable {env depth hasher orders options specs}

theorem gcir_process_iter_eq {T : Type} [GCIRHashable T]
    {evaluation_factory : EvaluationFactory T}
    {get_spec_type : specs_response.Spec → SpecType}
    {specs_map : HashMap InternedString specs_response.Spec} {keys : List InternedString} :
    gcir_process_iter env depth options get_spec_type evaluation_factory hasher orders specs_map
      keys = (do
        let evals ← process_keys env depth options get_spec_type evaluation_factory specs_map
          (ordered_keys options keys)
        hash_entries hasher orders options evals
        pure (collect_results env options evals)) := by
  unfold gcir_process_iter hash_entries
  refine bind_congr fun evals => ?_
  split
  · rfl
  · rfl

/-- What is hashed in a run. -/
def FirstRun.terms (env : EvaluatorEnv) (orders : MapOrders)
    (options : ClientInitResponseOptions) (specs : specs_response.SpecsResponseFull)
    (run : FirstRun) : List HashTerm := [
  entries_term orders run.gates,
  entries_term orders run.configs,
  entries_term orders run.layers,
  stores_term env orders options specs,
  run.replay]

/-- A hash is added to those that are there. -/
theorem hash_entries_run {T : Type} [GCIRHashable T] [HashTerms T]
    (hprevious : options.previous_response_hash.isSome) (entries : List (InternedString × T))
    (s : GcirContext) : hash_entries hasher orders options entries s =
      .ok () { s with gcir_hashes :=
        s.gcir_hashes ++ [(entries_term orders entries).hash hasher.scheme] } := by
  unfold hash_entries
  rw [if_pos hprevious, entries_term_hash]
  rfl

/-- The parts of a response are made from the evaluations of its run. -/
structure FirstRun.Made (env : EvaluatorEnv) (depth : Nat) (orders : MapOrders)
    (options : ClientInitResponseOptions) (specs : specs_response.SpecsResponseFull)
    (run : FirstRun) : Prop where
  gate_run : ∃ s s', process_keys env depth options (fun _ => .Gate) (gate_factory options)
    specs.feature_gates (ordered_keys options orders.feature_gates) s = .ok run.gates s'
  config_run : ∃ s s', process_keys env depth options get_dynamic_config_type
    (config_factory options) specs.dynamic_configs (ordered_keys options orders.dynamic_configs) s =
      .ok run.configs s'
  layer_run : ∃ s s', process_keys env depth options (fun _ => .Layer) (layer_factory env options)
    specs.layer_configs (ordered_keys options orders.layer_configs) s = .ok run.layers s'
  feature_gates : run.parts.feature_gates = collect_results env options run.gates
  dynamic_configs : ∃ s s', add_cmab_evaluations env depth orders options specs
    (collect_results env options run.configs) s = .ok run.parts.dynamic_configs s'
  layer_configs : run.parts.layer_configs = collect_results env options run.layers
  param_stores : run.parts.param_stores = response_stores env orders options specs
  replay : IsReplayTerm orders specs run.replay

theorem evaluate_first_made (hprevious : options.previous_response_hash.isSome) {run : FirstRun}
    {s : GcirContext} (h : evaluate_first env depth hasher orders options specs {} = .ok run s) :
    run.Made env depth orders options specs := by
  obtain ⟨gates, s₁, hgates, h⟩ := ok_of_bind h
  obtain ⟨_, s₂, -, h⟩ := ok_of_bind h
  obtain ⟨configs, s₃, hconfigs, h⟩ := ok_of_bind h
  obtain ⟨_, s₄, -, h⟩ := ok_of_bind h
  obtain ⟨dynamic_configs, s₅, hcmabs, h⟩ := ok_of_bind h
  obtain ⟨layers, s₆, hlayers, h⟩ := ok_of_bind h
  obtain ⟨_, s₇, -, h⟩ := ok_of_bind h
  rw [bind_apply, param_stores_hash_run hprevious] at h
  simp only [andThen_ok] at h
  obtain ⟨replay, s₈, hreplay, h⟩ := ok_of_bind h
  cases h
  exact ⟨⟨_, _, hgates⟩, ⟨_, _, hconfigs⟩, ⟨_, _, hlayers⟩, rfl, ⟨_, _, hcmabs⟩, rfl, rfl,
    session_replay_term_is hreplay⟩

/-- A run of the first format: its response, and the terms of the full hash. -/
theorem generate_v1_format_run (hprevious : options.previous_response_hash.isSome)
    {response : InitializeResponse} {s : GcirContext}
    (h : generate_v1_format env depth hasher orders options specs {} = .ok response s) :
    ∃ run c info, evaluate_first env depth hasher orders options specs {} = .ok run c ∧
      response = first_response env hasher options specs run.parts info s.gcir_hashes ∧
      s.gcir_hashes = Term.hashes hasher.scheme (run.terms env orders options specs) := by
  rw [generate_v1_format_eq] at h
  unfold before_session_replay get_gate_evaluations get_dynamic_config_evaluations
    get_config_spec_evaluations get_layer_evaluations at h
  simp only [gcir_process_iter_eq, bind_bind, pure_bind_eq] at h
  obtain ⟨gates, s₁, hgates, h⟩ := ok_of_bind h
  have hsilent₁ := (process_keys_silent env depth options _ _ _ _).hashes hgates
  rw [bind_apply, hash_entries_run hprevious] at h
  simp only [andThen_ok] at h
  obtain ⟨configs, s₃, hconfigs, h⟩ := ok_of_bind h
  have hsilent₃ := (process_keys_silent env depth options _ _ _ _).hashes hconfigs
  rw [bind_apply, hash_entries_run hprevious] at h
  simp only [andThen_ok] at h
  obtain ⟨dynamic_configs, s₅, hcmabs, h⟩ := ok_of_bind h
  have hsilent₅ := (add_cmab_evaluations_silent env depth options orders specs _).hashes hcmabs
  obtain ⟨layers, s₆, hlayers, h⟩ := ok_of_bind h
  have hsilent₆ := (process_keys_silent env depth options _ _ _ _).hashes hlayers
  rw [bind_apply, hash_entries_run hprevious] at h
  simp only [andThen_ok] at h
  rw [bind_apply, param_stores_hash_run hprevious] at h
  simp only [andThen_ok] at h
  obtain ⟨info, s₈, hinfo, h⟩ := ok_of_bind h
  obtain ⟨t, c, ht, hhash⟩ := session_replay_hash_run hprevious hinfo
  cases h
  refine ⟨⟨gates, configs, layers, _, t⟩, c, info, ?_, rfl, ?_⟩
  · unfold evaluate_first
    rw [bind_apply, hgates]
    simp only [andThen_ok]
    rw [bind_apply, hash_entries_run hprevious]
    simp only [andThen_ok]
    rw [bind_apply, hconfigs]
    simp only [andThen_ok]
    rw [bind_apply, hash_entries_run hprevious]
    simp only [andThen_ok]
    rw [bind_apply, hcmabs]
    simp only [andThen_ok]
    rw [bind_apply, hlayers]
    simp only [andThen_ok]
    rw [bind_apply, hash_entries_run hprevious]
    simp only [andThen_ok]
    rw [bind_apply, param_stores_hash_run hprevious]
    simp only [andThen_ok]
    rw [bind_apply, ht]
    rfl
  · rw [hhash]
    show ((s₆.gcir_hashes ++ _) ++ _) ++ _ = _
    rw [hsilent₆, hsilent₅]
    show (((s₃.gcir_hashes ++ _) ++ _) ++ _) ++ _ = _
    rw [hsilent₃]
    show ((((s₁.gcir_hashes ++ _) ++ _) ++ _) ++ _) ++ _ = _
    rw [hsilent₁]
    rfl

end

/-- The hash of a response as a number. -/
theorem full_response_hash_injective {hasher : Hasher} {hashes hashes' : List Nat}
    (h : full_response_hash hasher hashes = full_response_hash hasher hashes') :
    hasher.hash_one hashes = hasher.hash_one hashes' :=
  toString_injective h

/-- Nothing collides that is hashed for the two responses. -/
def CollisionFree (hasher : Hasher) (terms terms' : List HashTerm) : Prop :=
  NoCollision hasher.scheme (.list terms) (.list terms')

/-- Without collisions, equal full hashes are computed from the same terms. -/
theorem terms_of_full_response_hash {hasher : Hasher} {env env' : EvaluatorEnv} {depth : Nat}
    {orders orders' : MapOrders} {options : ClientInitResponseOptions}
    {specs specs' : specs_response.SpecsResponseFull} {run run' : FirstRun}
    (hmade : run.Made env depth orders options specs)
    (hmade' : run'.Made env' depth orders' options specs')
    (hno : CollisionFree hasher (run.terms env orders options specs)
      (run'.terms env' orders' options specs'))
    (h : full_response_hash hasher
        (Term.hashes hasher.scheme (run.terms env orders options specs)) =
      full_response_hash hasher
        (Term.hashes hasher.scheme (run'.terms env' orders' options specs'))) :
    run.terms env orders options specs = run'.terms env' orders' options specs' := by
  have hshape : Term.SameShape hasher.scheme (.list (run.terms env orders options specs))
      (.list (run'.terms env' orders' options specs')) :=
    fun _ => ⟨entries_term_shape _ _ _ _, entries_term_shape _ _ _ _, entries_term_shape _ _ _ _,
      stores_term_shape env', replay_term_shape hmade.replay hmade'.replay, trivial⟩
  exact Term.list.inj (Term.eq_of_hash _ _ hshape hno (full_response_hash_injective h))

end statsig_rust.gcir
