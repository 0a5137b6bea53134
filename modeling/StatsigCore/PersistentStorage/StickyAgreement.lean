-- Where the typed and the raw sticky path of one evaluation agree: they take the same
-- branch of the protocol, under the same name, and with the same new value.
import StatsigCore.PersistentStorage.StickyProtocol

namespace statsig_rust.persistent_storage

open evaluation

/-! ## Two requests with the same values -/

namespace Request

theorem storage_key_of_branch (request : Request) (values : Option UserPersistedValues)
    (h : request.branch values ≠ .live) : ∃ key, request.storage_key = some key := by
  cases hkey : request.storage_key with
  | some key => exact ⟨key, rfl⟩
  | none => simp [branch, hkey] at h

theorem in_group_of_record {request : Request} {values : Option UserPersistedValues}
    (h : request.branch values = .record) : request.in_group = true := by
  unfold branch at h
  split at h
  · cases h
  · cases h
  · split at h
    · cases h
    · split at h
      · split at h <;> cases h
      · split at h
        · assumption
        · cases h

/-- A view of the answer is the answer in views. -/
theorem answer_map {α β : Type} (request : Request) (values : Option UserPersistedValues)
    (view : α → β) (live : α) (from_sticky : StickyValues → α) (fresh : Option StickyValues) :
    (view (request.answer values live from_sticky fresh).1,
      (request.answer values live from_sticky fresh).2) =
      request.answer values (view live) (fun found => view (from_sticky found)) fresh := by
  unfold answer
  cases request.branch values <;> rfl

/-- Both requests take the same branch and do the same there. Where one replays a
value and the other does not, the value must read as the other's evaluation does. -/
def Alike (typed raw : Request) (values : Option UserPersistedValues) (live live' : View)
    (SameNewValue : Prop) : Prop :=
  match typed.branch values, raw.branch values with
  | .live, .live => live = live'
  | .drop, .drop => live = live' ∧ typed.config_name = raw.config_name
  | .record, .record => live = live' ∧ typed.config_name = raw.config_name ∧ SameNewValue
  | .replay found, .replay found' => View.of_sticky found = View.of_sticky found'
  | .replay found, .live => View.of_sticky found = live'
  | .live, .replay found => live = View.of_sticky found
  | _, _ => False

/-- A request is like itself unless it records a value that is not the same. -/
theorem alike_self (request : Request) (values : Option UserPersistedValues) (live : View)
    (SameNewValue : Prop) :
    request.Alike request values live live SameNewValue ↔
      (request.branch values = .record → SameNewValue) := by
  unfold Alike
  cases request.branch values <;> simp

theorem save_of_record {request : Request} {values : Option UserPersistedValues}
    {fresh : Option StickyValues} (h : request.branch values = .record)
    (hfresh : request.in_group = true → fresh.isSome) :
    ∃ key new, request.storage_key = some key ∧ fresh = some new := by
  obtain ⟨key, hkey⟩ := storage_key_of_branch request values (by simp [h])
  obtain ⟨new, hnew⟩ := Option.isSome_iff_exists.mp (hfresh (in_group_of_record h))
  exact ⟨key, new, hkey, hnew⟩

theorem answers_eq_iff {typed raw : Request} {values : Option UserPersistedValues}
    {live live' : View} {fresh fresh' : Option StickyValues}
    (hkey : raw.storage_key = none ∨ raw.storage_key = typed.storage_key)
    (hfresh : typed.in_group = true → fresh.isSome)
    (hfresh' : raw.in_group = true → fresh'.isSome) :
    typed.answer values live View.of_sticky fresh = raw.answer values live' View.of_sticky fresh' ↔
      typed.Alike raw values live live' (fresh = fresh') := by
  unfold answer Alike
  cases hb : typed.branch values with
  | live | replay found =>
    -- the typed path leaves the storage alone
    cases hb' : raw.branch values with
    | live | replay found' => simp
    | drop =>
      obtain ⟨key, hk⟩ := storage_key_of_branch raw values (by simp [hb'])
      simp [hk]
    | record =>
      obtain ⟨key, new, hk, hnew⟩ := save_of_record hb' hfresh'
      simp [hk, hnew]
  | drop =>
    obtain ⟨key, hk⟩ := storage_key_of_branch typed values (by simp [hb])
    cases hb' : raw.branch values with
    | live | replay found => simp [hk]
    | drop =>
      obtain ⟨key', hk'⟩ := storage_key_of_branch raw values (by simp [hb'])
      obtain rfl : key' = key := by simpa [hk, hk'] using hkey
      simp [hk, hk']
    | record =>
      obtain ⟨key', new, hk', hnew⟩ := save_of_record hb' hfresh'
      simp [hk, hk', hnew]
  | record =>
    obtain ⟨key, new, hk, hnew⟩ := save_of_record hb hfresh
    cases hb' : raw.branch values with
    | live | replay found => simp [hk, hnew]
    | drop =>
      obtain ⟨key', hk'⟩ := storage_key_of_branch raw values (by simp [hb'])
      simp [hk, hk', hnew]
    | record =>
      obtain ⟨key', new', hk', hnew'⟩ := save_of_record hb' hfresh'
      obtain rfl : key' = key := by simpa [hk, hk'] using hkey
      simp [hk, hk', hnew, hnew']

end Request

/-! ## The two paths of an evaluation -/

section Agreement

variable (to_lowercase : String → String) (now : Nat) (user : StatsigUserInternal)
  (name : String) (options : ExperimentEvaluationOptions) (specs_data : SpecsResponseFull)
  (reeval : StickyReeval) (details : EvaluationDetails) (manager disable_exposure : Bool)
  (result : Option EvaluatorResult)

/-- What the caller of `get_experiment` sees, and the operation that is issued. -/
def typed_experiment : View × Option StorageOp :=
  let answer := try_apply_sticky_value_to_experiment to_lowercase now user manager options
    (get_experiment_impl name (details, result)) reeval
  (.of_experiment answer.1, answer.2)

/-- What the caller of `use_raw_experiment` sees, and the operation that is issued. -/
def raw_experiment : View × Option StorageOp :=
  let answer := try_apply_sticky_value_to_raw_experiment to_lowercase now user manager options
    details result reeval
  (.of_raw_experiment (result_to_experiment_raw name answer.1.2 answer.1.1), answer.2)

def typed_layer : View × Option StorageOp :=
  let answer := try_apply_sticky_value_to_layer to_lowercase now user manager options specs_data
    (get_layer_impl user.data name disable_exposure (details, result)) reeval
  (.of_layer answer.1, answer.2)

def raw_layer : View × Option StorageOp :=
  let answer := try_apply_sticky_value_to_raw_layer to_lowercase now user manager options specs_data
    details result reeval
  (.of_raw_layer (result_to_layer_raw user.data name disable_exposure answer.1.2 answer.1.1),
    answer.2)

/-- The evaluation that the typed caller sees. One that failed has the default rule. -/
def typed_live : View :=
  match result with
  | some live => .of_result live
  | none => ⟨default_rule_id, [], none⟩

/-- The evaluation that the raw caller sees. One that failed has no rule. -/
def raw_live : View :=
  match result with
  | some live => .of_result live
  | none => ⟨"", [], none⟩

/-- The typed path looks under the name that was asked for. No id type counts as an
empty one. -/
def typed_storage_key : Option String :=
  if manager then get_persistent_storage_key to_lowercase user ((result.bind (·.id_type)).getD "")
  else none

/-- The raw path looks under the name in the result, and needs an id type there. -/
def raw_storage_key_of : Option String :=
  if manager then result.bind (raw_storage_key to_lowercase user) else none

def typed_experiment_request : Request where
  storage_key := typed_storage_key to_lowercase user manager result
  config_name := name
  active _ := result.any (·.is_experiment_active)
  honored _ := keep_sticky options name reeval
  in_group := result.any (·.is_experiment_group)

def raw_experiment_request : Request where
  storage_key := raw_storage_key_of to_lowercase user manager result
  config_name := (result.bind (·.name)).getD ""
  active _ := result.any (·.is_experiment_active)
  honored _ := keep_sticky options ((result.bind (·.name)).getD "") reeval
  in_group := result.any (·.is_experiment_group)

/-- The result names an experiment that the layer is allocated to. -/
def has_delegate (live : EvaluatorResult) : Bool := live.config_delegate.any (· ≠ "")

/-- On the typed path a layer without a delegate is not active and not in a group. -/
def typed_layer_request : Request where
  storage_key := typed_storage_key to_lowercase user manager result
  config_name := name
  active := get_sticky_aware_is_experiment_active
    (result.any fun live => has_delegate live && live.is_experiment_active) specs_data
  honored found := layer_should_return_sticky_value options found reeval
  in_group := result.any fun live => has_delegate live && live.is_experiment_group

def raw_layer_request : Request where
  storage_key := raw_storage_key_of to_lowercase user manager result
  config_name := (result.bind (·.name)).getD ""
  active := get_sticky_aware_is_experiment_active (result.any (·.is_experiment_active)) specs_data
  honored found := layer_should_return_sticky_value options found reeval
  in_group := result.any (·.is_experiment_group)

variable {to_lowercase now user name options specs_data reeval details manager disable_exposure
  result}

theorem storage_key_cases :
    raw_storage_key_of to_lowercase user manager result = none ∨
      raw_storage_key_of to_lowercase user manager result =
        typed_storage_key to_lowercase user manager result := by
  unfold raw_storage_key_of typed_storage_key raw_storage_key
  cases manager with
  | false => exact .inl rfl
  | true =>
    obtain _ | live := result
    · exact .inl rfl
    · cases hid : live.id_type with
      | none => simp [hid]
      | some id_type =>
        cases hname : live.name with
        | none => simp [hid, hname]
        | some _ => simp [hid, hname]

/-! ## New values -/

/-- The typed path saves `true`, a value, the rule id with its suffix and no delegate. -/
structure SavedAlike (result : EvaluatorResult) : Prop where
  passed : result.bool_value = true
  value : result.json_value.isSome
  rule_id : result.rule_id.isSome
  no_suffix : result.rule_id_suffix = none
  no_delegate : result.config_delegate = none

/-- For a layer it saves the delegate, and lists where the result may have none. -/
structure LayerSavedAlike (result : EvaluatorResult) : Prop where
  passed : result.bool_value = true
  value : result.json_value.isSome
  rule_id : result.rule_id.isSome
  no_suffix : result.rule_id_suffix = none
  delegate : result.config_delegate ≠ some ""
  exposures : result.undelegated_secondary_exposures.isSome
  parameters : result.explicit_parameters.isSome

theorem some_suffixed_eq_iff (rule_id : Option InternedString) (suffix : Option String) :
    some (suffixed rule_id suffix) = rule_id ↔ rule_id.isSome ∧ suffix = none := by
  cases rule_id with
  | none => simp
  | some id => simpa using suffixed_eq_iff (some id) suffix

theorem some_getD_eq_iff {α : Type} (a : Option α) (b : α) : some (a.getD b) = a ↔ a.isSome := by
  cases a <;> simp

theorem experiment_saved_alike (result : EvaluatorResult) :
    make_sticky_value_from_experiment (get_experiment_impl name (details, some result)) =
        some (make_sticky_value_from_evaluation_result result details.lcut) ↔
      SavedAlike result := by
  simp only [make_sticky_value_from_experiment, make_sticky_value_from_evaluation_result,
    get_experiment_impl, make_experiment, result_to_experiment_eval, result_to_base_eval,
    get_json_value, result_to_extra_exposure_info, Option.map_some, Option.bind_some,
    create_suffixed_rule_id_text, Option.some.injEq, StickyValues.mk.injEq, some_suffixed_eq_iff,
    some_getD_eq_iff, and_true, true_and]
  constructor
  · rintro ⟨hpassed, hvalue, ⟨hrule, hsuffix⟩, hdelegate⟩
    exact ⟨hpassed.symm, hvalue, hrule, hsuffix, hdelegate.symm⟩
  · rintro ⟨hpassed, hvalue, hrule, hsuffix, hdelegate⟩
    exact ⟨hpassed.symm, hvalue, ⟨hrule, hsuffix⟩, hdelegate.symm⟩

theorem layer_saved_alike (result : EvaluatorResult) (disable_exposure : Bool) :
    make_sticky_value_from_layer
          (get_layer_impl user.data name disable_exposure (details, some result)) =
        some (make_sticky_value_from_evaluation_result result details.lcut) ↔
      LayerSavedAlike result := by
  have hfilter : result.config_delegate.filter (· ≠ "") = result.config_delegate ↔
      result.config_delegate ≠ some "" := by
    cases result.config_delegate <;> simp
  simp only [make_sticky_value_from_layer, make_sticky_value_from_evaluation_result,
    get_layer_impl, make_layer, result_to_layer_eval, result_to_base_eval,
    get_json_value, result_to_extra_exposure_info, Option.map_some, Option.bind_some,
    create_suffixed_rule_id_text, Option.some.injEq, StickyValues.mk.injEq, some_suffixed_eq_iff,
    some_getD_eq_iff, hfilter, and_true, true_and]
  constructor
  · rintro ⟨hpassed, hvalue, ⟨hrule, hsuffix⟩, hexposures, hdelegate, hparameters⟩
    exact ⟨hpassed.symm, hvalue, hrule, hsuffix, hdelegate, hexposures, hparameters⟩
  · rintro ⟨hpassed, hvalue, hrule, hsuffix, hdelegate, hexposures, hparameters⟩
    exact ⟨hpassed.symm, hvalue, ⟨hrule, hsuffix⟩, hexposures, hdelegate, hparameters⟩

theorem experiment_new_value :
    make_sticky_value_from_experiment (get_experiment_impl name (details, result)) =
        result.map (make_sticky_value_from_evaluation_result · details.lcut) ↔
      ∀ live, result = some live → SavedAlike live := by
  cases result with
  | none => simp [make_sticky_value_from_experiment, get_experiment_impl, make_experiment]
  | some live => simpa using experiment_saved_alike live

theorem layer_new_value :
    make_sticky_value_from_layer
          (get_layer_impl user.data name disable_exposure (details, result)) =
        result.map (make_sticky_value_from_evaluation_result · details.lcut) ↔
      ∀ live, result = some live → LayerSavedAlike live := by
  cases result with
  | none => simp [make_sticky_value_from_layer, get_layer_impl, make_layer]
  | some live => simpa using layer_saved_alike live disable_exposure

/-! ## The paths follow the protocol -/

theorem view_of_get_experiment :
    View.of_experiment (get_experiment_impl name (details, result)) = typed_live result := by
  cases result with
  | none => rfl
  | some live => exact view_get_experiment name details live

theorem view_of_get_layer :
    View.of_layer (get_layer_impl user.data name disable_exposure (details, result)) =
      typed_live result := by
  cases result with
  | none => rfl
  | some live => exact view_get_layer name details live user.data disable_exposure

theorem request_of_get_experiment :
    Request.of_experiment to_lowercase user options reeval
        (get_experiment_impl name (details, result)) =
      typed_experiment_request to_lowercase user name options reeval true result := by
  cases result <;> rfl

theorem request_of_get_layer :
    Request.of_layer to_lowercase user options specs_data reeval
        (get_layer_impl user.data name disable_exposure (details, result)) =
      typed_layer_request to_lowercase user name options specs_data reeval true result := by
  cases result with
  | none => rfl
  | some live =>
    unfold Request.of_layer typed_layer_request typed_storage_key has_delegate
    simp only [get_layer_impl, make_layer, result_to_layer_eval, get_id_type_info, Option.map_some,
      Option.bind_some, Option.getD_some, Option.any_some, if_true]
    cases live.config_delegate with
    | none => rfl
    | some delegate =>
      by_cases h : delegate = ""
      · simp [h, Option.filter_some]
      · simp [h, Option.filter_some]

theorem typed_experiment_eq :
    typed_experiment to_lowercase now user name options reeval details manager result =
      (typed_experiment_request to_lowercase user name options reeval manager result).answer
        options.user_persisted_values (typed_live result) View.of_sticky
        (make_sticky_value_from_experiment (get_experiment_impl name (details, result))) := by
  unfold typed_experiment try_apply_sticky_value_to_experiment
  cases manager with
  | false => exact congrArg (fun view => (view, none)) view_of_get_experiment
  | true =>
    simp only [Bool.not_true, Bool.false_eq_true, if_false]
    rw [experiment_path, Request.answer_map, view_of_get_experiment, request_of_get_experiment]
    congr 1
    funext found
    exact view_sticky_experiment now _ found

theorem typed_layer_eq :
    typed_layer to_lowercase now user name options specs_data reeval details manager
        disable_exposure result =
      (typed_layer_request to_lowercase user name options specs_data reeval manager result).answer
        options.user_persisted_values (typed_live result) View.of_sticky
        (make_sticky_value_from_layer
          (get_layer_impl user.data name disable_exposure (details, result))) := by
  unfold typed_layer try_apply_sticky_value_to_layer
  cases manager with
  | false => exact congrArg (fun view => (view, none)) view_of_get_layer
  | true =>
    simp only [Bool.not_true, Bool.false_eq_true, if_false]
    rw [layer_path, Request.answer_map, view_of_get_layer, request_of_get_layer]
    congr 1
    funext found
    exact view_sticky_layer now _ found

theorem raw_experiment_eq :
    raw_experiment to_lowercase now user name options reeval details manager result =
      (raw_experiment_request to_lowercase user options reeval manager result).answer
        options.user_persisted_values (raw_live result) View.of_sticky
        (result.map (make_sticky_value_from_evaluation_result · details.lcut)) := by
  unfold raw_experiment try_apply_sticky_value_to_raw_experiment
  cases result with
  | none => cases manager <;> rfl
  | some live =>
    cases manager with
    | false =>
      exact congrArg (fun view => (view, none)) (view_raw_experiment name details live)
    | true =>
      simp only [Bool.not_true, Bool.false_eq_true, if_false]
      rw [raw_experiment_path]
      refine (Request.answer_map _ _
        (fun pair : EvaluatorResult × EvaluationDetails =>
          View.of_raw_experiment (result_to_experiment_raw name pair.2 (some pair.1)))
        _ _ _).trans ?_
      simp only [view_raw_experiment, view_sticky_result]
      rfl

theorem raw_layer_eq :
    raw_layer to_lowercase now user name options specs_data reeval details manager disable_exposure
        result =
      (raw_layer_request to_lowercase user options specs_data reeval manager result).answer
        options.user_persisted_values (raw_live result) View.of_sticky
        (result.map (make_sticky_value_from_evaluation_result · details.lcut)) := by
  unfold raw_layer try_apply_sticky_value_to_raw_layer
  cases result with
  | none => cases manager <;> rfl
  | some live =>
    cases manager with
    | false =>
      exact congrArg (fun view => (view, none))
        (view_raw_layer name details live user.data disable_exposure)
    | true =>
      simp only [Bool.not_true, Bool.false_eq_true, if_false]
      rw [raw_layer_path]
      refine (Request.answer_map _ _
        (fun pair : EvaluatorResult × EvaluationDetails => View.of_raw_layer
          (result_to_layer_raw user.data name disable_exposure pair.2 (some pair.1)))
        _ _ _).trans ?_
      simp only [view_raw_layer, view_sticky_result]
      rfl

/-! ## The law -/

section Law

variable (to_lowercase now user name options specs_data reeval details manager disable_exposure
  result)

/-- When the two paths of an experiment agree. -/
def ExperimentPathsAgree : Prop :=
  (typed_experiment_request to_lowercase user name options reeval manager result).Alike
    (raw_experiment_request to_lowercase user options reeval manager result)
    options.user_persisted_values (typed_live result) (raw_live result)
    (∀ live, result = some live → SavedAlike live)

/-- When the two paths of a layer agree. -/
def LayerPathsAgree : Prop :=
  (typed_layer_request to_lowercase user name options specs_data reeval manager result).Alike
    (raw_layer_request to_lowercase user options specs_data reeval manager result)
    options.user_persisted_values (typed_live result) (raw_live result)
    (∀ live, result = some live → LayerSavedAlike live)

/-- For a result that names the experiment that was asked for, only a new value can make
a difference. -/
theorem named_experiment_paths_agree {live : EvaluatorResult} (hname : live.name = some name)
    (hid : live.id_type.isSome) :
    ExperimentPathsAgree to_lowercase user name options reeval manager (some live) ↔
      ((typed_experiment_request to_lowercase user name options reeval manager
        (some live)).branch options.user_persisted_values = .record → SavedAlike live) := by
  obtain ⟨id_type, hid⟩ := Option.isSome_iff_exists.mp hid
  have hraw : raw_experiment_request to_lowercase user options reeval manager (some live) =
      typed_experiment_request to_lowercase user name options reeval manager (some live) := by
    simp [raw_experiment_request, typed_experiment_request, raw_storage_key_of, raw_storage_key,
      typed_storage_key, hname, hid]
  unfold ExperimentPathsAgree
  rw [hraw]
  refine (Request.alike_self _ _ _ _).trans ?_
  simp

/-- For a layer the result must name an experiment that it is allocated to as well. -/
theorem allocated_layer_paths_agree {live : EvaluatorResult} (hname : live.name = some name)
    (hid : live.id_type.isSome) (hdelegate : has_delegate live = true) :
    LayerPathsAgree to_lowercase user name options specs_data reeval manager (some live) ↔
      ((typed_layer_request to_lowercase user name options specs_data reeval manager
        (some live)).branch options.user_persisted_values = .record → LayerSavedAlike live) := by
  obtain ⟨id_type, hid⟩ := Option.isSome_iff_exists.mp hid
  have hraw : raw_layer_request to_lowercase user options specs_data reeval manager (some live) =
      typed_layer_request to_lowercase user name options specs_data reeval manager (some live) := by
    simp [raw_layer_request, typed_layer_request, raw_storage_key_of, raw_storage_key,
      typed_storage_key, hname, hid, hdelegate]
  unfold LayerPathsAgree
  rw [hraw]
  refine (Request.alike_self _ _ _ _).trans ?_
  simp

/-- The typed and the raw path show the same and issue the same operation just when
they take the same branch, under the same name, and a new value is saved alike. -/
theorem sticky_paths_agree_iff :
    (typed_experiment to_lowercase now user name options reeval details manager result =
        raw_experiment to_lowercase now user name options reeval details manager result ↔
      ExperimentPathsAgree to_lowercase user name options reeval manager result) ∧
    (typed_layer to_lowercase now user name options specs_data reeval details manager
          disable_exposure result =
        raw_layer to_lowercase now user name options specs_data reeval details manager
          disable_exposure result ↔
      LayerPathsAgree to_lowercase user name options specs_data reeval manager result) := by
  constructor
  · rw [typed_experiment_eq, raw_experiment_eq, Request.answers_eq_iff storage_key_cases,
      propext experiment_new_value, ExperimentPathsAgree]
    · intro h
      cases result with
      | none => simp [typed_experiment_request] at h
      | some live => rfl
    · intro h
      cases result with
      | none => simp [raw_experiment_request] at h
      | some live => rfl
  · rw [typed_layer_eq, raw_layer_eq, Request.answers_eq_iff storage_key_cases,
      propext layer_new_value, LayerPathsAgree]
    · intro h
      cases result with
      | none => simp [typed_layer_request] at h
      | some live => rfl
    · intro h
      cases result with
      | none => simp [raw_layer_request] at h
      | some live => rfl

end Law

end Agreement

/-- An experiment that is mapped to another is saved under the name that was asked for
by the typed path, and under the other name by the raw path. -/
theorem mapped_experiment_is_saved_elsewhere :
    ¬ ∀ (to_lowercase : String → String) (now : Nat) (user : StatsigUserInternal) (name : String)
        (options : ExperimentEvaluationOptions) (reeval : StickyReeval)
        (details : EvaluationDetails) (manager : Bool) (result : Option EvaluatorResult),
      typed_experiment to_lowercase now user name options reeval details manager result =
        raw_experiment to_lowercase now user name options reeval details manager result := by
  intro h
  let user : StatsigUserInternal :=
    { data := { user_id := some { string_value := some ⟨"ada", "ada"⟩ } } }
  let result : EvaluatorResult :=
    { name := some "checkout_v2"
      override_config_name := some "checkout_v2"
      id_type := some "userID"
      rule_id := some "blue"
      group_name := some "Blue"
      bool_value := true
      json_value := some (.json [])
      is_experiment_active := true
      is_experiment_group := true }
  have hsame := h String.toLower 0 user "checkout" { user_persisted_values := some [] }
    (fun _ _ _ => false) { reason := "Network:Recognized", lcut := some 1 } true (some result)
  have hname := congrArg (fun answer => answer.2.map StorageOp.config_name) hsame
  exact absurd hname (by decide +kernel)

end statsig_rust.persistent_storage
