-- Which override a user gets, when it depends on the order in which the map of the custom ids is
-- gone through, and what of the result no override touches.
import StatsigCore.Evaluation.Unsupported
import StatsigCore.OverrideAdapter.LocalOverrideAdapter

namespace statsig_rust.override_adapter

open evaluation gcir

section find

variable {T : Type} (overrides : HashMap String T)
  (apply_override : T → EvaluatorResult → EvaluatorResult)

/-! ## The overrides of a user -/

/-- The override of an id. -/
def override_of (id : DynamicValue) : Option T :=
  id.string_value.bind fun s => overrides.get s.value

def user_id_override (user : UserData) : Option T := user.user_id.bind (override_of overrides)

/-- The custom id under the key. -/
def custom_id (user : UserData) (key : String) : Option DynamicValue :=
  HashMap.get (user.custom_ids.getD []) key

def custom_id_override (user : UserData) (key : String) : Option T :=
  (custom_id user key).bind (override_of overrides)

/-- What an override makes of the result. -/
def applied (override_value : T) (result : EvaluatorResult) : EvaluatorResult :=
  mark_result_as_override (apply_override override_value result)

/-- The result of the search is that of the user's id, or else of some custom id, or else of the
default. -/
def TakesPrecedence (user : UserData) (result : EvaluatorResult)
    (found : Bool × EvaluatorResult) : Prop :=
  match user_id_override overrides user with
  | some value => found = (true, applied apply_override value result)
  | none =>
    (∃ key value, custom_id_override overrides user key = some value ∧
      found = (true, applied apply_override value result)) ∨
    ((∀ key, custom_id_override overrides user key = none) ∧
      match overrides.get NO_ID_OVERRIDE with
      | some value => found = (true, applied apply_override value result)
      | none => found = (false, result))

/-- The order goes through the custom ids of the user. -/
def Visits (user : UserData) (order : List String) : Prop :=
  Iterates (user.custom_ids.getD []) order

/-- Two users with the same id and the same custom ids, in maps that may have come about in
different ways. -/
structure SameIds (user other : UserData) : Prop where
  user_id : user.user_id = other.user_id
  custom_ids : ∀ key, custom_id user key = custom_id other key

variable {overrides apply_override} {user other : UserData} {result : EvaluatorResult}
  {order order' : List String}

theorem check_user_id_eq (user : UserData) (result : EvaluatorResult) :
    check_user_id_override overrides apply_override user result =
      match user_id_override overrides user with
      | some value => (true, applied apply_override value result)
      | none => (false, result) := by
  unfold check_user_id_override user_id_override override_of applied
  cases user.user_id with
  | none => rfl
  | some user_id =>
    cases hid : user_id.string_value with
    | none => simp [hid]
    | some s => cases hvalue : overrides.get s.value <;> simp [hid, hvalue]

theorem check_default_eq (result : EvaluatorResult) :
    check_default_override overrides apply_override result =
      match overrides.get NO_ID_OVERRIDE with
      | some value => (true, applied apply_override value result)
      | none => (false, result) := rfl

theorem check_custom_id_values_cons (result : EvaluatorResult) (id : DynamicValue)
    (values : List DynamicValue) :
    check_custom_id_values overrides apply_override result (id :: values) =
      match override_of overrides id with
      | some value => (true, applied apply_override value result)
      | none => check_custom_id_values overrides apply_override result values := by
  unfold override_of applied
  cases hid : id.string_value with
  | none => simp [check_custom_id_values, hid]
  | some s => cases hvalue : overrides.get s.value <;> simp [check_custom_id_values, hid, hvalue]

/-- The loop applies the first override that it comes to. -/
theorem check_custom_id_values_eq (result : EvaluatorResult) (values : List DynamicValue) :
    check_custom_id_values overrides apply_override result values =
      match values.findSome? (override_of overrides) with
      | some value => (true, applied apply_override value result)
      | none => (false, result) := by
  induction values with
  | nil => rfl
  | cons id values ih =>
    rw [check_custom_id_values_cons, List.findSome?_cons]
    cases override_of overrides id with
    | none => exact ih
    | some value => rfl

theorem findSome_entries (custom_ids : UserDataMap) (order : List String)
    (f : DynamicValue → Option T) :
    ((entries_in custom_ids order).map Prod.snd).findSome? f =
      order.findSome? fun key => (custom_ids.get key).bind f := by
  unfold entries_in
  induction order with
  | nil => rfl
  | cons key order ih =>
    rw [List.findSome?_cons, ← ih]
    cases hget : custom_ids.get key with
    | none => simp [hget]
    | some value => simp [hget, List.findSome?_cons]

theorem check_custom_ids_eq (order : List String) (user : UserData) (result : EvaluatorResult) :
    check_custom_ids_override overrides apply_override order user result =
      match order.findSome? (custom_id_override overrides user) with
      | some value => (true, applied apply_override value result)
      | none => (false, result) := by
  unfold check_custom_ids_override custom_id_override custom_id
  cases user.custom_ids with
  | none =>
    have hnone : (order.findSome? fun _ => (none : Option T)) = none := by simp
    simp only [Option.getD_none, HashMap.get_nil, Option.bind_none, hnone]
  | some custom_ids =>
    simp only [Option.getD_some]
    rw [check_custom_id_values_eq, findSome_entries]

/-! ## The override that is found -/

theorem find_of_user_id {value : T} (h : user_id_override overrides user = some value) :
    find_override_for_user overrides apply_override order user result =
      (true, applied apply_override value result) := by
  simp [find_override_for_user, check_user_id_eq, h]

/-- Without one for the user's id, the first one of a custom id is found. -/
theorem find_of_custom_id (h : user_id_override overrides user = none) {value : T}
    (hfirst : order.findSome? (custom_id_override overrides user) = some value) :
    find_override_for_user overrides apply_override order user result =
      (true, applied apply_override value result) := by
  simp [find_override_for_user, check_user_id_eq, check_custom_ids_eq, h, hfirst]

theorem find_of_none (h : user_id_override overrides user = none)
    (hnone : order.findSome? (custom_id_override overrides user) = none) :
    find_override_for_user overrides apply_override order user result =
      check_default_override overrides apply_override result := by
  simp [find_override_for_user, check_user_id_eq, check_custom_ids_eq, h, hnone]

/-- The search applies an override, or leaves the result as it is. -/
theorem find_cases (order : List String) (user : UserData) (result : EvaluatorResult) :
    find_override_for_user overrides apply_override order user result = (false, result) ∨
      ∃ value, find_override_for_user overrides apply_override order user result =
        (true, applied apply_override value result) := by
  cases huser : user_id_override overrides user with
  | some value => exact .inr ⟨value, find_of_user_id huser⟩
  | none =>
    cases hfirst : order.findSome? (custom_id_override overrides user) with
    | some value => exact .inr ⟨value, find_of_custom_id huser hfirst⟩
    | none =>
      rw [find_of_none huser hfirst, check_default_eq]
      cases overrides.get NO_ID_OVERRIDE with
      | some value => exact .inr ⟨value, rfl⟩
      | none => exact .inl rfl

theorem custom_id_override_of_not_mem (h : Visits user order) {key : String}
    (hkey : key ∉ order) : custom_id_override overrides user key = none := by
  have hget : custom_id user key = none := by
    by_contra hsome
    exact hkey ((h.mem key).mpr hsome)
  rw [custom_id_override, hget, Option.bind_none]

theorem find_takes_precedence (h : Visits user order) :
    TakesPrecedence overrides apply_override user result
      (find_override_for_user overrides apply_override order user result) := by
  unfold TakesPrecedence
  cases huser : user_id_override overrides user with
  | some value => exact find_of_user_id huser
  | none =>
    cases hfirst : order.findSome? (custom_id_override overrides user) with
    | some value =>
      obtain ⟨key, -, hkey⟩ := List.exists_of_findSome?_eq_some hfirst
      exact .inl ⟨key, value, hkey, find_of_custom_id huser hfirst⟩
    | none =>
      refine .inr ⟨fun key => ?_, ?_⟩
      · by_cases hkey : key ∈ order
        · exact List.findSome?_eq_none_iff.mp hfirst key hkey
        · exact custom_id_override_of_not_mem h hkey
      · rw [find_of_none huser hfirst, check_default_eq]
        cases overrides.get NO_ID_OVERRIDE <;> rfl

/-! ## The order of the custom ids -/

/-- What the overrides of the custom ids make of the result is the same for all of them. -/
def CustomIdsAgree (overrides : HashMap String T)
    (apply_override : T → EvaluatorResult → EvaluatorResult) (user : UserData)
    (result : EvaluatorResult) : Prop :=
  ∀ key key' value value', custom_id_override overrides user key = some value →
    custom_id_override overrides user key' = some value' →
      applied apply_override value result = applied apply_override value' result

theorem SameIds.refl (user : UserData) : SameIds user user := ⟨rfl, fun _ => rfl⟩

theorem visits_perm (h : Visits user order) (h' : Visits other order')
    (hsame : SameIds user other) : order.Perm order' := by
  refine (List.perm_ext_iff_of_nodup h.nodup h'.nodup).mpr fun key => ?_
  have hget := hsame.custom_ids key
  unfold custom_id at hget
  rw [h.mem key, h'.mem key, hget]

theorem visits_keys (user : UserData) :
    Visits user ((user.custom_ids.getD []).map Prod.fst).dedup := by
  refine ⟨List.nodup_dedup _, fun key => ?_⟩
  rw [List.mem_dedup]
  constructor
  · intro hkey
    obtain ⟨value, hvalue⟩ := HashMap.get_of_mem_keys hkey
    rw [hvalue]
    exact Option.some_ne_none value
  · intro hget
    obtain ⟨value, hvalue⟩ := Option.ne_none_iff_exists'.mp hget
    exact HashMap.mem_keys_of_get hvalue

theorem Visits.of_perm (h : Visits user order) (hperm : order.Perm order') :
    Visits user order' :=
  ⟨hperm.nodup_iff.mp h.nodup, fun key => hperm.mem_iff.symm.trans (h.mem key)⟩

/-- The order can put any custom id with an override in front. -/
theorem found_in_some_order (h : user_id_override overrides user = none) {key : String} {value : T}
    (hkey : custom_id_override overrides user key = some value) :
    ∃ order, Visits user order ∧ find_override_for_user overrides apply_override order user result =
      (true, applied apply_override value result) := by
  have hmem : key ∈ ((user.custom_ids.getD []).map Prod.fst).dedup := by
    by_contra hnot
    rw [custom_id_override_of_not_mem (visits_keys user) hnot] at hkey
    cases hkey
  obtain ⟨order, hperm, hfirst⟩ := first_found.found_first hmem hkey
  exact ⟨order, (visits_keys user).of_perm hperm, find_of_custom_id h hfirst⟩

/-- The search in terms of what the overrides make of the result. -/
theorem find_eq (order : List String) (user : UserData) (result : EvaluatorResult) :
    find_override_for_user overrides apply_override order user result =
      match user_id_override overrides user with
      | some value => (true, applied apply_override value result)
      | none =>
        match order.findSome? fun key => (custom_id_override overrides user key).map fun value =>
            applied apply_override value result with
        | some made => (true, made)
        | none => check_default_override overrides apply_override result := by
  have hmade : (order.findSome? fun key => (custom_id_override overrides user key).map
      fun value => applied apply_override value result) =
        (order.findSome? (custom_id_override overrides user)).map
          fun value => applied apply_override value result := List.map_findSome?.symm
  rw [hmade]
  cases huser : user_id_override overrides user with
  | some value => exact find_of_user_id huser
  | none =>
    cases hfirst : order.findSome? (custom_id_override overrides user) with
    | some value => exact find_of_custom_id huser hfirst
    | none => exact find_of_none huser hfirst

theorem find_eq_of_agree (hagree : CustomIdsAgree overrides apply_override user result)
    (hsame : SameIds user other) (h : Visits user order) (h' : Visits other order') :
    find_override_for_user overrides apply_override order' other result =
      find_override_for_user overrides apply_override order user result := by
  have hother : user_id_override overrides other = user_id_override overrides user := by
    unfold user_id_override
    rw [hsame.user_id]
  have hids : custom_id_override overrides other = custom_id_override overrides user := by
    funext key
    unfold custom_id_override
    rw [hsame.custom_ids key]
  have hmakes : first_found.Agree (fun key => (custom_id_override overrides user key).map
      fun value => applied apply_override value result) order := by
    intro key _ key' _ made made' hmade hmade'
    obtain ⟨value, hvalue, rfl⟩ := Option.map_eq_some_iff.mp hmade
    obtain ⟨value', hvalue', rfl⟩ := Option.map_eq_some_iff.mp hmade'
    exact hagree key key' value value' hvalue hvalue'
  rw [find_eq, find_eq, hother, hids,
    first_found.findSome_perm (visits_perm h h' hsame) hmakes]

/-- The override of a user is that of the user's id, or else of a custom id, or else the default.
It depends on the user alone just when the user's id has one, or all those of the custom ids make
the same of the result. -/
theorem override_is_of_the_user_iff (overrides : HashMap String T)
    (apply_override : T → EvaluatorResult → EvaluatorResult) (user : UserData)
    (result : EvaluatorResult) :
    (∀ order, Visits user order →
      TakesPrecedence overrides apply_override user result
        (find_override_for_user overrides apply_override order user result) ∧
      ∀ other order', SameIds user other → Visits other order' →
        find_override_for_user overrides apply_override order' other result =
          find_override_for_user overrides apply_override order user result) ↔
    ((∃ value, user_id_override overrides user = some value) ∨
      CustomIdsAgree overrides apply_override user result) := by
  constructor
  · intro hall
    cases huser : user_id_override overrides user with
    | some value => exact .inl ⟨value, rfl⟩
    | none =>
      refine .inr fun key key' value value' hvalue hvalue' => ?_
      obtain ⟨order, hvisits, hfound⟩ := @found_in_some_order _ _ apply_override user result huser
        key value hvalue
      obtain ⟨order', hvisits', hfound'⟩ := @found_in_some_order _ _ apply_override user result
        huser key' value' hvalue'
      have hsame := (hall order hvisits).2 user order' (SameIds.refl user) hvisits'
      rw [hfound, hfound'] at hsame
      exact (congrArg Prod.snd hsame).symm
  · intro hcondition order hvisits
    refine ⟨find_takes_precedence hvisits, fun other order' hsame hvisits' => ?_⟩
    rcases hcondition with ⟨value, huser⟩ | hagree
    · have hother : user_id_override overrides other = some value := by
        rw [← huser, user_id_override, user_id_override, hsame.user_id]
      rw [find_of_user_id huser, find_of_user_id hother]
    · exact find_eq_of_agree hagree hsame hvisits hvisits'

end find

/-! ## What the evaluator is told -/

/-- No two custom ids of the user are overridden with different values, unless the user's own id
is overridden. -/
def OneOverride {T : Type} (overrides_by_name : HashMap String (HashMap String T))
    (user : UserData) : Prop :=
  ∀ name overrides, overrides_by_name.get name = some overrides →
    (∃ value, user_id_override overrides user = some value) ∨
      ∀ key key' value value', custom_id_override overrides user key = some value →
        custom_id_override overrides user key' = some value' → value = value'

theorem get_override_eq {T : Type} {overrides_by_name : HashMap String (HashMap String T)}
    {user : UserData} (hone : OneOverride overrides_by_name user) {order order' : List String}
    (h : Visits user order) (h' : Visits user order') (granted : Bool)
    (apply_override : T → EvaluatorResult → EvaluatorResult) (name : String)
    (result : EvaluatorResult) :
    get_override granted overrides_by_name apply_override order' user name result =
      get_override granted overrides_by_name apply_override order user name result := by
  unfold get_override
  cases hget : HashMap.get overrides_by_name name with
  | none => rfl
  | some overrides =>
    have hfind : find_override_for_user overrides apply_override order' user result =
        find_override_for_user overrides apply_override order user result := by
      rcases hone name overrides hget with ⟨value, huser⟩ | hsame
      · rw [find_of_user_id huser, find_of_user_id huser]
      · apply find_eq_of_agree _ (SameIds.refl user) h h'
        intro key key' value value' hvalue hvalue'
        rw [hsame key key' value value' hvalue hvalue']
    simp only [hfind]

/-! ## What an override leaves alone -/

/-- The mark is as it was, and so is the whole result when nothing is found. -/
structure KeepsMark (result : EvaluatorResult) (found : Bool × EvaluatorResult) : Prop where
  unfound : found.1 = false → found.2 = result
  unsupported : found.2.unsupported = result.unsupported

theorem get_override_keeps_mark {T : Type} {apply_override : T → EvaluatorResult → EvaluatorResult}
    (hkeeps : ∀ value result, (apply_override value result).unsupported = result.unsupported)
    (granted : Bool) (overrides_by_name : HashMap String (HashMap String T)) (order : List String)
    (user : UserData) (name : String) (result : EvaluatorResult) : KeepsMark result
      (get_override granted overrides_by_name apply_override order user name result) := by
  unfold get_override
  split
  · split
    · next overrides _ =>
      rcases @find_cases T overrides apply_override order user result with h | ⟨value, h⟩
      · rw [h]
        exact ⟨fun _ => rfl, rfl⟩
      · rw [h]
        exact ⟨Bool.noConfusion, hkeeps value result⟩
    · exact ⟨fun _ => rfl, rfl⟩
  · exact ⟨fun _ => rfl, rfl⟩

theorem try_local_override_keeps_mark (env : EvaluatorEnv) (store : OverrideStore)
    (granted : Bool) (order : List String) (serde : ParameterSerde) (spec_name : String)
    (spec_type : SpecType) (opt_spec : Option Spec) (ctx : EvaluatorContext) :
    ∃ applied result, KeepsMark ctx.result (applied, result) ∧ try_apply_override
      { env with override_adapter := some (store.adapter granted order serde) } spec_name spec_type
      opt_spec ctx = .ok applied { ctx with result } := by
  cases spec_type with
  | Gate =>
    refine ⟨_, _, get_override_keeps_mark ?_ granted store.gate order _ spec_name _, rfl⟩
    exact fun _ _ => rfl
  | DynamicConfig =>
    refine ⟨_, _, get_override_keeps_mark ?_ granted store.config order _ spec_name _, rfl⟩
    exact fun _ _ => rfl
  | Experiment =>
    refine ⟨_, _, get_override_keeps_mark ?_ granted store.experiment order _ spec_name _, rfl⟩
    intro value result
    cases value with
    | _ => rfl
  | Layer =>
    refine ⟨_, _, get_override_keeps_mark ?_ granted store.layer order _ spec_name _, rfl⟩
    exact fun _ _ => rfl
  | ParameterStore =>
    refine ⟨_, _, get_override_keeps_mark ?_ granted store.parameter_store order _ spec_name _, rfl⟩
    exact fun _ _ => rfl

/-- The local overrides mark no result as unsupported, and leave no trace where none applies. -/
theorem local_overrides_are_quiet (env : EvaluatorEnv) (store : OverrideStore) (granted : Bool)
    (order : List String) (serde : ParameterSerde) :
    QuietAdapter { env with override_adapter := some (store.adapter granted order serde) } := by
  intro node ctx hctx
  obtain ⟨applied, result, hkeeps, hrun⟩ := try_local_override_keeps_mark env store granted order
    serde node.2 node.1 (spec_of env node) ctx
  have hunmarked : result.unsupported = false :=
    hkeeps.unsupported.trans (congrArg Prod.snd hctx.eq)
  change (try_apply_override _ node.2 node.1 (spec_of env node) ctx).Meets _ _ _
  rw [hrun]
  cases applied with
  | false =>
    have hsame : result = ctx.result := hkeeps.unfound rfl
    rw [hsame]
    exact hctx
  | true =>
    exact ⟨hctx.unfiltered, fun hmarked => absurd (hunmarked.symm.trans hmarked) (by decide),
      fun h => Recognition.noConfusion h⟩

/-! ## One override for each spec -/

structure OverrideStore.OneEach (store : OverrideStore) (user : UserData) : Prop where
  gate : OneOverride store.gate user
  config : OneOverride store.config user
  experiment : OneOverride store.experiment user
  layer : OneOverride store.layer user
  parameter_store : OneOverride store.parameter_store user

/-- With one override for each spec the evaluator does not see the order. -/
theorem try_apply_override_eq {store : OverrideStore} (env : EvaluatorEnv)
    (hone : store.OneEach env.user.data) {order order' : List String}
    (h : Visits env.user.data order) (h' : Visits env.user.data order') (granted : Bool)
    (serde : ParameterSerde) (spec_name : String) (spec_type : SpecType)
    (opt_spec : Option Spec) :
    try_apply_override
        { env with override_adapter := some (store.adapter granted order' serde) } spec_name
        spec_type opt_spec =
      try_apply_override
        { env with override_adapter := some (store.adapter granted order serde) } spec_name
        spec_type opt_spec := by
  funext ctx
  unfold try_apply_override OverrideStore.adapter
  cases spec_type with
  | Gate =>
    simp only [OverrideStore.get_gate_override]
    rw [get_override_eq hone.gate h h']
  | DynamicConfig =>
    simp only [OverrideStore.get_dynamic_config_override]
    rw [get_override_eq hone.config h h']
  | Experiment =>
    simp only [OverrideStore.get_experiment_override]
    rw [get_override_eq hone.experiment h h']
  | Layer =>
    simp only [OverrideStore.get_layer_override]
    rw [get_override_eq hone.layer h h']
  | ParameterStore =>
    simp only [OverrideStore.get_parameter_store_override]
    rw [get_override_eq hone.parameter_store h h']

/-! ## Two overridden custom ids -/

/-- A user of a company. -/
def employee : UserData :=
  { custom_ids := some [("employeeID", { string_value := some ⟨"e", "e"⟩ }),
      ("companyID", { string_value := some ⟨"c", "c"⟩ })] }

/-- A gate is overridden for the employee and for the company, and not alike. -/
theorem two_orders_apply_two_overrides :
    Visits employee ["employeeID", "companyID"] ∧ Visits employee ["companyID", "employeeID"] ∧
      find_override_for_user [("e", true), ("c", false)]
          (fun value res => { res with bool_value := value }) ["employeeID", "companyID"]
          employee {} ≠
        find_override_for_user [("e", true), ("c", false)]
          (fun value res => { res with bool_value := value }) ["companyID", "employeeID"]
          employee {} := by
  have hget : ∀ key, HashMap.get (employee.custom_ids.getD []) key ≠ none ↔
      key = "employeeID" ∨ key = "companyID" := by
    intro key
    simp only [employee, Option.getD_some, HashMap.get_cons, HashMap.get_nil]
    by_cases hemployee : key = "employeeID"
    · simp [hemployee]
    · by_cases hcompany : key = "companyID" <;> simp [hemployee, hcompany]
  refine ⟨⟨by decide, fun key => ?_⟩, ⟨by decide, fun key => ?_⟩, ?_⟩
  · rw [hget]
    simp
  · rw [hget]
    simp [or_comm]
  · intro hsame
    have hvalue := congrArg (fun found => found.2.bool_value) hsame
    exact absurd hvalue (by decide)

end statsig_rust.override_adapter
