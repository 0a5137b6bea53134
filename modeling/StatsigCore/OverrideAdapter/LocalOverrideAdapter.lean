-- The local overrides (`override_adapter/statsig_local_override_adapter.rs`): a store of values
-- by the name of a spec and by an id, and the search for the one that a user gets.
import StatsigCore.ClientInit.ClientInitTypes
import StatsigCore.Evaluation.EvaluatorContext
import StatsigCore.Library.FirstFound
import StatsigCore.SpecsResponse.SpecTypes

namespace statsig_rust.override_adapter

open evaluation gcir

def LOCAL_OVERRIDE_REASON : String := "LocalOverride"

def NO_ID_OVERRIDE : String := "__STATSIG_NO_ID__"

def OVERRIDE_RULE_ID : InternedString := "override"

/-! ## The search for a user -/

def mark_result_as_override (result : EvaluatorResult) : EvaluatorResult :=
  { result with
    override_reason := some LOCAL_OVERRIDE_REASON
    rule_id := some OVERRIDE_RULE_ID }

section find

variable {T : Type} (overrides : HashMap String T)
  (apply_override : T → EvaluatorResult → EvaluatorResult)

def check_default_override (result : EvaluatorResult) : Bool × EvaluatorResult :=
  match overrides.get NO_ID_OVERRIDE with
  | some override_value => (true, mark_result_as_override (apply_override override_value result))
  | none => (false, result)

def check_user_id_override (user : UserData) (result : EvaluatorResult) :
    Bool × EvaluatorResult :=
  match user.user_id with
  | none => (false, result)
  | some user_id =>
    match user_id.string_value with
    | none => (false, result)
    | some s =>
      match overrides.get s.value with
      | none => (false, result)
      | some override_value =>
        (true, mark_result_as_override (apply_override override_value result))

/-- The loop over `custom_ids.values()`. -/
def check_custom_id_values (result : EvaluatorResult) : List DynamicValue → Bool × EvaluatorResult
  | [] => (false, result)
  | custom_id_value :: values =>
    match custom_id_value.string_value with
    | none => check_custom_id_values result values
    | some s =>
      match overrides.get s.value with
      | none => check_custom_id_values result values
      | some override_value =>
        (true, mark_result_as_override (apply_override override_value result))

/-- `order` is the order in which the map of the custom ids is gone through. -/
def check_custom_ids_override (order : List String) (user : UserData)
    (result : EvaluatorResult) : Bool × EvaluatorResult :=
  match user.custom_ids with
  | none => (false, result)
  | some custom_ids =>
    check_custom_id_values overrides apply_override result
      ((entries_in custom_ids order).map Prod.snd)

def find_override_for_user (order : List String) (user : UserData) (result : EvaluatorResult) :
    Bool × EvaluatorResult :=
  let checked := check_user_id_override overrides apply_override user result
  if checked.1 then checked
  else
    let checked := check_custom_ids_override overrides apply_override order user checked.2
    if checked.1 then checked else check_default_override overrides apply_override checked.2

end find

/-! ## The store -/

inductive ExperimentOverrides where
  | Value (value : DynamicReturnable)
  | GroupName (group_name : String)

structure OverrideStore where
  gate : HashMap String (HashMap String Bool) := []
  config : HashMap String (HashMap String DynamicReturnable) := []
  experiment : HashMap String (HashMap String ExperimentOverrides) := []
  layer : HashMap String (HashMap String DynamicReturnable) := []
  parameter_store : HashMap String (HashMap String (HashMap String specs_response.Parameter)) := []

/-- How `serde_json` reads and writes a parameter. -/
structure ParameterSerde where
  to_value : specs_response.Parameter → Option JsonValue
  from_value : JsonValue → Option specs_response.Parameter

def get_experiment_with_group_name (opt_spec : Option Spec) (group_name : String) :
    Option DynamicReturnable :=
  opt_spec.bind fun spec =>
    (spec.rules.find? fun rule => rule.group_name == some group_name).map Rule.return_value

def infer_param_type : JsonValue → String
  | .null => "null"
  | .bool _ => "boolean"
  | .number _ => "number"
  | .string _ => "string"
  | .array _ => "array"
  | .object _ => "object"

section access

variable {T : Type}

/-- What the methods that look an override up do in common. `granted` is false where the lock of
the store was not to be had in time. -/
def get_override (granted : Bool) (overrides_by_name : HashMap String (HashMap String T))
    (apply_override : T → EvaluatorResult → EvaluatorResult) (order : List String)
    (user : UserData) (name : String) (result : EvaluatorResult) : Bool × EvaluatorResult :=
  if granted then
    match overrides_by_name.get name with
    | some overrides => find_override_for_user overrides apply_override order user result
    | none => (false, result)
  else (false, result)

/-- `entry(key).or_default().insert(id, value)`. -/
def insert_override (overrides_by_name : HashMap String (HashMap String T)) (key : String)
    (value : T) (id : Option String) : HashMap String (HashMap String T) :=
  let overrides := (overrides_by_name.get key).getD []
  overrides_by_name.insert key (overrides.insert (id.getD NO_ID_OVERRIDE) value)

def remove_override (overrides_by_name : HashMap String (HashMap String T)) (key : String) :
    Option String → HashMap String (HashMap String T)
  | none => overrides_by_name.remove key
  | some id =>
    match overrides_by_name.get key with
    | some overrides => overrides_by_name.insert key (overrides.remove id)
    | none => overrides_by_name

/-! ## What a run of writes leaves -/

/-- The override of a spec for an id. -/
def override_at (overrides_by_name : HashMap String (HashMap String T)) (name id : String) :
    Option T :=
  HashMap.get ((overrides_by_name.get name).getD []) id

theorem override_at_insert (overrides_by_name : HashMap String (HashMap String T)) (key : String)
    (value : T) (id : Option String) (name id' : String) :
    override_at (insert_override overrides_by_name key value id) name id' =
      if name = key ∧ id' = id.getD NO_ID_OVERRIDE then some value
      else override_at overrides_by_name name id' := by
  unfold override_at insert_override
  dsimp only
  rw [HashMap.get_insert]
  by_cases hname : name = key
  · rw [if_pos hname, Option.getD_some, HashMap.get_insert, hname]
    simp
  · simp [hname]

theorem override_at_remove (overrides_by_name : HashMap String (HashMap String T)) (key : String)
    (id : Option String) (name id' : String) :
    override_at (remove_override overrides_by_name key id) name id' =
      if name = key ∧ (id = none ∨ id = some id') then none
      else override_at overrides_by_name name id' := by
  unfold override_at
  cases id with
  | none =>
    rw [remove_override, HashMap.get_remove]
    by_cases hname : name = key <;> simp [hname]
  | some id =>
    rw [remove_override]
    by_cases hname : name = key
    · subst hname
      cases hget : HashMap.get overrides_by_name name with
      | none => simp [hget]
      | some overrides =>
        simp only [HashMap.get_insert, ↓reduceIte, Option.getD_some, HashMap.get_remove]
        simp [eq_comm]
    · cases hget : HashMap.get overrides_by_name key with
      | none => simp [hname]
      | some overrides => simp [hname, HashMap.get_insert]

/-- A call of an `override_` or a `remove_` method that got its lock. -/
inductive OverrideCall (T : Type) where
  | override (key : String) (value : T) (id : Option String)
  | remove (key : String) (id : Option String)

def OverrideCall.run (overrides_by_name : HashMap String (HashMap String T)) :
    OverrideCall T → HashMap String (HashMap String T)
  | override key value id => insert_override overrides_by_name key value id
  | remove key id => remove_override overrides_by_name key id

/-- What the call writes for the spec and the id, where it writes anything there. -/
def OverrideCall.written (name id' : String) : OverrideCall T → Option (Option T)
  | override key value id =>
    if name = key ∧ id' = id.getD NO_ID_OVERRIDE then some (some value) else none
  | remove key id => if name = key ∧ (id = none ∨ id = some id') then some none else none

theorem override_at_run (overrides_by_name : HashMap String (HashMap String T))
    (call : OverrideCall T) (name id : String) :
    override_at (call.run overrides_by_name) name id =
      (call.written name id).getD (override_at overrides_by_name name id) := by
  cases call with
  | override key value id' =>
    rw [OverrideCall.run, override_at_insert, OverrideCall.written]
    split <;> rfl
  | remove key id' =>
    rw [OverrideCall.run, override_at_remove, OverrideCall.written]
    split <;> rfl

/-- After any calls an override is what the last call that wrote there has written. -/
theorem last_call_counts (overrides_by_name : HashMap String (HashMap String T))
    (calls : List (OverrideCall T)) (name id : String) :
    override_at (calls.foldl OverrideCall.run overrides_by_name) name id =
      (calls.reverse.findSome? (OverrideCall.written name id)).getD
        (override_at overrides_by_name name id) := by
  induction calls generalizing overrides_by_name with
  | nil => rfl
  | cons call calls ih =>
    rw [List.foldl_cons, ih, override_at_run, List.reverse_cons, List.findSome?_append]
    cases calls.reverse.findSome? (OverrideCall.written name id) with
    | some value => rfl
    | none => cases hwritten : call.written name id <;> simp [hwritten]

end access

namespace OverrideStore

variable (granted : Bool) (order : List String)

def get_gate_override (store : OverrideStore) :
    UserData → String → EvaluatorResult → Bool × EvaluatorResult :=
  get_override granted store.gate (fun value res => { res with bool_value := value }) order

def get_dynamic_config_override (store : OverrideStore) :
    UserData → String → EvaluatorResult → Bool × EvaluatorResult :=
  get_override granted store.config (fun value res => { res with json_value := some value }) order

def get_experiment_override (store : OverrideStore) (user : UserData) (experiment_name : String)
    (result : EvaluatorResult) (opt_spec : Option Spec) : Bool × EvaluatorResult :=
  get_override granted store.experiment
    (fun override_value res =>
      match override_value with
      | .Value value => { res with json_value := some value }
      | .GroupName group_name =>
        { res with json_value := get_experiment_with_group_name opt_spec group_name })
    order user experiment_name result

def get_layer_override (store : OverrideStore) :
    UserData → String → EvaluatorResult → Bool × EvaluatorResult :=
  get_override granted store.layer (fun value res => { res with json_value := some value }) order

/-- The parameters that `serde_json` can write. -/
def serialized_parameters (serde : ParameterSerde)
    (parameters : HashMap String specs_response.Parameter) : HashMap String JsonValue :=
  (parameters.map Prod.fst).dedup.filterMap fun param_name =>
    ((HashMap.get parameters param_name).bind serde.to_value).map fun value => (param_name, value)

def get_parameter_store_override (serde : ParameterSerde) (store : OverrideStore) :
    UserData → String → EvaluatorResult → Bool × EvaluatorResult :=
  get_override granted store.parameter_store
    (fun parameters res => { res with
      json_value := some (DynamicReturnable.from_map (serialized_parameters serde parameters)) })
    order

/-- The adapter that the evaluator asks. -/
def adapter (serde : ParameterSerde) (store : OverrideStore) : OverrideAdapter where
  get_gate_override := store.get_gate_override granted order
  get_dynamic_config_override := store.get_dynamic_config_override granted order
  get_experiment_override := store.get_experiment_override granted order
  get_layer_override := store.get_layer_override granted order
  get_parameter_store_override := store.get_parameter_store_override granted order serde

def override_gate (store : OverrideStore) (key : String) (value : Bool) (id : Option String) :
    OverrideStore :=
  if granted then { store with gate := insert_override store.gate key value id } else store

def override_dynamic_config (store : OverrideStore) (key : String)
    (value : HashMap String JsonValue) (id : Option String) : OverrideStore :=
  if granted then
    { store with
      config := insert_override store.config key (DynamicReturnable.from_map value) id }
  else store

def override_experiment (store : OverrideStore) (key : String)
    (value : HashMap String JsonValue) (id : Option String) : OverrideStore :=
  if granted then
    { store with
      experiment :=
        insert_override store.experiment key (.Value (DynamicReturnable.from_map value)) id }
  else store

def override_experiment_by_group_name (store : OverrideStore) (key group_name : String)
    (id : Option String) : OverrideStore :=
  if granted then
    { store with experiment := insert_override store.experiment key (.GroupName group_name) id }
  else store

def override_layer (store : OverrideStore) (key : String) (value : HashMap String JsonValue)
    (id : Option String) : OverrideStore :=
  if granted then
    { store with
      layer := insert_override store.layer key (DynamicReturnable.from_map value) id }
  else store

/-- The parameter that a value is read as, or else a static one. -/
def parameter_of (serde : ParameterSerde) (param_value : JsonValue) :
    specs_response.Parameter :=
  match serde.from_value param_value with
  | some parameter => parameter
  | none => .StaticValue none "static" (infer_param_type param_value) param_value

def override_parameter_store (serde : ParameterSerde) (store : OverrideStore) (key : String)
    (value : HashMap String JsonValue) (id : Option String) : OverrideStore :=
  if granted then
    let parameters := value.map fun entry => (entry.1, parameter_of serde entry.2)
    { store with parameter_store := insert_override store.parameter_store key parameters id }
  else store

def remove_gate_override (store : OverrideStore) (key : String) (id : Option String) :
    OverrideStore :=
  if granted then { store with gate := remove_override store.gate key id } else store

def remove_dynamic_config_override (store : OverrideStore) (key : String) (id : Option String) :
    OverrideStore :=
  if granted then { store with config := remove_override store.config key id } else store

def remove_experiment_override (store : OverrideStore) (key : String) (id : Option String) :
    OverrideStore :=
  if granted then { store with experiment := remove_override store.experiment key id } else store

def remove_layer_override (store : OverrideStore) (key : String) (id : Option String) :
    OverrideStore :=
  if granted then { store with layer := remove_override store.layer key id } else store

def remove_parameter_store_override (store : OverrideStore) (key : String)
    (id : Option String) : OverrideStore :=
  if granted then { store with parameter_store := remove_override store.parameter_store key id }
  else store

def remove_all_overrides (store : OverrideStore) : OverrideStore :=
  if granted then {} else store

end OverrideStore

end statsig_rust.override_adapter
