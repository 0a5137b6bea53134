-- The data of a client initialize response (`gcir/gcir_options.rs`,
-- `evaluation/evaluation_types.rs`, `initialize_response.rs`), and what each part of it
-- gives to the hash of the response.
import StatsigCore.Evaluation.EvaluationTypes
import StatsigCore.SpecsResponse.SpecTypes

open program

namespace statsig_rust

/-! ## Name hashing -/

inductive HashAlgorithm where
  | Djb2 | None | Sha256
deriving DecidableEq

def HashAlgorithm.to_string : HashAlgorithm → String
  | Djb2 => "djb2"
  | None => "none"
  | Sha256 => "sha256"

/-- The sum wraps in an `i64`, and its low 32 bits count. -/
def djb2_number (input : String) : Nat :=
  let sum := input.toList.foldl
    (fun (hash : BitVec 64) c => (hash <<< 5) - hash + BitVec.ofNat 64 c.toNat) 0
  (sum &&& 0xFFFFFFFF#64).toNat

def djb2 (input : String) : String := toString (djb2_number input)

theorem toString_injective {m n : Nat} (h : toString m = toString n) : m = n := by
  have hdigits : Nat.toDigits 10 m = Nat.toDigits 10 n := by
    have hlist : (Nat.repr m).toList = (Nat.repr n).toList := congrArg String.toList h
    simpa [Nat.repr] using hlist
  have hnumber := congrArg (fun digits => Nat.ofDigitChars 10 digits 0) hdigits
  simpa only [Nat.ofDigitChars_toDigits (by decide : 1 < 10) (by decide)] using hnumber

def evaluation.HashUtil.hash (hashing : evaluation.HashUtil) (input : String) :
    HashAlgorithm → String
  | .Sha256 => hashing.sha256 input
  | .Djb2 => djb2 input
  | .None => input

namespace gcir

open evaluation

/-! ## Options -/

/-- A filter is the set of the names that stay. The response format picks one of the
formatters. -/
structure ClientInitResponseOptions where
  hash_algorithm : Option HashAlgorithm := some .Djb2
  client_sdk_key : Option String := none
  target_app_id : Option String := none
  include_local_overrides : Option Bool := some false
  feature_gate_filter : Option (List String) := none
  experiment_filter : Option (List String) := none
  dynamic_config_filter : Option (List String) := none
  layer_filter : Option (List String) := none
  param_store_filter : Option (List String) := none
  remove_id_type : Option Bool := some false
  remove_default_value_gates : Option Bool := some false
  previous_response_hash : Option String := none
  remove_experiments_in_layers : Option Bool := some false

namespace ClientInitResponseOptions

def get_hash_algorithm (options : ClientInitResponseOptions) : HashAlgorithm :=
  options.hash_algorithm.getD .Djb2

/-- An empty string means unset. -/
def get_target_app_id (options : ClientInitResponseOptions) : Option String :=
  options.target_app_id.filter (· ≠ "")

end ClientInitResponseOptions

/-! ## Hashes -/

/-- `hashing::hash_one`, and the hashes that the interned store gives a text and the JSON
text of an object with its entries in this order. -/
structure Hasher where
  hash_one : List Nat → Nat
  interned : String → Nat
  returnable : HashMap String JsonValue → Nat

def opt_bool_to_hashable : Option Bool → Nat
  | some true => 1
  | some false => 0
  | none => 2

/-- The `hash` of an interned string. -/
def Hasher.hash_of (hasher : Hasher) : Interned → Nat
  | .empty => 0
  | .stored text => hasher.interned text

/-- The `hash` of an optional interned string, or else 0. -/
def Hasher.hash_or_zero (hasher : Hasher) : Option InternedString → Nat
  | some text => hasher.interned text
  | none => 0

/-- `DynamicReturnable::get_hash`. The three constants have the hash 0. -/
def Hasher.get_hash (hasher : Hasher) : DynamicReturnable → Nat
  | .null => 0
  | .bool _ => 0
  | .json map => hasher.returnable map

/-- A step from a JSON value to one inside it. -/
inductive JsonStep where
  | key (name : String)
  | item (index : Nat)

/-- The order in which one run goes through the objects of a value: each is a hash map of its
own, at its place in the value. -/
abbrev ObjectOrders := List JsonStep → HashMap String JsonValue → List String

/-- The order in which one run goes through its hash maps. A map that the run makes itself
comes with the layer that it is for. -/
structure MapOrders where
  feature_gates : List InternedString
  dynamic_configs : List InternedString
  layer_configs : List InternedString
  cmab_configs : List String
  param_stores : List InternedString
  event_triggers : List InternedString
  exposure_triggers : List InternedString
  parameter_rule_ids :
    InternedString → HashMap InternedString InternedString → List InternedString
  merged_values : InternedString → ObjectOrders

/-- The keys of the map, each once. -/
structure Iterates {κ υ : Type} [DecidableEq κ] (map : HashMap κ υ) (keys : List κ) : Prop where
  nodup : keys.Nodup
  mem : ∀ key, key ∈ keys ↔ map.get key ≠ none

theorem Iterates.perm {κ υ : Type} [DecidableEq κ] {map : HashMap κ υ} {keys keys' : List κ}
    (h : Iterates map keys) (h' : Iterates map keys') : keys.Perm keys' :=
  (List.perm_ext_iff_of_nodup h.nodup h'.nodup).mpr fun key =>
    (h.mem key).trans (h'.mem key).symm

/-- The orders are orders of any object at any place. -/
def ObjectOrders.Fits (orders : ObjectOrders) : Prop :=
  ∀ path map, Iterates map (orders path map)

/-- The orders are orders of the maps of the specs, and of any map that the run makes. -/
structure MapOrders.Fits (orders : MapOrders) (specs : specs_response.SpecsResponseFull) :
    Prop where
  feature_gates : Iterates specs.feature_gates orders.feature_gates
  dynamic_configs : Iterates specs.dynamic_configs orders.dynamic_configs
  layer_configs : Iterates specs.layer_configs orders.layer_configs
  cmab_configs : Iterates (specs.cmab_configs.getD []) orders.cmab_configs
  param_stores : Iterates (specs.param_stores.getD []) orders.param_stores
  event_triggers : ∀ data, specs.session_replay_info = some data →
    Iterates (data.session_recording_event_triggers.getD []) orders.event_triggers
  exposure_triggers : ∀ data, specs.session_replay_info = some data →
    Iterates (data.session_recording_exposure_triggers.getD []) orders.exposure_triggers
  parameter_rule_ids : ∀ layer map, Iterates map (orders.parameter_rule_ids layer map)
  merged_values : ∀ layer, (orders.merged_values layer).Fits

/-- The entries of a map in the order of its keys. -/
def entries_in {κ υ : Type} [DecidableEq κ] (map : HashMap κ υ) (keys : List κ) :
    List (κ × υ) :=
  keys.filterMap fun key => (map.get key).map fun value => (key, value)

mutual

/-- A value with the entries of each object in it in the order in which the run writes them. -/
def written (orders : ObjectOrders) (path : List JsonStep) : JsonValue → JsonValue
  | .null => .null
  | .bool b => .bool b
  | .number n => .number n
  | .string s => .string s
  | .array items => .array (written_items orders path 0 items)
  | .object entries =>
    .object (entries_in (written_entries orders path entries) (orders path entries))

def written_items (orders : ObjectOrders) (path : List JsonStep) :
    Nat → List JsonValue → List JsonValue
  | _, [] => []
  | index, item :: items =>
    written orders (path ++ [.item index]) item :: written_items orders path (index + 1) items

def written_entries (orders : ObjectOrders) (path : List JsonStep) :
    List (String × JsonValue) → List (String × JsonValue)
  | [] => []
  | entry :: entries => written_entry orders path entry :: written_entries orders path entries

def written_entry (orders : ObjectOrders) (path : List JsonStep) :
    String × JsonValue → String × JsonValue
  | (name, value) => (name, written orders (path ++ [.key name]) value)

end

/-- An object with its entries as the run writes them. -/
def written_object (orders : ObjectOrders) (map : HashMap String JsonValue) :
    HashMap String JsonValue :=
  entries_in (written_entries orders [] map) (orders [] map)

/-- The `GCIRHashable` trait. -/
class GCIRHashable (T : Type) where
  create_hash : Hasher → MapOrders → T → InternedString → Nat

export GCIRHashable (create_hash)

def SecondaryExposure.create_hash (hasher : Hasher) (exposure : SecondaryExposure)
    (name : InternedString) : Nat :=
  hasher.hash_one
    [hasher.interned name, hasher.interned exposure.gate_value, hasher.interned exposure.rule_id]

/-- `hash_secondary_exposures` of the typed evaluations. -/
def hash_of_exposures (hasher : Hasher) (exposures : List SecondaryExposure) : Nat :=
  hasher.hash_one
    (exposures.map fun exposure => SecondaryExposure.create_hash hasher exposure exposure.gate)

/-! ## Entries of a response -/

inductive AnyConfigEvaluation where
  | DynamicConfig (eval : DynamicConfigEvaluation)
  | Experiment (eval : ExperimentEvaluation)

instance : GCIRHashable GateEvaluation where
  create_hash hasher _ eval name := hasher.hash_one [
    hasher.interned name,
    eval.value.toNat,
    hasher.hash_of eval.base.rule_id,
    hash_of_exposures hasher eval.base.secondary_exposures]

instance : GCIRHashable DynamicConfigEvaluation where
  create_hash hasher _ eval name := hasher.hash_one [
    hasher.interned name,
    hasher.get_hash eval.value,
    hasher.hash_of eval.base.rule_id,
    hash_of_exposures hasher eval.base.secondary_exposures,
    eval.passed.toNat]

instance : GCIRHashable ExperimentEvaluation where
  create_hash hasher _ eval name := hasher.hash_one [
    hasher.interned name,
    hasher.get_hash eval.value,
    hasher.hash_of eval.base.rule_id,
    hash_of_exposures hasher eval.base.secondary_exposures,
    eval.is_in_layer.toNat,
    hasher.hash_one ((eval.explicit_parameters.getD []).map hasher.interned),
    hasher.hash_or_zero eval.group_name,
    opt_bool_to_hashable eval.is_experiment_active,
    opt_bool_to_hashable eval.is_user_in_experiment]

instance : GCIRHashable AnyConfigEvaluation where
  create_hash hasher orders eval name := match eval with
    | .DynamicConfig eval => create_hash hasher orders eval name
    | .Experiment eval => create_hash hasher orders eval name

/-- The value of a layer that merged its rules is written from a hash map, whose objects are
hash maps too. Such a layer has the rule ids of its parameters. -/
def layer_value_hash (hasher : Hasher) (orders : MapOrders) (eval : LayerEvaluation)
    (name : InternedString) : Nat :=
  match eval.parameter_rule_ids, eval.value with
  | some _, .json map => hasher.returnable (written_object (orders.merged_values name) map)
  | _, value => hasher.get_hash value

/-- The hashes of the rule ids of the parameters, with nothing for a layer without them. -/
def parameter_rule_ids_hash (hasher : Hasher) (orders : MapOrders) (eval : LayerEvaluation)
    (name : InternedString) : List Nat :=
  match eval.parameter_rule_ids with
  | none => []
  | some parameter_rule_ids =>
    let entries := entries_in parameter_rule_ids (orders.parameter_rule_ids name parameter_rule_ids)
    [hasher.hash_one (entries.flatMap fun entry =>
      [hasher.interned entry.1, hasher.interned entry.2])]

instance : GCIRHashable LayerEvaluation where
  create_hash hasher orders eval name := hasher.hash_one ([
    hasher.interned name,
    layer_value_hash hasher orders eval name,
    hasher.hash_of eval.base.rule_id,
    hash_of_exposures hasher eval.base.secondary_exposures,
    hasher.hash_or_zero eval.group_name,
    opt_bool_to_hashable eval.is_experiment_active,
    opt_bool_to_hashable eval.is_user_in_experiment,
    hasher.hash_or_zero eval.allocated_experiment_name,
    hasher.hash_one (eval.explicit_parameters.map hasher.interned),
    hash_of_exposures hasher (eval.undelegated_secondary_exposures.getD [])]
    ++ parameter_rule_ids_hash hasher orders eval name)

instance : GCIRHashable specs_response.ParameterStore where
  create_hash hasher _ store name := hasher.hash_one [
    hasher.interned name,
    store.version.getD 0]

instance : GCIRHashable specs_response.SessionReplayTrigger where
  create_hash hasher _ trigger name := hasher.hash_one ([
    hasher.interned name,
    opt_bool_to_hashable trigger.passes_sampling]
    ++ (trigger.values.getD []).map hasher.interned)

structure GCIRSessionReplayInfo where
  can_record_session : Option Bool := none
  session_recording_rate : Option F64 := none
  recording_blocked : Option Bool := none
  passes_session_recording_targeting : Option Bool := none
  session_recording_event_triggers :
    Option (HashMap String specs_response.SessionReplayTrigger) := none
  session_recording_exposure_triggers :
    Option (HashMap String specs_response.SessionReplayTrigger) := none
  session_recording_privacy_settings : Option specs_response.SessionReplayPrivacySetting := none

instance : GCIRHashable GCIRSessionReplayInfo where
  create_hash hasher _ info _ := hasher.hash_one [
    opt_bool_to_hashable info.can_record_session,
    opt_bool_to_hashable info.recording_blocked,
    opt_bool_to_hashable info.passes_session_recording_targeting]

/-! ## Responses -/

abbrev SerializeableParamStore := HashMap String (HashMap String specs_response.Parameter)

structure EvaluatedKeys where
  user_id : Option InternedString := none
  custom_ids : Option (HashMap InternedString InternedString) := none

/-- The parts of the response that the specs and the user decide. -/
structure InitializeResponse where
  feature_gates : HashMap String GateEvaluation := []
  dynamic_configs : HashMap String AnyConfigEvaluation := []
  layer_configs : HashMap String LayerEvaluation := []
  time : Nat := 0
  has_updates : Bool := false
  hash_used : String := ""
  evaluated_keys : EvaluatedKeys := {}
  param_stores : SerializeableParamStore := []
  session_replay_info : GCIRSessionReplayInfo := {}
  full_checksum : Option String := none

def InitializeResponse.blank_without_user : InitializeResponse := {}

/-! ## The state of a run -/

/-- The context of the evaluator with the hashes of the response, and the memo of hashed
gate names that the formatter passes along. -/
structure GcirContext where
  evaluator : EvaluatorContext := {}
  gcir_hashes : List Nat := []
  sec_expo_hash_memo : HashMap InternedString InternedString := []

abbrev Gcir := Program GcirContext StatsigErr

/-- A call of the evaluator in the shared context. -/
def evaluator_call {α : Type} (x : Eval α) : Gcir α := fun ctx =>
  match x ctx.evaluator with
  | .ok a evaluator => .ok a { ctx with evaluator }
  | .err e evaluator => .err e { ctx with evaluator }
  | .deep => .deep

def push_hash (hash : Nat) : Gcir Unit :=
  update fun ctx => { ctx with gcir_hashes := ctx.gcir_hashes ++ [hash] }

end gcir

end statsig_rust
