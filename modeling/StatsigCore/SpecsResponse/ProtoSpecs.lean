-- The protobuf specs response (`specs_response/proto_specs.rs`): a stream of envelopes that
-- builds the next specs, partly from the current ones. An error that wraps another one keeps
-- the beginning of its text here.
import StatsigCore.SpecsResponse.ProtoStreamReader

namespace statsig_rust.specs_response

/-! ## Envelopes -/

structure SpecsEnvelope where
  kind : Int
  name : String := ""
  checksum : String := ""
  data : Option Bytes := none

inductive SpecsEnvelopeKind where
  | Unknown | Done | TopLevel | FeatureGate | DynamicConfig | LayerConfig | ParamStore
  | Condition | Deletions | Checksums | CopyPrev
deriving DecidableEq

def SpecsEnvelopeKind.try_from : Int → Option SpecsEnvelopeKind
  | 0 => some .Unknown
  | 1 => some .Done
  | 2 => some .TopLevel
  | 3 => some .FeatureGate
  | 4 => some .DynamicConfig
  | 5 => some .LayerConfig
  | 6 => some .ParamStore
  | 7 => some .Condition
  | 8 => some .Deletions
  | 9 => some .Checksums
  | 10 => some .CopyPrev
  | _ => none

structure SpecsTopLevel where
  has_updates : Bool
  time : Nat
  company_id : String
  response_format : String
  checksum : String
  rest : Bytes

structure RulesetsResponseDeletions where
  dynamic_configs : List String := []
  feature_gates : List String := []
  layer_configs : List String := []
  experiment_to_layer : List String := []
  condition_map : List String := []
  sdk_configs : List String := []
  param_stores : List String := []
  cmab_configs : List String := []
  override_rules : List String := []
  overrides : List String := []

/-- What reads the bytes of an envelope, and the specs that are preloaded. `spec` and
`condition` also convert what they decode (`spec_from_pb`, `condition_from_pb`). The
checksum of an entity comes from its envelope. -/
structure Decoders where
  prost : Prost
  overflow_checks : Bool := false
  envelope : Bytes → Except String SpecsEnvelope
  top_level : Bytes → Except String SpecsTopLevel
  rest : Bytes → Except String SpecsResponsePartial
  spec : Bytes → Except StatsigErr Spec
  param_store : Bytes → Except String ParameterStore
  condition : Bytes → Except StatsigErr Condition
  deletions : Bytes → Except String RulesetsResponseDeletions
  checksums : Bytes → Except String (HashMap String Nat)
  preloaded_feature_gate : InternedString → Option Spec := fun _ => none
  preloaded_dynamic_config : InternedString → Option Spec := fun _ => none
  preloaded_layer_config : InternedString → Option Spec := fun _ => none

def map_decode_err (tag e : String) : StatsigErr := .ProtobufParseError ("proto::" ++ tag) e

def map_serde_json_err (tag e : String) : StatsigErr := .ProtobufParseError ("proto::" ++ tag) e

def validate_envelope_data (envelope_tag : String) : Option Bytes → Except StatsigErr Bytes
  | some data => .ok data
  | none => .error (.ProtobufParseError "SpecsEnvelope" ("No data in " ++ envelope_tag ++ " envelope"))

/-! ## Entities -/

/-- What the entities of a response have in common. -/
class HasChecksum (α : Type) where
  checksum : α → Option String
  with_checksum : String → α → α

instance : HasChecksum Spec := ⟨Spec.checksum, fun c spec => { spec with checksum := some c }⟩

instance : HasChecksum Condition :=
  ⟨Condition.checksum, fun c condition => { condition with checksum := some c }⟩

instance : HasChecksum ParameterStore :=
  ⟨ParameterStore.checksum, fun c param_store => { param_store with checksum := some c }⟩

/-- The entity that an envelope stands for: a preloaded or an existing one with the same
checksum, or else the one in its data. -/
def entity_update {α : Type} [HasChecksum α] (tag : String) (envelope : SpecsEnvelope)
    (preloaded existing : Option α) (decode : Bytes → Except StatsigErr α) :
    Except StatsigErr α :=
  match preloaded.filter fun entity => HasChecksum.checksum entity = some envelope.checksum with
  | some entity => .ok entity
  | none =>
    match existing.filter fun entity => HasChecksum.checksum entity = some envelope.checksum with
    | some entity => .ok entity
    | none => do
      let envelope_data ← validate_envelope_data tag envelope.data
      let entity ← decode envelope_data
      .ok (HasChecksum.with_checksum envelope.checksum entity)

def handle_individual_spec_update (decoders : Decoders) (tag : String) (envelope : SpecsEnvelope)
    (existing_map new_map : HashMap InternedString Spec)
    (preload_fetcher : InternedString → Option Spec) :
    Except StatsigErr (HashMap InternedString Spec) := do
  let spec ← entity_update tag envelope (preload_fetcher envelope.name)
    (existing_map.get envelope.name) decoders.spec
  .ok (new_map.insert envelope.name spec)

/-! ## Checksums -/

/-- `checksum_to_u32`: a text that is no `u32` counts as 0. -/
def checksum_to_u32 (checksum : Option String) : Nat :=
  match checksum with
  | none => 0
  | some value =>
    -- `u32::from_str` takes one leading plus sign
    let digits := if value.startsWith "+" then (value.drop 1).toString else value
    match digits.toList.all Char.isDigit, digits.toNat? with
    | true, some n => if n < 2 ^ 32 then n else 0
    | _, _ => 0

def sum_checksums {α : Type} [HasChecksum α] (entities : HashMap InternedString α) : Nat :=
  entities.foldl
    (fun acc entry => (acc + checksum_to_u32 (HasChecksum.checksum entry.2)) % 2 ^ 64) 0

def validate_field_checksum (field : String) (field_checksums : HashMap String Nat)
    (computed : Nat) : Except StatsigErr Unit :=
  match field_checksums.get field with
  | none => .error (.ProtobufParseError "proto::RulesetsChecksums" ("Missing checksum for " ++ field))
  | some expected =>
    if expected ≠ computed then
      .error (.ProtobufParseError "proto::RulesetsChecksums"
        ("Checksum mismatch for " ++ field ++ ": expected " ++ toString expected ++ ", got " ++
          toString computed))
    else .ok ()

/-! ## Copies and deletions -/

/-- A `DynamicString` is written as a boolean when its text is one, and a boolean is not
read back as a `DynamicString`. -/
def reads_back (id_type : DynamicString) : Bool :=
  id_type.value ≠ "true" && id_type.value ≠ "false"

/-- The existing specs written as JSON and read back as the top level fields. The other
types in these fields read back what they write. -/
def read_back_partial (existing : SpecsResponseFull) : Except StatsigErr SpecsResponsePartial :=
  let cmab_configs := existing.cmab_configs.getD []
  let override_rules := existing.override_rules.getD []
  if cmab_configs.all (fun entry => reads_back entry.2.id_type) &&
      override_rules.all (fun entry => reads_back entry.2.id_type) then
    .ok existing.toSpecsResponsePartial
  else
    .error (map_serde_json_err "SpecsResponsePartial" "invalid type: boolean, expected a string")

def remove_from_map {κ υ : Type} [DecidableEq κ] (m : HashMap κ υ) (names : List κ) :
    HashMap κ υ :=
  names.foldl HashMap.remove m

/-- `remove_string_from_opt_map` and `remove_interned_from_opt_map`. -/
def remove_from_opt_map {κ υ : Type} [DecidableEq κ] (m : Option (HashMap κ υ))
    (names : List κ) : Option (HashMap κ υ) :=
  m.map fun m => remove_from_map m names

namespace SpecsResponseFull

variable (decoders : Decoders) (next existing : SpecsResponseFull) (envelope : SpecsEnvelope)

def populate_top_level_from_envelope (top_level : SpecsTopLevel) :
    Except StatsigErr SpecsResponseFull := do
  let rest ← (decoders.rest top_level.rest).mapError (map_serde_json_err "SpecsResponsePartial")
  .ok { next.merge_from_partial rest with
    checksum := some top_level.checksum
    time := top_level.time
    has_updates := top_level.has_updates
    response_format := some top_level.response_format
    company_id := some top_level.company_id }

def handle_top_level_update : Except StatsigErr SpecsResponseFull := do
  let envelope_data ← validate_envelope_data "TopLevel" envelope.data
  let top_level ← (decoders.top_level envelope_data).mapError (map_decode_err "SpecsTopLevel")
  next.populate_top_level_from_envelope decoders top_level

def handle_feature_gate_update : Except StatsigErr SpecsResponseFull := do
  let feature_gates ← handle_individual_spec_update decoders "FeatureGate" envelope
    existing.feature_gates next.feature_gates decoders.preloaded_feature_gate
  .ok { next with feature_gates }

def handle_dynamic_config_update : Except StatsigErr SpecsResponseFull := do
  let dynamic_configs ← handle_individual_spec_update decoders "DynamicConfig" envelope
    existing.dynamic_configs next.dynamic_configs decoders.preloaded_dynamic_config
  .ok { next with dynamic_configs }

def handle_layer_config_update : Except StatsigErr SpecsResponseFull := do
  let layer_configs ← handle_individual_spec_update decoders "LayerConfig" envelope
    existing.layer_configs next.layer_configs decoders.preloaded_layer_config
  .ok { next with layer_configs }

def handle_param_store_update : Except StatsigErr SpecsResponseFull := do
  let param_store ← entity_update "ParamStore" envelope none
    (existing.param_stores.bind fun param_stores => param_stores.get envelope.name)
    fun data => (decoders.param_store data).mapError (map_serde_json_err "ParameterStore")
  .ok { next with
    param_stores := some ((next.param_stores.getD []).insert envelope.name param_store) }

def handle_condition_update : Except StatsigErr SpecsResponseFull := do
  let condition ← entity_update "Condition" envelope none
    (existing.condition_map.get envelope.name) decoders.condition
  .ok { next with condition_map := next.condition_map.insert envelope.name condition }

def apply_deletions (deletions : RulesetsResponseDeletions) : SpecsResponseFull :=
  { next with
    dynamic_configs := remove_from_map next.dynamic_configs deletions.dynamic_configs
    feature_gates := remove_from_map next.feature_gates deletions.feature_gates
    layer_configs := remove_from_map next.layer_configs deletions.layer_configs
    experiment_to_layer := remove_from_map next.experiment_to_layer deletions.experiment_to_layer
    condition_map := remove_from_map next.condition_map deletions.condition_map
    sdk_configs := remove_from_opt_map next.sdk_configs deletions.sdk_configs
    param_stores := remove_from_opt_map next.param_stores deletions.param_stores
    cmab_configs := remove_from_opt_map next.cmab_configs deletions.cmab_configs
    override_rules := remove_from_opt_map next.override_rules deletions.override_rules
    overrides := remove_from_opt_map next.overrides deletions.overrides }

def handle_deletions_update : Except StatsigErr SpecsResponseFull := do
  let envelope_data ← validate_envelope_data "Deletions" envelope.data
  let deletions ← (decoders.deletions envelope_data).mapError
    (map_decode_err "RulesetsResponseDeletions")
  .ok (next.apply_deletions deletions)

def handle_checksums_update : Except StatsigErr Unit := do
  let envelope_data ← validate_envelope_data "Checksums" envelope.data
  let field_checksums ← (decoders.checksums envelope_data).mapError
    (map_decode_err "RulesetsChecksums")
  validate_field_checksum "condition_map" field_checksums (sum_checksums next.condition_map)
  validate_field_checksum "dynamic_configs" field_checksums (sum_checksums next.dynamic_configs)
  validate_field_checksum "feature_gates" field_checksums (sum_checksums next.feature_gates)
  validate_field_checksum "layer_configs" field_checksums (sum_checksums next.layer_configs)
  validate_field_checksum "param_stores" field_checksums
    (sum_checksums (next.param_stores.getD []))

def handle_copy_prev_update : Except StatsigErr SpecsResponseFull := do
  let rest ← read_back_partial existing
  .ok { next.merge_from_partial rest with
    checksum := existing.checksum
    company_id := existing.company_id
    time := existing.time
    has_updates := existing.has_updates
    response_format := existing.response_format
    dynamic_configs := existing.dynamic_configs
    feature_gates := existing.feature_gates
    layer_configs := existing.layer_configs
    condition_map := existing.condition_map
    param_stores := existing.param_stores }

end SpecsResponseFull

/-! ## The loop -/

/-- An update that fails is logged, and changes nothing. -/
def consume_errors (next : SpecsResponseFull) :
    Except StatsigErr SpecsResponseFull → SpecsResponseFull
  | .ok next => next
  | .error _ => next

inductive Turn where
  | go_on (next_specs : SpecsResponseFull)
  | done
  | fail (e : StatsigErr)

/-- One turn of the loop of `deserialize_protobuf`, with an envelope that is decoded. -/
def handle_envelope (decoders : Decoders) (current_specs next_specs : SpecsResponseFull)
    (env : SpecsEnvelope) : Turn :=
  match SpecsEnvelopeKind.try_from env.kind with
  | none => .go_on next_specs
  | some .Done => .done
  | some .TopLevel =>
    .go_on (consume_errors next_specs (next_specs.handle_top_level_update decoders env))
  | some .FeatureGate =>
    .go_on (consume_errors next_specs
      (next_specs.handle_feature_gate_update decoders current_specs env))
  | some .DynamicConfig =>
    .go_on (consume_errors next_specs
      (next_specs.handle_dynamic_config_update decoders current_specs env))
  | some .LayerConfig =>
    .go_on (consume_errors next_specs
      (next_specs.handle_layer_config_update decoders current_specs env))
  | some .ParamStore =>
    .go_on (consume_errors next_specs
      (next_specs.handle_param_store_update decoders current_specs env))
  | some .Condition =>
    .go_on (consume_errors next_specs
      (next_specs.handle_condition_update decoders current_specs env))
  | some .Deletions =>
    .go_on (consume_errors next_specs (next_specs.handle_deletions_update decoders env))
  | some .Checksums =>
    match next_specs.handle_checksums_update decoders env with
    | .ok () => .go_on next_specs
    | .error _ => .fail (.ChecksumFailure "Failed to apply protobuf checksums update")
  | some .CopyPrev =>
    .go_on (consume_errors next_specs (next_specs.handle_copy_prev_update current_specs))
  | some .Unknown => .fail (.ProtobufParseError "proto::SpecsEnvelope" "Unknown envelope kind")

/-- How a call of `deserialize_protobuf` ends. `running` is a call that has not returned
after the given number of turns. -/
inductive DeserializeResult where
  | ok (next_specs : SpecsResponseFull)
  | err (e : StatsigErr)
  | panic
  | running

def read_envelopes (decoders : Decoders) (current_specs : SpecsResponseFull) :
    Nat → ProtoStreamReader → SpecsResponseFull → DeserializeResult
  | 0, _, _ => .running
  | turns + 1, reader, next_specs =>
    match read_next_delimited_proto decoders.prost decoders.overflow_checks reader with
    | (.err _, _) => .err (.ProtobufParseError "SpecsEnvelope" "Error reading next delimited proto")
    | (.panic, _) => .panic
    | (.ok proto_msg_bytes, reader) =>
      match decoders.envelope proto_msg_bytes with
      | .error _ => read_envelopes decoders current_specs turns reader next_specs
      | .ok env =>
        match handle_envelope decoders current_specs next_specs env with
        | .done => .ok next_specs
        | .fail e => .err e
        | .go_on next_specs => read_envelopes decoders current_specs turns reader next_specs

def deserialize_protobuf (decoders : Decoders) (turns : Nat)
    (current_specs next_specs : SpecsResponseFull) (data : Source) : DeserializeResult :=
  if next_specs.is_empty then read_envelopes decoders current_specs turns ⟨data, []⟩ next_specs
  else .err (.ProtobufParseError "SpecsResponseFull" "Next specs are not empty")

end statsig_rust.specs_response
