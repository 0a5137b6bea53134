-- Streams that turn the current specs into a new version of them, beside the stream that
-- holds all of the new version.
import StatsigCore.SpecsResponse.ProtoSpecs

namespace statsig_rust.specs_response

/-! ## Versions -/

inductive EntityKind where
  | FeatureGate | DynamicConfig | LayerConfig | ParamStore | Condition
deriving DecidableEq

inductive Entity where
  | Spec (spec : specs_response.Spec)
  | ParamStore (param_store : ParameterStore)
  | Condition (condition : specs_response.Condition)

def Entity.checksum : Entity → Option String
  | .Spec spec => spec.checksum
  | .ParamStore param_store => param_store.checksum
  | .Condition condition => condition.checksum

/-- The entity that a response has under a name. No parameter stores are as good as an
empty map of them. -/
def lookup (specs : SpecsResponseFull) : EntityKind → String → Option Entity
  | .FeatureGate, name => (specs.feature_gates.get name).map .Spec
  | .DynamicConfig, name => (specs.dynamic_configs.get name).map .Spec
  | .LayerConfig, name => (specs.layer_configs.get name).map .Spec
  | .ParamStore, name =>
    (specs.param_stores.bind fun param_stores => param_stores.get name).map .ParamStore
  | .Condition, name => (specs.condition_map.get name).map .Condition

/-- The fields outside of the five maps. -/
structure TopLevel where
  rest : SpecsResponsePartial
  checksum : Option String
  company_id : Option String
  time : Nat
  has_updates : Bool
  response_format : Option String

def SpecsResponseFull.top_level (specs : SpecsResponseFull) : TopLevel where
  rest := specs.toSpecsResponsePartial
  checksum := specs.checksum
  company_id := specs.company_id
  time := specs.time
  has_updates := specs.has_updates
  response_format := specs.response_format

/-- The same entities and the same top level fields. -/
def SameSpecs (specs other : SpecsResponseFull) : Prop :=
  (∀ kind name, lookup specs kind name = lookup other kind name) ∧
    specs.top_level = other.top_level

/-- One entity is put under its name, and nothing else changes. -/
def Inserts (next after : SpecsResponseFull) (kind : EntityKind) (name : String)
    (entity : Entity) : Prop :=
  (∀ k n, lookup after k n = if k = kind ∧ n = name then some entity else lookup next k n) ∧
    after.top_level = next.top_level

section

variable (decoders : Decoders)

/-- The preloaded entities. -/
def preloaded : EntityKind → String → Option Entity
  | .FeatureGate, name => (decoders.preloaded_feature_gate name).map .Spec
  | .DynamicConfig, name => (decoders.preloaded_dynamic_config name).map .Spec
  | .LayerConfig, name => (decoders.preloaded_layer_config name).map .Spec
  | .ParamStore, _ => none
  | .Condition, _ => none

/-- The entity in the data of an envelope, with the checksum of the envelope. -/
def decode_entity (kind : EntityKind) (env : SpecsEnvelope) : Option Entity :=
  env.data.bind fun data =>
    match kind with
    | .FeatureGate | .DynamicConfig | .LayerConfig =>
      (decoders.spec data).toOption.map fun spec =>
        .Spec { spec with checksum := some env.checksum }
    | .ParamStore =>
      (decoders.param_store data).toOption.map fun param_store =>
        .ParamStore { param_store with checksum := some env.checksum }
    | .Condition =>
      (decoders.condition data).toOption.map fun condition =>
        .Condition { condition with checksum := some env.checksum }

/-- Entities of one kind and name with one checksum are the same. -/
def SameChecksumSameEntity (entities others : EntityKind → String → Option Entity) : Prop :=
  ∀ kind name entity other, entities kind name = some entity → others kind name = some other →
    entity.checksum = other.checksum → entity = other

def SpecsEnvelopeKind.of_entity : EntityKind → SpecsEnvelopeKind
  | .FeatureGate => .FeatureGate
  | .DynamicConfig => .DynamicConfig
  | .LayerConfig => .LayerConfig
  | .ParamStore => .ParamStore
  | .Condition => .Condition

/-- An envelope for an entity, which has it in its data, or which may rely on the existing
specs for it. -/
structure EntityEnvelope (existing new : SpecsResponseFull) (kind : EntityKind)
    (env : SpecsEnvelope) (entity : Entity) : Prop where
  of_kind : SpecsEnvelopeKind.try_from env.kind = some (.of_entity kind)
  of_new : lookup new kind env.name = some entity
  same_checksum : entity.checksum = some env.checksum
  decodable : decode_entity decoders kind env = some entity ∨
    lookup existing kind env.name = some entity

end

/-! ## Entity envelopes -/

/-- One of the types of entities. -/
structure Embedding (α : Type) [HasChecksum α] where
  entity : α → Entity
  injective : ∀ a b, entity a = entity b → a = b
  checksum_eq : ∀ a, (entity a).checksum = HasChecksum.checksum a

def spec_entity : Embedding Spec := ⟨.Spec, fun _ _ h => Entity.Spec.inj h, fun _ => rfl⟩

def param_store_entity : Embedding ParameterStore :=
  ⟨.ParamStore, fun _ _ h => Entity.ParamStore.inj h, fun _ => rfl⟩

def condition_entity : Embedding Condition :=
  ⟨.Condition, fun _ _ h => Entity.Condition.inj h, fun _ => rfl⟩

/-- What an envelope stands for is the entity of the new version, when all the entities
with its checksum are that one. -/
theorem entity_update_eq {α : Type} [HasChecksum α] (e : Embedding α) (tag : String)
    (preloaded : Option α) {env : SpecsEnvelope} {existing : Option α}
    {decode : Bytes → Except StatsigErr α} {target : Entity}
    (htarget : target.checksum = some env.checksum)
    (hpreloaded : ∀ entity, preloaded.map e.entity = some entity →
      entity.checksum = target.checksum → entity = target)
    (hexisting : ∀ entity, existing.map e.entity = some entity →
      entity.checksum = target.checksum → entity = target)
    (h : (∃ data entity, env.data = some data ∧ decode data = .ok entity ∧
        e.entity (HasChecksum.with_checksum env.checksum entity) = target) ∨
      existing.map e.entity = some target) :
    ∃ entity, entity_update tag env preloaded existing decode = .ok entity ∧
      e.entity entity = target := by
  have hfound : ∀ {known : Option α} {entity : α},
      (∀ entity, known.map e.entity = some entity →
        entity.checksum = target.checksum → entity = target) →
      (known.filter fun entity => HasChecksum.checksum entity = some env.checksum) =
        some entity → e.entity entity = target := by
    intro known entity hknown hfilter
    obtain ⟨hsome, hchecksum⟩ := Option.filter_eq_some_iff.mp hfilter
    refine hknown _ (by rw [hsome, Option.map_some]) ?_
    rw [e.checksum_eq, htarget]
    simpa using hchecksum
  unfold entity_update
  cases hp : preloaded.filter fun entity =>
      HasChecksum.checksum entity = some env.checksum with
  | some entity => exact ⟨entity, rfl, hfound hpreloaded hp⟩
  | none =>
    dsimp only
    cases he : existing.filter fun entity =>
        HasChecksum.checksum entity = some env.checksum with
    | some entity => exact ⟨entity, rfl, hfound hexisting he⟩
    | none =>
      rcases h with ⟨data, entity, hdata, hdecode, hwith⟩ | hsome
      · refine ⟨_, ?_, hwith⟩
        rw [hdata]
        simp only [validate_envelope_data, bind, Except.bind, hdecode]
      · -- the existing entity has the checksum of the envelope
        obtain ⟨entity, hentity, heq⟩ := Option.map_eq_some_iff.mp hsome
        have hchecksum : HasChecksum.checksum entity = some env.checksum := by
          rw [← e.checksum_eq, heq, htarget]
        rw [hentity] at he
        simp [hchecksum] at he

theorem get_insert_eq {α : Type} [HasChecksum α] (e : Embedding α) (m : HashMap String α)
    (name n : String) (entity : α) :
    ((m.insert name entity).get n).map e.entity =
      if n = name then some (e.entity entity) else (m.get n).map e.entity := by
  rw [HashMap.get_insert]
  split
  · rfl
  · rfl

/-- The data of an envelope that decodes to an entity. -/
theorem decoded_data {α ε : Type} [HasChecksum α] (e : Embedding α) {env : SpecsEnvelope}
    {decode : Bytes → Except ε α} {entity : Entity}
    (h : (env.data.bind fun data => (decode data).toOption.map fun a =>
      e.entity (HasChecksum.with_checksum env.checksum a)) = some entity) :
    ∃ data a, env.data = some data ∧ decode data = .ok a ∧
      e.entity (HasChecksum.with_checksum env.checksum a) = entity := by
  obtain ⟨data, hdata, h⟩ := Option.bind_eq_some_iff.mp h
  obtain ⟨a, ha, h⟩ := Option.map_eq_some_iff.mp h
  refine ⟨data, a, hdata, ?_, h⟩
  cases hdecode : decode data with
  | error err =>
    rw [hdecode] at ha
    nomatch ha
  | ok b =>
    rw [hdecode] at ha
    cases ha
    rfl

theorem Inserts.of_kind {next after : SpecsResponseFull} {kind : EntityKind} {name : String}
    {entity : Entity}
    (hkind : ∀ n, lookup after kind n = if n = name then some entity else lookup next kind n)
    (hother : ∀ k, k ≠ kind → ∀ n, lookup after k n = lookup next k n)
    (htop : after.top_level = next.top_level) : Inserts next after kind name entity := by
  refine ⟨fun k n => ?_, htop⟩
  by_cases hk : k = kind
  · subst hk
    rw [hkind]
    simp
  · rw [hother k hk, if_neg (fun h => hk h.1)]

section

variable (next : SpecsResponseFull) (name : String)

theorem inserts_feature_gate (spec : Spec) :
    Inserts next { next with feature_gates := next.feature_gates.insert name spec }
      .FeatureGate name (.Spec spec) := by
  refine .of_kind (fun n => get_insert_eq spec_entity next.feature_gates name n spec) ?_ rfl
  intro k hk n
  cases k with
  | FeatureGate => exact absurd rfl hk
  | _ => rfl

theorem inserts_dynamic_config (spec : Spec) :
    Inserts next { next with dynamic_configs := next.dynamic_configs.insert name spec }
      .DynamicConfig name (.Spec spec) := by
  refine .of_kind (fun n => get_insert_eq spec_entity next.dynamic_configs name n spec) ?_ rfl
  intro k hk n
  cases k with
  | DynamicConfig => exact absurd rfl hk
  | _ => rfl

theorem inserts_layer_config (spec : Spec) :
    Inserts next { next with layer_configs := next.layer_configs.insert name spec }
      .LayerConfig name (.Spec spec) := by
  refine .of_kind (fun n => get_insert_eq spec_entity next.layer_configs name n spec) ?_ rfl
  intro k hk n
  cases k with
  | LayerConfig => exact absurd rfl hk
  | _ => rfl

theorem inserts_param_store (param_store : ParameterStore) :
    Inserts next { next with
      param_stores := some ((next.param_stores.getD []).insert name param_store) }
      .ParamStore name (.ParamStore param_store) := by
  refine .of_kind (fun n => ?_) ?_ rfl
  · have hget := get_insert_eq param_store_entity (next.param_stores.getD []) name n param_store
    unfold lookup
    cases hstores : next.param_stores with
    | none =>
      rw [hstores] at hget
      exact hget
    | some param_stores =>
      rw [hstores] at hget
      exact hget
  · intro k hk n
    cases k with
    | ParamStore => exact absurd rfl hk
    | _ => rfl

theorem inserts_condition (condition : Condition) :
    Inserts next { next with condition_map := next.condition_map.insert name condition }
      .Condition name (.Condition condition) := by
  refine .of_kind (fun n => get_insert_eq condition_entity next.condition_map name n condition)
    ?_ rfl
  intro k hk n
  cases k with
  | Condition => exact absurd rfl hk
  | _ => rfl

end

section

variable (decoders : Decoders) {existing new : SpecsResponseFull}

/-- The envelope of an entity puts it in its map. -/
theorem handle_entity_envelope {kind : EntityKind} {env : SpecsEnvelope} {entity : Entity}
    (hpreloaded : SameChecksumSameEntity (preloaded decoders) (lookup new))
    (hexisting : SameChecksumSameEntity (lookup existing) (lookup new))
    (h : EntityEnvelope decoders existing new kind env entity) (next : SpecsResponseFull) :
    ∃ after, handle_envelope decoders existing next env = .go_on after ∧
      Inserts next after kind env.name entity := by
  obtain ⟨hkind, hnew, hchecksum, hdecodable⟩ := h
  have hp := fun known hknown hsame =>
    hpreloaded kind env.name known entity hknown hnew hsame
  have he := fun known hknown hsame =>
    hexisting kind env.name known entity hknown hnew hsame
  unfold handle_envelope
  rw [hkind]
  cases kind with
  | FeatureGate =>
    obtain ⟨spec, hupdate, rfl⟩ := entity_update_eq spec_entity "FeatureGate"
      (decoders.preloaded_feature_gate env.name) hchecksum hp he
      (hdecodable.imp_left (decoded_data spec_entity))
    refine ⟨_, ?_, inserts_feature_gate next env.name spec⟩
    simp [SpecsEnvelopeKind.of_entity, SpecsResponseFull.handle_feature_gate_update,
      handle_individual_spec_update, hupdate, consume_errors, bind, Except.bind]
  | DynamicConfig =>
    obtain ⟨spec, hupdate, rfl⟩ := entity_update_eq spec_entity "DynamicConfig"
      (decoders.preloaded_dynamic_config env.name) hchecksum hp he
      (hdecodable.imp_left (decoded_data spec_entity))
    refine ⟨_, ?_, inserts_dynamic_config next env.name spec⟩
    simp [SpecsEnvelopeKind.of_entity, SpecsResponseFull.handle_dynamic_config_update,
      handle_individual_spec_update, hupdate, consume_errors, bind, Except.bind]
  | LayerConfig =>
    obtain ⟨spec, hupdate, rfl⟩ := entity_update_eq spec_entity "LayerConfig"
      (decoders.preloaded_layer_config env.name) hchecksum hp he
      (hdecodable.imp_left (decoded_data spec_entity))
    refine ⟨_, ?_, inserts_layer_config next env.name spec⟩
    simp [SpecsEnvelopeKind.of_entity, SpecsResponseFull.handle_layer_config_update,
      handle_individual_spec_update, hupdate, consume_errors, bind, Except.bind]
  | ParamStore =>
    have hdata : (∃ data a, env.data = some data ∧
        (decoders.param_store data).mapError (map_serde_json_err "ParameterStore") = .ok a ∧
        param_store_entity.entity (HasChecksum.with_checksum env.checksum a) = entity) ∨
          lookup existing .ParamStore env.name = some entity := by
      refine hdecodable.imp_left fun h => ?_
      obtain ⟨data, a, hdata, ha, hwith⟩ := decoded_data param_store_entity h
      exact ⟨data, a, hdata, by rw [ha]; rfl, hwith⟩
    obtain ⟨param_store, hupdate, rfl⟩ := entity_update_eq param_store_entity "ParamStore" none
      hchecksum hp he hdata
    refine ⟨_, ?_, inserts_param_store next env.name param_store⟩
    simp [SpecsEnvelopeKind.of_entity, SpecsResponseFull.handle_param_store_update,
      hupdate, consume_errors, bind, Except.bind]
  | Condition =>
    obtain ⟨condition, hupdate, rfl⟩ := entity_update_eq condition_entity "Condition" none
      hchecksum hp he (hdecodable.imp_left (decoded_data condition_entity))
    refine ⟨_, ?_, inserts_condition next env.name condition⟩
    simp [SpecsEnvelopeKind.of_entity, SpecsResponseFull.handle_condition_update,
      hupdate, consume_errors, bind, Except.bind]

end

/-! ## Top level fields and deletions -/

/-- The envelope with the top level fields of the new version. -/
structure TopLevelEnvelope (decoders : Decoders) (new : SpecsResponseFull) (env : SpecsEnvelope) :
    Prop where
  of_kind : SpecsEnvelopeKind.try_from env.kind = some .TopLevel
  decodable : ∃ data top_level rest, env.data = some data ∧
    decoders.top_level data = .ok top_level ∧ decoders.rest top_level.rest = .ok rest ∧
    new.top_level = ⟨rest, some top_level.checksum, some top_level.company_id, top_level.time,
      top_level.has_updates, some top_level.response_format⟩

/-- The names of entities of one kind that are deleted. -/
def RulesetsResponseDeletions.names (deletions : RulesetsResponseDeletions) :
    EntityKind → List String
  | .FeatureGate => deletions.feature_gates
  | .DynamicConfig => deletions.dynamic_configs
  | .LayerConfig => deletions.layer_configs
  | .ParamStore => deletions.param_stores
  | .Condition => deletions.condition_map

/-- An optional map has nothing under the names. -/
def HasNone {υ : Type} (m : Option (HashMap String υ)) (names : List String) : Prop :=
  ∀ name ∈ names, ∀ entries, m = some entries → name ∉ entries.map Prod.fst

/-- The deletions name what the old version has and the new one does not have, and no entry
of the top level maps of the new version. -/
structure Deletes (old new : SpecsResponseFull) (deletions : RulesetsResponseDeletions) :
    Prop where
  entities : ∀ kind name, name ∈ deletions.names kind →
    lookup old kind name ≠ none ∧ lookup new kind name = none
  experiment_to_layer : HasNone (some new.experiment_to_layer) deletions.experiment_to_layer
  sdk_configs : HasNone new.sdk_configs deletions.sdk_configs
  cmab_configs : HasNone new.cmab_configs deletions.cmab_configs
  override_rules : HasNone new.override_rules deletions.override_rules
  overrides : HasNone new.overrides deletions.overrides

structure DeletionsEnvelope (decoders : Decoders) (old new : SpecsResponseFull)
    (env : SpecsEnvelope) (deletions : RulesetsResponseDeletions) : Prop where
  of_kind : SpecsEnvelopeKind.try_from env.kind = some .Deletions
  decodable : ∃ data, env.data = some data ∧ decoders.deletions data = .ok deletions
  deletes : Deletes old new deletions

theorem handle_top_level_envelope {decoders : Decoders} {existing new : SpecsResponseFull}
    {env : SpecsEnvelope} (h : TopLevelEnvelope decoders new env) (next : SpecsResponseFull) :
    ∃ after, handle_envelope decoders existing next env = .go_on after ∧
      (∀ kind name, lookup after kind name = lookup next kind name) ∧
      after.top_level = new.top_level := by
  obtain ⟨hkind, data, top_level, rest, hdata, htop, hrest, hnew⟩ := h
  refine ⟨{ next.merge_from_partial rest with
    checksum := some top_level.checksum
    time := top_level.time
    has_updates := top_level.has_updates
    response_format := some top_level.response_format
    company_id := some top_level.company_id }, ?_, ?_, hnew.symm⟩
  · unfold handle_envelope
    simp [hkind, SpecsResponseFull.handle_top_level_update, hdata, validate_envelope_data, htop,
      SpecsResponseFull.populate_top_level_from_envelope, hrest, consume_errors, bind,
      Except.bind, Except.mapError]
  · intro kind name
    cases kind with
    | _ => rfl

theorem get_remove_from_map {κ υ : Type} [DecidableEq κ] (m : HashMap κ υ) (names : List κ)
    (k : κ) : (remove_from_map m names).get k = if k ∈ names then none else m.get k := by
  unfold remove_from_map
  induction names generalizing m with
  | nil => simp
  | cons name names ih =>
    rw [List.foldl_cons, ih, HashMap.get_remove]
    by_cases hmem : k ∈ names
    · simp [hmem]
    · by_cases hk : k = name
      · simp [hk]
      · simp [hmem, hk]

theorem remove_from_map_of_none {κ υ : Type} [DecidableEq κ] {m : HashMap κ υ} {names : List κ}
    (h : ∀ name ∈ names, name ∉ m.map Prod.fst) : remove_from_map m names = m := by
  unfold remove_from_map
  induction names with
  | nil => rfl
  | cons name names ih =>
    have hsame : m.remove name = m := by
      refine List.filter_eq_self.mpr fun entry hentry => ?_
      have hne : entry.1 ≠ name := fun heq =>
        h name List.mem_cons_self (heq ▸ List.mem_map_of_mem hentry)
      simpa using hne
    rw [List.foldl_cons, hsame]
    exact ih fun other hother => h other (List.mem_cons_of_mem name hother)

theorem remove_from_opt_map_of_none {υ : Type} {m : Option (HashMap String υ)}
    {names : List String} (h : HasNone m names) : remove_from_opt_map m names = m := by
  cases m with
  | none => rfl
  | some entries =>
    exact congrArg some (remove_from_map_of_none fun name hname => h name hname entries rfl)

theorem lookup_apply_deletions (next : SpecsResponseFull) (deletions : RulesetsResponseDeletions)
    (kind : EntityKind) (name : String) :
    lookup (next.apply_deletions deletions) kind name =
      if name ∈ deletions.names kind then none else lookup next kind name := by
  have hmap : ∀ {α : Type} (m : HashMap String α) (names : List String) (f : α → Entity),
      ((remove_from_map m names).get name).map f =
        if name ∈ names then none else (m.get name).map f := by
    intro α m names f
    rw [get_remove_from_map]
    split
    · rfl
    · rfl
  cases kind with
  | FeatureGate => exact hmap next.feature_gates deletions.feature_gates .Spec
  | DynamicConfig => exact hmap next.dynamic_configs deletions.dynamic_configs .Spec
  | LayerConfig => exact hmap next.layer_configs deletions.layer_configs .Spec
  | Condition => exact hmap next.condition_map deletions.condition_map .Condition
  | ParamStore =>
    unfold lookup SpecsResponseFull.apply_deletions remove_from_opt_map
    cases next.param_stores with
    | none => simp
    | some param_stores => exact hmap param_stores deletions.param_stores .ParamStore

/-- Deletions take the named entities away, and no top level field of the new version. -/
theorem handle_deletions_envelope {decoders : Decoders} {existing old new : SpecsResponseFull}
    {env : SpecsEnvelope} {deletions : RulesetsResponseDeletions}
    (h : DeletionsEnvelope decoders old new env deletions) (next : SpecsResponseFull) :
    ∃ after, handle_envelope decoders existing next env = .go_on after ∧
      (∀ kind name, lookup after kind name =
        if name ∈ deletions.names kind then none else lookup next kind name) ∧
      (next.top_level = new.top_level → after.top_level = new.top_level) := by
  obtain ⟨hkind, ⟨data, hdata, hdecode⟩, hdeletes⟩ := h
  refine ⟨next.apply_deletions deletions, ?_, lookup_apply_deletions next deletions, ?_⟩
  · unfold handle_envelope
    simp [hkind, SpecsResponseFull.handle_deletions_update, hdata, validate_envelope_data,
      hdecode, consume_errors, bind, Except.bind, Except.mapError]
  · intro htop
    have hrest : next.toSpecsResponsePartial = new.toSpecsResponsePartial :=
      congrArg TopLevel.rest htop
    have hlayers : remove_from_map next.experiment_to_layer deletions.experiment_to_layer =
        next.experiment_to_layer := by
      refine remove_from_map_of_none fun name hname => ?_
      rw [hrest]
      exact hdeletes.experiment_to_layer name hname _ rfl
    have hsdk : remove_from_opt_map next.sdk_configs deletions.sdk_configs = next.sdk_configs :=
      remove_from_opt_map_of_none (by rw [hrest]; exact hdeletes.sdk_configs)
    have hcmab : remove_from_opt_map next.cmab_configs deletions.cmab_configs =
        next.cmab_configs :=
      remove_from_opt_map_of_none (by rw [hrest]; exact hdeletes.cmab_configs)
    have hrules : remove_from_opt_map next.override_rules deletions.override_rules =
        next.override_rules :=
      remove_from_opt_map_of_none (by rw [hrest]; exact hdeletes.override_rules)
    have hoverrides : remove_from_opt_map next.overrides deletions.overrides = next.overrides :=
      remove_from_opt_map_of_none (by rw [hrest]; exact hdeletes.overrides)
    rw [← htop]
    unfold SpecsResponseFull.apply_deletions SpecsResponseFull.top_level
    rw [hlayers, hsdk, hcmab, hrules, hoverrides]

/-! ## The envelopes of a stream -/

/-- An envelope of a stream that leads from an old version to a new one. -/
inductive DeltaEnvelope (decoders : Decoders) (old new : SpecsResponseFull) (env : SpecsEnvelope) :
    Prop where
  | entity (kind : EntityKind) (entity : Entity)
      (h : EntityEnvelope decoders old new kind env entity)
  | top_level (h : TopLevelEnvelope decoders new env)
  | deletions (deletions : RulesetsResponseDeletions)
      (h : DeletionsEnvelope decoders old new env deletions)

/-- The envelope says what becomes of the entity under the name. -/
def Touches (decoders : Decoders) (env : SpecsEnvelope) (kind : EntityKind) (name : String) :
    Prop :=
  (SpecsEnvelopeKind.try_from env.kind = some (.of_entity kind) ∧ env.name = name) ∨
    (SpecsEnvelopeKind.try_from env.kind = some .Deletions ∧
      ∃ data deletions, env.data = some data ∧ decoders.deletions data = .ok deletions ∧
        name ∈ deletions.names kind)

/-- The entities that an envelope says something about are those of the new version, and the
others stay. -/
def MovesTo (new next after : SpecsResponseFull) (touched : EntityKind → String → Prop) : Prop :=
  ∀ kind name, (touched kind name → lookup after kind name = lookup new kind name) ∧
    (¬ touched kind name → lookup after kind name = lookup next kind name)

theorem of_entity_injective {kind other : EntityKind}
    (h : SpecsEnvelopeKind.of_entity kind = .of_entity other) : kind = other := by
  cases kind <;> cases other <;> first | rfl | nomatch h

theorem of_entity_ne_deletions (kind : EntityKind) :
    SpecsEnvelopeKind.of_entity kind ≠ .Deletions := by
  cases kind <;> decide

section

variable (decoders : Decoders) {old new : SpecsResponseFull}

/-- One envelope of the stream, whatever came before it. -/
theorem handle_delta_envelope {env : SpecsEnvelope}
    (hpreloaded : SameChecksumSameEntity (preloaded decoders) (lookup new))
    (hold : SameChecksumSameEntity (lookup old) (lookup new))
    (h : DeltaEnvelope decoders old new env) (next : SpecsResponseFull) :
    ∃ after, handle_envelope decoders old next env = .go_on after ∧
      MovesTo new next after (Touches decoders env) ∧
      (next.top_level = new.top_level ∨ TopLevelEnvelope decoders new env →
        after.top_level = new.top_level) := by
  cases h with
  | entity kind entity h =>
    obtain ⟨after, hturn, hlookup, htop⟩ :=
      handle_entity_envelope decoders hpreloaded hold h next
    refine ⟨after, hturn, fun k n => ⟨?_, fun hnot => ?_⟩, ?_⟩
    · rintro (⟨hkind, rfl⟩ | ⟨hkind, -⟩)
      · have hk : kind = k := of_entity_injective (Option.some.inj (h.of_kind.symm.trans hkind))
        subst hk
        rw [hlookup, if_pos ⟨rfl, rfl⟩, h.of_new]
      · exact absurd (Option.some.inj (h.of_kind.symm.trans hkind)) (of_entity_ne_deletions kind)
    · rw [hlookup, if_neg]
      rintro ⟨rfl, rfl⟩
      exact hnot (.inl ⟨h.of_kind, rfl⟩)
    · rintro (hnext | htoplevel)
      · rw [htop, hnext]
      · have hkinds := h.of_kind.symm.trans htoplevel.of_kind
        cases kind <;> nomatch hkinds
  | top_level h =>
    obtain ⟨after, hturn, hlookup, htop⟩ := handle_top_level_envelope h next
    refine ⟨after, hturn, fun k n => ⟨?_, fun _ => hlookup k n⟩, fun _ => htop⟩
    rintro (⟨hkind, -⟩ | ⟨hkind, -⟩)
    · have hkinds := h.of_kind.symm.trans hkind
      cases k <;> nomatch hkinds
    · nomatch h.of_kind.symm.trans hkind
  | deletions deletions h =>
    obtain ⟨after, hturn, hlookup, htop⟩ := handle_deletions_envelope h next
    obtain ⟨data, hdata, hdecode⟩ := h.decodable
    refine ⟨after, hturn, fun k n => ⟨?_, fun hnot => ?_⟩, ?_⟩
    · rintro (⟨hkind, -⟩ | ⟨-, data', deletions', hdata', hdecode', hname⟩)
      · exact absurd (Option.some.inj (h.of_kind.symm.trans hkind)).symm
          (of_entity_ne_deletions k)
      · rw [hdata] at hdata'
        cases hdata'
        rw [hdecode] at hdecode'
        cases hdecode'
        rw [hlookup, if_pos hname, (h.deletes.entities k n hname).2]
    · rw [hlookup, if_neg]
      exact fun hname => hnot (.inr ⟨h.of_kind, data, deletions, hdata, hdecode, hname⟩)
    · rintro (hnext | htoplevel)
      · exact htop hnext
      · nomatch h.of_kind.symm.trans htoplevel.of_kind

/-- The turns of the loop for some envelopes, none of which ends it. -/
def handle_envelopes (current_specs : SpecsResponseFull) :
    List SpecsEnvelope → SpecsResponseFull → Option SpecsResponseFull
  | [], next_specs => some next_specs
  | env :: envs, next_specs =>
    match handle_envelope decoders current_specs next_specs env with
    | .go_on next_specs => handle_envelopes current_specs envs next_specs
    | .done => none
    | .fail _ => none

/-- All the envelopes of the stream, in any order. -/
theorem handle_delta_envelopes {envs : List SpecsEnvelope}
    (hpreloaded : SameChecksumSameEntity (preloaded decoders) (lookup new))
    (hold : SameChecksumSameEntity (lookup old) (lookup new))
    (h : ∀ env ∈ envs, DeltaEnvelope decoders old new env) (next : SpecsResponseFull) :
    ∃ after, handle_envelopes decoders old envs next = some after ∧
      MovesTo new next after (fun kind name => ∃ env ∈ envs, Touches decoders env kind name) ∧
      ((next.top_level = new.top_level ∨ ∃ env ∈ envs, TopLevelEnvelope decoders new env) →
        after.top_level = new.top_level) := by
  induction envs generalizing next with
  | nil =>
    refine ⟨next, rfl, fun kind name => ⟨?_, fun _ => rfl⟩, ?_⟩
    · rintro ⟨env, hmem, -⟩
      nomatch hmem
    · rintro (hnext | ⟨env, hmem, -⟩)
      · exact hnext
      · nomatch hmem
  | cons env envs ih =>
    obtain ⟨middle, hturn, hmoves, htop⟩ :=
      handle_delta_envelope decoders hpreloaded hold (h env List.mem_cons_self) next
    obtain ⟨after, hrest, hmoves', htop'⟩ :=
      ih (fun env henv => h env (List.mem_cons_of_mem _ henv)) middle
    refine ⟨after, ?_, fun kind name => ⟨?_, fun hnot => ?_⟩, ?_⟩
    · rw [handle_envelopes, hturn]
      exact hrest
    · rintro ⟨touching, hmem, htouches⟩
      by_cases hlater : ∃ env ∈ envs, Touches decoders env kind name
      · exact (hmoves' kind name).1 hlater
      · rw [(hmoves' kind name).2 hlater]
        rcases List.mem_cons.mp hmem with rfl | hmem
        · exact (hmoves kind name).1 htouches
        · exact absurd ⟨touching, hmem, htouches⟩ hlater
    · rw [(hmoves' kind name).2, (hmoves kind name).2]
      · exact fun htouches => hnot ⟨env, List.mem_cons_self, htouches⟩
      · rintro ⟨touching, hmem, htouches⟩
        exact hnot ⟨touching, List.mem_cons_of_mem _ hmem, htouches⟩
    · rintro (hnext | ⟨toplevel, hmem, htoplevel⟩)
      · exact htop' (.inl (htop (.inl hnext)))
      · rcases List.mem_cons.mp hmem with rfl | hmem
        · exact htop' (.inl (htop (.inr htoplevel)))
        · exact htop' (.inr ⟨toplevel, hmem, htoplevel⟩)

end

end statsig_rust.specs_response
