-- What a body reads as beside different current specs. An entity is taken from the current specs
-- when its checksum is the one of its envelope, so the checksums have to tell the entities.
import StatsigCore.SpecsResponse.Rebuild

namespace statsig_rust.specs_response

/-! ## The envelopes of a body -/

/-- The envelopes that the loop comes to before `Done`, in so many turns. -/
def envelopes (decoders : Decoders) : Nat → ProtoStreamReader → List SpecsEnvelope
  | 0, _ => []
  | turns + 1, reader =>
    match read_next_delimited_proto decoders.prost decoders.overflow_checks reader with
    | (.err _, _) => []
    | (.panic, _) => []
    | (.ok proto_msg_bytes, reader) =>
      match decoders.envelope proto_msg_bytes with
      | .error _ => envelopes decoders turns reader
      | .ok env =>
        if SpecsEnvelopeKind.try_from env.kind = some .Done then []
        else env :: envelopes decoders turns reader

/-- What a checksum says of an entity of a kind and a name. -/
abbrev Content := EntityKind → String → String → Entity

/-- The entities are what their checksums say. -/
def Tells (content : Content) (entities : EntityKind → String → Option Entity) : Prop :=
  ∀ kind name entity checksum, entities kind name = some entity →
    entity.checksum = some checksum → entity = content kind name checksum

/-- The entity in the data of an envelope is what the checksum of the envelope says. -/
def EnvelopeTells (content : Content) (decoders : Decoders) (env : SpecsEnvelope) : Prop :=
  ∀ kind entity, SpecsEnvelopeKind.try_from env.kind = some (.of_entity kind) →
    decode_entity decoders kind env = some entity → entity = content kind env.name env.checksum

/-- The envelope of an entity has it in its data, and none copies the current specs. -/
def SelfContained (decoders : Decoders) (env : SpecsEnvelope) : Prop :=
  SpecsEnvelopeKind.try_from env.kind ≠ some .CopyPrev ∧
    ∀ kind, SpecsEnvelopeKind.try_from env.kind = some (.of_entity kind) →
      decode_entity decoders kind env ≠ none

/-! ## One envelope -/

/-- Where the entity of an envelope comes from. -/
theorem entity_update_cases {α : Type} [HasChecksum α] {tag : String} {env : SpecsEnvelope}
    {preloaded existing : Option α} {decode : Bytes → Except StatsigErr α} {entity : α}
    (h : entity_update tag env preloaded existing decode = .ok entity) :
    (HasChecksum.checksum entity = some env.checksum ∧
        (preloaded = some entity ∨ existing = some entity)) ∨
      ∃ data a, env.data = some data ∧ decode data = .ok a ∧
        entity = HasChecksum.with_checksum env.checksum a := by
  unfold entity_update at h
  split at h
  · next known hknown =>
    cases h
    obtain ⟨hsome, hchecksum⟩ := Option.filter_eq_some_iff.mp hknown
    exact .inl ⟨by simpa using hchecksum, .inl hsome⟩
  · split at h
    · next known hknown =>
      cases h
      obtain ⟨hsome, hchecksum⟩ := Option.filter_eq_some_iff.mp hknown
      exact .inl ⟨by simpa using hchecksum, .inr hsome⟩
    · cases hdata : env.data with
      | none =>
        rw [hdata] at h
        cases h
      | some data =>
        cases hdecode : decode data with
        | error e =>
          rw [hdata] at h
          simp only [validate_envelope_data, bind, Except.bind, hdecode] at h
          cases h
        | ok a =>
          rw [hdata] at h
          simp only [validate_envelope_data, bind, Except.bind, hdecode] at h
          exact .inr ⟨data, a, rfl, hdecode, (Except.ok.inj h).symm⟩

/-- The existing entity makes no difference when the data hold the same one. -/
theorem entity_update_of_data {α : Type} [HasChecksum α] (e : Embedding α) (tag : String)
    {env : SpecsEnvelope} (preloaded existing : Option α)
    {decode : Bytes → Except StatsigErr α} {data : Bytes} {a : α} (hdata : env.data = some data)
    (hdecode : decode data = .ok a)
    (hexisting : ∀ entity, existing = some entity →
      HasChecksum.checksum entity = some env.checksum →
        e.entity entity = e.entity (HasChecksum.with_checksum env.checksum a)) :
    entity_update tag env preloaded existing decode =
      entity_update tag env preloaded none decode := by
  unfold entity_update
  split
  · rfl
  · split
    · next known hknown =>
      obtain ⟨hsome, hchecksum⟩ := Option.filter_eq_some_iff.mp hknown
      have hsame := e.injective _ _ (hexisting known hsome (by simpa using hchecksum))
      rw [hsame, hdata]
      simp only [Option.filter_none, validate_envelope_data, bind, Except.bind, hdecode]
    · rfl

section

variable {content : Content} {decoders : Decoders} {current : SpecsResponseFull}
  {env : SpecsEnvelope}

/-- An entity that the current specs have is the one in the data of the envelope. -/
theorem known_is_decoded (kind : EntityKind) (hcurrent : Tells content (lookup current))
    (htells : EnvelopeTells content decoders env)
    (hkind : SpecsEnvelopeKind.try_from env.kind = some (.of_entity kind)) {known entity : Entity}
    (hknown : lookup current kind env.name = some known)
    (hchecksum : known.checksum = some env.checksum)
    (hentity : decode_entity decoders kind env = some entity) : known = entity :=
  (hcurrent kind env.name known _ hknown hchecksum).trans (htells kind entity hkind hentity).symm

/-- The same for an envelope of a spec. -/
theorem spec_update_of_self_contained {kind : EntityKind} {tag : String}
    {existing_map : HashMap InternedString Spec} (new_map : HashMap InternedString Spec)
    (preload_fetcher : InternedString → Option Spec)
    (hlookup : lookup current kind env.name = (existing_map.get env.name).map .Spec)
    (hdecode : decode_entity decoders kind env = env.data.bind fun data =>
      (decoders.spec data).toOption.map fun spec =>
        .Spec { spec with checksum := some env.checksum })
    (hcurrent : Tells content (lookup current)) (htells : EnvelopeTells content decoders env)
    (hkind : SpecsEnvelopeKind.try_from env.kind = some (.of_entity kind))
    (hself : SelfContained decoders env) :
    handle_individual_spec_update decoders tag env existing_map new_map preload_fetcher =
      handle_individual_spec_update decoders tag env [] new_map preload_fetcher := by
  obtain ⟨entity, hentity⟩ := Option.ne_none_iff_exists'.mp (hself.2 kind hkind)
  obtain ⟨data, a, hdata, ha, rfl⟩ := decoded_data spec_entity (hdecode.symm.trans hentity)
  have hupdate := entity_update_of_data spec_entity tag (preload_fetcher env.name)
    (existing_map.get env.name) hdata ha fun spec hspec hchecksum =>
      known_is_decoded kind hcurrent htells hkind (by rw [hlookup, hspec]; rfl) hchecksum hentity
  unfold handle_individual_spec_update
  rw [hupdate]
  rfl

/-- An envelope that is self-contained does the same beside any current specs. -/
theorem handle_envelope_of_self_contained (hcurrent : Tells content (lookup current))
    (htells : EnvelopeTells content decoders env) (hself : SelfContained decoders env)
    (next : SpecsResponseFull) :
    handle_envelope decoders current next env = handle_envelope decoders {} next env := by
  unfold handle_envelope
  cases hkind : SpecsEnvelopeKind.try_from env.kind with
  | none => rfl
  | some kind =>
    cases kind with
    | FeatureGate =>
      simp only [SpecsResponseFull.handle_feature_gate_update]
      rw [@spec_update_of_self_contained content decoders current env .FeatureGate "FeatureGate"
        current.feature_gates _ _ rfl rfl hcurrent htells hkind hself]
    | DynamicConfig =>
      simp only [SpecsResponseFull.handle_dynamic_config_update]
      rw [@spec_update_of_self_contained content decoders current env .DynamicConfig
        "DynamicConfig" current.dynamic_configs _ _ rfl rfl hcurrent htells hkind hself]
    | LayerConfig =>
      simp only [SpecsResponseFull.handle_layer_config_update]
      rw [@spec_update_of_self_contained content decoders current env .LayerConfig "LayerConfig"
        current.layer_configs _ _ rfl rfl hcurrent htells hkind hself]
    | ParamStore =>
      obtain ⟨entity, hentity⟩ := Option.ne_none_iff_exists'.mp (hself.2 .ParamStore hkind)
      obtain ⟨data, a, hdata, ha, rfl⟩ := decoded_data param_store_entity hentity
      have hparam_store : (decoders.param_store data).mapError
          (map_serde_json_err "ParameterStore") = .ok a := by
        rw [ha]
        rfl
      have hupdate := @entity_update_of_data _ _ param_store_entity "ParamStore" env none
        (current.param_stores.bind fun param_stores => param_stores.get env.name)
        (fun data => (decoders.param_store data).mapError (map_serde_json_err "ParameterStore"))
        data a hdata hparam_store fun param_store hstore hchecksum =>
          known_is_decoded .ParamStore hcurrent htells hkind
            (congrArg (Option.map Entity.ParamStore) hstore) hchecksum hentity
      simp only [SpecsResponseFull.handle_param_store_update, hupdate]
      rfl
    | Condition =>
      obtain ⟨entity, hentity⟩ := Option.ne_none_iff_exists'.mp (hself.2 .Condition hkind)
      obtain ⟨data, a, hdata, ha, rfl⟩ := decoded_data condition_entity hentity
      have hupdate := entity_update_of_data condition_entity "Condition" none
        (current.condition_map.get env.name) hdata ha fun condition hcondition hchecksum =>
          known_is_decoded .Condition hcurrent htells hkind
            (congrArg (Option.map Entity.Condition) hcondition) hchecksum hentity
      simp only [SpecsResponseFull.handle_condition_update, hupdate]
      rfl
    | CopyPrev => exact absurd hkind hself.1
    | Unknown => rfl
    | Done => rfl
    | TopLevel => rfl
    | Deletions => rfl
    | Checksums => rfl

/-! ## What the next specs are told -/

theorem Tells.insert {next after : SpecsResponseFull} {kind : EntityKind} {name : String}
    {entity : Entity} (h : Tells content (lookup next))
    (hinserts : Inserts next after kind name entity)
    (hentity : ∀ checksum, entity.checksum = some checksum → entity = content kind name checksum) :
    Tells content (lookup after) := by
  intro k n known checksum hknown hchecksum
  rw [hinserts.1] at hknown
  split at hknown
  · next hsame =>
    obtain ⟨rfl, rfl⟩ := hsame
    cases hknown
    exact hentity checksum hchecksum
  · exact h k n known checksum hknown hchecksum

/-- The entity that an envelope stands for. -/
theorem entity_update_tells {α : Type} [HasChecksum α] (e : Embedding α) {kind : EntityKind}
    {tag : String} {preloaded existing : Option α} {decode : Bytes → Except StatsigErr α}
    {entity : α} (hkind : SpecsEnvelopeKind.try_from env.kind = some (.of_entity kind))
    (htells : EnvelopeTells content decoders env)
    (hwith : ∀ a : α, HasChecksum.checksum (HasChecksum.with_checksum env.checksum a) =
      some env.checksum)
    (hpreloaded : ∀ known checksum, preloaded = some known →
      (e.entity known).checksum = some checksum → e.entity known = content kind env.name checksum)
    (hexisting : ∀ known checksum, existing = some known →
      (e.entity known).checksum = some checksum → e.entity known = content kind env.name checksum)
    (hdecode : ∀ data a, env.data = some data → decode data = .ok a →
      decode_entity decoders kind env =
        some (e.entity (HasChecksum.with_checksum env.checksum a)))
    (h : entity_update tag env preloaded existing decode = .ok entity) (checksum : String)
    (hchecksum : (e.entity entity).checksum = some checksum) :
    e.entity entity = content kind env.name checksum := by
  rcases entity_update_cases h with ⟨-, hknown | hknown⟩ | ⟨data, a, hdata, ha, rfl⟩
  · exact hpreloaded entity checksum hknown hchecksum
  · exact hexisting entity checksum hknown hchecksum
  · have hsame : env.checksum = checksum := by
      rw [e.checksum_eq, hwith] at hchecksum
      exact Option.some.inj hchecksum
    rw [← hsame]
    exact htells kind _ hkind (hdecode data a hdata ha)

/-- What the specs have under a name is told. -/
theorem Tells.found {α : Type} {entities : EntityKind → String → Option Entity}
    (h : Tells content entities) {kind : EntityKind} {name : String} {entity : α → Entity}
    {found : Option α} (hfound : entities kind name = found.map entity) (known : α)
    (checksum : String) (hknown : found = some known)
    (hchecksum : (entity known).checksum = some checksum) :
    entity known = content kind name checksum :=
  h kind name _ checksum (by rw [hfound, hknown, Option.map_some]) hchecksum

theorem bind_eq_ok {ε α β : Type} {x : Except ε α} {f : α → Except ε β} {b : β}
    (h : x >>= f = .ok b) : ∃ a, x = .ok a ∧ f a = .ok b := by
  cases x with
  | error e => cases h
  | ok a => exact ⟨a, rfl, h⟩

/-- The map of specs that an envelope leaves. -/
theorem spec_update_tells {kind : EntityKind} {tag : String}
    {existing_map new_map after_map : HashMap InternedString Spec}
    {preload_fetcher : InternedString → Option Spec}
    (hkind : SpecsEnvelopeKind.try_from env.kind = some (.of_entity kind))
    (hpreloaded : Tells content (preloaded decoders)) (hcurrent : Tells content (lookup current))
    (htells : EnvelopeTells content decoders env)
    (hpreload : preloaded decoders kind env.name = (preload_fetcher env.name).map .Spec)
    (hlookup : lookup current kind env.name = (existing_map.get env.name).map .Spec)
    (hdecode : decode_entity decoders kind env = env.data.bind fun data =>
      (decoders.spec data).toOption.map fun spec =>
        .Spec { spec with checksum := some env.checksum })
    (h : handle_individual_spec_update decoders tag env existing_map new_map preload_fetcher =
      .ok after_map) :
    ∃ spec, after_map = new_map.insert env.name spec ∧ ∀ checksum,
      (Entity.Spec spec).checksum = some checksum →
        Entity.Spec spec = content kind env.name checksum := by
  obtain ⟨spec, hupdate, hafter⟩ := bind_eq_ok h
  refine ⟨spec, (Except.ok.inj hafter).symm, ?_⟩
  refine entity_update_tells spec_entity hkind htells (fun _ => rfl) (hpreloaded.found hpreload)
    (hcurrent.found hlookup) ?_ hupdate
  intro data a hdata ha
  rw [hdecode, hdata, Option.bind_some, ha]
  rfl

/-- An update that fails leaves the next specs. -/
theorem consume_errors_tells {next : SpecsResponseFull}
    {result : Except StatsigErr SpecsResponseFull} (hnext : Tells content (lookup next))
    (h : ∀ after, result = .ok after → Tells content (lookup after)) :
    Tells content (lookup (consume_errors next result)) := by
  cases result with
  | error e => exact hnext
  | ok after => exact h after rfl

theorem top_level_update_tells {next after : SpecsResponseFull}
    (hnext : Tells content (lookup next))
    (h : next.handle_top_level_update decoders env = .ok after) :
    Tells content (lookup after) := by
  obtain ⟨data, -, hafter⟩ := bind_eq_ok h
  obtain ⟨top_level, -, hafter⟩ := bind_eq_ok hafter
  obtain ⟨rest, -, hafter⟩ := bind_eq_ok hafter
  cases hafter
  intro kind name
  have hsame := hnext kind name
  cases kind with
  | _ => exact hsame

theorem deletions_update_tells {next after : SpecsResponseFull}
    (hnext : Tells content (lookup next))
    (h : next.handle_deletions_update decoders env = .ok after) :
    Tells content (lookup after) := by
  obtain ⟨data, -, hafter⟩ := bind_eq_ok h
  obtain ⟨deletions, -, hafter⟩ := bind_eq_ok hafter
  cases hafter
  intro kind name entity checksum hentity
  rw [lookup_apply_deletions] at hentity
  split at hentity
  · cases hentity
  · exact hnext kind name entity checksum hentity

theorem copy_prev_update_tells {next after : SpecsResponseFull}
    (hcurrent : Tells content (lookup current))
    (h : next.handle_copy_prev_update current = .ok after) : Tells content (lookup after) := by
  obtain ⟨rest, -, hafter⟩ := bind_eq_ok h
  cases hafter
  intro kind name
  have hsame := hcurrent kind name
  cases kind with
  | _ => exact hsame

theorem param_store_update_tells (hcurrent : Tells content (lookup current))
    (htells : EnvelopeTells content decoders env)
    (hkind : SpecsEnvelopeKind.try_from env.kind = some .ParamStore)
    {next after : SpecsResponseFull} (hnext : Tells content (lookup next))
    (h : next.handle_param_store_update decoders current env = .ok after) :
    Tells content (lookup after) := by
  obtain ⟨param_store, hupdate, hafter⟩ := bind_eq_ok h
  cases hafter
  refine hnext.insert (inserts_param_store next env.name param_store) ?_
  refine @entity_update_tells content decoders env _ _ param_store_entity .ParamStore _ _ _ _ _
    hkind htells (fun _ => rfl) ?_ ?_ ?_ hupdate
  · intro known checksum hnone
    cases hnone
  · exact @Tells.found content _ _ hcurrent .ParamStore env.name _ _ rfl
  · intro data a hdata ha
    unfold decode_entity
    rw [hdata, Option.bind_some]
    cases hdecode : decoders.param_store data with
    | error e =>
      rw [hdecode] at ha
      cases ha
    | ok b =>
      rw [hdecode] at ha
      cases ha
      rfl

theorem condition_update_tells (hcurrent : Tells content (lookup current))
    (htells : EnvelopeTells content decoders env)
    (hkind : SpecsEnvelopeKind.try_from env.kind = some .Condition)
    {next after : SpecsResponseFull} (hnext : Tells content (lookup next))
    (h : next.handle_condition_update decoders current env = .ok after) :
    Tells content (lookup after) := by
  obtain ⟨condition, hupdate, hafter⟩ := bind_eq_ok h
  cases hafter
  refine hnext.insert (inserts_condition next env.name condition) ?_
  refine @entity_update_tells content decoders env _ _ condition_entity .Condition _ _ _ _ _
    hkind htells (fun _ => rfl) ?_ ?_ ?_ hupdate
  · intro known checksum hnone
    cases hnone
  · exact @Tells.found content _ _ hcurrent .Condition env.name _ _ rfl
  · intro data a hdata ha
    unfold decode_entity
    rw [hdata, Option.bind_some]
    dsimp only
    rw [ha]
    rfl

/-- An envelope adds to the next specs what its checksum says. -/
theorem handle_envelope_tells (hpreloaded : Tells content (preloaded decoders))
    (hcurrent : Tells content (lookup current)) (htells : EnvelopeTells content decoders env)
    {next after : SpecsResponseFull} (hnext : Tells content (lookup next))
    (h : handle_envelope decoders current next env = .go_on after) :
    Tells content (lookup after) := by
  unfold handle_envelope at h
  split at h
  · cases h
    exact hnext
  · cases h
  · cases h
    exact consume_errors_tells hnext fun after hafter => top_level_update_tells hnext hafter
  · next hkind =>
    cases h
    refine consume_errors_tells hnext fun after hafter => ?_
    obtain ⟨feature_gates, hgates, hafter⟩ := bind_eq_ok hafter
    cases hafter
    obtain ⟨spec, rfl, htold⟩ := @spec_update_tells content decoders current env .FeatureGate _ _ _
      _ _ hkind hpreloaded hcurrent htells rfl rfl rfl hgates
    exact hnext.insert (inserts_feature_gate next env.name spec) htold
  · next hkind =>
    cases h
    refine consume_errors_tells hnext fun after hafter => ?_
    obtain ⟨dynamic_configs, hconfigs, hafter⟩ := bind_eq_ok hafter
    cases hafter
    obtain ⟨spec, rfl, htold⟩ := @spec_update_tells content decoders current env .DynamicConfig _ _
      _ _ _ hkind hpreloaded hcurrent htells rfl rfl rfl hconfigs
    exact hnext.insert (inserts_dynamic_config next env.name spec) htold
  · next hkind =>
    cases h
    refine consume_errors_tells hnext fun after hafter => ?_
    obtain ⟨layer_configs, hlayers, hafter⟩ := bind_eq_ok hafter
    cases hafter
    obtain ⟨spec, rfl, htold⟩ := @spec_update_tells content decoders current env .LayerConfig _ _ _
      _ _ hkind hpreloaded hcurrent htells rfl rfl rfl hlayers
    exact hnext.insert (inserts_layer_config next env.name spec) htold
  · next hkind =>
    cases h
    exact consume_errors_tells hnext fun after hafter =>
      param_store_update_tells hcurrent htells hkind hnext hafter
  · next hkind =>
    cases h
    exact consume_errors_tells hnext fun after hafter =>
      condition_update_tells hcurrent htells hkind hnext hafter
  · cases h
    exact consume_errors_tells hnext fun after hafter => deletions_update_tells hnext hafter
  · split at h
    · cases h
      exact hnext
    · cases h
  · cases h
    exact consume_errors_tells hnext fun after hafter => copy_prev_update_tells hcurrent hafter
  · cases h

end

/-! ## A whole body -/

section

variable {content : Content} {decoders : Decoders} {current : SpecsResponseFull}

/-- The loop goes by the envelopes alone, when each of them does the same beside no specs. -/
theorem read_envelopes_of_self_contained (hcurrent : Tells content (lookup current))
    {turns : Nat} {reader : ProtoStreamReader}
    (h : ∀ env ∈ envelopes decoders turns reader,
      EnvelopeTells content decoders env ∧ SelfContained decoders env)
    (next : SpecsResponseFull) :
    read_envelopes decoders current turns reader next =
      read_envelopes decoders {} turns reader next := by
  induction turns generalizing reader next with
  | zero => rfl
  | succ turns ih =>
    rw [read_envelopes, read_envelopes]
    rw [envelopes] at h
    rcases hmessage : read_next_delimited_proto decoders.prost decoders.overflow_checks reader with
      ⟨bytes | e | _, later⟩
    · rw [hmessage] at h
      dsimp only at h ⊢
      cases hdecode : decoders.envelope bytes with
      | error e =>
        rw [hdecode] at h
        exact ih h next
      | ok env =>
        rw [hdecode] at h
        dsimp only at h ⊢
        by_cases hdone : SpecsEnvelopeKind.try_from env.kind = some .Done
        · have hturn : ∀ specs, handle_envelope decoders specs next env = .done := by
            intro specs
            unfold handle_envelope
            rw [hdone]
          rw [hturn, hturn]
        · rw [if_neg hdone] at h
          obtain ⟨htells, hself⟩ := h env List.mem_cons_self
          rw [handle_envelope_of_self_contained hcurrent htells hself]
          cases handle_envelope decoders {} next env with
          | done => rfl
          | fail e => rfl
          | go_on after => exact ih (fun env hmem => h env (List.mem_cons_of_mem _ hmem)) after
    · rfl
    · rfl

/-- The loop ends with specs that are what their checksums say. -/
theorem read_envelopes_tells (hpreloaded : Tells content (preloaded decoders))
    (hcurrent : Tells content (lookup current)) {turns : Nat} {reader : ProtoStreamReader}
    (h : ∀ env ∈ envelopes decoders turns reader, EnvelopeTells content decoders env)
    {next values : SpecsResponseFull} (hnext : Tells content (lookup next))
    (hread : read_envelopes decoders current turns reader next = .ok values) :
    Tells content (lookup values) := by
  induction turns generalizing reader next with
  | zero => cases hread
  | succ turns ih =>
    rw [read_envelopes] at hread
    rw [envelopes] at h
    rcases hmessage : read_next_delimited_proto decoders.prost decoders.overflow_checks reader with
      ⟨bytes | e | _, later⟩
    · rw [hmessage] at h hread
      dsimp only at h hread
      cases hdecode : decoders.envelope bytes with
      | error e =>
        rw [hdecode] at h hread
        exact ih h hnext hread
      | ok env =>
        rw [hdecode] at h hread
        dsimp only at h hread
        cases hturn : handle_envelope decoders current next env with
        | done =>
          rw [hturn] at hread
          cases hread
          exact hnext
        | fail e =>
          rw [hturn] at hread
          cases hread
        | go_on after =>
          rw [hturn] at hread
          have hgoes : ¬ SpecsEnvelopeKind.try_from env.kind = some .Done := by
            intro hdone
            unfold handle_envelope at hturn
            rw [hdone] at hturn
            cases hturn
          rw [if_neg hgoes] at h
          have hafter := handle_envelope_tells hpreloaded hcurrent (h env List.mem_cons_self) hnext
            hturn
          exact ih (fun env hmem => h env (List.mem_cons_of_mem _ hmem)) hafter hread
    · rw [hmessage] at hread
      cases hread
    · rw [hmessage] at hread
      cases hread

/-- The envelopes of messages with `Done` at their end. -/
theorem mem_of_mem_envelopes {turns : Nat} {messages : List Message} {envs : List SpecsEnvelope}
    {reader : ProtoStreamReader} {rest : Bytes} {env : SpecsEnvelope}
    (hmessages : (messages.map fun message => decoders.envelope message.delimited) =
      (envs ++ [done]).map .ok)
    (hpending : reader.pending = (messages.map Message.delimited).flatten ++ rest)
    (h : env ∈ envelopes decoders turns reader) : env ∈ envs := by
  induction turns generalizing messages envs reader with
  | zero => cases h
  | succ turns ih =>
    cases messages with
    | nil => cases envs <;> cases hmessages
    | cons message messages =>
      rw [List.map_cons, List.flatten_cons, List.append_assoc] at hpending
      obtain ⟨later, hread, hlater, -⟩ :=
        read_next_message decoders.prost decoders.overflow_checks hpending
      rw [envelopes, hread] at h
      dsimp only at h
      cases envs with
      | nil =>
        have hdecode : decoders.envelope message.delimited = .ok done :=
          (List.cons.inj hmessages).1
        rw [hdecode] at h
        cases h
      | cons first envs =>
        have hdecode : decoders.envelope message.delimited = .ok first :=
          (List.cons.inj hmessages).1
        rw [hdecode] at h
        dsimp only at h
        split at h
        · cases h
        · rcases List.mem_cons.mp h with rfl | hmem
          · exact List.mem_cons_self
          · exact List.mem_cons_of_mem _ (ih (List.cons.inj hmessages).2 hlater hmem)

/-- The envelopes of a stream with `Done` at its end. -/
theorem mem_of_mem_stream {turns : Nat} {chunks : List Chunk} {envs : List SpecsEnvelope}
    {env : SpecsEnvelope} (hstream : StreamOf decoders chunks (envs ++ [done]))
    (h : env ∈ envelopes decoders turns ⟨source_of chunks, []⟩) : env ∈ envs := by
  obtain ⟨messages, hmessages, hbytes⟩ := hstream
  have hpending : ProtoStreamReader.pending ⟨source_of chunks, []⟩ =
      (messages.map Message.delimited).flatten ++ [] := by
    rw [ProtoStreamReader.pending, delivered_source_of, hbytes, List.append_nil]
    rfl
  exact mem_of_mem_envelopes hmessages hpending h

theorem no_specs_tell (content : Content) : Tells content (lookup {}) := by
  intro kind name entity checksum hentity
  cases kind with
  | _ => cases hentity

end

end statsig_rust.specs_response
