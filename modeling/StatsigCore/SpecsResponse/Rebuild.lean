-- A whole call of `deserialize_protobuf` on a delta stream, beside one on the full stream of
-- the new version. The streams are bytes that the decompressor hands out in any chunks.
import StatsigCore.SpecsResponse.DeltaStream

namespace statsig_rust.specs_response

/-! ## Streams -/

/-- The chunks are the bytes of messages that decode to the envelopes. -/
def StreamOf (decoders : Decoders) (chunks : List Chunk) (envs : List SpecsEnvelope) : Prop :=
  ∃ messages : List Message,
    (messages.map fun message => decoders.envelope message.delimited) = envs.map .ok ∧
      (chunks.map Chunk.bytes).flatten = (messages.map Message.delimited).flatten

/-- The envelopes between the first one and `Done` of a stream that leads from an old
version to a new one: the new top level fields, an envelope for every entity that the old
version does not have so, any others for entities of the new version, and deletions of what
the new version does not have. -/
structure DeltaStream (decoders : Decoders) (old new : SpecsResponseFull)
    (envs : List SpecsEnvelope) : Prop where
  each : ∀ env ∈ envs, DeltaEnvelope decoders old new env
  top_level : ∃ env ∈ envs, TopLevelEnvelope decoders new env
  changed : ∀ kind name entity, lookup new kind name = some entity →
    lookup old kind name ≠ some entity → ∃ env ∈ envs, Touches decoders env kind name
  deleted : ∀ kind name, lookup old kind name ≠ none → lookup new kind name = none →
    ∃ env ∈ envs, Touches decoders env kind name

def copy_prev : SpecsEnvelope := { kind := 10 }

def done : SpecsEnvelope := { kind := 1 }

/-- No override rule and no CMAB config has an ID type whose text is a boolean. -/
def ReadsBack (specs : SpecsResponseFull) : Prop :=
  (∀ entry ∈ specs.cmab_configs.getD [], reads_back entry.2.id_type = true) ∧
    ∀ entry ∈ specs.override_rules.getD [], reads_back entry.2.id_type = true

section

variable (decoders : Decoders)

/-- The loop goes over the messages up to `Done`, in as many turns. -/
theorem read_envelopes_done {current_specs next_specs after : SpecsResponseFull}
    {messages : List Message} {envs : List SpecsEnvelope}
    (hmessages : (messages.map fun message => decoders.envelope message.delimited) =
      (envs ++ [done]).map .ok)
    (henvs : handle_envelopes decoders current_specs envs next_specs = some after)
    {reader : ProtoStreamReader} {rest : Bytes}
    (hpending : reader.pending = (messages.map Message.delimited).flatten ++ rest)
    {turns : Nat} (hturns : envs.length < turns) :
    read_envelopes decoders current_specs turns reader next_specs = .ok after := by
  induction envs generalizing messages reader next_specs turns with
  | nil =>
    obtain ⟨turns, rfl⟩ : ∃ t, turns = t + 1 := ⟨turns - 1, by simp at hturns; omega⟩
    obtain ⟨message, messages, rfl⟩ : ∃ message rest, messages = message :: rest := by
      cases messages with
      | nil => cases hmessages
      | cons message messages => exact ⟨message, messages, rfl⟩
    rw [List.map_cons, List.flatten_cons, List.append_assoc] at hpending
    obtain ⟨later, hread, -, -⟩ :=
      read_next_message decoders.prost decoders.overflow_checks hpending
    have hdecode : decoders.envelope message.delimited = .ok done :=
      (List.cons.inj hmessages).1
    have hdone : handle_envelope decoders current_specs next_specs done = .done := rfl
    cases henvs
    rw [read_envelopes, hread]
    dsimp only
    rw [hdecode]
    dsimp only
    rw [hdone]
  | cons env envs ih =>
    obtain ⟨turns, rfl⟩ : ∃ t, turns = t + 1 := ⟨turns - 1, by omega⟩
    obtain ⟨message, messages, rfl⟩ : ∃ message rest, messages = message :: rest := by
      cases messages with
      | nil => cases hmessages
      | cons message messages => exact ⟨message, messages, rfl⟩
    rw [List.map_cons, List.flatten_cons, List.append_assoc] at hpending
    obtain ⟨later, hread, hlater, -⟩ :=
      read_next_message decoders.prost decoders.overflow_checks hpending
    have hdecode : decoders.envelope message.delimited = .ok env :=
      (List.cons.inj hmessages).1
    have hmessages := (List.cons.inj hmessages).2
    rw [read_envelopes, hread]
    dsimp only
    rw [hdecode]
    rw [handle_envelopes] at henvs
    dsimp only
    split at henvs
    · rename_i middle hturn
      rw [hturn]
      exact ih hmessages henvs hlater (by simp only [List.length_cons] at hturns; omega)
    · cases henvs
    · cases henvs

/-- A call on a stream with `Done` at its end. -/
theorem deserialize_stream {current_specs after : SpecsResponseFull} {chunks : List Chunk}
    {envs : List SpecsEnvelope} (hstream : StreamOf decoders chunks (envs ++ [done]))
    (henvs : handle_envelopes decoders current_specs envs {} = some after) {turns : Nat}
    (hturns : envs.length < turns) :
    deserialize_protobuf decoders turns current_specs {} (source_of chunks) = .ok after := by
  obtain ⟨messages, hmessages, hbytes⟩ := hstream
  have hpending : ProtoStreamReader.pending ⟨source_of chunks, []⟩ =
      (messages.map Message.delimited).flatten ++ [] := by
    rw [ProtoStreamReader.pending, delivered_source_of, hbytes, List.append_nil]
    rfl
  exact read_envelopes_done decoders hmessages henvs hpending hturns

/-! ## Copies of the old version -/

theorem read_back_of_reads_back {specs : SpecsResponseFull} (h : ReadsBack specs) :
    read_back_partial specs = .ok specs.toSpecsResponsePartial := by
  unfold read_back_partial
  rw [if_pos]
  simp only [Bool.and_eq_true, List.all_eq_true]
  exact h

theorem read_back_of_not {specs : SpecsResponseFull} (h : ¬ ReadsBack specs) :
    ∃ e, read_back_partial specs = .error e := by
  unfold read_back_partial
  rw [if_neg]
  · exact ⟨_, rfl⟩
  · simp only [Bool.and_eq_true, List.all_eq_true]
    exact h

/-- `CopyPrev` copies the old version when it reads back, and else it copies nothing. -/
theorem handle_copy_prev (old : SpecsResponseFull) :
    ∃ copied, handle_envelope decoders old {} copy_prev = .go_on copied ∧
      (ReadsBack old → ∀ kind name, lookup copied kind name = lookup old kind name) ∧
      (¬ ReadsBack old → ∀ kind name, lookup copied kind name = none) := by
  have hturn : handle_envelope decoders old {} copy_prev =
      .go_on (consume_errors {} (SpecsResponseFull.handle_copy_prev_update {} old)) := rfl
  refine ⟨_, hturn, fun h kind name => ?_, fun h kind name => ?_⟩
  · unfold SpecsResponseFull.handle_copy_prev_update
    rw [read_back_of_reads_back h]
    cases kind with
    | _ => rfl
  · obtain ⟨e, he⟩ := read_back_of_not h
    unfold SpecsResponseFull.handle_copy_prev_update
    rw [he]
    cases kind with
    | _ => rfl

/-! ## The rebuilt version -/

/-- The call on the delta stream and the call on the full stream end well, with the same
specs. -/
def RebuildsVersion (old : SpecsResponseFull) (delta_chunks full_chunks : List Chunk)
    (turns : Nat) : Prop :=
  ∃ rebuilt parsed,
    deserialize_protobuf decoders turns old {} (source_of delta_chunks) = .ok rebuilt ∧
    deserialize_protobuf decoders turns {} {} (source_of full_chunks) = .ok parsed ∧
    SameSpecs rebuilt parsed

/-- The stream of all of a version, read from nothing, gives that version. -/
theorem full_stream_parses {new : SpecsResponseFull} {envs : List SpecsEnvelope}
    {chunks : List Chunk} {turns : Nat}
    (hpreloaded : SameChecksumSameEntity (preloaded decoders) (lookup new))
    (hdelta : DeltaStream decoders {} new envs)
    (hstream : StreamOf decoders chunks (envs ++ [done])) (hturns : envs.length < turns) :
    ∃ parsed, deserialize_protobuf decoders turns {} {} (source_of chunks) = .ok parsed ∧
      SameSpecs parsed new := by
  have hempty : ∀ kind name, lookup {} kind name = none := by
    intro kind name
    cases kind with
    | _ => rfl
  have hexisting : SameChecksumSameEntity (lookup {}) (lookup new) := by
    intro kind name entity other hentity
    rw [hempty] at hentity
    nomatch hentity
  obtain ⟨parsed, henvs, hmoves, htop⟩ :=
    handle_delta_envelopes decoders hpreloaded hexisting hdelta.each {}
  refine ⟨parsed, deserialize_stream decoders hstream henvs hturns, fun kind name => ?_,
    htop (.inr hdelta.top_level)⟩
  by_cases htouched : ∃ env ∈ envs, Touches decoders env kind name
  · exact (hmoves kind name).1 htouched
  · rw [(hmoves kind name).2 htouched, hempty]
    rcases Option.eq_none_or_eq_some (lookup new kind name) with hnone | ⟨entity, hentity⟩
    · exact hnone.symm
    · refine absurd (hdelta.changed kind name entity hentity ?_) htouched
      rw [hempty]
      exact fun h => nomatch h

/-- A delta stream on the old version moves what it touches to the new version, and leaves
the rest to what `CopyPrev` copied. -/
theorem delta_stream_parses {old new : SpecsResponseFull} {envs : List SpecsEnvelope}
    {chunks : List Chunk} {turns : Nat}
    (hpreloaded : SameChecksumSameEntity (preloaded decoders) (lookup new))
    (hold : SameChecksumSameEntity (lookup old) (lookup new))
    (hdelta : DeltaStream decoders old new envs)
    (hstream : StreamOf decoders chunks (copy_prev :: envs ++ [done]))
    (hturns : envs.length + 1 < turns) :
    ∃ copied rebuilt, deserialize_protobuf decoders turns old {} (source_of chunks) = .ok rebuilt ∧
      (ReadsBack old → ∀ kind name, lookup copied kind name = lookup old kind name) ∧
      (¬ ReadsBack old → ∀ kind name, lookup copied kind name = none) ∧
      MovesTo new copied rebuilt (fun kind name => ∃ env ∈ envs, Touches decoders env kind name) ∧
      rebuilt.top_level = new.top_level := by
  obtain ⟨copied, hcopy, hreads, hnot_reads⟩ := handle_copy_prev decoders old
  obtain ⟨rebuilt, henvs, hmoves, htop⟩ :=
    handle_delta_envelopes decoders hpreloaded hold hdelta.each copied
  have hall : handle_envelopes decoders old (copy_prev :: envs) {} = some rebuilt := by
    rw [handle_envelopes, hcopy]
    exact henvs
  refine ⟨copied, rebuilt, ?_, hreads, hnot_reads, hmoves, htop (.inr hdelta.top_level)⟩
  exact deserialize_stream decoders hstream hall (by rw [List.length_cons]; omega)

/-- A delta stream on the old version gives the same specs as the full stream of the new
version just when the old version reads back from its own JSON, or else the stream leaves
no entity of the new version to `CopyPrev`. -/
theorem delta_stream_rebuilds_iff {old new : SpecsResponseFull}
    {delta full : List SpecsEnvelope} {delta_chunks full_chunks : List Chunk} {turns : Nat}
    (hpreloaded : SameChecksumSameEntity (preloaded decoders) (lookup new))
    (hold : SameChecksumSameEntity (lookup old) (lookup new))
    (hdelta : DeltaStream decoders old new delta) (hfull : DeltaStream decoders {} new full)
    (hdelta_stream : StreamOf decoders delta_chunks (copy_prev :: delta ++ [done]))
    (hfull_stream : StreamOf decoders full_chunks (full ++ [done]))
    (hturns : delta.length + full.length + 1 < turns) :
    RebuildsVersion decoders old delta_chunks full_chunks turns ↔
      ReadsBack old ∨ ∀ kind name entity, lookup new kind name = some entity →
        ∃ env ∈ delta, Touches decoders env kind name := by
  obtain ⟨parsed, hparse, hsame⟩ := full_stream_parses decoders hpreloaded hfull hfull_stream
    (show full.length < turns by omega)
  obtain ⟨copied, rebuilt, hrebuild, hreads, hnot_reads, hmoves, htop⟩ :=
    delta_stream_parses decoders hpreloaded hold hdelta hdelta_stream
      (show delta.length + 1 < turns by omega)
  constructor
  · rintro ⟨rebuilt', parsed', hrebuild', hparse', hlookup, -⟩
    rw [hrebuild] at hrebuild'
    cases hrebuild'
    rw [hparse] at hparse'
    cases hparse'
    by_cases hback : ReadsBack old
    · exact .inl hback
    · refine .inr fun kind name entity hentity => ?_
      by_contra huntouched
      -- the entity was never put in
      have hnone : lookup rebuilt kind name = none := by
        rw [(hmoves kind name).2 huntouched, hnot_reads hback]
      rw [hlookup, hsame.1, hentity] at hnone
      nomatch hnone
  · intro hcond
    refine ⟨rebuilt, parsed, hrebuild, hparse, fun kind name => ?_, htop.trans hsame.2.symm⟩
    rw [hsame.1]
    by_cases htouched : ∃ env ∈ delta, Touches decoders env kind name
    · exact (hmoves kind name).1 htouched
    · rw [(hmoves kind name).2 htouched]
      rcases Option.eq_none_or_eq_some (lookup new kind name) with hnone | ⟨entity, hentity⟩
      · by_cases hback : ReadsBack old
        · rw [hreads hback, hnone]
          by_contra hsome
          exact htouched (hdelta.deleted kind name hsome hnone)
        · rw [hnot_reads hback, hnone]
      · rcases hcond with hback | hstream
        · rw [hreads hback, hentity]
          by_contra hchanged
          exact htouched (hdelta.changed kind name entity hentity hchanged)
        · exact absurd (hstream kind name entity hentity) htouched

end

/-! ## A store that stays, and top level fields that change -/

/-- The messages of four envelopes, with the text `"experiment_to_layer"` of no layers and
the text of a parameter store without parameters. -/
def copy_prev_message : Message := ⟨[8, 10], by decide⟩

def done_message : Message := ⟨[8, 1], by decide⟩

def no_layers : Bytes :=
  [123, 34, 101, 120, 112, 101, 114, 105, 109, 101, 110, 116, 95, 116, 111, 95, 108, 97, 121,
    101, 114, 34, 58, 123, 125, 125]

def no_parameters : Bytes :=
  [123, 34, 112, 97, 114, 97, 109, 101, 116, 101, 114, 115, 34, 58, 123, 125, 125]

def top_level_data : Bytes := [8, 1, 16, 2, 58, 26] ++ no_layers

def top_level_message : Message := ⟨[8, 2, 34, 32] ++ top_level_data, by decide⟩

def param_store_message : Message :=
  ⟨[8, 6, 18, 1, 112, 26, 1, 55, 34, 17] ++ no_parameters, by decide⟩

def top_level_envelope : SpecsEnvelope := { kind := 2, data := some top_level_data }

def param_store_envelope : SpecsEnvelope :=
  { kind := 6, name := "p", checksum := "7", data := some no_parameters }

/-- The decoders on these messages. -/
def few_decoders : Decoders where
  prost := prost_base128
  envelope := fun bytes =>
    if bytes = 2 :: copy_prev_message.bytes then .ok copy_prev
    else if bytes = 2 :: done_message.bytes then .ok done
    else if bytes = 36 :: top_level_message.bytes then .ok top_level_envelope
    else if bytes = 27 :: param_store_message.bytes then .ok param_store_envelope
    else .error "failed to decode Protobuf message"
  top_level := fun bytes =>
    if bytes = top_level_data then .ok ⟨true, 2, "", "", "", no_layers⟩
    else .error "failed to decode Protobuf message"
  rest := fun bytes => if bytes = no_layers then .ok {} else .error "expected value"
  spec := fun _ => .error (.ProtobufParseError "Spec" "failed to decode Protobuf message")
  param_store := fun bytes =>
    if bytes = no_parameters then .ok {} else .error "expected value"
  condition := fun _ => .error (.ProtobufParseError "Condition" "failed to decode Protobuf message")
  deletions := fun _ => .error "failed to decode Protobuf message"
  checksums := fun _ => .error "failed to decode Protobuf message"

def old_version (override_rules : HashMap String Rule) : SpecsResponseFull where
  override_rules := some override_rules
  param_stores := some [("p", { checksum := some "7" })]
  time := 1

def new_version : SpecsResponseFull where
  checksum := some ""
  company_id := some ""
  response_format := some ""
  param_stores := some [("p", { checksum := some "7" })]
  has_updates := true
  time := 2

def delta_chunk : Chunk :=
  ⟨[2, 8, 10] ++ 36 :: top_level_message.bytes ++ [2, 8, 1], by decide, by decide⟩

def full_chunk : Chunk :=
  ⟨36 :: top_level_message.bytes ++ 27 :: param_store_message.bytes ++ [2, 8, 1],
    by decide, by decide⟩

theorem few_preloaded : SameChecksumSameEntity (preloaded few_decoders) (lookup new_version) := by
  intro kind name entity other hentity
  cases kind with
  | _ => nomatch hentity

theorem lookup_old_version (override_rules : HashMap String Rule) (kind : EntityKind)
    (name : String) : lookup (old_version override_rules) kind name =
      lookup new_version kind name := by
  cases kind with
  | _ => rfl

theorem old_version_same (override_rules : HashMap String Rule) :
    SameChecksumSameEntity (lookup (old_version override_rules)) (lookup new_version) := by
  intro kind name entity other hentity hother _
  rw [lookup_old_version, hother] at hentity
  exact (Option.some.inj hentity).symm

theorem top_level_is_new : TopLevelEnvelope few_decoders new_version top_level_envelope :=
  ⟨rfl, top_level_data, _, _, rfl, rfl, rfl, rfl⟩

theorem delta_of_old_version (override_rules : HashMap String Rule) :
    DeltaStream few_decoders (old_version override_rules) new_version [top_level_envelope] where
  each := by
    intro env henv
    rw [List.mem_singleton.mp henv]
    exact .top_level top_level_is_new
  top_level := ⟨_, List.mem_singleton_self _, top_level_is_new⟩
  changed := fun kind name entity hentity hchanged =>
    absurd (by rw [lookup_old_version, hentity]) hchanged
  deleted := fun kind name hsome hnone => absurd (by rw [lookup_old_version, hnone]) hsome

theorem lookup_new_version {kind : EntityKind} {name : String} {entity : Entity}
    (h : lookup new_version kind name = some entity) :
    kind = .ParamStore ∧ name = "p" ∧ entity = .ParamStore { checksum := some "7" } := by
  cases kind with
  | ParamStore =>
    by_cases hname : name = "p"
    · subst hname
      exact ⟨rfl, rfl, (Option.some.inj h).symm⟩
    · have hnone : lookup new_version .ParamStore name = none := by
        unfold lookup new_version
        dsimp only
        rw [Option.bind_some, HashMap.get_cons, if_neg hname]
        rfl
      rw [hnone] at h
      nomatch h
  | _ => nomatch h

theorem full_of_new_version : DeltaStream few_decoders {} new_version
    [top_level_envelope, param_store_envelope] where
  each := by
    intro env henv
    rcases List.mem_cons.mp henv with rfl | henv
    · exact .top_level top_level_is_new
    · rw [List.mem_singleton.mp henv]
      exact .entity .ParamStore _ ⟨rfl, rfl, rfl, .inl rfl⟩
  top_level := ⟨_, List.mem_cons_self, top_level_is_new⟩
  changed := by
    intro kind name entity hentity _
    obtain ⟨rfl, rfl, -⟩ := lookup_new_version hentity
    exact ⟨param_store_envelope, by simp, .inl ⟨rfl, rfl⟩⟩
  deleted := by
    intro kind name hsome
    refine absurd ?_ hsome
    cases kind with
    | _ => rfl

theorem delimited_of_small {message : Message} (h : message.bytes.length < 128) :
    message.delimited = UInt8.ofNat message.bytes.length :: message.bytes := by
  rw [Message.delimited, varint.encode_small h]
  rfl

theorem StreamOf.of_small {decoders : Decoders} {chunks : List Chunk}
    {envs : List SpecsEnvelope} {messages : List Message}
    (hsmall : ∀ message ∈ messages, message.bytes.length < 128)
    (henvs : (messages.map fun message =>
      decoders.envelope (UInt8.ofNat message.bytes.length :: message.bytes)) = envs.map .ok)
    (hchunks : (chunks.map Chunk.bytes).flatten = (messages.map fun message =>
      UInt8.ofNat message.bytes.length :: message.bytes).flatten) :
    StreamOf decoders chunks envs := by
  refine ⟨messages, ?_, ?_⟩
  · rw [← henvs]
    exact List.map_congr_left fun message hmem => by rw [delimited_of_small (hsmall _ hmem)]
  · rw [hchunks]
    refine congrArg List.flatten (List.map_congr_left fun message hmem => ?_)
    rw [delimited_of_small (hsmall _ hmem)]

theorem stream_of_old_version : StreamOf few_decoders [delta_chunk]
    (copy_prev :: [top_level_envelope] ++ [done]) := by
  have hsmall : ∀ message ∈ [copy_prev_message, top_level_message, done_message],
      message.bytes.length < 128 := by decide
  apply StreamOf.of_small hsmall
  · rfl
  · rfl

theorem stream_of_new_version : StreamOf few_decoders [full_chunk]
    ([top_level_envelope, param_store_envelope] ++ [done]) := by
  have hsmall : ∀ message ∈ [top_level_message, param_store_message, done_message],
      message.bytes.length < 128 := by decide
  apply StreamOf.of_small hsmall
  · rfl
  · rfl

/-- A delta stream of only the new top level fields, on an old version that reads back. -/
theorem readable_version_is_rebuilt :
    RebuildsVersion few_decoders (old_version []) [delta_chunk] [full_chunk] 5 := by
  have hreads : ReadsBack (old_version []) :=
    ⟨fun _ h => absurd h List.not_mem_nil, fun _ h => absurd h List.not_mem_nil⟩
  exact (delta_stream_rebuilds_iff few_decoders few_preloaded (old_version_same [])
    (delta_of_old_version []) full_of_new_version stream_of_old_version stream_of_new_version
    (by decide)).mpr (.inl hreads)

/-- The same stream on an old version with an override rule for the ID type `"true"` leaves
out the parameter store, which did not change. -/
theorem unreadable_version_is_not_rebuilt :
    ¬ ∀ decoders old new delta full delta_chunks full_chunks turns,
      SameChecksumSameEntity (preloaded decoders) (lookup new) →
      SameChecksumSameEntity (lookup old) (lookup new) →
      DeltaStream decoders old new delta → DeltaStream decoders {} new full →
      StreamOf decoders delta_chunks (copy_prev :: delta ++ [done]) →
      StreamOf decoders full_chunks (full ++ [done]) →
      delta.length + full.length + 1 < turns →
      RebuildsVersion decoders old delta_chunks full_chunks turns := by
  intro hall
  let rule : Rule := { id := "rule", conditions := [], id_type := ⟨"true", "true"⟩ }
  let old := old_version [("experiment", rule)]
  obtain ⟨rebuilt, parsed, hrebuild, hparse, hlookup, -⟩ :=
    hall few_decoders old new_version _ _ [delta_chunk] [full_chunk] 5 few_preloaded
      (old_version_same _) (delta_of_old_version _) full_of_new_version stream_of_old_version
      stream_of_new_version (by decide)
  obtain ⟨parsed', hparse', hsame⟩ := full_stream_parses few_decoders few_preloaded
    full_of_new_version stream_of_new_version (show 2 < 5 by decide)
  obtain ⟨copied, rebuilt', hrebuild', -, hnothing, hmoves, -⟩ :=
    delta_stream_parses few_decoders few_preloaded (old_version_same [("experiment", rule)])
      (delta_of_old_version _) stream_of_old_version (show 1 + 1 < 5 by decide)
  rw [hparse] at hparse'
  cases hparse'
  rw [hrebuild] at hrebuild'
  cases hrebuild'
  have hunreadable : ¬ ReadsBack old := fun h =>
    absurd (h.2 ("experiment", rule) (List.mem_singleton_self _)) (by decide)
  have huntouched : ¬ ∃ env ∈ [top_level_envelope],
      Touches few_decoders env .ParamStore "p" := by
    rintro ⟨env, henv, htouches⟩
    rw [List.mem_singleton.mp henv] at htouches
    rcases htouches with ⟨hkind, -⟩ | ⟨hkind, -⟩
    · nomatch hkind
    · nomatch hkind
  have hleft_out := (hmoves .ParamStore "p").2 huntouched
  rw [hnothing hunreadable, hlookup, hsame.1] at hleft_out
  nomatch hleft_out

end statsig_rust.specs_response
