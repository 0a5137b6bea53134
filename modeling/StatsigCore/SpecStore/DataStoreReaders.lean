-- Servers that share a data store. One of them gets its specs from the network and writes them;
-- another one boots from the data store (`specs_adapter/statsig_data_store_specs_adapter.rs`, first
-- of the adapters of `statsig_customized_specs_adapter.rs`), and polls it later. A protobuf body
-- takes entities from the specs that a server has, so the servers read it beside different specs.
import StatsigCore.SpecStore.DataStoreWrites
import StatsigCore.SpecsResponse.FullResponse

open machine

namespace statsig_rust.data_store_interface

open spec_store

open specs_response (Content Tells EnvelopeTells SelfContained lookup)

/-! ## The adapter -/

/-- The errors of the adapters, and the ones of the listener. -/
inductive AdapterErr where
  | DataStoreFailure (msg : String)
  | UnstartedAdapter (msg : String)
  | Specs (e : specs_response.StatsigErr)

/-- What the adapter meets: what `initialize` of the data store says, and the locks. The listener is
missing until the adapter is initialized. -/
structure AdapterTold where
  data_store_initialize : Except AdapterErr Unit := .ok ()
  listener_granted : Bool := true
  listener_set : Bool := true
  locks : Locks := {}
  received_at : Nat := 0

/-- What reads a body: the decompressor and the decoders under the protobuf reader, whose loop takes
so many turns at most, and the JSON readers. -/
structure BodyReaders where
  decoders : specs_response.Decoders
  turns : Nat
  decompress : Bytes → specs_response.Source
  json : Bytes → Except specs_response.StatsigErr specs_response.SpecsResponseFull
  no_updates : Bytes → Except specs_response.StatsigErr Bool

/-- A call that panics, or that goes on, leaves a store as one that fails does. -/
def protobuf_result : specs_response.DeserializeResult →
    Except specs_response.StatsigErr specs_response.SpecsResponseFull
  | .ok next_specs => .ok next_specs
  | .err e => .error e
  | .panic => .error (.ProtobufParseError "SpecsResponseFull" "panic")
  | .running => .error (.ProtobufParseError "SpecsResponseFull" "running")

def BodyReaders.parse (readers : BodyReaders) (bytes : Bytes) : ResponseData where
  deserialize_protobuf current := protobuf_result (specs_response.deserialize_protobuf
    readers.decoders readers.turns current {} (readers.decompress bytes))
  deserialize_json := readers.json bytes
  deserialize_no_updates := readers.no_updates bytes

variable (readers : BodyReaders)

/-- `ResponseData::from_bytes_with_headers`. -/
def from_bytes_with_headers (bytes : Bytes) (headers : Option (HashMap String String)) :
    ResponseData :=
  { readers.parse bytes with headers }

def specs_response_data_from_cache (data : Bytes) (is_protobuf : Bool) : ResponseData :=
  if is_protobuf then
    from_bytes_with_headers readers data (some
      [("content-type", "application/octet-stream"), ("content-encoding", "statsig-br")])
  else from_bytes_with_headers readers data none

/-- The listener is the spec store. -/
def send_specs_update_to_listener (listener : SpecStore) (cached_specs : CachedSpecs)
    (told : AdapterTold) : Except AdapterErr Unit × SpecStore :=
  let data := specs_response_data_from_cache readers (cached_specs.result.getD [])
    cached_specs.is_protobuf
  let update : SpecsUpdate :=
    { data, source := .Adapter "DataStore", source_api := some "datastore" }
  let (result, listener) := set_values listener update told.locks told.received_at
  (result.mapError .Specs, listener)

/-- `start` of `StatsigDataStoreSpecsAdapter`. -/
def data_store_start (cache_keys : DataStoreCacheKeys) (data_store : DataStore)
    (told : AdapterTold) (listener : SpecStore) : Except AdapterErr Unit × SpecStore :=
  match told.data_store_initialize with
  | .error e => (.error e, listener)
  | .ok () =>
    let update := load_cached_specs data_store cache_keys
    if update.result.isNone then (.error (.DataStoreFailure "Empty result"), listener)
    else if !told.listener_granted then
      (.error (.UnstartedAdapter "Failed to acquire read lock on listener"), listener)
    else if !told.listener_set then (.error (.UnstartedAdapter "Listener not set"), listener)
    else send_specs_update_to_listener readers listener update told

/-- A turn of the background sync. An empty result goes on to the listener too. -/
def execute_background_sync_impl (cache_keys : DataStoreCacheKeys) (data_store : DataStore)
    (told : AdapterTold) (listener : SpecStore) : SpecStore :=
  if told.listener_granted && told.listener_set then
    let cached_specs := load_cached_specs data_store cache_keys
    (send_specs_update_to_listener readers listener cached_specs told).2
  else listener

/-- `start` of `StatsigCustomizedSpecsAdapter`: the adapters in turn, until one starts. -/
def customized_start :
    List (SpecStore → Except AdapterErr Unit × SpecStore) → SpecStore →
      Except AdapterErr Unit × SpecStore
  | [], listener => (.error (.UnstartedAdapter "Failed to start any adapters"), listener)
  | adapter :: adapters, listener =>
    match adapter listener with
    | (.ok (), listener) => (.ok (), listener)
    | (.error _, listener) => customized_start adapters listener

/-! ## The servers -/

/-- The values that the writer has had are kept, the newest first. -/
structure Servers where
  writer : CachedStore := {}
  history : List specs_response.SpecsResponseFull := []
  reader : SpecStore := {}

inductive ServerStep where
  /-- The writer gets a response. -/
  | update (headers : Option (HashMap String String)) (data_bytes : Bytes) (source : SpecsSource)
    (source_api : Option String) (locks : Locks) (now : Nat)
  /-- A task of the writer runs. -/
  | write (task : Nat) (reads : Bool)
  | start (told : AdapterTold)
  | poll (told : AdapterTold)

namespace Servers

variable (keys : DataStoreCacheKeys) (s : Servers)

def after_writer (writer : CachedStore) : Servers :=
  { s with writer, history := writer.store.data.values :: s.history }

def step : ServerStep → Option Servers
  | .update headers data_bytes source source_api locks now =>
    let update : SpecsUpdate :=
      { data := from_bytes_with_headers readers data_bytes headers, source, source_api }
    (s.writer.step keys (.update update data_bytes locks now)).map s.after_writer
  | .write task reads => (s.writer.step keys (.write task reads)).map s.after_writer
  | .start told =>
    some { s with reader := (data_store_start readers keys s.writer.data_store told s.reader).2 }
  | .poll told =>
    some { s with
      reader := execute_background_sync_impl readers keys s.writer.data_store told s.reader }

end Servers

def format_of (is_protobuf : Bool) : SpecsFormat := if is_protobuf then .Protobuf else .Json

variable (content : Content)

/-- The envelopes of a protobuf body. -/
def BodyReaders.envelopes (bytes : Bytes) : List specs_response.SpecsEnvelope :=
  specs_response.envelopes readers.decoders readers.turns ⟨readers.decompress bytes, []⟩

/-- What a body has under a checksum is what the checksum says. -/
def BodyTells (format : SpecsFormat) (bytes : Bytes) : Prop :=
  match format with
  | .Json => ∀ values, readers.json bytes = .ok values → Tells content (lookup values)
  | .Protobuf => ∀ env ∈ readers.envelopes bytes, EnvelopeTells content readers.decoders env

/-- The bytes read as these values, whatever the specs are that they come after. -/
structure ReadAs (bytes : Bytes) (is_protobuf : Bool) (values : specs_response.SpecsResponseFull) :
    Prop where
  has_updates : values.has_updates = true
  tells : Tells content (lookup values)
  read : ∀ current, Tells content (lookup current) →
    deserialize_specs_data current (format_of is_protobuf) (readers.parse bytes) = .ok values

/-- The bytes read as values that the writer has had. -/
def Held (history : List specs_response.SpecsResponseFull) (bytes : Bytes) (is_protobuf : Bool) :
    Prop :=
  ∃ values ∈ history, ReadAs readers content bytes is_protobuf values

/-- The response is no delta. -/
def NoDelta : ServerStep → Prop
  | .update headers _ _ _ _ _ => (headers.bind fun headers => headers.get "x-deltas-used") = none
  | _ => True

/-- The response has what its checksums say. If it is a protobuf and no delta, all of its entities
are in it. -/
def Sound : ServerStep → Prop
  | .update headers data_bytes source source_api locks now =>
    let format := get_spec_response_format
      { data := from_bytes_with_headers readers data_bytes headers, source, source_api }
    BodyTells readers content format data_bytes ∧
      (format = .Protobuf → NoDelta (.update headers data_bytes source source_api locks now) →
        ∀ env ∈ readers.envelopes data_bytes, SelfContained readers.decoders env)
  | _ => True

/-! ## What an update of the writer does -/

section Writer

variable {keys : DataStoreCacheKeys} {w : CachedStore}

/-- The data stays, or they are the ones of an update that was accepted. Then a task may be there to
write it, if it is a full one. -/
theorem set_values_cases (keys : DataStoreCacheKeys) (w : CachedStore) (update : SpecsUpdate)
    (data_bytes : Bytes) (locks : Locks) (now : Nat) :
    (∃ store, store.data = w.store.data ∧
      w.set_values keys update data_bytes locks now = { w with store }) ∨
    ∃ next_values store tasks, Accepted w.store.data locks.prep update next_values ∧
      store.data.values = next_values ∧
      w.set_values keys update data_bytes locks now = { w with
        store
        tasks := w.tasks ++ tasks
        applied := some ⟨some data_bytes, get_spec_response_format update = .Protobuf⟩ } ∧
      ∀ task ∈ tasks, task.data_bytes = data_bytes ∧
        task.is_protobuf = decide (get_spec_response_format update = .Protobuf) ∧
        task.data_store_key = keys.key_for task.is_protobuf ∧
        update.data.get_header_ref "x-deltas-used" = none := by
  unfold CachedStore.set_values
  cases hprep : specs_update_prep w.store.data locks.prep update with
  | error e => exact .inl ⟨w.store, rfl, rfl⟩
  | ok prep =>
    cases prep with
    | NoUpdates => exact .inl ⟨w.store, rfl, rfl⟩
    | CurrentValuesNewer => exact .inl ⟨w.store, rfl, rfl⟩
    | HasUpdates next_values response_format =>
      obtain ⟨haccepted, rfl⟩ := prep_eq_has_updates_iff.mp hprep
      let global_configs := try_update_global_configs w.store.global_configs locks next_values
      unfold specs_update_apply
      cases happly : locks.apply with
      | false => exact .inl ⟨{ w.store with global_configs }, rfl, rfl⟩
      | true =>
        let store : SpecStore := { data := swapped update next_values now, global_configs }
        unfold specs_update_notify
        cases hnotify : locks.notify with
        | false =>
          refine .inr ⟨next_values, store, [], haccepted, rfl, ?_, List.forall_mem_nil _⟩
          rw [List.append_nil]
          rfl
        | true =>
          let task := try_update_data_store keys update.source update.data data_bytes now
            (get_spec_response_format update = .Protobuf)
          refine .inr ⟨next_values, store, task.toList, haccepted, rfl, rfl, ?_⟩
          intro write hwrite
          have htask : task = some write := Option.mem_toList.mp hwrite
          simp only [task, try_update_data_store] at htask
          split at htask
          · cases htask
          · split at htask
            · cases htask
            · next hheader =>
              cases htask
              exact ⟨rfl, rfl, rfl, Option.not_isSome_iff_eq_none.mp hheader⟩

/-- A write goes under the key of its task, or is refused. -/
theorem write_specs_cases (data_store : DataStore) (task : WriteTask) :
    write_specs_to_data_store data_store task = data_store ∨
      write_specs_to_data_store data_store task =
        data_store.set task.data_store_key task.data_bytes := by
  unfold write_specs_to_data_store DataStore.set_bytes
  cases data_store.bytes_implemented with
  | true => exact .inr rfl
  | false =>
    change (if task.is_protobuf then _ else _) = _ ∨ (if task.is_protobuf then _ else _) = _
    split
    · exact .inl rfl
    · split
      · exact .inr rfl
      · exact .inl rfl

end Writer

/-! ## What is read -/

section Reads

variable {readers} {content}

theorem format_of_protobuf (format : SpecsFormat) :
    format_of (decide (format = .Protobuf)) = format := by
  cases format <;> rfl

/-- The headers say how to read, and nothing else. -/
theorem deserialize_with_headers (current : specs_response.SpecsResponseFull)
    (format : SpecsFormat) (bytes : Bytes) (headers : Option (HashMap String String)) :
    deserialize_specs_data current format (from_bytes_with_headers readers bytes headers) =
      deserialize_specs_data current format (readers.parse bytes) := by
  cases format <;> rfl

/-- The headers of the cache give the format that was asked for. -/
theorem cached_format (bytes : Bytes) (is_protobuf : Bool) (source : SpecsSource)
    (source_api : Option String) :
    get_spec_response_format
      { data := specs_response_data_from_cache readers bytes is_protobuf, source, source_api } =
        format_of is_protobuf := by
  cases is_protobuf with
  | false => rfl
  | true =>
    have htype : contains "application/octet-stream" "application/octet-stream" = true :=
      decide_eq_true (List.infix_refl _)
    have hencoding : contains "statsig-br" "statsig-br" = true := decide_eq_true (List.infix_refl _)
    have hheaders (key : String) : ResponseData.get_header_ref
        (specs_response_data_from_cache readers bytes true) key = HashMap.get
          [("content-type", "application/octet-stream"), ("content-encoding", "statsig-br")] key :=
      rfl
    have hfirst : HashMap.get [("content-type", "application/octet-stream"),
        ("content-encoding", "statsig-br")] "content-type" = some "application/octet-stream" := rfl
    have hsecond : HashMap.get [("content-type", "application/octet-stream"),
        ("content-encoding", "statsig-br")] "content-encoding" = some "statsig-br" := by decide
    unfold get_spec_response_format
    dsimp only
    rw [hheaders, hheaders, hfirst, hsecond, Option.map_some, Option.map_some, htype, hencoding]
    rfl

theorem deserialize_cached (current : specs_response.SpecsResponseFull) (bytes : Bytes)
    (is_protobuf : Bool) (format : SpecsFormat) :
    deserialize_specs_data current format
        (specs_response_data_from_cache readers bytes is_protobuf) =
      deserialize_specs_data current format (readers.parse bytes) := by
  cases is_protobuf
  · exact deserialize_with_headers current format bytes none
  · exact deserialize_with_headers current format bytes _

/-- What is read from a body is told, when the specs before it are. -/
theorem read_tells (hpreloaded : Tells content (specs_response.preloaded readers.decoders))
    {current values : specs_response.SpecsResponseFull} (hcurrent : Tells content (lookup current))
    {format : SpecsFormat} {bytes : Bytes} (htells : BodyTells readers content format bytes)
    (hread : deserialize_specs_data current format (readers.parse bytes) = .ok values) :
    Tells content (lookup values) := by
  cases format with
  | Json => exact htells values hread
  | Protobuf =>
    have hempty := specs_response.no_specs_tell content
    refine specs_response.read_envelopes_tells hpreloaded hcurrent htells hempty ?_
    change protobuf_result (specs_response.read_envelopes readers.decoders current readers.turns
      ⟨readers.decompress bytes, []⟩ {}) = .ok values at hread
    cases hresult : specs_response.read_envelopes readers.decoders current readers.turns
        ⟨readers.decompress bytes, []⟩ {} with
    | ok next_specs =>
      rw [hresult] at hread
      cases hread
      rfl
    | err e =>
      rw [hresult] at hread
      cases hread
    | panic =>
      rw [hresult] at hread
      cases hread
    | running =>
      rw [hresult] at hread
      cases hread

/-- A body that has all of its entities reads the same after any specs. -/
theorem read_after_any {current : specs_response.SpecsResponseFull}
    (hcurrent : Tells content (lookup current)) {format : SpecsFormat} {bytes : Bytes}
    (htells : BodyTells readers content format bytes)
    (hself : format = .Protobuf →
      ∀ env ∈ readers.envelopes bytes, SelfContained readers.decoders env) :
    deserialize_specs_data current format (readers.parse bytes) =
      deserialize_specs_data {} format (readers.parse bytes) := by
  cases format with
  | Json => rfl
  | Protobuf =>
    exact congrArg protobuf_result (specs_response.read_envelopes_of_self_contained hcurrent
      (fun env hmem => ⟨htells env hmem, hself rfl env hmem⟩) {})

/-- The bytes of a full update that is accepted. -/
theorem read_as_accepted (hpreloaded : Tells content (specs_response.preloaded readers.decoders))
    {headers : Option (HashMap String String)} {data_bytes : Bytes} {source : SpecsSource}
    {source_api : Option String} {locks : Locks} {now : Nat} {data : SpecStoreData} {lock : Bool}
    {values : specs_response.SpecsResponseFull} (hdata : Tells content (lookup data.values))
    (hsound : Sound readers content (.update headers data_bytes source source_api locks now))
    (hdelta : NoDelta (.update headers data_bytes source source_api locks now))
    (haccepted : Accepted data lock
      { data := from_bytes_with_headers readers data_bytes headers, source, source_api } values) :
    ReadAs readers content data_bytes (get_spec_response_format
      { data := from_bytes_with_headers readers data_bytes headers, source, source_api } =
        .Protobuf) values := by
  obtain ⟨htells, hself⟩ := hsound
  have hread := haccepted.2.1
  rw [deserialize_with_headers] at hread
  refine ⟨haccepted.2.2.2, read_tells hpreloaded hdata htells hread, fun current hcurrent => ?_⟩
  have hself := fun hformat => hself hformat hdelta
  rw [format_of_protobuf, read_after_any hcurrent htells hself,
    ← read_after_any hdata htells hself]
  exact hread

/-- What is found under one of the keys. -/
theorem load_cases (data_store : DataStore) (keys : DataStoreCacheKeys) :
    (∃ bytes is_protobuf, load_cached_specs data_store keys = ⟨some bytes, is_protobuf⟩ ∧
      data_store.entries.get (keys.key_for is_protobuf) = some bytes) ∨
    load_cached_specs data_store keys = ⟨none, false⟩ := by
  cases himplemented : data_store.bytes_implemented with
  | true =>
    rw [load_cached_specs_eq himplemented]
    cases hbr : data_store.entries.get keys.statsig_br with
    | some bytes => exact .inl ⟨bytes, true, rfl, hbr⟩
    | none =>
      cases htext : data_store.entries.get keys.plain_text with
      | some bytes => exact .inl ⟨bytes, false, rfl, htext⟩
      | none => exact .inr rfl
  | false =>
    have hload : load_cached_specs data_store keys =
        ⟨data_store.entries.get keys.plain_text, false⟩ := by
      unfold load_cached_specs load_statsig_br_cache DataStore.get_bytes
      rw [himplemented]
      rfl
    rw [hload]
    cases htext : data_store.entries.get keys.plain_text with
    | some bytes => exact .inl ⟨bytes, false, rfl, htext⟩
    | none => exact .inr rfl

/-- The listener keeps its data, or has read the bytes. -/
theorem sent_cases (listener : SpecStore) (cached_specs : CachedSpecs) (told : AdapterTold) :
    (send_specs_update_to_listener readers listener cached_specs told).2.data = listener.data ∨
    ∃ values, deserialize_specs_data listener.data.values (format_of cached_specs.is_protobuf)
        (readers.parse (cached_specs.result.getD [])) = .ok values ∧
      listener.data.values.time ≤ values.time ∧
      (send_specs_update_to_listener readers listener cached_specs told).2.data.values =
        values := by
  unfold send_specs_update_to_listener
  dsimp only
  generalize hupdate : ({
    data := specs_response_data_from_cache readers (cached_specs.result.getD [])
      cached_specs.is_protobuf
    source := .Adapter "DataStore"
    source_api := some "datastore" } : SpecsUpdate) = update
  by_cases haccepted : ∃ values, Accepted listener.data told.locks.prep update values
  · obtain ⟨values, haccepted⟩ := haccepted
    have hread := haccepted.2.1
    rw [← hupdate, cached_format, deserialize_cached] at hread
    rw [set_values_with_updates told.received_at haccepted]
    unfold specs_update_apply
    cases told.locks.apply with
    | false => exact .inl rfl
    | true => exact .inr ⟨values, hread, haccepted.time_le, rfl⟩
  · rw [set_values_without_updates told.received_at haccepted]
    exact .inl rfl

end Reads

/-! ## What holds over any run -/

/-- All that is written or waits to be written reads as values that the writer has had, and so does
what the reader has. All of these values are told. -/
structure Follows (keys : DataStoreCacheKeys) (s : Servers) : Prop where
  tasks : ∀ task ∈ s.writer.tasks, task.data_store_key = keys.key_for task.is_protobuf ∧
    Held readers content s.history task.data_bytes task.is_protobuf
  entries : ∀ is_protobuf bytes,
    s.writer.data_store.entries.get (keys.key_for is_protobuf) = some bytes →
      Held readers content s.history bytes is_protobuf
  reader : s.reader.data.values = {} ∨ s.reader.data.values ∈ s.history
  writer_tells : Tells content (lookup s.writer.store.data.values)
  history_tells : ∀ values ∈ s.history, Tells content (lookup values)

section Follows

variable {readers} {content} {keys : DataStoreCacheKeys} {s s' : Servers}

theorem Held.mono {history : List specs_response.SpecsResponseFull} {bytes : Bytes}
    {is_protobuf : Bool} (h : Held readers content history bytes is_protobuf)
    (values : specs_response.SpecsResponseFull) :
    Held readers content (values :: history) bytes is_protobuf := by
  obtain ⟨held, hmem, hread⟩ := h
  exact ⟨held, List.mem_cons_of_mem _ hmem, hread⟩

theorem Follows.reader_tells (h : Follows readers content keys s) :
    Tells content (lookup s.reader.data.values) := by
  rcases h.reader with hempty | hmem
  · rw [hempty]
    exact specs_response.no_specs_tell content
  · exact h.history_tells _ hmem

/-- A step of the writer that leaves the data store as it is. -/
theorem Follows.after_update (h : Follows readers content keys s) {writer : CachedStore}
    (hentries : writer.data_store = s.writer.data_store)
    (htells : Tells content (lookup writer.store.data.values))
    (htasks : ∀ task ∈ writer.tasks, task ∈ s.writer.tasks ∨
      task.data_store_key = keys.key_for task.is_protobuf ∧
        Held readers content (writer.store.data.values :: s.history) task.data_bytes
          task.is_protobuf) :
    Follows readers content keys (s.after_writer writer) where
  tasks task hmem := by
    rcases htasks task hmem with hold | hnew
    · obtain ⟨hkey, hheld⟩ := h.tasks task hold
      exact ⟨hkey, hheld.mono _⟩
    · exact hnew
  entries is_protobuf bytes hget := by
    unfold Servers.after_writer at hget
    dsimp only at hget
    rw [hentries] at hget
    exact (h.entries is_protobuf bytes hget).mono _
  reader := h.reader.imp_right fun hmem => List.mem_cons_of_mem _ hmem
  writer_tells := htells
  history_tells values hmem := by
    rcases List.mem_cons.mp hmem with rfl | hmem
    · exact htells
    · exact h.history_tells values hmem

theorem Follows.update (h : Follows readers content keys s)
    (hpreloaded : Tells content (specs_response.preloaded readers.decoders))
    {headers : Option (HashMap String String)} {data_bytes : Bytes} {source : SpecsSource}
    {source_api : Option String} {locks : Locks} {now : Nat}
    (hsound : Sound readers content (.update headers data_bytes source source_api locks now)) :
    Follows readers content keys (s.after_writer (s.writer.set_values keys
      { data := from_bytes_with_headers readers data_bytes headers, source, source_api }
      data_bytes locks now)) := by
  rcases set_values_cases keys s.writer
    { data := from_bytes_with_headers readers data_bytes headers, source, source_api }
    data_bytes locks now with
    ⟨store, hdata, hset⟩ | ⟨next_values, store, tasks, haccepted, hvalues, hset, htasks⟩
  · rw [hset]
    refine h.after_update rfl ?_ fun task hmem => .inl hmem
    rw [hdata]
    exact h.writer_tells
  · rw [hset]
    refine h.after_update rfl ?_ ?_
    · rw [hvalues]
      have hread := haccepted.2.1
      rw [deserialize_with_headers] at hread
      exact read_tells hpreloaded h.writer_tells hsound.1 hread
    · intro task hmem
      rcases List.mem_append.mp hmem with hold | hnew
      · exact .inl hold
      · obtain ⟨hbytes, hformat, hkey, hheader⟩ := htasks task hnew
        refine .inr ⟨hkey, next_values, by rw [← hvalues]; exact List.mem_cons_self, ?_⟩
        rw [hformat, hbytes]
        exact read_as_accepted hpreloaded h.writer_tells hsound hheader haccepted

theorem Follows.write (h : Follows readers content keys s)
    (hkeys : keys.plain_text ≠ keys.statsig_br) {task : WriteTask} {i : Nat}
    (hi : s.writer.tasks[i]? = some task) (reads : Bool) {writer : CachedStore}
    (hstep : s.writer.step keys (.write i reads) = some writer) :
    Follows readers content keys (s.after_writer writer) := by
  obtain ⟨hkey, hheld⟩ := h.tasks task (List.mem_of_getElem? hi)
  unfold CachedStore.step at hstep
  dsimp only at hstep
  rw [hi] at hstep
  have hfewer : ∀ other ∈ s.writer.tasks.eraseIdx i, other ∈ s.writer.tasks :=
    fun other hmem => List.mem_of_mem_eraseIdx hmem
  cases reads with
  | false =>
    cases hstep
    exact h.after_update rfl h.writer_tells fun other hmem => .inl (hfewer other hmem)
  | true =>
    cases hstep
    refine ⟨?_, ?_, h.reader.imp_right fun hmem => List.mem_cons_of_mem _ hmem, h.writer_tells, ?_⟩
    · intro other hmem
      obtain ⟨hkey', hheld'⟩ := h.tasks other (hfewer other hmem)
      exact ⟨hkey', hheld'.mono _⟩
    · intro is_protobuf bytes hget
      rcases write_specs_cases s.writer.data_store task with hsame | hset
      · unfold Servers.after_writer at hget
        dsimp only at hget
        rw [hsame] at hget
        exact (h.entries is_protobuf bytes hget).mono _
      · unfold Servers.after_writer at hget
        dsimp only at hget
        rw [hset] at hget
        unfold DataStore.set at hget
        dsimp only at hget
        rw [HashMap.get_insert, hkey] at hget
        by_cases hformat : keys.key_for is_protobuf = keys.key_for task.is_protobuf
        · rw [if_pos hformat] at hget
          cases hget
          rw [(DataStoreCacheKeys.key_for_inj hkeys).mp hformat]
          exact hheld.mono _
        · rw [if_neg hformat] at hget
          exact (h.entries is_protobuf bytes hget).mono _
    · intro values hmem
      rcases List.mem_cons.mp hmem with rfl | hmem
      · exact h.writer_tells
      · exact h.history_tells values hmem

/-- What the adapter sends to the reader. -/
theorem Follows.sent (h : Follows readers content keys s)
    (hempty : ∀ values, readers.json [] ≠ .ok values) (told : AdapterTold) :
    let reader := (send_specs_update_to_listener readers s.reader
      (load_cached_specs s.writer.data_store keys) told).2
    (reader.data.values = {} ∨ reader.data.values ∈ s.history) ∧
      s.reader.data.values.time ≤ reader.data.values.time := by
  intro reader
  rcases sent_cases s.reader (load_cached_specs s.writer.data_store keys) told with
    hsame | ⟨values, hread, htime, hvalues⟩
  · have hdata : reader.data = s.reader.data := hsame
    rw [hdata]
    exact ⟨h.reader, Nat.le_refl _⟩
  · have hgot : reader.data.values = values := hvalues
    rw [hgot]
    refine ⟨.inr ?_, htime⟩
    rcases load_cases s.writer.data_store keys with ⟨bytes, is_protobuf, hload, hget⟩ | hload
    · obtain ⟨held, hmem, hheld⟩ := h.entries is_protobuf bytes hget
      rw [hload] at hread
      dsimp only [Option.getD_some] at hread
      rw [hheld.read _ h.reader_tells] at hread
      cases hread
      exact hmem
    · rw [hload] at hread
      exact absurd hread (hempty values)

/-- A step keeps what holds, and takes the reader to no older values. -/
theorem Follows.step (h : Follows readers content keys s)
    (hkeys : keys.plain_text ≠ keys.statsig_br)
    (hpreloaded : Tells content (specs_response.preloaded readers.decoders))
    (hempty : ∀ values, readers.json [] ≠ .ok values) {a : ServerStep}
    (hsound : Sound readers content a) (hstep : s.step readers keys a = some s') :
    Follows readers content keys s' ∧ s.reader.data.values.time ≤ s'.reader.data.values.time := by
  cases a with
  | update headers data_bytes source source_api locks now =>
    unfold Servers.step at hstep
    obtain ⟨writer, hwriter, rfl⟩ := Option.map_eq_some_iff.mp hstep
    rw [← Option.some.inj hwriter]
    exact ⟨h.update hpreloaded hsound, Nat.le_refl _⟩
  | write i reads =>
    unfold Servers.step at hstep
    obtain ⟨writer, hwriter, rfl⟩ := Option.map_eq_some_iff.mp hstep
    cases hi : s.writer.tasks[i]? with
    | none =>
      unfold CachedStore.step at hwriter
      dsimp only at hwriter
      rw [hi] at hwriter
      cases hwriter
    | some task => exact ⟨h.write hkeys hi reads hwriter, Nat.le_refl _⟩
  | start told =>
    rw [← Option.some.inj hstep]
    have hsent := h.sent hempty told
    unfold data_store_start
    split
    · exact ⟨h, Nat.le_refl _⟩
    · dsimp only
      split
      · exact ⟨h, Nat.le_refl _⟩
      · split
        · exact ⟨h, Nat.le_refl _⟩
        · split
          · exact ⟨h, Nat.le_refl _⟩
          · exact ⟨⟨h.tasks, h.entries, hsent.1, h.writer_tells, h.history_tells⟩, hsent.2⟩
  | poll told =>
    rw [← Option.some.inj hstep]
    have hsent := h.sent hempty told
    unfold execute_background_sync_impl
    split
    · exact ⟨⟨h.tasks, h.entries, hsent.1, h.writer_tells, h.history_tells⟩, hsent.2⟩
    · exact ⟨h, Nat.le_refl _⟩

end Follows

/-- The servers before anything happens. The data store may be for strings only. -/
def start_servers (bytes_implemented : Bool) : Servers where
  writer := { data_store := { bytes_implemented } }

theorem start_follows (bytes_implemented : Bool) (keys : DataStoreCacheKeys) :
    Follows readers content keys (start_servers bytes_implemented) where
  tasks _ h := (List.not_mem_nil h).elim
  entries _ _ h := (nomatch h)
  reader := .inl rfl
  writer_tells := specs_response.no_specs_tell content
  history_tells _ h := (List.not_mem_nil h).elim

/-- In whatever order the updates come, the writes run and the reader boots and polls, the reader
never has any values but those that the writer has had, and it never goes back to older ones. The
checksums have to tell the entities, and the responses that are no deltas have theirs in them. -/
theorem reader_follows_the_writer (path key : String) (bytes_implemented : Bool)
    (hpreloaded : Tells content (specs_response.preloaded readers.decoders))
    (hempty : ∀ values, readers.json [] ≠ .ok values) {front back : List ServerStep}
    {mid s : Servers} (hsound : ∀ a ∈ front ++ back, Sound readers content a)
    (hfront : run (Servers.step readers (cache_keys path key)) (start_servers bytes_implemented)
      front = some mid)
    (hback : run (Servers.step readers (cache_keys path key)) mid back = some s) :
    (s.reader.data.values = {} ∨ s.reader.data.values ∈ s.history) ∧
      mid.reader.data.values.time ≤ s.reader.data.values.time := by
  have hkeys := cache_keys_differ path key
  have hmid : Follows readers content (cache_keys path key) mid := by
    refine run_invariant_along (fun s a s' h ha hstep => ?_)
      (along_and_mem (along_true _ front) fun a hmem => hsound a (List.mem_append_left _ hmem))
      (start_follows readers content bytes_implemented _) hfront
    exact (h.step hkeys hpreloaded hempty ha.2 hstep).1
  have hlast : Follows readers content (cache_keys path key) s ∧
      mid.reader.data.values.time ≤ s.reader.data.values.time := by
    refine run_invariant_along (I := fun s => Follows readers content (cache_keys path key) s ∧
      mid.reader.data.values.time ≤ s.reader.data.values.time) (fun s a s' h ha hstep => ?_)
      (along_and_mem (along_true _ back) fun a hmem => hsound a (List.mem_append_right _ hmem))
      ⟨hmid, Nat.le_refl _⟩ hback
    obtain ⟨hfollows, htime⟩ := h.1.step hkeys hpreloaded hempty ha.2 hstep
    exact ⟨hfollows, h.2.trans htime⟩
  exact ⟨hlast.1.reader, hlast.2⟩

/-- A body of one block that is not compressed: its length in three bytes, the bytes, and an empty
last block. -/
def stored_block (bytes : Bytes) : Bytes :=
  let head := 2 ^ 20 + 16 * (bytes.length - 1)
  [UInt8.ofNat head, UInt8.ofNat (head / 256), UInt8.ofNat (head / 65536)] ++ bytes ++ [3]

/-- The decompressor on such a body. -/
def read_stored_block (body : Bytes) : specs_response.Source :=
  let bytes := (body.drop 3).dropLast
  if bytes ≠ [] ∧ body = stored_block bytes then [.ok bytes] else [.error "Invalid Data"]

/-- The readers on a body with a parameter store. The body is no JSON. -/
def few_readers : BodyReaders where
  decoders := specs_response.few_decoders
  turns := 5
  decompress := read_stored_block
  json := fun _ => .error (.JsonParseError "SpecsResponse" "expected value")
  no_updates := fun _ => .error (.JsonParseError "SpecsResponse" "expected value")

/-- Each checksum stands for the parameter store without parameters. -/
def empty_param_stores : Content := fun _ _ checksum => .ParamStore { checksum := some checksum }

def shared_body : Bytes := stored_block specs_response.full_chunk.bytes

def protobuf_headers : HashMap String String :=
  [("content-type", "application/octet-stream"), ("content-encoding", "statsig-br")]

/-- An update that is written, and a server that boots then. -/
def shared_run : List ServerStep :=
  [.update (some protobuf_headers) shared_body .Network none {} 10, .write 0 true, .start {}]

def shared (labels : List ServerStep) : Servers :=
  (run (Servers.step few_readers (cache_keys "/v2/download_config_specs" "key"))
    (start_servers true) labels).getD {}

theorem shared_body_envelopes {env : specs_response.SpecsEnvelope}
    (h : env ∈ few_readers.envelopes shared_body) :
    env ∈ [specs_response.top_level_envelope, specs_response.param_store_envelope] := by
  have hsource : few_readers.decompress shared_body =
      specs_response.source_of [specs_response.full_chunk] := by decide +kernel
  unfold BodyReaders.envelopes at h
  rw [hsource] at h
  exact specs_response.mem_of_mem_stream specs_response.stream_of_new_version h

theorem few_preloaded_tell : Tells empty_param_stores
    (specs_response.preloaded few_readers.decoders) := by
  intro kind name entity checksum h
  cases kind with
  | _ => cases h

theorem shared_run_sound : ∀ a ∈ shared_run ++ [.poll {}],
    Sound few_readers empty_param_stores a := by
  intro a ha
  simp only [shared_run, List.cons_append, List.nil_append, List.mem_cons, List.not_mem_nil,
    or_false] at ha
  rcases ha with rfl | rfl | rfl | rfl
  · have hformat : get_spec_response_format
        { data := from_bytes_with_headers few_readers shared_body (some protobuf_headers)
          source := .Network } = .Protobuf := rfl
    unfold Sound
    dsimp only
    rw [hformat]
    refine ⟨fun env henv kind entity hkind hentity => ?_, fun _ _ env henv => ?_⟩
    · rcases List.mem_cons.mp (shared_body_envelopes henv) with rfl | hstore
      · cases kind <;> cases hkind
      · rw [List.mem_singleton.mp hstore] at hkind hentity ⊢
        cases kind with
        | ParamStore => exact (Option.some.inj hentity).symm
        | _ => cases hkind
    · rcases List.mem_cons.mp (shared_body_envelopes henv) with rfl | hstore
      · refine ⟨by decide, fun kind hkind => ?_⟩
        cases kind <;> cases hkind
      · rw [List.mem_singleton.mp hstore]
        refine ⟨by decide, fun kind hkind => ?_⟩
        cases kind with
        | ParamStore => exact fun hnone => nomatch hnone
        | _ => cases hkind
  · trivial
  · trivial
  · trivial

theorem shared_of_run {labels : List ServerStep}
    (h : (run (Servers.step few_readers (cache_keys "/v2/download_config_specs" "key"))
      (start_servers true) labels).isSome = true) :
    run (Servers.step few_readers (cache_keys "/v2/download_config_specs" "key"))
      (start_servers true) labels = some (shared labels) := by
  obtain ⟨s, hs⟩ := Option.isSome_iff_exists.mp h
  unfold shared
  rw [hs]
  rfl

/-- The reader boots with the parameter store, and finds it in its specs when it polls. -/
theorem shared_run_is_followed :
    ((shared (shared_run ++ [.poll {}])).reader.data.values = {} ∨
      (shared (shared_run ++ [.poll {}])).reader.data.values ∈
        (shared (shared_run ++ [.poll {}])).history) ∧
      (shared shared_run).reader.data.values.time ≤
        (shared (shared_run ++ [.poll {}])).reader.data.values.time := by
  have hrun := @shared_of_run shared_run (by decide +kernel)
  have hpoll : run (Servers.step few_readers (cache_keys "/v2/download_config_specs" "key"))
      (shared shared_run) [.poll {}] = some (shared (shared_run ++ [.poll {}])) := by
    have hall := @shared_of_run (shared_run ++ [.poll {}]) (by decide +kernel)
    rw [run_append, hrun] at hall
    exact hall
  exact reader_follows_the_writer few_readers empty_param_stores "/v2/download_config_specs" "key"
    true few_preloaded_tell (fun _ h => nomatch h) shared_run_sound hrun hpoll

/-! ## Booting from the data store -/

/-- The update that the writer applied last is the values that it has. -/
def Latest (s : Servers) : Prop :=
  ∀ last, s.writer.applied = some last → ∃ bytes is_protobuf,
    last = ⟨some bytes, is_protobuf⟩ ∧
      ReadAs readers content bytes is_protobuf s.writer.store.data.values

section Boot

variable {readers} {content} {keys : DataStoreCacheKeys} {s s' : Servers}

theorem Latest.step (h : Latest readers content s) (hfollows : Follows readers content keys s)
    (hpreloaded : Tells content (specs_response.preloaded readers.decoders)) {a : ServerStep}
    (hsound : Sound readers content a) (hdelta : NoDelta a)
    (hstep : s.step readers keys a = some s') : Latest readers content s' := by
  cases a with
  | update headers data_bytes source source_api locks now =>
    unfold Servers.step at hstep
    obtain ⟨writer, hwriter, rfl⟩ := Option.map_eq_some_iff.mp hstep
    rw [← Option.some.inj hwriter]
    rcases set_values_cases keys s.writer
      { data := from_bytes_with_headers readers data_bytes headers, source, source_api }
      data_bytes locks now with
      ⟨store, hdata, hset⟩ | ⟨next_values, store, tasks, haccepted, hvalues, hset, -⟩
    · rw [hset]
      intro last hlast
      unfold Servers.after_writer
      dsimp only
      rw [hdata]
      exact h last hlast
    · rw [hset]
      intro last hlast
      cases hlast
      refine ⟨data_bytes, _, rfl, ?_⟩
      unfold Servers.after_writer
      dsimp only
      rw [hvalues]
      exact read_as_accepted hpreloaded hfollows.writer_tells hsound hdelta haccepted
  | write i reads =>
    unfold Servers.step at hstep
    obtain ⟨writer, hwriter, rfl⟩ := Option.map_eq_some_iff.mp hstep
    unfold CachedStore.step at hwriter
    dsimp only at hwriter
    split at hwriter
    · cases hwriter
    · cases reads with
      | false =>
        cases hwriter
        exact h
      | true =>
        cases hwriter
        exact h
  | start told =>
    rw [← Option.some.inj hstep]
    exact h
  | poll told =>
    rw [← Option.some.inj hstep]
    exact h

/-- A new server takes what is in the cache. -/
theorem boot_reads {data_store : DataStore} {bytes : Bytes} {is_protobuf : Bool}
    {values : specs_response.SpecsResponseFull}
    (hload : load_cached_specs data_store keys = ⟨some bytes, is_protobuf⟩)
    (hread : ReadAs readers content bytes is_protobuf values) :
    (data_store_start readers keys data_store {} {}).1 = .ok () ∧
      (data_store_start readers keys data_store {} {}).2.data.values = values := by
  have haccepted : Accepted {} true
      { data := specs_response_data_from_cache readers bytes is_protobuf
        source := .Adapter "DataStore"
        source_api := some "datastore" } values := by
    refine ⟨rfl, ?_, rfl, hread.has_updates⟩
    rw [cached_format, deserialize_cached]
    exact hread.read {} (specs_response.no_specs_tell content)
  have hsent : data_store_start readers keys data_store {} {} =
      send_specs_update_to_listener readers {} ⟨some bytes, is_protobuf⟩ {} := by
    unfold data_store_start
    dsimp only
    rw [hload]
    rfl
  rw [hsent]
  unfold send_specs_update_to_listener
  dsimp only [Option.getD_some]
  rw [set_values_with_updates 0 haccepted]
  exact ⟨rfl, rfl⟩

end Boot

/-- At any time a new server boots with values that the writer has had, and asks no other adapter,
unless nothing is in the cache. If the cache holds the last update, and no update was a delta, it
boots with the values that the writer has. -/
theorem boots_from_the_data_store (path key : String) (bytes_implemented : Bool)
    (hpreloaded : Tells content (specs_response.preloaded readers.decoders))
    (hempty : ∀ values, readers.json [] ≠ .ok values) {labels : List ServerStep}
    {s : Servers} (hsound : ∀ a ∈ labels, Sound readers content a)
    (hrun : run (Servers.step readers (cache_keys path key)) (start_servers bytes_implemented)
      labels = some s)
    (others : List (SpecStore → Except AdapterErr Unit × SpecStore)) :
    let cached := load_cached_specs s.writer.data_store (cache_keys path key)
    let boot := customized_start
      (data_store_start readers (cache_keys path key) s.writer.data_store {} :: others) {}
    (cached.result = none ∧ boot = customized_start others {}) ∨
      boot.1 = .ok () ∧ boot.2.data.values ∈ s.history ∧
        ((∀ a ∈ labels, NoDelta a) → s.writer.applied = some cached →
          boot.2.data.values = s.writer.store.data.values) := by
  intro cached boot
  have hkeys := cache_keys_differ path key
  have hfollows : Follows readers content (cache_keys path key) s := by
    refine run_invariant_along (fun s a s' h ha hstep => ?_)
      (along_and_mem (along_true _ labels) hsound)
      (start_follows readers content bytes_implemented _) hrun
    exact (h.step hkeys hpreloaded hempty ha.2 hstep).1
  rcases load_cases s.writer.data_store (cache_keys path key) with
    ⟨bytes, is_protobuf, hload, hget⟩ | hload
  · obtain ⟨values, hmem, hread⟩ := hfollows.entries is_protobuf bytes hget
    obtain ⟨hok, hvalues⟩ := boot_reads hload hread
    have hboot : boot =
        (.ok (), (data_store_start readers (cache_keys path key) s.writer.data_store {} {}).2) := by
      simp only [boot, customized_start]
      split
      · next hstart => rw [hstart]
      · next hstart =>
        rw [hstart] at hok
        cases hok
    rw [hboot]
    refine .inr ⟨rfl, by rw [hvalues]; exact hmem, fun hdelta happlied => ?_⟩
    have hlatest : Follows readers content (cache_keys path key) s ∧ Latest readers content s := by
      refine run_invariant_along (I := fun s => Follows readers content (cache_keys path key) s ∧
        Latest readers content s) (fun s a s' h ha hstep => ?_)
        (along_and_mem (along_and_mem (along_true _ labels) hsound) hdelta) ⟨?_, ?_⟩ hrun
      · exact ⟨(h.1.step hkeys hpreloaded hempty ha.1.2 hstep).1,
          h.2.step h.1 hpreloaded ha.1.2 ha.2 hstep⟩
      · exact start_follows readers content bytes_implemented _
      · intro last hlast
        cases hlast
    obtain ⟨bytes', is_protobuf', hlast, hread'⟩ := hlatest.2 cached happlied
    have hsame : (⟨some bytes, is_protobuf⟩ : CachedSpecs) = ⟨some bytes', is_protobuf'⟩ :=
      hload.symm.trans hlast
    cases hsame
    dsimp only
    rw [hvalues]
    have hempty_tells := specs_response.no_specs_tell content
    exact Except.ok.inj ((hread.read {} hempty_tells).symm.trans (hread'.read {} hempty_tells))
  · refine .inl ⟨congrArg CachedSpecs.result hload, ?_⟩
    simp only [boot, customized_start, data_store_start, hload]
    rfl

theorem shared_run_boots_without_others :
    (customized_start [data_store_start few_readers (cache_keys "/v2/download_config_specs" "key")
      (shared shared_run).writer.data_store {}] {}).1 = .ok () := by
  have hrun := @shared_of_run shared_run (by decide +kernel)
  have hsound : ∀ a ∈ shared_run, Sound few_readers empty_param_stores a :=
    fun a hmem => shared_run_sound a (List.mem_append_left _ hmem)
  rcases boots_from_the_data_store few_readers empty_param_stores "/v2/download_config_specs" "key"
    true few_preloaded_tell (fun _ h => nomatch h) hsound hrun [] with ⟨hnone, -⟩ | ⟨hok, -⟩
  · have hheld : (load_cached_specs (shared shared_run).writer.data_store
        (cache_keys "/v2/download_config_specs" "key")).result = some shared_body := by
      decide +kernel
    rw [hheld] at hnone
    cases hnone
  · exact hok

end statsig_rust.data_store_interface
