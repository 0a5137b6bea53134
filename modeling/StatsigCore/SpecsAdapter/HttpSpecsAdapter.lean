-- The HTTP specs adapter: the requests of a sync, the fallback request, and the recovery
-- from a stream of deltas that makes no progress. Syncs do not overlap. What the network
-- answers, what the listener says and what the clock shows come with each sync.
import StatsigCore.SpecStore.SpecUpdates

namespace statsig_rust.http_specs_adapter

open spec_store (ResponseData contains)

/-! ## Errors, requests and responses -/

inductive NetworkError where
  | ShutdownError (url : String)
  | DisableNetworkOn (url : String)
  | SerializationError (url msg : String)
  | RequestFailed (url : String) (status : Option Nat) (msg : String)
  | RetriesExhausted (url : String) (status : Option Nat) (attempts : Nat) (msg : String)
  | RequestNotRetryable (url : String) (status : Option Nat) (msg : String)
deriving DecidableEq

/-- The errors of the adapter and of its network, and the ones of the listener. -/
inductive StatsigErr where
  | UnstartedAdapter (msg : String)
  | NetworkError (e : NetworkError)
  | Specs (e : specs_response.StatsigErr)
deriving DecidableEq

def StatsigErr.is_network : StatsigErr → Bool
  | .NetworkError _ => true
  | _ => false

def StatsigErr.is_checksum_failure : StatsigErr → Bool
  | .Specs (.ChecksumFailure _) => true
  | _ => false

inductive SpecsSyncTrigger where
  | Initial | Background | Manual
deriving DecidableEq

structure SpecsInfo where
  lcut : Option Nat
  checksum : Option String

structure RequestArgs where
  url : String
  retries : Nat
  headers : HashMap String String
  query_params : HashMap String String
  deltas_enabled : Bool
  timeout_ms : Nat

structure NetworkResponse where
  data : ResponseData
  requested_deltas : Bool

structure ProcessSpecDataOutcome where
  result : Except StatsigErr Unit
  had_updates : Bool

def is_ok {ε α : Type} : Except ε α → Bool
  | .ok _ => true
  | .error _ => false

/-- The result matches `Err(StatsigErr::NetworkError(_))`. -/
def is_network_error : Except StatsigErr Unit → Bool
  | .error e => e.is_network
  | .ok _ => false

/-! ## The adapter -/

def DEFAULT_SPECS_URL : String := "https://api.statsigcdn.com/v2/download_config_specs"
def DEFAULT_INIT_TIMEOUT_MS : Nat := 3000
def STATSIG_NETWORK_FALLBACK_THRESHOLD : Nat := 5
def DEFAULT_DCS_DELTA_NO_PROGRESS_THRESHOLD : Nat := 10
def MIN_FORCED_FULL_RESYNC_INTERVAL_MS : Nat := 5 * 60 * 1000

/-- The values of a `u32` are the numbers below this one. -/
def u32_size : Nat := 2 ^ 32

/-- The options that the adapter reads. -/
structure StatsigOptions where
  init_timeout_ms : Option Nat := none
  specs_url : Option String := none
  fallback_to_statsig_api : Option Bool := none
  enable_dcs_deltas : Option Bool := none
  dcs_delta_no_progress_threshold : Option Nat := none

structure StatsigHttpSpecsAdapter where
  sdk_key : String
  specs_url : String
  fallback_url : Option String
  init_timeout_ms : Nat
  allow_dcs_deltas : Bool
  delta_no_progress_threshold : Nat
  use_deltas_next_request : Bool
  background_sync_failure_count : Nat := 0
  delta_no_progress_count : Nat := 0
  /-- Zero is never. -/
  last_forced_full_resync_at_ms : Nat := 0

def construct_specs_url (spec_url sdk_key : String) : String :=
  spec_url ++ "/" ++ sdk_key ++ ".json"

def lcut_advanced : Option Nat → Option Nat → Bool
  | _, none => false
  | none, some _ => true
  | some pre, some post => post > pre

def forced_resync_due (count threshold last_forced_at_ms now_ms min_interval_ms : Nat) : Bool :=
  if count < threshold then false
  else if last_forced_at_ms = 0 || now_ms < last_forced_at_ms then true
  else now_ms - last_forced_at_ms ≥ min_interval_ms

/-- Two digits of a hexadecimal number. -/
def hex_byte (byte : UInt8) : String :=
  String.ofList [Nat.digitChar (byte.toNat / 16), Nat.digitChar (byte.toNat % 16)] |>.toUpper

/-- `percent_encode` with the set `NON_ALPHANUMERIC`. -/
def percent_encode (text : String) : String :=
  String.join (text.toUTF8.toList.map fun byte =>
    let c := Char.ofNat byte.toNat
    if c.isAlphanum then c.toString else "%" ++ hex_byte byte)

/-- A response that is neither protobuf nor says that it has no updates has updates. -/
def carries_updates (data : ResponseData) : Bool :=
  let is_response_protobuf :=
    (data.get_header_ref "content-type").map (contains · "application/octet-stream") = some true ∧
      (data.get_header_ref "content-encoding").map (contains · "statsig-br") = some true
  if is_response_protobuf then true
  else
    match data.deserialize_no_updates with
    | .ok has_updates => has_updates
    | .error _ => true

namespace StatsigHttpSpecsAdapter

def new (sdk_key : String) (options : StatsigOptions) (override_url : Option String) :
    StatsigHttpSpecsAdapter :=
  let specs_url := override_url.getD (options.specs_url.getD DEFAULT_SPECS_URL)
  let enable_dcs_deltas := options.enable_dcs_deltas.getD false
  { sdk_key
    specs_url
    fallback_url :=
      if options.fallback_to_statsig_api.getD false && specs_url ≠ DEFAULT_SPECS_URL then
        some DEFAULT_SPECS_URL
      else none
    init_timeout_ms := options.init_timeout_ms.getD DEFAULT_INIT_TIMEOUT_MS
    allow_dcs_deltas := enable_dcs_deltas
    delta_no_progress_threshold :=
      options.dcs_delta_no_progress_threshold.getD DEFAULT_DCS_DELTA_NO_PROGRESS_THRESHOLD
    use_deltas_next_request := enable_dcs_deltas }

variable (adapter : StatsigHttpSpecsAdapter)

def get_request_args (current_specs_info : SpecsInfo) (trigger : SpecsSyncTrigger) : RequestArgs :=
  let params : HashMap String String := [("supports_proto", "true")]
  let params := match current_specs_info.lcut with
    | some lcut => if lcut > 0 then params.insert "sinceTime" (toString lcut) else params
    | none => params
  let is_init_request := trigger = .Initial
  let timeout_ms :=
    if is_init_request ∧ adapter.init_timeout_ms > 0 then adapter.init_timeout_ms else 0
  let params := match current_specs_info.checksum with
    | some cs => params.insert "checksum" (percent_encode cs)
    | none => params
  let use_deltas_next_req := adapter.use_deltas_next_request
  let params := if use_deltas_next_req then params.insert "accept_deltas" "true" else params
  { url := construct_specs_url adapter.specs_url adapter.sdk_key
    retries := match trigger with
      | .Initial | .Manual => 0
      | .Background => 3
    headers := [("statsig-supports-proto", "true"),
      ("accept-encoding", "statsig-br, gzip, deflate, br")]
    query_params := params
    deltas_enabled := use_deltas_next_req
    timeout_ms }

def should_attempt_fallback (trigger : SpecsSyncTrigger) (result : Except StatsigErr Unit) :
    Bool × StatsigHttpSpecsAdapter :=
  if is_ok result || adapter.fallback_url.isNone then (false, adapter)
  else if trigger ≠ .Background then (true, adapter)
  else
    let failure_count := (adapter.background_sync_failure_count + 1) % u32_size
    (failure_count % STATSIG_NETWORK_FALLBACK_THRESHOLD = 0,
      { adapter with background_sync_failure_count := failure_count })

/-- The response goes to the listener, whose answer is `applied`. -/
def process_spec_data (response : Except NetworkError NetworkResponse)
    (applied : Except StatsigErr Unit) : ProcessSpecDataOutcome × StatsigHttpSpecsAdapter :=
  match response with
  | .error e => ({ result := .error (.NetworkError e), had_updates := false }, adapter)
  | .ok resp =>
    let outcome := { result := applied, had_updates := carries_updates resp.data }
    match applied with
    | .error e =>
      if e.is_checksum_failure then (outcome, { adapter with use_deltas_next_request := false })
      else (outcome, adapter)
    | .ok _ =>
      if ¬ resp.requested_deltas ∧ adapter.allow_dcs_deltas then
        (outcome, { adapter with use_deltas_next_request := true })
      else (outcome, adapter)

/-- Whether a resync is forced, and the adapter after it. `post_lcut` is the LCUT of the
listener, and the clock shows `now` milliseconds after the epoch. -/
def maybe_force_full_resync_on_stalled_deltas (trigger : SpecsSyncTrigger)
    (pre_lcut : Option Nat) (requested_deltas had_updates : Bool)
    (result : Except StatsigErr Unit) (post_lcut : Option Nat) (now : Int) :
    Bool × StatsigHttpSpecsAdapter :=
  if trigger ≠ .Background ∨ ¬ adapter.allow_dcs_deltas ∨
      adapter.delta_no_progress_threshold = 0 then
    (false, adapter)
  else if ¬ requested_deltas then
    if is_ok result then (false, { adapter with delta_no_progress_count := 0 })
    else (false, adapter)
  else if is_network_error result then (false, adapter)
  else if ¬ had_updates then (false, { adapter with delta_no_progress_count := 0 })
  else if is_ok result ∧ lcut_advanced pre_lcut post_lcut then
    (false, { adapter with delta_no_progress_count := 0 })
  else
    let count := (adapter.delta_no_progress_count + 1) % u32_size
    let now_ms := (max now 0).toNat
    let adapter := { adapter with delta_no_progress_count := count }
    if forced_resync_due count adapter.delta_no_progress_threshold
        adapter.last_forced_full_resync_at_ms now_ms MIN_FORCED_FULL_RESYNC_INTERVAL_MS then
      (true, { adapter with
        use_deltas_next_request := false
        last_forced_full_resync_at_ms := now_ms
        delta_no_progress_count := 0 })
    else (false, adapter)

end StatsigHttpSpecsAdapter

/-! ## Syncs -/

/-- What a request brings, and what the listener makes of the response. -/
structure Exchange where
  response : Except NetworkError ResponseData
  applied : Except StatsigErr Unit

/-- One call of `manually_sync_specs` with all that it is told. The fallback exchange
takes place only when a fallback is attempted. -/
structure Sync where
  trigger : SpecsSyncTrigger
  listener_set : Bool := true
  current_specs_info : SpecsInfo
  first : Exchange
  fallback : Exchange
  post_lcut : Option Nat
  now : Int

inductive SyncEvent where
  | Request (args : RequestArgs)
  | Applied (requested_deltas : Bool) (result : Except StatsigErr Unit)
  | Forced

/-- What a sync did. -/
structure SyncRecord where
  trigger : SpecsSyncTrigger
  pre_lcut : Option Nat
  deltas_used : Bool
  had_updates : Bool
  result : Except StatsigErr Unit
  post_lcut : Option Nat
  now : Int
  forced : Bool
  events : List SyncEvent

namespace StatsigHttpSpecsAdapter

variable (adapter : StatsigHttpSpecsAdapter)

def exchange_events (args : RequestArgs) (exchange : Exchange) : List SyncEvent :=
  match exchange.response with
  | .error _ => [.Request args]
  | .ok _ => [.Request args, .Applied args.deltas_enabled exchange.applied]

/-- A request, and the adapter after its response. -/
def exchanged (args : RequestArgs) (exchange : Exchange) :
    ProcessSpecDataOutcome × StatsigHttpSpecsAdapter :=
  adapter.process_spec_data
    (exchange.response.map fun data => { data, requested_deltas := args.deltas_enabled })
    exchange.applied

/-- The end of a sync. -/
def finish_sync (sync : Sync) (deltas_used : Bool) (outcome : ProcessSpecDataOutcome)
    (events : List SyncEvent) : SyncRecord × StatsigHttpSpecsAdapter :=
  let (forced, adapter) := adapter.maybe_force_full_resync_on_stalled_deltas sync.trigger
    sync.current_specs_info.lcut deltas_used outcome.had_updates outcome.result sync.post_lcut
    sync.now
  ({ trigger := sync.trigger, pre_lcut := sync.current_specs_info.lcut, deltas_used,
     had_updates := outcome.had_updates, result := outcome.result, post_lcut := sync.post_lcut,
     now := sync.now, forced, events := if forced then events ++ [.Forced] else events },
    adapter)

/-- A fallback goes to the other URL. -/
def fallback_args (args : RequestArgs) : RequestArgs :=
  match adapter.fallback_url with
  | some url => { args with url := construct_specs_url url adapter.sdk_key }
  | none => args

/-- `none` is the error of an adapter without a listener, before anything is requested. -/
def manually_sync_specs (sync : Sync) : Option SyncRecord × StatsigHttpSpecsAdapter :=
  if ¬ sync.listener_set then (none, adapter)
  else
    let args := adapter.get_request_args sync.current_specs_info sync.trigger
    let (outcome, adapter) := adapter.exchanged args sync.first
    let events := exchange_events args sync.first
    let (fallback, adapter) := adapter.should_attempt_fallback sync.trigger outcome.result
    if fallback then
      let args := adapter.fallback_args
        (adapter.get_request_args sync.current_specs_info sync.trigger)
      let (outcome, adapter) := adapter.exchanged args sync.fallback
      let (record, adapter) := adapter.finish_sync sync args.deltas_enabled outcome
        (events ++ exchange_events args sync.fallback)
      (some record, adapter)
    else
      let (record, adapter) := adapter.finish_sync sync args.deltas_enabled outcome events
      (some record, adapter)

end StatsigHttpSpecsAdapter

/-- An adapter and what its syncs did, the newest first. -/
structure Syncs where
  adapter : StatsigHttpSpecsAdapter
  past : List SyncRecord := []

namespace Syncs

def sync (s : Syncs) (sync : Sync) : Syncs :=
  let (record, adapter) := s.adapter.manually_sync_specs sync
  { adapter, past := record.toList ++ s.past }

/-- One sync after the other. -/
def run (s : Syncs) (syncs : List Sync) : Syncs := syncs.foldl sync s

/-- What happened, in the order of time. -/
def events (s : Syncs) : List SyncEvent := s.past.reverse.flatMap (·.events)

end Syncs

end statsig_rust.http_specs_adapter
