-- The network client (`networking/network_client.rs`): one request, with its retries. What the
-- provider answers to each attempt, and what the shutdown flags show before it, comes from outside.
import StatsigCore.SpecsAdapter.HttpSpecsAdapter

namespace statsig_rust.networking

open http_specs_adapter (NetworkError)

/-! ## Requests and responses -/

def NON_RETRY_CODES : List Nat := [400, 403, 413, 405, 429, 501]

/-- What marks an error of the client's own configuration. -/
def CLIENT_CONFIG_ERROR_PREFIX : String := "\x01cfg-err\x01"

inductive KeyType where
  | Initialize | Overall | DownloadConfigSpecs | GetIDList | GetIDListSources
deriving DecidableEq

/-- `read_to_string` of the body is `none` when the bytes are no text. -/
structure ResponseData where
  text : Option String
  headers : Option (HashMap String String) := none

def ResponseData.get_header_ref (data : ResponseData) (key : String) : Option String :=
  data.headers.bind (·.get key)

structure Response where
  status_code : Option Nat
  data : Option ResponseData
  error : Option String

/-- The flag of a request is read before each attempt. -/
structure RequestArgs where
  url : String
  retries : Nat := 0
  headers : Option (HashMap String String) := none
  is_shutdown : Option (Nat → Bool) := none
  diagnostics_key : Option KeyType := none
  proxy_config : Option String := none
  ca_cert_pem : Option (List Nat) := none
  disable_file_streaming : Option Bool := none
  log_event_connection_reuse : Bool := false

/-- What is logged about an error, to be posted by the observer of the errors. -/
structure ErrorBoundaryEvent where
  tag : String
  info : String
  exception : String
  dedupe_key : Option String := none
  bypass_dedupe : Bool
  extra : Option (HashMap String String) := none

/-- `error_info` is `serde_json::to_string` of an error. -/
structure NetworkClient where
  error_info : NetworkError → String
  headers : HashMap String String
  is_shutdown : Nat → Bool
  disable_network : Bool := false
  proxy_config : Option String := none
  ca_cert_pem : Option (List Nat) := none
  silent_on_network_failure : Bool := false
  disable_file_streaming : Bool := false
  log_event_connection_reuse : Bool := false

/-- The answer of the provider to an attempt, or `none` when there is no provider any more. -/
abbrev Network := RequestArgs → Nat → Option Response

/-! ## Messages -/

def is_success (status : Option Nat) : Bool := 200 ≤ status.getD 0 && status.getD 0 < 300

/-- A status with a name of its own. -/
def generic_message (status : Nat) : Option String :=
  if status = 400 then some "Bad Request"
  else if status = 401 then some "Unauthorized"
  else if status = 403 then some "Forbidden"
  else if status = 404 then some "Not Found"
  else if status = 405 then some "Method Not Allowed"
  else if status = 406 then some "Not Acceptable"
  else if status = 408 then some "Request Timeout"
  else if status = 500 then some "Internal Server Error"
  else if status = 502 then some "Bad Gateway"
  else if status = 503 then some "Service Unavailable"
  else if status = 504 then some "Gateway Timeout"
  else if status = 0 then some "Unknown Error"
  else none

def get_error_message_for_status (status : Option Nat) (data : Option ResponseData) : String :=
  if is_success status then ""
  else
    let text := (data.bind (·.text)).getD ""
    let message := if text.toList.all (·.toNat < 128) then text else ""
    match status with
    | none => "HTTP Error None: " ++ message
    | some code =>
      match generic_message code with
      | none => "HTTP Error " ++ toString code ++ ": " ++ message
      | some generic => if message = "" then generic else generic ++ ": " ++ message

def strip_prefix (text pattern : String) : Option String :=
  if pattern.toList.isPrefixOf text.toList then
    some (String.ofList (text.toList.drop pattern.toList.length))
  else none

/-- The message of a response, and whether it is about the configuration. -/
def error_of (response : Response) : String × Bool :=
  let raw := response.error.getD (get_error_message_for_status response.status_code response.data)
  match strip_prefix raw CLIENT_CONFIG_ERROR_PREFIX with
  | some stripped => (stripped, true)
  | none => (raw, false)

def NetworkError.name : NetworkError → String
  | .ShutdownError _ => "ShutdownError"
  | .DisableNetworkOn _ => "DisableNetworkOn"
  | .SerializationError _ _ => "SerializationError"
  | .RequestFailed _ _ _ => "RequestFailed"
  | .RetriesExhausted _ _ _ _ => "RetriesExhausted"
  | .RequestNotRetryable _ _ _ => "RequestNotRetryable"

/-! ## What a request does -/

/-- A marker of the diagnostics. The end of an attempt has the rest of the fields. -/
structure EndMarker where
  success : Bool
  content_type : Option String
  sdk_region : Option String
  status_code : Option Nat
  error : Option (HashMap String String)

inductive Effect where
  | start_marker (key : KeyType) (attempt : Nat) (url : String)
  | end_marker (key : KeyType) (attempt : Nat) (url : String) (marker : EndMarker)
  | send (attempt : Nat)
  | log_error (event : ErrorBoundaryEvent)
  | sleep (ms : Nat)

/-- `format!("{:?}", ..)` of the key. -/
def debug_key : Option KeyType → String
  | none => "None"
  | some .Initialize => "Some(Initialize)"
  | some .Overall => "Some(Overall)"
  | some .DownloadConfigSpecs => "Some(DownloadConfigSpecs)"
  | some .GetIDList => "Some(GetIDList)"
  | some .GetIDListSources => "Some(GetIDListSources)"

/-- `2_u64.pow(attempt) * 100`. -/
def backoff_ms (attempt : Nat) : Nat := 2 ^ attempt * 100 % 2 ^ 64

namespace NetworkClient

variable (client : NetworkClient)

/-- The arguments as they are sent. A header of the client takes the place of one of the request,
and the time is the clock's. -/
def prepare (args : RequestArgs) (now now' : String) : RequestArgs :=
  -- `populate_headers`
  let populated := [("STATSIG-CLIENT-TIME", now)] ++ client.headers ++ args.headers.getD []
  let merged := [("STATSIG-CLIENT-TIME", now')] ++ client.headers ++ populated
  { args with
    headers := some merged
    disable_file_streaming :=
      some (args.disable_file_streaming.getD client.disable_file_streaming)
    ca_cert_pem := args.ca_cert_pem.or client.ca_cert_pem
    log_event_connection_reuse :=
      args.log_event_connection_reuse || client.log_event_connection_reuse
    proxy_config := client.proxy_config.or args.proxy_config }

def shutdown_flag (args : RequestArgs) : Nat → Bool := args.is_shutdown.getD client.is_shutdown

/-- What `log_warning` logs about an error of a request. -/
def error_event (args : RequestArgs) (error : NetworkError) : ErrorBoundaryEvent where
  tag := "NetworkClient"
  info := client.error_info error
  exception := NetworkError.name error
  dedupe_key := some (debug_key args.diagnostics_key)
  bypass_dedupe := false

def log_warning (args : RequestArgs) (error : NetworkError) : List Effect :=
  if client.silent_on_network_failure then [] else [.log_error (client.error_event args error)]

def end_marker (response : Response) : EndMarker where
  success := is_success response.status_code
  content_type := response.data.bind (·.get_header_ref "content-type")
  sdk_region := response.data.bind (·.get_header_ref "x-statsig-region")
  status_code := response.status_code
  error :=
    let message := (error_of response).1
    if message = "" then none
    else some [("name", "NetworkError"), ("message", message),
      ("code", (response.status_code.map toString).getD "None")]

/-- What an answer comes to: the end of the request, or a wait before the next attempt. -/
def judge (args : RequestArgs) (attempt : Nat) (response : Response) :
    List Effect × Option (Except NetworkError Response) :=
  let (message, is_config_error) := error_of response
  if is_success response.status_code then ([], some (.ok response))
  else if is_config_error then
    let error := NetworkError.RequestNotRetryable args.url none message
    (client.log_warning args error, some (.error error))
  else if response.status_code.getD 0 ∈ NON_RETRY_CODES then
    let error := NetworkError.RequestNotRetryable args.url response.status_code message
    (client.log_warning args error, some (.error error))
  else if args.retries ≤ attempt then
    let error := NetworkError.RetriesExhausted args.url response.status_code (attempt + 1) message
    (client.log_warning args error, some (.error error))
  else ([.sleep (backoff_ms (attempt + 1))], none)

/-- One turn of the loop. -/
def turn (args : RequestArgs) (net : Network) (attempt : Nat) :
    List Effect × Option (Except NetworkError Response) :=
  let start := args.diagnostics_key.toList.map (.start_marker · attempt args.url)
  if client.shutdown_flag args attempt then (start, some (.error (.ShutdownError args.url)))
  else
    match net args attempt with
    | none =>
      (start, some (.error
        (.RequestFailed args.url none "Failed to get a NetworkProvider instance")))
    | some response =>
      let ended := args.diagnostics_key.toList.map
        (.end_marker · attempt args.url (end_marker response))
      let (effects, result) := client.judge args attempt response
      (start ++ .send attempt :: ended ++ effects, result)

/-- The loop from an attempt on, for so many turns. -/
def attempts (args : RequestArgs) (net : Network) :
    Nat → Nat → List Effect × Option (Except NetworkError Response)
  | 0, _ => ([], none)
  | turns + 1, attempt =>
    let (effects, result) := client.turn args net attempt
    match result with
    | some result => (effects, some result)
    | none =>
      let (more, result) := attempts args net turns (attempt + 1)
      (effects ++ more, result)

/-- `make_request`. There are never more turns than retries and one. -/
def make_request (args : RequestArgs) (net : Network) (now now' : String) :
    List Effect × Option (Except NetworkError Response) :=
  if client.disable_network then ([], some (.error (.DisableNetworkOn args.url)))
  else client.attempts (client.prepare args now now') net (args.retries + 1) 0

end NetworkClient

/-! ## Attempts -/

def sends (effects : List Effect) : List Nat :=
  effects.filterMap fun effect => match effect with
    | .send attempt => some attempt
    | _ => none

def sleeps (effects : List Effect) : List Nat :=
  effects.filterMap fun effect => match effect with
    | .sleep ms => some ms
    | _ => none

/-- The attempts that a start marker is about. -/
def starts (effects : List Effect) : List Nat :=
  effects.filterMap fun effect => match effect with
    | .start_marker _ attempt _ => some attempt
    | _ => none

def ends (effects : List Effect) : List Nat :=
  effects.filterMap fun effect => match effect with
    | .end_marker _ attempt _ _ => some attempt
    | _ => none

def log_errors (effects : List Effect) : List ErrorBoundaryEvent :=
  effects.filterMap fun effect => match effect with
    | .log_error event => some event
    | _ => none

section

variable (effects more : List Effect)

@[simp] theorem sends_append : sends (effects ++ more) = sends effects ++ sends more :=
  List.filterMap_append

@[simp] theorem sleeps_append : sleeps (effects ++ more) = sleeps effects ++ sleeps more :=
  List.filterMap_append

@[simp] theorem starts_append : starts (effects ++ more) = starts effects ++ starts more :=
  List.filterMap_append

@[simp] theorem ends_append : ends (effects ++ more) = ends effects ++ ends more :=
  List.filterMap_append

@[simp] theorem log_errors_append :
    log_errors (effects ++ more) = log_errors effects ++ log_errors more :=
  List.filterMap_append

end

/-- An answer that is worth another attempt. -/
structure Retryable (response : Response) : Prop where
  no_success : is_success response.status_code = false
  no_config_error : (error_of response).2 = false
  no_code : response.status_code.getD 0 ∉ NON_RETRY_CODES

/-- An attempt that was answered in vain. -/
structure Passed (client : NetworkClient) (args : RequestArgs) (net : Network) (attempt : Nat) :
    Prop where
  running : client.shutdown_flag args attempt = false
  answer : ∃ response, net args attempt = some response ∧ Retryable response

/-- How a request ends at an attempt, after so many sends. -/
inductive Ends (client : NetworkClient) (args : RequestArgs) (net : Network) (attempt : Nat) :
    Nat → Except NetworkError Response → Prop where
  | shutdown (h : client.shutdown_flag args attempt) :
    Ends client args net attempt attempt (.error (.ShutdownError args.url))
  | no_provider (h : client.shutdown_flag args attempt = false) (hnet : net args attempt = none) :
    Ends client args net attempt attempt
      (.error (.RequestFailed args.url none "Failed to get a NetworkProvider instance"))
  | success (response : Response) (h : client.shutdown_flag args attempt = false)
      (hnet : net args attempt = some response) (hok : is_success response.status_code) :
    Ends client args net attempt (attempt + 1) (.ok response)
  | config_error (response : Response) (h : client.shutdown_flag args attempt = false)
      (hnet : net args attempt = some response) (hfail : is_success response.status_code = false)
      (hconfig : (error_of response).2) :
    Ends client args net attempt (attempt + 1)
      (.error (.RequestNotRetryable args.url none (error_of response).1))
  | not_retryable (response : Response) (h : client.shutdown_flag args attempt = false)
      (hnet : net args attempt = some response) (hfail : is_success response.status_code = false)
      (hconfig : (error_of response).2 = false)
      (hcode : response.status_code.getD 0 ∈ NON_RETRY_CODES) :
    Ends client args net attempt (attempt + 1)
      (.error (.RequestNotRetryable args.url response.status_code (error_of response).1))
  | exhausted (response : Response) (h : client.shutdown_flag args attempt = false)
      (hnet : net args attempt = some response) (hretry : Retryable response)
      (hlast : args.retries ≤ attempt) :
    Ends client args net attempt (attempt + 1)
      (.error (.RetriesExhausted args.url response.status_code (attempt + 1) (error_of response).1))

/-- The errors that a request reports: the ones that an answer led to. -/
def reported (client : NetworkClient) (args : RequestArgs) :
    Except NetworkError Response → List ErrorBoundaryEvent
  | .error (.RequestNotRetryable url status message) =>
    if client.silent_on_network_failure then []
    else [client.error_event args (.RequestNotRetryable url status message)]
  | .error (.RetriesExhausted url status attempts message) =>
    if client.silent_on_network_failure then []
    else [client.error_event args (.RetriesExhausted url status attempts message)]
  | _ => []

/-- What a part of a request did: the attempts from `first` on that were sent and waited out, and
the markers, which a request has if it has a key. -/
structure Did (args : RequestArgs) (first sent waited started : Nat)
    (errors : List ErrorBoundaryEvent)
    (effects : List Effect) : Prop where
  sends : sends effects = List.range' first sent
  sleeps : sleeps effects = (List.range' first waited).map fun attempt => backoff_ms (attempt + 1)
  starts : starts effects = if args.diagnostics_key.isSome then List.range' first started else []
  ends : ends effects = if args.diagnostics_key.isSome then List.range' first sent else []
  log_errors : log_errors effects = errors

section Did

variable {client : NetworkClient} {args : RequestArgs} {net : Network} {attempt : Nat}

/-- An attempt that is waited out stands before the rest. -/
theorem Did.cons {sent waited started : Nat} {errors : List ErrorBoundaryEvent}
    {effects more : List Effect}
    (h : Did args attempt 1 1 1 [] effects)
    (hmore : Did args (attempt + 1) sent waited started errors more) :
    Did args attempt (sent + 1) (waited + 1) (started + 1) errors (effects ++ more) := by
  refine ⟨?_, ?_, ?_, ?_, ?_⟩
  · rw [sends_append, h.sends, hmore.sends]
    rfl
  · rw [sleeps_append, h.sleeps, hmore.sleeps]
    rfl
  · rw [starts_append, h.starts, hmore.starts]
    split <;> rfl
  · rw [ends_append, h.ends, hmore.ends]
    split <;> rfl
  · rw [log_errors_append, h.log_errors, hmore.log_errors]
    rfl

theorem did_start (args : RequestArgs) (attempt : Nat) :
    Did args attempt 0 0 1 []
      (args.diagnostics_key.toList.map (.start_marker · attempt args.url)) := by
  cases hkey : args.diagnostics_key with
  | none => exact ⟨rfl, rfl, by rw [hkey]; rfl, by rw [hkey]; rfl, rfl⟩
  | some key => exact ⟨rfl, rfl, by rw [hkey]; rfl, by rw [hkey]; rfl, rfl⟩

/-- An attempt that is sent, with what its answer leads to. -/
theorem did_answered (args : RequestArgs) (attempt : Nat) (marker : EndMarker)
    {waited : Nat} {errors : List ErrorBoundaryEvent} {effects : List Effect}
    (hsends : sends effects = []) (hstarts : starts effects = []) (hends : ends effects = [])
    (hsleeps : sleeps effects = (List.range' attempt waited).map fun i => backoff_ms (i + 1))
    (herrors : log_errors effects = errors) :
    Did args attempt 1 waited 1 errors
      (args.diagnostics_key.toList.map (.start_marker · attempt args.url) ++
        .send attempt :: args.diagnostics_key.toList.map
          (.end_marker · attempt args.url marker) ++ effects) := by
  cases hkey : args.diagnostics_key with
  | none =>
    refine ⟨?_, ?_, ?_, ?_, ?_⟩
    · rw [sends_append, hsends]
      rfl
    · rw [sleeps_append, hsleeps]
      rfl
    · rw [starts_append, hstarts, hkey]
      rfl
    · rw [ends_append, hends, hkey]
      rfl
    · rw [log_errors_append, herrors]
      rfl
  | some key =>
    refine ⟨?_, ?_, ?_, ?_, ?_⟩
    · rw [sends_append, hsends]
      rfl
    · rw [sleeps_append, hsleeps]
      rfl
    · rw [starts_append, hstarts, hkey]
      rfl
    · rw [ends_append, hends, hkey]
      rfl
    · rw [log_errors_append, herrors]
      rfl

theorem log_warning_quiet (client : NetworkClient) (args : RequestArgs) (error : NetworkError) :
    sends (client.log_warning args error) = [] ∧ starts (client.log_warning args error) = [] ∧
      ends (client.log_warning args error) = [] ∧ sleeps (client.log_warning args error) = [] := by
  unfold NetworkClient.log_warning
  split <;> exact ⟨rfl, rfl, rfl, rfl⟩

theorem log_errors_log_warning (client : NetworkClient) (args : RequestArgs)
    (error : NetworkError) : log_errors (client.log_warning args error) =
      if client.silent_on_network_failure then [] else [client.error_event args error] := by
  unfold NetworkClient.log_warning
  split <;> rfl

/-- An answer that ends the request with an error, which is reported. -/
theorem did_warned (args : RequestArgs) (attempt : Nat) (marker : EndMarker)
    {error : NetworkError} (hreported : reported client args (.error error) =
      if client.silent_on_network_failure then [] else [client.error_event args error]) :
    Did args attempt 1 0 1 (reported client args (.error error))
      (args.diagnostics_key.toList.map (.start_marker · attempt args.url) ++
        .send attempt :: args.diagnostics_key.toList.map
          (.end_marker · attempt args.url marker) ++ client.log_warning args error) := by
  obtain ⟨hsends, hstarts, hends, hsleeps⟩ := log_warning_quiet client args error
  refine did_answered args attempt marker hsends hstarts hends hsleeps ?_
  rw [log_errors_log_warning, hreported]

/-- What one turn comes to: it passes, with retries left, or it ends the request. -/
theorem turn_spec (client : NetworkClient) (args : RequestArgs) (net : Network) (attempt : Nat) :
    ∃ effects, (client.turn args net attempt = (effects, none) ∧ attempt < args.retries ∧
        Passed client args net attempt ∧ Did args attempt 1 1 1 [] effects) ∨
      ∃ result sent, client.turn args net attempt = (effects, some result) ∧
        Ends client args net attempt (attempt + sent) result ∧
        Did args attempt sent 0 1 (reported client args result) effects := by
  unfold NetworkClient.turn
  dsimp only
  cases hflag : client.shutdown_flag args attempt with
  | true => exact ⟨_, .inr ⟨_, 0, rfl, .shutdown hflag, did_start args attempt⟩⟩
  | false =>
    cases hnet : net args attempt with
    | none => exact ⟨_, .inr ⟨_, 0, rfl, .no_provider hflag hnet, did_start args attempt⟩⟩
    | some response =>
      simp only [Bool.false_eq_true, if_false]
      unfold NetworkClient.judge
      dsimp only
      cases hok : is_success response.status_code with
      | true =>
        refine ⟨_, .inr ⟨_, 1, rfl, .success response hflag hnet hok, ?_⟩⟩
        exact did_answered args attempt _ rfl rfl rfl rfl rfl
      | false =>
        cases hconfig : (error_of response).2 with
        | true =>
          refine ⟨_, .inr ⟨_, 1, rfl, .config_error response hflag hnet hok hconfig, ?_⟩⟩
          exact did_warned args attempt _ rfl
        | false =>
          by_cases hcode : response.status_code.getD 0 ∈ NON_RETRY_CODES
          · simp only [Bool.false_eq_true, if_false, if_pos hcode]
            refine ⟨_, .inr ⟨_, 1, rfl, .not_retryable response hflag hnet hok hconfig hcode, ?_⟩⟩
            exact did_warned args attempt _ rfl
          · have hretry : Retryable response := ⟨hok, hconfig, hcode⟩
            simp only [Bool.false_eq_true, if_false, if_neg hcode]
            by_cases hlast : args.retries ≤ attempt
            · rw [if_pos hlast]
              refine ⟨_, .inr ⟨_, 1, rfl, .exhausted response hflag hnet hretry hlast, ?_⟩⟩
              exact did_warned args attempt _ rfl
            · rw [if_neg hlast]
              refine ⟨_, .inl ⟨rfl, by omega, ⟨hflag, response, hnet, hretry⟩, ?_⟩⟩
              exact did_answered args attempt _ rfl rfl rfl rfl rfl

/-- The loop from an attempt on, with a turn for each attempt that is left. -/
theorem attempts_spec (client : NetworkClient) (args : RequestArgs) (net : Network) (turns : Nat) :
    ∀ attempt, attempt + turns = args.retries + 1 → 0 < turns →
      ∃ waited sent result effects,
        client.attempts args net turns attempt = (effects, some result) ∧
        attempt + waited ≤ args.retries ∧
        (∀ i, attempt ≤ i → i < attempt + waited → Passed client args net i) ∧
        Ends client args net (attempt + waited) (attempt + sent) result ∧
        Did args attempt sent waited (waited + 1) (reported client args result) effects := by
  induction turns with
  | zero => exact fun _ _ hpos => absurd hpos (Nat.lt_irrefl 0)
  | succ turns ih =>
    intro attempt hturns _
    obtain ⟨effects, hturn | hturn⟩ := turn_spec client args net attempt
    · obtain ⟨heq, hmore, hpassed, hdid⟩ := hturn
      obtain ⟨waited, sent, result, more, hrest, hle, hall, hends, hmore⟩ :=
        ih (attempt + 1) (by omega) (by omega)
      refine ⟨waited + 1, sent + 1, result, effects ++ more, ?_, by omega, ?_, ?_, hdid.cons hmore⟩
      · unfold NetworkClient.attempts
        rw [heq]
        dsimp only
        rw [hrest]
      · intro i hle hlt
        rcases Nat.eq_or_lt_of_le hle with rfl | hgt
        · exact hpassed
        · exact hall i hgt (by omega)
      · have hwaited : attempt + 1 + waited = attempt + (waited + 1) := by omega
        have hsent : attempt + 1 + sent = attempt + (sent + 1) := by omega
        rw [← hwaited, ← hsent]
        exact hends
    · obtain ⟨result, sent, heq, hends, hdid⟩ := hturn
      refine ⟨0, sent, result, effects, ?_, by omega, fun i hle hlt => by omega, hends, hdid⟩
      unfold NetworkClient.attempts
      rw [heq]

end Did

/-- What an end says about the attempts that were sent: none of them was sent with the flag up. -/
theorem Ends.sent_running {client : NetworkClient} {args : RequestArgs} {net : Network}
    {attempt sent : Nat} {result : Except NetworkError Response}
    (h : Ends client args net attempt sent result) :
    sent = attempt ∨ sent = attempt + 1 ∧ client.shutdown_flag args attempt = false := by
  cases h with
  | shutdown _ => exact .inl rfl
  | no_provider _ _ => exact .inl rfl
  | success response hflag _ _ => exact .inr ⟨rfl, hflag⟩
  | config_error response hflag _ _ _ => exact .inr ⟨rfl, hflag⟩
  | not_retryable response hflag _ _ _ _ => exact .inr ⟨rfl, hflag⟩
  | exhausted response hflag _ _ _ => exact .inr ⟨rfl, hflag⟩

/-- A request on a network that is not disabled, with the attempts that it made. -/
theorem make_request_spec (client : NetworkClient) (args : RequestArgs) (net : Network)
    (now now' : String) (henabled : client.disable_network = false) :
    ∃ waited sent result effects,
      client.make_request args net now now' = (effects, some result) ∧
      waited ≤ args.retries ∧
      (∀ i < waited, Passed client (client.prepare args now now') net i) ∧
      Ends client (client.prepare args now now') net waited sent result ∧
      Did args 0 sent waited (waited + 1) (reported client args result) effects := by
  unfold NetworkClient.make_request
  rw [henabled]
  obtain ⟨waited, sent, result, effects, hrun, hle, hall, hends, hdid⟩ :=
    attempts_spec client (client.prepare args now now') net (args.retries + 1) 0
      (Nat.zero_add _) (Nat.succ_pos _)
  rw [Nat.zero_add] at hle hends
  rw [Nat.zero_add] at hends
  exact ⟨waited, sent, result, effects, hrun, hle,
    fun i hi => hall i (Nat.zero_le i) (by omega), hends,
    ⟨hdid.sends, hdid.sleeps, hdid.starts, hdid.ends, hdid.log_errors⟩⟩

theorem make_request_disabled (client : NetworkClient) (args : RequestArgs) (net : Network)
    (now now' : String) (hdisabled : client.disable_network = true) :
    client.make_request args net now now' = ([], some (.error (.DisableNetworkOn args.url))) :=
  if_pos hdisabled

/-- A request on a network that is not disabled always ends, at an attempt that is not past its
retries: all the attempts before were answered in vain and waited out, each for its backoff, and the
last answer decides. No attempt is sent once the flag of the shutdown is up, and the markers and
errors are those of the attempts. -/
theorem make_request_ends (client : NetworkClient) (args : RequestArgs) (net : Network)
    (now now' : String) :
    (client.disable_network ∧
      client.make_request args net now now' = ([], some (.error (.DisableNetworkOn args.url)))) ∨
    ∃ waited sent result effects,
      client.make_request args net now now' = (effects, some result) ∧
      waited ≤ args.retries ∧
      (∀ i < waited, Passed client (client.prepare args now now') net i) ∧
      Ends client (client.prepare args now now') net waited sent result ∧
      Did args 0 sent waited (waited + 1) (reported client args result) effects ∧
      ∀ i ∈ sends effects, client.shutdown_flag args i = false := by
  cases hdisabled : client.disable_network with
  | true => exact .inl ⟨rfl, make_request_disabled client args net now now' hdisabled⟩
  | false =>
    obtain ⟨waited, sent, result, effects, hrun, hle, hpassed, hends, hdid⟩ :=
      make_request_spec client args net now now' hdisabled
    refine .inr ⟨waited, sent, result, effects, hrun, hle, hpassed, hends, hdid, ?_⟩
    intro i hi
    rw [hdid.sends, List.mem_range'_1] at hi
    rcases hends.sent_running with rfl | ⟨rfl, hflag⟩
    · exact (hpassed i (by omega)).running
    · rcases Nat.lt_or_ge i waited with hlt | hge
      · exact (hpassed i hlt).running
      · have hlast : i = waited := by omega
        rw [hlast]
        exact hflag

end statsig_rust.networking
