-- The observer of the errors (`observability/sdk_errors_observer.rs`): it counts the errors of each
-- key and posts the first one, until so many keys have been seen that it starts anew. It handles one
-- error after the other. Whether it gets the lock in time comes with each error.
import Mathlib.Data.Finset.Card
import StatsigCore.Library.FirstWins
import StatsigCore.Networking.NetworkClient

namespace statsig_rust.networking

/-- What errors are counted by. -/
def ErrorBoundaryEvent.key (e : ErrorBoundaryEvent) : String :=
  e.dedupe_key.getD (e.tag ++ ":" ++ e.exception)

/-- The entries of the JSON object. -/
def ErrorBoundaryEvent.to_value (e : ErrorBoundaryEvent) : List (String × JsonValue) :=
  [("tag", .string e.tag), ("info", .string e.info), ("exception", .string e.exception)] ++
    (e.dedupe_key.toList.map fun key => ("dedupeKey", .string key)) ++
    [("bypassDedupe", .bool e.bypass_dedupe)] ++
    e.extra.toList.map fun extra =>
      ("extra", .object (extra.map fun entry => (entry.1, .string entry.2)))

def NetworkClient.mute_network_error_log (client : NetworkClient) : NetworkClient :=
  { client with silent_on_network_failure := true }

end statsig_rust.networking

namespace statsig_rust.observability

open networking

def STATSIG_SDK_EXCEPTION_URL : String := "https://statsigapi.net/v1/sdk_exception"

def MAX_SEEN_ERRORS : Nat := 1000

structure SDKErrorsObserver where
  errors_aggregator : HashMap String Nat := []
  network_client : NetworkClient
  statsig_options_logging_copy : String
  sdk_exception_url : String := STATSIG_SDK_EXCEPTION_URL

namespace SDKErrorsObserver

def new (network_client : NetworkClient) (options_logging_copy : String) : SDKErrorsObserver where
  network_client := network_client.mute_network_error_log
  statsig_options_logging_copy := options_logging_copy

/-- The observer afterwards, and the error that goes on to `log_exception`, if it does. -/
def handle_eb_event (observer : SDKErrorsObserver) (e : ErrorBoundaryEvent) (granted : Bool) :
    SDKErrorsObserver × Option ErrorBoundaryEvent :=
  if granted then
    let aggregator : HashMap String Nat :=
      if MAX_SEEN_ERRORS ≤ observer.errors_aggregator.len then [] else observer.errors_aggregator
    let count := ((aggregator.get e.key).getD 0 + 1) % 2 ^ 32
    ({ observer with errors_aggregator := aggregator.insert e.key count },
      if 1 < count ∧ ¬e.bypass_dedupe then none else some e)
  else (observer, none)

/-- The request and the body of `log_exception`. -/
def exception_request (observer : SDKErrorsObserver) (e : ErrorBoundaryEvent) :
    RequestArgs × JsonValue :=
  ({ url := observer.sdk_exception_url, retries := 0 },
    .object (e.to_value ++ [("statsigOptions", .string observer.statsig_options_logging_copy)]))

/-- What `log_exception` does on the network. Nobody looks at the result. -/
def log_exception (observer : SDKErrorsObserver) (e : ErrorBoundaryEvent) (net : Network)
    (now now' : String) : List Effect :=
  (observer.network_client.make_request (observer.exception_request e).1 net now now').1

/-- All the errors in turn, with those that are posted. -/
def handle_all (observer : SDKErrorsObserver) :
    List (ErrorBoundaryEvent × Bool) → SDKErrorsObserver × List ErrorBoundaryEvent
  | [] => (observer, [])
  | (e, granted) :: calls =>
    let (observer, posted) := observer.handle_eb_event e granted
    let (observer, more) := handle_all observer calls
    (observer, posted.toList ++ more)

end SDKErrorsObserver

/-! ## Windows -/

/-- The errors that the observer had the lock for. -/
def counted (calls : List (ErrorBoundaryEvent × Bool)) : List ErrorBoundaryEvent :=
  (calls.filter Prod.snd).map Prod.fst

def keys (events : List ErrorBoundaryEvent) : List String := events.map (·.key)

/-- How many keys the errors have. -/
def kinds (events : List ErrorBoundaryEvent) : Nat := (keys events).toFinset.card

/-- Errors that the observer counts without starting anew. -/
def Open (events : List ErrorBoundaryEvent) : Prop := kinds events.dropLast < MAX_SEEN_ERRORS

/-- The errors after which it starts anew. -/
structure Full (events : List ErrorBoundaryEvent) : Prop where
  opened : Open events
  kinds : kinds events = MAX_SEEN_ERRORS

/-- An error goes out if it bypasses the count, or if the count of its key, which is 32 bits wide,
was zero or wraps around to it. -/
def Fresh (seen : List String) (e : ErrorBoundaryEvent) : Prop :=
  e.bypass_dedupe = true ∨ (seen.count e.key + 1) % 2 ^ 32 ≤ 1

instance (seen : List String) (e : ErrorBoundaryEvent) : Decidable (Fresh seen e) :=
  inferInstanceAs (Decidable (_ ∨ _))

/-- Of the errors of one window, those that go out. -/
def fresh_ones (seen : List String) : List ErrorBoundaryEvent → List ErrorBoundaryEvent
  | [] => []
  | e :: events =>
    (if Fresh seen e then [e] else []) ++ fresh_ones (e.key :: seen) events

theorem kinds_append_singleton (events : List ErrorBoundaryEvent) (e : ErrorBoundaryEvent) :
    kinds (events ++ [e]) ≤ kinds events + 1 := by
  have hset : (keys (events ++ [e])).toFinset = insert e.key (keys events).toFinset := by
    ext key
    simp only [keys, List.map_append, List.map_cons, List.map_nil, List.mem_toFinset,
      List.mem_append, List.mem_singleton, Finset.mem_insert]
    exact or_comm
  unfold kinds
  rw [hset]
  exact Finset.card_insert_le _ _

theorem kinds_le_of_open {events : List ErrorBoundaryEvent} (h : Open events) :
    kinds events ≤ MAX_SEEN_ERRORS := by
  rcases List.eq_nil_or_concat events with rfl | ⟨front, e, rfl⟩
  · exact Nat.zero_le _
  · unfold Open at h
    rw [List.concat_eq_append, List.dropLast_concat] at h
    rw [List.concat_eq_append]
    exact (kinds_append_singleton front e).trans h

theorem open_append_singleton {events : List ErrorBoundaryEvent} (e : ErrorBoundaryEvent)
    (h : kinds events < MAX_SEEN_ERRORS) : Open (events ++ [e]) := by
  unfold Open
  rw [List.dropLast_concat]
  exact h

theorem fresh_ones_append_singleton (seen : List String) (events : List ErrorBoundaryEvent)
    (e : ErrorBoundaryEvent) :
    fresh_ones seen (events ++ [e]) =
      fresh_ones seen events ++ if Fresh ((keys events).reverse ++ seen) e then [e] else [] := by
  induction events generalizing seen with
  | nil => exact List.append_nil _
  | cons first events ih =>
    have hseen : (keys (first :: events)).reverse ++ seen =
        (keys events).reverse ++ first.key :: seen := by
      simp only [keys, List.map_cons, List.reverse_cons, List.append_assoc, List.singleton_append]
    rw [List.cons_append, fresh_ones, fresh_ones, ih, hseen, List.append_assoc]

/-! ## What the observer holds -/

/-- The observer has counted the errors of the window, and no others. -/
structure Holds (observer : SDKErrorsObserver) (events : List ErrorBoundaryEvent) : Prop where
  opened : Open events
  entries : observer.errors_aggregator.map Prod.fst = (keys events).reverse
  counts : ∀ key, (observer.errors_aggregator.get key).getD 0 =
    (keys events).count key % 2 ^ 32

section Holds

variable {observer : SDKErrorsObserver} {events : List ErrorBoundaryEvent}

theorem holds_new (client : NetworkClient) (options : String) :
    Holds (.new client options) [] where
  opened := Nat.succ_pos _
  entries := rfl
  counts _ := rfl

theorem Holds.len (h : Holds observer events) : observer.errors_aggregator.len = kinds events := by
  unfold HashMap.len kinds
  rw [← List.card_toFinset, h.entries, List.toFinset_reverse]

/-- One error more, when the table is not full. -/
theorem Holds.counted (h : Holds observer events) (e : ErrorBoundaryEvent)
    (hroom : kinds events < MAX_SEEN_ERRORS) :
    Holds (observer.handle_eb_event e true).1 (events ++ [e]) ∧
      (observer.handle_eb_event e true).2 =
        if Fresh (keys events).reverse e then some e else none := by
  have hcount := h.counts e.key
  unfold SDKErrorsObserver.handle_eb_event
  rw [if_pos rfl, if_neg (by rw [h.len]; exact Nat.not_le.mpr hroom)]
  refine ⟨⟨open_append_singleton e hroom, ?_, ?_⟩, ?_⟩
  · unfold HashMap.insert
    simp only [List.map_cons, h.entries, keys, List.map_append, List.map_nil, List.reverse_append,
      List.reverse_singleton, List.singleton_append]
  · intro key
    simp only [HashMap.get_insert, keys, List.map_append, List.map_cons, List.map_nil,
      List.count_append, List.count_singleton]
    by_cases hkey : key = e.key
    · subst hkey
      rw [if_pos rfl, Option.getD_some, hcount, Nat.mod_add_mod, beq_self_eq_true]
      rfl
    · rw [if_neg hkey, h.counts key, if_neg (by simpa using Ne.symm hkey)]
      rfl
  · simp only [Fresh, List.count_reverse]
    rw [hcount, Nat.mod_add_mod]
    by_cases hbypass : e.bypass_dedupe = true
    · rw [if_neg (fun hcon => hcon.2 hbypass), if_pos (.inl hbypass)]
    · by_cases hfirst : ((keys events).count e.key + 1) % 2 ^ 32 ≤ 1
      · rw [if_neg (fun hcon => Nat.not_lt.mpr hfirst hcon.1), if_pos (.inr hfirst)]
      · rw [if_pos ⟨Nat.not_le.mp hfirst, hbypass⟩, if_neg (not_or.mpr ⟨hbypass, hfirst⟩)]

/-- One error more, when the table is full. -/
theorem Holds.started_anew (h : Holds observer events) (e : ErrorBoundaryEvent)
    (hfull : MAX_SEEN_ERRORS ≤ kinds events) :
    Holds (observer.handle_eb_event e true).1 [e] ∧
      (observer.handle_eb_event e true).2 = some e := by
  have hempty : Holds { observer with errors_aggregator := [] } [] :=
    ⟨Nat.succ_pos _, rfl, fun _ => rfl⟩
  have hsame : observer.handle_eb_event e true =
      { observer with errors_aggregator := [] }.handle_eb_event e true := by
    unfold SDKErrorsObserver.handle_eb_event
    rw [if_pos rfl, if_pos rfl, if_pos (by rw [h.len]; exact hfull),
      if_neg (by rw [hempty.len]; exact Nat.not_le.mpr (Nat.succ_pos _))]
  rw [hsame]
  obtain ⟨hholds, hposted⟩ := hempty.counted e (Nat.succ_pos _)
  refine ⟨hholds, ?_⟩
  rw [hposted]
  exact if_pos (.inr (Nat.le_refl 1))

end Holds

/-! ## What is posted over a run -/

section

variable (observer : SDKErrorsObserver)

theorem handle_all_cons (e : ErrorBoundaryEvent) (granted : Bool)
    (calls : List (ErrorBoundaryEvent × Bool)) :
    observer.handle_all ((e, granted) :: calls) =
      (((observer.handle_eb_event e granted).1.handle_all calls).1,
        (observer.handle_eb_event e granted).2.toList ++
          ((observer.handle_eb_event e granted).1.handle_all calls).2) := rfl

@[simp] theorem handle_eb_event_network_client (e : ErrorBoundaryEvent) (granted : Bool) :
    (observer.handle_eb_event e granted).1.network_client = observer.network_client := by
  cases granted <;> rfl

@[simp] theorem handle_all_network_client (calls : List (ErrorBoundaryEvent × Bool)) :
    (observer.handle_all calls).1.network_client = observer.network_client := by
  induction calls generalizing observer with
  | nil => rfl
  | cons call calls ih => rw [handle_all_cons, ih, handle_eb_event_network_client]

end

theorem handle_all_from {observer : SDKErrorsObserver} {events : List ErrorBoundaryEvent}
    (h : Holds observer events) (calls : List (ErrorBoundaryEvent × Bool)) :
    ∃ (windows : List (List ErrorBoundaryEvent)) (last : List ErrorBoundaryEvent),
      events ++ counted calls = windows.flatten ++ last ∧ (∀ window ∈ windows, Full window) ∧
      Holds (observer.handle_all calls).1 last ∧
      fresh_ones [] events ++ (observer.handle_all calls).2 =
        (windows.flatMap (fresh_ones [])) ++ fresh_ones [] last := by
  induction calls generalizing observer events with
  | nil =>
    exact ⟨[], events, List.append_nil _, List.forall_mem_nil _, h, List.append_nil _⟩
  | cons call calls ih =>
    obtain ⟨e, granted⟩ := call
    cases granted with
    | false => exact ih h
    | true =>
      rw [handle_all_cons]
      have hcounted : counted ((e, true) :: calls) = [e] ++ counted calls := rfl
      rw [hcounted]
      rcases Nat.lt_or_ge (kinds events) MAX_SEEN_ERRORS with hroom | hfull
      · obtain ⟨hholds, hposted⟩ := h.counted e hroom
        obtain ⟨windows, last, hevents, hwindows, hlast, hrun⟩ := ih hholds
        rw [fresh_ones_append_singleton, List.append_nil] at hrun
        refine ⟨windows, last, ?_, hwindows, hlast, ?_⟩
        · rw [← List.append_assoc]
          exact hevents
        · rw [← hrun, hposted, List.append_assoc]
          split <;> rfl
      · obtain ⟨hholds, hposted⟩ := h.started_anew e hfull
        obtain ⟨windows, last, hevents, hwindows, hlast, hrun⟩ := ih hholds
        have hwindow : Full events := ⟨h.opened, Nat.le_antisymm (kinds_le_of_open h.opened) hfull⟩
        have hfirst : fresh_ones [] [e] = [e] := by
          have hfresh : Fresh [] e := .inr (Nat.le_refl 1)
          rw [fresh_ones, if_pos hfresh]
          rfl
        rw [hfirst] at hrun
        refine ⟨events :: windows, last, ?_, List.forall_mem_cons.mpr ⟨hwindow, hwindows⟩, hlast,
          ?_⟩
        · rw [List.flatten_cons, List.append_assoc, ← hevents]
        · rw [List.flatMap_cons, List.append_assoc, ← hrun, hposted]
          rfl

/-- The errors fall into windows, and each but the last ends with the error that brings the
thousandth key. What is posted of each window are its fresh errors, the first one of each key among
them, and the table holds the keys of the last window, which are a thousand at most. -/
theorem errors_are_posted_by_windows (client : NetworkClient) (options : String)
    (calls : List (ErrorBoundaryEvent × Bool)) :
    let run := (SDKErrorsObserver.new client options).handle_all calls
    ∃ (windows : List (List ErrorBoundaryEvent)) (last : List ErrorBoundaryEvent),
      counted calls = windows.flatten ++ last ∧ (∀ window ∈ windows, Full window) ∧ Open last ∧
      run.2 = (windows.flatMap (fresh_ones [])) ++ fresh_ones [] last ∧
      Holds run.1 last ∧ run.1.errors_aggregator.len = kinds last ∧
      kinds last ≤ MAX_SEEN_ERRORS := by
  intro run
  obtain ⟨windows, last, hevents, hwindows, hlast, hrun⟩ :=
    handle_all_from (holds_new client options) calls
  exact ⟨windows, last, hevents, hwindows, hlast.opened, hrun, hlast, hlast.len,
    kinds_le_of_open hlast.opened⟩

/-- As long as the counts do not wrap around, the fresh errors are the first ones of their keys. -/
theorem fresh_ones_eq_collect {seen : List String} {events : List ErrorBoundaryEvent}
    (hbypass : ∀ e ∈ events, e.bypass_dedupe = false)
    (hfew : seen.length + events.length < 2 ^ 32) :
    fresh_ones seen events = first_wins.collect (fun e => some e.key) seen events := by
  induction events generalizing seen with
  | nil => rfl
  | cons e events ih =>
    obtain ⟨hfirst, hrest⟩ := List.forall_mem_cons.mp hbypass
    rw [List.length_cons] at hfew
    have hfewer : (e.key :: seen).length + events.length < 2 ^ 32 := by
      rw [List.length_cons]
      omega
    have hmore := ih hrest hfewer
    have hle : seen.count e.key ≤ seen.length := List.count_le_length
    rw [fresh_ones, hmore]
    by_cases hseen : e.key ∈ seen
    · have hpos : 0 < seen.count e.key := List.count_pos_iff.mpr hseen
      have hstale : ¬Fresh seen e := by
        unfold Fresh
        rw [hfirst, Nat.mod_eq_of_lt (by omega)]
        rintro (hbypass | hcount)
        · cases hbypass
        · omega
      have hskip := @first_wins.collect_seen _ _ _ (fun e : ErrorBoundaryEvent => some e.key) seen e
        events e.key rfl hseen
      rw [if_neg hstale, hskip, List.nil_append]
      apply first_wins.collect_congr
      intro key
      rw [List.mem_cons]
      exact ⟨fun h => h.elim (fun heq => heq ▸ hseen) id, .inr⟩
    · have hfresh : Fresh seen e := by
        refine .inr ?_
        rw [List.count_eq_zero_of_not_mem hseen]
        exact Nat.le_refl 1
      have htake := @first_wins.collect_new _ _ _ (fun e : ErrorBoundaryEvent => some e.key) seen e
        events e.key rfl hseen
      rw [if_pos hfresh, htake]
      rfl

/-! ## The errors of the network -/

/-- A request of some client, with what it meets. -/
structure Request where
  client : NetworkClient
  args : RequestArgs
  net : Network
  now : String
  now' : String

/-- The errors that the request logs. -/
def Request.errors (request : Request) : List ErrorBoundaryEvent :=
  log_errors (request.client.make_request request.args request.net request.now request.now').1

/-- The keys that a network client counts its errors by. -/
def NETWORK_KEYS : List String :=
  [none, some .Initialize, some .Overall, some .DownloadConfigSpecs, some .GetIDList,
    some .GetIDListSources].map debug_key

theorem debug_key_known (key : Option KeyType) : debug_key key ∈ NETWORK_KEYS := by
  apply List.mem_map_of_mem
  cases key with
  | none => exact List.mem_cons_self
  | some key => cases key <;> decide

theorem Request.errors_cases (request : Request) :
    request.errors = [] ∨ request.client.silent_on_network_failure = false ∧
      ∃ error, request.errors = [request.client.error_event request.args error] := by
  unfold Request.errors
  cases hdisabled : request.client.disable_network with
  | true =>
    rw [make_request_disabled request.client _ _ _ _ hdisabled]
    exact .inl rfl
  | false =>
    obtain ⟨waited, sent, result, effects, hrun, -, -, -, hdid⟩ :=
      make_request_spec request.client request.args request.net request.now request.now' hdisabled
    rw [hrun, hdid.log_errors]
    unfold reported
    cases hsilent : request.client.silent_on_network_failure with
    | true => split <;> exact .inl rfl
    | false =>
      split
      · exact .inr ⟨rfl, _, rfl⟩
      · exact .inr ⟨rfl, _, rfl⟩
      · exact .inl rfl

theorem Request.errors_known (request : Request) :
    ∀ e ∈ request.errors, e.bypass_dedupe = false ∧ e.key ∈ NETWORK_KEYS := by
  intro e he
  rcases request.errors_cases with hnone | ⟨-, error, hone⟩
  · rw [hnone] at he
    cases he
  · rw [hone, List.mem_singleton] at he
    rw [he]
    exact ⟨rfl, debug_key_known _⟩

theorem kinds_le_of_known {events : List ErrorBoundaryEvent}
    (h : ∀ e ∈ events, e.key ∈ NETWORK_KEYS) : kinds events ≤ 6 := by
  have hsub : (keys events).toFinset ⊆ NETWORK_KEYS.toFinset := by
    intro key hkey
    obtain ⟨e, he, rfl⟩ := List.mem_map.mp (List.mem_toFinset.mp hkey)
    exact List.mem_toFinset.mpr (h e he)
  exact (Finset.card_le_card hsub).trans (List.toFinset_card_le _)

/-- Six keys are too few for a window to be full. -/
theorem no_windows_of_known {windows : List (List ErrorBoundaryEvent)}
    (hfull : ∀ window ∈ windows, Full window)
    (h : ∀ window ∈ windows, ∀ e ∈ window, e.key ∈ NETWORK_KEYS) : windows = [] := by
  apply List.eq_nil_iff_forall_not_mem.mpr
  intro window hwindow
  have hsix : kinds window ≤ 6 := kinds_le_of_known (h window hwindow)
  rw [(hfull window hwindow).kinds] at hsix
  exact absurd hsix (by decide)

/-- So all errors of the network are in one window, where the first one of each key is posted. -/
theorem handle_all_known (client : NetworkClient) (options : String)
    {calls : List (ErrorBoundaryEvent × Bool)}
    (hknown : ∀ e ∈ counted calls, e.bypass_dedupe = false ∧ e.key ∈ NETWORK_KEYS)
    (hfew : (counted calls).length < 2 ^ 32) :
    ((SDKErrorsObserver.new client options).handle_all calls).2 =
      first_wins.collect (fun e => some e.key) [] (counted calls) := by
  obtain ⟨windows, last, hevents, hwindows, -, hrun⟩ :=
    handle_all_from (holds_new client options) calls
  rw [List.nil_append] at hevents
  have hnone : windows = [] := by
    apply no_windows_of_known hwindows
    intro window hwindow e he
    apply (hknown e _).2
    rw [hevents]
    exact List.mem_append_left _ (List.mem_flatten.mpr ⟨window, hwindow, he⟩)
  rw [hnone, List.flatten_nil, List.nil_append] at hevents
  rw [hnone, List.flatMap_nil, List.nil_append, ← hevents] at hrun
  rw [← fresh_ones_eq_collect (fun e he => (hknown e he).1) (by rw [List.length_nil]; omega)]
  exact hrun

theorem length_le_of_known {events : List ErrorBoundaryEvent} (hnodup : (keys events).Nodup)
    (h : ∀ e ∈ events, e.key ∈ NETWORK_KEYS) : events.length ≤ 6 := by
  have hkinds : kinds events ≤ 6 := kinds_le_of_known h
  unfold kinds at hkinds
  rw [List.toFinset_card_of_nodup hnodup, keys, List.length_map] at hkinds
  exact hkinds

/-- The client of the observer is muted. -/
theorem log_exception_is_quiet (client : NetworkClient) (options : String)
    (calls : List (ErrorBoundaryEvent × Bool)) (e : ErrorBoundaryEvent) (net : Network)
    (now now' : String) :
    log_errors (((SDKErrorsObserver.new client options).handle_all calls).1.log_exception
      e net now now') = [] := by
  have hmuted := handle_all_network_client (SDKErrorsObserver.new client options) calls
  generalize ((SDKErrorsObserver.new client options).handle_all calls).1 = observer at hmuted ⊢
  rcases Request.errors_cases ⟨observer.network_client, (observer.exception_request e).1, net, now,
    now'⟩ with hquiet | ⟨hloud, -⟩
  · exact hquiet
  · rw [hmuted] at hloud
    cases hloud

/-- Whatever becomes of the requests, of the errors that they log and that reach the observer only
the first one of each diagnostics key is posted, six at most, and posting one logs no other. -/
theorem network_errors_are_posted_once (client : NetworkClient) (options : String)
    (requests : List Request) (calls : List (ErrorBoundaryEvent × Bool))
    (harrive : (calls.map Prod.fst).Sublist (requests.flatMap Request.errors))
    (hfew : calls.length < 2 ^ 32) :
    let run := (SDKErrorsObserver.new client options).handle_all calls
    run.2 = first_wins.collect (fun e => some e.key) [] (counted calls) ∧
      (keys run.2).Nodup ∧ run.2.length ≤ 6 ∧
      ∀ e net now now', log_errors (run.1.log_exception e net now now') = [] := by
  intro run
  have hsub : (counted calls).Sublist (calls.map Prod.fst) := List.filter_sublist.map _
  have hknown : ∀ e ∈ counted calls, e.bypass_dedupe = false ∧ e.key ∈ NETWORK_KEYS := by
    intro e he
    obtain ⟨request, -, hmem⟩ := List.mem_flatMap.mp (harrive.subset (hsub.subset he))
    exact request.errors_known e hmem
  have hlength : (counted calls).length ≤ calls.length := by
    have hle := hsub.length_le
    rw [List.length_map] at hle
    exact hle
  have hposted : run.2 = first_wins.collect (fun e => some e.key) [] (counted calls) :=
    handle_all_known client options hknown (by omega)
  have hnodup : (keys run.2).Nodup := by
    rw [hposted]
    have hkeys := (first_wins.keys_collect (fun e : ErrorBoundaryEvent => some e.key) []
      (counted calls)).1
    rw [List.filterMap_eq_map'] at hkeys
    exact hkeys
  have hsix : run.2.length ≤ 6 := by
    apply length_le_of_known hnodup
    intro e he
    rw [hposted] at he
    exact (hknown e ((first_wins.collect_sublist _ _ _).subset he)).2
  exact ⟨hposted, hnodup, hsix, log_exception_is_quiet client options calls⟩

/-- A request for the specs that is answered with 403. -/
def forbidden : Request where
  client :=
    { error_info := fun _ => "\x7b\x7d"
      headers := []
      is_shutdown := fun _ => false }
  args :=
    { url := "https://api.statsigcdn.com/v2/download_config_specs"
      diagnostics_key := some .DownloadConfigSpecs }
  net _ _ := some { status_code := some 403, data := none, error := none }
  now := "0"
  now' := "0"

def forbidden_calls : List (ErrorBoundaryEvent × Bool) :=
  ([forbidden, forbidden].flatMap Request.errors).map fun e => (e, true)

theorem forbidden_is_posted_once :
    let run := (SDKErrorsObserver.new forbidden.client "").handle_all forbidden_calls
    forbidden_calls.length = 2 ∧ keys run.2 = ["Some(DownloadConfigSpecs)"] ∧
      (keys run.2).Nodup ∧ run.2.length ≤ 6 := by
  intro run
  have harrive : (forbidden_calls.map Prod.fst).Sublist
      ([forbidden, forbidden].flatMap Request.errors) := by
    unfold forbidden_calls
    rw [List.map_map]
    exact (List.map_id _).symm ▸ List.Sublist.refl _
  have hlength : forbidden_calls.length = 2 := by decide
  obtain ⟨hposted, hnodup, hsix, -⟩ := network_errors_are_posted_once forbidden.client ""
    [forbidden, forbidden] forbidden_calls harrive (by rw [hlength]; decide)
  refine ⟨hlength, ?_, hnodup, hsix⟩
  rw [show run.2 = _ from hposted]
  decide

end statsig_rust.observability
