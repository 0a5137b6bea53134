-- The adapter that keeps events in a file until they are sent
-- (`event_logging_adapter/statsig_local_file_event_logging_adapter.rs`). Each batch is one line of
-- the file. Any number of processes write to the file and send what is in it: each of them takes
-- the lock of the file to append a line, and to read all of the file and clear it.
import Mathlib.Algebra.Order.Group.Multiset
import Mathlib.Tactic.Abel
import StatsigCore.EventLogging.EventJson
import StatsigCore.IdLists.IdList
import StatsigCore.Library.FirstWins
import StatsigCore.Library.Machine

namespace statsig_rust.event_logging_adapter

open event_logging event_logging.event_queue id_lists_adapter

/-! ## Chunks -/

/-- `slice::chunks`, with the chunk that is being filled. -/
def fill_chunks {α : Type} (size : Nat) (chunk : List α) : List α → List (List α)
  | [] => if chunk.isEmpty then [] else [chunk]
  | x :: xs =>
    if size ≤ chunk.length + 1 then (chunk ++ [x]) :: fill_chunks size [] xs
    else fill_chunks size (chunk ++ [x]) xs

def chunks {α : Type} (size : Nat) (xs : List α) : List (List α) := fill_chunks size [] xs

theorem flatten_fill_chunks {α : Type} (size : Nat) (chunk xs : List α) :
    (fill_chunks size chunk xs).flatten = chunk ++ xs := by
  induction xs generalizing chunk with
  | nil => cases chunk <;> simp [fill_chunks]
  | cons x xs ih =>
    unfold fill_chunks
    split
    · rw [List.flatten_cons, ih, List.append_assoc]
      rfl
    · rw [ih, List.append_assoc]
      rfl

theorem flatten_chunks {α : Type} (size : Nat) (xs : List α) : (chunks size xs).flatten = xs :=
  flatten_fill_chunks size [] xs

theorem fill_chunks_ne_nil {α : Type} {size : Nat} {chunk xs part : List α}
    (h : part ∈ fill_chunks size chunk xs) : part ≠ [] := by
  induction xs generalizing chunk with
  | nil =>
    unfold fill_chunks at h
    split at h
    · cases h
    · next hchunk =>
      rw [List.mem_singleton.mp h]
      simpa using hchunk
  | cons x xs ih =>
    unfold fill_chunks at h
    split at h
    · rcases List.mem_cons.mp h with rfl | h
      · simp
      · exact ih h
    · exact ih h

theorem chunks_ne_nil {α : Type} {size : Nat} {xs part : List α} (h : part ∈ chunks size xs) :
    part ≠ [] := fill_chunks_ne_nil h

/-! ## Events of the file -/

def DIAGNOSTICS_EVENT : String := "statsig::diagnostics"

end statsig_rust.event_logging_adapter

namespace statsig_rust.event_logging.event_queue.StatsigEventInternal

variable (event : StatsigEventInternal)

def is_exposure_event : Bool :=
  event.event_data.event_name = GATE_EXPOSURE_EVENT_NAME ||
  event.event_data.event_name = CONFIG_EXPOSURE_EVENT_NAME ||
  event.event_data.event_name = LAYER_EXPOSURE_EVENT_NAME

def is_diagnostic_event : Bool :=
  event.event_data.event_name = event_logging_adapter.DIAGNOSTICS_EVENT

theorem not_exposure_of_diagnostic {event : StatsigEventInternal}
    (h : event.is_diagnostic_event = true) : event.is_exposure_event = false := by
  unfold is_diagnostic_event at h
  unfold is_exposure_event
  rw [of_decide_eq_true h]
  decide

end statsig_rust.event_logging.event_queue.StatsigEventInternal

namespace statsig_rust.event_logging_adapter

open event_logging event_logging.event_queue id_lists_adapter

def as_str : JsonValue → Option String
  | .string s => some s
  | _ => none

section Key

variable (hashing : Hashing)

/-- One part of a merge key, for a field of the metadata that is a string. -/
def metadata_part (metadata : HashMap String JsonValue) (mark field : String) : String :=
  match (metadata.get field).bind as_str with
  | some name => mark ++ "." ++ name ++ "|"
  | none => ""

def metadata_parts : Option (HashMap String JsonValue) → String
  | none => ""
  | some metadata =>
    metadata_part metadata "g" "gate" ++ metadata_part metadata "c" "config" ++
      metadata_part metadata "pn" "parameterName" ++
      metadata_part metadata "ae" "allocatedExperiment" ++ metadata_part metadata "r" "ruleID"

def create_merge_key (event : StatsigEventInternal) : String :=
  event.event_data.event_name ++ "|" ++
    toString (create_exposure_dedupe_user_hash hashing event.user.data none) ++ "|" ++
    metadata_parts event.event_data.metadata

/-- The key that an event is merged by, if it is an exposure. -/
def exposure_key (event : StatsigEventInternal) : Option String :=
  if event.is_exposure_event then some (create_merge_key hashing event) else none

end Key

/-- `serde_json`, on values. -/
structure SerdeJson where
  to_string : JsonValue → Text
  from_str : Text → Option JsonValue

structure Env where
  std : Std
  serde_json : SerdeJson
  hashing : Hashing

section Adapter

variable (env : Env)

/-- `serde_json::from_str` of a list of events. -/
def parse_events (line : Text) : Option (List StatsigEventInternal) :=
  match env.serde_json.from_str line with
  | some (.array items) => items.mapM (StatsigEventInternal.deserialize env.std)
  | _ => none

/-- Of ten thousand numbers that can be drawn one is below 1. -/
def should_sample_sdk_diagnostics (random_number : Nat) : Bool := random_number < 1

/-- The numbers that are drawn for the diagnostics events, `draws k` for the event after `k`
others. -/
abbrev Draws := Nat → Nat

structure Processing where
  seen_exposures : List String := []
  processed_events : List StatsigEventInternal := []
  /-- How many numbers were drawn. -/
  drawn : Nat := 0

def process_event (draws : Draws) (s : Processing) (event : StatsigEventInternal) : Processing :=
  let drawn := if event.is_diagnostic_event then s.drawn + 1 else s.drawn
  if event.is_diagnostic_event && !should_sample_sdk_diagnostics (draws s.drawn) then
    { s with drawn }
  else if !event.is_exposure_event then
    { s with processed_events := s.processed_events ++ [event], drawn }
  else
    let key := create_merge_key env.hashing event
    if key ∈ s.seen_exposures then { s with drawn }
    else
      { seen_exposures := key :: s.seen_exposures
        processed_events := s.processed_events ++ [event]
        drawn }

/-- A line that does not parse is left out. -/
def process_line (draws : Draws) (s : Processing) (line : Text) : Processing :=
  match parse_events env line with
  | some events => events.foldl (process_event env draws) s
  | none => s

def process_events (draws : Draws) (current_requests : Text) : List StatsigEventInternal :=
  ((lines current_requests).foldl (process_line env draws) {}).processed_events

def events_json (events : List StatsigEventInternal) : JsonValue :=
  .array (events.map (·.serialize))

/-- The line that `log_events` writes. -/
def line_of (events : List StatsigEventInternal) : Text :=
  env.serde_json.to_string (events_json events) ++ ['\n']

/-- The file after `log_events`, which creates a file that is missing. -/
def append_line (file : Option Text) (events : List StatsigEventInternal) : Option Text :=
  some (file.getD [] ++ line_of env events)

/-! ## What is processed -/

/-- The events that the lines of the file hold. -/
def file_events (text : Text) : List StatsigEventInternal :=
  (lines text).flatMap fun line => (parse_events env line).getD []

/-- Without the diagnostics events that are not sampled. -/
def sampled (draws : Draws) : Nat → List StatsigEventInternal → List StatsigEventInternal
  | _, [] => []
  | drawn, event :: events =>
    if event.is_diagnostic_event then
      if should_sample_sdk_diagnostics (draws drawn) then event :: sampled draws (drawn + 1) events
      else sampled draws (drawn + 1) events
    else event :: sampled draws drawn events

def unsampled (draws : Draws) : Nat → List StatsigEventInternal → List StatsigEventInternal
  | _, [] => []
  | drawn, event :: events =>
    if event.is_diagnostic_event then
      if should_sample_sdk_diagnostics (draws drawn) then unsampled draws (drawn + 1) events
      else event :: unsampled draws (drawn + 1) events
    else unsampled draws drawn events

theorem sampled_append_unsampled (draws : Draws) (drawn : Nat)
    (events : List StatsigEventInternal) :
    (sampled draws drawn events ++ unsampled draws drawn events).Perm events := by
  induction events generalizing drawn with
  | nil => exact List.Perm.refl []
  | cons event events ih =>
    unfold sampled unsampled
    by_cases hdiagnostic : event.is_diagnostic_event = true
    · by_cases hsample : should_sample_sdk_diagnostics (draws drawn) = true
      · simp only [hdiagnostic, hsample, ↓reduceIte]
        exact (ih (drawn + 1)).cons event
      · simp only [hdiagnostic, hsample, ↓reduceIte, Bool.false_eq_true]
        exact List.perm_middle.trans ((ih (drawn + 1)).cons event)
    · simp only [hdiagnostic, ↓reduceIte, Bool.false_eq_true]
      exact (ih drawn).cons event

theorem sampled_sublist (draws : Draws) (drawn : Nat) (events : List StatsigEventInternal) :
    (sampled draws drawn events).Sublist events := by
  induction events generalizing drawn with
  | nil => exact List.Sublist.refl []
  | cons event events ih =>
    unfold sampled
    split
    · split
      · exact (ih (drawn + 1)).cons_cons event
      · exact (ih (drawn + 1)).cons event
    · exact (ih drawn).cons_cons event

/-- Only diagnostics events are sampled. -/
theorem filter_sampled (draws : Draws) (drawn : Nat) (events : List StatsigEventInternal)
    (p : StatsigEventInternal → Bool)
    (hp : ∀ event, p event = true → event.is_diagnostic_event = false) :
    (sampled draws drawn events).filter p = events.filter p := by
  induction events generalizing drawn with
  | nil => rfl
  | cons event events ih =>
    unfold sampled
    by_cases hdiagnostic : event.is_diagnostic_event = true
    · have hnot : ¬ p event = true := by
        intro h
        rw [hp event h] at hdiagnostic
        cases hdiagnostic
      by_cases hsample : should_sample_sdk_diagnostics (draws drawn) = true
      · simp only [hdiagnostic, hsample, ↓reduceIte]
        rw [List.filter_cons_of_neg hnot, List.filter_cons_of_neg hnot, ih]
      · simp only [hdiagnostic, hsample, ↓reduceIte, Bool.false_eq_true]
        rw [List.filter_cons_of_neg hnot, ih]
    · simp only [hdiagnostic, ↓reduceIte, Bool.false_eq_true]
      rw [List.filter_cons, List.filter_cons, ih]

theorem sampled_all {draws : Draws} (h : ∀ k, draws k = 0) (drawn : Nat)
    (events : List StatsigEventInternal) : sampled draws drawn events = events := by
  induction events generalizing drawn with
  | nil => rfl
  | cons event events ih =>
    unfold sampled
    simp only [h, should_sample_sdk_diagnostics, ih, Nat.lt_one_iff, decide_true, ↓reduceIte,
      ite_self]

/-- The loop keeps the first exposure of each key, among the events that are sampled. -/
theorem foldl_process_event (draws : Draws) (s : Processing)
    (events : List StatsigEventInternal) :
    (events.foldl (process_event env draws) s).processed_events = s.processed_events ++
      first_wins.collect (exposure_key env.hashing) s.seen_exposures
        (sampled draws s.drawn events) := by
  induction events generalizing s with
  | nil => simp [sampled, first_wins.collect]
  | cons event events ih =>
    rw [List.foldl_cons, ih, sampled]
    unfold process_event
    by_cases hdiagnostic : event.is_diagnostic_event = true
    · have hkey : exposure_key env.hashing event = none := by
        unfold exposure_key
        rw [event.not_exposure_of_diagnostic hdiagnostic]
        rfl
      by_cases hsample : should_sample_sdk_diagnostics (draws s.drawn) = true
      · simp only [hdiagnostic, hsample, ↓reduceIte, Bool.not_true, Bool.and_false,
          Bool.false_eq_true, event.not_exposure_of_diagnostic hdiagnostic, Bool.not_false]
        rw [first_wins.collect_keyless hkey, List.append_assoc]
        rfl
      · simp only [hdiagnostic, hsample, ↓reduceIte, Bool.not_false, Bool.and_true,
          Bool.false_eq_true]
    · simp only [hdiagnostic, ↓reduceIte, Bool.false_eq_true, Bool.false_and]
      by_cases hexposure : event.is_exposure_event = true
      · have hkey : exposure_key env.hashing event = some (create_merge_key env.hashing event) :=
          if_pos hexposure
        simp only [hexposure, Bool.not_true, Bool.false_eq_true, ↓reduceIte]
        by_cases hseen : create_merge_key env.hashing event ∈ s.seen_exposures
        · rw [first_wins.collect_seen hkey hseen, if_pos hseen]
        · rw [first_wins.collect_new hkey hseen, if_neg hseen, List.append_assoc]
          rfl
      · have hkey : exposure_key env.hashing event = none := if_neg hexposure
        simp only [hexposure, Bool.not_false, ↓reduceIte]
        rw [first_wins.collect_keyless hkey, List.append_assoc]
        rfl

theorem process_line_eq (draws : Draws) (s : Processing) (line : Text) :
    process_line env draws s line =
      ((parse_events env line).getD []).foldl (process_event env draws) s := by
  unfold process_line
  cases parse_events env line <;> rfl

theorem process_events_eq (draws : Draws) (text : Text) :
    process_events env draws text =
      first_wins.collect (exposure_key env.hashing) [] (sampled draws 0 (file_events env text)) := by
  have hfold : (lines text).foldl (process_line env draws) {} =
      (file_events env text).foldl (process_event env draws) {} := by
    unfold file_events
    rw [List.foldl_flatMap]
    congr 1
    funext s line
    exact process_line_eq env draws s line
  unfold process_events
  rw [hfold, foldl_process_event]
  rfl

/-- The exposures that go because of an earlier one with their key. -/
def merged_away (draws : Draws) (text : Text) : List StatsigEventInternal :=
  first_wins.repeats (exposure_key env.hashing) [] (sampled draws 0 (file_events env text))

theorem processed_perm (draws : Draws) (text : Text) :
    (process_events env draws text ++ merged_away env draws text ++
      unsampled draws 0 (file_events env text)).Perm (file_events env text) := by
  rw [process_events_eq]
  refine List.Perm.trans ?_ (sampled_append_unsampled draws 0 (file_events env text))
  exact (first_wins.collect_append_repeats _ _ _).append_right _

/-! ## What is read back -/

/-- `serde_json` writes the events on one line, and reads them back. -/
structure SerdeJson.Writes (serde_json : SerdeJson) (events : List StatsigEventInternal) :
    Prop where
  one_line : ∀ c ∈ serde_json.to_string (events_json events), c ≠ '\n' ∧ c ≠ '\r'
  reads_back : serde_json.from_str (serde_json.to_string (events_json events)) =
    some (events_json events)
  /-- The times of the events are `u64`s. -/
  times : ∀ event ∈ events, event.time < 2 ^ 64

theorem lines_one_line {text : Text} (h : ∀ c ∈ text, c ≠ '\n' ∧ c ≠ '\r') :
    lines (text ++ ['\n']) = [text] := by
  induction text with
  | nil => rfl
  | cons c text ih =>
    have hc := h c List.mem_cons_self
    rw [List.cons_append, lines.eq_4 _ _ hc.1 (fun _ heq _ => hc.2 heq),
      ih fun d hd => h d (List.mem_cons_of_mem c hd)]

variable {env}

theorem parse_events_json {events : List StatsigEventInternal}
    (h : env.serde_json.Writes events) :
    parse_events env (env.serde_json.to_string (events_json events)) =
      some (events.map (StatsigEventInternal.reread env.std)) := by
  have hmap : (events.map (·.serialize)).mapM (StatsigEventInternal.deserialize env.std) =
      some (events.map (StatsigEventInternal.reread env.std)) := by
    have htimes := h.times
    clear h
    induction events with
    | nil => rfl
    | cons event events ih =>
      rw [List.map_cons, List.mapM_cons,
        deserialize_event env.std (htimes event List.mem_cons_self),
        ih fun e he => htimes e (List.mem_cons_of_mem event he)]
      rfl
  unfold parse_events
  rw [h.reads_back]
  exact hmap

theorem at_line_end_line (events : List StatsigEventInternal) : AtLineEnd (line_of env events) :=
  .inr ⟨_, rfl⟩

theorem file_events_line {events : List StatsigEventInternal}
    (h : env.serde_json.Writes events) :
    file_events env (line_of env events) =
      events.map (StatsigEventInternal.reread env.std) := by
  unfold file_events line_of
  rw [lines_one_line h.one_line, List.flatMap_singleton, parse_events_json h]
  rfl

theorem file_events_append {text : Text} (htext : AtLineEnd text) (more : Text) :
    file_events env (text ++ more) = file_events env text ++ file_events env more := by
  unfold file_events
  rw [lines_append htext, List.flatMap_append]

theorem AtLineEnd.append {text more : Text} (htext : AtLineEnd text) (hmore : AtLineEnd more) :
    AtLineEnd (text ++ more) := by
  rcases hmore with rfl | ⟨init, rfl⟩
  · rwa [List.append_nil]
  · exact .inr ⟨text ++ init, by rw [List.append_assoc]⟩

/-- The file after batches were logged. -/
def file_of (env : Env) (batches : List (List StatsigEventInternal)) : Text :=
  batches.flatMap (line_of env)

theorem file_events_of {batches : List (List StatsigEventInternal)}
    (h : ∀ events ∈ batches, env.serde_json.Writes events) :
    file_events env (file_of env batches) =
      batches.flatten.map (StatsigEventInternal.reread env.std) := by
  induction batches with
  | nil => rfl
  | cons events batches ih =>
    unfold file_of at ih ⊢
    rw [List.flatMap_cons, file_events_append (at_line_end_line events),
      file_events_line (h events List.mem_cons_self),
      ih fun more hmore => h more (List.mem_cons_of_mem events hmore), List.flatten_cons,
      List.map_append]

/-- An event with a key is an exposure, so that it is never sampled. -/
theorem not_diagnostic_of_key {hashing : Hashing} {event : StatsigEventInternal} {k : String}
    (h : exposure_key hashing event = some k) : event.is_diagnostic_event = false := by
  by_contra hdiagnostic
  rw [Bool.not_eq_false] at hdiagnostic
  unfold exposure_key at h
  rw [event.not_exposure_of_diagnostic hdiagnostic] at h
  cases h

theorem exposure_key_is_none (hashing : Hashing) (event : StatsigEventInternal) :
    (exposure_key hashing event).isNone = !event.is_exposure_event := by
  unfold exposure_key
  cases event.is_exposure_event <;> rfl

/-- The first exposure of a key stays. -/
theorem find_processed (hashing : Hashing) (draws : Draws) (events : List StatsigEventInternal)
    (k : String) :
    (first_wins.collect (exposure_key hashing) [] (sampled draws 0 events)).find?
        (fun event => exposure_key hashing event == some k) =
      events.find? fun event => exposure_key hashing event == some k := by
  rw [first_wins.first_stays _ [] _ List.not_mem_nil, ← List.head?_filter, ← List.head?_filter,
    filter_sampled]
  intro event hevent
  exact not_diagnostic_of_key (beq_iff_eq.mp hevent)

/-- So do all events that are neither exposures nor about diagnostics. -/
theorem filter_processed (hashing : Hashing) (draws : Draws)
    (events : List StatsigEventInternal) :
    (first_wins.collect (exposure_key hashing) [] (sampled draws 0 events)).filter
        (fun event => !event.is_exposure_event && !event.is_diagnostic_event) =
      events.filter fun event => !event.is_exposure_event && !event.is_diagnostic_event := by
  have hplain (xs : List StatsigEventInternal) :
      xs.filter (fun event => !event.is_exposure_event && !event.is_diagnostic_event) =
        (xs.filter fun event => (exposure_key hashing event).isNone).filter
          fun event => !event.is_diagnostic_event := by
    rw [List.filter_filter]
    congr 1
    funext event
    rw [exposure_key_is_none, Bool.and_comm]
  rw [hplain, hplain, first_wins.filter_keyless, List.filter_filter, List.filter_filter,
    filter_sampled]
  intro event hevent
  rw [Bool.and_eq_true] at hevent
  simpa using hevent.1

/-- Events that were read before, with each key once, are all taken out of the file again. -/
theorem process_events_line {events : List StatsigEventInternal}
    (hwrites : env.serde_json.Writes events)
    (hread : events.map (StatsigEventInternal.reread env.std) = events)
    (hnodup : (events.filterMap (exposure_key env.hashing)).Nodup) {draws : Draws}
    (hdraws : ∀ k, draws k = 0) : process_events env draws (line_of env events) = events := by
  rw [process_events_eq, file_events_line hwrites, hread, sampled_all hdraws]
  exact first_wins.collect_eq_self hnodup fun k _ => List.not_mem_nil

/-- What one sending takes out of the file, from whatever batches were logged: in their order, of
the exposures with one key the first one, and of the other events all but the diagnostics that are
not sampled. To log that and to take it out once more changes nothing. -/
theorem events_are_merged_once {batches : List (List StatsigEventInternal)}
    (hbatches : ∀ events ∈ batches, env.serde_json.Writes events) (draws : Draws) :
    let events := batches.flatten.map (StatsigEventInternal.reread env.std)
    let processed := process_events env draws (file_of env batches)
    let key := exposure_key env.hashing
    processed.Sublist events ∧
    (processed.filterMap key).Nodup ∧
    (∀ k, processed.find? (fun event => key event == some k) =
      events.find? fun event => key event == some k) ∧
    processed.filter (fun event => !event.is_exposure_event && !event.is_diagnostic_event) =
      events.filter (fun event => !event.is_exposure_event && !event.is_diagnostic_event) ∧
    (env.serde_json.Writes processed → ∀ draws' : Draws, (∀ k, draws' k = 0) →
      process_events env draws' (line_of env processed) = processed) := by
  intro events processed key
  have hprocessed : processed = first_wins.collect key [] (sampled draws 0 events) := by
    have h := process_events_eq env draws (file_of env batches)
    rwa [file_events_of hbatches] at h
  have hsublist : processed.Sublist events := by
    rw [hprocessed]
    exact (first_wins.collect_sublist key [] _).trans (sampled_sublist draws 0 events)
  have hnodup : (processed.filterMap key).Nodup := by
    rw [hprocessed]
    exact (first_wins.keys_collect key [] (sampled draws 0 events)).1
  have hread : processed.map (StatsigEventInternal.reread env.std) = processed := by
    conv_rhs => rw [← List.map_id processed]
    refine List.map_congr_left fun event hevent => ?_
    obtain ⟨event', -, rfl⟩ := List.mem_map.mp (hsublist.subset hevent)
    exact reread_event_twice env.std event'
  refine ⟨hsublist, hnodup, ?_, ?_, ?_⟩
  · intro k
    rw [hprocessed]
    exact find_processed env.hashing draws events k
  · rw [hprocessed]
    exact filter_processed env.hashing draws events
  · intro hwrites draws' hdraws
    exact process_events_line hwrites hread hnodup hdraws

end Adapter

/-- An event that is an exposure, and what writes it. -/
def one_event : StatsigEventInternal where
  event_data := {
    event_name := GATE_EXPOSURE_EVENT_NAME
    value := none
    metadata := none
    statsig_metadata := none }
  user := { data := {} }
  time := 0
  secondary_exposures := none

def one_event_env : Env where
  std := {
    to_lowercase := id
    parse_i64 := fun _ => none
    parse_f64 := fun _ => none
    parse_from_rfc3339 := fun _ => none
    parse_naive_datetime := fun _ => none
    as_f64 := id
    f64_to_string := fun _ => "0"
    json_to_string := fun _ => "[]" }
  serde_json := {
    to_string := fun _ => ("[\x7b\"eventName\":\"statsig::gate_exposure\",\"value\":null,\"metadata\":null," ++
      "\"statsigMetadata\":null,\"user\":\x7b\x7d,\"time\":0,\"secondaryExposures\":null\x7d]").toList
    from_str := fun _ => some (events_json [one_event]) }
  hashing := {
    ahash_str := fun _ => 0
    hash_bytes := fun _ => 0
    hash_one := fun _ => 0
    hash_value := fun _ => 0
    to_lowercase := id }

theorem one_event_writes : one_event_env.serde_json.Writes [one_event] where
  one_line := by
    have hall : (one_event_env.serde_json.to_string (events_json [one_event])).all
        (fun c => c != '\n' && c != '\r') = true := by decide +kernel
    intro c hc
    have hboth := List.all_eq_true.mp hall c hc
    rw [Bool.and_eq_true, bne_iff_ne, bne_iff_ne] at hboth
    exact hboth
  reads_back := rfl
  times := by simp [one_event]

/-- The exposure is logged twice, and sent once. -/
theorem exposure_is_merged_once :
    let file := file_of one_event_env [[one_event], [one_event]]
    let events := [one_event, one_event].map (StatsigEventInternal.reread one_event_env.std)
    let processed := process_events one_event_env (fun _ => 0) file
    let key := exposure_key one_event_env.hashing
    processed.Sublist events ∧
    (processed.filterMap key).Nodup ∧
    (∀ k, processed.find? (fun event => key event == some k) =
      events.find? fun event => key event == some k) ∧
    processed.filter (fun event => !event.is_exposure_event && !event.is_diagnostic_event) =
      events.filter (fun event => !event.is_exposure_event && !event.is_diagnostic_event) ∧
    (one_event_env.serde_json.Writes processed → ∀ draws' : Draws, (∀ k, draws' k = 0) →
      process_events one_event_env draws' (line_of one_event_env processed) = processed) := by
  have hbatches : ∀ events ∈ [[one_event], [one_event]],
      one_event_env.serde_json.Writes events := by
    intro events hmem
    have heq : events = [one_event] := by simpa using hmem
    rw [heq]
    exact one_event_writes
  exact events_are_merged_once hbatches fun _ => 0

end statsig_rust.event_logging_adapter
