-- The initialization of an instance (`statsig.rs`): any number of calls of
-- `initialize_with_details`, each of which may time out where it stands, and the runs of
-- `start_background_tasks`, which look at a flag first and set it last. What the adapters, the
-- clock and the locks answer comes with each step. The lookups of countries and user agents are
-- left out, and so are the logs.
import StatsigCore.Library.Machine
import StatsigCore.Library.Threads
import StatsigCore.SpecsAdapter.HttpSpecsAdapter

namespace statsig_rust.statsig

open machine
open http_specs_adapter (NetworkError)
open spec_store (SpecsSource)

/-! ## The details of an initialization -/

/-- The errors that the initialization tells apart. -/
inductive StatsigErr where
  | NetworkError (e : http_specs_adapter.NetworkError)
  | InitializationError (msg : String)
  | Other (text : String)

structure SpecsInfo where
  lcut : Option Nat
  source : SpecsSource
  source_api : Option String

structure FailureDetails where
  reason : String
  error : Option StatsigErr

structure InitializeDetails where
  duration_ms : Nat := 0
  init_success : Bool := false
  is_config_spec_ready : Bool := false
  is_id_list_ready : Option Bool := none
  source : SpecsSource := .Uninitialized
  failure_details : Option FailureDetails := none
  spec_source_api : Option String := none

/-- What an instance is made with. `display` is the text of an error. -/
structure Options where
  id_lists_adapter : Bool
  init_timeout_ms : Option Nat
  display : StatsigErr → String

/-- What an initialization has found out before it starts the background tasks. -/
structure Findings where
  error : Option StatsigErr
  id_list_ready : Option Bool
  spec_info : SpecsInfo
  duration : Nat

namespace InitializeDetails

def new (options : Options) (init_success : Bool) (found : Findings) : InitializeDetails where
  init_success := init_success
  is_config_spec_ready := found.spec_info.lcut.any (· ≠ 0)
  is_id_list_ready := found.id_list_ready
  source := found.spec_info.source
  failure_details :=
    match found.error with
    | some (.NetworkError (.DisableNetworkOn _)) => none
    | error => error.map fun e => { reason := options.display e, error := some e }
  duration_ms := found.duration
  spec_source_api := found.spec_info.source_api

def from_timeout_failure (timeout_ms : Nat) : InitializeDetails where
  failure_details := some { reason := "Initialization timed out", error := none }
  duration_ms := timeout_ms

end InitializeDetails

/-! ## The machine -/

/-- Where a run of `start_background_tasks` is. -/
inductive StarterPhase where
  | loading
  | id_lists
  | specs (success : Bool)
  | storing (success : Bool)
  | returned (success : Bool)
  | dropped

/-- A run of `start_background_tasks`, spawned after a timeout or awaited by an initialization, with
what it has done: it found the flag down, and it asked an adapter to schedule its syncs. -/
structure Starter where
  phase : StarterPhase := .loading
  spawned : Bool
  found_down : Bool := false
  id_lists_scheduled : Bool := false
  specs_scheduled : Bool := false

/-- Where a call of `initialize_with_details` is. -/
inductive CallPhase where
  | created
  | loading
  | specs_started (error : Option StatsigErr)
  | id_lists_started (error : Option StatsigErr) (id_list_ready : Option Bool)
  | informed (found : Findings)
  | in_background (found : Findings) (starter : Nat)
  | returned (details : InitializeDetails)
  | timed_out (result : Except StatsigErr InitializeDetails)

structure Statsig where
  background_tasks_started : Bool := false
  starters : List Starter := []
  calls : List CallPhase := []
  spec_info : SpecsInfo := { lcut := some 0, source := .Uninitialized, source_api := none }
  initialize_details : InitializeDetails := {}

/-- What a step is told: the answer of an adapter, the time, and whether the lock was to be had. -/
structure Told where
  result : Except StatsigErr Unit := .ok ()
  duration : Nat := 0
  granted : Bool := true

inductive InitStep where
  | call
  | go_on (call : Nat) (told : Told)
  | move (starter : Nat) (result : Except StatsigErr Unit)
  /-- The timeout of a call is over. `spawned` is the answer of the runtime. -/
  | time_out (call : Nat) (spawned : Except StatsigErr Unit) (granted : Bool)
  /-- A spawned task finds its runtime shut down. -/
  | skip (starter : Nat)
  /-- The store takes an update in. -/
  | specs_update (info : SpecsInfo)

/-- `start_background_tasks`, up to its next step. -/
def Starter.move (options : Options) (started : Bool) (starter : Starter)
    (result : Except StatsigErr Unit) : Option Starter :=
  match starter.phase with
  | .loading =>
    if started then some { starter with phase := .returned true }
    else some { starter with phase := .id_lists, found_down := true }
  | .id_lists =>
    if options.id_lists_adapter then
      some { starter with phase := .specs result.isOk, id_lists_scheduled := true }
    else some { starter with phase := .specs true }
  | .specs success =>
    some { starter with phase := .storing (success && result.isOk), specs_scheduled := true }
  | .storing success => some { starter with phase := .returned success }
  | .returned _ => none
  | .dropped => none

def StarterPhase.stores : StarterPhase → Bool
  | .storing _ => true
  | _ => false

def StarterPhase.success : StarterPhase → Option Bool
  | .returned success => some success
  | _ => none

namespace Statsig

variable (options : Options) (s : Statsig)

def set_source (source : SpecsSource) (granted : Bool) : SpecsInfo :=
  if granted then { s.spec_info with source } else s.spec_info

def get_current_specs_info (granted : Bool) : SpecsInfo :=
  if granted then s.spec_info else { lcut := none, source := .Error, source_api := none }

/-- The details are kept, if the lock is to be had. -/
def keep_details (details : InitializeDetails) (granted : Bool) : InitializeDetails :=
  if granted then details else s.initialize_details

/-- `initialize_impl_with_details`, up to its next step. -/
def go_on (call : Nat) (told : Told) : CallPhase → Option Statsig
  | .created =>
    some { s with
      spec_info := s.set_source .Loading told.granted
      calls := s.calls.set call .loading }
  | .loading =>
    match told.result with
    | .ok () => some { s with calls := s.calls.set call (.specs_started none) }
    | .error e =>
      some { s with
        spec_info := s.set_source .NoValues told.granted
        calls := s.calls.set call (.specs_started (some e)) }
  | .specs_started error =>
    let id_list_ready := if options.id_lists_adapter then some told.result.isOk else none
    some { s with calls := s.calls.set call (.id_lists_started error id_list_ready) }
  | .id_lists_started error id_list_ready =>
    let found : Findings :=
      { error
        id_list_ready
        spec_info := s.get_current_specs_info told.granted
        duration := told.duration }
    some { s with calls := s.calls.set call (.informed found) }
  | .informed found =>
    some { s with
      starters := s.starters ++ [{ spawned := false }]
      calls := s.calls.set call (.in_background found s.starters.length) }
  | .in_background found starter =>
    (s.starters[starter]?.bind (·.phase.success)).map fun success =>
      let details := InitializeDetails.new options success found
      { s with
        calls := s.calls.set call (.returned details)
        initialize_details := s.keep_details details told.granted }
  | .returned _ => none
  | .timed_out _ => none

/-- The runs of `start_background_tasks` after the future of a call is dropped, or `none` if the
future is over. -/
def drop_future : CallPhase → Option (List Starter)
  | .returned _ => none
  | .timed_out _ => none
  | .in_background _ i =>
    match s.starters[i]? with
    | some starter =>
      if starter.phase.success.isSome then none
      else some (s.starters.set i { starter with phase := .dropped })
    | none => some s.starters
  | _ => some s.starters

/-- The other arm of `apply_timeout_to_init`. -/
def time_out (timeout_ms : Nat) (call : Nat) (spawned : Except StatsigErr Unit) (granted : Bool)
    (starters : List Starter) : Statsig :=
  match spawned with
  | .ok () =>
    let details := InitializeDetails.from_timeout_failure timeout_ms
    { s with
      starters := starters ++ [{ spawned := true }]
      calls := s.calls.set call (.timed_out (.ok details))
      initialize_details := s.keep_details details granted }
  | .error e => { s with starters, calls := s.calls.set call (.timed_out (.error e)) }

def step : InitStep → Option Statsig
  | .call => some { s with calls := s.calls ++ [.created] }
  | .go_on call told => s.calls[call]?.bind (s.go_on options call told)
  | .move i result =>
    s.starters[i]?.bind fun starter =>
      (starter.move options s.background_tasks_started result).map fun next =>
        { s with
          background_tasks_started := s.background_tasks_started || starter.phase.stores
          starters := s.starters.set i next }
  | .time_out call spawned granted =>
    options.init_timeout_ms.bind fun timeout_ms =>
      (s.calls[call]?.bind s.drop_future).map fun starters =>
        s.time_out timeout_ms call spawned granted starters
  | .skip i =>
    s.starters[i]?.bind fun starter =>
      match starter.phase, starter.spawned with
      | .loading, true =>
        some { s with starters := s.starters.set i { starter with phase := .dropped } }
      | _, _ => none
  | .specs_update info => some { s with spec_info := info }

end Statsig

/-- What `initialize` makes of the details. -/
def initialize_result : Except StatsigErr InitializeDetails → Except StatsigErr Unit
  | .error e => .error e
  | .ok details =>
    match details.failure_details with
    | some failure => .error (failure.error.getD (.InitializationError failure.reason))
    | none => .ok ()

/-- Only the start of the specs adapter counts, whatever became of the background tasks. -/
theorem initialize_ok_iff (options : Options) (success : Bool) (found : Findings) :
    initialize_result (.ok (.new options success found)) = .ok () ↔
      found.error = none ∨ ∃ url, found.error = some (.NetworkError (.DisableNetworkOn url)) := by
  obtain ⟨error, id_list_ready, spec_info, duration⟩ := found
  cases error with
  | none => exact ⟨fun _ => .inl rfl, fun _ => rfl⟩
  | some e =>
    constructor
    · intro h
      cases e with
      | NetworkError e =>
        cases e with
        | DisableNetworkOn url => exact .inr ⟨url, rfl⟩
        | _ => cases h
      | InitializationError msg => cases h
      | Other text => cases h
    · rintro (h | ⟨url, h⟩)
      · cases h
      · cases h
        rfl

/-! ## The runs of `start_background_tasks` -/

/-- The run has asked every adapter that there is to schedule its syncs. -/
def Starter.asked (options : Options) (starter : Starter) : Bool :=
  starter.specs_scheduled && (!options.id_lists_adapter || starter.id_lists_scheduled)

/-- What holds of a run wherever it is. -/
structure Starter.Ok (options : Options) (started : Bool) (starter : Starter) : Prop where
  loading : starter.phase = .loading → starter.found_down = false
  asks : starter.id_lists_scheduled = true ∨ starter.specs_scheduled = true →
    starter.found_down = true
  specs : ∀ success, starter.phase = .specs success →
    starter.found_down = true ∧ (options.id_lists_adapter = true → starter.id_lists_scheduled = true)
  id_lists : starter.phase = .id_lists → starter.found_down = true
  storing : ∀ success, starter.phase = .storing success → starter.asked options = true
  returned : ∀ success, starter.phase = .returned success → started = true

/-- All that a turn of a run can do. -/
inductive Starter.Turn (options : Options) (started : Bool) (starter : Starter) : Starter → Prop
  | found_up (hphase : starter.phase = .loading) (hup : started = true) :
    Turn options started starter { starter with phase := .returned true }
  | found_down (hphase : starter.phase = .loading) (hdown : started = false) :
    Turn options started starter { starter with phase := .id_lists, found_down := true }
  | id_lists (success : Bool) (hphase : starter.phase = .id_lists)
    (hadapter : options.id_lists_adapter = true) :
    Turn options started starter
      { starter with phase := .specs success, id_lists_scheduled := true }
  | no_id_lists (hphase : starter.phase = .id_lists) (hadapter : options.id_lists_adapter = false) :
    Turn options started starter { starter with phase := .specs true }
  | specs (success success' : Bool) (hphase : starter.phase = .specs success) :
    Turn options started starter
      { starter with phase := .storing success', specs_scheduled := true }
  | store (success : Bool) (hphase : starter.phase = .storing success) :
    Turn options started starter { starter with phase := .returned success }

section Turn

variable {options : Options} {started : Bool} {starter next : Starter}

theorem move_turn {result : Except StatsigErr Unit}
    (h : starter.move options started result = some next) : starter.Turn options started next := by
  unfold Starter.move at h
  split at h
  · next hphase =>
    split at h
    · next hup =>
      rw [← Option.some.inj h]
      exact .found_up hphase hup
    · next hdown =>
      rw [← Option.some.inj h]
      exact .found_down hphase (Bool.eq_false_iff.mpr hdown)
  · next hphase =>
    split at h
    · next hadapter =>
      rw [← Option.some.inj h]
      exact .id_lists _ hphase hadapter
    · next hnone =>
      rw [← Option.some.inj h]
      exact .no_id_lists hphase (Bool.eq_false_iff.mpr hnone)
  · next success hphase =>
    rw [← Option.some.inj h]
    exact .specs success _ hphase
  · next success hphase =>
    rw [← Option.some.inj h]
    exact .store success hphase
  · cases h
  · cases h

/-- What a run has done stays done. -/
theorem asked_after_turn (hturn : starter.Turn options started next)
    (h : starter.asked options = true) : next.asked options = true := by
  cases hturn with
  | found_up => exact h
  | found_down => exact h
  | id_lists => simp_all [Starter.asked]
  | no_id_lists => exact h
  | specs => simp_all [Starter.asked]
  | store => exact h

/-- A run keeps what holds of it. One that sets the flag has asked before. -/
theorem ok_after_turn (hturn : starter.Turn options started next)
    (h : starter.Ok options started) :
    next.Ok options (started || starter.phase.stores) := by
  cases hturn with
  | found_up hphase hup =>
    refine ⟨(nomatch ·), h.asks, fun _ hnext => (nomatch hnext), (nomatch ·),
      fun _ hnext => (nomatch hnext), fun _ _ => ?_⟩
    rw [hup]
    rfl
  | found_down hphase hdown =>
    exact ⟨(nomatch ·), fun _ => rfl, fun _ hnext => (nomatch hnext), fun _ => rfl,
      fun _ hnext => (nomatch hnext), fun _ hnext => (nomatch hnext)⟩
  | id_lists success hphase hadapter =>
    have hdown := h.id_lists hphase
    exact ⟨(nomatch ·), fun _ => hdown, fun _ _ => ⟨hdown, fun _ => rfl⟩, fun _ => hdown,
      fun _ hnext => (nomatch hnext), fun _ hnext => (nomatch hnext)⟩
  | no_id_lists hphase hadapter =>
    have hdown := h.id_lists hphase
    refine ⟨(nomatch ·), fun _ => hdown, fun _ _ => ⟨hdown, fun hsome => ?_⟩, fun _ => hdown,
      fun _ hnext => (nomatch hnext), fun _ hnext => (nomatch hnext)⟩
    rw [hadapter] at hsome
    cases hsome
  | specs success success' hphase =>
    obtain ⟨hdown, hasked⟩ := h.specs success hphase
    refine ⟨(nomatch ·), fun _ => hdown, fun _ hnext => (nomatch hnext), fun _ => hdown,
      fun _ _ => ?_, fun _ hnext => (nomatch hnext)⟩
    cases hadapter : options.id_lists_adapter with
    | false => simp [Starter.asked, hadapter]
    | true => simp [Starter.asked, hasked hadapter]
  | store success hphase =>
    refine ⟨(nomatch ·), h.asks, fun _ hnext => (nomatch hnext), (nomatch ·),
      fun _ hnext => (nomatch hnext), fun _ _ => ?_⟩
    rw [hphase]
    exact Bool.or_true _

/-- Only a run that finds the flag down is counted anew. -/
theorem found_down_after_turn (hturn : starter.Turn options started next)
    (h : starter.Ok options started) :
    next.found_down = starter.found_down ∨
      starter.phase = .loading ∧ started = false ∧ starter.found_down = false := by
  cases hturn with
  | found_down hphase hdown => exact .inr ⟨hphase, hdown, h.loading hphase⟩
  | _ => exact .inl rfl

theorem ok_dropped (h : starter.Ok options started) :
    { starter with phase := .dropped : Starter }.Ok options started :=
  ⟨(nomatch ·), h.asks, fun _ hnext => (nomatch hnext), (nomatch ·),
    fun _ hnext => (nomatch hnext), fun _ hnext => (nomatch hnext)⟩

theorem ok_new (options : Options) (started spawned : Bool) :
    { spawned := spawned : Starter }.Ok options started :=
  ⟨fun _ => rfl, by simp, fun _ hnext => (nomatch hnext), (nomatch ·),
    fun _ hnext => (nomatch hnext), fun _ hnext => (nomatch hnext)⟩

theorem Starter.Ok.mono (h : starter.Ok options started) (up : Bool) :
    starter.Ok options (started || up) :=
  ⟨h.loading, h.asks, h.specs, h.id_lists, h.storing,
    fun success hphase => Bool.or_eq_true_iff.mpr (.inl (h.returned success hphase))⟩

end Turn

/-- What holds of all the runs: the flag is up only if one of them has asked every adapter. -/
structure Sound (options : Options) (started : Bool) (l : List Starter) : Prop where
  each : ∀ starter ∈ l, starter.Ok options started
  asked : started = true → ∃ starter ∈ l, starter.asked options = true

/-- Runs begin or are dropped. -/
inductive Change (l : List Starter) : List Starter → Prop
  | same : Change l l
  | add : Change l (l ++ [{ spawned := false }])
  | drop (i : Nat) (starter : Starter) (hi : l[i]? = some starter) :
    Change l (l.set i { starter with phase := .dropped })

section Sound

variable {options : Options} {started : Bool} {l l' : List Starter} {i : Nat}
  {starter next : Starter}

theorem Sound.add (h : Sound options started l) (spawned : Bool) :
    Sound options started (l ++ [{ spawned := spawned }]) := by
  refine ⟨?_, fun hup => ?_⟩
  · intro starter hmem
    rcases List.mem_append.mp hmem with hold | hnew
    · exact h.each starter hold
    · rw [List.mem_singleton.mp hnew]
      exact ok_new options started spawned
  · obtain ⟨starter, hmem, hasked⟩ := h.asked hup
    exact ⟨starter, List.mem_append_left _ hmem, hasked⟩

theorem Sound.change (h : Sound options started l) (hchange : Change l l') :
    Sound options started l' := by
  cases hchange with
  | same => exact h
  | add => exact h.add false
  | drop i starter hi =>
    refine ⟨?_, fun hup => ?_⟩
    · intro other hmem
      rcases List.mem_or_eq_of_mem_set hmem with hold | rfl
      · exact h.each other hold
      · exact ok_dropped (h.each starter (List.mem_of_getElem? hi))
    · exact threads.kept_after_set hi id (h.asked hup)

theorem Sound.move (h : Sound options started l) (hi : l[i]? = some starter)
    (hturn : starter.Turn options started next) :
    Sound options (started || starter.phase.stores) (l.set i next) := by
  have hok := h.each starter (List.mem_of_getElem? hi)
  refine ⟨?_, fun hup => ?_⟩
  · intro other hmem
    rcases List.mem_or_eq_of_mem_set hmem with hold | rfl
    · exact (h.each other hold).mono _
    · exact ok_after_turn hturn hok
  · apply threads.kept_after_set hi (asked_after_turn hturn)
    rcases Bool.or_eq_true_iff.mp hup with hup | hstores
    · exact h.asked hup
    · refine ⟨starter, List.mem_of_getElem? hi, ?_⟩
      cases hphase : starter.phase with
      | storing success => exact hok.storing success hphase
      | _ =>
        rw [hphase] at hstores
        cases hstores

/-- How many runs have found the flag down. -/
def found_down (l : List Starter) : Nat := l.countP (·.found_down)

theorem found_down_add (l : List Starter) (spawned : Bool) :
    found_down (l ++ [{ spawned := spawned }]) = found_down l := by
  unfold found_down
  rw [List.countP_append]
  rfl

theorem found_down_after_change (hchange : Change l l') : found_down l' = found_down l := by
  unfold found_down
  cases hchange with
  | same => rfl
  | add => exact found_down_add l false
  | drop i starter hi =>
    have hcount := @threads.count_set _ l (·.found_down) i starter hi
      { starter with phase := .dropped }
    dsimp only at hcount
    omega

theorem found_down_after_move (h : Sound options started l) (hi : l[i]? = some starter)
    (hturn : starter.Turn options started next) :
    found_down (l.set i next) = found_down l ∨
      starter.phase = .loading ∧ started = false ∧
        found_down (l.set i next) ≤ found_down l + 1 := by
  have hcount := @threads.count_set _ l (·.found_down) i starter hi next
  unfold found_down
  rcases found_down_after_turn hturn (h.each starter (List.mem_of_getElem? hi)) with
    hsame | ⟨hphase, hdown, hfirst⟩
  · rw [hsame] at hcount
    exact .inl (by omega)
  · refine .inr ⟨hphase, hdown, ?_⟩
    have hone : next.found_down.toNat ≤ 1 := Bool.toNat_le _
    omega

/-- The runs that have asked an adapter have found the flag down. -/
theorem Sound.scheduled_le (h : Sound options started l) :
    l.countP (·.specs_scheduled) ≤ found_down l ∧
      l.countP (·.id_lists_scheduled) ≤ found_down l :=
  ⟨List.countP_mono_left fun starter hmem hs => (h.each starter hmem).asks (.inr hs),
    List.countP_mono_left fun starter hmem hs => (h.each starter hmem).asks (.inl hs)⟩

end Sound

/-! ## What a step does -/

def CallPhase.under_way : CallPhase → Bool
  | .returned _ => false
  | .timed_out _ => false
  | _ => true

/-- The call has timed out, and the runtime has taken its task. -/
def CallPhase.left_task : CallPhase → Bool
  | .timed_out (.ok _) => true
  | _ => false

/-- How many calls have left a task behind, and how many runs are such tasks. -/
def tasks_left (calls : List CallPhase) : Nat := calls.countP (·.left_task)

def tasks_spawned (l : List Starter) : Nat := l.countP (·.spawned)

/-- All that a step can do to the flag, the runs and the calls. -/
inductive Step (options : Options) (s : Statsig) : InitStep → Statsig → Prop
  | wait (a : InitStep) (s' : Statsig)
    (hflag : s'.background_tasks_started = s.background_tasks_started)
    (hstarters : Change s.starters s'.starters)
    (hcalls : ∀ phase ∈ s'.calls, phase ∈ s.calls ∨ phase.under_way = true)
    (htasks : tasks_left s'.calls = tasks_left s.calls) : Step options s a s'
  | finish (a : InitStep) (s' : Statsig) (starter : Starter) (success : Bool)
    (hflag : s'.background_tasks_started = s.background_tasks_started)
    (hstarters : s'.starters = s.starters) (hmem : starter ∈ s.starters)
    (hphase : starter.phase = .returned success)
    (htasks : tasks_left s'.calls = tasks_left s.calls) : Step options s a s'
  | move (i : Nat) (result : Except StatsigErr Unit) (starter next : Starter)
    (hi : s.starters[i]? = some starter)
    (hturn : starter.Turn options s.background_tasks_started next) :
    Step options s (.move i result) { s with
      background_tasks_started := s.background_tasks_started || starter.phase.stores
      starters := s.starters.set i next }
  | time_out (a : InitStep) (s' : Statsig) (dropped : List Starter)
    (hdrop : Change s.starters dropped)
    (hflag : s'.background_tasks_started = s.background_tasks_started)
    (hstarters : s'.starters = dropped ++ [{ spawned := true }])
    (hcalls : ∀ phase ∈ s'.calls, phase ∈ s.calls ∨ ∃ result, phase = .timed_out result)
    (htasks : tasks_left s'.calls = tasks_left s.calls + 1) : Step options s a s'
  | time_out_error (a : InitStep) (s' : Statsig)
    (hflag : s'.background_tasks_started = s.background_tasks_started)
    (hstarters : Change s.starters s'.starters)
    (hcalls : ∀ phase ∈ s'.calls, phase ∈ s.calls ∨ ∃ e, phase = .timed_out (.error e))
    (htasks : tasks_left s'.calls = tasks_left s.calls) : Step options s a s'

section Step

variable {options : Options} {s s' : Statsig}

theorem mem_calls_set {call : Nat} {new phase : CallPhase} (h : phase ∈ s.calls.set call new) :
    phase ∈ s.calls ∨ phase = new := List.mem_or_eq_of_mem_set h

/-- A call that is under way has left no task yet. -/
theorem tasks_left_set {calls : List CallPhase} {call : Nat} {phase : CallPhase}
    (hcall : calls[call]? = some phase) (hway : phase.under_way = true) (new : CallPhase) :
    tasks_left (calls.set call new) = tasks_left calls + new.left_task.toNat := by
  have hcount := @threads.count_set _ calls (·.left_task) call phase hcall new
  have hnone : phase.left_task = false := by
    cases phase with
    | timed_out _ => cases hway
    | _ => rfl
  rw [hnone, Bool.toNat_false] at hcount
  exact hcount

/-- A call that goes from one phase under way to another. -/
theorem step_under_way {a : InitStep} {call : Nat} {old new : CallPhase}
    (hcall : s.calls[call]? = some old) (hold : old.under_way = true)
    (hnew : new.under_way = true)
    (hflag : s'.background_tasks_started = s.background_tasks_started)
    (hstarters : Change s.starters s'.starters) (hcalls : s'.calls = s.calls.set call new) :
    Step options s a s' := by
  refine .wait a s' hflag hstarters ?_ ?_
  · intro phase hmem
    rw [hcalls] at hmem
    rcases mem_calls_set hmem with hold | rfl
    · exact .inl hold
    · exact .inr hnew
  · rw [hcalls, tasks_left_set hcall hold]
    cases new with
    | timed_out _ => cases hnew
    | _ => rfl

theorem success_eq_some {phase : StarterPhase} {success : Bool} (h : phase.success = some success) :
    phase = .returned success := by
  cases phase with
  | returned success' =>
    cases h
    rfl
  | _ => cases h

theorem step_go_on {call : Nat} {told : Told} {phase : CallPhase}
    (hcall : s.calls[call]? = some phase) (h : s.go_on options call told phase = some s') :
    Step options s (.go_on call told) s' := by
  cases phase with
  | created =>
    rw [← Option.some.inj h]
    exact step_under_way hcall rfl rfl rfl .same rfl
  | loading =>
    simp only [Statsig.go_on] at h
    split at h
    · rw [← Option.some.inj h]
      exact step_under_way hcall rfl rfl rfl .same rfl
    · rw [← Option.some.inj h]
      exact step_under_way hcall rfl rfl rfl .same rfl
  | specs_started error =>
    rw [← Option.some.inj h]
    exact step_under_way hcall rfl rfl rfl .same rfl
  | id_lists_started error id_list_ready =>
    rw [← Option.some.inj h]
    exact step_under_way hcall rfl rfl rfl .same rfl
  | informed found =>
    rw [← Option.some.inj h]
    exact step_under_way hcall rfl rfl rfl .add rfl
  | in_background found i =>
    obtain ⟨success, hsuccess, h⟩ := Option.map_eq_some_iff.mp h
    obtain ⟨starter, hi, hphase⟩ := Option.bind_eq_some_iff.mp hsuccess
    rw [← h]
    exact .finish _ _ starter success rfl rfl (List.mem_of_getElem? hi) (success_eq_some hphase)
      (tasks_left_set hcall rfl _)
  | returned details => cases h
  | timed_out result => cases h

theorem drop_future_change {phase : CallPhase} {dropped : List Starter}
    (h : s.drop_future phase = some dropped) :
    Change s.starters dropped ∧ phase.under_way = true := by
  unfold Statsig.drop_future at h
  split at h
  · cases h
  · cases h
  · split at h
    · next starter hi =>
      split at h
      · cases h
      · rw [← Option.some.inj h]
        exact ⟨.drop _ starter hi, rfl⟩
    · rw [← Option.some.inj h]
      exact ⟨.same, rfl⟩
  · next hreturned htimed_out _ =>
    rw [← Option.some.inj h]
    refine ⟨.same, ?_⟩
    cases phase with
    | returned details => exact absurd rfl (hreturned details)
    | timed_out result => exact absurd rfl (htimed_out result)
    | _ => rfl

theorem step_cases {a : InitStep} (h : s.step options a = some s') : Step options s a s' := by
  cases a with
  | call =>
    rw [← Option.some.inj h]
    refine .wait _ _ rfl .same ?_ ?_
    · intro phase hmem
      rcases List.mem_append.mp hmem with hold | hnew
      · exact .inl hold
      · rw [List.mem_singleton.mp hnew]
        exact .inr rfl
    · exact List.countP_append
  | go_on call told =>
    obtain ⟨phase, hcall, h⟩ := Option.bind_eq_some_iff.mp h
    exact step_go_on hcall h
  | move i result =>
    obtain ⟨starter, hi, h⟩ := Option.bind_eq_some_iff.mp h
    obtain ⟨next, hmove, h⟩ := Option.map_eq_some_iff.mp h
    rw [← h]
    exact .move i result starter next hi (move_turn hmove)
  | time_out call spawned granted =>
    obtain ⟨timeout_ms, -, h⟩ := Option.bind_eq_some_iff.mp h
    obtain ⟨dropped, hdropped, h⟩ := Option.map_eq_some_iff.mp h
    obtain ⟨phase, hcall, hdrop⟩ := Option.bind_eq_some_iff.mp hdropped
    obtain ⟨hchange, hway⟩ := drop_future_change hdrop
    rw [← h]
    cases spawned with
    | ok _ =>
      refine .time_out _ _ dropped hchange rfl rfl ?_ (tasks_left_set hcall hway _)
      intro phase hmem
      exact (mem_calls_set hmem).imp_right fun heq => ⟨_, heq⟩
    | error e =>
      refine .time_out_error _ _ rfl hchange ?_ (tasks_left_set hcall hway _)
      intro phase hmem
      exact (mem_calls_set hmem).imp_right fun heq => ⟨e, heq⟩
  | skip i =>
    obtain ⟨starter, hi, h⟩ := Option.bind_eq_some_iff.mp h
    split at h
    · rw [← Option.some.inj h]
      exact .wait _ _ rfl (.drop i starter hi) (fun phase hmem => .inl hmem) rfl
    · cases h
  | specs_update info =>
    rw [← Option.some.inj h]
    exact .wait _ _ rfl .same (fun phase hmem => .inl hmem) rfl

end Step

/-! ## What holds over any run -/

/-- What the ends of the calls tell about the runs of `start_background_tasks`. -/
structure Good (options : Options) (s : Statsig) : Prop where
  sound : Sound options s.background_tasks_started s.starters
  returned : ∀ details, .returned details ∈ s.calls → s.background_tasks_started = true
  tasks : tasks_left s.calls = tasks_spawned s.starters

section Good

variable {options : Options} {s s' : Statsig}

theorem tasks_spawned_after_change {l l' : List Starter} (hchange : Change l l') :
    tasks_spawned l' = tasks_spawned l := by
  cases hchange with
  | same => rfl
  | add => exact List.countP_append
  | drop i starter hi =>
    have hcount := @threads.count_set _ l (·.spawned) i starter hi
      { starter with phase := .dropped }
    exact Nat.add_right_cancel hcount

theorem tasks_spawned_after_turn {started : Bool} {l : List Starter} {i : Nat}
    {starter next : Starter} (hi : l[i]? = some starter)
    (hturn : starter.Turn options started next) :
    tasks_spawned (l.set i next) = tasks_spawned l := by
  have hcount := @threads.count_set _ l (·.spawned) i starter hi next
  have hsame : next.spawned = starter.spawned := by cases hturn <;> rfl
  rw [hsame] at hcount
  exact Nat.add_right_cancel hcount

theorem Good.step {a : InitStep} (h : Good options s) (hstep : s.step options a = some s') :
    Good options s' := by
  cases step_cases hstep with
  | wait _ _ hflag hstarters hcalls htasks =>
    refine ⟨?_, ?_, ?_⟩
    · rw [hflag]
      exact h.sound.change hstarters
    · intro details hmem
      rw [hflag]
      rcases hcalls _ hmem with hold | hnew
      · exact h.returned details hold
      · cases hnew
    · rw [htasks, h.tasks, tasks_spawned_after_change hstarters]
  | finish _ _ starter success hflag hstarters hmem hphase htasks =>
    refine ⟨?_, ?_, ?_⟩
    · rw [hflag, hstarters]
      exact h.sound
    · intro details _
      rw [hflag]
      exact (h.sound.each starter hmem).returned success hphase
    · rw [htasks, h.tasks, hstarters]
  | move i result starter next hi hturn =>
    refine ⟨h.sound.move hi hturn, ?_, ?_⟩
    · intro details hmem
      exact Bool.or_eq_true_iff.mpr (.inl (h.returned details hmem))
    · exact h.tasks.trans (tasks_spawned_after_turn hi hturn).symm
  | time_out _ _ dropped hdrop hflag hstarters hcalls htasks =>
    refine ⟨?_, ?_, ?_⟩
    · rw [hflag, hstarters]
      exact (h.sound.change hdrop).add true
    · intro details hmem
      rw [hflag]
      rcases hcalls _ hmem with hold | ⟨_, hnew⟩
      · exact h.returned details hold
      · cases hnew
    · rw [htasks, h.tasks, hstarters, ← tasks_spawned_after_change hdrop]
      exact (@List.countP_append _ _ dropped [{ spawned := true }]).symm
  | time_out_error _ _ hflag hstarters hcalls htasks =>
    refine ⟨?_, ?_, ?_⟩
    · rw [hflag]
      exact h.sound.change hstarters
    · intro details hmem
      rw [hflag]
      rcases hcalls _ hmem with hold | ⟨_, hnew⟩
      · exact h.returned details hold
      · cases hnew
    · rw [htasks, h.tasks, tasks_spawned_after_change hstarters]

theorem good_new (options : Options) : Good options {} where
  sound := ⟨List.forall_mem_nil _, fun h => (nomatch h)⟩
  returned _ h := (nomatch h)
  tasks := rfl

/-- A step lets one run more find the flag down, at most, and then the flag was down. -/
theorem found_down_after_step {a : InitStep} (h : Good options s)
    (hstep : s.step options a = some s') :
    found_down s'.starters = found_down s.starters ∨
      ∃ i result starter, a = .move i result ∧ s.starters[i]? = some starter ∧
        starter.phase = .loading ∧ s.background_tasks_started = false ∧
        found_down s'.starters ≤ found_down s.starters + 1 := by
  cases step_cases hstep with
  | wait _ _ _ hstarters => exact .inl (found_down_after_change hstarters)
  | finish _ _ _ _ _ hstarters =>
    rw [hstarters]
    exact .inl rfl
  | move i result starter next hi hturn =>
    rcases found_down_after_move h.sound hi hturn with hsame | ⟨hphase, hdown, hone⟩
    · exact .inl hsame
    · exact .inr ⟨i, result, starter, rfl, hi, hphase, hdown, hone⟩
  | time_out _ _ dropped hdrop _ hstarters =>
    rw [hstarters, found_down_add, found_down_after_change hdrop]
    exact .inl rfl
  | time_out_error _ _ _ hstarters => exact .inl (found_down_after_change hstarters)

/-- The runs of the first list that have found the flag down are those of the second. -/
def FoundBefore (before after : List Starter) : Prop :=
  ∀ (i : Nat) (next : Starter), after[i]? = some next → next.found_down = true →
    ∃ starter : Starter, before[i]? = some starter ∧ starter.found_down = true

theorem FoundBefore.trans {l l' l'' : List Starter} (h : FoundBefore l l')
    (h' : FoundBefore l' l'') : FoundBefore l l'' := by
  intro i next hi hfound
  obtain ⟨starter, hi', hfound'⟩ := h' i next hi hfound
  exact h i starter hi' hfound'

end Good

def timed_options : Options where
  id_lists_adapter := true
  init_timeout_ms := some 100
  display _ := "error"

/-- A call that times out while it loads, and the task that it leaves behind. -/
def timed_out_call : List InitStep :=
  [.call, .go_on 0 {}, .time_out 0 (.ok ()) true, .move 0 (.ok ()), .move 0 (.ok ()),
    .move 0 (.ok ()), .move 0 (.ok ())]

/-- A call that is not held up. -/
def second_call : List InitStep :=
  [.call, .go_on 1 {}, .go_on 1 {}, .go_on 1 {}, .go_on 1 {}, .go_on 1 {}, .move 1 (.ok ()),
    .go_on 1 {}]

/-- The state after the steps, if they are all taken. -/
def after (labels : List InitStep) : Statsig :=
  (run (Statsig.step timed_options) {} labels).getD {}

/-- No run looks at the flag while it is down and another run has found it down before. -/
def Alone (s : Statsig) : InitStep → Prop
  | .move i _ => ∀ starter ∈ s.starters[i]?, starter.phase = .loading →
    s.background_tasks_started = true ∨ found_down s.starters = 0
  | _ => True

/-- Where the runs do not overlap, no adapter is asked twice, however many calls there are. -/
theorem background_syncs_are_scheduled_once (options : Options) {labels : List InitStep}
    {s : Statsig} (halone : Along (Statsig.step options) Alone {} labels)
    (hrun : run (Statsig.step options) {} labels = some s) :
    s.starters.countP (·.specs_scheduled) ≤ 1 ∧ s.starters.countP (·.id_lists_scheduled) ≤ 1 := by
  have hkept : Good options s ∧ found_down s.starters ≤ 1 := by
    apply run_invariant_along (I := fun s => Good options s ∧ found_down s.starters ≤ 1) ?_ halone
      ⟨good_new options, Nat.zero_le 1⟩ hrun
    rintro s a s' ⟨h, hone⟩ hc hstep
    refine ⟨h.step hstep, ?_⟩
    rcases found_down_after_step h hstep with hsame | ⟨i, _, starter, rfl, hi, hphase, hdown, hle⟩
    · rw [hsame]
      exact hone
    · rcases hc starter hi hphase with hup | hnone
      · rw [hdown] at hup
        cases hup
      · rw [hnone] at hle
        exact hle
  obtain ⟨hspecs, hlists⟩ := hkept.1.sound.scheduled_le
  exact ⟨hspecs.trans hkept.2, hlists.trans hkept.2⟩

theorem the_timed_out_call_asks_once :
    (after (timed_out_call ++ second_call)).starters.countP (·.specs_scheduled) ≤ 1 ∧
      (after (timed_out_call ++ second_call)).starters.countP (·.id_lists_scheduled) ≤ 1 := by
  have hrun : run (Statsig.step timed_options) {} (timed_out_call ++ second_call) =
      some (after (timed_out_call ++ second_call)) := rfl
  refine background_syncs_are_scheduled_once timed_options ?_ hrun
  simp [timed_out_call, second_call, Along, Alone, Statsig.step, Statsig.go_on,
    Statsig.drop_future, Statsig.time_out, Starter.move, StarterPhase.stores, found_down,
    timed_options]

end statsig_rust.statsig
