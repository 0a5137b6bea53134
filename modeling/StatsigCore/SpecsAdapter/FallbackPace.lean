-- Which requests a sync makes. The first goes to the URL of the specs, with retries only in the
-- background. The second goes to the fallback: at once when somebody waits for the sync, and in the
-- background at every fifth failure since the adapter was made, whatever has succeeded in between.
import StatsigCore.SpecsAdapter.HttpSpecsAdapter

namespace statsig_rust.http_specs_adapter

open StatsigHttpSpecsAdapter (exchange_events)

/-! ## What is requested -/

def requests (events : List SyncEvent) : List RequestArgs :=
  events.filterMap fun event => match event with
    | .Request args => some args
    | _ => none

/-- The first exchange brings no specs, or specs that the listener does not take. -/
def first_fails (sync : Sync) : Bool :=
  match sync.first.response with
  | .error _ => true
  | .ok _ => !is_ok sync.first.applied

/-- A background sync that counts for the fallback. -/
def counts (sync : Sync) : Bool :=
  sync.listener_set && sync.trigger = .Background && first_fails sync

/-- How often the background has failed. -/
def failures (syncs : List Sync) : Nat := syncs.countP counts

def retries_of : SpecsSyncTrigger → Nat
  | .Initial | .Manual => 0
  | .Background => 3

section

variable {adapter : StatsigHttpSpecsAdapter} {sync : Sync} {args : RequestArgs}
  {exchange : Exchange}

theorem requests_exchange_events : requests (exchange_events args exchange) = [args] := by
  unfold exchange_events
  cases exchange.response with
  | error _ => rfl
  | ok _ => rfl

/-- What stays of the adapter when it exchanges a request. -/
structure SameTarget (adapter adapter' : StatsigHttpSpecsAdapter) : Prop where
  sdk_key : adapter'.sdk_key = adapter.sdk_key
  specs_url : adapter'.specs_url = adapter.specs_url
  fallback_url : adapter'.fallback_url = adapter.fallback_url

theorem SameTarget.refl (adapter : StatsigHttpSpecsAdapter) : SameTarget adapter adapter :=
  ⟨rfl, rfl, rfl⟩

theorem SameTarget.trans {first second third : StatsigHttpSpecsAdapter}
    (h : SameTarget first second) (h' : SameTarget second third) : SameTarget first third :=
  ⟨h'.sdk_key.trans h.sdk_key, h'.specs_url.trans h.specs_url,
    h'.fallback_url.trans h.fallback_url⟩

theorem exchanged_keeps (adapter : StatsigHttpSpecsAdapter) (args : RequestArgs)
    (exchange : Exchange) :
    SameTarget adapter (adapter.exchanged args exchange).2 ∧
      (adapter.exchanged args exchange).2.background_sync_failure_count =
        adapter.background_sync_failure_count := by
  unfold StatsigHttpSpecsAdapter.exchanged StatsigHttpSpecsAdapter.process_spec_data
  cases exchange.response with
  | error _ => exact ⟨.refl adapter, rfl⟩
  | ok data =>
    dsimp only [Except.map]
    cases exchange.applied with
    | error e =>
      dsimp only
      split
      · exact ⟨⟨rfl, rfl, rfl⟩, rfl⟩
      · exact ⟨.refl adapter, rfl⟩
    | ok _ =>
      dsimp only
      split
      · exact ⟨⟨rfl, rfl, rfl⟩, rfl⟩
      · exact ⟨.refl adapter, rfl⟩

theorem is_ok_exchanged (adapter : StatsigHttpSpecsAdapter) (args : RequestArgs) (sync : Sync) :
    is_ok (adapter.exchanged args sync.first).1.result = !first_fails sync := by
  unfold StatsigHttpSpecsAdapter.exchanged StatsigHttpSpecsAdapter.process_spec_data first_fails
  cases sync.first.response with
  | error _ => rfl
  | ok data =>
    dsimp only [Except.map]
    cases sync.first.applied with
    | error e =>
      dsimp only
      split <;> rfl
    | ok _ =>
      dsimp only
      split <;> rfl

/-- The end of a sync says nothing of the fallback. -/
theorem finish_sync_keeps (adapter : StatsigHttpSpecsAdapter) (sync : Sync) (deltas_used : Bool)
    (outcome : ProcessSpecDataOutcome) (events : List SyncEvent) :
    SameTarget adapter (adapter.finish_sync sync deltas_used outcome events).2 ∧
      (adapter.finish_sync sync deltas_used outcome events).2.background_sync_failure_count =
        adapter.background_sync_failure_count ∧
      requests (adapter.finish_sync sync deltas_used outcome events).1.events =
        requests events := by
  have hforced : requests (events ++ [.Forced]) = requests events := by
    unfold requests
    rw [List.filterMap_append]
    exact List.append_nil _
  unfold StatsigHttpSpecsAdapter.finish_sync
    StatsigHttpSpecsAdapter.maybe_force_full_resync_on_stalled_deltas
  dsimp only
  split_ifs <;> first
    | exact ⟨⟨rfl, rfl, rfl⟩, rfl, rfl⟩
    | exact ⟨⟨rfl, rfl, rfl⟩, rfl, hforced⟩

/-! ## One sync -/

/-- Whether a sync goes to the fallback, after so many failures of the background. -/
def FallsBack (adapter : StatsigHttpSpecsAdapter) (count : Nat) (sync : Sync) : Prop :=
  first_fails sync ∧ adapter.fallback_url.isSome ∧
    (sync.trigger ≠ .Background ∨ count % u32_size % STATSIG_NETWORK_FALLBACK_THRESHOLD = 0)

instance (adapter : StatsigHttpSpecsAdapter) (count : Nat) (sync : Sync) :
    Decidable (FallsBack adapter count sync) :=
  inferInstanceAs (Decidable (_ ∧ _ ∧ (_ ∨ _)))

/-- Where a request goes and how often it is tried again. -/
def target (args : RequestArgs) : String × Nat := (args.url, args.retries)

def targets (adapter : StatsigHttpSpecsAdapter) (trigger : SpecsSyncTrigger) (falls_back : Bool) :
    List (String × Nat) :=
  (construct_specs_url adapter.specs_url adapter.sdk_key, retries_of trigger) ::
    if falls_back then
      adapter.fallback_url.toList.map fun url =>
        (construct_specs_url url adapter.sdk_key, retries_of trigger)
    else []

theorem target_get_request_args (adapter : StatsigHttpSpecsAdapter) (info : SpecsInfo)
    (trigger : SpecsSyncTrigger) :
    target (adapter.get_request_args info trigger) =
      (construct_specs_url adapter.specs_url adapter.sdk_key, retries_of trigger) := by
  cases trigger <;> rfl

theorem should_attempt_fallback_spec (adapter : StatsigHttpSpecsAdapter)
    {result : Except StatsigErr Unit} (hresult : is_ok result = !first_fails sync) :
    ((adapter.should_attempt_fallback sync.trigger result).1 = true ↔
      FallsBack adapter (adapter.background_sync_failure_count + 1) sync) ∧
    SameTarget adapter (adapter.should_attempt_fallback sync.trigger result).2 ∧
    (adapter.should_attempt_fallback sync.trigger result).2.background_sync_failure_count =
      if first_fails sync ∧ adapter.fallback_url.isSome ∧ sync.trigger = .Background then
        (adapter.background_sync_failure_count + 1) % u32_size
      else adapter.background_sync_failure_count := by
  unfold StatsigHttpSpecsAdapter.should_attempt_fallback FallsBack
  rw [hresult]
  cases hfails : first_fails sync with
  | false => exact ⟨by simp, .refl adapter, by simp⟩
  | true =>
    cases hurl : adapter.fallback_url with
    | none => exact ⟨by simp, .refl adapter, by simp⟩
    | some url =>
      by_cases htrigger : sync.trigger = .Background
      · rw [htrigger]
        exact ⟨by simp, ⟨rfl, rfl, hurl.symm⟩, by simp⟩
      · exact ⟨by simp [htrigger], by simp [htrigger, SameTarget.refl], by simp [htrigger]⟩

theorem requests_append (events more : List SyncEvent) :
    requests (events ++ more) = requests events ++ requests more :=
  List.filterMap_append

theorem target_fallback_args {url : String} (hurl : adapter.fallback_url = some url)
    (info : SpecsInfo) (trigger : SpecsSyncTrigger) :
    target (adapter.fallback_args (adapter.get_request_args info trigger)) =
      (construct_specs_url url adapter.sdk_key, retries_of trigger) := by
  unfold StatsigHttpSpecsAdapter.fallback_args
  rw [hurl]
  cases trigger <;> rfl

/-- What a sync is, told from the adapter before it. -/
structure SyncTargets (adapter : StatsigHttpSpecsAdapter) (sync : Sync)
    (done : Option SyncRecord × StatsigHttpSpecsAdapter) : Prop where
  same : SameTarget adapter done.2
  count : done.2.background_sync_failure_count =
    if counts sync ∧ adapter.fallback_url.isSome then
      (adapter.background_sync_failure_count + 1) % u32_size
    else adapter.background_sync_failure_count
  targets : (done.1.toList.flatMap fun record => (requests record.events).map target) =
    if sync.listener_set then
      targets adapter sync.trigger
        (FallsBack adapter (adapter.background_sync_failure_count + 1) sync)
    else []

/-- What the first exchange leaves behind, and when the fallback comes next. -/
theorem first_exchange_spec (adapter : StatsigHttpSpecsAdapter) (args : RequestArgs) (sync : Sync)
    (hlistener : sync.listener_set = true) :
    let first := adapter.exchanged args sync.first
    let attempt := first.2.should_attempt_fallback sync.trigger first.1.result
    SameTarget adapter attempt.2 ∧
      (attempt.1 = true ↔ FallsBack adapter (adapter.background_sync_failure_count + 1) sync) ∧
      attempt.2.background_sync_failure_count =
        if counts sync ∧ adapter.fallback_url.isSome then
          (adapter.background_sync_failure_count + 1) % u32_size
        else adapter.background_sync_failure_count := by
  intro first attempt
  have hok := is_ok_exchanged adapter args sync
  obtain ⟨hsame, hcount⟩ := exchanged_keeps adapter args sync.first
  obtain ⟨hfalls, hsame', hcount'⟩ := should_attempt_fallback_spec first.2 hok
  refine ⟨hsame.trans hsame', ?_, ?_⟩
  · rw [hfalls, FallsBack, hsame.fallback_url, hcount]
    rfl
  · rw [hcount', hsame.fallback_url, hcount]
    congr 1
    simp [counts, hlistener, and_comm, and_left_comm, and_assoc]

theorem sync_targets (adapter : StatsigHttpSpecsAdapter) (sync : Sync) :
    SyncTargets adapter sync (adapter.manually_sync_specs sync) := by
  unfold StatsigHttpSpecsAdapter.manually_sync_specs
  cases hlistener : sync.listener_set with
  | false =>
    refine ⟨.refl adapter, ?_, ?_⟩
    · simp [counts, hlistener]
    · simp [hlistener]
  | true =>
    rw [if_neg (by simp)]
    dsimp only
    have hargs := target_get_request_args adapter sync.current_specs_info sync.trigger
    generalize adapter.get_request_args sync.current_specs_info sync.trigger = args at hargs ⊢
    obtain ⟨hsecond, hfalls, hcounted⟩ := first_exchange_spec adapter args sync hlistener
    rcases hfirst : adapter.exchanged args sync.first with ⟨outcome, first⟩
    rw [hfirst] at hsecond hfalls hcounted
    dsimp only at hsecond hfalls hcounted
    rcases hfallback : first.should_attempt_fallback sync.trigger outcome.result with
      ⟨fallback, second⟩
    rw [hfallback] at hsecond hfalls hcounted
    cases fallback with
    | false =>
      have hno : ¬FallsBack adapter (adapter.background_sync_failure_count + 1) sync :=
        fun h => absurd (hfalls.mpr h) Bool.false_ne_true
      obtain ⟨hsame_last, hcount_third, hrequests⟩ := finish_sync_keeps second sync
        args.deltas_enabled outcome (exchange_events args sync.first)
      refine ⟨hsecond.trans hsame_last, hcount_third.trans hcounted, ?_⟩
      rw [if_pos hlistener, targets, decide_eq_false hno]
      simp [hrequests, requests_exchange_events, hargs]
    | true =>
      have hyes : FallsBack adapter (adapter.background_sync_failure_count + 1) sync :=
        hfalls.mp rfl
      obtain ⟨url, hurl⟩ := Option.isSome_iff_exists.mp hyes.2.1
      dsimp only
      have hargs' : target (second.fallback_args (second.get_request_args sync.current_specs_info
          sync.trigger)) = (construct_specs_url url adapter.sdk_key, retries_of sync.trigger) := by
        rw [target_fallback_args (hsecond.fallback_url.trans hurl), hsecond.sdk_key]
      generalize second.fallback_args (second.get_request_args sync.current_specs_info
        sync.trigger) = args' at hargs' ⊢
      obtain ⟨hthird, hcount_third⟩ := exchanged_keeps second args' sync.fallback
      rcases hexchanged : second.exchanged args' sync.fallback with ⟨outcome', third⟩
      rw [hexchanged] at hthird hcount_third
      obtain ⟨hsame_last, hcount_last, hrequests⟩ := finish_sync_keeps third sync
        args'.deltas_enabled outcome'
        (exchange_events args sync.first ++ exchange_events args' sync.fallback)
      refine ⟨(hsecond.trans hthird).trans hsame_last,
        (hcount_last.trans hcount_third).trans hcounted, ?_⟩
      rw [if_pos hlistener, targets, decide_eq_true hyes, hurl]
      simp [hrequests, requests_append, requests_exchange_events, hargs, hargs']

end

/-! ## Runs -/

theorem failures_append (done : List Sync) (sync : Sync) :
    failures (done ++ [sync]) = failures done + if counts sync then 1 else 0 := by
  unfold failures
  rw [List.countP_append, List.countP_singleton]

/-- After a run the adapter has counted the failures, if it has a fallback. -/
structure Counted (start adapter : StatsigHttpSpecsAdapter) (done : List Sync) : Prop where
  same : SameTarget start adapter
  count : adapter.background_sync_failure_count =
    if start.fallback_url.isSome then failures done % u32_size else 0

theorem Counted.sync {start : StatsigHttpSpecsAdapter} {s : Syncs} {done : List Sync}
    (h : Counted start s.adapter done) (sync : Sync) :
    Counted start (s.sync sync).adapter (done ++ [sync]) := by
  have hspec := sync_targets s.adapter sync
  refine ⟨h.same.trans hspec.same, ?_⟩
  have hcount := hspec.count
  rw [h.same.fallback_url, h.count] at hcount
  unfold Syncs.sync
  rw [failures_append]
  refine hcount.trans ?_
  cases start.fallback_url.isSome with
  | false => simp
  | true => cases counts sync <;> simp [Nat.add_mod]

theorem run_counted (start : StatsigHttpSpecsAdapter)
    (hstart : start.background_sync_failure_count = 0) (syncs : List Sync) :
    Counted start ((Syncs.mk start []).run syncs).adapter syncs := by
  induction syncs using List.reverseRecOn with
  | nil =>
    refine ⟨.refl start, hstart.trans ?_⟩
    split <;> rfl
  | append_singleton syncs sync ih =>
    unfold Syncs.run
    rw [List.foldl_append]
    exact ih.sync sync

/-- The requests of the next sync, after any run of syncs of a new adapter. The first goes to the
URL of the specs. The fallback comes next where it is configured and the first has failed: at once
for an initial or a manual sync, and in the background at every fifth failure. -/
theorem requests_after_run (sdk_key : String) (options : StatsigOptions)
    (override_url : Option String) (done : List Sync) (sync : Sync) :
    let start := StatsigHttpSpecsAdapter.new sdk_key options override_url
    (((Syncs.mk start []).run done).adapter.manually_sync_specs sync).1.toList.flatMap
        (fun record => (requests record.events).map target) =
      if sync.listener_set then
        targets start sync.trigger (FallsBack start (failures done + 1) sync)
      else [] := by
  intro start
  obtain ⟨hsame, hcount⟩ := run_counted start rfl done
  have hspec := sync_targets ((Syncs.mk start []).run done).adapter sync
  refine hspec.targets.trans ?_
  have hfalls : FallsBack ((Syncs.mk start []).run done).adapter
      (((Syncs.mk start []).run done).adapter.background_sync_failure_count + 1) sync ↔
      FallsBack start (failures done + 1) sync := by
    unfold FallsBack
    rw [hsame.fallback_url, hcount]
    cases start.fallback_url.isSome with
    | false => simp
    | true => simp [Nat.add_mod]
  unfold targets
  rw [hsame.specs_url, hsame.sdk_key, hsame.fallback_url, decide_eq_decide.mpr hfalls]

end statsig_rust.http_specs_adapter
