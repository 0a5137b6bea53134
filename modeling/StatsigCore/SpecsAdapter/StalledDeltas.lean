-- The recovery from stalled deltas, told from what the syncs did. The counter of the
-- adapter is the streak of the past syncs, and the time that it keeps is the time of the
-- last forced resync.
import StatsigCore.SpecsAdapter.HttpSpecsAdapter

namespace statsig_rust.http_specs_adapter

/-! ## Streaks -/

namespace SyncRecord

variable (record : SyncRecord)

/-- The update was applied and the LCUT went up. -/
def advanced : Bool := is_ok record.result && lcut_advanced record.pre_lcut record.post_lcut

/-- A background delta sync that brought updates, and yet no progress. -/
def stalled : Bool :=
  record.trigger = .Background && record.deltas_used && record.had_updates &&
    !is_network_error record.result && !record.advanced

/-- A background sync after which the streak is over: progress or no updates in a delta
sync, a full sync that succeeds, or a forced resync. -/
def resets : Bool :=
  record.trigger = .Background &&
    (record.deltas_used && !is_network_error record.result &&
        (record.advanced || !record.had_updates) ||
      !record.deltas_used && is_ok record.result || record.forced)

end SyncRecord

/-- The stalled syncs since the last one that reset the streak, the newest first. -/
def streak : List SyncRecord → Nat
  | [] => 0
  | record :: past =>
    if record.resets then 0 else if record.stalled then streak past + 1 else streak past

/-- What the clock showed when a resync was last forced. -/
def last_forced : List SyncRecord → Option Int
  | [] => none
  | record :: past => if record.forced then some record.now else last_forced past

/-- No resync was forced before, or the clock is behind the last one or far enough past
it. One that was forced when the clock showed the epoch, or a time before it, does not
count. -/
def Due (past : List SyncRecord) (now : Int) : Prop :=
  ∀ last, last_forced past = some last →
    last ≤ 0 ∨ now < last ∨ last + MIN_FORCED_FULL_RESYNC_INTERVAL_MS ≤ now

theorem streak_le_length (past : List SyncRecord) : streak past ≤ past.length := by
  induction past with
  | nil => exact Nat.le_refl 0
  | cons record past ih =>
    unfold streak
    rw [List.length_cons]
    split
    · omega
    · split <;> omega

section Cons

variable {record : SyncRecord} {past : List SyncRecord}

theorem streak_of_resets (h : record.resets = true) : streak (record :: past) = 0 := if_pos h

theorem streak_of_stalled (hresets : record.resets = false) (h : record.stalled = true) :
    streak (record :: past) = streak past + 1 := by
  rw [streak, if_neg (by simp [hresets]), if_pos h]

theorem streak_of_neither (hresets : record.resets = false) (h : record.stalled = false) :
    streak (record :: past) = streak past := by
  rw [streak, if_neg (by simp [hresets]), if_neg (by simp [h])]

theorem last_forced_of_forced (h : record.forced = true) :
    last_forced (record :: past) = some record.now := if_pos h

theorem last_forced_of_not (h : record.forced = false) :
    last_forced (record :: past) = last_forced past := if_neg (by simp [h])

end Cons

/-! ## The counter and the clock -/

/-- What the adapter keeps of a time. -/
def clock_ms (now : Int) : Nat := (max now 0).toNat

/-- The adapter keeps the streak and the last forced resync of its past. -/
structure Tracks (adapter : StatsigHttpSpecsAdapter) (past : List SyncRecord) : Prop where
  count : adapter.delta_no_progress_count = streak past
  last : adapter.last_forced_full_resync_at_ms = ((last_forced past).map clock_ms).getD 0

theorem forced_resync_due_iff {adapter : StatsigHttpSpecsAdapter} {past : List SyncRecord}
    (h : Tracks adapter past) (count : Nat) (now : Int) :
    forced_resync_due count adapter.delta_no_progress_threshold
        adapter.last_forced_full_resync_at_ms (clock_ms now) MIN_FORCED_FULL_RESYNC_INTERVAL_MS =
        true ↔
      adapter.delta_no_progress_threshold ≤ count ∧ Due past now := by
  unfold forced_resync_due Due
  rw [h.last]
  by_cases hcount : count < adapter.delta_no_progress_threshold
  · rw [if_pos hcount]
    simp only [Bool.false_eq_true, false_iff, not_and]
    omega
  · rw [if_neg hcount]
    have hmin : 0 < MIN_FORCED_FULL_RESYNC_INTERVAL_MS := by decide
    cases hlast : last_forced past with
    | none =>
      simp only [Option.map_none, Option.getD_none, decide_true, Bool.true_or, ↓reduceIte, true_iff]
      exact ⟨by omega, fun _ hnone => by cases hnone⟩
    | some last =>
      simp only [Option.map_some, Option.getD_some, Option.some.injEq, forall_eq']
      unfold clock_ms
      by_cases hearly : (max last 0).toNat = 0 ∨ (max now 0).toNat < (max last 0).toNat
      · rw [if_pos (by simpa using hearly)]
        simp only [true_iff]
        exact ⟨by omega, by omega⟩
      · rw [if_neg (by simpa using hearly)]
        simp only [ge_iff_le, decide_eq_true_eq]
        constructor
        · intro hlate
          exact ⟨by omega, by omega⟩
        · rintro ⟨-, hdue⟩
          omega

/-- The adapter recovers from stalls, with this threshold. -/
def Recovers (adapter : StatsigHttpSpecsAdapter) (threshold : Nat) : Prop :=
  adapter.allow_dcs_deltas = true ∧ adapter.delta_no_progress_threshold = threshold

/-- When a sync forces a resync, told from the sync and from the past. -/
def ForcesWhenDue (threshold : Nat) (record : SyncRecord) (past : List SyncRecord) : Prop :=
  record.forced = true ↔
    record.stalled = true ∧ threshold ≤ streak past + 1 ∧ Due past record.now

section Finish

variable {adapter adapter' : StatsigHttpSpecsAdapter} {past : List SyncRecord}
  {record : SyncRecord} {threshold : Nat}

/-- The end of a sync leaves the streak alone, starts it again, or adds to it, and then
it may force a resync. -/
theorem finish_sync_cases {sync : Sync} {deltas_used : Bool} {outcome : ProcessSpecDataOutcome}
    {events : List SyncEvent} (hrecovers : Recovers adapter threshold) (hthreshold : 0 < threshold)
    (h : adapter.finish_sync sync deltas_used outcome events = (record, adapter')) :
    (record.forced = false ∧ record.stalled = false ∧ record.resets = false ∧
      adapter' = adapter) ∨
    (record.forced = false ∧ record.stalled = false ∧ record.resets = true ∧
      adapter' = { adapter with delta_no_progress_count := 0 }) ∨
    (record.stalled = true ∧ record.resets = record.forced ∧
      record.forced = forced_resync_due ((adapter.delta_no_progress_count + 1) % u32_size)
        threshold adapter.last_forced_full_resync_at_ms (clock_ms record.now)
        MIN_FORCED_FULL_RESYNC_INTERVAL_MS ∧
      adapter' = if record.forced then { adapter with
          use_deltas_next_request := false
          last_forced_full_resync_at_ms := clock_ms record.now
          delta_no_progress_count := 0 }
        else { adapter with
          delta_no_progress_count := (adapter.delta_no_progress_count + 1) % u32_size }) := by
  obtain ⟨hallow, rfl⟩ := hrecovers
  unfold StatsigHttpSpecsAdapter.finish_sync
    StatsigHttpSpecsAdapter.maybe_force_full_resync_on_stalled_deltas at h
  by_cases htrigger : sync.trigger = .Background
  · rw [if_neg (by simp [htrigger, hallow]; omega)] at h
    cases deltas_used with
    | false =>
      rw [if_pos (by simp)] at h
      cases hok : is_ok outcome.result with
      | true =>
        rw [hok] at h
        obtain ⟨rfl, rfl⟩ := Prod.mk.inj h
        exact .inr (.inl ⟨rfl, by simp [SyncRecord.stalled],
          by simp [SyncRecord.resets, htrigger, hok], rfl⟩)
      | false =>
        rw [hok] at h
        obtain ⟨rfl, rfl⟩ := Prod.mk.inj h
        exact .inl ⟨rfl, by simp [SyncRecord.stalled], by simp [SyncRecord.resets, hok], rfl⟩
    | true =>
      rw [if_neg (by simp)] at h
      cases hnetwork : is_network_error outcome.result with
      | true =>
        rw [hnetwork] at h
        obtain ⟨rfl, rfl⟩ := Prod.mk.inj h
        exact .inl ⟨rfl, by simp [SyncRecord.stalled, hnetwork],
          by simp [SyncRecord.resets, hnetwork], rfl⟩
      | false =>
        cases hupdates : outcome.had_updates with
        | false =>
          rw [hnetwork, hupdates] at h
          obtain ⟨rfl, rfl⟩ := Prod.mk.inj h
          exact .inr (.inl ⟨rfl, by simp [SyncRecord.stalled],
            by simp [SyncRecord.resets, htrigger, hnetwork], rfl⟩)
        | true =>
          rw [hnetwork, hupdates] at h
          by_cases hadvanced : is_ok outcome.result = true ∧
              lcut_advanced sync.current_specs_info.lcut sync.post_lcut = true
          · rw [if_neg (by simp), if_neg (by simp), if_pos hadvanced] at h
            obtain ⟨rfl, rfl⟩ := Prod.mk.inj h
            exact .inr (.inl ⟨rfl, by simp [SyncRecord.stalled, SyncRecord.advanced, hadvanced],
              by simp [SyncRecord.resets, SyncRecord.advanced, htrigger, hnetwork, hadvanced],
              rfl⟩)
          · rw [if_neg (by simp), if_neg (by simp), if_neg hadvanced] at h
            have hnot : (is_ok outcome.result &&
                lcut_advanced sync.current_specs_info.lcut sync.post_lcut) = false := by
              simpa using hadvanced
            dsimp only at h
            cases hdue : forced_resync_due ((adapter.delta_no_progress_count + 1) % u32_size)
                adapter.delta_no_progress_threshold adapter.last_forced_full_resync_at_ms
                (max sync.now 0).toNat MIN_FORCED_FULL_RESYNC_INTERVAL_MS with
            | true =>
              rw [hdue] at h
              obtain ⟨rfl, rfl⟩ := Prod.mk.inj h
              exact .inr (.inr ⟨by simp [SyncRecord.stalled, SyncRecord.advanced, htrigger,
                hnetwork, hnot], by simp [SyncRecord.resets, htrigger], hdue.symm, rfl⟩)
            | false =>
              rw [hdue] at h
              obtain ⟨rfl, rfl⟩ := Prod.mk.inj h
              exact .inr (.inr ⟨by simp [SyncRecord.stalled, SyncRecord.advanced, htrigger,
                hnetwork, hnot], by simp [SyncRecord.resets, SyncRecord.advanced, hnetwork, hnot],
                hdue.symm, rfl⟩)
  · rw [if_pos (.inl htrigger)] at h
    obtain ⟨rfl, rfl⟩ := Prod.mk.inj h
    exact .inl ⟨rfl, by simp [SyncRecord.stalled, htrigger], by simp [SyncRecord.resets, htrigger],
      rfl⟩

theorem finish_sync_tracks {sync : Sync} {deltas_used : Bool}
    {outcome : ProcessSpecDataOutcome} {events : List SyncEvent}
    (htracks : Tracks adapter past) (hrecovers : Recovers adapter threshold)
    (hthreshold : 0 < threshold) (hroom : streak past + 1 < u32_size)
    (h : adapter.finish_sync sync deltas_used outcome events = (record, adapter')) :
    ForcesWhenDue threshold record past ∧ Tracks adapter' (record :: past) ∧
      Recovers adapter' threshold := by
  rcases finish_sync_cases hrecovers hthreshold h with ⟨hforced, hstalled, hresets, rfl⟩ |
    ⟨hforced, hstalled, hresets, rfl⟩ | ⟨hstalled, hresets, hdue, rfl⟩
  · refine ⟨by simp [ForcesWhenDue, hforced, hstalled], ⟨?_, ?_⟩, hrecovers⟩
    · rw [streak_of_neither hresets hstalled]
      exact htracks.count
    · rw [last_forced_of_not hforced]
      exact htracks.last
  · refine ⟨by simp [ForcesWhenDue, hforced, hstalled], ⟨?_, ?_⟩, hrecovers⟩
    · exact (streak_of_resets hresets).symm
    · rw [last_forced_of_not hforced]
      exact htracks.last
  · have hcount : (adapter.delta_no_progress_count + 1) % u32_size = streak past + 1 := by
      rw [htracks.count]
      exact Nat.mod_eq_of_lt hroom
    rw [hcount] at hdue
    have hiff := forced_resync_due_iff htracks (streak past + 1) record.now
    rw [hrecovers.2, ← hdue] at hiff
    refine ⟨?_, ?_⟩
    · unfold ForcesWhenDue
      rw [hiff]
      simp [hstalled]
    · cases hforced : record.forced with
      | true =>
        refine ⟨⟨?_, ?_⟩, hrecovers⟩
        · exact (streak_of_resets (hresets.trans hforced)).symm
        · rw [last_forced_of_forced hforced]
          rfl
      | false =>
        refine ⟨⟨?_, ?_⟩, hrecovers⟩
        · rw [streak_of_stalled (hresets.trans hforced) hstalled]
          exact hcount
        · rw [last_forced_of_not hforced]
          exact htracks.last

end Finish

/-! ## Requests with and without deltas -/

namespace SyncEvent

/-- After a forced resync or a checksum failure no deltas are asked for, until a full
update is applied. -/
def next_off (off : Bool) : SyncEvent → Bool
  | .Request _ => off
  | .Forced => true
  | .Applied _ (.error e) => off || e.is_checksum_failure
  | .Applied requested_deltas (.ok _) => off && requested_deltas

def turns_off : SyncEvent → Prop
  | .Forced => True
  | .Applied _ (.error e) => e.is_checksum_failure = true
  | _ => False

/-- A full update is applied. -/
def turns_on : SyncEvent → Prop
  | .Applied requested_deltas (.ok _) => requested_deltas = false
  | _ => False

theorem next_off_of_turns_off {event : SyncEvent} (h : event.turns_off) (off : Bool) :
    event.next_off off = true := by
  rcases event with args | ⟨_, e | _⟩ | _
  · exact h.elim
  · exact Bool.or_eq_true_iff.mpr (.inr h)
  · exact h.elim
  · rfl

theorem next_off_of_not_turns_on {event : SyncEvent} (h : ¬ event.turns_on) :
    event.next_off true = true := by
  rcases event with args | ⟨_, e | _⟩ | _
  · rfl
  · rfl
  · exact Bool.eq_true_of_not_eq_false h
  · rfl

end SyncEvent

/-- Each request asks for deltas just when they are not off. -/
def RequestsFollow : Bool → List SyncEvent → Prop
  | _, [] => True
  | off, event :: events =>
    (∀ args, event = .Request args →
      args.query_params.get "accept_deltas" = if off then none else some "true") ∧
    RequestsFollow (event.next_off off) events

theorem requests_follow_append {off : Bool} {events later : List SyncEvent} :
    RequestsFollow off (events ++ later) ↔
      RequestsFollow off events ∧ RequestsFollow (events.foldl SyncEvent.next_off off) later := by
  induction events generalizing off with
  | nil => simp [RequestsFollow]
  | cons event events ih =>
    rw [List.cons_append, RequestsFollow, RequestsFollow, List.foldl_cons, ih, and_assoc]

/-- The deltas stay off until an update turns them on. -/
theorem stays_off {events : List SyncEvent} (h : ∀ event ∈ events, ¬ event.turns_on) :
    events.foldl SyncEvent.next_off true = true := by
  induction events with
  | nil => rfl
  | cons event events ih =>
    rw [List.foldl_cons, SyncEvent.next_off_of_not_turns_on (h event List.mem_cons_self)]
    exact ih fun later hlater => h later (List.mem_cons_of_mem event hlater)

theorem request_while_off {off : Bool} {before between after : List SyncEvent}
    {event : SyncEvent} {args : RequestArgs}
    (h : RequestsFollow off (before ++ event :: between ++ .Request args :: after))
    (hevent : event.turns_off) (hbetween : ∀ other ∈ between, ¬ other.turns_on) :
    args.query_params.get "accept_deltas" = none := by
  have hlast := (requests_follow_append.mp h).2
  rw [List.foldl_append, List.foldl_cons, SyncEvent.next_off_of_turns_off hevent,
    stays_off hbetween] at hlast
  exact hlast.1 args rfl

/-- No response of the sync carries updates. -/
def Sync.NoUpdates (sync : Sync) : Prop :=
  ∀ data, sync.first.response = .ok data ∨ sync.fallback.response = .ok data →
    carries_updates data = false

namespace StatsigHttpSpecsAdapter

variable {adapter adapter' : StatsigHttpSpecsAdapter}

theorem get_accept_deltas (adapter : StatsigHttpSpecsAdapter) (current_specs_info : SpecsInfo)
    (trigger : SpecsSyncTrigger) :
    (adapter.get_request_args current_specs_info trigger).query_params.get "accept_deltas" =
      if adapter.use_deltas_next_request then some "true" else none := by
  unfold get_request_args
  dsimp only
  cases adapter.use_deltas_next_request with
  | true => exact HashMap.get_insert _ _ _ _
  | false =>
    rcases current_specs_info with ⟨_ | lcut, _ | checksum⟩
    · rfl
    · simp [HashMap.get_insert, HashMap.get_cons]
    · by_cases hlcut : lcut > 0 <;> simp [hlcut, HashMap.get_insert, HashMap.get_cons]
    · by_cases hlcut : lcut > 0 <;> simp [hlcut, HashMap.get_insert, HashMap.get_cons]

theorem fallback_args_query_params (adapter : StatsigHttpSpecsAdapter) (args : RequestArgs) :
    (adapter.fallback_args args).query_params = args.query_params := by
  unfold fallback_args
  split <;> rfl

/-- The flag for the next request is on when the deltas are not off. -/
def Follows (adapter : StatsigHttpSpecsAdapter) (off : Bool) : Prop :=
  adapter.use_deltas_next_request = !off

theorem exchange_requests {off : Bool} {args : RequestArgs} (exchange : Exchange)
    (h : args.query_params.get "accept_deltas" = if off then none else some "true") :
    RequestsFollow off (exchange_events args exchange) := by
  unfold exchange_events
  rcases exchange.response with e | data
  · refine ⟨fun other hother => ?_, trivial⟩
    cases hother
    exact h
  · refine ⟨fun other hother => ?_, ⟨fun other hother => ?_, trivial⟩⟩
    · cases hother
      exact h
    · cases hother

/-! ## A sync -/

/-- Nothing that the recovery keeps changes. -/
structure KeepsRecovery (adapter adapter' : StatsigHttpSpecsAdapter) : Prop where
  allow : adapter'.allow_dcs_deltas = adapter.allow_dcs_deltas
  threshold : adapter'.delta_no_progress_threshold = adapter.delta_no_progress_threshold
  count : adapter'.delta_no_progress_count = adapter.delta_no_progress_count
  last : adapter'.last_forced_full_resync_at_ms = adapter.last_forced_full_resync_at_ms

theorem KeepsRecovery.recovers {threshold : Nat} (h : KeepsRecovery adapter adapter')
    (hrecovers : Recovers adapter threshold) : Recovers adapter' threshold :=
  ⟨h.allow.trans hrecovers.1, h.threshold.trans hrecovers.2⟩

theorem KeepsRecovery.tracks {past : List SyncRecord} (h : KeepsRecovery adapter adapter')
    (htracks : Tracks adapter past) : Tracks adapter' past :=
  ⟨h.count.trans htracks.count, h.last.trans htracks.last⟩

/-- What an exchange leaves for the rest of the sync. -/
structure Exchanged (adapter : StatsigHttpSpecsAdapter) (off : Bool) (args : RequestArgs)
    (exchange : Exchange) (outcome : ProcessSpecDataOutcome)
    (adapter' : StatsigHttpSpecsAdapter) : Prop where
  keeps : KeepsRecovery adapter adapter'
  follows : adapter'.Follows ((exchange_events args exchange).foldl SyncEvent.next_off off)
  requests : RequestsFollow off (exchange_events args exchange)
  had_updates : (∀ data, exchange.response = .ok data → carries_updates data = false) →
    outcome.had_updates = false

theorem exchanged_spec {off : Bool} {args : RequestArgs} {exchange : Exchange}
    {outcome : ProcessSpecDataOutcome} (hallow : adapter.allow_dcs_deltas = true)
    (hfollows : adapter.Follows off)
    (hargs : args.query_params.get "accept_deltas" =
      if adapter.use_deltas_next_request then some "true" else none)
    (h : adapter.exchanged args exchange = (outcome, adapter')) :
    Exchanged adapter off args exchange outcome adapter' := by
  have hrequests : RequestsFollow off (exchange_events args exchange) := by
    refine exchange_requests exchange ?_
    rw [hargs, hfollows]
    cases off <;> rfl
  unfold Follows at hfollows
  unfold exchanged process_spec_data at h
  rcases exchange with ⟨e | data, e' | _⟩
  · obtain ⟨rfl, rfl⟩ := Prod.mk.inj h
    exact ⟨⟨rfl, rfl, rfl, rfl⟩, hfollows, hrequests, fun _ => rfl⟩
  · obtain ⟨rfl, rfl⟩ := Prod.mk.inj h
    exact ⟨⟨rfl, rfl, rfl, rfl⟩, hfollows, hrequests, fun _ => rfl⟩
  · dsimp only [Except.map] at h
    cases hchecksum : e'.is_checksum_failure with
    | true =>
      rw [hchecksum] at h
      obtain ⟨rfl, rfl⟩ := Prod.mk.inj h
      refine ⟨⟨rfl, rfl, rfl, rfl⟩, ?_, hrequests, fun hnone => hnone data rfl⟩
      simp [Follows, exchange_events, SyncEvent.next_off, hchecksum]
    | false =>
      rw [hchecksum] at h
      obtain ⟨rfl, rfl⟩ := Prod.mk.inj h
      refine ⟨⟨rfl, rfl, rfl, rfl⟩, ?_, hrequests, fun hnone => hnone data rfl⟩
      simpa [Follows, exchange_events, SyncEvent.next_off, hchecksum] using hfollows
  · dsimp only [Except.map] at h
    cases hdeltas : args.deltas_enabled with
    | true =>
      rw [hdeltas, if_neg (by simp)] at h
      obtain ⟨rfl, rfl⟩ := Prod.mk.inj h
      refine ⟨⟨rfl, rfl, rfl, rfl⟩, ?_, hrequests, fun hnone => hnone data rfl⟩
      simpa [Follows, exchange_events, SyncEvent.next_off, hdeltas] using hfollows
    | false =>
      rw [hdeltas, if_pos (by simp [hallow])] at h
      obtain ⟨rfl, rfl⟩ := Prod.mk.inj h
      refine ⟨⟨rfl, rfl, rfl, rfl⟩, ?_, hrequests, fun hnone => hnone data rfl⟩
      simp [Follows, exchange_events, SyncEvent.next_off, hdeltas]

/-- The question whether to fall back only counts a failure. -/
theorem fallback_keeps {trigger : SpecsSyncTrigger} {result : Except StatsigErr Unit}
    {fallback : Bool}
    (h : adapter.should_attempt_fallback trigger result = (fallback, adapter')) :
    KeepsRecovery adapter adapter' ∧
      adapter'.use_deltas_next_request = adapter.use_deltas_next_request := by
  unfold should_attempt_fallback at h
  split at h
  · cases h
    exact ⟨⟨rfl, rfl, rfl, rfl⟩, rfl⟩
  · split at h <;> cases h <;> exact ⟨⟨rfl, rfl, rfl, rfl⟩, rfl⟩

theorem finish_sync_follows {record : SyncRecord} {sync : Sync} {deltas_used off : Bool}
    {outcome : ProcessSpecDataOutcome} {events : List SyncEvent} {threshold : Nat}
    (hrecovers : Recovers adapter threshold) (hthreshold : 0 < threshold)
    (hfollows : adapter.Follows (events.foldl SyncEvent.next_off off))
    (hrequests : RequestsFollow off events)
    (h : adapter.finish_sync sync deltas_used outcome events = (record, adapter')) :
    record.had_updates = outcome.had_updates ∧ RequestsFollow off record.events ∧
      adapter'.Follows (record.events.foldl SyncEvent.next_off off) := by
  have hcases := finish_sync_cases hrecovers hthreshold h
  have hrecord : record.had_updates = outcome.had_updates ∧
      record.events = if record.forced then events ++ [.Forced] else events := by
    unfold finish_sync at h
    obtain ⟨rfl, -⟩ := Prod.mk.inj h
    exact ⟨rfl, rfl⟩
  refine ⟨hrecord.1, ?_⟩
  rw [hrecord.2]
  rcases hcases with ⟨hforced, -, -, rfl⟩ | ⟨hforced, -, -, rfl⟩ | ⟨-, -, -, rfl⟩
  · rw [hforced]
    exact ⟨hrequests, hfollows⟩
  · rw [hforced]
    exact ⟨hrequests, hfollows⟩
  · cases record.forced with
    | false => exact ⟨hrequests, hfollows⟩
    | true =>
      refine ⟨requests_follow_append.mpr ⟨hrequests, ⟨fun args hargs => ?_, trivial⟩⟩, ?_⟩
      · cases hargs
      · simp only [↓reduceIte, List.foldl_append]
        rfl

/-- What a sync tells of itself, and what the adapter keeps of it. -/
structure SyncSpec (threshold : Nat) (off : Bool) (past : List SyncRecord) (sync : Sync)
    (record : SyncRecord) (adapter' : StatsigHttpSpecsAdapter) : Prop where
  forces : ForcesWhenDue threshold record past
  tracks : Tracks adapter' (record :: past)
  recovers : Recovers adapter' threshold
  requests : RequestsFollow off record.events
  follows : adapter'.Follows (record.events.foldl SyncEvent.next_off off)
  had_updates : sync.NoUpdates → record.had_updates = false

theorem finish_sync_spec {sync : Sync} {record : SyncRecord} {past : List SyncRecord}
    {threshold : Nat} {deltas_used off : Bool} {outcome : ProcessSpecDataOutcome}
    {events : List SyncEvent} (htracks : Tracks adapter past)
    (hrecovers : Recovers adapter threshold) (hthreshold : 0 < threshold)
    (hroom : streak past + 1 < u32_size)
    (hfollows : adapter.Follows (events.foldl SyncEvent.next_off off))
    (hrequests : RequestsFollow off events)
    (hupdates : sync.NoUpdates → outcome.had_updates = false)
    (h : adapter.finish_sync sync deltas_used outcome events = (record, adapter')) :
    SyncSpec threshold off past sync record adapter' := by
  obtain ⟨hforces, htracks', hrecovers'⟩ :=
    finish_sync_tracks htracks hrecovers hthreshold hroom h
  obtain ⟨hsame, hrequests', hfollows'⟩ :=
    finish_sync_follows hrecovers hthreshold hfollows hrequests h
  exact ⟨hforces, htracks', hrecovers', hrequests', hfollows',
    fun hnone => hsame.trans (hupdates hnone)⟩

theorem manually_sync_specs_spec {sync : Sync} {record : SyncRecord} {past : List SyncRecord}
    {threshold : Nat} {off : Bool} (htracks : Tracks adapter past)
    (hrecovers : Recovers adapter threshold) (hthreshold : 0 < threshold)
    (hroom : streak past + 1 < u32_size) (hfollows : adapter.Follows off)
    (h : adapter.manually_sync_specs sync = (some record, adapter')) :
    SyncSpec threshold off past sync record adapter' := by
  unfold manually_sync_specs at h
  split at h
  · cases h
  · dsimp only at h
    rcases hfirst : adapter.exchanged (adapter.get_request_args sync.current_specs_info
      sync.trigger) sync.first with ⟨outcome, first⟩
    obtain ⟨hkeeps, hfirst_follows, hfirst_requests, hfirst_updates⟩ :=
      exchanged_spec hrecovers.1 hfollows (get_accept_deltas adapter _ _) hfirst
    rw [hfirst] at h
    dsimp only at h
    rcases hfallback : first.should_attempt_fallback sync.trigger outcome.result with
      ⟨fallback, second⟩
    obtain ⟨hkeeps', hflag⟩ := fallback_keeps hfallback
    rw [hfallback] at h
    have hrecovers' := hkeeps'.recovers (hkeeps.recovers hrecovers)
    have htracks' := hkeeps'.tracks (hkeeps.tracks htracks)
    have hsecond_follows := hflag.trans hfirst_follows
    cases fallback with
    | false =>
      obtain ⟨hrecord, hadapter⟩ := Prod.mk.inj h
      refine finish_sync_spec htracks' hrecovers' hthreshold hroom hsecond_follows
        hfirst_requests (fun hnone => ?_) (Prod.ext (Option.some.inj hrecord) hadapter)
      exact hfirst_updates fun data hdata => hnone data (.inl hdata)
    | true =>
      dsimp only at h
      rcases hthird : second.exchanged (second.fallback_args (second.get_request_args
        sync.current_specs_info sync.trigger)) sync.fallback with ⟨outcome', third⟩
      have hargs : (second.fallback_args (second.get_request_args sync.current_specs_info
          sync.trigger)).query_params.get "accept_deltas" =
            if second.use_deltas_next_request then some "true" else none := by
        rw [fallback_args_query_params]
        exact get_accept_deltas second _ _
      obtain ⟨hkeeps'', hthird_follows, hthird_requests, hthird_updates⟩ :=
        exchanged_spec hrecovers'.1 hsecond_follows hargs hthird
      rw [hthird] at h
      obtain ⟨hrecord, hadapter⟩ := Prod.mk.inj h
      refine finish_sync_spec (hkeeps''.tracks htracks') (hkeeps''.recovers hrecovers')
        hthreshold hroom ?_ (requests_follow_append.mpr ⟨hfirst_requests, hthird_requests⟩)
        (fun hnone => ?_) (Prod.ext (Option.some.inj hrecord) hadapter)
      · rw [List.foldl_append]
        exact hthird_follows
      · exact hthird_updates fun data hdata => hnone data (.inr hdata)

end StatsigHttpSpecsAdapter

/-! ## Runs of syncs -/

namespace Syncs

variable {s : Syncs} {threshold : Nat}

/-- What holds after some syncs. -/
structure SyncsSpec (threshold : Nat) (done : List Sync) (s : Syncs) : Prop where
  length : s.past.length ≤ done.length
  forces : ∀ newer record older, s.past = newer ++ record :: older →
    ForcesWhenDue threshold record older
  tracks : Tracks s.adapter s.past
  recovers : Recovers s.adapter threshold
  requests : RequestsFollow false s.events
  follows : s.adapter.Follows (s.events.foldl SyncEvent.next_off false)
  had_updates : ∀ record ∈ s.past, ∃ sync ∈ done, sync.NoUpdates → record.had_updates = false

theorem sync_spec {done : List Sync} {sync : Sync} (hthreshold : 0 < threshold)
    (hroom : done.length + 1 < u32_size) (hs : SyncsSpec threshold done s) :
    SyncsSpec threshold (done ++ [sync]) (s.sync sync) := by
  obtain ⟨hlength, hforces, htracks, hrecovers, hrequests, hfollows, hupdates⟩ := hs
  have hstreak := streak_le_length s.past
  have hearlier : ∀ record ∈ s.past, ∃ earlier ∈ done ++ [sync],
      earlier.NoUpdates → record.had_updates = false := by
    intro record hrecord
    obtain ⟨earlier, hmem, hnone⟩ := hupdates record hrecord
    exact ⟨earlier, List.mem_append_left _ hmem, hnone⟩
  unfold Syncs.sync
  rcases hsync : s.adapter.manually_sync_specs sync with ⟨_ | record, adapter'⟩
  · -- the adapter has no listener
    have hsame : adapter' = s.adapter := by
      unfold StatsigHttpSpecsAdapter.manually_sync_specs at hsync
      split at hsync
      · exact (Prod.mk.inj hsync).2.symm
      · dsimp only at hsync
        split at hsync <;> cases hsync
    subst hsame
    dsimp only [Option.toList_none, List.nil_append]
    refine ⟨?_, hforces, htracks, hrecovers, hrequests, hfollows, hearlier⟩
    rw [List.length_append]
    exact hlength.trans (Nat.le_add_right _ _)
  · have hspec := StatsigHttpSpecsAdapter.manually_sync_specs_spec htracks hrecovers hthreshold
      (by omega) hfollows hsync
    have hevents : ({ adapter := adapter', past := record :: s.past } : Syncs).events =
        s.events ++ record.events := by
      unfold Syncs.events
      rw [List.reverse_cons, List.flatMap_append, List.flatMap_singleton]
    dsimp only [Option.toList_some, List.singleton_append]
    refine ⟨?_, ?_, hspec.tracks, hspec.recovers, ?_, ?_, ?_⟩
    · simpa using hlength
    · intro newer other older hsplit
      cases newer with
      | nil =>
        obtain ⟨rfl, rfl⟩ := List.cons.inj hsplit
        exact hspec.forces
      | cons first newer => exact hforces newer other older (List.cons.inj hsplit).2
    · rw [hevents]
      exact requests_follow_append.mpr ⟨hrequests, hspec.requests⟩
    · rw [hevents, List.foldl_append]
      exact hspec.follows
    · intro other hother
      rcases List.mem_cons.mp hother with rfl | hold
      · exact ⟨sync, List.mem_append_right _ List.mem_cons_self, hspec.had_updates⟩
      · exact hearlier other hold

theorem run_spec {start : Syncs} (hthreshold : 0 < threshold)
    (hstart : SyncsSpec threshold [] start) (syncs : List Sync) (hroom : syncs.length < u32_size) :
    SyncsSpec threshold syncs (start.run syncs) := by
  induction syncs using List.reverseRecOn with
  | nil => exact hstart
  | append_singleton done sync ih =>
    rw [List.length_append, List.length_singleton] at hroom
    unfold run
    rw [List.foldl_append]
    exact sync_spec hthreshold hroom (ih (by omega))

/-- An adapter before its first sync. -/
def start (sdk_key : String) (options : StatsigOptions) (override_url : Option String) : Syncs where
  adapter := .new sdk_key options override_url

theorem start_spec (sdk_key : String) {options : StatsigOptions} (override_url : Option String)
    (hdeltas : options.enable_dcs_deltas = some true) :
    SyncsSpec (options.dcs_delta_no_progress_threshold.getD
      DEFAULT_DCS_DELTA_NO_PROGRESS_THRESHOLD) [] (start sdk_key options override_url) := by
  have henabled : options.enable_dcs_deltas.getD false = true := by rw [hdeltas]; rfl
  refine ⟨Nat.le_refl 0, fun newer _ _ hsplit => ?_, ⟨rfl, rfl⟩, ⟨henabled, rfl⟩, trivial,
    henabled, fun _ hrecord => absurd hrecord List.not_mem_nil⟩
  exact absurd hsplit.symm (by simp [start])

/-- With deltas and a threshold, a sync forces a full resync just when it is a stalled
background delta sync that brings the streak to the threshold and a resync is due; without
updates no resync is forced; and between a forced resync or a checksum failure and the next
full update that is applied, no request asks for deltas. -/
theorem stalled_deltas_force_a_resync (sdk_key : String) (options : StatsigOptions)
    (override_url : Option String) (hdeltas : options.enable_dcs_deltas = some true)
    (hthreshold : options.dcs_delta_no_progress_threshold ≠ some 0) (syncs : List Sync)
    (hlength : syncs.length < u32_size) :
    (∀ newer record older,
      ((start sdk_key options override_url).run syncs).past = newer ++ record :: older →
      (record.forced = true ↔ record.stalled = true ∧
        options.dcs_delta_no_progress_threshold.getD DEFAULT_DCS_DELTA_NO_PROGRESS_THRESHOLD ≤
          streak older + 1 ∧ Due older record.now)) ∧
    ((∀ sync ∈ syncs, sync.NoUpdates) →
      ∀ record ∈ ((start sdk_key options override_url).run syncs).past, record.forced = false) ∧
    ∀ before event between args after,
      ((start sdk_key options override_url).run syncs).events =
        before ++ event :: between ++ .Request args :: after →
      event.turns_off → (∀ other ∈ between, ¬ other.turns_on) →
      args.query_params.get "accept_deltas" = none := by
  have hpositive : 0 < options.dcs_delta_no_progress_threshold.getD
      DEFAULT_DCS_DELTA_NO_PROGRESS_THRESHOLD := by
    cases hoption : options.dcs_delta_no_progress_threshold with
    | none => decide
    | some threshold =>
      rw [hoption] at hthreshold
      exact Nat.pos_of_ne_zero fun hzero => hthreshold (congrArg some hzero)
  have hrun := run_spec hpositive (start_spec sdk_key override_url hdeltas) syncs hlength
  refine ⟨hrun.forces, fun hnone record hrecord => ?_, fun before event between args after hsplit
    hevent hbetween => ?_⟩
  · obtain ⟨sync, hsync, hupdates⟩ := hrun.had_updates record hrecord
    obtain ⟨newer, older, hsplit⟩ := List.append_of_mem hrecord
    cases hforced : record.forced with
    | false => rfl
    | true =>
      have hstalled := ((hrun.forces newer record older hsplit).mp hforced).1
      simp [SyncRecord.stalled, hupdates (hnone sync hsync)] at hstalled
  · have hrequests := hrun.requests
    rw [hsplit] at hrequests
    exact request_while_off hrequests hevent hbetween

/-- A response with updates, or without. -/
def response (has_updates : Bool) : spec_store.ResponseData where
  deserialize_protobuf := fun _ => .ok {}
  deserialize_json := .ok {}
  deserialize_no_updates := .ok has_updates

/-- A background sync that is applied and leaves the LCUT at 5. -/
def background_sync (now : Int) : Sync where
  trigger := .Background
  current_specs_info := { lcut := some 5, checksum := none }
  first := { response := .ok (response true), applied := .ok () }
  fallback := { response := .error (.ShutdownError ""), applied := .ok () }
  post_lcut := some 5
  now

/-- Recovery from the first stalled sync on. -/
def eager_options : StatsigOptions where
  enable_dcs_deltas := some true
  dcs_delta_no_progress_threshold := some 1

/-- A stall, the full sync that it forces, and a stall soon after. -/
def two_stalls (epoch : Int) : List Sync :=
  [background_sync epoch, background_sync (epoch + 1), background_sync (epoch + 2)]

theorem second_stall_waits :
    (∀ newer record older,
      ((start "key" eager_options none).run (two_stalls 1000)).past = newer ++ record :: older →
      (record.forced = true ↔ record.stalled = true ∧ 1 ≤ streak older + 1 ∧
        Due older record.now)) ∧
    ((∀ sync ∈ two_stalls 1000, sync.NoUpdates) →
      ∀ record ∈ ((start "key" eager_options none).run (two_stalls 1000)).past,
        record.forced = false) ∧
    ∀ before event between args after,
      ((start "key" eager_options none).run (two_stalls 1000)).events =
        before ++ event :: between ++ .Request args :: after →
      event.turns_off → (∀ other ∈ between, ¬ other.turns_on) →
      args.query_params.get "accept_deltas" = none :=
  stalled_deltas_force_a_resync "key" eager_options none rfl
    (fun h => absurd (Option.some.inj h) Nat.one_ne_zero) (two_stalls 1000) (by decide)

/-- When the clock shows the epoch, the time of the forced resync is kept as never. -/
theorem forced_at_the_epoch_is_forgotten :
    ¬ ∀ (syncs : List Sync) (newer : List SyncRecord) (record : SyncRecord)
        (older : List SyncRecord), syncs.length < u32_size →
      ((start "key" eager_options none).run syncs).past = newer ++ record :: older →
      (record.forced = true ↔ record.stalled = true ∧ 1 ≤ streak older + 1 ∧
        ∀ last, last_forced older = some last →
          record.now < last ∨ last + MIN_FORCED_FULL_RESYNC_INTERVAL_MS ≤ record.now) := by
  intro hall
  have hforced : ((start "key" eager_options none).run (two_stalls 0)).past.head?.map
      (fun record => (record.forced, record.now)) = some (true, 2) := by decide +kernel
  have hlast : last_forced ((start "key" eager_options none).run (two_stalls 0)).past.tail =
      some 0 := by decide +kernel
  cases hpast : ((start "key" eager_options none).run (two_stalls 0)).past with
  | nil => rw [hpast] at hforced; exact absurd hforced (by simp)
  | cons record older =>
    rw [hpast] at hforced hlast
    obtain ⟨hrecord, hnow⟩ := Prod.mk.inj (Option.some.inj hforced)
    -- the earlier resync, forced at the epoch, is two milliseconds ago
    have hwaits := ((hall (two_stalls 0) [] record older (by decide) hpast).mp hrecord).2.2 0 hlast
    rw [hnow] at hwaits
    exact absurd hwaits (by decide)

end Syncs

end statsig_rust.http_specs_adapter
