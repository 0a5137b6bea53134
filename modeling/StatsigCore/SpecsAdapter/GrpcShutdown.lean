-- The shutdown of the gRPC adapter. It gives one signal, which one task takes, so it
-- stops everything just when there is one task to stop.
import Mathlib.Algebra.GroupWithZero.Nat
import StatsigCore.SpecsAdapter.PollingFallback

open machine

namespace statsig_rust.grpc_specs_adapter

/-- One for a streaming loop that runs, or that can still be started. -/
def StreamPhase.live : StreamPhase → Nat
  | .Stopped => 0
  | _ => 1

def PollPhase.live : PollPhase → Nat
  | .Ended _ => 0
  | _ => 1

theorem PollPhase.live_le (phase : PollPhase) : phase.live ≤ 1 := by
  cases phase <;> exact Nat.le_of_ble_eq_true rfl

namespace GrpcSpecsAdapter

variable {s s' : GrpcSpecsAdapter}

def live_polls (polls : List PollTask) : Nat := (polls.map (·.phase.live)).sum

/-- The number of tasks that a shutdown has to stop. -/
def live (s : GrpcSpecsAdapter) : Nat := s.stream.live + live_polls s.polls

/-- Every wake-up has been consumed, and a task still waits for work. -/
def Stranded (s : GrpcSpecsAdapter) : Prop :=
  s.shutdown_notify = false ∧ s.cancel_poll_notify = false ∧
    (s.stream = .Selecting ∨ ∃ task ∈ s.polls, task.phase = .Waiting)

/-- A shutdown finds one task at most, and after it no polling task is spawned. -/
def OneTaskLeft (s : GrpcSpecsAdapter) : GrpcStep → Prop
  | .shutdown _ => s.live ≤ 1
  | .stream_error =>
    s.shutdown_requested = true → s.retry_attempts ≠ FALL_BACK_TO_POLLING_THREASHOLD
  | _ => True

instance (s : GrpcSpecsAdapter) (label : GrpcStep) : Decidable (s.OneTaskLeft label) :=
  match label with
  | .shutdown _ => Nat.decLe s.live 1
  | .stream_error => inferInstanceAs (Decidable (s.shutdown_requested = true →
      s.retry_attempts ≠ FALL_BACK_TO_POLLING_THREASHOLD))
  | .start | .stream_wait | .stream_message _ | .backoff_over | .poll_wait _ _ | .poll_tick _ _
  | .poll_synced _ => .isTrue trivial

/-! ## The tasks that a step leaves -/

theorem live_polls_set {polls : List PollTask} {poll : Nat} {task : PollTask}
    (phase : PollPhase) (htask : polls[poll]? = some task) :
    live_polls (polls.set poll { task with phase }) + task.phase.live =
      live_polls polls + phase.live := by
  induction polls generalizing poll with
  | nil => cases htask
  | cons first rest ih =>
    unfold live_polls at *
    cases poll with
    | zero =>
      cases htask
      simp only [List.set_cons_zero, List.map_cons, List.sum_cons]
      omega
    | succ poll =>
      have hrest := ih htask
      simp only [List.set_cons_succ, List.map_cons, List.sum_cons] at *
      omega

theorem live_set_phase {poll : Nat} {task : PollTask} (phase : PollPhase)
    (htask : s.polls[poll]? = some task) :
    (s.set_phase poll task phase).live + task.phase.live = s.live + phase.live := by
  have hpolls := live_polls_set phase htask
  unfold live set_phase
  dsimp only
  omega

/-- What a step does to the tasks and to the signal of a shutdown. -/
structure Dwindles (s s' : GrpcSpecsAdapter) : Prop where
  live : s'.live ≤ s.live
  signal : s.shutdown_notify = true → s'.shutdown_notify = true ∨ s'.live < s.live

theorem dwindles_of_live_eq (hlive : s'.live = s.live)
    (hsignal : s'.shutdown_notify = s.shutdown_notify) : Dwindles s s' :=
  ⟨Nat.le_of_eq hlive, fun h => .inl (hsignal.trans h)⟩

/-- A task ends, so that the signal may be gone with it. -/
theorem dwindles_of_live_lt (hlive : s'.live < s.live) : Dwindles s s' :=
  ⟨Nat.le_of_lt hlive, fun _ => .inr hlive⟩

theorem set_phase_dwindles {poll : Nat} {task : PollTask} {phase : PollPhase}
    (htask : s.polls[poll]? = some task) (hlive : task.phase.live = 1) :
    Dwindles s (s.set_phase poll task phase) := by
  have hset := live_set_phase phase htask
  have hphase := phase.live_le
  exact ⟨by omega, .inl⟩

theorem ended_lives_less {poll : Nat} {task : PollTask} (why : PollEnd)
    (htask : s.polls[poll]? = some task) (hlive : task.phase.live = 1) :
    (s.set_phase poll task (.Ended why)).live < s.live := by
  have hset := live_set_phase (.Ended why) htask
  have hended : (PollPhase.Ended why).live = 0 := rfl
  omega

theorem stream_failed_dwindles (hstream : s.streams = true)
    (hattempts : s.retry_attempts ≠ FALL_BACK_TO_POLLING_THREASHOLD) :
    Dwindles s s.stream_failed := by
  have hlive : s.stream.live = 1 := by
    rcases of_decide_eq_true hstream with h | h <;> rw [h] <;> rfl
  unfold stream_failed
  dsimp only
  by_cases hlimit : s.retry_attempts > RETRY_LIMIT
  · rw [if_pos hlimit]
    refine dwindles_of_live_lt ?_
    unfold live
    rw [hlive]
    exact Nat.add_lt_add_right Nat.zero_lt_one _
  · rw [if_neg hlimit, if_neg hattempts]
    refine dwindles_of_live_eq ?_ rfl
    unfold live
    rw [hlive]
    rfl

theorem poll_selects_dwindles {poll : Nat} {task : PollTask}
    (htask : s.polls[poll]? = some task) (hlive : task.phase.live = 1) (cancel_first : Bool) :
    Dwindles s (s.poll_selects poll task cancel_first) := by
  unfold poll_selects
  split
  · exact dwindles_of_live_lt (ended_lives_less .Cancelled htask hlive)
  · split
    · exact dwindles_of_live_lt (ended_lives_less .ShutDown htask hlive)
    · exact set_phase_dwindles htask hlive

theorem message_dwindles {woken : Option Nat} (h : s.notify_cancel woken = some s') :
    Dwindles s { s'.reset_retry_state with messages := s'.messages + 1 } := by
  obtain ⟨hpolls, -, hshutdown, hstream, -⟩ := reset_retry_state_keeps s'
  have hlive : ({ s'.reset_retry_state with messages := s'.messages + 1 } :
      GrpcSpecsAdapter).live = s'.live := by
    unfold live
    rw [hpolls, hstream]
  rcases notify_cancel_cases h with ⟨poll, task, htask, hwaits, rfl⟩ | rfl
  · have hless := ended_lives_less .Cancelled htask (by rw [hwaits]; rfl)
    exact dwindles_of_live_lt (hlive ▸ hless)
  · exact dwindles_of_live_eq hlive hshutdown

/-- A shutdown leaves its signal at the notifier, or a task ends with it. -/
theorem shutdown_signals {woken : Option GrpcTask} (h : s.notify_shutdown woken = some s') :
    s'.live ≤ s.live ∧ (s'.shutdown_notify = true ∨ s'.live < s.live) := by
  rcases notify_shutdown_cases h with ⟨hstream, rfl⟩ | ⟨poll, task, htask, hwaits, rfl⟩ | rfl
  · have hless : ({ s with stream := .Stopped } : GrpcSpecsAdapter).live < s.live := by
      unfold live
      rw [hstream]
      exact Nat.add_lt_add_right Nat.zero_lt_one _
    exact ⟨Nat.le_of_lt hless, .inr hless⟩
  · have hless := ended_lives_less .ShutDown htask (by rw [hwaits]; rfl)
    exact ⟨Nat.le_of_lt hless, .inr hless⟩
  · exact ⟨Nat.le_refl _, .inl rfl⟩

/-- The stream goes on to another phase in which it runs. -/
theorem stream_dwindles {phase : StreamPhase} (hlive : phase.live = s.stream.live) :
    Dwindles s { s with stream := phase } := by
  refine dwindles_of_live_eq ?_ rfl
  unfold live
  exact congrArg (· + _) hlive

/-- A step that is no shutdown and that spawns no task takes the signal for a task, or
leaves it. -/
theorem step_dwindles {label : GrpcStep} (h : s.step label = some s')
    (hattempts : label = .stream_error → s.retry_attempts ≠ FALL_BACK_TO_POLLING_THREASHOLD)
    (hshutdown : ∀ woken, label ≠ .shutdown woken) :
    Dwindles s s' ∧ s'.shutdown_requested = s.shutdown_requested := by
  cases label with
  | start =>
    simp only [step] at h
    split at h
    · rename_i hstream
      cases h
      exact ⟨stream_dwindles (by rw [hstream]; rfl), rfl⟩
    · cases h
  | stream_wait =>
    simp only [step] at h
    split at h
    · rename_i hstream
      split at h
      · cases h
        refine ⟨dwindles_of_live_lt ?_, rfl⟩
        unfold live
        rw [hstream]
        exact Nat.add_lt_add_right Nat.zero_lt_one _
      · cases h
        exact ⟨stream_dwindles (by rw [hstream]; rfl), rfl⟩
    · cases h
  | stream_message woken =>
    simp only [step] at h
    split at h
    · obtain ⟨woke, hwoke, rfl⟩ := Option.map_eq_some_iff.mp h
      refine ⟨message_dwindles hwoke, ?_⟩
      obtain ⟨-, -, -, -, -, hrequested⟩ := reset_retry_state_keeps woke
      rcases notify_cancel_cases hwoke with ⟨poll, task, -, -, rfl⟩ | rfl <;> exact hrequested
    · cases h
  | stream_error =>
    simp only [step] at h
    split at h
    · rename_i hstream
      cases h
      refine ⟨stream_failed_dwindles hstream (hattempts rfl), ?_⟩
      unfold stream_failed
      dsimp only
      split
      · rfl
      · split <;> rfl
    · cases h
  | backoff_over =>
    simp only [step] at h
    split at h
    · rename_i hstream
      cases h
      exact ⟨stream_dwindles (by rw [hstream]; rfl), rfl⟩
    · cases h
  | poll_wait poll cancel_first =>
    obtain ⟨task, htask, hphase, rfl⟩ := poll_step_cases h
    refine ⟨poll_selects_dwindles htask (by rw [hphase]; rfl) cancel_first, ?_⟩
    unfold poll_selects
    split
    · rfl
    · split <;> rfl
  | poll_tick poll adapter_alive =>
    obtain ⟨task, htask, hphase, rfl⟩ := poll_step_cases h
    exact ⟨set_phase_dwindles htask (by rw [hphase]; rfl), rfl⟩
  | poll_synced poll =>
    obtain ⟨task, htask, hphase, rfl⟩ := poll_step_cases h
    exact ⟨set_phase_dwindles htask (by rw [hphase]; rfl), rfl⟩
  | shutdown woken => exact absurd rfl (hshutdown woken)

/-! ## After a shutdown -/

/-- What a shutdown still has to stop has its signal waiting for it. -/
def Signalled (s : GrpcSpecsAdapter) : Prop :=
  s.shutdown_requested = true → s.live = 0 ∨ s.shutdown_notify = true ∧ s.live ≤ 1

theorem step_signalled {label : GrpcStep} (hs : s.Signalled) (hlabel : s.OneTaskLeft label)
    (h : s.step label = some s') : s'.Signalled := by
  intro hrequested
  by_cases hshutdown : ∃ woken, label = .shutdown woken
  · obtain ⟨woken, rfl⟩ := hshutdown
    obtain ⟨woke, hwoke, rfl⟩ := Option.map_eq_some_iff.mp h
    obtain ⟨hlive, hsignal⟩ := shutdown_signals hwoke
    have hone : s.live ≤ 1 := hlabel
    have hsame : ({ woke with shutdown_requested := true } : GrpcSpecsAdapter).live =
      woke.live := rfl
    rcases hsignal with hsignal | hless
    · exact .inr ⟨hsignal, by omega⟩
    · exact .inl (by omega)
  · by_cases hspawn : label = .stream_error ∧ s.retry_attempts = FALL_BACK_TO_POLLING_THREASHOLD
    · obtain ⟨rfl, hattempts⟩ := hspawn
      have hbefore : s.shutdown_requested = true := by
        simp only [step] at h
        split at h
        · cases h
          unfold stream_failed at hrequested
          dsimp only at hrequested
          split at hrequested
          · exact hrequested
          · split at hrequested <;> exact hrequested
        · cases h
      exact absurd hattempts (hlabel hbefore)
    · obtain ⟨hdwindles, hsame⟩ := step_dwindles h (fun hlabel hattempts =>
        hspawn ⟨hlabel, hattempts⟩) fun woken hlabel => hshutdown ⟨woken, hlabel⟩
      have hlive := hdwindles.live
      rcases hs (hsame.symm.trans hrequested) with hzero | ⟨hsignal, hone⟩
      · exact .inl (by omega)
      · rcases hdwindles.signal hsignal with hsignal | hless
        · exact .inr ⟨hsignal, by omega⟩
        · exact .inl (by omega)

theorem stranded_lives (h : s.Stranded) : 0 < s.live := by
  obtain ⟨-, -, hstream | ⟨task, htask, hphase⟩⟩ := h
  · unfold live
    rw [hstream]
    exact Nat.lt_of_lt_of_le Nat.zero_lt_one (Nat.le_add_right _ _)
  · obtain ⟨poll, hpoll⟩ := List.mem_iff_getElem?.mp htask
    have hless := ended_lives_less .ShutDown hpoll (by rw [hphase]; rfl)
    omega

/-- Where a shutdown finds one task at most, and no polling task is spawned after it,
nobody waits for work once the wake-ups are consumed. -/
theorem shutdown_stops_everything_where_one_task_is_left {labels : List GrpcStep}
    (hlabels : Along step OneTaskLeft {} labels) (hrun : run step {} labels = some s) :
    s.shutdown_requested = true → ¬ s.Stranded := by
  intro hrequested hstranded
  have hsignalled : s.Signalled := run_invariant_along
    (fun _ _ _ hs hc h => step_signalled hs hc h) hlabels (fun h => by cases h) hrun
  have hlive := stranded_lives hstranded
  rcases hsignalled hrequested with hzero | ⟨hsignal, -⟩
  · omega
  · exact absurd (hstranded.1.symm.trans hsignal) Bool.false_ne_true

/-- A shutdown during the backoff of a stream that has failed once. -/
def shutdown_in_backoff : List GrpcStep :=
  [.start, .stream_wait, .stream_error, .shutdown none, .backoff_over, .stream_wait]

theorem backoff_ends_in_the_shutdown :
    ∃ s, run step {} shutdown_in_backoff = some s ∧
      (s.shutdown_requested = true → ¬ s.Stranded) := by
  obtain ⟨s, hrun⟩ := Option.isSome_iff_exists.mp
    (by decide +kernel : (run step {} shutdown_in_backoff).isSome = true)
  exact ⟨s, hrun, shutdown_stops_everything_where_one_task_is_left (by decide +kernel) hrun⟩

/-- A shutdown during the backoff of a stream that has failed for long enough to be polled
for. -/
def shutdown_while_polling : List GrpcStep :=
  [.start, .stream_wait] ++ failures 30 ++
    [.stream_error, .poll_wait 0 true, .shutdown (some (.Poll 0)), .backoff_over, .stream_wait]

/-- The polling task takes the signal, and the streaming loop goes on. -/
theorem polling_takes_the_signal_of_the_stream :
    ¬ ∀ (labels : List GrpcStep) (s : GrpcSpecsAdapter), run step {} labels = some s →
      s.shutdown_requested = true → ¬ s.Stranded := by
  intro hall
  have hend : (run step {} shutdown_while_polling).map (fun s =>
      (s.shutdown_requested, s.shutdown_notify, s.cancel_poll_notify, s.stream)) =
        some (true, false, false, .Selecting) := by decide +kernel
  obtain ⟨s, hrun, hs⟩ := Option.map_eq_some_iff.mp hend
  simp only [Prod.mk.injEq] at hs
  obtain ⟨hrequested, hshutdown, hcancel, hstream⟩ := hs
  exact hall shutdown_while_polling s hrun hrequested ⟨hshutdown, hcancel, .inl hstream⟩

end GrpcSpecsAdapter

end statsig_rust.grpc_specs_adapter
