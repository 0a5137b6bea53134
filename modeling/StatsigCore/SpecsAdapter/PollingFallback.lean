-- What wakes the tasks of the gRPC adapter. A wake-up that nobody waits for is kept as a
-- permit, and a permit does not tell the tasks of one streak from those of the next.
import StatsigCore.SpecsAdapter.GrpcSpecsAdapter

open machine

namespace statsig_rust.grpc_specs_adapter

/-- The task was told to end: by a stream message, or by a shutdown. -/
def PollTask.Cancelled (task : PollTask) : Prop :=
  task.phase = .Ended .Cancelled ∨ task.phase = .Ended .ShutDown

namespace GrpcSpecsAdapter

variable {s s' : GrpcSpecsAdapter}

/-- There is a reason to cancel the task. -/
def Justified (s : GrpcSpecsAdapter) (task : PollTask) : Prop :=
  task.spawned_at < s.messages ∨ s.shutdown_requested = true

/-- No polling task is cancelled before a stream message has arrived after it was
spawned, unless a shutdown was requested. -/
def CancelsForCause (s : GrpcSpecsAdapter) : Prop :=
  ∀ task ∈ s.polls, task.Cancelled → s.Justified task

/-- The failure that spawns a polling task finds no permit at the cancel notifier. -/
def NoPermitLeft (s : GrpcSpecsAdapter) : GrpcStep → Prop
  | .stream_error => s.retry_attempts = FALL_BACK_TO_POLLING_THREASHOLD →
      s.cancel_poll_notify = false ∨ s.shutdown_requested = true
  | _ => True

instance (s : GrpcSpecsAdapter) (label : GrpcStep) : Decidable (s.NoPermitLeft label) := by
  cases label <;> unfold NoPermitLeft <;> infer_instance

/-! ## What a step does to the polling tasks -/

/-- What a step does to the polling tasks: nothing, a spawn, or a new phase of one. -/
inductive PollMove (s s' : GrpcSpecsAdapter) : GrpcStep → Prop
  | rests {label : GrpcStep} (hpolls : s'.polls = s.polls)
      (hcancel : s'.cancel_poll_notify = true →
        s.cancel_poll_notify = true ∨ s.messages < s'.messages) : PollMove s s' label
  | spawns (hattempts : s.retry_attempts = FALL_BACK_TO_POLLING_THREASHOLD)
      (hpolls : s'.polls = s.polls ++ [⟨.Entering, s.messages⟩])
      (hcancel : s'.cancel_poll_notify = s.cancel_poll_notify) : PollMove s s' .stream_error
  | passes {label : GrpcStep} (poll : Nat) (task : PollTask) (phase : PollPhase)
      (htask : s.polls[poll]? = some task)
      (hpolls : s'.polls = s.polls.set poll { task with phase })
      (hcancelled : phase = .Ended .Cancelled →
        s.cancel_poll_notify = true ∨ s.messages < s'.messages)
      (hshutdown : phase = .Ended .ShutDown →
        s.shutdown_notify = true ∨ s'.shutdown_requested = true)
      (hcancel : s'.cancel_poll_notify = true → s.cancel_poll_notify = true) :
      PollMove s s' label

/-- What a step does besides. -/
structure Advances (s s' : GrpcSpecsAdapter) : Prop where
  messages : s.messages ≤ s'.messages
  requested : s.shutdown_requested = true → s'.shutdown_requested = true
  permit : s'.shutdown_notify = true → s.shutdown_notify = true ∨ s'.shutdown_requested = true

/-- A step of one polling task leaves the rest of the adapter as it is. -/
theorem set_phase_moves {label : GrpcStep} {poll : Nat} {task : PollTask} {phase : PollPhase}
    (htask : s.polls[poll]? = some task) (hcancelled : phase ≠ .Ended .Cancelled)
    (hshutdown : phase ≠ .Ended .ShutDown) :
    PollMove s (s.set_phase poll task phase) label ∧ Advances s (s.set_phase poll task phase) :=
  ⟨.passes poll task phase htask rfl (fun h => absurd h hcancelled)
    (fun h => absurd h hshutdown) id, Nat.le_refl _, id, .inl⟩

theorem stream_failed_moves :
    PollMove s s.stream_failed .stream_error ∧ Advances s s.stream_failed := by
  unfold stream_failed
  dsimp only
  by_cases hlimit : s.retry_attempts > RETRY_LIMIT
  · rw [if_pos hlimit]
    exact ⟨.rests rfl .inl, Nat.le_refl _, id, .inl⟩
  · rw [if_neg hlimit]
    by_cases hspawn : s.retry_attempts = FALL_BACK_TO_POLLING_THREASHOLD
    · rw [if_pos hspawn]
      exact ⟨.spawns hspawn rfl rfl, Nat.le_refl _, id, .inl⟩
    · rw [if_neg hspawn]
      exact ⟨.rests rfl .inl, Nat.le_refl _, id, .inl⟩

theorem poll_selects_moves {poll : Nat} {task : PollTask} (htask : s.polls[poll]? = some task)
    (cancel_first : Bool) (label : GrpcStep) :
    PollMove s (s.poll_selects poll task cancel_first) label ∧
      Advances s (s.poll_selects poll task cancel_first) := by
  unfold poll_selects
  by_cases hcancel : s.cancel_poll_notify ∧ (cancel_first ∨ ¬ s.shutdown_notify)
  · rw [if_pos hcancel]
    exact ⟨.passes poll task _ htask rfl (fun _ => .inl hcancel.1) (fun h => by cases h)
      (fun h => by cases h), Nat.le_refl _, id, .inl⟩
  · rw [if_neg hcancel]
    by_cases hshutdown : s.shutdown_notify
    · rw [if_pos hshutdown]
      exact ⟨.passes poll task _ htask rfl (fun h => by cases h) (fun _ => .inl hshutdown) id,
        Nat.le_refl _, id, fun h => by cases h⟩
    · rw [if_neg hshutdown]
      exact set_phase_moves htask (by simp) (by simp)

theorem reset_retry_state_keeps (s : GrpcSpecsAdapter) :
    s.reset_retry_state.polls = s.polls ∧
      s.reset_retry_state.cancel_poll_notify = s.cancel_poll_notify ∧
      s.reset_retry_state.shutdown_notify = s.shutdown_notify ∧
      s.reset_retry_state.stream = s.stream ∧
      s.reset_retry_state.messages = s.messages ∧
      s.reset_retry_state.shutdown_requested = s.shutdown_requested := by
  unfold reset_retry_state
  split <;> exact ⟨rfl, rfl, rfl, rfl, rfl, rfl⟩

/-- A step of the polling task that takes it from one phase to the next. -/
theorem poll_step_cases {poll : Nat} {phase : PollPhase} {next : PollTask → GrpcSpecsAdapter}
    (h : (match s.polls[poll]? with
      | some task => if task.phase = phase then some (next task) else none
      | none => none) = some s') :
    ∃ task, s.polls[poll]? = some task ∧ task.phase = phase ∧ s' = next task := by
  cases htask : s.polls[poll]? with
  | none =>
    rw [htask] at h
    cases h
  | some task =>
    rw [htask] at h
    dsimp only at h
    by_cases hphase : task.phase = phase
    · rw [if_pos hphase] at h
      cases h
      exact ⟨task, rfl, hphase, rfl⟩
    · rw [if_neg hphase] at h
      cases h

/-- Whom a message wakes, or that it leaves a permit. -/
theorem notify_cancel_cases {woken : Option Nat} (h : s.notify_cancel woken = some s') :
    (∃ poll task, s.polls[poll]? = some task ∧ task.phase = .Waiting ∧
      s' = s.set_phase poll task (.Ended .Cancelled)) ∨
    s' = { s with cancel_poll_notify := true } := by
  cases woken with
  | some poll =>
    obtain ⟨task, htask, hwaits, rfl⟩ := poll_step_cases h
    exact .inl ⟨poll, task, htask, hwaits, rfl⟩
  | none =>
    unfold notify_cancel at h
    dsimp only at h
    split at h
    · cases h
      exact .inr rfl
    · cases h

/-- Whom a shutdown wakes, or that it leaves a permit. -/
theorem notify_shutdown_cases {woken : Option GrpcTask}
    (h : s.notify_shutdown woken = some s') :
    (s.stream = .Selecting ∧ s' = { s with stream := .Stopped }) ∨
    (∃ poll task, s.polls[poll]? = some task ∧ task.phase = .Waiting ∧
      s' = s.set_phase poll task (.Ended .ShutDown)) ∨
    s' = { s with shutdown_notify := true } := by
  rcases woken with _ | _ | poll
  · unfold notify_shutdown at h
    dsimp only at h
    split at h
    · cases h
      exact .inr (.inr rfl)
    · cases h
  · unfold notify_shutdown at h
    dsimp only at h
    by_cases hstream : s.stream = .Selecting
    · rw [if_pos hstream] at h
      cases h
      exact .inl ⟨hstream, rfl⟩
    · rw [if_neg hstream] at h
      cases h
  · obtain ⟨task, htask, hwaits, rfl⟩ := poll_step_cases h
    exact .inr (.inl ⟨poll, task, htask, hwaits, rfl⟩)

theorem message_moves {woken : Option Nat} (h : s.notify_cancel woken = some s') :
    PollMove s { s'.reset_retry_state with messages := s'.messages + 1 }
        (.stream_message woken) ∧
      Advances s { s'.reset_retry_state with messages := s'.messages + 1 } := by
  obtain ⟨hpolls, hcancel, hshutdown, -, -, hrequested⟩ := reset_retry_state_keeps s'
  rcases notify_cancel_cases h with ⟨poll, task, htask, -, rfl⟩ | rfl
  · exact ⟨.passes poll task _ htask hpolls (fun _ => .inr (Nat.lt_succ_self _))
      (fun h => by cases h) (fun h => hcancel.symm.trans h),
      Nat.le_succ _, fun h => hrequested.trans h, fun h => .inl (hshutdown.symm.trans h)⟩
  · exact ⟨.rests hpolls fun _ => .inr (Nat.lt_succ_self _),
      Nat.le_succ _, fun h => hrequested.trans h, fun h => .inl (hshutdown.symm.trans h)⟩

theorem shutdown_moves {woken : Option GrpcTask} (h : s.notify_shutdown woken = some s') :
    PollMove s { s' with shutdown_requested := true } (.shutdown woken) ∧
      Advances s { s' with shutdown_requested := true } := by
  rcases notify_shutdown_cases h with ⟨-, rfl⟩ | ⟨poll, task, htask, -, rfl⟩ | rfl
  · exact ⟨.rests rfl .inl, Nat.le_refl _, fun _ => rfl, fun _ => .inr rfl⟩
  · exact ⟨.passes poll task _ htask rfl (fun h => by cases h) (fun _ => .inr rfl) id,
      Nat.le_refl _, fun _ => rfl, fun _ => .inr rfl⟩
  · exact ⟨.rests rfl .inl, Nat.le_refl _, fun _ => rfl, fun _ => .inr rfl⟩

theorem step_moves {label : GrpcStep} (h : s.step label = some s') :
    PollMove s s' label ∧ Advances s s' := by
  cases label with
  | start =>
    simp only [step] at h
    split at h
    · cases h
      exact ⟨.rests rfl .inl, Nat.le_refl _, id, .inl⟩
    · cases h
  | stream_wait =>
    simp only [step] at h
    split at h
    · split at h
      · cases h
        exact ⟨.rests rfl .inl, Nat.le_refl _, id, fun h => by cases h⟩
      · cases h
        exact ⟨.rests rfl .inl, Nat.le_refl _, id, .inl⟩
    · cases h
  | stream_message woken =>
    simp only [step] at h
    split at h
    · obtain ⟨woke, hwoke, rfl⟩ := Option.map_eq_some_iff.mp h
      exact message_moves hwoke
    · cases h
  | stream_error =>
    simp only [step] at h
    split at h
    · cases h
      exact stream_failed_moves
    · cases h
  | backoff_over =>
    simp only [step] at h
    split at h
    · cases h
      exact ⟨.rests rfl .inl, Nat.le_refl _, id, .inl⟩
    · cases h
  | poll_wait poll cancel_first =>
    obtain ⟨task, htask, -, rfl⟩ := poll_step_cases h
    exact poll_selects_moves htask cancel_first _
  | poll_tick poll adapter_alive =>
    obtain ⟨task, htask, -, rfl⟩ := poll_step_cases h
    cases adapter_alive with
    | true => exact set_phase_moves htask (by simp) (by simp)
    | false => exact set_phase_moves htask (by simp) (by simp)
  | poll_synced poll =>
    obtain ⟨task, htask, -, rfl⟩ := poll_step_cases h
    exact set_phase_moves htask (by simp) (by simp)
  | shutdown woken =>
    obtain ⟨woke, hwoke, rfl⟩ := Option.map_eq_some_iff.mp h
    exact shutdown_moves hwoke

/-! ## Cancels and their reasons -/

/-- The permits that are stored, and the tasks that have ended, have their reasons. -/
structure Grounded (s : GrpcSpecsAdapter) : Prop where
  spawned : ∀ task ∈ s.polls, task.spawned_at ≤ s.messages
  cancel_permit : s.cancel_poll_notify = true → ∀ task ∈ s.polls, s.Justified task
  shutdown_permit : s.shutdown_notify = true → s.shutdown_requested = true
  cancels : s.CancelsForCause

theorem justified_mono {task task' : PollTask} (h : Advances s s')
    (htask : task'.spawned_at = task.spawned_at) (hs : s.Justified task) : s'.Justified task' := by
  rcases hs with hmessages | hrequested
  · have := h.messages
    exact .inl (by omega)
  · exact .inr (h.requested hrequested)

/-- A message is a reason to cancel all the tasks that were spawned before it. -/
theorem justified_of_message {task task' : PollTask} (hspawned : task.spawned_at ≤ s.messages)
    (hmessage : s.messages < s'.messages) (htask : task'.spawned_at = task.spawned_at) :
    s'.Justified task' := .inl (by omega)

theorem mem_of_passes {poll : Nat} {task other : PollTask} {phase : PollPhase}
    (htask : s.polls[poll]? = some task)
    (hother : other ∈ s.polls.set poll { task with phase }) :
    ∃ before ∈ s.polls, other.spawned_at = before.spawned_at ∧
      (other = before ∨ before = task ∧ other.phase = phase) := by
  rcases List.mem_or_eq_of_mem_set hother with hmem | rfl
  · exact ⟨other, hmem, rfl, .inl rfl⟩
  · exact ⟨task, List.mem_of_getElem? htask, rfl, .inr ⟨rfl, rfl⟩⟩

theorem step_grounded {label : GrpcStep} (hs : s.Grounded) (hlabel : s.NoPermitLeft label)
    (h : s.step label = some s') : s'.Grounded := by
  obtain ⟨hspawned, hcancel_permit, hshutdown_permit, hcancels⟩ := hs
  obtain ⟨hmove, hadvances⟩ := step_moves h
  have hpermit : s'.shutdown_notify = true → s'.shutdown_requested = true := fun h =>
    (hadvances.permit h).elim (fun h => hadvances.requested (hshutdown_permit h)) id
  have hmessages := hadvances.messages
  -- a permit that stays, or that a message has just stored
  have hkeeps : ∀ task ∈ s.polls,
      s.cancel_poll_notify = true ∨ s.messages < s'.messages → ∀ task' : PollTask,
      task'.spawned_at = task.spawned_at → s'.Justified task' := by
    intro task htask hreason task' heq
    rcases hreason with hpermit | hmessage
    · exact justified_mono hadvances heq (hcancel_permit hpermit task htask)
    · exact justified_of_message (hspawned task htask) hmessage heq
  cases hmove with
  | rests hpolls hcancel =>
    refine ⟨?_, ?_, hpermit, ?_⟩
    · intro task htask
      exact Nat.le_trans (hspawned task (hpolls ▸ htask)) hmessages
    · intro hstored task htask
      exact hkeeps task (hpolls ▸ htask) (hcancel hstored) task rfl
    · intro task htask hended
      exact justified_mono hadvances rfl (hcancels task (hpolls ▸ htask) hended)
  | spawns hattempts hpolls hcancel =>
    have hmem : ∀ task ∈ s'.polls, task ∈ s.polls ∨ task = ⟨.Entering, s.messages⟩ := by
      intro task htask
      rw [hpolls] at htask
      exact (List.mem_append.mp htask).imp id List.mem_singleton.mp
    refine ⟨?_, ?_, hpermit, ?_⟩
    · intro task htask
      rcases hmem task htask with hold | rfl
      · exact Nat.le_trans (hspawned task hold) hmessages
      · exact hmessages
    · intro hstored task htask
      rw [hcancel] at hstored
      rcases hmem task htask with hold | rfl
      · exact hkeeps task hold (.inl hstored) task rfl
      · rcases hlabel hattempts with hnone | hrequested
        · exact absurd (hnone.symm.trans hstored) Bool.false_ne_true
        · exact .inr (hadvances.requested hrequested)
    · intro task htask hended
      rcases hmem task htask with hold | rfl
      · exact justified_mono hadvances rfl (hcancels task hold hended)
      · rcases hended with h | h <;> cases h
  | passes poll task phase htask hpolls hcancelled hshutdown hcancel =>
    have hmem : ∀ other ∈ s'.polls, ∃ before ∈ s.polls, other.spawned_at = before.spawned_at ∧
        (other = before ∨ before = task ∧ other.phase = phase) := by
      intro other hother
      rw [hpolls] at hother
      exact mem_of_passes htask hother
    refine ⟨?_, ?_, hpermit, ?_⟩
    · intro other hother
      obtain ⟨before, hbefore, heq, -⟩ := hmem other hother
      have := hspawned before hbefore
      omega
    · intro hstored other hother
      obtain ⟨before, hbefore, heq, -⟩ := hmem other hother
      exact hkeeps before hbefore (.inl (hcancel hstored)) other heq
    · intro other hother hended
      obtain ⟨before, hbefore, heq, rfl | ⟨rfl, rfl⟩⟩ := hmem other hother
      · exact justified_mono hadvances rfl (hcancels _ hbefore hended)
      · rcases hended with hended | hended
        · exact hkeeps before hbefore (hcancelled hended) other heq
        · refine .inr ?_
          rcases hshutdown hended with hpermit | hrequested
          · exact hadvances.requested (hshutdown_permit hpermit)
          · exact hrequested

theorem grounded_new : ({} : GrpcSpecsAdapter).Grounded where
  spawned := fun _ h => by cases h
  cancel_permit := fun h => by cases h
  shutdown_permit := fun h => by cases h
  cancels := fun _ h => by cases h

/-- Where no polling task is spawned over a permit that is left, a polling task is not
cancelled before a message arrives or a shutdown is requested. -/
theorem fallback_survives_where_no_permit_is_left {labels : List GrpcStep}
    (hlabels : Along step NoPermitLeft {} labels) (hrun : run step {} labels = some s) :
    s.CancelsForCause :=
  (run_invariant_along (fun _ _ _ hs hc h => step_grounded hs hc h) hlabels grounded_new
    hrun).cancels

/-- The stream fails for the first time, and so on until it is retried once more. -/
def failures (n : Nat) : List GrpcStep :=
  (List.replicate n [.stream_error, .backoff_over, .stream_wait]).flatten

/-- An outage before any message. -/
def first_outage : List GrpcStep :=
  [.start, .stream_wait] ++ failures 31 ++ [.poll_wait 0 true, .stream_message (some 0)]

theorem fallback_lasts_until_the_stream_is_back :
    ∃ s, run step {} first_outage = some s ∧ s.CancelsForCause := by
  obtain ⟨s, hrun⟩ := Option.isSome_iff_exists.mp
    (by decide +kernel : (run step {} first_outage).isSome = true)
  exact ⟨s, hrun, fallback_survives_where_no_permit_is_left (by decide +kernel) hrun⟩

/-- One message before the outage. -/
def second_outage : List GrpcStep :=
  [.start, .stream_wait, .stream_message none] ++ failures 31 ++ [.poll_wait 0 true]

/-- The permit of the message ends the polling task as it starts. -/
theorem left_over_permit_cancels_the_fallback :
    ¬ ∀ (labels : List GrpcStep) (s : GrpcSpecsAdapter),
      run step {} labels = some s → s.CancelsForCause := by
  intro hall
  have hend : (run step {} second_outage).map
      (fun s => (s.polls, s.messages, s.shutdown_requested)) =
        some ([⟨.Ended .Cancelled, 1⟩], 1, false) := by decide +kernel
  obtain ⟨s, hrun, hs⟩ := Option.map_eq_some_iff.mp hend
  simp only [Prod.mk.injEq] at hs
  obtain ⟨hpolls, hmessages, hrequested⟩ := hs
  have hmem : ⟨.Ended .Cancelled, 1⟩ ∈ s.polls := by simp [hpolls]
  rcases hall second_outage s hrun _ hmem (.inl rfl) with hmessage | hshutdown
  · dsimp only at hmessage
    omega
  · exact absurd (hrequested.symm.trans hshutdown) Bool.false_ne_true

end GrpcSpecsAdapter

end statsig_rust.grpc_specs_adapter
