-- The gRPC specs adapter: one streaming loop, and a polling task for each streak of
-- stream failures that goes on for too long. The tasks wait at two notifiers that can
-- keep one permit each.
import StatsigCore.Library.Machine

open machine

namespace statsig_rust.grpc_specs_adapter

def DEFAULT_BACKOFF_INTERVAL_MS : Nat := 3000
def DEFAULT_BACKOFF_MULTIPLIER : Nat := 2
def MAX_BACKOFF_INTERVAL_MS : Nat := 60 * 1000
def RETRY_LIMIT : Nat := 10 * 24 * 60 * 60
def FALL_BACK_TO_POLLING_THREASHOLD : Nat := 30

/-- Where `run_retryable_grpc_stream` is. -/
inductive StreamPhase where
  | NotStarted
  /-- At the `select!`, and not waiting at the notifier yet. -/
  | Entering
  | Selecting
  | Backoff (curr_backoff : Nat)
  | Stopped
deriving DecidableEq

/-- Why the loop of a polling task was left. -/
inductive PollEnd where
  | Cancelled
  | ShutDown
  | AdapterGone
deriving DecidableEq

/-- Where the task of `spawn_poll_from_statsig_thread` is. -/
inductive PollPhase where
  | Entering
  | Waiting
  | Syncing
  | Ended (why : PollEnd)
deriving DecidableEq

/-- A polling task, with the number of stream messages that had arrived when it was
spawned. No step reads that number. -/
structure PollTask where
  phase : PollPhase
  spawned_at : Nat
deriving DecidableEq

/-- The adapter with its tasks. A notifier is its permit: who waits there is where the
tasks are. No step reads `messages`, the messages that have arrived, and
`shutdown_requested`. -/
structure GrpcSpecsAdapter where
  retry_attempts : Nat := 0
  backoff_interval_ms : Nat := DEFAULT_BACKOFF_INTERVAL_MS
  is_retrying : Bool := false
  cancel_poll_notify : Bool := false
  shutdown_notify : Bool := false
  stream : StreamPhase := .NotStarted
  polls : List PollTask := []
  messages : Nat := 0
  shutdown_requested : Bool := false
deriving DecidableEq

/-- The tasks that can wait for a shutdown. -/
inductive GrpcTask where
  | Stream
  | Poll (poll : Nat)
deriving DecidableEq

inductive GrpcStep where
  | start
  | stream_wait
  /-- A message, with the polling task that is woken. -/
  | stream_message (woken : Option Nat)
  /-- A connect that fails, an error of the stream, or its end. -/
  | stream_error
  | backoff_over
  /-- `select!` asks its branches in a random order. -/
  | poll_wait (poll : Nat) (cancel_first : Bool)
  | poll_tick (poll : Nat) (adapter_alive : Bool)
  | poll_synced (poll : Nat)
  | shutdown (woken : Option GrpcTask)
deriving DecidableEq

namespace GrpcSpecsAdapter

def set_phase (s : GrpcSpecsAdapter) (poll : Nat) (task : PollTask) (phase : PollPhase) :
    GrpcSpecsAdapter :=
  { s with polls := s.polls.set poll { task with phase } }

/-- `notify_one` of the cancel notifier wakes a task that waits. The permit is stored when
nobody waits. -/
def notify_cancel (s : GrpcSpecsAdapter) : Option Nat → Option GrpcSpecsAdapter
  | some poll =>
    match s.polls[poll]? with
    | some task => if task.phase = .Waiting then
        some (s.set_phase poll task (.Ended .Cancelled)) else none
    | none => none
  | none =>
    if ∀ task ∈ s.polls, task.phase ≠ .Waiting then some { s with cancel_poll_notify := true }
    else none

/-- `notify_one` of the shutdown notifier, where the stream waits too. -/
def notify_shutdown (s : GrpcSpecsAdapter) : Option GrpcTask → Option GrpcSpecsAdapter
  | some .Stream => if s.stream = .Selecting then some { s with stream := .Stopped } else none
  | some (.Poll poll) =>
    match s.polls[poll]? with
    | some task => if task.phase = .Waiting then
        some (s.set_phase poll task (.Ended .ShutDown)) else none
    | none => none
  | none =>
    if s.stream ≠ .Selecting ∧ ∀ task ∈ s.polls, task.phase ≠ .Waiting then
      some { s with shutdown_notify := true }
    else none

/-- The retry state after a message. -/
def reset_retry_state (s : GrpcSpecsAdapter) : GrpcSpecsAdapter :=
  if s.is_retrying then { s with
    is_retrying := false
    retry_attempts := 0
    backoff_interval_ms := DEFAULT_BACKOFF_INTERVAL_MS }
  else s

/-- The stream is polled, so that it can bring messages and errors. `select!` may poll it
before the notifier. -/
def streams (s : GrpcSpecsAdapter) : Bool :=
  s.stream = .Entering ∨ s.stream = .Selecting

/-- The branch of the `select!` for a stream that fails. -/
def stream_failed (s : GrpcSpecsAdapter) : GrpcSpecsAdapter :=
  let attempt := s.retry_attempts
  let s := { s with retry_attempts := attempt + 1 }
  if attempt > RETRY_LIMIT then { s with stream := .Stopped }
  else
    let s := if attempt = FALL_BACK_TO_POLLING_THREASHOLD then
        { s with polls := s.polls ++ [⟨.Entering, s.messages⟩] }
      else s
    let curr_backoff := s.backoff_interval_ms
    let new_backoff := if curr_backoff < MAX_BACKOFF_INTERVAL_MS then
        min (curr_backoff * DEFAULT_BACKOFF_MULTIPLIER) MAX_BACKOFF_INTERVAL_MS
      else MAX_BACKOFF_INTERVAL_MS
    { s with
      backoff_interval_ms := new_backoff, is_retrying := true, stream := .Backoff curr_backoff }

/-- The `select!` of a polling task: it takes a permit, or waits. -/
def poll_selects (s : GrpcSpecsAdapter) (poll : Nat) (task : PollTask) (cancel_first : Bool) :
    GrpcSpecsAdapter :=
  if s.cancel_poll_notify ∧ (cancel_first ∨ ¬ s.shutdown_notify) then
    { s.set_phase poll task (.Ended .Cancelled) with cancel_poll_notify := false }
  else if s.shutdown_notify then
    { s.set_phase poll task (.Ended .ShutDown) with shutdown_notify := false }
  else s.set_phase poll task .Waiting

/-- One step. `none` when the task is not where the step begins, and when a wake-up goes
to a task that does not wait. -/
def step (s : GrpcSpecsAdapter) : GrpcStep → Option GrpcSpecsAdapter
  | .start => if s.stream = .NotStarted then some { s with stream := .Entering } else none
  | .stream_wait =>
    if s.stream = .Entering then
      if s.shutdown_notify then some { s with stream := .Stopped, shutdown_notify := false }
      else some { s with stream := .Selecting }
    else none
  | .stream_message woken =>
    if s.streams then
      (s.notify_cancel woken).map fun s =>
        { s.reset_retry_state with messages := s.messages + 1 }
    else none
  | .stream_error => if s.streams then some s.stream_failed else none
  | .backoff_over =>
    match s.stream with
    | .Backoff _ => some { s with stream := .Entering }
    | _ => none
  | .poll_wait poll cancel_first =>
    match s.polls[poll]? with
    | some task => if task.phase = .Entering then some (s.poll_selects poll task cancel_first)
      else none
    | none => none
  | .poll_tick poll adapter_alive =>
    match s.polls[poll]? with
    | some task => if task.phase = .Waiting then
        some (s.set_phase poll task (if adapter_alive then .Syncing else .Ended .AdapterGone))
      else none
    | none => none
  | .poll_synced poll =>
    match s.polls[poll]? with
    | some task => if task.phase = .Syncing then some (s.set_phase poll task .Entering) else none
    | none => none
  | .shutdown woken =>
    (s.notify_shutdown woken).map fun s => { s with shutdown_requested := true }

end GrpcSpecsAdapter

end statsig_rust.grpc_specs_adapter
