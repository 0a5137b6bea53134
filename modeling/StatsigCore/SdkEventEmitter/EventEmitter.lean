-- The emitter of the SDK's events. A map of listeners and a counter stand side by side,
-- and any number of threads work on them, one atomic step at a time. A counter of zero
-- is why an emit calls nobody.
import Mathlib.Algebra.BigOperators.Group.Finset.Basic
import Mathlib.Algebra.Order.BigOperators.Group.Finset
import StatsigCore.Library.Machine

open Function machine

namespace statsig_rust.sdk_event_emitter

/-! ## Events and their codes -/

inductive SdkEventCode where
  | Unknown | All | GateEvaluated | DynamicConfigEvaluated | ExperimentEvaluated | LayerEvaluated
  | SpecsUpdated
deriving DecidableEq

instance : Fintype SdkEventCode where
  elems := {.Unknown, .All, .GateEvaluated, .DynamicConfigEvaluated, .ExperimentEvaluated,
    .LayerEvaluated, .SpecsUpdated}
  complete code := by cases code <;> decide

def SdkEventCode.from_name : String → SdkEventCode
  | "*" => .All
  | "gate_evaluated" => .GateEvaluated
  | "dynamic_config_evaluated" => .DynamicConfigEvaluated
  | "experiment_evaluated" => .ExperimentEvaluated
  | "layer_evaluated" => .LayerEvaluated
  | "specs_updated" => .SpecsUpdated
  | _ => .Unknown

/-- An event with what it tells the listeners. -/
inductive SdkEvent (P : Type) where
  | SpecsUpdated (data : P)
  | GateEvaluated (data : P)
  | DynamicConfigEvaluated (data : P)
  | ExperimentEvaluated (data : P)
  | LayerEvaluated (data : P)
deriving DecidableEq

def SdkEvent.get_code {P : Type} : SdkEvent P → SdkEventCode
  | .GateEvaluated _ => .GateEvaluated
  | .DynamicConfigEvaluated _ => .DynamicConfigEvaluated
  | .ExperimentEvaluated _ => .ExperimentEvaluated
  | .LayerEvaluated _ => .LayerEvaluated
  | .SpecsUpdated _ => .SpecsUpdated

/-! ## The emitter -/

/-- A callback stands for itself, so that a call of it can be told from others. -/
structure Listener (C : Type) where
  sub_id_value : String
  callback : C
deriving DecidableEq

structure SubscriptionID where
  value : String
  event : String

/-- The values of a `usize` are the numbers below this one. -/
def usize_size : Nat := 2 ^ 64

/-- What the counter holds after `AtomicUsize::fetch_add`, which wraps around. -/
def wrapping_add (count n : Nat) : Nat := (count + n) % usize_size

/-- What the counter holds after `AtomicUsize::fetch_sub`, which wraps around. -/
def wrapping_sub (count n : Nat) : Nat := (count + usize_size - n) % usize_size

theorem wrapping_add_of_lt {count n : Nat} (h : count + n < usize_size) :
    wrapping_add count n = count + n := Nat.mod_eq_of_lt h

theorem wrapping_sub_of_le {count n : Nat} (hcount : count < usize_size) (h : n ≤ count) :
    wrapping_sub count n = count - n := by
  unfold wrapping_sub
  rw [Nat.add_comm, Nat.add_sub_assoc h, Nat.add_mod_left]
  exact Nat.mod_eq_of_lt (by omega)

/-- The keys of the map are the codes: each code has its own raw byte. -/
structure SdkEventEmitter (C : Type) where
  listeners : SdkEventCode → Option (List (Listener C)) := fun _ => none
  listener_count : Nat := 0

namespace SdkEventEmitter

variable {C : Type}

def fetch_add (emitter : SdkEventEmitter C) (n : Nat) : SdkEventEmitter C :=
  { emitter with listener_count := wrapping_add emitter.listener_count n }

def fetch_sub (emitter : SdkEventEmitter C) (n : Nat) : SdkEventEmitter C :=
  { emitter with listener_count := wrapping_sub emitter.listener_count n }

/-- The listeners of a code. A code that is not in the map has none. -/
def listeners_of (emitter : SdkEventEmitter C) (code : SdkEventCode) : List (Listener C) :=
  (emitter.listeners code).getD []

def set_listeners (emitter : SdkEventEmitter C) (code : SdkEventCode)
    (listeners : Option (List (Listener C))) : SdkEventEmitter C :=
  { emitter with listeners := update emitter.listeners code listeners }

/-- The number of registered listeners over all events. -/
def registered (emitter : SdkEventEmitter C) : Nat :=
  ∑ code, (emitter.listeners_of code).length

end SdkEventEmitter

/-! ## The calls and their steps -/

/-- A call between two of its atomic steps. -/
inductive Call (C P : Type) where
  /-- `subscribe` has counted the listener and has not pushed it. -/
  | subscribing (code : SdkEventCode) (listener : Listener C)
  /-- `unsubscribe` has removed the key and has not subtracted. -/
  | unsubscribing (removed : Nat)
  /-- `unsubscribe_by_id` has retained the others, has not subtracted and holds the key. -/
  | unsubscribing_by_id (code : SdkEventCode) (removed : Nat)
  /-- `unsubscribe_all` has cleared the map and has not stored the zero. -/
  | unsubscribing_all
  /-- `emit` has seen a count above zero. -/
  | emitting (event : SdkEvent P)
  /-- `emit` has called the listeners of all events. -/
  | emitting_code (event : SdkEvent P)
deriving DecidableEq

inductive EmitterStep (C P : Type) where
  | subscribe (event : String) (listener : Listener C)
  | subscribe_push (code : SdkEventCode) (listener : Listener C)
  | unsubscribe (event : String)
  | unsubscribe_sub (removed : Nat)
  | unsubscribe_by_id (subscription_id : SubscriptionID)
  | unsubscribe_by_id_sub (code : SdkEventCode) (removed : Nat)
  | unsubscribe_all
  | unsubscribe_all_store
  | emit (event : SdkEvent P)
  | emit_all (event : SdkEvent P)
  | emit_code (event : SdkEvent P)

/-- The emitter, the calls under way, and the callbacks that were called. -/
structure Emitting (C P : Type) where
  emitter : SdkEventEmitter C := {}
  calls : List (Call C P) := []
  called : List (C × SdkEvent P) := []

/-- The shard of the map that the call holds a guard of. -/
def Call.holds {C P : Type} (shard_of : SdkEventCode → Nat) : Call C P → Option Nat
  | .unsubscribing_by_id code _ => some (shard_of code)
  | _ => none

namespace Emitting

variable {C P : Type} [DecidableEq C] [DecidableEq P]

/-- A key can be worked on while nobody holds its shard. -/
def key_free (shard_of : SdkEventCode → Nat) (s : Emitting C P) (code : SdkEventCode) : Bool :=
  s.calls.all fun call => call.holds shard_of ≠ some (shard_of code)

/-- `clear` waits for every shard. -/
def all_free (shard_of : SdkEventCode → Nat) (s : Emitting C P) : Bool :=
  s.calls.all fun call => call.holds shard_of = none

/-- A call goes on from one of its steps to the next, or ends. -/
def goes_on (s : Emitting C P) (call : Call C P) (next : List (Call C P)) : Emitting C P :=
  { s with calls := next ++ s.calls.erase call }

/-- `emit_to_listeners` of the listeners of a code. -/
def emit_to_listeners (s : Emitting C P) (event : SdkEvent P) (code : SdkEventCode) :
    Emitting C P :=
  { s with called :=
      s.called ++ (s.emitter.listeners_of code).map fun listener => (listener.callback, event) }

/-- One atomic step. `none` when no call is where the step begins, and when the step
waits for a guard of the map. -/
def step (shard_of : SdkEventCode → Nat) (s : Emitting C P) :
    EmitterStep C P → Option (Emitting C P)
  | .subscribe event listener =>
    let code := SdkEventCode.from_name event
    if code = .Unknown then some s
    else some { s with
      emitter := s.emitter.fetch_add 1, calls := .subscribing code listener :: s.calls }
  | .subscribe_push code listener =>
    if .subscribing code listener ∈ s.calls ∧ s.key_free shard_of code then
      let listeners := s.emitter.listeners_of code ++ [listener]
      some ({ s with emitter := s.emitter.set_listeners code (some listeners) }.goes_on
        (.subscribing code listener) [])
    else none
  | .unsubscribe event =>
    let code := SdkEventCode.from_name event
    if s.key_free shard_of code then
      match s.emitter.listeners code with
      | some listeners => some { s with
          emitter := s.emitter.set_listeners code none,
          calls := .unsubscribing listeners.length :: s.calls }
      | none => some s
    else none
  | .unsubscribe_sub removed =>
    if .unsubscribing removed ∈ s.calls then
      some ({ s with emitter := s.emitter.fetch_sub removed }.goes_on (.unsubscribing removed) [])
    else none
  | .unsubscribe_by_id subscription_id =>
    let code := SdkEventCode.from_name subscription_id.event
    if s.key_free shard_of code then
      match s.emitter.listeners code with
      | some listeners =>
        let retained := listeners.filter (·.sub_id_value ≠ subscription_id.value)
        let removed := listeners.length - retained.length
        let s' := { s with emitter := s.emitter.set_listeners code (some retained) }
        if removed > 0 then some { s' with calls := .unsubscribing_by_id code removed :: s.calls }
        else some s'
      | none => some s
    else none
  | .unsubscribe_by_id_sub code removed =>
    if .unsubscribing_by_id code removed ∈ s.calls then
      some ({ s with emitter := s.emitter.fetch_sub removed }.goes_on
        (.unsubscribing_by_id code removed) [])
    else none
  | .unsubscribe_all =>
    if s.all_free shard_of then
      some { s with
        emitter := { s.emitter with listeners := fun _ => none },
        calls := .unsubscribing_all :: s.calls }
    else none
  | .unsubscribe_all_store =>
    if .unsubscribing_all ∈ s.calls then
      some ({ s with emitter := { s.emitter with listener_count := 0 } }.goes_on
        .unsubscribing_all [])
    else none
  | .emit event =>
    if s.emitter.listener_count = 0 then some s
    else some { s with calls := .emitting event :: s.calls }
  | .emit_all event =>
    if .emitting event ∈ s.calls ∧ s.key_free shard_of .All then
      some ((s.emit_to_listeners event .All).goes_on (.emitting event) [.emitting_code event])
    else none
  | .emit_code event =>
    if .emitting_code event ∈ s.calls ∧ s.key_free shard_of event.get_code then
      some ((s.emit_to_listeners event event.get_code).goes_on (.emitting_code event) [])
    else none

end Emitting

end statsig_rust.sdk_event_emitter
