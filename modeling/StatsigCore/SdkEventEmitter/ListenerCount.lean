-- The counter beside the map. It covers the registered listeners and the calls that have
-- done one of their two steps, as long as no `unsubscribe_all` stores its zero over them.
import Mathlib.Algebra.BigOperators.Group.List.Basic
import Mathlib.Algebra.GroupWithZero.Nat
import StatsigCore.SdkEventEmitter.EventEmitter

open Function machine

namespace statsig_rust.sdk_event_emitter

variable {C P : Type}

/-! ## Listeners and calls that the counter owes -/

namespace SdkEventEmitter

variable (emitter : SdkEventEmitter C)

/-- The sum over the codes changes by what changes at one code. -/
theorem registered_set_listeners (code : SdkEventCode) (listeners : Option (List (Listener C))) :
    (emitter.set_listeners code listeners).registered + (emitter.listeners_of code).length =
      emitter.registered + (listeners.getD []).length := by
  have hrest : ∑ other ∈ Finset.univ.erase code,
        ((emitter.set_listeners code listeners).listeners_of other).length =
      ∑ other ∈ Finset.univ.erase code, (emitter.listeners_of other).length := by
    refine Finset.sum_congr rfl fun other hother => ?_
    have hne := Finset.ne_of_mem_erase hother
    simp only [listeners_of, set_listeners, update_of_ne hne]
  have hcode : (emitter.set_listeners code listeners).listeners_of code = listeners.getD [] := by
    simp only [listeners_of, set_listeners, update_self]
  unfold registered
  rw [← Finset.add_sum_erase _ _ (Finset.mem_univ code), hrest, hcode,
    ← Finset.add_sum_erase _ (fun other => (emitter.listeners_of other).length)
      (Finset.mem_univ code)]
  omega

@[simp] theorem listeners_of_fetch_add (n : Nat) (code : SdkEventCode) :
    (emitter.fetch_add n).listeners_of code = emitter.listeners_of code := by
  unfold listeners_of fetch_add
  rfl

@[simp] theorem listeners_of_fetch_sub (n : Nat) (code : SdkEventCode) :
    (emitter.fetch_sub n).listeners_of code = emitter.listeners_of code := by
  unfold listeners_of fetch_sub
  rfl

@[simp] theorem registered_fetch_add (n : Nat) :
    (emitter.fetch_add n).registered = emitter.registered := by
  simp only [registered, listeners_of_fetch_add]

@[simp] theorem registered_fetch_sub (n : Nat) :
    (emitter.fetch_sub n).registered = emitter.registered := by
  simp only [registered, listeners_of_fetch_sub]

theorem length_le_registered (code : SdkEventCode) :
    (emitter.listeners_of code).length ≤ emitter.registered :=
  Finset.single_le_sum (f := fun other => (emitter.listeners_of other).length)
    (fun _ _ => Nat.zero_le _) (Finset.mem_univ code)

end SdkEventEmitter

/-- What the call has counted and not registered, or removed and not subtracted. -/
def Call.owed : Call C P → Nat
  | .subscribing _ _ => 1
  | .unsubscribing removed | .unsubscribing_by_id _ removed => removed
  | _ => 0

/-- What the call subtracts from the counter in its next step. -/
def Call.subtracts : Call C P → Nat
  | .unsubscribing removed | .unsubscribing_by_id _ removed => removed
  | _ => 0

theorem Call.subtracts_le_owed (call : Call C P) : call.subtracts ≤ call.owed := by
  cases call with
  | subscribing _ _ => exact Nat.zero_le _
  | _ => exact le_rfl

namespace Emitting

def owed (s : Emitting C P) : Nat := (s.calls.map Call.owed).sum

theorem owed_le {s : Emitting C P} {call : Call C P} (h : call ∈ s.calls) :
    call.owed ≤ s.owed :=
  List.le_sum_of_mem (List.mem_map_of_mem h)

/-- What the counter should say. -/
def live (s : Emitting C P) : Nat := s.emitter.registered + s.owed

/-- An `unsubscribe_all` is between its two steps. -/
def Clearing (s : Emitting C P) : Prop := Call.unsubscribing_all ∈ s.calls

variable {s s' : Emitting C P}

theorem clearing_cons {call : Call C P} {emitter : SdkEventEmitter C}
    (hcall : call ≠ .unsubscribing_all) :
    ({ s with emitter, calls := call :: s.calls } : Emitting C P).Clearing ↔ s.Clearing := by
  unfold Clearing
  rw [List.mem_cons]
  exact or_iff_right hcall.symm

/-- A call comes in with something owed. -/
theorem live_cons (call : Call C P) (emitter : SdkEventEmitter C) :
    ({ s with emitter, calls := call :: s.calls } : Emitting C P).live =
      emitter.registered + (call.owed + s.owed) := rfl

section GoesOn

variable [DecidableEq C] [DecidableEq P] {call : Call C P} {next : List (Call C P)}

theorem clearing_goes_on (emitter : SdkEventEmitter C) (called : List (C × SdkEvent P))
    (hcall : call ≠ .unsubscribing_all) (hnext : .unsubscribing_all ∉ next) :
    ({ s with emitter, called }.goes_on call next).Clearing ↔ s.Clearing := by
  unfold Clearing goes_on
  rw [List.mem_append, List.mem_erase_of_ne hcall.symm]
  exact or_iff_right hnext

variable (next) in
/-- What a call owed is gone when it goes on. -/
theorem live_goes_on (emitter : SdkEventEmitter C) (called : List (C × SdkEvent P))
    (h : call ∈ s.calls) :
    ({ s with emitter, called }.goes_on call next).live + call.owed =
      emitter.registered + (s.owed + (next.map Call.owed).sum) := by
  have herase : call.owed + ((s.calls.erase call).map Call.owed).sum = s.owed :=
    List.sum_map_erase Call.owed h
  unfold live owed goes_on at *
  rw [List.map_append, List.sum_append]
  dsimp only
  omega

end GoesOn

/-! ## What a step can do to the counter -/

inductive Moves (s s' : Emitting C P) : EmitterStep C P → Prop
  /-- A listener is counted before it is registered. -/
  | counts {event : String} {listener : Listener C}
      (hcode : SdkEventCode.from_name event ≠ .Unknown)
      (hcount : s'.emitter.listener_count = wrapping_add s.emitter.listener_count 1)
      (hlive : s'.live = s.live + 1) (hclearing : s'.Clearing ↔ s.Clearing) :
      Moves s s' (.subscribe event listener)
  /-- Listeners that were removed before are taken from the counter. -/
  | subtracts {label : EmitterStep C P} (removed : Nat) (howed : removed ≤ s.owed)
      (hcount : s'.emitter.listener_count = wrapping_sub s.emitter.listener_count removed)
      (hlive : s'.live + removed = s.live) (hclearing : s'.Clearing ↔ s.Clearing) :
      Moves s s' label
  | clears (hcount : s'.emitter.listener_count = s.emitter.listener_count)
      (hlive : s'.live ≤ s.live) (hclearing : s'.Clearing) : Moves s s' .unsubscribe_all
  | stores (hcount : s'.emitter.listener_count = 0) (hlive : s'.live = s.live) :
      Moves s s' .unsubscribe_all_store
  /-- A listener passes between the map and a call, or is called. -/
  | rests {label : EmitterStep C P}
      (hcount : s'.emitter.listener_count = s.emitter.listener_count)
      (hlive : s'.live = s.live) (hclearing : s'.Clearing ↔ s.Clearing) : Moves s s' label

theorem rests_self (label : EmitterStep C P) : Moves s s label := .rests rfl rfl Iff.rfl

variable [DecidableEq C] [DecidableEq P] {shard_of : SdkEventCode → Nat}

/-- The counter gets what an `unsubscribe` or `unsubscribe_by_id` has removed. -/
theorem subtracts_goes_on {call : Call C P} (label : EmitterStep C P) (h : call ∈ s.calls)
    (hcall : call ≠ .unsubscribing_all) :
    Moves s ({ s with emitter := s.emitter.fetch_sub call.owed }.goes_on call []) label := by
  have hlive := live_goes_on [] (s.emitter.fetch_sub call.owed) s.called h
  rw [SdkEventEmitter.registered_fetch_sub] at hlive
  exact .subtracts call.owed (owed_le h) rfl hlive
    (clearing_goes_on _ _ hcall List.not_mem_nil)

/-- An emit goes from one of its lookups to the next. -/
theorem rests_goes_on {call : Call C P} {next : List (Call C P)} {event : SdkEvent P}
    {code : SdkEventCode} (label : EmitterStep C P) (h : call ∈ s.calls)
    (hcall : call ≠ .unsubscribing_all) (hnext : .unsubscribing_all ∉ next)
    (howed : call.owed = (next.map Call.owed).sum) :
    Moves s ((s.emit_to_listeners event code).goes_on call next) label := by
  have hlive := live_goes_on next s.emitter
    (s.emit_to_listeners event code).called h
  refine .rests rfl ?_ (clearing_goes_on _ _ hcall hnext)
  have hsame : s.live = s.emitter.registered + s.owed := rfl
  unfold emit_to_listeners at *
  dsimp only at *
  omega

theorem step_moves {label : EmitterStep C P} (h : s.step shard_of label = some s') :
    Moves s s' label := by
  cases label with
  | subscribe event listener =>
    simp only [step] at h
    split at h
    · cases h
      exact rests_self _
    · rename_i hcode
      cases h
      refine .counts hcode rfl ?_ (clearing_cons (by simp))
      rw [live_cons, SdkEventEmitter.registered_fetch_add, Nat.add_left_comm, Nat.add_comm]
      rfl
  | subscribe_push code listener =>
    simp only [step] at h
    split at h
    · rename_i hcall
      cases h
      have hlive := live_goes_on [] (s.emitter.set_listeners code
        (some (s.emitter.listeners_of code ++ [listener]))) s.called hcall.1
      have hset := s.emitter.registered_set_listeners code
        (some (s.emitter.listeners_of code ++ [listener]))
      refine .rests rfl ?_ (clearing_goes_on _ _ (by simp) List.not_mem_nil)
      have hsame : s.live = s.emitter.registered + s.owed := rfl
      simp only [Option.getD_some, List.length_append, List.length_singleton] at hset
      simp only [Call.owed, List.map_nil, List.sum_nil] at hlive
      omega
    · cases h
  | unsubscribe event =>
    simp only [step] at h
    split at h
    · split at h
      · rename_i listeners hlisteners
        cases h
        have hset := s.emitter.registered_set_listeners (SdkEventCode.from_name event) none
        refine .rests rfl ?_ (clearing_cons (by simp))
        have hsame : s.live = s.emitter.registered + s.owed := rfl
        simp only [SdkEventEmitter.listeners_of, hlisteners, Option.getD_some, Option.getD_none,
          List.length_nil] at hset
        rw [live_cons, hsame]
        dsimp only [Call.owed]
        omega
      · cases h
        exact rests_self _
    · cases h
  | unsubscribe_sub removed =>
    simp only [step] at h
    split at h
    · rename_i hcall
      cases h
      exact subtracts_goes_on _ hcall (by simp)
    · cases h
  | unsubscribe_by_id subscription_id =>
    simp only [step] at h
    split at h
    · split at h
      · rename_i listeners hlisteners
        have hset := s.emitter.registered_set_listeners
          (SdkEventCode.from_name subscription_id.event)
          (some (listeners.filter (·.sub_id_value ≠ subscription_id.value)))
        have hlength := List.length_filter_le (·.sub_id_value ≠ subscription_id.value) listeners
        have hsame : s.live = s.emitter.registered + s.owed := rfl
        simp only [SdkEventEmitter.listeners_of, hlisteners, Option.getD_some] at hset
        split at h
        · cases h
          refine .rests rfl ?_ (clearing_cons (by simp))
          rw [live_cons, hsame]
          dsimp only [Call.owed]
          omega
        · rename_i hremoved
          cases h
          refine .rests rfl ?_ Iff.rfl
          rw [hsame]
          refine congrArg (· + s.owed) ?_
          dsimp only
          omega
      · cases h
        exact rests_self _
    · cases h
  | unsubscribe_by_id_sub code removed =>
    simp only [step] at h
    split at h
    · rename_i hcall
      cases h
      exact subtracts_goes_on _ hcall (by simp)
    · cases h
  | unsubscribe_all =>
    simp only [step] at h
    split at h
    · cases h
      refine .clears rfl ?_ List.mem_cons_self
      rw [live_cons]
      have hnone : ({ s.emitter with listeners := fun _ => none } :
          SdkEventEmitter C).registered = 0 := Finset.sum_eq_zero fun _ _ => rfl
      rw [hnone]
      have hsame : s.live = s.emitter.registered + s.owed := rfl
      dsimp only [Call.owed]
      omega
    · cases h
  | unsubscribe_all_store =>
    simp only [step] at h
    split at h
    · rename_i hcall
      cases h
      exact .stores rfl (live_goes_on _ _ _ hcall)
    · cases h
  | emit event =>
    simp only [step] at h
    split at h
    · cases h
      exact rests_self _
    · cases h
      refine .rests rfl ?_ (clearing_cons (by simp))
      rw [live_cons]
      exact congrArg (s.emitter.registered + ·) (Nat.zero_add _)
  | emit_all event =>
    simp only [step] at h
    split at h
    · rename_i hcall
      cases h
      exact rests_goes_on _ hcall.1 (by simp) (by simp) rfl
    · cases h
  | emit_code event =>
    simp only [step] at h
    split at h
    · rename_i hcall
      cases h
      exact rests_goes_on _ hcall.1 (by simp) (by simp) rfl
    · cases h

/-! ## The counter along a run -/

/-- The counter covers what it should say, and says it unless a clear is under way. -/
structure Counted (s : Emitting C P) : Prop where
  bounded : s.emitter.listener_count < usize_size
  covers : s.live ≤ s.emitter.listener_count
  settled : ¬ s.Clearing → s.emitter.listener_count = s.live

/-- The zero of an `unsubscribe_all` is stored when the map is empty and no other call
has anything to add or to subtract, and the counter has room for the next listener. -/
def Undisturbed (s : Emitting C P) : EmitterStep C P → Prop
  | .subscribe event _ =>
    SdkEventCode.from_name event ≠ .Unknown → s.emitter.listener_count + 1 < usize_size
  | .unsubscribe_all_store => s.emitter.registered = 0 ∧ ∀ call ∈ s.calls, call.owed = 0
  | _ => True

instance (s : Emitting C P) (label : EmitterStep C P) : Decidable (s.Undisturbed label) := by
  cases label <;> unfold Undisturbed <;> infer_instance

omit [DecidableEq C] [DecidableEq P] in
theorem counted_new : ({} : Emitting C P).Counted where
  bounded := Nat.two_pow_pos 64
  covers := le_rfl
  settled := fun _ => rfl

omit [DecidableEq C] [DecidableEq P] in
theorem live_eq_zero (hregistered : s.emitter.registered = 0)
    (hcalls : ∀ call ∈ s.calls, call.owed = 0) : s.live = 0 := by
  have howed : s.owed = 0 := by
    refine List.sum_eq_zero fun n hn => ?_
    obtain ⟨call, hcall, rfl⟩ := List.mem_map.mp hn
    exact hcalls call hcall
  unfold live
  omega

theorem step_counted {label : EmitterStep C P} (hs : s.Counted) (hlabel : s.Undisturbed label)
    (h : s.step shard_of label = some s') : s'.Counted := by
  obtain ⟨hbounded, hcovers, hsettled⟩ := hs
  cases step_moves h with
  | counts hcode hcount hlive hclearing =>
    rw [wrapping_add_of_lt (hlabel hcode)] at hcount
    have hroom := hlabel hcode
    refine ⟨by omega, by omega, fun hclear => ?_⟩
    have := hsettled (mt hclearing.mpr hclear)
    omega
  | subtracts removed howed hcount hlive hclearing =>
    have hle : removed ≤ s.live := howed.trans (Nat.le_add_left _ _)
    rw [wrapping_sub_of_le hbounded (hle.trans hcovers)] at hcount
    refine ⟨by omega, by omega, fun hclear => ?_⟩
    have := hsettled (mt hclearing.mpr hclear)
    omega
  | clears hcount hlive hclearing =>
    exact ⟨by omega, by omega, fun hclear => absurd hclearing hclear⟩
  | stores hcount hlive =>
    have hzero : s.live = 0 := live_eq_zero hlabel.1 hlabel.2
    exact ⟨by omega, by omega, fun _ => by omega⟩
  | rests hcount hlive hclearing =>
    refine ⟨by omega, by omega, fun hclear => ?_⟩
    have := hsettled (mt hclearing.mpr hclear)
    omega

theorem run_counted {labels : List (EmitterStep C P)}
    (hlabels : Along (step shard_of) Undisturbed {} labels)
    (hrun : run (step shard_of) {} labels = some s) : s.Counted :=
  run_invariant_along (fun _ _ _ hs hc h => step_counted hs hc h) hlabels counted_new hrun

/-! ## Listeners that stay -/

omit [DecidableEq C] [DecidableEq P] in
theorem mem_set_listeners {code other : SdkEventCode} {listener : Listener C}
    {listeners : Option (List (Listener C))}
    (h : listener ∈ s.emitter.listeners_of code)
    (hother : other = code → listener ∈ listeners.getD []) :
    listener ∈ (s.emitter.set_listeners other listeners).listeners_of code := by
  unfold SdkEventEmitter.listeners_of SdkEventEmitter.set_listeners
  by_cases hcode : code = other
  · subst hcode
    dsimp only
    rw [update_self]
    exact hother rfl
  · dsimp only
    rw [update_of_ne hcode]
    exact h

end Emitting

/-- The step takes the listener of the code away. -/
def EmitterStep.unsubscribes (code : SdkEventCode) (listener : Listener C) :
    EmitterStep C P → Prop
  | .unsubscribe event => SdkEventCode.from_name event = code
  | .unsubscribe_by_id subscription_id =>
    SdkEventCode.from_name subscription_id.event = code ∧
      subscription_id.value = listener.sub_id_value
  | .unsubscribe_all => True
  | _ => False

namespace Emitting

variable [DecidableEq C] [DecidableEq P] {shard_of : SdkEventCode → Nat} {s s' : Emitting C P}
  {code : SdkEventCode} {listener : Listener C}

/-- Only the three calls that unsubscribe take a listener away. -/
theorem step_keeps_listener {label : EmitterStep C P}
    (hs : listener ∈ s.emitter.listeners_of code) (hlabel : ¬ label.unsubscribes code listener)
    (h : s.step shard_of label = some s') : listener ∈ s'.emitter.listeners_of code := by
  cases label with
  | subscribe event counted =>
    simp only [step] at h
    split at h
    · cases h
      exact hs
    · cases h
      rw [SdkEventEmitter.listeners_of_fetch_add]
      exact hs
  | subscribe_push other pushed =>
    simp only [step] at h
    split at h
    · cases h
      refine mem_set_listeners hs fun hother => ?_
      subst hother
      exact List.mem_append_left _ hs
    · cases h
  | unsubscribe event =>
    simp only [step] at h
    split at h
    · split at h
      · cases h
        exact mem_set_listeners hs fun hother => absurd hother hlabel
      · cases h
        exact hs
    · cases h
  | unsubscribe_sub removed | unsubscribe_by_id_sub _ removed =>
    simp only [step] at h
    split at h
    · cases h
      unfold goes_on
      rw [SdkEventEmitter.listeners_of_fetch_sub]
      exact hs
    · cases h
  | unsubscribe_by_id subscription_id =>
    simp only [step] at h
    split at h
    · split at h
      · rename_i listeners hlisteners
        have hretained : listener ∈ (s.emitter.set_listeners
            (SdkEventCode.from_name subscription_id.event)
            (some (listeners.filter (·.sub_id_value ≠ subscription_id.value)))).listeners_of
              code := by
          refine mem_set_listeners hs fun hother => ?_
          subst hother
          unfold SdkEventEmitter.listeners_of at hs
          rw [hlisteners] at hs
          refine List.mem_filter.mpr ⟨hs, decide_eq_true fun hvalue => ?_⟩
          exact hlabel ⟨rfl, hvalue.symm⟩
        split at h
        · cases h
          exact hretained
        · cases h
          exact hretained
      · cases h
        exact hs
    · cases h
  | unsubscribe_all => exact absurd trivial hlabel
  | _ =>
    simp only [step] at h
    split at h <;> cases h <;> exact hs

/-- A listener that was pushed is in the map, and it stays while nobody unsubscribes it. -/
theorem pushed_stays {labels : List (EmitterStep C P)} {n : Nat}
    (hrun : run (step shard_of) {} labels = some s)
    (hpush : labels[n]? = some (.subscribe_push code listener))
    (hlater : ∀ later ∈ labels.drop (n + 1), ¬ later.unsubscribes code listener) :
    listener ∈ s.emitter.listeners_of code := by
  obtain ⟨before, after, -, hstep, hrest⟩ := run_at hrun hpush
  have hafter : listener ∈ after.emitter.listeners_of code := by
    simp only [step] at hstep
    split at hstep
    · cases hstep
      unfold SdkEventEmitter.listeners_of SdkEventEmitter.set_listeners goes_on
      dsimp only
      rw [update_self]
      exact List.mem_append_right _ List.mem_cons_self
    · cases hstep
  refine run_invariant_along (I := fun s => listener ∈ s.emitter.listeners_of code)
    (fun _ _ _ hs hlabel h => step_keeps_listener hs hlabel.2 h)
    (along_and_mem (along_true _ _) hlater) hafter hrest

/-! ## What the counter is for -/

/-- No subtraction that is about to come is more than the counter, and the counter is the
number of registered listeners when no call is under way. -/
structure CountsListeners (s : Emitting C P) : Prop where
  never_underflows : ∀ call ∈ s.calls, call.subtracts ≤ s.emitter.listener_count
  quiescent : s.calls = [] → s.emitter.listener_count = s.emitter.registered

/-- No step of an emit passes the listener by. -/
structure Hears (shard_of : SdkEventCode → Nat) (s : Emitting C P) (code : SdkEventCode)
    (listener : Listener C) : Prop where
  goes_on : ∀ event s', s.step shard_of (.emit event) = some s' → .emitting event ∈ s'.calls
  called_of_all : ∀ event s', code = .All → s.step shard_of (.emit_all event) = some s' →
    (listener.callback, event) ∈ s'.called
  called_of_code : ∀ event s', code = event.get_code →
    s.step shard_of (.emit_code event) = some s' → (listener.callback, event) ∈ s'.called

omit [DecidableEq C] [DecidableEq P] in
theorem counts_listeners (hs : s.Counted) : s.CountsListeners := by
  constructor
  · intro call hcall
    have howed : call.owed ≤ s.live := (owed_le hcall).trans (Nat.le_add_left _ _)
    exact call.subtracts_le_owed.trans (howed.trans hs.covers)
  · intro hquiet
    have hclear : ¬ s.Clearing := by
      unfold Clearing
      rw [hquiet]
      exact List.not_mem_nil
    have howed : s.owed = 0 := by
      unfold owed
      rw [hquiet]
      rfl
    rw [hs.settled hclear]
    unfold live
    omega

omit [DecidableEq C] [DecidableEq P] in
theorem mem_emit_to_listeners (event : SdkEvent P)
    (h : listener ∈ s.emitter.listeners_of code) :
    (listener.callback, event) ∈ (s.emit_to_listeners event code).called :=
  List.mem_append_right _ (List.mem_map.mpr ⟨listener, h, rfl⟩)

theorem hears (hs : s.Counted) (hlistener : listener ∈ s.emitter.listeners_of code) :
    s.Hears shard_of code listener := by
  have hpositive : 0 < (s.emitter.listeners_of code).length := List.length_pos_of_mem hlistener
  have hregistered := s.emitter.length_le_registered code
  have hcovers : s.emitter.registered + s.owed ≤ s.emitter.listener_count := hs.covers
  constructor
  · intro event s' h
    simp only [step] at h
    split at h
    · omega
    · cases h
      exact List.mem_cons_self
  · intro event s' hcode h
    simp only [step] at h
    split at h
    · cases h
      exact mem_emit_to_listeners event (hcode ▸ hlistener)
    · cases h
  · intro event s' hcode h
    simp only [step] at h
    split at h
    · cases h
      exact mem_emit_to_listeners event (hcode ▸ hlistener)
    · cases h

/-- Along a run that stores no zero over listeners or over other calls, the counter never
underflows, it is exact when no call is under way, and no emit passes a listener by that
was subscribed and that nobody unsubscribed. -/
theorem listener_count_is_exact_where_clears_are_undisturbed (shard_of : SdkEventCode → Nat)
    {labels : List (EmitterStep C P)} {s : Emitting C P}
    (hlabels : Along (step shard_of) Undisturbed {} labels)
    (hrun : run (step shard_of) {} labels = some s) :
    s.CountsListeners ∧
      ∀ n code listener, labels[n]? = some (.subscribe_push code listener) →
        (∀ later ∈ labels.drop (n + 1), ¬ later.unsubscribes code listener) →
        s.Hears shard_of code listener := by
  have hs : s.Counted := run_counted hlabels hrun
  exact ⟨counts_listeners hs, fun n code listener hpush hlater =>
    hears hs (pushed_stays hrun hpush hlater)⟩

/-- The first subscriber of the gate events, told from others by its callback. -/
def first_listener : Listener Nat := ⟨"1", 1⟩

/-- A clear of an empty map, and a subscriber after it. -/
def clear_then_subscribe : List (EmitterStep Nat Unit) :=
  [.unsubscribe_all, .unsubscribe_all_store, .subscribe "gate_evaluated" first_listener,
    .subscribe_push .GateEvaluated first_listener]

theorem subscriber_after_a_clear :
    ∃ s, run (step fun _ => 0) {} clear_then_subscribe = some s ∧ s.CountsListeners ∧
      ∀ n code listener, clear_then_subscribe[n]? = some (.subscribe_push code listener) →
        (∀ later ∈ clear_then_subscribe.drop (n + 1), ¬ later.unsubscribes code listener) →
        s.Hears (fun _ => 0) code listener :=
  ⟨_, rfl, listener_count_is_exact_where_clears_are_undisturbed (fun _ => 0)
    (by decide +kernel) rfl⟩

/-- A subscriber between the two steps of an `unsubscribe_all`: the counter says zero, and
the listener is registered. -/
theorem clear_forgets_a_subscriber :
    ¬ ∀ (labels : List (EmitterStep Nat Unit)) (s : Emitting Nat Unit),
      run (step fun _ => 0) {} labels = some s → s.CountsListeners := by
  intro hall
  have hcounts := hall [.unsubscribe_all, .subscribe "gate_evaluated" first_listener,
    .subscribe_push .GateEvaluated first_listener, .unsubscribe_all_store] _ rfl
  have hzero : 0 = 1 := hcounts.quiescent rfl
  cases hzero

/-- No emit calls the listener that was forgotten. -/
example : (run (step fun _ => 0) ({} : Emitting Nat Unit)
    [.unsubscribe_all, .subscribe "gate_evaluated" first_listener,
      .subscribe_push .GateEvaluated first_listener, .unsubscribe_all_store,
      .emit (.GateEvaluated ())]).map (·.calls) = some [] := by decide +kernel

end Emitting

end statsig_rust.sdk_event_emitter
