-- Any number of `set_values` calls at once, one lock section at a time. A call sees the
-- current values in its prep step and swaps them in its apply step, and other calls may
-- swap them in between.
import StatsigCore.Library.Machine
import StatsigCore.SpecStore.SpecUpdates

open machine

namespace statsig_rust.spec_store

/-! ## The calls and their steps -/

/-- How far a call is. `overtaken` records that another call has applied values with a
later time since the prep step. No step reads it. -/
inductive Call where
  | prepared (update : SpecsUpdate) (next_values : SpecsResponseFull)
      (response_format : SpecsFormat) (overtaken : Bool)
  | applied (update : SpecsUpdate) (response_format : SpecsFormat) (result : ApplyResult)
  | returned (result : Except StatsigErr Unit)

/-- Values with this time were applied. -/
def Call.overtake (time : Nat) : Call → Call
  | .prepared update next_values response_format overtaken =>
    .prepared update next_values response_format (overtaken || decide (next_values.time < time))
  | call => call

/-- The call after its prep step. -/
def Call.of_prep (update : SpecsUpdate) : Except StatsigErr PrepResult → Call
  | .error e => .returned (.error e)
  | .ok .CurrentValuesNewer => .returned (.ok ())
  | .ok .NoUpdates => .returned (.ok ())
  | .ok (.HasUpdates next_values response_format) =>
    .prepared update next_values response_format false

structure Calls where
  store : SpecStore
  calls : List Call := []

inductive CallStep where
  | prep (update : SpecsUpdate) (lock : Bool)
  | apply (call : Nat) (locks : Locks) (now : Nat)
  | notify (call : Nat) (lock : Bool)

namespace Calls

/-- A call comes in with its prep step. `none` when a call is not where the step begins. -/
def step (s : Calls) : CallStep → Option Calls
  | .prep update lock =>
    let call := Call.of_prep update (specs_update_prep s.store.data lock update)
    some { s with calls := s.calls ++ [call] }
  | .apply call locks now =>
    match s.calls[call]? with
    | some (.prepared update next_values response_format _) =>
      match specs_update_apply s.store locks next_values update now with
      | (.ok result, store) =>
        let calls := s.calls.set call (.applied update response_format result)
        some { store, calls := calls.map (Call.overtake next_values.time) }
      | (.error e, store) => some { store, calls := s.calls.set call (.returned (.error e)) }
    | _ => none
  | .notify call lock =>
    match s.calls[call]? with
    | some (.applied _ _ _) =>
      some { s with calls := s.calls.set call (.returned (specs_update_notify lock)) }
    | _ => none

/-- The time of the values that the store holds. -/
def time (s : Calls) : Nat := s.store.data.values.time

/-! ## What a step can do -/

variable {s s' : Calls}

theorem prep_cases {update : SpecsUpdate} {lock : Bool}
    (h : step s (.prep update lock) = some s') :
    ∃ call, s' = { s with calls := s.calls ++ [call] } ∧
      ((∃ result, call = .returned result) ∨
        ∃ next_values response_format, Accepted s.store.data lock update next_values ∧
          call = .prepared update next_values response_format false) := by
  unfold step at h
  refine ⟨_, (Option.some.inj h).symm, ?_⟩
  rcases hprep : specs_update_prep s.store.data lock update with
    e | ⟨next_values, response_format⟩ | _ | _
  · exact .inl ⟨_, rfl⟩
  · exact .inr ⟨next_values, response_format, (prep_eq_has_updates_iff.mp hprep).1, rfl⟩
  · exact .inl ⟨_, rfl⟩
  · exact .inl ⟨_, rfl⟩

/-- An apply step swaps the values when the write lock is granted. Else the call returns. -/
theorem apply_cases {call : Nat} {locks : Locks} {now : Nat}
    (h : step s (.apply call locks now) = some s') :
    ∃ update next_values response_format overtaken,
      s.calls[call]? = some (.prepared update next_values response_format overtaken) ∧
      ((locks.apply = true ∧ s'.store.data = swapped update next_values now ∧
          ∃ result, s'.calls =
            (s.calls.set call (.applied update response_format result)).map
              (Call.overtake next_values.time)) ∨
        (locks.apply = false ∧ s'.store.data = s.store.data ∧
          ∃ result, s'.calls = s.calls.set call (.returned result))) := by
  simp only [step] at h
  split at h
  · rename_i update next_values response_format overtaken hcall
    refine ⟨update, next_values, response_format, overtaken, hcall, ?_⟩
    unfold specs_update_apply at h
    cases happly : locks.apply with
    | true =>
      simp only [happly, ↓reduceIte, Option.some.injEq] at h
      subst h
      exact .inl ⟨rfl, rfl, _, rfl⟩
    | false =>
      simp only [happly, Bool.false_eq_true, ↓reduceIte, Option.some.injEq] at h
      subst h
      exact .inr ⟨rfl, rfl, _, rfl⟩
  · nomatch h

theorem notify_cases {call : Nat} {lock : Bool} (h : step s (.notify call lock) = some s') :
    ∃ result, s' = { s with calls := s.calls.set call (.returned result) } := by
  simp only [step] at h
  split at h
  · exact ⟨_, (Option.some.inj h).symm⟩
  · nomatch h

/-- A call with no other call between its steps does what `set_values` does. -/
theorem set_values_is_a_run (s : Calls) (update : SpecsUpdate) (locks : Locks) (now : Nat) :
    ∃ labels s', run step s labels = some s' ∧
      s'.store = (set_values s.store update locks now).2 ∧
      s'.calls[s.calls.length]? = some (.returned (set_values s.store update locks now).1) := by
  have hprep : ∀ call, Call.of_prep update (specs_update_prep s.store.data locks.prep update) =
      call → run step s [.prep update locks.prep] =
        some { s with calls := s.calls ++ [call] } := by
    rintro call rfl
    rfl
  unfold set_values
  rcases hresult : specs_update_prep s.store.data locks.prep update with
    e | ⟨next_values, response_format⟩ | _ | _
  · exact ⟨_, _, hprep (.returned (.error e)) (by rw [hresult, Call.of_prep]), rfl, by simp⟩
  · obtain ⟨prepared, hrun, hprepared⟩ := run_cons_eq_some.mp
      (hprep (.prepared update next_values response_format false) (by rw [hresult, Call.of_prep]))
    cases hprepared
    have happlied : ∃ s', step { s with calls := s.calls ++
          [.prepared update next_values response_format false] }
          (.apply s.calls.length locks now) = some s' ∧
        s'.store = (specs_update_apply s.store locks next_values update now).2 ∧
        s'.calls[s.calls.length]? =
          match (specs_update_apply s.store locks next_values update now).1 with
          | .error e => some (.returned (.error e))
          | .ok result => some (.applied update response_format result) := by
      simp only [step, List.getElem?_concat_length, specs_update_apply]
      cases locks.apply with
      | false => exact ⟨_, rfl, rfl, by simp⟩
      | true => exact ⟨_, rfl, rfl, by simp [Call.overtake]⟩
    obtain ⟨s', hstep, hstore, hcall⟩ := happlied
    dsimp only
    rcases hresult' : specs_update_apply s.store locks next_values update now with
      ⟨e | result, store⟩
    · rw [hresult'] at hstore hcall
      exact ⟨[_, _], s', run_cons_eq_some.mpr ⟨_, hrun, run_cons_eq_some.mpr ⟨_, hstep, rfl⟩⟩,
        hstore, hcall⟩
    · rw [hresult'] at hstore hcall
      have hnotify : step s' (.notify s.calls.length locks.notify) = some { s' with
          calls := s'.calls.set s.calls.length
            (.returned (specs_update_notify locks.notify)) } := by
        simp only [step, hcall]
      refine ⟨[_, _, _], _, run_cons_eq_some.mpr ⟨_, hrun, run_cons_eq_some.mpr
        ⟨_, hstep, run_cons_eq_some.mpr ⟨_, hnotify, rfl⟩⟩⟩, hstore, ?_⟩
      have hlt : s.calls.length < s'.calls.length := (List.getElem?_eq_some_iff.mp hcall).1
      exact List.getElem?_set_self hlt
  · exact ⟨_, _, hprep (.returned (.ok ())) (by rw [hresult, Call.of_prep]), rfl, by simp⟩
  · exact ⟨_, _, hprep (.returned (.ok ())) (by rw [hresult, Call.of_prep]), rfl, by simp⟩

/-! ## Calls that are overtaken -/

/-- The calls that wait with values older than those of the store are the overtaken ones. -/
def OvertakenAreOlder (s : Calls) : Prop :=
  ∀ update next_values response_format overtaken,
    .prepared update next_values response_format overtaken ∈ s.calls →
      (overtaken = true ↔ next_values.time < s.time)

/-- An apply step comes before its call is overtaken. -/
def InTime (s : Calls) : CallStep → Prop
  | .apply call locks _ => locks.apply = true → ∀ update next_values response_format,
      s.calls[call]? ≠ some (.prepared update next_values response_format true)
  | _ => True

/-- A call that is over is not one that waits. -/
theorem OvertakenAreOlder.set_returned (h : s.OvertakenAreOlder) {call : Nat}
    {result : Except StatsigErr Unit} (hdata : s'.store.data = s.store.data)
    (hcalls : s'.calls = s.calls.set call (.returned result)) : s'.OvertakenAreOlder := by
  intro update next_values response_format overtaken hmem
  rw [hcalls] at hmem
  have htime : s'.time = s.time := congrArg (·.values.time) hdata
  rw [htime]
  rcases List.mem_or_eq_of_mem_set hmem with hmem | heq
  · exact h update next_values response_format overtaken hmem
  · nomatch heq

theorem overtaken_are_older_step (s : Calls) (a : CallStep) (s' : Calls)
    (hs : s.OvertakenAreOlder) (hintime : s.InTime a) (h : step s a = some s') :
    s'.OvertakenAreOlder := by
  cases a with
  | prep update lock =>
    obtain ⟨call, rfl, hcall⟩ := prep_cases h
    intro update' next_values response_format overtaken hmem
    rcases List.mem_append.mp hmem with hmem | hmem
    · exact hs update' next_values response_format overtaken hmem
    · rw [List.mem_singleton] at hmem
      subst hmem
      rcases hcall with ⟨result, hreturned⟩ | ⟨next, format, haccepted, hprepared⟩
      · nomatch hreturned
      · cases hprepared
        have hle : s.time ≤ next_values.time := haccepted.time_le
        have hnot : ¬ next_values.time < s.time := by omega
        exact ⟨fun hfalse => absurd hfalse (by decide), fun hlt => absurd hlt hnot⟩
  | apply call locks now =>
    obtain ⟨update, next_values, response_format, overtaken, hcall, hswap | hfail⟩ := apply_cases h
    · obtain ⟨hlock, hdata, result, hcalls⟩ := hswap
      -- the call was not overtaken, so that its values are not older than the current ones
      have hle : s.time ≤ next_values.time := by
        have hiff := hs _ _ _ _ (List.mem_of_getElem? hcall)
        cases overtaken with
        | true => exact absurd hcall (hintime hlock _ _ _)
        | false => exact Nat.not_lt.mp fun hlt => nomatch hiff.mpr hlt
      have htime : s'.time = next_values.time := by
        unfold time
        rw [hdata]
        rfl
      intro update' next' format' overtaken' hmem
      rw [hcalls, List.mem_map] at hmem
      obtain ⟨waiting, hmem, heq⟩ := hmem
      rw [htime]
      cases waiting with
      | applied u f r => nomatch heq
      | returned r => nomatch heq
      | prepared u n f o =>
        cases heq
        rcases List.mem_or_eq_of_mem_set hmem with hmem | hnew
        · have hiff := hs _ _ _ _ hmem
          simp only [Bool.or_eq_true, decide_eq_true_eq, hiff]
          omega
        · nomatch hnew
    · obtain ⟨-, hdata, result, hcalls⟩ := hfail
      exact hs.set_returned hdata hcalls
  | notify call lock =>
    obtain ⟨result, rfl⟩ := notify_cases h
    exact hs.set_returned rfl rfl

/-- In states where the overtaken calls are the older ones, a step keeps the time just when
it is in time. -/
theorem in_time_iff_relates (s : Calls) (a : CallStep) (hs : s.OvertakenAreOlder) :
    s.InTime a ↔ Relates step (fun s s' => 0 < s.time → s.time ≤ s'.time) s a := by
  constructor
  · intro hintime s' h hpos
    cases a with
    | prep update lock =>
      obtain ⟨call, rfl, -⟩ := prep_cases h
      exact Nat.le_refl s.time
    | apply call locks now =>
      obtain ⟨update, next_values, response_format, overtaken, hcall, hswap | hfail⟩ :=
        apply_cases h
      · obtain ⟨hlock, hdata, -⟩ := hswap
        have hiff := hs _ _ _ _ (List.mem_of_getElem? hcall)
        have hnot : ¬ next_values.time < s.time := by
          intro hlt
          rw [hiff.mpr hlt] at hcall
          exact hintime hlock _ _ _ hcall
        unfold time at *
        rw [hdata]
        exact Nat.not_lt.mp hnot
      · unfold time
        rw [hfail.2.1]
    | notify call lock =>
      obtain ⟨result, rfl⟩ := notify_cases h
      exact Nat.le_refl s.time
  · intro hrelates
    cases a with
    | prep update lock => trivial
    | notify call lock => trivial
    | apply call locks now =>
      intro hlock update next_values response_format hcall
      have hlt := (hs _ _ _ _ (List.mem_of_getElem? hcall)).mp rfl
      have hstep : ∃ s', step s (.apply call locks now) = some s' ∧
          s'.time = next_values.time := by
        simp only [step, hcall, specs_update_apply, hlock, ↓reduceIte]
        exact ⟨_, rfl, rfl⟩
      obtain ⟨s', hs', htime⟩ := hstep
      have hle := hrelates s' hs' (by omega)
      omega

end Calls

/-! ## The time of the store -/

/-- Once the store holds values with a time, it never holds values with an earlier one. -/
def NeverGoesBack (store : SpecStore) (labels : List CallStep) : Prop :=
  RelatedAlong Calls.step (fun s s' => 0 < s.time → s.time ≤ s'.time) { store } labels

/-- The store never goes back in time just when no call applies its values after another
call has overtaken it: the newer-than check of prep is not made again under the write
lock. -/
theorem spec_store_never_goes_back_iff (store : SpecStore) (labels : List CallStep) :
    NeverGoesBack store labels ↔ Along Calls.step Calls.InTime { store } labels := by
  have hrefl : ∀ s : Calls, 0 < s.time → s.time ≤ s.time := fun s _ => Nat.le_refl s.time
  have htrans : ∀ s s' s'' : Calls, (0 < s.time → s.time ≤ s'.time) →
      (0 < s'.time → s'.time ≤ s''.time) → 0 < s.time → s.time ≤ s''.time := by
    intro s s' s'' h h' hpos
    have hle := h hpos
    exact Nat.le_trans hle (h' (by omega))
  have hstart : Calls.OvertakenAreOlder { store } := by
    intro update next_values response_format overtaken hmem
    nomatch hmem
  unfold NeverGoesBack
  rw [related_along_iff hrefl htrans]
  exact (along_iff_along Calls.in_time_iff_relates Calls.overtaken_are_older_step hstart
    labels).symm

/-- Two updates prepared on an empty store, and the newer one applied first. -/
def newer_first : List CallStep :=
  [.prep (.json { has_updates := true, time := 1 }) true,
    .prep (.json { has_updates := true, time := 2 }) true, .apply 1 {} 10, .apply 0 {} 11]

theorem spec_store_goes_back : ¬ NeverGoesBack {} newer_first := by
  intro hnever
  exact absurd (hnever 3 1 _ _ rfl rfl) (by decide)

end statsig_rust.spec_store
