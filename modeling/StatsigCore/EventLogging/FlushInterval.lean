-- The wait between scheduled flushes (`event_logging/flush_interval.rs`). The background loop and
-- the flushes of other tasks adjust it, each with a load and a later store, so that one
-- adjustment may overwrite another one.
import Mathlib.Tactic.Common
import StatsigCore.Library.Machine

namespace statsig_rust.event_logging

open machine

/-- `EventLoggerConstants`, which a test may override. -/
structure FlushConstants where
  min_flush_interval_ms : Nat := 1000
  max_flush_interval_ms : Nat := 60000

/-- A thread that has loaded the interval, with the answer to its flush. -/
structure Adjustment where
  success : Bool
  current : Nat

/-- `due` is the interval that the loop found to be over, until it marks its attempt. `clock` is
the last time that was read, and `attempts` has the scheduled attempts, the last one first. -/
structure FlushInterval where
  current_flush_interval_ms : Nat
  last_scheduled_flush_attempt_time : Nat
  adjusting : List Adjustment := []
  due : Option Nat := none
  clock : Nat
  attempts : List Nat

inductive IntervalStep where
  | load (success : Bool)
  | store (thread : Nat)
  /-- `try_scheduled_flush` up to its attempt, with the times that it reads. -/
  | try_scheduled_flush (now now' : Nat) (should_flush_by_size : Bool)
  | mark_scheduled_flush_attempt (now : Nat)

namespace FlushInterval

variable (constants : FlushConstants)

def new (now : Nat) : FlushInterval where
  current_flush_interval_ms := constants.min_flush_interval_ms
  last_scheduled_flush_attempt_time := now
  clock := now
  attempts := [now]

/-- What `adjust_for_success` stores, if it does. -/
def adjusted_for_success (current : Nat) : Option Nat :=
  if current = constants.min_flush_interval_ms then none
  else some (max (current / 2) constants.min_flush_interval_ms)

/-- What `adjust_for_failure` stores. -/
def adjusted_for_failure (current : Nat) : Nat :=
  min (current * 2) constants.max_flush_interval_ms

def adjusted (adjustment : Adjustment) : Option Nat :=
  if adjustment.success then adjusted_for_success constants adjustment.current
  else some (adjusted_for_failure constants adjustment.current)

variable (s : FlushInterval)

def has_cooled_from_most_recent_failure (now : Nat) : Bool :=
  s.last_scheduled_flush_attempt_time + s.current_flush_interval_ms < now

def has_waited_max_allowed_interval (now : Nat) : Bool :=
  s.last_scheduled_flush_attempt_time + constants.max_flush_interval_ms < now

def step : IntervalStep → Option FlushInterval
  | .load success =>
    some { s with adjusting := s.adjusting ++ [⟨success, s.current_flush_interval_ms⟩] }
  | .store thread =>
    s.adjusting[thread]?.map fun adjustment =>
      { s with
        adjusting := s.adjusting.eraseIdx thread
        current_flush_interval_ms :=
          (adjusted constants adjustment).getD s.current_flush_interval_ms }
  | .try_scheduled_flush now now' should_flush_by_size =>
    if s.due.isSome then none
    else if !s.has_cooled_from_most_recent_failure now then some { s with clock := now }
    else if !s.has_waited_max_allowed_interval constants now' && !should_flush_by_size then
      some { s with clock := now' }
    else some { s with clock := now', due := some s.current_flush_interval_ms }
  | .mark_scheduled_flush_attempt now =>
    s.due.map fun _ =>
      { s with
        last_scheduled_flush_attempt_time := now
        due := none
        clock := now
        attempts := now :: s.attempts }

/-- The clock does not go back. -/
def Later (s : FlushInterval) : IntervalStep → Prop
  | .try_scheduled_flush now now' _ => s.clock ≤ now ∧ now ≤ now'
  | .mark_scheduled_flush_attempt now => s.clock ≤ now
  | _ => True

instance (s : FlushInterval) : (a : IntervalStep) → Decidable (s.Later a)
  | .try_scheduled_flush now now' _ => inferInstanceAs (Decidable (s.clock ≤ now ∧ now ≤ now'))
  | .mark_scheduled_flush_attempt now => inferInstanceAs (Decidable (s.clock ≤ now))
  | .load _ | .store _ => .isTrue trivial

/-! ## Bounds -/

/-- A value that the interval may have. -/
def Allowed (interval : Nat) : Prop :=
  constants.min_flush_interval_ms ≤ interval ∧ interval ≤ constants.max_flush_interval_ms

structure Bounded : Prop where
  current : Allowed constants s.current_flush_interval_ms
  loaded : ∀ adjustment ∈ s.adjusting, Allowed constants adjustment.current
  due : ∀ interval ∈ s.due, Allowed constants interval

variable {constants s} {s' : FlushInterval}

theorem adjusted_allowed {adjustment : Adjustment} (h : Allowed constants adjustment.current)
    (hle : constants.min_flush_interval_ms ≤ constants.max_flush_interval_ms) {interval : Nat}
    (hinterval : interval ∈ adjusted constants adjustment) : Allowed constants interval := by
  obtain ⟨hmin, hmax⟩ := h
  unfold adjusted adjusted_for_success adjusted_for_failure at hinterval
  unfold Allowed
  split at hinterval
  · split at hinterval
    · cases hinterval
    · rw [← Option.mem_some.mp hinterval]
      omega
  · rw [← Option.mem_some.mp hinterval]
    omega

theorem Bounded.step (hs : Bounded constants s)
    (hle : constants.min_flush_interval_ms ≤ constants.max_flush_interval_ms) {a : IntervalStep}
    (h : s.step constants a = some s') : Bounded constants s' := by
  cases a with
  | load success =>
    rw [← Option.some.inj h]
    refine ⟨hs.current, fun adjustment hmem => ?_, hs.due⟩
    rcases List.mem_append.mp hmem with hmem | hmem
    · exact hs.loaded adjustment hmem
    · rw [List.mem_singleton.mp hmem]
      exact hs.current
  | store thread =>
    obtain ⟨adjustment, hthread, rfl⟩ := Option.map_eq_some_iff.mp h
    refine ⟨?_, fun other hmem => hs.loaded other (List.mem_of_mem_eraseIdx hmem), hs.due⟩
    have hloaded := hs.loaded adjustment (List.mem_of_getElem? hthread)
    cases hadjusted : adjusted constants adjustment with
    | none => exact hs.current
    | some interval => exact adjusted_allowed hloaded hle hadjusted
  | try_scheduled_flush now now' should_flush_by_size =>
    simp only [FlushInterval.step] at h
    split at h
    · cases h
    · split at h
      · rw [← Option.some.inj h]
        exact ⟨hs.current, hs.loaded, hs.due⟩
      · split at h
        · rw [← Option.some.inj h]
          exact ⟨hs.current, hs.loaded, hs.due⟩
        · rw [← Option.some.inj h]
          refine ⟨hs.current, hs.loaded, fun interval hmem => ?_⟩
          rw [← Option.mem_some.mp hmem]
          exact hs.current
  | mark_scheduled_flush_attempt now =>
    obtain ⟨interval, -, rfl⟩ := Option.map_eq_some_iff.mp h
    exact ⟨hs.current, hs.loaded, fun _ hmem => nomatch hmem⟩

/-! ## The scheduled attempts -/

/-- Each attempt comes more than the least interval after the one before it. -/
structure Spaced (constants : FlushConstants) (s : FlushInterval) : Prop where
  last : s.attempts.head? = some s.last_scheduled_flush_attempt_time
  due : ∀ interval ∈ s.due, s.last_scheduled_flush_attempt_time + interval < s.clock
  chain : s.attempts.IsChain fun later earlier => earlier + constants.min_flush_interval_ms < later

theorem Spaced.step (hs : Spaced constants s) (hbounded : Bounded constants s) {a : IntervalStep}
    (hlater : s.Later a) (h : s.step constants a = some s') : Spaced constants s' := by
  cases a with
  | load success =>
    rw [← Option.some.inj h]
    exact ⟨hs.last, hs.due, hs.chain⟩
  | store thread =>
    obtain ⟨adjustment, -, rfl⟩ := Option.map_eq_some_iff.mp h
    exact ⟨hs.last, hs.due, hs.chain⟩
  | try_scheduled_flush now now' should_flush_by_size =>
    simp only [FlushInterval.step] at h
    split at h
    · cases h
    · next hidle =>
      have hnone : s.due = none := by simpa using hidle
      split at h
      · rw [← Option.some.inj h]
        exact ⟨hs.last, fun interval hmem => absurd (hnone ▸ hmem) (by simp), hs.chain⟩
      · next hcooled =>
        split at h
        · rw [← Option.some.inj h]
          exact ⟨hs.last, fun interval hmem => absurd (hnone ▸ hmem) (by simp), hs.chain⟩
        · rw [← Option.some.inj h]
          refine ⟨hs.last, fun interval hmem => ?_, hs.chain⟩
          rw [← Option.mem_some.mp hmem]
          have hcooled :
              s.last_scheduled_flush_attempt_time + s.current_flush_interval_ms < now := by
            simpa [has_cooled_from_most_recent_failure] using hcooled
          exact Nat.lt_of_lt_of_le hcooled hlater.2
  | mark_scheduled_flush_attempt now =>
    obtain ⟨interval, hdue, rfl⟩ := Option.map_eq_some_iff.mp h
    refine ⟨rfl, fun _ hmem => (nomatch hmem), ?_⟩
    have hover := hs.due interval hdue
    have hmin := (hbounded.due interval hdue).1
    have hnow : s.clock ≤ now := hlater
    obtain ⟨earlier, heq⟩ := List.head?_eq_some_iff.mp hs.last
    have hchain := hs.chain
    dsimp only
    rw [heq] at hchain ⊢
    refine List.IsChain.cons_cons ?_ hchain
    omega

/-- Whichever flushes fail or succeed, and however their adjustments overlap, the interval stays
within its bounds, and a scheduled attempt comes more than the least interval after the one before
it. -/
theorem scheduled_flushes_are_spaced
    (hle : constants.min_flush_interval_ms ≤ constants.max_flush_interval_ms) (start : Nat)
    {labels : List IntervalStep} (hlater : Along (step constants) Later (new constants start) labels)
    (hrun : run (step constants) (new constants start) labels = some s) :
    (constants.min_flush_interval_ms ≤ s.current_flush_interval_ms ∧
      s.current_flush_interval_ms ≤ constants.max_flush_interval_ms) ∧
    s.attempts.IsChain fun later earlier => earlier + constants.min_flush_interval_ms < later := by
  have hstart : Bounded constants (new constants start) ∧ Spaced constants (new constants start) :=
    ⟨⟨⟨Nat.le_refl _, hle⟩, fun _ h => (nomatch h), fun _ h => (nomatch h)⟩,
      ⟨rfl, fun _ h => (nomatch h), List.IsChain.singleton _⟩⟩
  have hs : Bounded constants s ∧ Spaced constants s := by
    refine run_invariant_along (I := fun s => Bounded constants s ∧ Spaced constants s) ?_ hlater
      hstart hrun
    exact fun s a s' hs hlater h => ⟨hs.1.step hle h, hs.2.step hs.1 hlater h⟩
  exact ⟨hs.1.current, hs.2.chain⟩

/-- A limit flush fails while a full batch is due. -/
def one_attempt : List IntervalStep :=
  [.load false, .try_scheduled_flush 1500 1500 true, .store 0, .mark_scheduled_flush_attempt 1600]

theorem scheduled_flushes_are_spaced_once : ∃ s,
    run (step {}) (new {} 0) one_attempt = some s ∧ s.attempts = [1600, 0] ∧
    (1000 ≤ s.current_flush_interval_ms ∧ s.current_flush_interval_ms ≤ 60000) ∧
    s.attempts.IsChain fun later earlier => earlier + 1000 < later := by
  have hlater : Along (step {}) Later (new {} 0) one_attempt := by decide
  obtain ⟨s, hrun, hattempts⟩ : ∃ s, run (step {}) (new {} 0) one_attempt = some s ∧
      s.attempts = [1600, 0] := ⟨_, rfl, rfl⟩
  exact ⟨s, hrun, hattempts, scheduled_flushes_are_spaced (by decide) 0 hlater hrun⟩

end FlushInterval

end statsig_rust.event_logging
