-- The window in which an exposure is not logged again. A key that was let through stays in the
-- cache until enough other keys are looked up, or the cache is reset. The resets go by a clock that
-- may step back.
import StatsigCore.EventLogging.ExposureSampling
import StatsigCore.Library.Machine

namespace statsig_rust.event_logging

open lru (LruCache Holds Since)
open machine (Along run)
open spec_store (GlobalConfigs)

inductive SamplingCall where
  | get_sampling_decision (configs : GlobalConfigs) (payload : Option QueuedExposure)
      (ignore_analytical_gate_force_sampling : Bool)
  | try_reset_all_sampling (configs : GlobalConfigs) (now later : Int64)

namespace SamplingCall

def step (overflow_checks : Bool) (s : ExposureSampling) : SamplingCall → Option ExposureSampling
  | get_sampling_decision configs payload ignore_analytical_gate_force_sampling =>
    some (s.get_sampling_decision configs payload ignore_analytical_gate_force_sampling).2
  | try_reset_all_sampling configs now later =>
    some (s.try_reset_all_sampling overflow_checks configs now later)

/-- The key that the call looks up. -/
def looked_up : SamplingCall → Option ExposureSamplingKey
  | get_sampling_decision _ payload _ => payload.map QueuedExposure.key
  | try_reset_all_sampling _ _ _ => none

/-- The call asks for an exposure with the key, and the exposure is not deduped. -/
def LetsThrough (s : ExposureSampling) (key : ExposureSamplingKey) : SamplingCall → Prop
  | get_sampling_decision configs payload ignore_analytical_gate_force_sampling =>
    payload.map QueuedExposure.key = some key ∧
      (s.get_sampling_decision configs payload ignore_analytical_gate_force_sampling).1 ≠ .Deduped
  | try_reset_all_sampling _ _ _ => False

/-- The clock as it was read, told from the stored `u64`. -/
def reading (stored : UInt64) : Int := stored.toInt64.toInt

/-- The call resets the cache, by a reading more than the TTL after the one of the last reset. -/
def Expires (s : ExposureSampling) : SamplingCall → Prop
  | get_sampling_decision _ _ _ => False
  | try_reset_all_sampling configs now _ =>
    reading s.last_exposure_dedupe_reset + get_exposure_dedupe_ttl_ms configs < now.toInt

/-- A reset does not read the clock before the reading of the last reset. If it does, then the
difference still does not wrap past the TTL, or it panics. -/
def ClockIsSound (overflow_checks : Bool) (s : ExposureSampling) : SamplingCall → Prop
  | get_sampling_decision _ _ _ => True
  | try_reset_all_sampling configs now _ =>
    reading s.last_exposure_dedupe_reset ≤ now.toInt ∨
      now.toInt - reading s.last_exposure_dedupe_reset + 2 ^ 64 ≤
        get_exposure_dedupe_ttl_ms configs ∨
      overflow_checks = true ∧ ¬ (now.toInt < 0 ∧ 0 ≤ reading s.last_exposure_dedupe_reset)

end SamplingCall

open SamplingCall
open ExposureSampling (has_expired)

/-! ## What a call does to the cache -/

/-- A reading and its `u64`. -/
theorem reading_eq (stored : UInt64) :
    reading stored =
      if 2 * stored.toNat < 2 ^ 64 then (stored.toNat : Int)
      else (stored.toNat : Int) - 2 ^ 64 := by
  have h := BitVec.toInt_eq_toNat_cond stored.toBitVec
  exact h

theorem has_expired_eq_true {overflow_checks : Bool} {now last_reset : UInt64} {ttl_ms : Nat}
    (h : has_expired overflow_checks now last_reset ttl_ms = some true) :
    ¬ (overflow_checks = true ∧ now.toNat < last_reset.toNat) ∧
      ttl_ms < (2 ^ 64 - last_reset.toNat + now.toNat) % 2 ^ 64 := by
  unfold has_expired at h
  split at h
  · cases h
  · rename_i hpanic
    refine ⟨fun hlt => hpanic ⟨hlt.1, UInt64.lt_iff_toNat_lt.mpr hlt.2⟩, ?_⟩
    have hexpired := of_decide_eq_true (Option.some.inj h)
    rwa [UInt64.toNat_sub] at hexpired

/-- By a sound clock, what seems to have expired has expired. -/
theorem expired_of_sound {overflow_checks : Bool} {now : Int64} {last_reset : UInt64} {ttl_ms : Nat}
    (hsound : reading last_reset ≤ now.toInt ∨ now.toInt - reading last_reset + 2 ^ 64 ≤ ttl_ms ∨
      overflow_checks = true ∧ ¬ (now.toInt < 0 ∧ 0 ≤ reading last_reset))
    (h : has_expired overflow_checks now.toUInt64 last_reset ttl_ms = some true) :
    reading last_reset + ttl_ms < now.toInt := by
  obtain ⟨hpanic, hexpired⟩ := has_expired_eq_true h
  have hnow : now.toInt = reading now.toUInt64 := by rw [reading, Int64.toInt64_toUInt64]
  have hlast_lt := last_reset.toNat_lt
  have hnow_lt := now.toUInt64.toNat_lt
  rw [hnow, reading_eq, reading_eq] at hsound ⊢
  cases overflow_checks with
  | true =>
    simp only [true_and] at hpanic hsound
    split at hsound
    · split at hsound
      · omega
      · omega
    · split at hsound
      · omega
      · omega
  | false =>
    simp only [Bool.false_eq_true, false_and, or_false] at hsound
    split at hsound
    · split at hsound
      · omega
      · omega
    · split at hsound
      · omega
      · omega

theorem should_dedupe_of_mem {s : ExposureSampling} {key : ExposureSamplingKey}
    (h : key ∈ s.exposure_dedupe_set.keys) :
    (s.should_dedupe_exposure key).1 = true ∧
      (s.should_dedupe_exposure key).2.exposure_dedupe_set = (s.exposure_dedupe_set.get key).2 := by
  simp [ExposureSampling.should_dedupe_exposure, (LruCache.get_of_mem h).1]

theorem should_dedupe_of_not_mem {s : ExposureSampling} {key : ExposureSamplingKey}
    (h : key ∉ s.exposure_dedupe_set.keys) :
    (s.should_dedupe_exposure key).1 = false ∧
      (s.should_dedupe_exposure key).2.exposure_dedupe_set = s.exposure_dedupe_set.put key := by
  simp [ExposureSampling.should_dedupe_exposure, LruCache.get_of_not_mem h]

@[simp] theorem should_dedupe_max_keys (s : ExposureSampling) (key : ExposureSamplingKey) :
    (s.should_dedupe_exposure key).2.exposure_dedupe_max_keys = s.exposure_dedupe_max_keys := by
  unfold ExposureSampling.should_dedupe_exposure
  split
  · rfl
  · rfl

theorem first_time_keeps_cache (s : ExposureSampling) (key : ExposureSamplingKey) :
    (s.should_sample_first_time_exposure key).2.exposure_dedupe_set = s.exposure_dedupe_set ∧
      (s.should_sample_first_time_exposure key).2.exposure_dedupe_max_keys =
        s.exposure_dedupe_max_keys := by
  unfold ExposureSampling.should_sample_first_time_exposure
  dsimp only
  split
  · exact ⟨rfl, rfl⟩
  · exact ⟨rfl, rfl⟩

/-- A decision uses the key of its exposure once, and dedupes just when the cache has it. -/
theorem decision_cache (s : ExposureSampling) (configs : GlobalConfigs) (exposure : QueuedExposure)
    (ignore : Bool) :
    (s.get_sampling_decision configs (some exposure) ignore).2.exposure_dedupe_set =
        (s.should_dedupe_exposure exposure.key).2.exposure_dedupe_set ∧
      (s.get_sampling_decision configs (some exposure) ignore).2.exposure_dedupe_max_keys =
        s.exposure_dedupe_max_keys ∧
      ((s.get_sampling_decision configs (some exposure) ignore).1 = .Deduped ↔
        (s.should_dedupe_exposure exposure.key).1 = true) := by
  obtain ⟨hcache, hmax⟩ := first_time_keeps_cache (s.should_dedupe_exposure exposure.key).2
    exposure.key
  rw [should_dedupe_max_keys] at hmax
  unfold ExposureSampling.get_sampling_decision
  dsimp only
  by_cases hdeduped : (s.should_dedupe_exposure exposure.key).1 = true
  · simp [hdeduped]
  · simp only [hdeduped, Bool.false_eq_true, if_false]
    cases get_sampling_mode configs with
    | none => simp
    | some sampling_mode =>
      dsimp only
      split
      · simp
      · split
        · exact ⟨hcache, hmax, by simp⟩
        · split
          · exact ⟨hcache, hmax, by simp⟩
          · exact ⟨hcache, hmax, by simp⟩
          · exact ⟨hcache, hmax, by simp⟩

/-- A reset keeps the cache, or else it has expired and the cache is empty. -/
theorem reset_cache (overflow_checks : Bool) (s : ExposureSampling) (configs : GlobalConfigs)
    (now later : Int64) :
    (s.try_reset_all_sampling overflow_checks configs now later).exposure_dedupe_max_keys =
        s.exposure_dedupe_max_keys ∧
      ((s.try_reset_all_sampling overflow_checks configs now later).exposure_dedupe_set =
          s.exposure_dedupe_set ∨
        has_expired overflow_checks now.toUInt64 s.last_exposure_dedupe_reset
          (get_exposure_dedupe_ttl_ms configs) = some true) := by
  have hspec : ∀ self : ExposureSampling,
      ((self.try_reset_spec_sampling_set overflow_checks configs later).getD
          self).exposure_dedupe_set = self.exposure_dedupe_set ∧
        ((self.try_reset_spec_sampling_set overflow_checks configs later).getD
          self).exposure_dedupe_max_keys = self.exposure_dedupe_max_keys := by
    intro self
    unfold ExposureSampling.try_reset_spec_sampling_set
    cases has_expired overflow_checks later.toUInt64 self.last_spec_sampling_reset
      (get_exposure_spec_sampling_ttl_ms configs) with
    | none => exact ⟨rfl, rfl⟩
    | some expired =>
      rw [Option.map_some, Option.getD_some]
      split
      · exact ⟨rfl, rfl⟩
      · exact ⟨rfl, rfl⟩
  unfold ExposureSampling.try_reset_all_sampling ExposureSampling.try_reset_exposure_dedupe_set
  cases hexpired : has_expired overflow_checks now.toUInt64 s.last_exposure_dedupe_reset
    (get_exposure_dedupe_ttl_ms configs) with
  | none => exact ⟨rfl, .inl rfl⟩
  | some expired =>
    dsimp only [Option.map_some]
    cases expired with
    | false =>
      obtain ⟨hcache, hmax⟩ := hspec s
      exact ⟨hmax, .inl hcache⟩
    | true => exact ⟨(hspec _).2, .inr rfl⟩

/-! ## Runs -/

/-- The cache holds the last keys that were used, and the key was used, since then no others than
`used`. -/
def Remembers (s : ExposureSampling) (key : ExposureSamplingKey)
    (used : List ExposureSamplingKey) : Prop :=
  ∃ recent, Holds s.exposure_dedupe_set recent ∧ Since key used recent

theorem holds_should_dedupe {s : ExposureSampling} {recent : List ExposureSamplingKey}
    (h : Holds s.exposure_dedupe_set recent) (key : ExposureSamplingKey) :
    Holds (s.should_dedupe_exposure key).2.exposure_dedupe_set (lru.touch recent key) := by
  by_cases hmem : key ∈ s.exposure_dedupe_set.keys
  · rw [(should_dedupe_of_mem hmem).2]
    exact h.get hmem
  · rw [(should_dedupe_of_not_mem hmem).2]
    exact h.put key

/-- No call is refused. -/
theorem step_some (overflow_checks : Bool) (s : ExposureSampling) (call : SamplingCall) :
    ∃ s', step overflow_checks s call = some s' := by
  cases call with
  | get_sampling_decision => exact ⟨_, rfl⟩
  | try_reset_all_sampling => exact ⟨_, rfl⟩

section Steps

variable {overflow_checks : Bool} {s s' : ExposureSampling} {key : ExposureSamplingKey}
  {used : List ExposureSamplingKey} {call : SamplingCall}

theorem step_max_keys (h : step overflow_checks s call = some s') :
    s'.exposure_dedupe_max_keys = s.exposure_dedupe_max_keys := by
  cases call with
  | get_sampling_decision configs payload ignore =>
    cases h
    cases payload with
    | none => rfl
    | some exposure => exact (decision_cache s configs exposure ignore).2.1
  | try_reset_all_sampling configs now later =>
    cases h
    exact (reset_cache overflow_checks s configs now later).1

/-- A call by a sound clock keeps the memory of a key, or else it is a reset that has expired. -/
theorem step_remembers (hsound : ClockIsSound overflow_checks s call)
    (hs : Remembers s key used) (h : step overflow_checks s call = some s') :
    Expires s call ∨ Remembers s' key (used ++ call.looked_up.toList) := by
  obtain ⟨recent, hholds, hsince⟩ := hs
  cases call with
  | get_sampling_decision configs payload ignore =>
    cases h
    cases payload with
    | none =>
      refine .inr ⟨recent, hholds, ?_⟩
      simpa [looked_up] using hsince
    | some exposure =>
      refine .inr ⟨lru.touch recent exposure.key, ?_, hsince.touch exposure.key⟩
      rw [(decision_cache s configs exposure ignore).1]
      exact holds_should_dedupe hholds exposure.key
  | try_reset_all_sampling configs now later =>
    cases h
    rcases (reset_cache overflow_checks s configs now later).2 with hsame | hexpired
    · refine .inr ⟨recent, ?_, ?_⟩
      · rw [hsame]
        exact hholds
      · simpa [looked_up] using hsince
    · exact .inl (expired_of_sound hsound hexpired)

/-- What is let through is not in the cache, and is remembered from then on. -/
theorem let_through (hlets : LetsThrough s key call)
    (h : step overflow_checks s call = some s') :
    key ∉ s.exposure_dedupe_set.keys ∧ Remembers s' key [] := by
  cases call with
  | get_sampling_decision configs payload ignore =>
    obtain ⟨hkey, hdecision⟩ := hlets
    obtain ⟨exposure, rfl, rfl⟩ := Option.map_eq_some_iff.mp hkey
    cases h
    obtain ⟨hcache, -, hdeduped⟩ := decision_cache s configs exposure ignore
    constructor
    · intro hmem
      exact hdecision (hdeduped.mpr (should_dedupe_of_mem hmem).1)
    · refine ⟨_, ?_, lru.since_touch_self exposure.key [] s.exposure_dedupe_set.keys⟩
      rw [hcache]
      exact holds_should_dedupe (lru.holds_self _) exposure.key
  | try_reset_all_sampling configs now later => exact hlets.elim

end Steps

theorem run_max_keys {overflow_checks : Bool} {s s' : ExposureSampling} {calls : List SamplingCall}
    (h : run (step overflow_checks) s calls = some s') :
    s'.exposure_dedupe_max_keys = s.exposure_dedupe_max_keys := by
  apply machine.run_invariant
    (I := fun t => t.exposure_dedupe_max_keys = s.exposure_dedupe_max_keys) _ rfl h
  intro t call t' ht hstep
  exact (step_max_keys hstep).trans ht

/-- Over calls by a sound clock a key is remembered, or else a reset among them has expired. -/
theorem run_remembers {overflow_checks : Bool} {s s' : ExposureSampling}
    {key : ExposureSamplingKey} {used : List ExposureSamplingKey} {calls : List SamplingCall}
    (hsound : Along (step overflow_checks) (ClockIsSound overflow_checks) s calls)
    (hs : Remembers s key used) (hrun : run (step overflow_checks) s calls = some s') :
    (∃ front reset back mid, calls = front ++ reset :: back ∧
        run (step overflow_checks) s front = some mid ∧ Expires mid reset) ∨
      Remembers s' key (used ++ calls.filterMap looked_up) := by
  induction calls generalizing s used with
  | nil =>
    cases hrun
    refine .inr ?_
    simpa using hs
  | cons call calls ih =>
    obtain ⟨mid, hmid, hrest⟩ := machine.run_cons_eq_some.mp hrun
    rcases step_remembers hsound.1 hs hmid with hexpires | hmid_remembers
    · exact .inl ⟨[], call, calls, s, rfl, rfl, hexpires⟩
    · rcases ih (hsound.2 mid hmid) hmid_remembers hrest with
        ⟨front, reset, back, later, rfl, hfront, hexpires⟩ | hremembers
      · exact .inl ⟨call :: front, reset, back, later, rfl,
          machine.run_cons_eq_some.mpr ⟨mid, hmid, hfront⟩, hexpires⟩
      · refine .inr ?_
        cases hkey : call.looked_up with
        | none => simpa [hkey] using hremembers
        | some k => simpa [hkey] using hremembers

/-- A run by a sound clock: the cache stays in its bound, and a key that was let through is let
through again only after enough other keys, or a reset that has expired. -/
theorem let_through_again_only_after (overflow_checks : Bool) (start : ExposureSampling)
    (calls : List SamplingCall)
    (hsound : Along (step overflow_checks) (ClockIsSound overflow_checks) start calls) :
    (∀ n s, run (step overflow_checks) start (calls.take n) = some s →
      s.exposure_dedupe_set.keys.length ≤ start.exposure_dedupe_max_keys) ∧
    ∀ front first between second back key s s₁ s₂,
      calls = front ++ first :: between ++ second :: back →
      run (step overflow_checks) start front = some s → LetsThrough s key first →
      step overflow_checks s first = some s₁ → run (step overflow_checks) s₁ between = some s₂ →
      LetsThrough s₂ key second →
      (∃ others : List ExposureSamplingKey, others.Nodup ∧
        others.length = start.exposure_dedupe_max_keys ∧
        ∀ k ∈ others, k ≠ key ∧ k ∈ between.filterMap looked_up) ∨
      ∃ before reset after mid, between = before ++ reset :: after ∧
        run (step overflow_checks) s₁ before = some mid ∧ Expires mid reset := by
  constructor
  · intro n s hrun
    rw [← run_max_keys hrun, ← s.dedupe_cap]
    exact s.exposure_dedupe_set.bounded
  · intro front first between second back key s s₁ s₂ hcalls hfront hfirst hstep hbetween hsecond
    subst hcalls
    rw [List.append_assoc, List.cons_append] at hsound
    have hrest := machine.along_rest hsound hfront
    have hlater := machine.along_take (hrest.2 s₁ hstep) between.length
    rw [List.take_left'] at hlater
    · have hremembers := (let_through hfirst hstep).2
      rcases run_remembers hlater hremembers hbetween with hexpired | ⟨recent, hholds, hsince⟩
      · exact .inr hexpired
      · refine .inl ?_
        obtain ⟨s₃, hs₃⟩ := step_some overflow_checks s₂ second
        have hgone := (let_through hsecond hs₃).1
        have hcap : s₂.exposure_dedupe_set.cap = start.exposure_dedupe_max_keys := by
          rw [s₂.dedupe_cap, run_max_keys hbetween, step_max_keys hstep, run_max_keys hfront]
        obtain ⟨others, hnodup, hlength, hothers⟩ := hsince.evicted hholds hgone
        exact ⟨others, hnodup, hlength.trans hcap, by simpa using hothers⟩
    · rfl

def exposure_of (user : UInt64) : SamplingCall :=
  .get_sampling_decision {} (some ⟨⟨1, 2, user, 0⟩, none, ""⟩) false

/-- A cache of one key lets a key through again after another one. -/
theorem other_key_makes_way :
    (∃ others : List ExposureSamplingKey, others.Nodup ∧ others.length = 1 ∧
      ∀ k ∈ others, k ≠ ⟨1, 2, 3, 0⟩ ∧ k ∈ [exposure_of 4].filterMap looked_up) ∨
    ∃ before reset after mid, [exposure_of 4] = before ++ reset :: after ∧
      run (step false) (((ExposureSampling.with_max_keys 0 (some 1)).get_sampling_decision {}
        (some ⟨⟨1, 2, 3, 0⟩, none, ""⟩) false).2) before = some mid ∧ Expires mid reset := by
  apply (let_through_again_only_after false (.with_max_keys 0 (some 1))
    [exposure_of 3, exposure_of 4, exposure_of 3] ?_).2 [] (exposure_of 3) [exposure_of 4]
    (exposure_of 3) [] ⟨1, 2, 3, 0⟩ _ _ _ rfl rfl ?_ rfl rfl ?_
  · exact ⟨trivial, fun _ _ => ⟨trivial, fun _ _ => ⟨trivial, fun _ _ => trivial⟩⟩⟩
  · exact ⟨rfl, by decide⟩
  · exact ⟨rfl, by decide⟩

/-- The clock steps back by a millisecond, and the key is let through again at once. -/
theorem clock_step_back_resets :
    ¬ ∀ (start : ExposureSampling) (calls : List SamplingCall)
      (front : List SamplingCall) (first : SamplingCall) (between : List SamplingCall)
      (second : SamplingCall) (back : List SamplingCall) (key : ExposureSamplingKey)
      (s s₁ s₂ : ExposureSampling),
      calls = front ++ first :: between ++ second :: back →
      run (step false) start front = some s → LetsThrough s key first →
      step false s first = some s₁ → run (step false) s₁ between = some s₂ →
      LetsThrough s₂ key second →
      (∃ others : List ExposureSamplingKey, others.Nodup ∧
        others.length = start.exposure_dedupe_max_keys ∧
        ∀ k ∈ others, k ≠ key ∧ k ∈ between.filterMap looked_up) ∨
      ∃ before reset after mid, between = before ++ reset :: after ∧
        run (step false) s₁ before = some mid ∧ Expires mid reset := by
  intro hwindow
  rcases hwindow (.with_max_keys 1000 (some 10))
    [exposure_of 3, .try_reset_all_sampling {} 999 999, exposure_of 3] [] (exposure_of 3)
    [.try_reset_all_sampling {} 999 999] (exposure_of 3) [] ⟨1, 2, 3, 0⟩ _ _ _ rfl rfl
    ⟨rfl, by decide⟩ rfl rfl ⟨rfl, by decide⟩ with
    ⟨others, -, hlength, hothers⟩ | ⟨before, reset, after, mid, hsplit, hmid, hexpires⟩
  · cases others with
    | nil => cases hlength
    | cons k others =>
      have hk := (hothers k List.mem_cons_self).2
      cases hk
  · cases before with
    | nil =>
      cases hsplit
      cases hmid
      revert hexpires
      unfold Expires
      decide
    | cons call before => simp at hsplit

end statsig_rust.event_logging
