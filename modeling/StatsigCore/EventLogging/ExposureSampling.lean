-- The sampling of exposures (`event_logging/exposure_sampling.rs`): the cache of the keys that were
-- let through, and the resets by the clock. The calls come one after the other, so each lock is
-- free when it is asked for.
import StatsigCore.EventLogging.QueuedExposures
import StatsigCore.Library.LruCache
import StatsigCore.SpecStore.SpecUpdates

namespace statsig_rust.event_logging

open evaluation
open lru (LruCache)
open spec_store (GlobalConfigs)

def DEFAULT_EXPOSURE_SAMPLING_TTL_MS : Nat := 60000

def SAMPLING_MAX_KEYS : Nat := 100000

/-! ## The configs -/

inductive EvtSamplingMode where
  | On | Shadow
deriving DecidableEq

/-- `f64 as u64` cuts off the fraction, and stays in the range of `u64`. -/
def as_u64 (x : F64) : Nat := min x.floor.toNat (2 ^ 64 - 1)

def get_sampling_mode (configs : GlobalConfigs) : Option EvtSamplingMode := do
  let sampling_mode ← configs.sdk_configs.get "sampling_mode"
  let v ← sampling_mode.string_value
  match v.value with
  | "on" => some .On
  | "shadow" => some .Shadow
  | _ => none

def get_u64_config (configs : GlobalConfigs) (key : String) : Option Nat :=
  (configs.sdk_configs.get key).bind fun value => value.float_value.map as_u64

def get_special_case_sampling_rate (configs : GlobalConfigs) : Option Nat :=
  get_u64_config configs "special_case_sampling_rate"

def get_exposure_spec_sampling_ttl_ms (configs : GlobalConfigs) : Nat :=
  (get_u64_config configs "exposure_spec_sampling_ttl_ms").getD DEFAULT_EXPOSURE_SAMPLING_TTL_MS

def get_exposure_dedupe_ttl_ms (configs : GlobalConfigs) : Nat :=
  (get_u64_config configs "exposure_dedupe_ttl_ms").getD DEFAULT_EXPOSURE_SAMPLING_TTL_MS

/-! ## The decision -/

inductive EvtSamplingDecision where
  | Deduped
  | NotSampled
  | ForceSampled
  | Sampled (sampling_rate : Option Nat) (mode : EvtSamplingMode) (is_sampled : Bool)
deriving DecidableEq

def EvtSamplingDecision.should_log : EvtSamplingDecision → Bool
  | Deduped | NotSampled => false
  | ForceSampled | Sampled _ _ _ => true

/-- What the sampling asks of an exposure. -/
structure QueuedExposure where
  key : ExposureSamplingKey
  extra_info : Option ExtraExposureInfo := none
  rule_id : String := ""

/-- Zero is the only multiple of zero. -/
def ExposureSamplingKey.is_sampled (key : ExposureSamplingKey) : Option Nat → Bool
  | some sampling_rate =>
    let final_hash := key.spec_name_hash ^^^ key.rule_id_hash ^^^ key.user_values_hash ^^^
      key.additional_hash
    final_hash.toNat % sampling_rate == 0
  | none => true

def should_sample_based_on_evaluation (extra_info : Option ExtraExposureInfo)
    (ignore_analytical_gate_force_sampling : Bool) : Bool :=
  match extra_info with
  | none => false
  | some exposure_info =>
    exposure_info.forward_all_exposures == some true ||
      (!ignore_analytical_gate_force_sampling &&
        exposure_info.has_seen_analytical_gates == some true)

def special_case_sampling_rate (configs : GlobalConfigs) (exposure : QueuedExposure) : Option Nat :=
  match exposure.rule_id with
  | "default" | "disabled" | "" => get_special_case_sampling_rate configs
  | _ => none

/-- The cache and its resets. The capacity of the cache is the one that was configured. -/
structure ExposureSampling where
  spec_sampling_set : List (UInt64 × UInt64)
  last_spec_sampling_reset : UInt64
  exposure_dedupe_set : LruCache ExposureSamplingKey
  exposure_dedupe_max_keys : Nat
  last_exposure_dedupe_reset : UInt64
  max_keys_pos : 0 < exposure_dedupe_max_keys
  dedupe_cap : exposure_dedupe_set.cap = exposure_dedupe_max_keys

namespace ExposureSampling

/-- A configured number of zero keys counts as none. -/
def with_max_keys (now : Int64) (max_keys : Option UInt32) : ExposureSampling where
  spec_sampling_set := []
  last_spec_sampling_reset := now.toUInt64
  exposure_dedupe_max_keys :=
    ((max_keys.map UInt32.toNat).filter (0 < ·)).getD SAMPLING_MAX_KEYS
  exposure_dedupe_set := .new (((max_keys.map UInt32.toNat).filter (0 < ·)).getD SAMPLING_MAX_KEYS)
  last_exposure_dedupe_reset := now.toUInt64
  max_keys_pos := by
    cases h : (max_keys.map UInt32.toNat).filter (0 < ·) with
    | none => decide
    | some cap => simpa using (Option.filter_eq_some_iff.mp h).2
  dedupe_cap := rfl

/-- One more use of a key: whether it was in the cache, and the cache with it in front. -/
def should_dedupe_exposure (self : ExposureSampling) (sampling_key : ExposureSamplingKey) :
    Bool × ExposureSampling :=
  if (self.exposure_dedupe_set.get sampling_key).1 then
    (true, { self with
      exposure_dedupe_set := (self.exposure_dedupe_set.get sampling_key).2
      dedupe_cap := (LruCache.get_cap _ _).trans self.dedupe_cap })
  else
    (false, { self with
      exposure_dedupe_set := (self.exposure_dedupe_set.get sampling_key).2.put sampling_key
      dedupe_cap := (LruCache.get_cap _ _).trans self.dedupe_cap })

def should_sample_first_time_exposure (self : ExposureSampling) (exposure : ExposureSamplingKey) :
    Bool × ExposureSampling :=
  let sampling_key := (exposure.spec_name_hash, exposure.rule_id_hash)
  if sampling_key ∈ self.spec_sampling_set then (false, self)
  else (true, { self with spec_sampling_set := sampling_key :: self.spec_sampling_set })

/-- `none` is a payload that is not an exposure. -/
def get_sampling_decision (self : ExposureSampling) (configs : GlobalConfigs)
    (payload : Option QueuedExposure) (ignore_analytical_gate_force_sampling : Bool) :
    EvtSamplingDecision × ExposureSampling :=
  match payload with
  | none => (.ForceSampled, self)
  | some exposure =>
    let (deduped, self) := self.should_dedupe_exposure exposure.key
    if deduped then (.Deduped, self)
    else
      match get_sampling_mode configs with
      | none => (.ForceSampled, self)
      | some sampling_mode =>
        if should_sample_based_on_evaluation exposure.extra_info
            ignore_analytical_gate_force_sampling then (.ForceSampled, self)
        else
          let (first_time, self) := self.should_sample_first_time_exposure exposure.key
          if first_time then (.ForceSampled, self)
          else
            let sampling_rate := (special_case_sampling_rate configs exposure).or
              (exposure.extra_info.bind (·.sampling_rate))
            let is_sampled := exposure.key.is_sampled sampling_rate
            match sampling_mode, is_sampled with
            | .On, true => (.Sampled sampling_rate .On true, self)
            | .Shadow, is_sampled => (.Sampled sampling_rate .Shadow is_sampled, self)
            | .On, false => (.NotSampled, self)

/-! ## The resets -/

/-- `now - last_reset > ttl_ms` on `u64`. In a build with overflow checks the difference panics
when it is below zero, and in one without it wraps. -/
def has_expired (overflow_checks : Bool) (now last_reset : UInt64) (ttl_ms : Nat) : Option Bool :=
  if overflow_checks ∧ now < last_reset then none else some (ttl_ms < (now - last_reset).toNat)

def try_reset_exposure_dedupe_set (overflow_checks : Bool) (self : ExposureSampling)
    (configs : GlobalConfigs) (now : Int64) : Option ExposureSampling :=
  (has_expired overflow_checks now.toUInt64 self.last_exposure_dedupe_reset
    (get_exposure_dedupe_ttl_ms configs)).map fun expired =>
    if expired then
      { self with
        exposure_dedupe_set := .new self.exposure_dedupe_max_keys
        last_exposure_dedupe_reset := now.toUInt64
        dedupe_cap := rfl }
    else self

def try_reset_spec_sampling_set (overflow_checks : Bool) (self : ExposureSampling)
    (configs : GlobalConfigs) (now : Int64) : Option ExposureSampling :=
  (has_expired overflow_checks now.toUInt64 self.last_spec_sampling_reset
    (get_exposure_spec_sampling_ttl_ms configs)).map fun (expired : Bool) =>
    if expired ∨ SAMPLING_MAX_KEYS < self.spec_sampling_set.length then
      { self with spec_sampling_set := [], last_spec_sampling_reset := now.toUInt64 }
    else self

/-- Both resets, each with its own reading of the clock. A call that panics leaves what it has
done. -/
def try_reset_all_sampling (overflow_checks : Bool) (self : ExposureSampling)
    (configs : GlobalConfigs) (now later : Int64) : ExposureSampling :=
  match self.try_reset_exposure_dedupe_set overflow_checks configs now with
  | none => self
  | some self => (self.try_reset_spec_sampling_set overflow_checks configs later).getD self

end ExposureSampling

end statsig_rust.event_logging
