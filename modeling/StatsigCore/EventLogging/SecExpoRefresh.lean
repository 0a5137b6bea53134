-- How many SDKs log secondary exposures as primary ones is a number of the SDK configs. The logger
-- keeps it for a minute (`sec_expo_as_primary_experiment.rs`, `global_configs.rs`). Threads ask for
-- it at once, one atomic step at a time, and the clock shows each of them whatever it may.
import Mathlib.Tactic.NormNum
import StatsigCore.Evaluation.SpecTypes
import StatsigCore.Library.Machine
import StatsigCore.Library.Threads

open machine

namespace statsig_rust.event_logging.sec_expo

def SEC_EXPO_NUMBER_SDK_CONFIG : String := "sec_expo_number"
def SEC_EXPO_BUCKET_SIZE : Nat := 1000
def SEC_EXPO_NUMBER_REFRESH_INTERVAL_MS : Nat := 60000

/-- `u64::MAX` in the place of a number. -/
def NO_SEC_EXPO_NUMBER : Nat := 2 ^ 64 - 1

/-! ## The number -/

/-- `number.clamp(0.0, 1000.0) as u64`. -/
def parse_sec_expo_number (value : Option DynamicValue) : Option Nat :=
  value.bind fun value => value.float_value.map fun number =>
    (max 0 (min number (SEC_EXPO_BUCKET_SIZE : ℚ))).floor.toNat

/-- `get_sec_expo_number`. A reader that does not get the lock in time finds no config. -/
def get_sec_expo_number (sdk_configs : HashMap String DynamicValue) (locked : Bool) : Option Nat :=
  parse_sec_expo_number (if locked then none else sdk_configs.get SEC_EXPO_NUMBER_SDK_CONFIG)

theorem parse_le {value : Option DynamicValue} {number : Nat}
    (h : parse_sec_expo_number value = some number) : number ≤ SEC_EXPO_BUCKET_SIZE := by
  obtain ⟨value, -, h⟩ := Option.bind_eq_some_iff.mp h
  obtain ⟨x, -, rfl⟩ := Option.map_eq_some_iff.mp h
  have hle : max 0 (min x (SEC_EXPO_BUCKET_SIZE : ℚ)) ≤ (SEC_EXPO_BUCKET_SIZE : ℚ) :=
    max_le (by norm_num [SEC_EXPO_BUCKET_SIZE]) (min_le_right _ _)
  have hfloor : (max 0 (min x (SEC_EXPO_BUCKET_SIZE : ℚ))).floor < (SEC_EXPO_BUCKET_SIZE : ℤ) + 1 :=
    Rat.floor_lt_iff.mpr (lt_of_le_of_lt hle (by norm_num [SEC_EXPO_BUCKET_SIZE]))
  omega

def should_refresh_sec_expo_number (now last_refresh : Nat) : Bool :=
  last_refresh = 0 || now - last_refresh ≥ SEC_EXPO_NUMBER_REFRESH_INTERVAL_MS

/-- The bucket of an SDK is below the number. `provided_exp_number` is the one of its flag, if it
has one. -/
def should_log_as_primary (provided_exp_number answer : Option Nat) : Bool :=
  provided_exp_number.any fun experiment_number => answer.any (experiment_number < ·)

/-! ## Threads -/

/-- Where a thread is in `get_cached_sec_expo_number`. -/
inductive Phase where
  | Idle
  /-- The clock was read. -/
  | Clocked (now : Nat)
  /-- The number is due for a refresh, and the time of the last one is to be exchanged. -/
  | Due (now last_refresh : Nat)
  /-- The time was exchanged, and the configs are to be read. -/
  | Elected
  /-- The number was read, and is to be stored. -/
  | Fetched (sec_expo_number : Option Nat)
  /-- The number that is kept is to be loaded. -/
  | Reading
deriving DecidableEq

/-- The two atomics, the configs and the threads. `refreshes` has the times of the refreshes and
`fetched` what they read of the configs, the newest first. -/
structure Shared where
  cached_sec_expo_number : Nat := NO_SEC_EXPO_NUMBER
  last_sec_expo_number_refresh_time : Nat := 0
  sdk_configs : HashMap String DynamicValue := []
  threads : List Phase
  refreshes : List Nat := []
  fetched : List (Option Nat) := []
  answers : List (Option Nat) := []

inductive Step where
  | clock (i now : Nat)
  | load (i : Nat)
  | exchange (i : Nat)
  | fetch (i : Nat) (locked : Bool)
  | store (i : Nat)
  | read (i : Nat)
  /-- `set_sdk_configs`. -/
  | configure (new_configs : HashMap String DynamicValue)

namespace Shared

def start (threads : Nat) : Shared := { threads := List.replicate threads .Idle }

def goto (s : Shared) (i : Nat) (phase : Phase) : Shared :=
  { s with threads := s.threads.set i phase }

/-- A call returns. -/
def answer (s : Shared) (i : Nat) (number : Option Nat) : Shared :=
  { s with threads := s.threads.set i .Idle, answers := number :: s.answers }

/-- `none` when the thread is not where the step begins. -/
def step (s : Shared) : Step → Option Shared
  | .clock i now =>
    match s.threads[i]? with
    | some .Idle => some (s.goto i (.Clocked now))
    | _ => none
  | .load i =>
    match s.threads[i]? with
    | some (.Clocked now) =>
      let last_refresh := s.last_sec_expo_number_refresh_time
      if should_refresh_sec_expo_number now last_refresh then
        some (s.goto i (.Due now last_refresh))
      else some (s.goto i .Reading)
    | _ => none
  | .exchange i =>
    match s.threads[i]? with
    | some (.Due now last_refresh) =>
      if s.last_sec_expo_number_refresh_time = last_refresh then
        some ({ s with
          last_sec_expo_number_refresh_time := now
          refreshes := now :: s.refreshes }.goto i .Elected)
      else some (s.goto i .Reading)
    | _ => none
  | .fetch i locked =>
    match s.threads[i]? with
    | some .Elected =>
      let sec_expo_number := get_sec_expo_number s.sdk_configs locked
      some ({ s with fetched := sec_expo_number :: s.fetched }.goto i (.Fetched sec_expo_number))
    | _ => none
  | .store i =>
    match s.threads[i]? with
    | some (.Fetched sec_expo_number) =>
      some ({ s with
        cached_sec_expo_number := sec_expo_number.getD NO_SEC_EXPO_NUMBER }.answer i sec_expo_number)
    | _ => none
  | .read i =>
    match s.threads[i]? with
    | some .Reading =>
      if s.cached_sec_expo_number = NO_SEC_EXPO_NUMBER then some (s.answer i none)
      else some (s.answer i (some s.cached_sec_expo_number))
    | _ => none
  | .configure new_configs => some { s with sdk_configs := new_configs ++ s.sdk_configs }

/-! ## What holds in every interleaving -/

/-- The later of two refreshes, if the earlier one has a time at all. -/
def Spaced (later earlier : Nat) : Prop :=
  earlier = 0 ∨ earlier + SEC_EXPO_NUMBER_REFRESH_INTERVAL_MS ≤ later

/-- What a phase has to do with what was fetched. -/
def PhaseSound (fetched : List (Option Nat)) : Phase → Prop
  | .Due now last_refresh => Spaced now last_refresh
  | .Fetched number => number ∈ fetched
  | _ => True

/-- Each refresh reads the configs once at most, and the refreshes are a minute apart. What is kept
and what is answered was read in one of them. -/
structure Sound (s : Shared) : Prop where
  last : s.last_sec_expo_number_refresh_time = s.refreshes.headD 0
  spaced : s.refreshes.IsChain Spaced
  once : s.fetched.length + s.threads.countP (· = .Elected) = s.refreshes.length
  phases : ∀ phase ∈ s.threads, PhaseSound s.fetched phase
  fetched : ∀ number ∈ s.fetched, ∀ n ∈ number, n ≤ SEC_EXPO_BUCKET_SIZE
  cached : s.cached_sec_expo_number = NO_SEC_EXPO_NUMBER ∨
    some s.cached_sec_expo_number ∈ s.fetched
  answers : ∀ number ∈ s.answers, number = none ∨ number ∈ s.fetched

theorem start_sound (threads : Nat) : (start threads).Sound := by
  have hidle : ∀ phase ∈ List.replicate threads Phase.Idle, phase = .Idle :=
    fun phase h => List.eq_of_mem_replicate h
  refine ⟨rfl, .nil, ?_, ?_, List.forall_mem_nil _, .inl rfl, List.forall_mem_nil _⟩
  · show 0 + (List.replicate threads Phase.Idle).countP _ = 0
    rw [Nat.zero_add, List.countP_eq_zero]
    intro phase hphase
    rw [hidle phase hphase]
    decide
  · intro phase hphase
    rw [hidle phase hphase]
    trivial

theorem spaced_of_due {now last_refresh : Nat}
    (h : should_refresh_sec_expo_number now last_refresh = true) : Spaced now last_refresh := by
  unfold should_refresh_sec_expo_number at h
  unfold Spaced
  simp only [Bool.or_eq_true, decide_eq_true_eq] at h
  have hpos : 0 < SEC_EXPO_NUMBER_REFRESH_INTERVAL_MS := by decide
  omega

theorem PhaseSound.mono {fetched fetched' : List (Option Nat)} {phase : Phase}
    (h : PhaseSound fetched phase) (hsub : ∀ number ∈ fetched, number ∈ fetched') :
    PhaseSound fetched' phase := by
  cases phase with
  | Fetched number => exact hsub number h
  | Due now last_refresh => exact h
  | Idle | Clocked _ | Elected | Reading => trivial

section Steps

variable {s s' : Shared} {i : Nat} {phase next : Phase}

theorem phases_after (h : s.Sound) {fetched : List (Option Nat)}
    (hsub : ∀ number ∈ s.fetched, number ∈ fetched) (hnext : PhaseSound fetched next) :
    ∀ other ∈ s.threads.set i next, PhaseSound fetched other := by
  intro other hother
  rcases List.mem_or_eq_of_mem_set hother with hother | rfl
  · exact (h.phases other hother).mono hsub
  · exact hnext

/-- How many threads were elected, before and after one of them moves. -/
theorem elected_after (hi : s.threads[i]? = some phase) (next : Phase) :
    (s.threads.set i next).countP (· = .Elected) + (decide (phase = .Elected)).toNat =
      s.threads.countP (· = .Elected) + (decide (next = .Elected)).toNat :=
  threads.count_set hi next

theorem Sound.goto (h : s.Sound) (hi : s.threads[i]? = some phase) (hphase : phase ≠ .Elected)
    (hnot : next ≠ .Elected) (hnext : PhaseSound s.fetched next) : (s.goto i next).Sound := by
  have hcount := elected_after hi next
  rw [decide_eq_false hphase, decide_eq_false hnot] at hcount
  refine ⟨h.last, h.spaced, ?_, phases_after h (fun _ hn => hn) hnext, h.fetched, h.cached,
    h.answers⟩
  refine Eq.trans ?_ h.once
  show s.fetched.length + (s.threads.set i next).countP _ = _
  simpa using hcount

theorem Sound.answer (h : s.Sound) (hi : s.threads[i]? = some phase) (hphase : phase ≠ .Elected)
    {number : Option Nat} (hnumber : number = none ∨ number ∈ s.fetched) :
    (s.answer i number).Sound := by
  have hgoto : (s.goto i .Idle).Sound := h.goto hi hphase (by decide) trivial
  refine ⟨hgoto.last, hgoto.spaced, hgoto.once, hgoto.phases, hgoto.fetched, hgoto.cached, ?_⟩
  intro other hother
  rcases List.mem_cons.mp hother with rfl | hother
  · exact hnumber
  · exact h.answers other hother

/-- The time is still the one that was loaded, so the refresh is a minute after the last one. -/
theorem Sound.exchange (h : s.Sound) {now last_refresh : Nat}
    (hi : s.threads[i]? = some (.Due now last_refresh))
    (hsame : s.last_sec_expo_number_refresh_time = last_refresh) :
    Sound ({ s with
      last_sec_expo_number_refresh_time := now
      refreshes := now :: s.refreshes }.goto i .Elected) := by
  have hcount := elected_after hi .Elected
  have hdue : Spaced now last_refresh := h.phases _ (List.mem_of_getElem? hi)
  refine ⟨rfl, ?_, ?_, phases_after h (fun _ hn => hn) trivial, h.fetched, h.cached, h.answers⟩
  · show List.IsChain Spaced (now :: s.refreshes)
    have hlast := h.last
    have hspaced := h.spaced
    cases hrefreshes : s.refreshes with
    | nil => exact .singleton now
    | cons earlier rest =>
      rw [hrefreshes] at hlast hspaced
      refine .cons_cons ?_ hspaced
      have hearlier : last_refresh = earlier := hsame.symm.trans hlast
      rw [← hearlier]
      exact hdue
  · show s.fetched.length + (s.threads.set i .Elected).countP _ = s.refreshes.length + 1
    rw [← h.once]
    simp at hcount
    omega

theorem Sound.fetch (h : s.Sound) (hi : s.threads[i]? = some .Elected) (locked : Bool) :
    Sound ({ s with
      fetched := get_sec_expo_number s.sdk_configs locked :: s.fetched }.goto i
        (.Fetched (get_sec_expo_number s.sdk_configs locked))) := by
  have hcount := elected_after hi (.Fetched (get_sec_expo_number s.sdk_configs locked))
  have hsub : ∀ number ∈ s.fetched,
      number ∈ get_sec_expo_number s.sdk_configs locked :: s.fetched :=
    fun number hn => List.mem_cons_of_mem _ hn
  refine ⟨h.last, h.spaced, ?_, phases_after h hsub List.mem_cons_self, ?_,
    h.cached.imp_right (hsub _), fun number hn => (h.answers number hn).imp_right (hsub number)⟩
  · show s.fetched.length + 1 + (s.threads.set i _).countP _ = s.refreshes.length
    rw [← h.once]
    simp at hcount
    omega
  · intro number hnumber n hn
    rcases List.mem_cons.mp hnumber with rfl | hnumber
    · exact parse_le hn
    · exact h.fetched number hnumber n hn

theorem Sound.store (h : s.Sound) {number : Option Nat}
    (hi : s.threads[i]? = some (.Fetched number)) :
    Sound ({ s with cached_sec_expo_number := number.getD NO_SEC_EXPO_NUMBER }.answer i number) := by
  have hfetched : number ∈ s.fetched := h.phases _ (List.mem_of_getElem? hi)
  have hanswer : (s.answer i number).Sound := h.answer hi (by simp) (.inr hfetched)
  refine ⟨hanswer.last, hanswer.spaced, hanswer.once, hanswer.phases, hanswer.fetched, ?_,
    hanswer.answers⟩
  cases number with
  | none => exact .inl rfl
  | some n => exact .inr hfetched

theorem step_sound {label : Step} (h : s.Sound) (hstep : s.step label = some s') : s'.Sound := by
  cases label with
  | clock i now =>
    simp only [step] at hstep
    split at hstep
    · next hi =>
      cases hstep
      exact h.goto hi (by simp) (by simp) trivial
    · cases hstep
  | load i =>
    simp only [step] at hstep
    split at hstep
    · next now hi =>
      split at hstep
      · next hdue =>
        cases hstep
        exact h.goto hi (by simp) (by simp) (spaced_of_due hdue)
      · cases hstep
        exact h.goto hi (by simp) (by simp) trivial
    · cases hstep
  | exchange i =>
    simp only [step] at hstep
    split at hstep
    · next now last_refresh hi =>
      split at hstep
      · next hsame =>
        cases hstep
        exact h.exchange hi hsame
      · cases hstep
        exact h.goto hi (by simp) (by simp) trivial
    · cases hstep
  | fetch i locked =>
    simp only [step] at hstep
    split at hstep
    · next hi =>
      cases hstep
      exact h.fetch hi locked
    · cases hstep
  | store i =>
    simp only [step] at hstep
    split at hstep
    · next number hi =>
      cases hstep
      exact h.store hi
    · cases hstep
  | read i =>
    simp only [step] at hstep
    split at hstep
    · next hi =>
      split at hstep
      · cases hstep
        exact h.answer hi (by simp) (.inl rfl)
      · next hsome =>
        cases hstep
        exact h.answer hi (by simp) (.inr (h.cached.resolve_left hsome))
    · cases hstep
  | configure new_configs =>
    cases hstep
    exact ⟨h.last, h.spaced, h.once, h.phases, h.fetched, h.cached, h.answers⟩

end Steps

end Shared

/-- In every interleaving of any number of threads, whatever their clocks show and whenever the
configs change: the number is refreshed once in a minute at most, each refresh reads the configs
once, and every answer is a number that a refresh has read, or none. So an SDK logs secondary
exposures as primary ones only after a refresh has read a number above its bucket. -/
theorem refreshes_are_a_minute_apart {threads : Nat} {labels : List Step} {s : Shared}
    (h : run Shared.step (.start threads) labels = some s) :
    s.Sound ∧ ∀ answer ∈ s.answers, ∀ bucket, should_log_as_primary (some bucket) answer →
      ∃ number, some number ∈ s.fetched ∧ bucket < number := by
  have hsound : s.Sound :=
    run_invariant (fun _ _ _ hs hstep => Shared.step_sound hs hstep) (Shared.start_sound threads) h
  refine ⟨hsound, fun answer hanswer bucket hprimary => ?_⟩
  rcases hsound.answers answer hanswer with rfl | hfetched
  · cases hprimary
  · cases answer with
    | none => cases hprimary
    | some number => exact ⟨number, hfetched, of_decide_eq_true hprimary⟩

/-- Two threads find that a refresh is due, and one of them makes it. The other answers with what
is there before. -/
def two_threads : List Step :=
  [.configure [(SEC_EXPO_NUMBER_SDK_CONFIG, .from_number 500)], .clock 0 7, .clock 1 8, .load 0,
    .load 1, .exchange 1, .exchange 0, .read 0, .fetch 1 false, .store 1]

theorem one_of_two_refreshes :
    ∃ s, run Shared.step (.start 2) two_threads = some s ∧ s.Sound ∧ s.refreshes = [8] ∧
      s.answers = [some 500, none] := by
  have hrun : ∃ s, run Shared.step (.start 2) two_threads = some s ∧ s.refreshes = [8] ∧
      s.answers = [some 500, none] := ⟨_, rfl, rfl, by decide⟩
  obtain ⟨s, hs, hrefreshes, hanswers⟩ := hrun
  exact ⟨s, hs, (refreshes_are_a_minute_apart hs).1, hrefreshes, hanswers⟩

end statsig_rust.event_logging.sec_expo
