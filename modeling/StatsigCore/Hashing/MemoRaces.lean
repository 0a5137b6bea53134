-- Threads that call `compute_hash_for_key` at once, one atomic step at a time: the read of a
-- bucket, the load and the swap of the counter, the clear of the map, and the update of an entry
-- together with its addition to the counter.
import StatsigCore.Hashing.MemoSha256
import StatsigCore.Library.Machine
import StatsigCore.Library.Threads

open machine

namespace statsig_rust.hashing.memo_sha_256

/-- Where a thread is in its call. -/
inductive Phase where
  | Idle
  /-- No entry was found, and the counter is to be loaded. -/
  | Missed (key : EvaluationHashKeyRef)
  /-- The counter was over the limit, and is to be swapped. -/
  | Crowded (key : EvaluationHashKeyRef)
  /-- The swap returned a count over the limit, and the map is to be cleared. -/
  | Elected (key : EvaluationHashKeyRef)
  /-- The hash is to be computed and pushed. -/
  | Hashing (key : EvaluationHashKeyRef)
deriving DecidableEq

/-- The thread is past the check of the limit, and has an entry to add. -/
def Phase.adds : Phase → Bool
  | Elected _ | Hashing _ => true
  | _ => false

/-- The thread is to clear the map. -/
def Phase.clears : Phase → Bool
  | Elected _ => true
  | _ => false

/-- The thread has missed, and is not past the check yet. -/
def Phase.waits : Phase → Bool
  | Missed _ | Crowded _ => true
  | _ => false

/-- The memo, its threads and what they have returned so far. -/
structure SharedMemo where
  memo : MemoSha256 := .new
  threads : List Phase
  returned : List (EvaluationHashKeyRef × Option UInt64) := []

inductive MemoStep where
  | get (i : Nat) (key : EvaluationHashKeyRef)
  | load (i : Nat)
  | swap (i : Nat)
  | clear (i : Nat)
  | push (i : Nat)

namespace SharedMemo

def start (threads : Nat) : SharedMemo := { threads := List.replicate threads .Idle }

def goto (s : SharedMemo) (i : Nat) (phase : Phase) : SharedMemo :=
  { s with threads := s.threads.set i phase }

/-- A call returns. -/
def answer (s : SharedMemo) (i : Nat) (key : EvaluationHashKeyRef) (hash : Option UInt64) :
    SharedMemo :=
  { s with threads := s.threads.set i .Idle, returned := (key, hash) :: s.returned }

def with_memo (s : SharedMemo) (memo : MemoSha256) : SharedMemo := { s with memo }

/-- How many entries the map holds. -/
def cached (s : SharedMemo) : Nat := chained_table.total s.memo.user_hash_cache

/-- No call is under way. -/
def Quiescent (s : SharedMemo) : Prop := ∀ phase ∈ s.threads, phase = .Idle

section step

variable (sha256 : List UInt8 → Output) (fast_hash : EvaluationHashKeyRef → UInt64)

/-- `none` when the thread is not where the step begins. -/
def step (s : SharedMemo) : MemoStep → Option SharedMemo
  | .get i key =>
    match s.threads[i]? with
    | some .Idle =>
      match s.memo.get (fast_hash key) key with
      | some value => some (s.answer i key (some value))
      | none => some (s.goto i (.Missed key))
    | _ => none
  | .load i =>
    match s.threads[i]? with
    | some (.Missed key) =>
      if s.memo.user_hash_cache_entries > MAX_CACHE_ENTRIES then some (s.goto i (.Crowded key))
      else some (s.goto i (.Hashing key))
    | _ => none
  | .swap i =>
    match s.threads[i]? with
    | some (.Crowded key) =>
      let swapped := s.memo.swap_zero
      if swapped.1 > MAX_CACHE_ENTRIES then some ((s.with_memo swapped.2).goto i (.Elected key))
      else some ((s.with_memo swapped.2).goto i (.Hashing key))
    | _ => none
  | .clear i =>
    match s.threads[i]? with
    | some (.Elected key) => some ((s.with_memo s.memo.clear).goto i (.Hashing key))
    | _ => none
  | .push i =>
    match s.threads[i]? with
    | some (.Hashing key) =>
      match u_bytes (compute_bytes_for_key sha256 key) with
      | some value =>
        some ((s.with_memo (s.memo.push (fast_hash key) key value)).answer i key (some value))
      | none => some (s.answer i key none)
    | _ => none

end step

variable {sha256 : List UInt8 → Output} {fast_hash : EvaluationHashKeyRef → UInt64}
  {s s' : SharedMemo}

/-! ## What a step can do -/

theorem get_cases {i : Nat} {key : EvaluationHashKeyRef}
    (h : step sha256 fast_hash s (.get i key) = some s') :
    s.threads[i]? = some .Idle ∧
      ((∃ value, s.memo.get (fast_hash key) key = some value ∧
          s' = s.answer i key (some value)) ∨
        (s.memo.get (fast_hash key) key = none ∧ s' = s.goto i (.Missed key))) := by
  simp only [step] at h
  split at h
  · next hi =>
    refine ⟨hi, ?_⟩
    cases hget : s.memo.get (fast_hash key) key with
    | some value =>
      rw [hget] at h
      exact .inl ⟨value, rfl, (Option.some.inj h).symm⟩
    | none =>
      rw [hget] at h
      exact .inr ⟨rfl, (Option.some.inj h).symm⟩
  · cases h

theorem load_cases {i : Nat} (h : step sha256 fast_hash s (.load i) = some s') :
    ∃ key, s.threads[i]? = some (.Missed key) ∧
      ((s.memo.user_hash_cache_entries > MAX_CACHE_ENTRIES ∧ s' = s.goto i (.Crowded key)) ∨
        (s.memo.user_hash_cache_entries ≤ MAX_CACHE_ENTRIES ∧
          s' = s.goto i (.Hashing key))) := by
  simp only [step] at h
  split at h
  · next key hi =>
    refine ⟨key, hi, ?_⟩
    by_cases hover : s.memo.user_hash_cache_entries > MAX_CACHE_ENTRIES
    · rw [if_pos hover] at h
      exact .inl ⟨hover, (Option.some.inj h).symm⟩
    · rw [if_neg hover] at h
      exact .inr ⟨by omega, (Option.some.inj h).symm⟩
  · cases h

theorem swap_cases {i : Nat} (h : step sha256 fast_hash s (.swap i) = some s') :
    ∃ key, s.threads[i]? = some (.Crowded key) ∧
      ((s.memo.user_hash_cache_entries > MAX_CACHE_ENTRIES ∧
          s' = (s.with_memo s.memo.swap_zero.2).goto i (.Elected key)) ∨
        (s.memo.user_hash_cache_entries ≤ MAX_CACHE_ENTRIES ∧
          s' = (s.with_memo s.memo.swap_zero.2).goto i (.Hashing key))) := by
  simp only [step] at h
  split at h
  · next key hi =>
    refine ⟨key, hi, ?_⟩
    by_cases hover : s.memo.user_hash_cache_entries > MAX_CACHE_ENTRIES
    · have hswapped : s.memo.swap_zero.1 > MAX_CACHE_ENTRIES := hover
      rw [if_pos hswapped] at h
      exact .inl ⟨hover, (Option.some.inj h).symm⟩
    · have hswapped : ¬ s.memo.swap_zero.1 > MAX_CACHE_ENTRIES := hover
      rw [if_neg hswapped] at h
      exact .inr ⟨by omega, (Option.some.inj h).symm⟩
  · cases h

theorem clear_cases {i : Nat} (h : step sha256 fast_hash s (.clear i) = some s') :
    ∃ key, s.threads[i]? = some (.Elected key) ∧
      s' = (s.with_memo s.memo.clear).goto i (.Hashing key) := by
  simp only [step] at h
  split at h
  · next key hi => exact ⟨key, hi, (Option.some.inj h).symm⟩
  · cases h

theorem push_cases {i : Nat} (h : step sha256 fast_hash s (.push i) = some s') :
    ∃ key, s.threads[i]? = some (.Hashing key) ∧
      s' = (s.with_memo
        (s.memo.push (fast_hash key) key (uncached sha256 key.to_owned_key))).answer i key
          (some (uncached sha256 key.to_owned_key)) := by
  simp only [step] at h
  split at h
  · next key hi =>
    rw [u_bytes_eq, compute_bytes_eq] at h
    exact ⟨key, hi, (Option.some.inj h).symm⟩
  · cases h

/-! ## Steps that can be taken -/

@[simp] theorem goto_phase {i : Nat} {phase : Phase} (hi : s.threads[i]? = some phase)
    (next : Phase) : (s.goto i next).threads[i]? = some next := by
  obtain ⟨hlt, -⟩ := List.getElem?_eq_some_iff.mp hi
  simp [goto, hlt]

theorem get_misses {i : Nat} {key : EvaluationHashKeyRef} (hi : s.threads[i]? = some .Idle)
    (hget : s.memo.get (fast_hash key) key = none) :
    step sha256 fast_hash s (.get i key) = some (s.goto i (.Missed key)) := by
  simp [step, hi, hget]

theorem load_over {i : Nat} {key : EvaluationHashKeyRef} (hi : s.threads[i]? = some (.Missed key))
    (hover : s.memo.user_hash_cache_entries > MAX_CACHE_ENTRIES) :
    step sha256 fast_hash s (.load i) = some (s.goto i (.Crowded key)) := by
  simp [step, hi, hover]

theorem load_within {i : Nat} {key : EvaluationHashKeyRef}
    (hi : s.threads[i]? = some (.Missed key))
    (hwithin : s.memo.user_hash_cache_entries ≤ MAX_CACHE_ENTRIES) :
    step sha256 fast_hash s (.load i) = some (s.goto i (.Hashing key)) := by
  have hover : ¬ s.memo.user_hash_cache_entries > MAX_CACHE_ENTRIES := by omega
  simp [step, hi, hover]

theorem swap_over {i : Nat} {key : EvaluationHashKeyRef}
    (hi : s.threads[i]? = some (.Crowded key))
    (hover : s.memo.user_hash_cache_entries > MAX_CACHE_ENTRIES) :
    step sha256 fast_hash s (.swap i) =
      some ((s.with_memo s.memo.swap_zero.2).goto i (.Elected key)) := by
  have hswapped : s.memo.swap_zero.1 > MAX_CACHE_ENTRIES := hover
  simp [step, hi, hswapped]

theorem swap_within {i : Nat} {key : EvaluationHashKeyRef}
    (hi : s.threads[i]? = some (.Crowded key))
    (hwithin : s.memo.user_hash_cache_entries ≤ MAX_CACHE_ENTRIES) :
    step sha256 fast_hash s (.swap i) =
      some ((s.with_memo s.memo.swap_zero.2).goto i (.Hashing key)) := by
  have hswapped : ¬ s.memo.swap_zero.1 > MAX_CACHE_ENTRIES := by
    show ¬ s.memo.user_hash_cache_entries > MAX_CACHE_ENTRIES
    omega
  simp [step, hi, hswapped]

theorem clear_elected {i : Nat} {key : EvaluationHashKeyRef}
    (hi : s.threads[i]? = some (.Elected key)) :
    step sha256 fast_hash s (.clear i) =
      some ((s.with_memo s.memo.clear).goto i (.Hashing key)) := by
  simp [step, hi]

theorem push_hashed {i : Nat} {key : EvaluationHashKeyRef}
    (hi : s.threads[i]? = some (.Hashing key)) :
    step sha256 fast_hash s (.push i) =
      some ((s.with_memo
        (s.memo.push (fast_hash key) key (uncached sha256 key.to_owned_key))).answer i key
          (some (uncached sha256 key.to_owned_key))) := by
  have hvalue : u_bytes (compute_bytes_for_key sha256 key) =
      some (uncached sha256 key.to_owned_key) := by
    rw [u_bytes_eq, compute_bytes_eq]
    rfl
  simp [step, hi, hvalue]

/-- A miss within the limit, with no other call in between. -/
theorem miss_alone {i : Nat} {key : EvaluationHashKeyRef} (hi : s.threads[i]? = some .Idle)
    (hget : s.memo.get (fast_hash key) key = none)
    (hwithin : s.memo.user_hash_cache_entries ≤ MAX_CACHE_ENTRIES) :
    run (step sha256 fast_hash) s [.get i key, .load i, .push i] =
      some ((s.with_memo
        (s.memo.push (fast_hash key) key (uncached sha256 key.to_owned_key))).answer i key
          (some (uncached sha256 key.to_owned_key))) := by
  have hmissed := goto_phase hi (.Missed key)
  have hhashing := goto_phase hmissed (.Hashing key)
  refine run_cons_eq_some.mpr ⟨_, get_misses hi hget, ?_⟩
  refine run_cons_eq_some.mpr ⟨_, load_within hmissed hwithin, ?_⟩
  refine run_cons_eq_some.mpr ⟨_, push_hashed hhashing, ?_⟩
  simp [answer, goto, with_memo, List.set_set]

/-- A call that no other call comes into does what `compute_hash_for_key` does. -/
theorem compute_hash_for_key_is_a_run (sha256 : List UInt8 → Output)
    (fast_hash : EvaluationHashKeyRef → UInt64) {i : Nat} (hi : s.threads[i]? = some .Idle)
    (key : EvaluationHashKeyRef) :
    ∃ labels, run (step sha256 fast_hash) s labels =
      some ((s.with_memo (s.memo.compute_hash_for_key sha256 fast_hash key).2).answer i key
        (s.memo.compute_hash_for_key sha256 fast_hash key).1) := by
  have hvalue : u_bytes (compute_bytes_for_key sha256 key) =
      some (uncached sha256 key.to_owned_key) := by
    rw [u_bytes_eq, compute_bytes_eq]
    rfl
  unfold MemoSha256.compute_hash_for_key
  cases hget : s.memo.get (fast_hash key) key with
  | some value =>
    refine ⟨[.get i key], ?_⟩
    simp [run, step, hi, hget]
    rfl
  | none =>
    have hmissed := goto_phase hi (.Missed key)
    dsimp only
    rw [hvalue]
    by_cases hover : s.memo.user_hash_cache_entries > MAX_CACHE_ENTRIES
    · have hcrowded := goto_phase hmissed (.Crowded key)
      have helected := goto_phase hcrowded (.Elected key)
      have hhashing := goto_phase helected (.Hashing key)
      have hswapped : s.memo.swap_zero.1 > MAX_CACHE_ENTRIES := hover
      refine ⟨[.get i key, .load i, .swap i, .clear i, .push i], ?_⟩
      refine run_cons_eq_some.mpr ⟨_, get_misses hi hget, ?_⟩
      refine run_cons_eq_some.mpr ⟨_, load_over hmissed hover, ?_⟩
      refine run_cons_eq_some.mpr ⟨_, swap_over hcrowded hover, ?_⟩
      refine run_cons_eq_some.mpr ⟨_, clear_elected helected, ?_⟩
      refine run_cons_eq_some.mpr ⟨_, push_hashed hhashing, ?_⟩
      rw [if_pos hover, if_pos hswapped]
      simp [answer, goto, with_memo, List.set_set]
    · refine ⟨[.get i key, .load i, .push i], ?_⟩
      rw [miss_alone hi hget (by omega), if_neg hover]

/-! ## What holds in every interleaving -/

/-- The memo is consistent, what was returned is right, and the counter has room for those that
are past the check. -/
structure Sound (sha256 : List UInt8 → Output) (n : Nat) (s : SharedMemo) : Prop where
  threads : s.threads.length = n
  consistent : s.memo.Consistent sha256
  returned : ∀ r ∈ s.returned, r.2 = some (uncached sha256 r.1.to_owned_key)
  room : s.memo.user_hash_cache_entries + s.threads.countP Phase.adds ≤ MAX_CACHE_ENTRIES + n

variable {n : Nat}

theorem start_sound : (start n).Sound sha256 n := by
  refine ⟨List.length_replicate, MemoSha256.new_consistent, by simp [start], ?_⟩
  have hnone : (List.replicate n Phase.Idle).countP Phase.adds = 0 := by
    simp [List.countP_replicate, Phase.adds]
  show MemoSha256.new.user_hash_cache_entries + _ ≤ _
  rw [start, hnone]
  exact Nat.zero_le _

/-- A thread moves after it has worked on the memo. Either the counter is within the limit, or
the room that it takes was taken before. -/
theorem sound_goto (hs : s.Sound sha256 n) {i : Nat} {phase : Phase}
    (hi : s.threads[i]? = some phase) (next : Phase) {memo : MemoSha256}
    (hmemo : memo.Consistent sha256)
    (hroom : memo.user_hash_cache_entries ≤ MAX_CACHE_ENTRIES ∨
      memo.user_hash_cache_entries + next.adds.toNat ≤
        s.memo.user_hash_cache_entries + phase.adds.toNat) :
    ((s.with_memo memo).goto i next).Sound sha256 n := by
  have hlength : ((s.with_memo memo).goto i next).threads.length = n := by
    simp [goto, with_memo, hs.threads]
  refine ⟨hlength, hmemo, hs.returned, ?_⟩
  have hcount := @threads.count_set _ s.threads Phase.adds i phase hi next
  have hall := @List.countP_le_length _ Phase.adds (s.threads.set i next)
  rw [List.length_set, hs.threads] at hall
  have hold := hs.room
  show memo.user_hash_cache_entries + (s.threads.set i next).countP Phase.adds ≤ _
  rcases hroom with hroom | hroom <;> omega

theorem sound_return (hs : s.Sound sha256 n) {key : EvaluationHashKeyRef} {hash : Option UInt64}
    (hhash : hash = some (uncached sha256 key.to_owned_key)) :
    ({ s with returned := (key, hash) :: s.returned } : SharedMemo).Sound sha256 n := by
  refine ⟨hs.threads, hs.consistent, ?_, hs.room⟩
  intro r hr
  rcases List.mem_cons.mp hr with rfl | hr
  · exact hhash
  · exact hs.returned r hr

theorem step_sound (s : SharedMemo) (a : MemoStep) (s' : SharedMemo) (hs : s.Sound sha256 n)
    (h : step sha256 fast_hash s a = some s') : s'.Sound sha256 n := by
  cases a with
  | get i key =>
    obtain ⟨hi, ⟨value, hget, rfl⟩ | ⟨-, rfl⟩⟩ := get_cases h
    · have hmoved : (s.goto i .Idle).Sound sha256 n :=
        sound_goto hs hi _ hs.consistent (.inr (Nat.le_refl _))
      exact sound_return hmoved (congrArg some (MemoSha256.get_consistent hs.consistent hget))
    · exact sound_goto hs hi _ hs.consistent (.inr (Nat.le_refl _))
  | load i =>
    obtain ⟨key, hi, ⟨-, rfl⟩ | ⟨hwithin, rfl⟩⟩ := load_cases h
    · exact sound_goto hs hi _ hs.consistent (.inr (Nat.le_refl _))
    · exact sound_goto hs hi _ hs.consistent (.inl hwithin)
  | swap i =>
    have hzero : s.memo.swap_zero.2.user_hash_cache_entries ≤ MAX_CACHE_ENTRIES := Nat.zero_le _
    obtain ⟨key, hi, ⟨-, rfl⟩ | ⟨-, rfl⟩⟩ := swap_cases h
    · exact sound_goto hs hi _ (MemoSha256.swap_zero_consistent hs.consistent) (.inl hzero)
    · exact sound_goto hs hi _ (MemoSha256.swap_zero_consistent hs.consistent) (.inl hzero)
  | clear i =>
    obtain ⟨key, hi, rfl⟩ := clear_cases h
    exact sound_goto hs hi _ (MemoSha256.clear_consistent s.memo) (.inr (Nat.le_refl _))
  | push i =>
    obtain ⟨key, hi, rfl⟩ := push_cases h
    obtain ⟨added, hadded, hentries, -⟩ := MemoSha256.push_entries
      hs.consistent.unique.hashes (fast_hash key) key (uncached sha256 key.to_owned_key)
    refine sound_return (sound_goto hs hi .Idle
      (MemoSha256.push_consistent hs.consistent (fast_hash key) key) (.inr ?_)) rfl
    simp only [Phase.adds, Bool.toNat_true, Bool.toNat_false]
    omega

/-- Every call of every interleaving answers as the uncached hash, and no bucket ever holds a
key twice. -/
theorem every_run_is_sound {labels : List MemoStep}
    (hrun : run (step sha256 fast_hash) (start n) labels = some s) : s.Sound sha256 n :=
  run_invariant step_sound start_sound hrun

/-! ## The counter covers the entries -/

/-- The counter is at least the number of the entries, unless they are about to go. -/
def Covered (s : SharedMemo) : Prop :=
  (∃ phase ∈ s.threads, phase.clears = true) ∨ s.cached ≤ s.memo.user_hash_cache_entries

/-- What a swap may find: a count over the limit, which it clears for, or nothing that it could
lose. -/
def SwapsInTime (s : SharedMemo) : MemoStep → Prop
  | .swap _ =>
    s.memo.user_hash_cache_entries > MAX_CACHE_ENTRIES ∨ s.memo.user_hash_cache_entries = 0 ∨
      (∃ phase ∈ s.threads, phase.clears = true) ∨ s.cached = 0
  | _ => True

instance (s : SharedMemo) : Decidable s.Quiescent :=
  inferInstanceAs (Decidable (∀ phase ∈ s.threads, phase = .Idle))

instance (s : SharedMemo) : (a : MemoStep) → Decidable (s.SwapsInTime a)
  | .swap _ => inferInstanceAs (Decidable (_ ∨ _ ∨ (∃ phase ∈ s.threads, _) ∨ _))
  | .get _ _ => isTrue trivial
  | .load _ => isTrue trivial
  | .clear _ => isTrue trivial
  | .push _ => isTrue trivial

theorem start_covered : (start n).Covered := .inr (Nat.zero_le _)

/-- A thread that has nothing to clear moves on. -/
theorem covered_goto (hs : s.Covered) {i : Nat} {phase : Phase}
    (hi : s.threads[i]? = some phase) (next : Phase) (hphase : phase.clears = false)
    {memo : MemoSha256}
    (hmemo : s.cached ≤ s.memo.user_hash_cache_entries →
      chained_table.total memo.user_hash_cache ≤ memo.user_hash_cache_entries) :
    ((s.with_memo memo).goto i next).Covered := by
  rcases hs with hclears | hcovers
  · exact .inl (threads.remains_after_set hi hphase next hclears)
  · exact .inr (hmemo hcovers)

theorem step_covered (s : SharedMemo) (a : MemoStep) (s' : SharedMemo)
    (hs : s.Covered ∧ s.Sound sha256 n) (htime : s.SwapsInTime a)
    (h : step sha256 fast_hash s a = some s') : s'.Covered ∧ s'.Sound sha256 n := by
  obtain ⟨hs, hsound⟩ := hs
  refine ⟨?_, step_sound s a s' hsound h⟩
  cases a with
  | get i key =>
    obtain ⟨hi, ⟨value, -, rfl⟩ | ⟨-, rfl⟩⟩ := get_cases h
    · exact covered_goto hs hi .Idle rfl id
    · exact covered_goto hs hi _ rfl id
  | load i =>
    obtain ⟨key, hi, ⟨-, rfl⟩ | ⟨-, rfl⟩⟩ := load_cases h
    · exact covered_goto hs hi _ rfl id
    · exact covered_goto hs hi _ rfl id
  | swap i =>
    obtain ⟨key, hi, ⟨-, rfl⟩ | ⟨hwithin, rfl⟩⟩ := swap_cases h
    · exact .inl ⟨.Elected key, threads.mem_after_set hi _, rfl⟩
    · rcases htime with hover | hzero | hclears | hempty
      · omega
      · apply covered_goto hs hi _ rfl
        intro hcovers
        rw [hzero] at hcovers
        exact hcovers
      · exact .inl (threads.remains_after_set hi rfl (.Hashing key) hclears)
      · exact .inr (Nat.le_of_eq hempty)
  | clear i =>
    obtain ⟨key, hi, rfl⟩ := clear_cases h
    exact .inr (Nat.zero_le _)
  | push i =>
    obtain ⟨key, hi, rfl⟩ := push_cases h
    obtain ⟨added, -, hentries, htotal⟩ := MemoSha256.push_entries
      hsound.consistent.unique.hashes (fast_hash key) key (uncached sha256 key.to_owned_key)
    apply covered_goto hs hi .Idle rfl
    intro hcovers
    unfold cached at hcovers
    omega

theorem quiescent_count (hquiet : s.Quiescent) (p : Phase → Bool) (hp : p .Idle = false) :
    s.threads.countP p = 0 := by
  rw [List.countP_eq_zero]
  intro phase hphase
  rw [hquiet phase hphase, hp]
  simp

theorem counted_while_in_time {labels : List MemoStep}
    (hrun : run (step sha256 fast_hash) (start n) labels = some s)
    (htime : Along (step sha256 fast_hash) SwapsInTime (start n) labels)
    (hquiet : s.Quiescent) :
    s.cached ≤ s.memo.user_hash_cache_entries ∧ s.cached ≤ MAX_CACHE_ENTRIES + n := by
  obtain ⟨hcovered, hsound⟩ := run_invariant_along step_covered htime
    ⟨start_covered, start_sound⟩ hrun
  have hcovers : s.cached ≤ s.memo.user_hash_cache_entries := by
    rcases hcovered with ⟨phase, hphase, hclears⟩ | hcovers
    · rw [hquiet phase hphase] at hclears
      cases hclears
    · exact hcovers
  have hroom := hsound.room
  rw [quiescent_count hquiet Phase.adds rfl] at hroom
  exact ⟨hcovers, by omega⟩

/-! ## Every late swap does harm -/

/-- The counter was set to zero while there are entries, and nobody is to clear them. -/
structure Lost (s : SharedMemo) : Prop where
  zero : s.memo.user_hash_cache_entries = 0
  entries : 0 < s.cached
  kept : ∀ phase ∈ s.threads, phase.clears = false

/-- A thread that waits comes past the check. -/
theorem lost_step (hs : s.Sound sha256 n) (hlost : s.Lost) {phase : Phase}
    (hphase : phase ∈ s.threads) (hwaits : phase.waits = true) :
    ∃ a t, step sha256 fast_hash s a = some t ∧ s.SwapsInTime a ∧ t.Sound sha256 n ∧ t.Lost ∧
      t.threads.countP Phase.waits + 1 = s.threads.countP Phase.waits := by
  obtain ⟨i, hi⟩ := List.getElem?_of_mem hphase
  have hwithin : s.memo.user_hash_cache_entries ≤ MAX_CACHE_ENTRIES := by
    rw [hlost.zero]
    exact Nat.zero_le _
  have hmoves (key : EvaluationHashKeyRef) :
      (∀ other ∈ s.threads.set i (.Hashing key), other.clears = false) ∧
        (s.threads.set i (.Hashing key)).countP Phase.waits + 1 =
          s.threads.countP Phase.waits := by
    constructor
    · intro other hother
      rcases List.mem_or_eq_of_mem_set hother with hold | rfl
      · exact hlost.kept other hold
      · rfl
    · have hcount := @threads.count_set _ s.threads Phase.waits i phase hi (.Hashing key)
      rw [hwaits] at hcount
      exact hcount
  cases phase with
  | Missed key =>
    have hstep := @load_within sha256 fast_hash s i key hi hwithin
    exact ⟨.load i, _, hstep, trivial, step_sound s _ _ hs hstep,
      ⟨hlost.zero, hlost.entries, (hmoves key).1⟩, (hmoves key).2⟩
  | Crowded key =>
    have hstep := @swap_within sha256 fast_hash s i key hi hwithin
    exact ⟨.swap i, _, hstep, .inr (.inl hlost.zero), step_sound s _ _ hs hstep,
      ⟨rfl, hlost.entries, (hmoves key).1⟩, (hmoves key).2⟩
  | Idle => cases hwaits
  | Elected key => cases hwaits
  | Hashing key => cases hwaits

/-- All that wait come past the check. -/
theorem lost_settles (hs : s.Sound sha256 n) (hlost : s.Lost) :
    ∃ labels t, run (step sha256 fast_hash) s labels = some t ∧
      Along (step sha256 fast_hash) SwapsInTime s labels ∧ t.Sound sha256 n ∧ t.Lost ∧
      t.threads.countP Phase.waits = 0 := by
  induction hcount : s.threads.countP Phase.waits generalizing s with
  | zero => exact ⟨[], s, rfl, trivial, hs, hlost, hcount⟩
  | succ count ih =>
    obtain ⟨phase, hphase, hwaits⟩ :=
      List.countP_pos_iff.mp (show 0 < s.threads.countP Phase.waits by omega)
    obtain ⟨a, mid, hstep, htime, hmid, hlost', hless⟩ :=
      @lost_step sha256 fast_hash s n hs hlost phase hphase hwaits
    obtain ⟨labels, t, hrun, halong, ht⟩ := ih hmid hlost' (by omega)
    refine ⟨a :: labels, t, run_cons_eq_some.mpr ⟨mid, hstep, hrun⟩, ⟨htime, ?_⟩, ht⟩
    intro s' hs'
    cases hstep.symm.trans hs'
    exact halong

/-- Only pushes are left, and they keep the counter behind. -/
theorem pushes_finish (hs : s.Sound sha256 n)
    (hbehind : s.memo.user_hash_cache_entries < s.cached)
    (hphases : ∀ phase ∈ s.threads, phase.waits = false ∧ phase.clears = false) :
    ∃ labels t, run (step sha256 fast_hash) s labels = some t ∧
      Along (step sha256 fast_hash) SwapsInTime s labels ∧ t.Quiescent ∧
      t.memo.user_hash_cache_entries < t.cached := by
  induction hcount : s.threads.countP Phase.adds generalizing s with
  | zero =>
    refine ⟨[], s, rfl, trivial, ?_, hbehind⟩
    intro phase hphase
    have hadds := List.countP_eq_zero.mp hcount phase hphase
    have hwaits := (hphases phase hphase).1
    cases phase with
    | Idle => rfl
    | Missed key => cases hwaits
    | Crowded key => cases hwaits
    | Elected key => exact absurd rfl hadds
    | Hashing key => exact absurd rfl hadds
  | succ count ih =>
    obtain ⟨phase, hphase, hadds⟩ :=
      List.countP_pos_iff.mp (show 0 < s.threads.countP Phase.adds by omega)
    obtain ⟨i, hi⟩ := List.getElem?_of_mem hphase
    have hclears := (hphases phase hphase).2
    cases phase with
    | Idle => cases hadds
    | Missed key => cases hadds
    | Crowded key => cases hadds
    | Elected key => cases hclears
    | Hashing key =>
      have hstep := @push_hashed sha256 fast_hash s i key hi
      obtain ⟨added, -, hentries, htotal⟩ := MemoSha256.push_entries
        hs.consistent.unique.hashes (fast_hash key) key (uncached sha256 key.to_owned_key)
      have hless := @threads.count_set _ s.threads Phase.adds i _ hi .Idle
      simp only [Phase.adds, Bool.toNat_true, Bool.toNat_false] at hless
      unfold cached at hbehind
      obtain ⟨labels, t, hrun, halong, ht⟩ := ih (step_sound s _ _ hs hstep)
        (by
          show (s.memo.push _ key _).user_hash_cache_entries <
            chained_table.total (s.memo.push _ key _).user_hash_cache
          omega)
        (by
          intro other hother
          rcases List.mem_or_eq_of_mem_set hother with hold | rfl
          · exact hphases other hold
          · exact ⟨rfl, rfl⟩)
        (by
          show (s.threads.set i .Idle).countP Phase.adds = count
          omega)
      refine ⟨.push i :: labels, t, run_cons_eq_some.mpr ⟨_, hstep, hrun⟩, ⟨trivial, ?_⟩, ht⟩
      intro s' hs'
      cases hstep.symm.trans hs'
      exact halong

/-- After a swap that was not in time the calls that are under way can finish, with no further
one, so that the counter is behind the entries. -/
theorem untimely_swap_uncounts (hs : s.Sound sha256 n) {i : Nat}
    (hstep : step sha256 fast_hash s (.swap i) = some s') (hlate : ¬ s.SwapsInTime (.swap i)) :
    ∃ labels t, run (step sha256 fast_hash) s' labels = some t ∧
      Along (step sha256 fast_hash) SwapsInTime s' labels ∧ t.Quiescent ∧
      t.memo.user_hash_cache_entries < t.cached := by
  simp only [SwapsInTime, not_or] at hlate
  obtain ⟨hwithin, -, hnobody, hentries⟩ := hlate
  have hsound := step_sound s _ s' hs hstep
  obtain ⟨key, hi, ⟨hover, -⟩ | ⟨-, rfl⟩⟩ := swap_cases hstep
  · exact absurd hover hwithin
  · have hlost : ((s.with_memo s.memo.swap_zero.2).goto i (.Hashing key)).Lost := by
      refine ⟨rfl, Nat.pos_of_ne_zero hentries, ?_⟩
      intro phase hphase
      rcases List.mem_or_eq_of_mem_set hphase with hold | rfl
      · by_contra hclears
        exact hnobody ⟨phase, hold, by simpa using hclears⟩
      · rfl
    obtain ⟨waiting, mid, hrun, halong, hmid, hlost', hnone⟩ :=
      @lost_settles sha256 fast_hash _ n hsound hlost
    obtain ⟨pushes, t, hrun', halong', ht⟩ :=
      @pushes_finish sha256 fast_hash mid n hmid (by rw [hlost'.zero]; exact hlost'.entries)
        (fun phase hphase => ⟨by simpa using List.countP_eq_zero.mp hnone phase hphase,
          hlost'.kept phase hphase⟩)
    refine ⟨waiting ++ pushes, t, ?_, along_append halong ?_, ht⟩
    · rw [run_append, hrun, Option.bind_some, hrun']
    · intro s' hs'
      cases hrun.symm.trans hs'
      exact halong'

/-- While every swap is in time, the counter is at least the number of the entries whenever no
call is under way, and the map holds no more of them than its limit and one for each thread.
After any other swap the calls that are under way can finish so that it does not. -/
theorem entries_stay_counted (sha256 : List UInt8 → Output)
    (fast_hash : EvaluationHashKeyRef → UInt64) (n : Nat) (labels : List MemoStep)
    (s : SharedMemo) (hrun : run (step sha256 fast_hash) (start n) labels = some s) :
    (Along (step sha256 fast_hash) SwapsInTime (start n) labels → s.Quiescent →
        s.cached ≤ s.memo.user_hash_cache_entries ∧ s.cached ≤ MAX_CACHE_ENTRIES + n) ∧
      ∀ i s', step sha256 fast_hash s (.swap i) = some s' → ¬ s.SwapsInTime (.swap i) →
        ∃ rest t, run (step sha256 fast_hash) s' rest = some t ∧
          Along (step sha256 fast_hash) SwapsInTime s' rest ∧ t.Quiescent ∧
          ¬ t.cached ≤ t.memo.user_hash_cache_entries := by
  refine ⟨fun htime hquiet => counted_while_in_time hrun htime hquiet, ?_⟩
  intro i s' hstep hlate
  obtain ⟨rest, t, hrest, htime, hquiet, hbehind⟩ :=
    untimely_swap_uncounts (every_run_is_sound hrun) hstep hlate
  exact ⟨rest, t, hrest, htime, hquiet, by omega⟩

/-- Two threads that race for one key add it once. -/
theorem two_calls_stay_counted :
    ∃ s, run (step (fun _ => Vector.replicate 32 0) fun _ => 0) (start 2)
        [.get 0 (.Raw "a"), .get 1 (.Raw "a"), .load 0, .load 1, .push 0, .push 1] = some s ∧
      s.cached ≤ s.memo.user_hash_cache_entries ∧ s.cached ≤ MAX_CACHE_ENTRIES + 2 :=
  ⟨_, rfl, (entries_stay_counted (fun _ => Vector.replicate 32 0) (fun _ => 0) 2
    [.get 0 (.Raw "a"), .get 1 (.Raw "a"), .load 0, .load 1, .push 0, .push 1] _ rfl).1
    (by decide) (by decide)⟩

/-! ## A swap that comes late -/

/-- The first key of each length. -/
def filler (m : Nat) : EvaluationHashKeyRef := .Raw (String.ofList (List.replicate m 'a'))

theorem filler_injective {m m' : Nat} (h : filler m = filler m') : m = m' := by
  unfold filler at h
  rw [EvaluationHashKeyRef.Raw.injEq, String.ofList_inj] at h
  have hlength := congrArg List.length h
  simpa using hlength

/-- One thread calls for the first `m` fillers. -/
def fill_labels : Nat → List MemoStep
  | 0 => []
  | m + 1 => fill_labels m ++ [.get 0 (filler m), .load 0, .push 0]

/-- Two threads, no call under way, and the first `m` fillers in the map. -/
structure Filled (sha256 : List UInt8 → Output) (m : Nat) (s : SharedMemo) : Prop where
  sound : s.Sound sha256 2
  threads : s.threads = [.Idle, .Idle]
  counted : s.memo.user_hash_cache_entries = m ∧ s.cached = m
  fillers : chained_table.Each (fun entry => ∃ j < m, entry.1 = (filler j).to_owned_key)
    s.memo.user_hash_cache

theorem Filled.misses {m : Nat} (h : s.Filled sha256 m) {key : EvaluationHashKeyRef}
    (hkey : ∀ j < m, (filler j).to_owned_key ≠ key.to_owned_key) (fast_hash : UInt64) :
    s.memo.get fast_hash key = none := by
  apply MemoSha256.get_eq_none_of_each
  intro e he entry hentry
  obtain ⟨j, hj, heq⟩ := h.fillers e he entry hentry
  rw [heq]
  exact hkey j hj

theorem to_owned_key_injective {a b : EvaluationHashKeyRef}
    (h : a.to_owned_key = b.to_owned_key) : a = b := by
  cases a <;> cases b <;> simp_all [EvaluationHashKeyRef.to_owned_key]

theorem fill_filled (sha256 : List UInt8 → Output) (fast_hash : EvaluationHashKeyRef → UInt64)
    {m : Nat} (hm : m ≤ MAX_CACHE_ENTRIES + 1) :
    ∃ s, run (step sha256 fast_hash) (start 2) (fill_labels m) = some s ∧ s.Filled sha256 m := by
  induction m with
  | zero =>
    refine ⟨start 2, rfl, start_sound, rfl, ⟨rfl, rfl⟩, chained_table.each_nil _⟩
  | succ m ih =>
    obtain ⟨s, hrun, hs⟩ := ih (by omega)
    have hi : s.threads[0]? = some .Idle := by simp [hs.threads]
    have hget : s.memo.get (fast_hash (filler m)) (filler m) = none := by
      apply hs.misses
      intro j hj heq
      have := filler_injective (to_owned_key_injective heq)
      omega
    have hwithin : s.memo.user_hash_cache_entries ≤ MAX_CACHE_ENTRIES := by
      have := hs.counted.1
      omega
    have hall := @run_append _ _ (step sha256 fast_hash) (start 2) (fill_labels m)
      [.get 0 (filler m), .load 0, .push 0]
    rw [hrun, Option.bind_some, @miss_alone sha256 fast_hash s 0 _ hi hget hwithin] at hall
    have hnew := MemoSha256.push_new hs.sound.consistent.unique.hashes hget
      (uncached sha256 (filler m).to_owned_key)
    refine ⟨_, hall, every_run_is_sound hall, ?_, ⟨?_, ?_⟩, ?_⟩
    · simp [answer, with_memo, hs.threads]
    · exact hnew.1.trans (congrArg (· + 1) hs.counted.1)
    · exact hnew.2.trans (congrArg (· + 1) hs.counted.2)
    · apply MemoSha256.push_each
      · intro e he entry hentry
        obtain ⟨j, hj, heq⟩ := hs.fillers e he entry hentry
        exact ⟨j, by omega, heq⟩
      · exact ⟨m, by omega, rfl⟩

/-- Both threads find the counter over its limit. The first one clears the map and pushes its
entry before the second one swaps. -/
def late_labels (a b : EvaluationHashKeyRef) : List MemoStep :=
  [.get 0 a, .get 1 b, .load 0, .load 1, .swap 0, .clear 0, .push 0, .swap 1, .push 1]

theorem late_swap_uncounts (hthreads : s.threads = [.Idle, .Idle])
    (hover : s.memo.user_hash_cache_entries > MAX_CACHE_ENTRIES) {a b : EvaluationHashKeyRef}
    (ha : s.memo.get (fast_hash a) a = none) (hb : s.memo.get (fast_hash b) b = none)
    (hne : a ≠ b) :
    ∃ s', run (step sha256 fast_hash) s (late_labels a b) = some s' ∧ s'.Quiescent ∧
      s'.memo.user_hash_cache_entries = 1 ∧ s'.cached = 2 := by
  obtain ⟨memo, _, returned⟩ := s
  cases hthreads
  have hfirst := MemoSha256.push_new (@MemoSha256.new_consistent sha256).unique.hashes
    (show MemoSha256.new.get (fast_hash a) a = none from rfl) (uncached sha256 a.to_owned_key)
  have hone := MemoSha256.push_consistent (@MemoSha256.new_consistent sha256) (fast_hash a) a
  have hmiss : (MemoSha256.new.push (fast_hash a) a
      (uncached sha256 a.to_owned_key)).swap_zero.2.get (fast_hash b) b = none := by
    have heach : chained_table.Each (fun entry => entry.1 ≠ b.to_owned_key)
        (MemoSha256.new.push (fast_hash a) a (uncached sha256 a.to_owned_key)).user_hash_cache :=
      MemoSha256.push_each (chained_table.each_nil _) (fast_hash a)
        (fun heq => hne (to_owned_key_injective heq))
    exact MemoSha256.get_eq_none_of_each heach (fast_hash b)
  have hsecond := MemoSha256.push_new (MemoSha256.swap_zero_consistent hone).unique.hashes hmiss
    (uncached sha256 b.to_owned_key)
  have hwithin : (MemoSha256.new.push (fast_hash a) a
      (uncached sha256 a.to_owned_key)).user_hash_cache_entries ≤ MAX_CACHE_ENTRIES := by
    rw [hfirst.1]
    decide
  refine ⟨{ memo := (MemoSha256.new.push (fast_hash a) a
              (uncached sha256 a.to_owned_key)).swap_zero.2.push (fast_hash b) b
              (uncached sha256 b.to_owned_key)
            threads := [.Idle, .Idle]
            returned := (b, some (uncached sha256 b.to_owned_key)) ::
              (a, some (uncached sha256 a.to_owned_key)) :: returned }, ?_, ?_, hsecond.1, ?_⟩
  · refine run_cons_eq_some.mpr ⟨_, get_misses rfl ha, ?_⟩
    refine run_cons_eq_some.mpr ⟨_, get_misses rfl hb, ?_⟩
    refine run_cons_eq_some.mpr ⟨_, load_over rfl hover, ?_⟩
    refine run_cons_eq_some.mpr ⟨_, load_over rfl hover, ?_⟩
    refine run_cons_eq_some.mpr ⟨_, swap_over rfl hover, ?_⟩
    refine run_cons_eq_some.mpr ⟨_, clear_elected rfl, ?_⟩
    refine run_cons_eq_some.mpr ⟨_, push_hashed rfl, ?_⟩
    refine run_cons_eq_some.mpr ⟨_, swap_within rfl hwithin, ?_⟩
    exact run_cons_eq_some.mpr ⟨_, push_hashed rfl, rfl⟩
  · simp [Quiescent]
  · exact hsecond.2.trans (congrArg (· + 1) hfirst.2)

/-- With a full map the late swap of a second thread loses the entry of the first one: no call is
under way, and the counter is behind. -/
theorem late_swap_is_not_counted :
    ∃ s, run (step (fun _ => Vector.replicate 32 0) fun _ => 0) (start 2)
        (fill_labels (MAX_CACHE_ENTRIES + 1) ++ late_labels (.Dot2 "a" "b") (.Dot2 "a" "c")) =
          some s ∧
      s.Quiescent ∧ ¬ s.cached ≤ s.memo.user_hash_cache_entries := by
  obtain ⟨s, hrun, hs⟩ := fill_filled (fun _ => Vector.replicate 32 0) (fun _ => 0)
    (Nat.le_refl (MAX_CACHE_ENTRIES + 1))
  have hmisses (b : String) : s.memo.get 0 (.Dot2 "a" b) = none := by
    apply hs.misses
    intro j hj heq
    cases heq
  have hover : s.memo.user_hash_cache_entries > MAX_CACHE_ENTRIES := by
    rw [hs.counted.1]
    exact Nat.lt_succ_self _
  obtain ⟨s', hlate, hquiet, hentries, hcached⟩ :=
    @late_swap_uncounts (fun _ => Vector.replicate 32 0) (fun _ => 0) s hs.threads hover
      (.Dot2 "a" "b") (.Dot2 "a" "c") (hmisses "b") (hmisses "c") (by decide)
  refine ⟨s', ?_, hquiet, by omega⟩
  rw [run_append, hrun, Option.bind_some, hlate]

end SharedMemo

end statsig_rust.hashing.memo_sha_256
