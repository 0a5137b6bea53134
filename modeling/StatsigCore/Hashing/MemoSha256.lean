-- The memo of the evaluation hashes (`hashing/memo_sha_256.rs`). SHA-256 and the fast hash are
-- given functions: nothing is asked of either.
import StatsigCore.Evaluation.SpecTypes
import StatsigCore.Library.BigEndian
import StatsigCore.Library.ChainedTable

namespace statsig_rust.hashing.memo_sha_256

def MAX_CACHE_ENTRIES : Nat := 10000

inductive EvaluationHashKey where
  | Raw (a : String)
  | Dot2 (a b : String)
  | Dot3 (a b c : String)
deriving DecidableEq

inductive EvaluationHashKeyRef where
  | Raw (a : String)
  | Dot2 (a b : String)
  | Dot3 (a b c : String)
deriving DecidableEq

def EvaluationHashKey.matches : EvaluationHashKey → EvaluationHashKeyRef → Bool
  | .Raw a, .Raw b => a == b
  | .Dot2 a1 a2, .Dot2 b1 b2 => a1 == b1 && a2 == b2
  | .Dot3 a1 a2 a3, .Dot3 b1 b2 b3 => a1 == b1 && a2 == b2 && a3 == b3
  | _, _ => false

def EvaluationHashKeyRef.to_owned_key : EvaluationHashKeyRef → EvaluationHashKey
  | .Raw a => .Raw a
  | .Dot2 a b => .Dot2 a b
  | .Dot3 a b c => .Dot3 a b c

/-! ## The hash of a key -/

/-- `Output<Sha256>`. -/
abbrev Output := Vector UInt8 32

def as_bytes (s : String) : List UInt8 := s.toByteArray.data.toList

/-- The hasher, with what it was updated with. -/
structure Sha256 where
  data : List UInt8 := []

def Sha256.update (hasher : Sha256) (data : List UInt8) : Sha256 :=
  { data := hasher.data ++ data }

def Sha256.finalize (sha256 : List UInt8 → Output) (hasher : Sha256) : Output :=
  sha256 hasher.data

def Sha256.new : Sha256 := {}

def compute_bytes_for_key (sha256 : List UInt8 → Output) : EvaluationHashKeyRef → Output
  | .Raw a => (Sha256.new.update (as_bytes a)).finalize sha256
  | .Dot2 a b =>
    (((Sha256.new.update (as_bytes a)).update (as_bytes ".")).update (as_bytes b)).finalize sha256
  | .Dot3 a b c =>
    (((((Sha256.new.update (as_bytes a)).update (as_bytes ".")).update (as_bytes b)).update
      (as_bytes ".")).update (as_bytes c)).finalize sha256

/-- `u64::from_be_bytes`. -/
def from_be_bytes (bytes : List UInt8) : UInt64 := UInt64.ofNat (big_endian.decode bytes)

/-- The bytes in front of `split_at(size_of::<u64>())`, where they are eight. -/
def u_bytes (hash : Output) : Option UInt64 :=
  let bytes := hash.toList.take 8
  if bytes.length = 8 then some (from_be_bytes bytes) else none

/-! ## The memo -/

/-- The counter is far from a wrap of its 64 bits. -/
structure MemoSha256 where
  user_hash_cache : HashMap UInt64 (List (EvaluationHashKey × UInt64)) := []
  user_hash_cache_entries : Nat := 0

namespace MemoSha256

def new : MemoSha256 := {}

/-- `get`, and `find` in the bucket. -/
def get (memo : MemoSha256) (fast_hash : UInt64) (key : EvaluationHashKeyRef) : Option UInt64 :=
  match HashMap.get memo.user_hash_cache fast_hash with
  | some bucket =>
    (bucket.find? fun entry => EvaluationHashKey.matches entry.1 key).map Prod.snd
  | none => none

/-- `user_hash_cache_entries.swap(0)`. -/
def swap_zero (memo : MemoSha256) : Nat × MemoSha256 :=
  (memo.user_hash_cache_entries, { memo with user_hash_cache_entries := 0 })

/-- `user_hash_cache.clear()`. -/
def clear (memo : MemoSha256) : MemoSha256 := { memo with user_hash_cache := [] }

/-- `entry(fast_hash).or_default()`, and under its guard the push and `fetch_add(1)`, where no
entry of the bucket matches. -/
def push (memo : MemoSha256) (fast_hash : UInt64) (key : EvaluationHashKeyRef) (value : UInt64) :
    MemoSha256 :=
  let bucket := (HashMap.get memo.user_hash_cache fast_hash).getD []
  let others := HashMap.remove memo.user_hash_cache fast_hash
  if bucket.any fun entry => EvaluationHashKey.matches entry.1 key then
    { memo with user_hash_cache := HashMap.insert others fast_hash bucket }
  else
    { user_hash_cache := HashMap.insert others fast_hash (bucket ++ [(key.to_owned_key, value)])
      user_hash_cache_entries := memo.user_hash_cache_entries + 1 }

section calls

variable (sha256 : List UInt8 → Output) (fast_hash : EvaluationHashKeyRef → UInt64)

def compute_hash_for_key (memo : MemoSha256) (key : EvaluationHashKeyRef) :
    Option UInt64 × MemoSha256 :=
  match memo.get (fast_hash key) key with
  | some value => (some value, memo)
  | none =>
    let memo :=
      if memo.user_hash_cache_entries > MAX_CACHE_ENTRIES then
        let swapped := memo.swap_zero
        if swapped.1 > MAX_CACHE_ENTRIES then swapped.2.clear else swapped.2
      else memo
    match u_bytes (compute_bytes_for_key sha256 key) with
    | some value => (some value, memo.push (fast_hash key) key value)
    | none => (none, memo)

def compute_hash (memo : MemoSha256) (input : String) : Option UInt64 × MemoSha256 :=
  memo.compute_hash_for_key sha256 fast_hash (.Raw input)

def compute_hash_dot2 (memo : MemoSha256) (a b : String) : Option UInt64 × MemoSha256 :=
  memo.compute_hash_for_key sha256 fast_hash (.Dot2 a b)

def compute_hash_dot3 (memo : MemoSha256) (a b c : String) : Option UInt64 × MemoSha256 :=
  memo.compute_hash_for_key sha256 fast_hash (.Dot3 a b c)

end calls

end MemoSha256

theorem matches_iff (key : EvaluationHashKey) (other : EvaluationHashKeyRef) :
    EvaluationHashKey.matches key other = true ↔ key = other.to_owned_key := by
  cases key <;> cases other <;>
    simp [EvaluationHashKey.matches, EvaluationHashKeyRef.to_owned_key, and_assoc]

theorem matches_picks (key : EvaluationHashKeyRef) :
    chained_table.Picks (fun k => EvaluationHashKey.matches k key) key.to_owned_key :=
  fun k => matches_iff k key

/-! ## The uncached hash -/

/-- The number that the first eight bytes stand for, the highest byte first. -/
def first_eight (hash : Output) : UInt64 := UInt64.ofNat (big_endian.decode (hash.toList.take 8))

/-- The text of a key: its parts, with dots between them. -/
def EvaluationHashKey.text : EvaluationHashKey → String
  | .Raw a => a
  | .Dot2 a b => a ++ "." ++ b
  | .Dot3 a b c => a ++ "." ++ b ++ "." ++ c

/-- The hash of a key without a memo. -/
def uncached (sha256 : List UInt8 → Output) (key : EvaluationHashKey) : UInt64 :=
  first_eight (sha256 (as_bytes key.text))

theorem as_bytes_append (a b : String) : as_bytes (a ++ b) = as_bytes a ++ as_bytes b := by
  unfold as_bytes
  rw [String.toByteArray_append, ByteArray.toList_data_append]

/-- Updates hash the text that they make together. -/
theorem compute_bytes_eq (sha256 : List UInt8 → Output) (key : EvaluationHashKeyRef) :
    compute_bytes_for_key sha256 key = sha256 (as_bytes key.to_owned_key.text) := by
  cases key <;>
    simp [compute_bytes_for_key, EvaluationHashKeyRef.to_owned_key, EvaluationHashKey.text,
      Sha256.new, Sha256.update, Sha256.finalize, as_bytes_append]

/-- The split never comes short. -/
theorem u_bytes_eq (hash : Output) : u_bytes hash = some (first_eight hash) := by
  have hlen : (hash.toList.take 8).length = 8 := by simp
  simp [u_bytes, hlen, from_be_bytes, first_eight]

/-! ## The memo answers as the uncached hash -/

/-- Every bucket has a key once, with its uncached hash. -/
structure MemoSha256.Consistent (sha256 : List UInt8 → Output) (memo : MemoSha256) : Prop where
  unique : chained_table.Unique memo.user_hash_cache
  memo_of : chained_table.MemoOf (uncached sha256) memo.user_hash_cache

namespace MemoSha256

theorem get_eq_find (memo : MemoSha256) (fast_hash : UInt64) (key : EvaluationHashKeyRef) :
    memo.get fast_hash key =
      (chained_table.find memo.user_hash_cache fast_hash
        fun k => EvaluationHashKey.matches k key).map Prod.snd := by
  unfold get chained_table.find chained_table.bucket HashMap.get
  cases List.lookup fast_hash memo.user_hash_cache <;> simp

/-- The buckets after a `push`. -/
theorem push_cache (memo : MemoSha256) (fast_hash : UInt64) (key : EvaluationHashKeyRef)
    (value : UInt64) :
    (memo.push fast_hash key value).user_hash_cache =
      chained_table.replace memo.user_hash_cache fast_hash
        (chained_table.push_absent (chained_table.bucket memo.user_hash_cache fast_hash)
          (fun k => EvaluationHashKey.matches k key) (key.to_owned_key, value)) := by
  unfold push chained_table.push_absent
  by_cases hany : (chained_table.bucket memo.user_hash_cache fast_hash).any
      fun entry => EvaluationHashKey.matches entry.1 key
  · rw [if_pos hany]
    exact congrArg user_hash_cache (if_pos hany)
  · rw [if_neg hany]
    exact congrArg user_hash_cache (if_neg hany)

theorem get_eq_none_iff (memo : MemoSha256) (fast_hash : UInt64) (key : EvaluationHashKeyRef) :
    memo.get fast_hash key = none ↔
      ¬ (chained_table.bucket memo.user_hash_cache fast_hash).any
        fun entry => EvaluationHashKey.matches entry.1 key := by
  rw [get_eq_find, Option.map_eq_none_iff]
  simp [chained_table.find]

/-- A push of a key that is there already changes no number. -/
theorem push_known {memo : MemoSha256} (hunique : (memo.user_hash_cache.map Prod.fst).Nodup)
    {fast_hash : UInt64} {key : EvaluationHashKeyRef} (hget : memo.get fast_hash key ≠ none)
    (value : UInt64) :
    (memo.push fast_hash key value).user_hash_cache_entries = memo.user_hash_cache_entries ∧
      chained_table.total (memo.push fast_hash key value).user_hash_cache =
        chained_table.total memo.user_hash_cache := by
  rw [ne_eq, get_eq_none_iff, not_not] at hget
  refine ⟨(congrArg user_hash_cache_entries (if_pos hget)).trans rfl, ?_⟩
  have htotal := chained_table.total_replace hunique fast_hash
    (chained_table.bucket memo.user_hash_cache fast_hash)
  rw [push_cache, chained_table.push_absent, if_pos hget]
  omega

/-- A push of a new key counts one more. -/
theorem push_new {memo : MemoSha256} (hunique : (memo.user_hash_cache.map Prod.fst).Nodup)
    {fast_hash : UInt64} {key : EvaluationHashKeyRef} (hget : memo.get fast_hash key = none)
    (value : UInt64) :
    (memo.push fast_hash key value).user_hash_cache_entries = memo.user_hash_cache_entries + 1 ∧
      chained_table.total (memo.push fast_hash key value).user_hash_cache =
        chained_table.total memo.user_hash_cache + 1 := by
  rw [get_eq_none_iff] at hget
  refine ⟨(congrArg user_hash_cache_entries (if_neg hget)).trans rfl, ?_⟩
  have htotal := chained_table.total_replace hunique fast_hash
    (chained_table.bucket memo.user_hash_cache fast_hash ++ [(key.to_owned_key, value)])
  rw [List.length_append, List.length_singleton] at htotal
  rw [push_cache, chained_table.push_absent, if_neg hget]
  omega

/-- The counter goes along with the entries. -/
theorem push_entries {memo : MemoSha256}
    (hunique : (memo.user_hash_cache.map Prod.fst).Nodup) (fast_hash : UInt64)
    (key : EvaluationHashKeyRef) (value : UInt64) :
    ∃ added ≤ 1,
      (memo.push fast_hash key value).user_hash_cache_entries =
        memo.user_hash_cache_entries + added ∧
      chained_table.total (memo.push fast_hash key value).user_hash_cache =
        chained_table.total memo.user_hash_cache + added := by
  by_cases hget : memo.get fast_hash key = none
  · exact ⟨1, Nat.le_refl 1, push_new hunique hget value⟩
  · exact ⟨0, Nat.zero_le 1, push_known hunique hget value⟩

/-- A key that no entry has is not found. -/
theorem get_eq_none_of_each {memo : MemoSha256} {key : EvaluationHashKeyRef}
    (h : chained_table.Each (fun entry => entry.1 ≠ key.to_owned_key) memo.user_hash_cache)
    (fast_hash : UInt64) : memo.get fast_hash key = none := by
  rw [get_eq_none_iff, List.any_eq_true]
  rintro ⟨entry, hentry, hmatches⟩
  exact chained_table.bucket_each h hentry ((matches_iff entry.1 key).mp hmatches)

variable {sha256 : List UInt8 → Output}

theorem new_consistent : new.Consistent sha256 :=
  ⟨chained_table.unique_nil, chained_table.each_nil _⟩

theorem clear_consistent (memo : MemoSha256) : memo.clear.Consistent sha256 :=
  ⟨chained_table.unique_nil, chained_table.each_nil _⟩

theorem swap_zero_consistent {memo : MemoSha256} (h : memo.Consistent sha256) :
    memo.swap_zero.2.Consistent sha256 := ⟨h.unique, h.memo_of⟩

/-- What holds of every entry holds after a push of one more. -/
theorem push_each {P : EvaluationHashKey × UInt64 → Prop} {memo : MemoSha256}
    (h : chained_table.Each P memo.user_hash_cache) (fast_hash : UInt64)
    {key : EvaluationHashKeyRef} {value : UInt64} (hentry : P (key.to_owned_key, value)) :
    chained_table.Each P (memo.push fast_hash key value).user_hash_cache := by
  rw [push_cache]
  apply chained_table.replace_each h
  apply chained_table.push_absent_each _ hentry
  intro entry hmem
  exact chained_table.bucket_each h hmem

theorem push_consistent {memo : MemoSha256} (h : memo.Consistent sha256) (fast_hash : UInt64)
    (key : EvaluationHashKeyRef) :
    (memo.push fast_hash key (uncached sha256 key.to_owned_key)).Consistent sha256 := by
  refine ⟨?_, push_each h.memo_of fast_hash rfl⟩
  rw [push_cache]
  apply chained_table.replace_unique h.unique
  exact chained_table.push_absent_keys (matches_picks key)
    (chained_table.bucket_keys h.unique fast_hash)

/-- A hit is the uncached hash. -/
theorem get_consistent {memo : MemoSha256} (h : memo.Consistent sha256) {fast_hash : UInt64}
    {key : EvaluationHashKeyRef} {value : UInt64} (hget : memo.get fast_hash key = some value) :
    value = uncached sha256 key.to_owned_key := by
  rw [get_eq_find, Option.map_eq_some_iff] at hget
  obtain ⟨entry, hfind, rfl⟩ := hget
  exact chained_table.find_memoOf h.memo_of (matches_picks key) hfind

/-- What one thread alone keeps of the counter. -/
structure Counted (memo : MemoSha256) : Prop where
  exact : memo.user_hash_cache_entries = chained_table.total memo.user_hash_cache
  bounded : memo.user_hash_cache_entries ≤ MAX_CACHE_ENTRIES + 1

/-- The memo before the push: it is emptied when it is over its limit. -/
theorem evict_spec {memo : MemoSha256} (h : memo.Consistent sha256) (hc : memo.Counted) :
    let evicted := if memo.user_hash_cache_entries > MAX_CACHE_ENTRIES then
        let swapped := memo.swap_zero
        if swapped.1 > MAX_CACHE_ENTRIES then swapped.2.clear else swapped.2
      else memo
    evicted.Consistent sha256 ∧
      evicted.user_hash_cache_entries = chained_table.total evicted.user_hash_cache ∧
      evicted.user_hash_cache_entries ≤ MAX_CACHE_ENTRIES := by
  by_cases hover : memo.user_hash_cache_entries > MAX_CACHE_ENTRIES
  · have hswapped : memo.swap_zero.1 > MAX_CACHE_ENTRIES := hover
    simp only [if_pos hover, if_pos hswapped]
    refine ⟨clear_consistent _, ?_, ?_⟩
    · simp [clear, swap_zero]
    · simp [clear, swap_zero]
  · simp only [if_neg hover]
    exact ⟨h, hc.exact, by omega⟩

/-- One call answers as the uncached hash, and keeps the memo consistent and counted. -/
theorem compute_hash_for_key_spec (fast_hash : EvaluationHashKeyRef → UInt64)
    {memo : MemoSha256} (h : memo.Consistent sha256) (hc : memo.Counted)
    (key : EvaluationHashKeyRef) :
    let called := memo.compute_hash_for_key sha256 fast_hash key
    called.1 = some (uncached sha256 key.to_owned_key) ∧ called.2.Consistent sha256 ∧
      called.2.Counted := by
  unfold compute_hash_for_key
  cases hget : memo.get (fast_hash key) key with
  | some value => exact ⟨congrArg some (get_consistent h hget), h, hc⟩
  | none =>
    obtain ⟨hconsistent, hexact, hbound⟩ := evict_spec h hc
    have hvalue : u_bytes (compute_bytes_for_key sha256 key) =
        some (uncached sha256 key.to_owned_key) := by
      rw [u_bytes_eq, compute_bytes_eq]
      rfl
    dsimp only at hconsistent hexact hbound ⊢
    rw [hvalue]
    obtain ⟨added, hadded, hentries, htotal⟩ := push_entries hconsistent.unique.hashes
      (fast_hash key) key (uncached sha256 key.to_owned_key)
    refine ⟨rfl, push_consistent hconsistent (fast_hash key) key, ⟨?_, ?_⟩⟩
    · dsimp only at hentries htotal ⊢
      omega
    · dsimp only at hentries ⊢
      omega

end MemoSha256

inductive HashCall where
  | compute_hash (input : String)
  | compute_hash_dot2 (a b : String)
  | compute_hash_dot3 (a b c : String)

/-- What the call stands for: its parts, with dots between them. -/
def HashCall.input : HashCall → String
  | compute_hash input => input
  | compute_hash_dot2 a b => a ++ "." ++ b
  | compute_hash_dot3 a b c => a ++ "." ++ b ++ "." ++ c

section runs

variable (sha256 : List UInt8 → Output) (fast_hash : EvaluationHashKeyRef → UInt64)

def MemoSha256.call (memo : MemoSha256) : HashCall → Option UInt64 × MemoSha256
  | .compute_hash input => memo.compute_hash sha256 fast_hash input
  | .compute_hash_dot2 a b => memo.compute_hash_dot2 sha256 fast_hash a b
  | .compute_hash_dot3 a b c => memo.compute_hash_dot3 sha256 fast_hash a b c

/-- One call after the other: what they returned, and the memo in the end. -/
def MemoSha256.run_calls (memo : MemoSha256) : List HashCall → List (Option UInt64) × MemoSha256
  | [] => ([], memo)
  | call :: calls =>
    let first := memo.call sha256 fast_hash call
    let rest := first.2.run_calls calls
    (first.1 :: rest.1, rest.2)

end runs

namespace MemoSha256

variable {sha256 : List UInt8 → Output}

theorem call_spec (fast_hash : EvaluationHashKeyRef → UInt64) {memo : MemoSha256}
    (h : memo.Consistent sha256) (hc : memo.Counted) (call : HashCall) :
    (memo.call sha256 fast_hash call).1 = some (first_eight (sha256 (as_bytes call.input))) ∧
      (memo.call sha256 fast_hash call).2.Consistent sha256 ∧
      (memo.call sha256 fast_hash call).2.Counted := by
  cases call with
  | compute_hash input => exact compute_hash_for_key_spec fast_hash h hc (.Raw input)
  | compute_hash_dot2 a b => exact compute_hash_for_key_spec fast_hash h hc (.Dot2 a b)
  | compute_hash_dot3 a b c => exact compute_hash_for_key_spec fast_hash h hc (.Dot3 a b c)

theorem run_calls_spec (fast_hash : EvaluationHashKeyRef → UInt64) {memo : MemoSha256}
    (h : memo.Consistent sha256) (hc : memo.Counted) (calls : List HashCall) :
    (memo.run_calls sha256 fast_hash calls).1 =
        calls.map (fun call => some (first_eight (sha256 (as_bytes call.input)))) ∧
      (memo.run_calls sha256 fast_hash calls).2.Consistent sha256 ∧
      (memo.run_calls sha256 fast_hash calls).2.Counted := by
  induction calls generalizing memo with
  | nil => exact ⟨rfl, h, hc⟩
  | cons call calls ih =>
    obtain ⟨hanswer, hconsistent, hcounted⟩ := call_spec fast_hash h hc call
    obtain ⟨hanswers, hrest⟩ := ih hconsistent hcounted
    refine ⟨?_, hrest⟩
    rw [List.map_cons, ← hanswer, ← hanswers]
    rfl

/-- The memo after some calls of one thread. -/
theorem after_calls (sha256 : List UInt8 → Output) (fast_hash : EvaluationHashKeyRef → UInt64)
    (calls : List HashCall) :
    (new.run_calls sha256 fast_hash calls).2.Consistent sha256 ∧
      (new.run_calls sha256 fast_hash calls).2.Counted :=
  (run_calls_spec fast_hash new_consistent ⟨rfl, by simp [new]⟩ calls).2

/-- The memo cannot be told from the uncached hash, whatever the fast hash is, and it stays
within its limit. -/
theorem memo_is_transparent (sha256 : List UInt8 → Output)
    (fast_hash : EvaluationHashKeyRef → UInt64) (calls others : List HashCall) :
    let memo := (new.run_calls sha256 fast_hash calls).2
    let other := (new.run_calls sha256 fast_hash others).2
    (new.run_calls sha256 fast_hash calls).1 =
        calls.map (fun call => some (first_eight (sha256 (as_bytes call.input)))) ∧
      (∀ a b, (memo.compute_hash_dot2 sha256 fast_hash a b).1 =
        (other.compute_hash sha256 fast_hash (a ++ "." ++ b)).1) ∧
      (∀ a b c, (memo.compute_hash_dot3 sha256 fast_hash a b c).1 =
        (other.compute_hash sha256 fast_hash (a ++ "." ++ b ++ "." ++ c)).1) ∧
      chained_table.Unique memo.user_hash_cache ∧
      memo.user_hash_cache_entries = chained_table.total memo.user_hash_cache ∧
      memo.user_hash_cache_entries ≤ MAX_CACHE_ENTRIES + 1 := by
  obtain ⟨hconsistent, hcounted⟩ := after_calls sha256 fast_hash calls
  obtain ⟨hconsistent', hcounted'⟩ := after_calls sha256 fast_hash others
  refine ⟨?_, ?_, ?_, hconsistent.unique, hcounted.exact, hcounted.bounded⟩
  · exact (run_calls_spec fast_hash new_consistent ⟨rfl, by simp [new]⟩ calls).1
  · intro a b
    have hdots := call_spec fast_hash hconsistent hcounted (.compute_hash_dot2 a b)
    have hraw := call_spec fast_hash hconsistent' hcounted' (.compute_hash (a ++ "." ++ b))
    exact hdots.1.trans hraw.1.symm
  · intro a b c
    have hdots := call_spec fast_hash hconsistent hcounted (.compute_hash_dot3 a b c)
    have hraw :=
      call_spec fast_hash hconsistent' hcounted' (.compute_hash (a ++ "." ++ b ++ "." ++ c))
    exact hdots.1.trans hraw.1.symm

end MemoSha256

end statsig_rust.hashing.memo_sha_256
