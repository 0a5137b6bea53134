-- Caches that keep the most recently used keys. The keys of a cache are the first ones of the list
-- of all keys by their last use, so a key that is gone has as many others in front of it as the
-- cache can hold.
import Mathlib.Data.List.Nodup

namespace lru

variable {κ : Type} [DecidableEq κ]

/-- All the keys by their last use, after one more use. -/
def touch (recent : List κ) (key : κ) : List κ := key :: recent.erase key

theorem touch_nodup {recent : List κ} (h : recent.Nodup) (key : κ) : (touch recent key).Nodup :=
  List.nodup_cons.mpr ⟨h.not_mem_erase, h.erase key⟩

/-- The most recently used keys are first. -/
structure LruCache (κ : Type) where
  cap : Nat
  keys : List κ
  nodup : keys.Nodup
  bounded : keys.length ≤ cap

namespace LruCache

def new (cap : Nat) : LruCache κ := ⟨cap, [], List.nodup_nil, Nat.zero_le cap⟩

/-- A key that is found becomes the most recently used one. -/
def get (cache : LruCache κ) (key : κ) : Bool × LruCache κ :=
  if h : key ∈ cache.keys then
    (true, { cache with
      keys := touch cache.keys key
      nodup := touch_nodup cache.nodup key
      bounded := by
        have hbounded := cache.bounded
        have hpos := List.length_pos_of_mem h
        rw [touch, List.length_cons, List.length_erase_of_mem h]
        omega })
  else (false, cache)

/-- A key is put in front, and the least recently used one gives way to it in a full cache. -/
def put (cache : LruCache κ) (key : κ) : LruCache κ :=
  { cache with
    keys := (touch cache.keys key).take cache.cap
    nodup := (touch_nodup cache.nodup key).take
    bounded := List.length_take_le _ _ }

@[simp] theorem put_keys (cache : LruCache κ) (key : κ) :
    (cache.put key).keys = (touch cache.keys key).take cache.cap := rfl

@[simp] theorem put_cap (cache : LruCache κ) (key : κ) : (cache.put key).cap = cache.cap := rfl

theorem get_of_mem {cache : LruCache κ} {key : κ} (h : key ∈ cache.keys) :
    (cache.get key).1 = true ∧ (cache.get key).2.keys = touch cache.keys key := by
  simp [get, h]

theorem get_of_not_mem {cache : LruCache κ} {key : κ} (h : key ∉ cache.keys) :
    cache.get key = (false, cache) := by
  simp [get, h]

@[simp] theorem get_cap (cache : LruCache κ) (key : κ) : (cache.get key).2.cap = cache.cap := by
  unfold get
  split
  · rfl
  · rfl

end LruCache

/-! ## The cache among all keys -/

theorem take_erase (recent : List κ) (key : κ) (n : Nat) :
    ((recent.take (n + 1)).erase key).take n = (recent.erase key).take n := by
  induction recent generalizing n with
  | nil => rfl
  | cons k recent ih =>
    rw [List.take_succ_cons]
    by_cases hk : k = key
    · subst hk
      rw [List.erase_cons_head, List.erase_cons_head, List.take_take, Nat.min_self]
    · have hne : (k == key) = false := by simpa using hk
      rw [List.erase_cons_tail (by simpa using hk), List.erase_cons_tail (by simpa using hk)]
      cases n with
      | zero => rfl
      | succ n => rw [List.take_succ_cons, List.take_succ_cons, ih]

/-- To use a key in the cache is to use it among all keys. -/
theorem take_touch (recent : List κ) (key : κ) (cap : Nat) :
    (touch (recent.take cap) key).take cap = (touch recent key).take cap := by
  cases cap with
  | zero => rfl
  | succ cap => rw [touch, touch, List.take_succ_cons, List.take_succ_cons, take_erase]

/-- The cache holds the keys that were used last. -/
def Holds (cache : LruCache κ) (recent : List κ) : Prop :=
  recent.Nodup ∧ cache.keys = recent.take cache.cap

omit [DecidableEq κ] in
theorem holds_self (cache : LruCache κ) : Holds cache cache.keys :=
  ⟨cache.nodup, (List.take_of_length_le cache.bounded).symm⟩

theorem Holds.put {cache : LruCache κ} {recent : List κ} (h : Holds cache recent) (key : κ) :
    Holds (cache.put key) (touch recent key) := by
  obtain ⟨hnodup, hkeys⟩ := h
  refine ⟨touch_nodup hnodup key, ?_⟩
  rw [LruCache.put_keys, LruCache.put_cap, hkeys, take_touch]

theorem Holds.get {cache : LruCache κ} {recent : List κ} (h : Holds cache recent) {key : κ}
    (hmem : key ∈ cache.keys) : Holds (cache.get key).2 (touch recent key) := by
  have hlength := (cache.get key).2.bounded
  refine ⟨touch_nodup h.1 key, ?_⟩
  rw [← List.take_of_length_le hlength, (LruCache.get_of_mem hmem).2, LruCache.get_cap]
  exact (h.put key).2

/-! ## The uses since the last use of a key -/

/-- The key was used, and since then no others than `used`. -/
def Since (key : κ) (used recent : List κ) : Prop :=
  ∃ front back, recent = front ++ key :: back ∧ ∀ k ∈ front, k ≠ key ∧ k ∈ used

theorem since_touch_self (key : κ) (used recent : List κ) : Since key used (touch recent key) :=
  ⟨[], recent.erase key, rfl, by simp⟩

/-- One more use, of any key. -/
theorem Since.touch {key : κ} {used recent : List κ} (h : Since key used recent) (other : κ) :
    Since key (used ++ [other]) (touch recent other) := by
  obtain ⟨front, back, rfl, hfront⟩ := h
  by_cases hother : other = key
  · subst hother
    exact since_touch_self other _ _
  · by_cases hmem : other ∈ front
    · refine ⟨other :: front.erase other, back, ?_, ?_⟩
      · rw [lru.touch, List.erase_append_left _ hmem]
        rfl
      · intro k hk
        rcases List.mem_cons.mp hk with rfl | hk
        · exact ⟨hother, by simp⟩
        · obtain ⟨hne, hused⟩ := hfront k (List.mem_of_mem_erase hk)
          exact ⟨hne, List.mem_append_left _ hused⟩
    · refine ⟨other :: front, back.erase other, ?_, ?_⟩
      · have hne : ¬ (key == other) = true := by simpa using Ne.symm hother
        rw [lru.touch, List.erase_append_right _ hmem, List.erase_cons_tail hne]
        rfl
      · intro k hk
        rcases List.mem_cons.mp hk with rfl | hk
        · exact ⟨hother, by simp⟩
        · obtain ⟨hne, hused⟩ := hfront k hk
          exact ⟨hne, List.mem_append_left _ hused⟩

omit [DecidableEq κ] in
/-- A key that the cache does not hold any more made way for as many others as the cache can
hold. -/
theorem Since.evicted {key : κ} {used recent : List κ} (h : Since key used recent)
    {cache : LruCache κ} (hholds : Holds cache recent) (hgone : key ∉ cache.keys) :
    ∃ others : List κ, others.Nodup ∧ others.length = cache.cap ∧
      ∀ k ∈ others, k ≠ key ∧ k ∈ used := by
  obtain ⟨hnodup, hkeys⟩ := hholds
  obtain ⟨front, back, rfl, hfront⟩ := h
  have hlength : cache.cap ≤ front.length := by
    by_contra hshort
    apply hgone
    rw [hkeys, List.mem_take_iff_getElem]
    refine ⟨front.length, by simp; omega, by simp⟩
  refine ⟨front.take cache.cap, (List.nodup_append.mp hnodup).1.take, ?_, ?_⟩
  · rw [List.length_take, Nat.min_eq_left hlength]
  · intro k hk
    exact hfront k (List.mem_of_mem_take hk)

end lru
