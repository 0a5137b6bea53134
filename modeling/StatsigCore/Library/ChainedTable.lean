-- Tables that keep their entries in buckets, one bucket for each hash. Keys with one hash share
-- a bucket. A table that only ever gets the values of a function is a memo of it, for any hash.
import Mathlib.Algebra.GroupWithZero.Nat
import Mathlib.Data.List.Nodup

namespace chained_table

variable {η κ υ : Type}

abbrev Table (η κ υ : Type) := List (η × List (κ × υ))

/-- How many entries the buckets hold together. -/
def total (t : Table η κ υ) : Nat := (t.map fun e => e.2.length).sum

/-- No hash has two buckets, and no bucket holds a key twice. -/
structure Unique (t : Table η κ υ) : Prop where
  hashes : (t.map Prod.fst).Nodup
  keys : ∀ e ∈ t, (e.2.map Prod.fst).Nodup

/-- What holds of every entry. -/
def Each (P : κ × υ → Prop) (t : Table η κ υ) : Prop := ∀ e ∈ t, ∀ x ∈ e.2, P x

/-- The values are those of the function. -/
abbrev MemoOf (f : κ → υ) (t : Table η κ υ) : Prop := Each (fun x => x.2 = f x.1) t

/-- What tells a key from all others. -/
def Picks (p : κ → Bool) (k : κ) : Prop := ∀ k', p k' = true ↔ k' = k

@[simp] theorem total_nil : total ([] : Table η κ υ) = 0 := rfl

@[simp] theorem total_cons (e : η × List (κ × υ)) (t : Table η κ υ) :
    total (e :: t) = e.2.length + total t := by
  simp [total]

theorem unique_nil : Unique ([] : Table η κ υ) := ⟨List.nodup_nil, by simp⟩

theorem each_nil (P : κ × υ → Prop) : Each P ([] : Table η κ υ) := by
  intro e he
  cases he

section buckets

variable [DecidableEq η]

def bucket (t : Table η κ υ) (h : η) : List (κ × υ) := (t.lookup h).getD []

/-- The table with another bucket for the hash. -/
def replace (t : Table η κ υ) (h : η) (b : List (κ × υ)) : Table η κ υ :=
  (h, b) :: t.filter fun e => e.1 ≠ h

theorem bucket_cons (e : η × List (κ × υ)) (t : Table η κ υ) (h : η) :
    bucket (e :: t) h = if h = e.1 then e.2 else bucket t h := by
  unfold bucket
  rw [List.lookup_cons]
  by_cases hh : h = e.1
  · simp [hh]
  · simp [hh, beq_eq_false_iff_ne.mpr hh]

theorem mem_of_bucket_ne_nil {t : Table η κ υ} {h : η} (hne : bucket t h ≠ []) :
    (h, bucket t h) ∈ t := by
  induction t with
  | nil => exact absurd rfl hne
  | cons e t ih =>
    rw [bucket_cons] at hne ⊢
    by_cases hh : h = e.1
    · simp [hh]
    · rw [if_neg hh] at hne ⊢
      exact List.mem_cons_of_mem e (ih hne)

theorem bucket_keys {t : Table η κ υ} (ht : Unique t) (h : η) :
    ((bucket t h).map Prod.fst).Nodup := by
  by_cases hb : bucket t h = []
  · simp [hb]
  · exact ht.keys _ (mem_of_bucket_ne_nil hb)

theorem bucket_each {P : κ × υ → Prop} {t : Table η κ υ} (ht : Each P t) {h : η} {x : κ × υ}
    (hx : x ∈ bucket t h) : P x :=
  ht _ (mem_of_bucket_ne_nil (List.ne_nil_of_mem hx)) x hx

/-- Without a bucket of the hash there is nothing to take out. -/
theorem filter_eq_self {t : Table η κ υ} {h : η} (hh : h ∉ t.map Prod.fst) :
    (t.filter fun e => e.1 ≠ h) = t := by
  rw [List.filter_eq_self]
  intro e he
  have hne : e.1 ≠ h := by
    intro heq
    apply hh
    rw [← heq]
    exact List.mem_map_of_mem he
  simp [hne]

/-- Only the one bucket counts for a change of the total. -/
theorem total_replace {t : Table η κ υ} (ht : (t.map Prod.fst).Nodup) (h : η)
    (b : List (κ × υ)) : total (replace t h b) + (bucket t h).length = total t + b.length := by
  rw [replace, total_cons]
  dsimp only
  induction t with
  | nil => simp [bucket]
  | cons e t ih =>
    rw [List.map_cons, List.nodup_cons] at ht
    rw [bucket_cons, total_cons]
    by_cases hh : e.1 = h
    · rw [List.filter_cons_of_neg (by simpa using hh), if_pos hh.symm,
        filter_eq_self (hh ▸ ht.1)]
      omega
    · rw [List.filter_cons_of_pos (by simpa using hh), if_neg (Ne.symm hh), total_cons]
      have := ih ht.2
      omega

theorem replace_unique {t : Table η κ υ} (ht : Unique t) (h : η) {b : List (κ × υ)}
    (hb : (b.map Prod.fst).Nodup) : Unique (replace t h b) := by
  constructor
  · rw [replace, List.map_cons, List.nodup_cons]
    refine ⟨?_, ht.hashes.sublist (List.filter_sublist.map Prod.fst)⟩
    intro hmem
    obtain ⟨e, he, heq⟩ := List.mem_map.mp hmem
    simp [heq] at he
  · intro e he
    rcases List.mem_cons.mp he with rfl | he
    · exact hb
    · exact ht.keys e (List.mem_of_mem_filter he)

theorem replace_each {P : κ × υ → Prop} {t : Table η κ υ} (ht : Each P t) (h : η)
    {b : List (κ × υ)} (hb : ∀ x ∈ b, P x) : Each P (replace t h b) := by
  intro e he
  rcases List.mem_cons.mp he with rfl | he
  · exact hb
  · exact ht e (List.mem_of_mem_filter he)

/-! ## Find, and push where it is absent -/

/-- The entry of a key, which the test picks, under its hash. -/
def find (t : Table η κ υ) (h : η) (p : κ → Bool) : Option (κ × υ) :=
  (bucket t h).find? fun x => p x.1

/-- A bucket with the entry, at its end where the key was absent. -/
def push_absent (b : List (κ × υ)) (p : κ → Bool) (x : κ × υ) : List (κ × υ) :=
  if b.any fun x => p x.1 then b else b ++ [x]

theorem find_memoOf {f : κ → υ} {t : Table η κ υ} {h : η} {p : κ → Bool} {k : κ} {x : κ × υ}
    (ht : MemoOf f t) (hp : Picks p k) (hx : find t h p = some x) : x.2 = f k := by
  have hk : x.1 = k := (hp x.1).mp (List.find?_eq_some_iff_append.mp hx).1
  rw [← hk]
  exact bucket_each ht (List.mem_of_find?_eq_some hx)

theorem push_absent_keys {b : List (κ × υ)} {p : κ → Bool} {x : κ × υ} (hp : Picks p x.1)
    (hb : (b.map Prod.fst).Nodup) : ((push_absent b p x).map Prod.fst).Nodup := by
  unfold push_absent
  split
  · exact hb
  · next habsent =>
    rw [List.map_append, List.map_singleton, List.nodup_append]
    refine ⟨hb, List.nodup_singleton _, ?_⟩
    intro k hk k' hk' heq
    rw [List.mem_singleton] at hk'
    obtain ⟨y, hy, hyk⟩ := List.mem_map.mp hk
    apply habsent
    rw [List.any_eq_true]
    exact ⟨y, hy, (hp y.1).mpr (by rw [hyk, heq, hk'])⟩

theorem push_absent_each {P : κ × υ → Prop} {b : List (κ × υ)} (p : κ → Bool) {x : κ × υ}
    (hx : P x) (hb : ∀ y ∈ b, P y) : ∀ y ∈ push_absent b p x, P y := by
  unfold push_absent
  split
  · exact hb
  · intro y hy
    rcases List.mem_append.mp hy with hy | hy
    · exact hb y hy
    · rw [List.mem_singleton.mp hy]
      exact hx

end buckets

end chained_table
