-- Collecting a list by a key, where of two elements with one key the later one stays. This is
-- what a map holds after all of them were put into it in their order.
import Mathlib.Data.List.Dedup
import Mathlib.Data.List.Nodup

namespace last_wins

variable {α β κ : Type} [DecidableEq κ] (key : α → κ)

def collect : List α → List α
  | [] => []
  | x :: xs => if key x ∈ xs.map key then collect xs else x :: collect xs

theorem collect_cons (x : α) (xs : List α) : collect key (x :: xs) =
    if key x ∈ xs.map key then collect key xs else x :: collect key xs := rfl

/-- The last element of its key. -/
def IsLast (xs : List α) (x : α) : Prop :=
  ∃ before after, xs = before ++ x :: after ∧ key x ∉ after.map key

omit [DecidableEq κ] in
theorem isLast_cons {x y : α} {xs : List α} :
    IsLast key (y :: xs) x ↔ (x = y ∧ key y ∉ xs.map key) ∨ IsLast key xs x := by
  constructor
  · rintro ⟨before, after, hsplit, hafter⟩
    cases before with
    | nil =>
      obtain ⟨rfl, rfl⟩ := List.cons.inj hsplit
      exact .inl ⟨rfl, hafter⟩
    | cons z before =>
      obtain ⟨-, rfl⟩ := List.cons.inj hsplit
      exact .inr ⟨before, after, rfl, hafter⟩
  · rintro (⟨rfl, hlast⟩ | ⟨before, after, rfl, hafter⟩)
    · exact ⟨[], xs, rfl, hlast⟩
    · exact ⟨y :: before, after, rfl, hafter⟩

/-- The elements that stay are the last ones of their keys. -/
theorem mem_collect {x : α} {xs : List α} : x ∈ collect key xs ↔ IsLast key xs x := by
  induction xs with
  | nil =>
    constructor
    · intro h
      cases h
    · rintro ⟨before, after, hsplit, -⟩
      cases before <;> cases hsplit
  | cons y xs ih =>
    rw [isLast_cons, ← ih, collect_cons]
    by_cases hy : key y ∈ xs.map key
    · rw [if_pos hy]
      simp only [hy, not_true, and_false, false_or]
    · rw [if_neg hy, List.mem_cons]
      simp only [hy, not_false_iff, and_true]

theorem collect_sublist (xs : List α) : (collect key xs).Sublist xs := by
  induction xs with
  | nil => exact List.Sublist.refl []
  | cons x xs ih =>
    rw [collect_cons]
    split
    · exact ih.cons x
    · exact ih.cons_cons x

theorem mem_of_mem_collect {x : α} {xs : List α} (h : x ∈ collect key xs) : x ∈ xs :=
  (collect_sublist key xs).mem h

/-- The keys that are there once each, at their last places. -/
theorem map_key_collect (xs : List α) : (collect key xs).map key = (xs.map key).dedup := by
  induction xs with
  | nil => rfl
  | cons x xs ih =>
    rw [collect_cons]
    by_cases hx : key x ∈ xs.map key
    · rw [if_pos hx, ih, List.map_cons, List.dedup_cons_of_mem hx]
    · rw [if_neg hx, List.map_cons, ih, List.map_cons, List.dedup_cons_of_notMem hx]

theorem nodup_keys (xs : List α) : ((collect key xs).map key).Nodup := by
  rw [map_key_collect]
  exact List.nodup_dedup _

/-- Every key is still there. -/
theorem exists_mem_collect {x : α} {xs : List α} (h : x ∈ xs) :
    ∃ y ∈ collect key xs, key y = key x := by
  have hkey : key x ∈ (collect key xs).map key := by
    rw [map_key_collect, List.mem_dedup]
    exact List.mem_map_of_mem h
  exact List.mem_map.mp hkey

theorem collect_length_le (xs : List α) : (collect key xs).length ≤ xs.length :=
  (collect_sublist key xs).length_le

/-- Nothing is lost exactly where no key is there twice. -/
theorem collect_eq_self_iff {xs : List α} : collect key xs = xs ↔ (xs.map key).Nodup := by
  constructor
  · intro h
    rw [← h]
    exact nodup_keys key xs
  · intro h
    apply (collect_sublist key xs).eq_of_length
    rw [← List.length_map key, map_key_collect, h.dedup, List.length_map]

theorem collect_length_lt_iff {xs : List α} :
    (collect key xs).length < xs.length ↔ ¬ (xs.map key).Nodup := by
  rw [← collect_eq_self_iff]
  constructor
  · intro hlt heq
    rw [heq] at hlt
    omega
  · intro hne
    apply Nat.lt_of_le_of_ne (collect_length_le key xs)
    intro hlength
    exact hne ((collect_sublist key xs).eq_of_length hlength)

theorem collect_map (f : β → α) (xs : List β) :
    collect key (xs.map f) = (collect (key ∘ f) xs).map f := by
  induction xs with
  | nil => rfl
  | cons x xs ih =>
    rw [List.map_cons, collect_cons, collect_cons, List.map_map, ih]
    by_cases hx : key (f x) ∈ xs.map (key ∘ f)
    · rw [if_pos hx, if_pos (show (key ∘ f) x ∈ xs.map (key ∘ f) from hx)]
    · rw [if_neg hx, if_neg (show (key ∘ f) x ∉ xs.map (key ∘ f) from hx), List.map_cons]

/-- The very last element stays. -/
theorem last_mem_collect (xs : List α) (x : α) : x ∈ collect key (xs ++ [x]) :=
  (mem_collect key).mpr ⟨xs, [], rfl, by simp⟩

/-- Every element of the list stays exactly where one key has one element. -/
theorem subset_collect_iff {xs : List α} :
    (∀ x ∈ xs, x ∈ collect key xs) ↔ ∀ x ∈ xs, ∀ y ∈ xs, key x = key y → x = y := by
  constructor
  · intro h x hx y hy hkey
    exact List.inj_on_of_nodup_map (nodup_keys key xs) (h x hx) (h y hy) hkey
  · intro h x hx
    obtain ⟨y, hy, hkey⟩ := exists_mem_collect key hx
    rw [← h y (mem_of_mem_collect key hy) x hx hkey]
    exact hy

end last_wins
