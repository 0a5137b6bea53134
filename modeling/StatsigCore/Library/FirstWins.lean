-- Going through a list with the set of the keys that were seen: of the elements with one key the
-- first one stays. An element without a key always stays.
import Mathlib.Data.List.Perm.Basic
import Mathlib.Tactic.Common

namespace first_wins

variable {α κ : Type} [DecidableEq κ] (key : α → Option κ)

/-- The elements that stay, when some keys were seen before. -/
def collect (seen : List κ) : List α → List α
  | [] => []
  | x :: xs =>
    match key x with
    | none => x :: collect seen xs
    | some k => if k ∈ seen then collect seen xs else x :: collect (k :: seen) xs

/-- The elements that go. -/
def repeats (seen : List κ) : List α → List α
  | [] => []
  | x :: xs =>
    match key x with
    | none => repeats seen xs
    | some k => if k ∈ seen then x :: repeats seen xs else repeats (k :: seen) xs

variable {key} {seen : List κ} {x : α} {xs : List α}

theorem collect_keyless (h : key x = none) :
    collect key seen (x :: xs) = x :: collect key seen xs := by
  rw [collect, h]

theorem collect_seen {k : κ} (h : key x = some k) (hseen : k ∈ seen) :
    collect key seen (x :: xs) = collect key seen xs := by
  rw [collect, h]
  exact if_pos hseen

theorem collect_new {k : κ} (h : key x = some k) (hnew : k ∉ seen) :
    collect key seen (x :: xs) = x :: collect key (k :: seen) xs := by
  rw [collect, h]
  exact if_neg hnew

/-- Only which keys were seen matters. -/
theorem collect_congr {seen' : List κ} (h : ∀ k, k ∈ seen ↔ k ∈ seen') :
    collect key seen xs = collect key seen' xs := by
  induction xs generalizing seen seen' with
  | nil => rfl
  | cons x xs ih =>
    cases hkey : key x with
    | none => rw [collect_keyless hkey, collect_keyless hkey, ih h]
    | some k =>
      by_cases hseen : k ∈ seen
      · rw [collect_seen hkey hseen, collect_seen hkey ((h k).mp hseen), ih h]
      · have hmore : ∀ k', k' ∈ k :: seen ↔ k' ∈ k :: seen' := by
          intro k'
          rw [List.mem_cons, List.mem_cons, h k']
        rw [collect_new hkey hseen, collect_new hkey (fun hmem => hseen ((h k).mpr hmem)), ih hmore]

variable (key seen xs)

/-- Every element stays or goes. -/
theorem collect_append_repeats : (collect key seen xs ++ repeats key seen xs).Perm xs := by
  induction xs generalizing seen with
  | nil => exact List.Perm.refl []
  | cons x xs ih =>
    unfold collect repeats
    cases key x with
    | none => exact (ih seen).cons x
    | some k =>
      by_cases hseen : k ∈ seen
      · simp only [hseen, ↓reduceIte]
        exact List.perm_middle.trans ((ih seen).cons x)
      · simp only [hseen, ↓reduceIte]
        exact (ih (k :: seen)).cons x

theorem collect_sublist : (collect key seen xs).Sublist xs := by
  induction xs generalizing seen with
  | nil => exact List.Sublist.refl []
  | cons x xs ih =>
    unfold collect
    cases key x with
    | none => exact (ih seen).cons_cons x
    | some k =>
      by_cases hseen : k ∈ seen
      · simp only [hseen, ↓reduceIte]
        exact (ih seen).cons x
      · simp only [hseen, ↓reduceIte]
        exact (ih (k :: seen)).cons_cons x

/-- What has no key is left as it is. -/
theorem filter_keyless : (collect key seen xs).filter (fun x => (key x).isNone) =
    xs.filter fun x => (key x).isNone := by
  induction xs generalizing seen with
  | nil => rfl
  | cons x xs ih =>
    cases hkey : key x with
    | none =>
      rw [collect_keyless hkey, List.filter_cons_of_pos (by simp [hkey]),
        List.filter_cons_of_pos (by simp [hkey]), ih]
    | some k =>
      by_cases hseen : k ∈ seen
      · rw [collect_seen hkey hseen, List.filter_cons_of_neg (by simp [hkey]), ih]
      · rw [collect_new hkey hseen, List.filter_cons_of_neg (by simp [hkey]),
          List.filter_cons_of_neg (by simp [hkey]), ih]

/-- The keys that stay are new, and there once each. -/
theorem keys_collect : ((collect key seen xs).filterMap key).Nodup ∧
    ∀ k ∈ (collect key seen xs).filterMap key, k ∉ seen := by
  induction xs generalizing seen with
  | nil => exact ⟨List.nodup_nil, fun k h => nomatch h⟩
  | cons x xs ih =>
    cases hkey : key x with
    | none =>
      rw [collect_keyless hkey, List.filterMap_cons_none hkey]
      exact ih seen
    | some k =>
      by_cases hseen : k ∈ seen
      · rw [collect_seen hkey hseen]
        exact ih seen
      · rw [collect_new hkey hseen, List.filterMap_cons_some hkey]
        obtain ⟨hnodup, hnew⟩ := ih (k :: seen)
        refine ⟨List.nodup_cons.mpr ⟨fun hmem => hnew k hmem List.mem_cons_self, hnodup⟩, ?_⟩
        intro k' hmem
        rcases List.mem_cons.mp hmem with rfl | hmem
        · exact hseen
        · exact fun hmem' => hnew k' hmem (List.mem_cons_of_mem _ hmem')

/-- Of every new key the first element stays. -/
theorem first_stays {k : κ} (hnew : k ∉ seen) :
    (collect key seen xs).find? (fun x => key x == some k) =
      xs.find? fun x => key x == some k := by
  induction xs generalizing seen with
  | nil => rfl
  | cons x xs ih =>
    by_cases hx : key x = some k
    · rw [collect_new hx hnew, List.find?_cons_of_pos (by simp [hx]),
        List.find?_cons_of_pos (by simp [hx])]
    · rw [List.find?_cons_of_neg (by simpa using hx)]
      cases hkey : key x with
      | none =>
        rw [collect_keyless hkey, List.find?_cons_of_neg (by simpa using hx)]
        exact ih seen hnew
      | some k' =>
        by_cases hseen : k' ∈ seen
        · rw [collect_seen hkey hseen]
          exact ih seen hnew
        · rw [collect_new hkey hseen, List.find?_cons_of_neg (by simpa using hx)]
          apply ih
          intro hmem
          rcases List.mem_cons.mp hmem with rfl | hmem
          · exact hx hkey
          · exact hnew hmem

variable {key seen xs}

/-- A list with new and distinct keys stays as it is. -/
theorem collect_eq_self (hnodup : (xs.filterMap key).Nodup)
    (hnew : ∀ k ∈ xs.filterMap key, k ∉ seen) : collect key seen xs = xs := by
  induction xs generalizing seen with
  | nil => rfl
  | cons x xs ih =>
    cases hkey : key x with
    | none =>
      rw [List.filterMap_cons_none hkey] at hnodup hnew
      rw [collect_keyless hkey, ih hnodup hnew]
    | some k =>
      rw [List.filterMap_cons_some hkey] at hnodup hnew
      obtain ⟨hfirst, hnodup⟩ := List.nodup_cons.mp hnodup
      rw [collect_new hkey (hnew k List.mem_cons_self)]
      congr 1
      apply ih hnodup
      intro k' hmem hmem'
      rcases List.mem_cons.mp hmem' with rfl | hmem'
      · exact hfirst hmem
      · exact hnew k' (List.mem_cons_of_mem _ hmem) hmem'

end first_wins
