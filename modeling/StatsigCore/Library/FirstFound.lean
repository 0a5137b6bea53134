-- The first element of a list that something is found for. A list finds the same in every order
-- just when all of its elements would find the same.
import Mathlib.Data.List.Basic

namespace first_found

variable {α β : Type} {f : α → Option β} {l l' : List α}

/-- What two elements find is the same, where both find something. -/
def Agree (f : α → Option β) (l : List α) : Prop :=
  ∀ a ∈ l, ∀ b ∈ l, ∀ x y, f a = some x → f b = some y → x = y

/-- Where they agree the order does not matter. -/
theorem findSome_perm (h : l.Perm l') (hagree : Agree f l) :
    l'.findSome? f = l.findSome? f := by
  cases hfound : l.findSome? f with
  | none =>
    rw [List.findSome?_eq_none_iff] at hfound ⊢
    intro a ha
    exact hfound a (h.mem_iff.mpr ha)
  | some x =>
    obtain ⟨a, ha, hx⟩ := List.exists_of_findSome?_eq_some hfound
    cases hfound' : l'.findSome? f with
    | none =>
      rw [List.findSome?_eq_none_iff] at hfound'
      rw [hfound' a (h.mem_iff.mp ha)] at hx
      cases hx
    | some y =>
      obtain ⟨b, hb, hy⟩ := List.exists_of_findSome?_eq_some hfound'
      rw [hagree b (h.mem_iff.mpr hb) a ha y x hy hx]

/-- Every element that finds something does so first in some order. -/
theorem found_first {a : α} {x : β} (ha : a ∈ l) (hx : f a = some x) :
    ∃ l', l.Perm l' ∧ l'.findSome? f = some x := by
  obtain ⟨front, back, rfl⟩ := List.append_of_mem ha
  refine ⟨a :: (front ++ back), List.perm_middle, ?_⟩
  rw [List.findSome?_cons, hx]

end first_found
