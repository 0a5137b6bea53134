-- Lists put together around a separator, and what the whole list still tells about its parts.
import Mathlib.Data.List.Basic

namespace delimited

variable {α : Type} {sep : α} {xs xs' ys ys' zs zs' : List α}

/-- Three parts with a separator between each two. -/
def join (sep : α) (xs ys zs : List α) : List α := xs ++ sep :: (ys ++ sep :: zs)

/-- The part before the first separator is read off. -/
theorem first_part (h : sep ∉ xs) (h' : sep ∉ xs') (heq : xs ++ sep :: ys = xs' ++ sep :: ys') :
    xs = xs' ∧ ys = ys' := by
  induction xs generalizing xs' with
  | nil =>
    cases xs' with
    | nil => exact ⟨rfl, (List.cons.inj heq).2⟩
    | cons x' xs' =>
      obtain ⟨rfl, -⟩ := List.cons.inj heq
      exact absurd (List.mem_cons_self ..) h'
  | cons x xs ih =>
    cases xs' with
    | nil =>
      obtain ⟨rfl, -⟩ := List.cons.inj heq
      exact absurd (List.mem_cons_self ..) h
    | cons x' xs' =>
      obtain ⟨rfl, hrest⟩ := List.cons.inj heq
      obtain ⟨rfl, hys⟩ := ih (fun hmem => h (List.mem_cons_of_mem _ hmem))
        (fun hmem => h' (List.mem_cons_of_mem _ hmem)) hrest
      exact ⟨rfl, hys⟩

/-- The part after the last separator is read off. -/
theorem last_part (h : sep ∉ ys) (h' : sep ∉ ys') (heq : xs ++ sep :: ys = xs' ++ sep :: ys') :
    xs = xs' ∧ ys = ys' := by
  have hreverse : ys.reverse ++ sep :: xs.reverse = ys'.reverse ++ sep :: xs'.reverse := by
    simpa using congrArg List.reverse heq
  obtain ⟨hys, hxs⟩ := first_part (by simpa using h) (by simpa using h') hreverse
  exact ⟨List.reverse_injective hxs, List.reverse_injective hys⟩

theorem join_front (hx : sep ∉ xs) (hx' : sep ∉ xs') (hy : sep ∉ ys) (hy' : sep ∉ ys')
    (heq : join sep xs ys zs = join sep xs' ys' zs') : xs = xs' ∧ ys = ys' ∧ zs = zs' := by
  obtain ⟨hxs, hrest⟩ := first_part hx hx' heq
  exact ⟨hxs, first_part hy hy' hrest⟩

/-- Only the middle part may hold the separator. -/
theorem join_outer (hx : sep ∉ xs) (hx' : sep ∉ xs') (hz : sep ∉ zs) (hz' : sep ∉ zs')
    (heq : join sep xs ys zs = join sep xs' ys' zs') : xs = xs' ∧ ys = ys' ∧ zs = zs' := by
  obtain ⟨hxs, hrest⟩ := first_part hx hx' heq
  exact ⟨hxs, last_part hz hz' hrest⟩

end delimited
