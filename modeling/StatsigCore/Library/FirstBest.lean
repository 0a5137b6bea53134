-- The first of the best elements of a list: a scan that keeps the best one so far finds it, and a
-- stable sort puts it in front.
import Mathlib.Data.List.Sort

namespace first_best

variable {α : Type} (le : α → α → Bool)

/-- What comes before the element is worse, and what comes after it is no better. -/
def IsFirstBest (xs : List α) (a : α) : Prop :=
  ∃ front back, xs = front ++ a :: back ∧ (∀ x ∈ front, le x a = false) ∧ ∀ x ∈ back, le a x = true

/-- One turn of a scan. The best element so far stays, unless the next one is better. -/
def pick (best : Option α) (x : α) : Option α :=
  match best with
  | none => some x
  | some b => if le b x then some b else some x

variable {le} {xs : List α} {a : α}

theorem foldl_pick_stays (hback : ∀ x ∈ xs, le a x = true) :
    xs.foldl (pick le) (some a) = some a := by
  induction xs with
  | nil => rfl
  | cons x xs ih =>
    rw [List.foldl_cons, pick, if_pos (hback x List.mem_cons_self)]
    exact ih fun y hy => hback y (List.mem_cons_of_mem x hy)

theorem foldl_pick_mem {best : Option α} (h : xs.foldl (pick le) best = some a) :
    a ∈ xs ∨ best = some a := by
  induction xs generalizing best with
  | nil => exact .inr h
  | cons x xs ih =>
    rcases ih h with hmem | hpick
    · exact .inl (List.mem_cons_of_mem x hmem)
    · unfold pick at hpick
      split at hpick
      · cases hpick
        exact .inl List.mem_cons_self
      · split at hpick
        · exact .inr hpick
        · cases hpick
          exact .inl List.mem_cons_self

/-- The scan finds the first of the best. -/
theorem foldl_pick_eq (h : IsFirstBest le xs a) : xs.foldl (pick le) none = some a := by
  obtain ⟨front, back, rfl, hfront, hback⟩ := h
  rw [List.foldl_append, List.foldl_cons]
  have hturn : pick le (front.foldl (pick le) none) a = some a := by
    cases hbest : front.foldl (pick le) none with
    | none => rfl
    | some b =>
      have hb : b ∈ front := by
        rcases foldl_pick_mem hbest with hmem | hnone
        · exact hmem
        · cases hnone
      simp [pick, hfront b hb]
  rw [hturn]
  exact foldl_pick_stays hback

/-- The first best of the images of a list is the image of an element, and the images of the
elements in front of it are worse. -/
theorem of_filterMap {β : Type} {f : β → Option α} {ys : List β}
    (h : IsFirstBest le (ys.filterMap f) a) :
    ∃ front y back, ys = front ++ y :: back ∧ f y = some a ∧
      (∀ x ∈ front, ∀ b, f x = some b → le b a = false) ∧
      ∀ x ∈ back, ∀ b, f x = some b → le a b = true := by
  obtain ⟨front, back, hsplit, hfront, hback⟩ := h
  obtain ⟨l₁, l₂, rfl, rfl, hrest⟩ := List.filterMap_eq_append_iff.mp hsplit
  obtain ⟨l₃, y, l₄, rfl, hnone, hy, rfl⟩ := List.filterMap_eq_cons_iff.mp hrest
  refine ⟨l₁ ++ l₃, y, l₄, by simp, hy, ?_, ?_⟩
  · intro x hx b hb
    rcases List.mem_append.mp hx with hx | hx
    · exact hfront b (List.mem_filterMap.mpr ⟨x, hx, hb⟩)
    · rw [hnone x hx] at hb
      cases hb
  · intro x hx b hb
    exact hback b (List.mem_filterMap.mpr ⟨x, hx, hb⟩)

theorem map_of_split {β : Type} {f : β → α} {front back : List β} {y : β}
    (hfront : ∀ x ∈ front, le (f x) (f y) = false) (hback : ∀ x ∈ back, le (f y) (f x) = true) :
    IsFirstBest le ((front ++ y :: back).map f) (f y) := by
  refine ⟨front.map f, back.map f, by simp, ?_, ?_⟩
  · intro a ha
    obtain ⟨x, hx, rfl⟩ := List.mem_map.mp ha
    exact hfront x hx
  · intro a ha
    obtain ⟨x, hx, rfl⟩ := List.mem_map.mp ha
    exact hback x hx

section Sorted

variable (trans : ∀ a b c, le a b = true → le b c = true → le a c = true)
  (total : ∀ a b, (le a b || le b a) = true)

include trans total

/-- A list that is not empty has a first best element. -/
theorem exists_first_best (hne : xs ≠ []) : ∃ a, IsFirstBest le xs a := by
  induction xs with
  | nil => exact absurd rfl hne
  | cons x xs ih =>
    by_cases hxs : xs = []
    · subst hxs
      exact ⟨x, [], [], rfl, by simp, by simp⟩
    · obtain ⟨a, front, back, rfl, hfront, hback⟩ := ih hxs
      cases hxa : le x a with
      | false =>
        refine ⟨a, x :: front, back, rfl, ?_, hback⟩
        intro y hy
        rcases List.mem_cons.mp hy with rfl | hy
        · exact hxa
        · exact hfront y hy
      | true =>
        refine ⟨x, [], _, rfl, by simp, ?_⟩
        intro y hy
        apply trans x a y hxa
        rcases List.mem_append.mp hy with hy | hy
        · have hya := hfront y hy
          have htotal := total a y
          rw [hya, Bool.or_false] at htotal
          exact htotal
        · rcases List.mem_cons.mp hy with rfl | hy
          · simpa using total y y
          · exact hback y hy

/-- The stable sort puts the first of the best in front. -/
theorem head_mergeSort (h : IsFirstBest le xs a) : (xs.mergeSort le).head? = some a := by
  obtain ⟨front, back, rfl, hfront, hback⟩ := h
  induction front with
  | nil =>
    obtain ⟨worse, rest, hsort, hrest, hworse⟩ := List.mergeSort_cons trans total a back
    have hempty : worse = [] := by
      rw [List.eq_nil_iff_forall_not_mem]
      intro b hb
      have hback_b : b ∈ back := by
        rw [← @List.mem_mergeSort _ le, hrest]
        exact List.mem_append_left rest hb
      have := hworse b hb
      rw [hback b hback_b] at this
      cases this
    rw [List.nil_append, hsort, hempty]
    rfl
  | cons x front ih =>
    have hhead := ih fun y hy => hfront y (List.mem_cons_of_mem x hy)
    have hxa := hfront x List.mem_cons_self
    obtain ⟨worse, rest, hsort, hrest, -⟩ :=
      List.mergeSort_cons trans total x (front ++ a :: back)
    have hsorted := List.pairwise_mergeSort trans total (x :: (front ++ a :: back))
    rw [List.cons_append, hsort]
    rw [hrest] at hhead
    rw [hsort] at hsorted
    cases worse with
    | nil =>
      have ha : a ∈ rest := List.mem_of_mem_head? hhead
      have := List.rel_of_pairwise_cons hsorted ha
      rw [hxa] at this
      cases this
    | cons y worse => exact hhead

end Sorted

end first_best
