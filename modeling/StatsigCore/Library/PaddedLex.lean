-- Lists of different lengths in the lexicographic order, the shorter one padded with zeros.
import Mathlib.Data.List.GetD
import Mathlib.Order.PiLex

namespace padded

variable {α : Type} [Zero α]

/-- The list as a sequence that goes on with zeros. -/
def sequence (xs : List α) : Lex (ℕ → α) := toLex fun i => xs.getD i 0

@[simp] theorem sequence_zero (xs : List α) : sequence xs 0 = xs.headD 0 := by
  cases xs with
  | nil => rfl
  | cons x xs => rfl

@[simp] theorem sequence_succ (xs : List α) (i : ℕ) : sequence xs (i + 1) = sequence xs.tail i := by
  cases xs with
  | nil => rfl
  | cons x xs => rfl

theorem sequence_eq_iff (xs ys : List α) :
    sequence xs = sequence ys ↔ xs.headD 0 = ys.headD 0 ∧ sequence xs.tail = sequence ys.tail := by
  constructor
  · intro h
    refine ⟨by simpa using congrFun h 0, ?_⟩
    funext i
    simpa using congrFun h (i + 1)
  · rintro ⟨hhead, htail⟩
    funext i
    cases i with
    | zero => simpa using hhead
    | succ i => simpa using congrFun htail i

theorem sequence_lt_iff [LT α] (xs ys : List α) :
    sequence xs < sequence ys ↔ xs.headD 0 < ys.headD 0 ∨
      xs.headD 0 = ys.headD 0 ∧ sequence xs.tail < sequence ys.tail := by
  constructor
  · rintro ⟨i, hbefore, hlt⟩
    cases i with
    | zero => exact .inl (by simpa using hlt)
    | succ i =>
      refine .inr ⟨by simpa using hbefore 0 (Nat.succ_pos i), i, ?_, by simpa using hlt⟩
      intro j hj
      simpa using hbefore (j + 1) (Nat.succ_lt_succ hj)
  · rintro (hlt | ⟨hhead, i, hbefore, hlt⟩)
    · exact ⟨0, fun j hj => absurd hj (Nat.not_lt_zero j), by simpa using hlt⟩
    · refine ⟨i + 1, ?_, by simpa using hlt⟩
      intro j hj
      cases j with
      | zero => simpa using hhead
      | succ j => simpa using hbefore j (Nat.lt_of_succ_lt_succ hj)

/-- Zeros at the end change nothing. -/
theorem sequence_append_zeros (xs : List α) (zeros : ℕ) :
    sequence (xs ++ List.replicate zeros 0) = sequence xs := by
  induction xs with
  | nil =>
    funext i
    simp only [sequence, List.nil_append, Pi.toLex_apply]
    rcases Nat.lt_or_ge i zeros with hi | hi
    · rw [List.getD_eq_getElem _ _ (by simpa using hi)]
      simp
    · rw [List.getD_eq_default _ _ (by simpa using hi)]
      simp
  | cons x xs ih =>
    rw [sequence_eq_iff]
    exact ⟨rfl, ih⟩

end padded
