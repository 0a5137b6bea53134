-- Threads as the list of the phases that they are in. One of them moves at a time.
import Mathlib.Tactic.Common

namespace threads

variable {φ : Type} {l : List φ} {p : φ → Bool} {i : Nat} {phase : φ}

/-- How many threads are in a phase, after one of them has moved. -/
theorem count_set (h : l[i]? = some phase) (next : φ) :
    (l.set i next).countP p + (p phase).toNat = l.countP p + (p next).toNat := by
  obtain ⟨hi, hphase⟩ := List.getElem?_eq_some_iff.mp h
  have hpos : (p phase).toNat ≤ l.countP p := by
    cases hp : p phase with
    | false => exact Nat.zero_le _
    | true => exact List.countP_pos_iff.mpr ⟨phase, List.mem_of_getElem? h, hp⟩
  rw [List.countP_set hi, hphase]
  cases hp : p phase with
  | false => cases p next <;> simp
  | true =>
    rw [hp, Bool.toNat_true] at hpos
    cases p next
    · simp
      omega
    · simp
      omega

/-- A phase that the moving thread does not leave is still there. -/
theorem remains_after_set (hi : l[i]? = some phase) (hphase : p phase = false) (next : φ)
    (h : ∃ other ∈ l, p other = true) : ∃ other ∈ l.set i next, p other = true := by
  have hcount := @count_set _ l p i phase hi next
  rw [hphase, Bool.toNat_false] at hcount
  apply List.countP_pos_iff.mp
  have hpos := List.countP_pos_iff.mpr h
  omega

/-- What the moving thread keeps is still there. -/
theorem kept_after_set {next : φ} (hi : l[i]? = some phase) (hkeep : p phase = true → p next = true)
    (h : ∃ other ∈ l, p other = true) : ∃ other ∈ l.set i next, p other = true := by
  have hcount := @count_set _ l p i phase hi next
  apply List.countP_pos_iff.mp
  have hpos := List.countP_pos_iff.mpr h
  cases hphase : p phase with
  | false =>
    rw [hphase, Bool.toNat_false] at hcount
    omega
  | true =>
    rw [hphase, hkeep hphase] at hcount
    omega

/-- The phase of the thread that has moved. -/
theorem mem_after_set (hi : l[i]? = some phase) (next : φ) : next ∈ l.set i next := by
  obtain ⟨hlt, -⟩ := List.getElem?_eq_some_iff.mp hi
  exact List.mem_set hlt next

end threads
