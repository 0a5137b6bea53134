-- Loops that go on or return. A turn that goes on gives the next state. A loop ends when every
-- turn of it makes a rank smaller, and it never ends once it comes to a state that is stuck.
import Mathlib.Logic.Basic

namespace loop

variable {σ : Type} {turn : σ → Option σ}

/-- The state after some turns that went on. -/
def after (turn : σ → Option σ) : Nat → σ → Option σ
  | 0, s => some s
  | turns + 1, s => (turn s).bind (after turn turns)

theorem after_add (m n : Nat) (s : σ) :
    after turn (m + n) s = (after turn m s).bind (after turn n) := by
  induction m generalizing s with
  | zero => simp [after]
  | succ m ih =>
    rw [Nat.add_right_comm, after, after, Option.bind_assoc]
    congr 1
    funext s'
    exact ih s'

theorem ends_of_rank (rank : σ → Nat) {s : σ}
    (hrank : ∀ n t t', after turn n s = some t → turn t = some t' → rank t' < rank t) :
    ∃ n, after turn n s = none := by
  generalize hk : rank s = k
  induction k using Nat.strongRecOn generalizing s with
  | ind k ih =>
    cases hs : turn s with
    | none => exact ⟨1, by rw [after, hs, Option.bind_none]⟩
    | some s' =>
      have hlt := hrank 0 s s' rfl hs
      have hrest : ∀ n t t', after turn n s' = some t → turn t = some t' → rank t' < rank t := by
        intro n t t' ht
        apply hrank (n + 1)
        rw [after, hs]
        exact ht
      obtain ⟨n, hn⟩ := ih (rank s') (hk ▸ hlt) hrest rfl
      refine ⟨n + 1, ?_⟩
      rw [after, hs]
      exact hn

/-- What is stuck goes on for as many turns as there may be. -/
theorem goes_on_of_stuck {Stuck : σ → Prop}
    (hstuck : ∀ s, Stuck s → ∃ s', turn s = some s' ∧ Stuck s') {s : σ} (hs : Stuck s) (n : Nat) :
    ∃ s', after turn n s = some s' := by
  induction n generalizing s with
  | zero => exact ⟨s, rfl⟩
  | succ n ih =>
    obtain ⟨s', hturn, hs'⟩ := hstuck s hs
    obtain ⟨t, ht⟩ := ih hs'
    refine ⟨t, ?_⟩
    rw [after, hturn]
    exact ht

/-- A loop that comes to a stuck state never ends. -/
theorem never_ends {Stuck : σ → Prop} (hstuck : ∀ s, Stuck s → ∃ s', turn s = some s' ∧ Stuck s')
    {s t : σ} {n : Nat} (ht : after turn n s = some t) (hs : Stuck t) (m : Nat) :
    after turn m s ≠ none := by
  intro hnone
  obtain ⟨t', ht'⟩ := goes_on_of_stuck hstuck hs m
  have hfull : after turn (n + m) s = some t' := by
    rw [after_add, ht]
    exact ht'
  rw [Nat.add_comm, after_add, hnone] at hfull
  cases hfull

end loop
