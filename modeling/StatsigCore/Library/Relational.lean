-- Two runs side by side. They start from states that are related, both give the same value,
-- and they end in states that are related again.
import StatsigCore.Library.Program

namespace program

variable {σ ε α β : Type}

/-- From related states, both programs return, with the same value and related states. -/
def Agree (P : σ → σ → Prop) (x y : Program σ ε α) (Q : α → σ → σ → Prop) : Prop :=
  ∀ s t, P s t → ∃ a s' t', x s = .ok a s' ∧ y t = .ok a t' ∧ Q a s' t'

section Agree

variable {P P' : σ → σ → Prop} {Q Q' : α → σ → σ → Prop} {R : β → σ → σ → Prop}
  {x y : Program σ ε α} {f g : α → Program σ ε β}

/-- The rule of consequence. -/
theorem Agree.weaken (h : Agree P x y Q) (hP : ∀ s t, P' s t → P s t)
    (hQ : ∀ a s t, Q a s t → Q' a s t) : Agree P' x y Q' := by
  intro s t hst
  obtain ⟨a, s', t', hx, hy, hq⟩ := h s t (hP s t hst)
  exact ⟨a, s', t', hx, hy, hQ a s' t' hq⟩

theorem Agree.pre (h : Agree P x y Q) (hP : ∀ s t, P' s t → P s t) : Agree P' x y Q :=
  h.weaken hP fun _ _ _ hq => hq

theorem Agree.post (h : Agree P x y Q) (hQ : ∀ a s t, Q a s t → Q' a s t) : Agree P x y Q' :=
  h.weaken (fun _ _ hp => hp) hQ

theorem agree_pure {a : α} (h : ∀ s t, P s t → Q a s t) :
    Agree P (pure a : Program σ ε α) (pure a) Q :=
  fun s t hst => ⟨a, s, t, rfl, rfl, h s t hst⟩

theorem agree_update {u : σ → σ} {Q : Unit → σ → σ → Prop} (h : ∀ s t, P s t → Q () (u s) (u t)) :
    Agree P (update u : Program σ ε Unit) (update u) Q :=
  fun s t hst => ⟨(), u s, u t, rfl, rfl, h s t hst⟩

/-- The rule of sequence. -/
theorem Agree.bind (h : Agree P x y Q) (hf : ∀ a, Agree (Q a) (f a) (g a) R) :
    Agree P (x >>= f) (y >>= g) R := by
  intro s t hst
  obtain ⟨a, s', t', hx, hy, hq⟩ := h s t hst
  obtain ⟨b, s'', t'', hfx, hgy, hr⟩ := hf a s' t' hq
  refine ⟨b, s'', t'', ?_, ?_, hr⟩
  · rw [bind_apply, hx]
    exact hfx
  · rw [bind_apply, hy]
    exact hgy

theorem agree_update_bind {u : σ → σ} {f g : Unit → Program σ ε β} {M : σ → σ → Prop}
    (h : ∀ s t, P s t → M (u s) (u t)) (hf : Agree M (f ()) (g ()) R) :
    Agree P (update u >>= f) (update u >>= g) R :=
  fun s t hst => hf (u s) (u t) (h s t hst)

/-- Each run reads its own state. -/
theorem agree_state {f g : σ → Program σ ε β}
    (hf : ∀ s t, P s t → Agree (fun s' t' => s' = s ∧ t' = t) (f s) (g t) R) :
    Agree P (state >>= f) (state >>= g) R :=
  fun s t hst => hf s t hst s t ⟨rfl, rfl⟩

/-- The same, where the rest of the runs needs only the precondition. -/
theorem agree_state_any {f g : σ → Program σ ε β} (hf : ∀ s t, P s t → Agree P (f s) (g t) R) :
    Agree P (state >>= f) (state >>= g) R :=
  fun s t hst => hf s t hst s t hst

theorem Agree.attempt (h : Agree P x y Q) :
    Agree P (attempt x) (attempt y) (fun r s t => ∃ a, r = .ok a ∧ Q a s t) := by
  intro s t hst
  obtain ⟨a, s', t', hx, hy, hq⟩ := h s t hst
  refine ⟨.ok a, s', t', ?_, ?_, a, rfl, hq⟩
  · unfold program.attempt
    rw [hx]
  · unfold program.attempt
    rw [hy]

/-- What is known of the first run alone. -/
theorem Agree.and_left {P₁ : σ → Prop} {Q₁ : α → σ → Prop} {E : ε → σ → Prop} {D : Prop}
    (h : Agree P x y Q) (h₁ : Triple P₁ x Q₁ E D) (hP : ∀ s t, P s t → P₁ s) :
    Agree P x y (fun a s t => Q a s t ∧ Q₁ a s) := by
  intro s t hst
  obtain ⟨a, s', t', hx, hy, hq⟩ := h s t hst
  have hone := h₁ s (hP s t hst)
  rw [hx] at hone
  exact ⟨a, s', t', hx, hy, hq, hone⟩

end Agree

end program
