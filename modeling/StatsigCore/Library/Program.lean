-- Programs that change a state, may fail with an error, and may call
-- themselves. A recursive program runs to a bounded depth: a call past the
-- bound ends in `deep`, and nothing catches `deep`. So a run that is not
-- `deep` is a run that ends.
import Mathlib.Logic.Basic

namespace program

/-- How a run ends. An error keeps the state that the run had reached, as a
`Result::Err` keeps what was written through a `&mut`. -/
inductive Outcome (σ ε α : Type) where
  | ok (a : α) (s : σ)
  | err (e : ε) (s : σ)
  | deep

def Program (σ ε α : Type) : Type := σ → Outcome σ ε α

variable {σ ε α β : Type}

/-- What runs after a step, by how the step ended. -/
def Outcome.andThen : Outcome σ ε α → (α → Program σ ε β) → Outcome σ ε β
  | .ok a s, f => f a s
  | .err e s, _ => .err e s
  | .deep, _ => .deep

instance : Monad (Program σ ε) where
  pure a := fun s => .ok a s
  bind x f := fun s => (x s).andThen f

def state : Program σ ε σ := fun s => .ok s s

def update (f : σ → σ) : Program σ ε Unit := fun s => .ok () (f s)

/-- The `match` on a `Result` that goes on after an error. -/
def attempt (x : Program σ ε α) : Program σ ε (Except ε α) := fun s =>
  match x s with
  | .ok a s' => .ok (.ok a) s'
  | .err e s' => .ok (.error e) s'
  | .deep => .deep

theorem bind_apply (x : Program σ ε α) (f : α → Program σ ε β) (s : σ) :
    (x >>= f) s = (x s).andThen f := rfl

@[simp] theorem state_bind (f : σ → Program σ ε β) (s : σ) :
    ((state : Program σ ε σ) >>= f) s = f s s := rfl

@[simp] theorem update_bind (g : σ → σ) (f : Unit → Program σ ε β) (s : σ) :
    ((update g : Program σ ε Unit) >>= f) s = f () (g s) := rfl

@[simp] theorem pure_bind_apply (a : α) (f : α → Program σ ε β) (s : σ) :
    ((pure a : Program σ ε α) >>= f) s = f a s := rfl

@[simp] theorem andThen_ok (a : α) (s : σ) (f : α → Program σ ε β) :
    (Outcome.ok a s : Outcome σ ε α).andThen f = f a s := rfl

theorem pure_bind_eq (a : α) (f : α → Program σ ε β) : (pure a : Program σ ε α) >>= f = f a := rfl

/-- What follows has to be the same only after the runs that there are. -/
theorem bind_congr_run {x : Program σ ε α} {f g : α → Program σ ε β} {s : σ}
    (h : ∀ a s', x s = .ok a s' → f a s' = g a s') : (x >>= f) s = (x >>= g) s := by
  rw [bind_apply, bind_apply]
  cases hrun : x s with
  | ok a s' => exact h a s' hrun
  | err e s' => rfl
  | deep => rfl

theorem bind_bind {γ : Type} (x : Program σ ε α) (f : α → Program σ ε β)
    (g : β → Program σ ε γ) : (x >>= f) >>= g = x >>= fun a => f a >>= g := by
  funext s
  simp only [bind_apply]
  cases x s with
  | ok a s' => rfl
  | err e s' => rfl
  | deep => rfl

/-- A run of two steps that gives a value is a run of each. -/
theorem ok_of_bind {x : Program σ ε α} {f : α → Program σ ε β} {s t : σ} {b : β}
    (h : (x >>= f) s = .ok b t) : ∃ a s', x s = .ok a s' ∧ f a s' = .ok b t := by
  rw [bind_apply] at h
  cases hx : x s with
  | ok a s' =>
    rw [hx] at h
    exact ⟨a, s', rfl, h⟩
  | err e s' =>
    rw [hx] at h
    cases h
  | deep =>
    rw [hx] at h
    cases h

/-! ## Postconditions -/

/-- The run ends with `Q` on a value and with `E` on an error. `D` says what is
known when it runs out of depth: `False` when it must not. -/
def Outcome.Meets (o : Outcome σ ε α) (Q : α → σ → Prop) (E : ε → σ → Prop) (D : Prop) : Prop :=
  match o with
  | .ok a s => Q a s
  | .err e s => E e s
  | .deep => D

/-- From every state with `P`, the program meets its postconditions. -/
def Triple (P : σ → Prop) (x : Program σ ε α) (Q : α → σ → Prop) (E : ε → σ → Prop) (D : Prop) :
    Prop :=
  ∀ s, P s → (x s).Meets Q E D

section Triple

variable {o : Outcome σ ε α} {x : Program σ ε α} {f : α → Program σ ε β} {P P' : σ → Prop}
  {Q Q' : α → σ → Prop} {R : β → σ → Prop} {E F : ε → σ → Prop} {D : Prop}

@[simp] theorem meets_ok (a : α) (s : σ) :
    (Outcome.ok a s : Outcome σ ε α).Meets Q E D ↔ Q a s := Iff.rfl

@[simp] theorem meets_err (e : ε) (s : σ) :
    (Outcome.err e s : Outcome σ ε α).Meets Q E D ↔ E e s := Iff.rfl

@[simp] theorem meets_deep : (Outcome.deep : Outcome σ ε α).Meets Q E D ↔ D := Iff.rfl

theorem Outcome.Meets.mono (h : o.Meets Q E D) (hQ : ∀ a s, Q a s → Q' a s)
    (hE : ∀ e s, E e s → F e s) : o.Meets Q' F D := by
  cases o with
  | ok a s => exact hQ a s h
  | err e s => exact hE e s h
  | deep => exact h

/-- What goes on after a value need only agree where the value may be. -/
theorem Outcome.Meets.andThen_congr {f g : α → Program σ ε β} (h : o.Meets Q E D)
    (hfg : ∀ a s, Q a s → f a s = g a s) : o.andThen f = o.andThen g := by
  cases o with
  | ok a s => exact hfg a s h
  | err e s => rfl
  | deep => rfl

theorem Outcome.Meets.bind_congr {x : Program σ ε α} {f g : α → Program σ ε β} {s : σ}
    (h : (x s).Meets Q E D) (hfg : ∀ a s', Q a s' → f a s' = g a s') : (x >>= f) s = (x >>= g) s :=
  h.andThen_congr hfg

theorem Outcome.Meets.not_deep (h : o.Meets Q E False) : o ≠ .deep := by
  rintro rfl
  exact h

/-- A run that may neither fail nor run out of depth gives a value. -/
theorem Outcome.Meets.gives (h : o.Meets Q (fun _ _ => False) False) :
    ∃ a s, o = .ok a s ∧ Q a s := by
  cases o with
  | ok a s => exact ⟨a, s, rfl, h⟩
  | err e s => exact h.elim
  | deep => exact h.elim

/-- The rule of consequence. -/
theorem Triple.weaken (h : Triple P x Q E D) (hP : ∀ s, P' s → P s) (hQ : ∀ a s, Q a s → Q' a s)
    (hE : ∀ e s, E e s → F e s) : Triple P' x Q' F D := by
  intro s hs
  exact (h s (hP s hs)).mono hQ hE

theorem Triple.pre (h : Triple P x Q E D) (hP : ∀ s, P' s → P s) : Triple P' x Q E D :=
  h.weaken hP (fun _ _ h => h) (fun _ _ h => h)

theorem Triple.and {Q₁ Q₂ : α → σ → Prop} {E₁ E₂ : ε → σ → Prop} (h : Triple P x Q₁ E₁ D)
    (h' : Triple P x Q₂ E₂ True) :
    Triple P x (fun a s => Q₁ a s ∧ Q₂ a s) (fun e s => E₁ e s ∧ E₂ e s) D := by
  intro s hs
  have h₁ := h s hs
  have h₂ := h' s hs
  cases hx : x s with
  | ok a s' =>
    rw [hx] at h₁ h₂
    exact ⟨h₁, h₂⟩
  | err e s' =>
    rw [hx] at h₁ h₂
    exact ⟨h₁, h₂⟩
  | deep =>
    rw [hx] at h₁
    exact h₁

/-- Every run meets the weakest postconditions. -/
theorem triple_true (x : Program σ ε α) :
    Triple P x (fun _ _ => True) (fun _ _ => True) True := by
  intro s _
  cases x s <;> trivial

theorem triple_pure {a : α} (h : ∀ s, P s → Q a s) : Triple P (pure a : Program σ ε α) Q E D := h

theorem triple_update {g : σ → σ} {Q : Unit → σ → Prop} (h : ∀ s, P s → Q () (g s)) :
    Triple P (update g : Program σ ε Unit) Q E D := h

/-- The rule of sequence: the postcondition of the first step is the
precondition of the second. -/
theorem Triple.bind (h : Triple P x Q E D) (hf : ∀ a, Triple (Q a) (f a) R E D) :
    Triple P (x >>= f) R E D := by
  intro s hs
  have hx := h s hs
  rw [bind_apply]
  cases hxs : x s with
  | ok a s' =>
    rw [hxs] at hx
    exact hf a s' hx
  | err e s' =>
    rw [hxs] at hx
    exact hx
  | deep =>
    rw [hxs] at hx
    exact hx

theorem triple_update_bind {g : σ → σ} {f : Unit → Program σ ε β} {M : σ → Prop}
    (h : ∀ s, P s → M (g s)) (hf : Triple M (f ()) R E D) : Triple P (update g >>= f) R E D :=
  fun s hs => hf (g s) (h s hs)

/-- Reading the state, and keeping what was known of it. -/
theorem triple_state_bind {f : σ → Program σ ε β}
    (hf : ∀ s₀, P s₀ → Triple (fun s => s = s₀) (f s₀) R E D) :
    Triple P (state >>= f) R E D :=
  fun s hs => hf s hs s rfl

/-- Reading the state, where the rest of the run needs only the precondition. -/
theorem triple_state_any {f : σ → Program σ ε β} (hf : ∀ s₀, Triple P (f s₀) R E D) :
    Triple P (state >>= f) R E D :=
  fun s hs => hf s s hs

/-- After an attempt, both ends of the run go on. -/
theorem Triple.attempt {R : Except ε α → σ → Prop}
    (h : Triple P x (fun a => R (.ok a)) (fun e => R (.error e)) D) :
    Triple P (attempt x) R E D := by
  intro s hs
  have hx := h s hs
  unfold program.attempt
  cases hxs : x s with
  | ok a s' =>
    rw [hxs] at hx
    exact hx
  | err e s' =>
    rw [hxs] at hx
    exact hx
  | deep =>
    rw [hxs] at hx
    exact hx

end Triple

/-! ## Runs and their steps -/

section Steps

variable {ι : Type} {o : Outcome σ ε α} {x : Program σ ε α} {f : α → Program σ ε β} {s : σ}
  {allowed fits : ι → Prop} {steps : List ι} {next : α → σ → List ι} {Q Q' : α → σ → Prop}
  {R : β → σ → Prop} {E E' : ε → σ → Prop} {D : Prop}

/-- What goes on after a run, when it gives a value. -/
def onward (o : Outcome σ ε α) (next : α → σ → List ι) : List ι :=
  match o with
  | .ok a s => next a s
  | _ => []

theorem onward_nil : onward o (fun _ _ => ([] : List ι)) = [] := by
  cases o <;> rfl

theorem forall_mem_onward {p : ι → Prop} (h : ∀ a s, o = .ok a s → ∀ i ∈ next a s, p i) :
    ∀ i ∈ onward o next, p i := by
  cases o with
  | ok a s => exact h a s rfl
  | err e s => exact List.forall_mem_nil _
  | deep => exact List.forall_mem_nil _

/-- Where all the steps that it takes are allowed, they all fit, and the run meets its
postconditions. -/
def Takes (allowed fits : ι → Prop) (s : σ) (x : Program σ ε α) (steps : List ι)
    (Q : α → σ → Prop) (E : ε → σ → Prop) (D : Prop) : Prop :=
  (∀ i ∈ steps, allowed i) → (∀ i ∈ steps, fits i) ∧ (x s).Meets Q E D

/-- A run that takes no steps. -/
theorem takes_none (h : (x s).Meets Q E D) : Takes allowed fits s x [] Q E D :=
  fun _ => ⟨List.forall_mem_nil _, h⟩

theorem takes_pure {a : α} (h : Q a s) :
    Takes allowed fits s (pure a : Program σ ε α) [] Q E D := takes_none h

theorem takes_update_pure {a : α} {g : σ → σ} (h : Q a (g s)) :
    Takes allowed fits s (update g >>= fun _ => pure a : Program σ ε α) [] Q E D := takes_none h

/-- One step alone, and the run with it. -/
theorem takes_one {i : ι} (hfits : fits i) (h : allowed i → (x s).Meets Q E D) :
    Takes allowed fits s x [i] Q E D := by
  intro hsteps
  exact ⟨List.forall_mem_singleton.mpr hfits, h (hsteps i (List.mem_singleton.mpr rfl))⟩

/-- The first step alone, the rest after it. -/
theorem takes_cons {i : ι} (hfits : fits i)
    (h : allowed i → Takes allowed fits s x steps Q E D) :
    Takes allowed fits s x (i :: steps) Q E D := by
  intro hsteps
  obtain ⟨hi, hrest⟩ := List.forall_mem_cons.mp hsteps
  obtain ⟨hfit, hrun⟩ := h hi hrest
  exact ⟨List.forall_mem_cons.mpr ⟨hfits, hfit⟩, hrun⟩

theorem Takes.weaken (h : Takes allowed fits s x steps Q E D) (hQ : ∀ a s, Q a s → Q' a s)
    (hE : ∀ e s, E e s → E' e s) : Takes allowed fits s x steps Q' E' D := by
  intro hsteps
  obtain ⟨hfit, hrun⟩ := h hsteps
  exact ⟨hfit, hrun.mono hQ hE⟩

/-- The steps of the second run come after those of the first. -/
theorem Takes.bind (hx : Takes allowed fits s x steps Q E D)
    (hf : ∀ a s', Q a s' → Takes allowed fits s' (f a) (next a s') R E D) :
    Takes allowed fits s (x >>= f) (steps ++ onward (x s) next) R E D := by
  intro hsteps
  obtain ⟨hfirst, hrest⟩ := List.forall_mem_append.mp hsteps
  obtain ⟨hfit, hrun⟩ := hx hfirst
  rw [bind_apply, List.forall_mem_append]
  cases hxs : x s with
  | ok a s' =>
    rw [hxs] at hrun hrest
    obtain ⟨hfit', hrun'⟩ := hf a s' hrun hrest
    exact ⟨⟨hfit, hfit'⟩, hrun'⟩
  | err e s' =>
    rw [hxs] at hrun
    exact ⟨⟨hfit, List.forall_mem_nil _⟩, hrun⟩
  | deep =>
    rw [hxs] at hrun
    exact ⟨⟨hfit, List.forall_mem_nil _⟩, hrun⟩

/-- A second run that takes no steps. -/
theorem Takes.bind_quiet (hx : Takes allowed fits s x steps Q E D)
    (hf : ∀ a s', Q a s' → (f a s').Meets R E D) :
    Takes allowed fits s (x >>= f) steps R E D := by
  have hbind : Takes allowed fits s (x >>= f) (steps ++ onward (x s) fun _ _ => []) R E D :=
    hx.bind fun a s' hQ => takes_none (hf a s' hQ)
  rwa [onward_nil, List.append_nil] at hbind

/-- A first run that takes no steps. -/
theorem takes_after (hx : (x s).Meets Q E D)
    (hf : ∀ a s', Q a s' → Takes allowed fits s' (f a) (next a s') R E D) :
    Takes allowed fits s (x >>= f) (onward (x s) next) R E D :=
  (takes_none hx).bind hf

theorem takes_after_update {g : σ → σ} {f : Unit → Program σ ε β}
    (h : Takes allowed fits (g s) (f ()) steps R E D) :
    Takes allowed fits s (update g >>= f) steps R E D := h

theorem takes_state {f : σ → Program σ ε β} (h : Takes allowed fits s (f s) steps R E D) :
    Takes allowed fits s (state >>= f) steps R E D := h

theorem Takes.attempt {R : Except ε α → σ → Prop}
    (h : Takes allowed fits s x steps (fun a => R (.ok a)) (fun e => R (.error e)) D) :
    Takes allowed fits s (attempt x) steps R E D := by
  intro hsteps
  obtain ⟨hfit, hrun⟩ := h hsteps
  refine ⟨hfit, ?_⟩
  unfold program.attempt
  cases hxs : x s with
  | ok a s' =>
    rw [hxs] at hrun
    exact hrun
  | err e s' =>
    rw [hxs] at hrun
    exact hrun
  | deep =>
    rw [hxs] at hrun
    exact hrun

/-- After an attempt that takes no steps, only a value leads to more of them. -/
theorem takes_after_attempt {E' : ε → σ → Prop} {f : Except ε α → Program σ ε β}
    (hx : (x s).Meets Q E D)
    (hok : ∀ a s', Q a s' → Takes allowed fits s' (f (.ok a)) (next a s') R E' D)
    (herr : ∀ e s', E e s' → (f (.error e) s').Meets R E' D) :
    Takes allowed fits s (program.attempt x >>= f) (onward (x s) next) R E' D := by
  intro hsteps
  rw [bind_apply]
  unfold program.attempt
  cases hxs : x s with
  | ok a s' =>
    rw [hxs] at hx hsteps
    exact hok a s' hx hsteps
  | err e s' =>
    rw [hxs] at hx
    exact ⟨List.forall_mem_nil _, herr e s' hx⟩
  | deep =>
    rw [hxs] at hx
    exact ⟨List.forall_mem_nil _, hx⟩

theorem Takes.and {Q₁ Q₂ : α → σ → Prop} (h : Takes allowed fits s x steps Q₁ E D)
    (h' : (x s).Meets Q₂ (fun _ _ => True) True) :
    Takes allowed fits s x steps (fun a s => Q₁ a s ∧ Q₂ a s) E D := by
  intro hsteps
  obtain ⟨hfit, hrun⟩ := h hsteps
  refine ⟨hfit, ?_⟩
  cases hxs : x s with
  | ok a s' =>
    rw [hxs] at hrun h'
    exact ⟨hrun, h'⟩
  | err e s' =>
    rw [hxs] at hrun
    exact hrun
  | deep =>
    rw [hxs] at hrun
    exact hrun

end Steps

/-! ## Runs to a smaller depth -/

/-- `x` gives what `y` gives, or runs out of depth first. -/
def Below (x y : Program σ ε α) : Prop := ∀ s, x s = .deep ∨ x s = y s

section Below

variable {x y : Program σ ε α} {f g : α → Program σ ε β}

theorem Below.refl (x : Program σ ε α) : Below x x := fun _ => .inr rfl

theorem below_deep (y : Program σ ε α) : Below (fun _ => .deep) y := fun _ => .inl rfl

theorem Below.bind (h : Below x y) (hf : ∀ a, Below (f a) (g a)) : Below (x >>= f) (y >>= g) := by
  intro s
  rw [bind_apply, bind_apply]
  rcases h s with hd | he
  · exact .inl (by rw [hd]; rfl)
  · rw [he]
    cases y s with
    | ok a s' => exact hf a s'
    | err e s' => exact .inr rfl
    | deep => exact .inl rfl

theorem Below.attempt (h : Below x y) : Below (attempt x) (attempt y) := by
  intro s
  unfold program.attempt
  rcases h s with hd | he
  · exact .inl (by rw [hd])
  · exact .inr (by rw [he])

/-- A run that must end with `p` of its state, or else counts as too deep. -/
def Outcome.demand (p : σ → Bool) : Outcome σ ε α → Outcome σ ε α
  | .ok a s => if p s then .ok a s else .deep
  | .err e s => if p s then .err e s else .deep
  | .deep => .deep

theorem demand_below (p : σ → Bool) (o : Outcome σ ε α) : o.demand p = .deep ∨ o.demand p = o := by
  cases o with
  | ok a s => simp only [Outcome.demand]; split <;> simp
  | err e s => simp only [Outcome.demand]; split <;> simp
  | deep => exact .inl rfl

theorem demand_of_meets {p : σ → Bool} {o : Outcome σ ε α} {D : Prop}
    (h : o.Meets (fun _ s => p s = true) (fun _ s => p s = true) D) : o.demand p = o := by
  cases o with
  | ok a s => exact if_pos h
  | err e s => exact if_pos h
  | deep => rfl

theorem Below.eq_of_not_deep (h : Below x y) {s : σ} (hs : x s ≠ .deep) : y s = x s := by
  rcases h s with hd | he
  · exact absurd hd hs
  · exact he.symm

end Below

/-! ## Runs from a changed state -/

def Outcome.map_state (g : σ → σ) : Outcome σ ε α → Outcome σ ε α
  | .ok a s => .ok a (g s)
  | .err e s => .err e (g s)
  | .deep => .deep

/-- Where all the steps of `x` are allowed, it makes no difference whether the state changes
after the run of `x` or before a run of `y`. -/
def Tracks {ι : Type} (allowed : ι → Prop) (g : σ → σ) (s : σ) (x y : Program σ ε α)
    (steps : List ι) : Prop :=
  (∀ i ∈ steps, allowed i) → (x s).map_state g = y (g s)

section Tracks

variable {ι : Type} {allowed : ι → Prop} {g : σ → σ} {s : σ} {x y : Program σ ε α}
  {f f' : α → Program σ ε β} {steps : List ι} {next : α → σ → List ι}

theorem tracks_none (h : (x s).map_state g = y (g s)) : Tracks allowed g s x y [] := fun _ => h

theorem tracks_pure (a : α) : Tracks allowed g s (pure a : Program σ ε α) (pure a) [] :=
  fun _ => rfl

theorem tracks_update {u : σ → σ} (h : g (u s) = u (g s)) :
    Tracks allowed g s (update u : Program σ ε Unit) (update u) [] := by
  intro _
  show Outcome.ok () (g (u s)) = _
  rw [h]
  rfl

/-- A program that ends with an update. -/
theorem tracks_update_pure {u : σ → σ} {b : β} (h : g (u s) = u (g s)) :
    Tracks allowed g s (update u >>= fun _ => pure b : Program σ ε β)
      (update u >>= fun _ => pure b) [] := by
  intro _
  show Outcome.ok b (g (u s)) = _
  rw [h]
  rfl

theorem tracks_cons {i : ι} (h : allowed i → Tracks allowed g s x y steps) :
    Tracks allowed g s x y (i :: steps) := by
  intro hsteps
  obtain ⟨hi, hrest⟩ := List.forall_mem_cons.mp hsteps
  exact h hi hrest

/-- One step alone. -/
theorem tracks_one {i : ι} (h : allowed i → (x s).map_state g = y (g s)) :
    Tracks allowed g s x y [i] :=
  fun hsteps => h (hsteps i (List.mem_singleton.mpr rfl))

/-- The second run starts in the state that the first one left. -/
theorem Tracks.bind (h : Tracks allowed g s x y steps)
    (hf : ∀ a s', x s = .ok a s' → Tracks allowed g s' (f a) (f' a) (next a s')) :
    Tracks allowed g s (x >>= f) (y >>= f') (steps ++ onward (x s) next) := by
  intro hsteps
  obtain ⟨hfirst, hrest⟩ := List.forall_mem_append.mp hsteps
  rw [bind_apply, bind_apply, ← h hfirst]
  cases hxs : x s with
  | ok a s' =>
    rw [hxs] at hrest
    exact hf a s' hxs hrest
  | err e s' => rfl
  | deep => rfl

/-- A first run that takes no steps. -/
theorem tracks_after (h : (x s).map_state g = y (g s))
    (hf : ∀ a s', x s = .ok a s' → Tracks allowed g s' (f a) (f' a) (next a s')) :
    Tracks allowed g s (x >>= f) (y >>= f') (onward (x s) next) :=
  (tracks_none h).bind hf

/-- A second run that takes no steps. -/
theorem Tracks.bind_quiet (h : Tracks allowed g s x y steps)
    (hf : ∀ a s', x s = .ok a s' → (f a s').map_state g = f' a (g s')) :
    Tracks allowed g s (x >>= f) (y >>= f') steps := by
  have hbind : Tracks allowed g s (x >>= f) (y >>= f') (steps ++ onward (x s) fun _ _ => []) :=
    h.bind fun a s' hrun => tracks_none (hf a s' hrun)
  rwa [onward_nil, List.append_nil] at hbind

theorem tracks_after_update {u : σ → σ} {f f' : Unit → Program σ ε β} (h : g (u s) = u (g s))
    (hf : Tracks allowed g (u s) (f ()) (f' ()) steps) :
    Tracks allowed g s (update u >>= f) (update u >>= f') steps := by
  intro hsteps
  have hrun := hf hsteps
  rw [h] at hrun
  exact hrun

/-- The rest of the run may read the state that it starts from. -/
theorem tracks_state {f f' : σ → Program σ ε β}
    (h : Tracks allowed g s (f s) (f' (g s)) steps) :
    Tracks allowed g s (state >>= f) (state >>= f') steps := h

theorem tracks_ite {c : Prop} [Decidable c] {x' y' : Program σ ε α} {steps' : List ι}
    (hpos : c → Tracks allowed g s x y steps) (hneg : ¬ c → Tracks allowed g s x' y' steps') :
    Tracks allowed g s (if c then x else x') (if c then y else y')
      (if c then steps else steps') := by
  by_cases hc : c
  · rw [if_pos hc, if_pos hc, if_pos hc]
    exact hpos hc
  · rw [if_neg hc, if_neg hc, if_neg hc]
    exact hneg hc

theorem map_state_ite {c : Prop} [Decidable c] {x' y' : Program σ ε α}
    (hpos : c → (x s).map_state g = y (g s)) (hneg : ¬ c → (x' s).map_state g = y' (g s)) :
    ((if c then x else x') s).map_state g = (if c then y else y') (g s) := by
  by_cases hc : c
  · rw [if_pos hc, if_pos hc]
    exact hpos hc
  · rw [if_neg hc, if_neg hc]
    exact hneg hc

theorem map_state_attempt (h : (x s).map_state g = y (g s)) :
    (attempt x s).map_state g = attempt y (g s) := by
  unfold program.attempt
  rw [← h]
  cases x s <;> rfl

theorem Tracks.attempt (h : Tracks allowed g s x y steps) :
    Tracks allowed g s (attempt x) (attempt y) steps :=
  fun hsteps => map_state_attempt (h hsteps)

/-- After an attempt that takes no steps, only a value leads to more of them. -/
theorem tracks_after_attempt {f f' : Except ε α → Program σ ε β}
    (h : (x s).map_state g = y (g s))
    (hok : ∀ a s', x s = .ok a s' → Tracks allowed g s' (f (.ok a)) (f' (.ok a)) (next a s'))
    (herr : ∀ e s', x s = .err e s' → (f (.error e) s').map_state g = f' (.error e) (g s')) :
    Tracks allowed g s (program.attempt x >>= f) (program.attempt y >>= f')
      (onward (x s) next) := by
  intro hsteps
  rw [bind_apply, bind_apply, ← map_state_attempt h]
  unfold program.attempt
  cases hxs : x s with
  | ok a s' =>
    rw [hxs] at hsteps
    exact hok a s' hxs hsteps
  | err e s' => exact herr e s' hxs
  | deep => rfl

end Tracks

end program
