-- Machines that take labelled steps one after the other. A step may be refused.
-- A run is the list of the labels that the machine took.
import Mathlib.Logic.Basic

namespace machine

variable {σ α : Type} {step : σ → α → Option σ}

/-- The state after all the steps, or `none` when one of them is refused. -/
def run (step : σ → α → Option σ) : σ → List α → Option σ
  | s, [] => some s
  | s, a :: labels => (step s a).bind fun s' => run step s' labels

/-- Every step of the run meets the condition, in the state that it starts from. -/
def Along (step : σ → α → Option σ) (C : σ → α → Prop) : σ → List α → Prop
  | _, [] => True
  | s, a :: labels => C s a ∧ ∀ s', step s a = some s' → Along step C s' labels

instance decidable_along {C : σ → α → Prop} [∀ s a, Decidable (C s a)] :
    ∀ (s : σ) (labels : List α), Decidable (Along step C s labels)
  | _, [] => isTrue trivial
  | s, a :: labels =>
    match h : step s a with
    | none => decidable_of_iff (C s a)
        ⟨fun hc => ⟨hc, fun _ hs => nomatch h.symm.trans hs⟩, fun hal => hal.1⟩
    | some s' =>
      have := decidable_along (C := C) s' labels
      decidable_of_iff (C s a ∧ Along step C s' labels)
        ⟨fun hc => ⟨hc.1, fun _ hs => Option.some.inj (h.symm.trans hs) ▸ hc.2⟩,
          fun hal => ⟨hal.1, hal.2 s' h⟩⟩

@[simp] theorem run_nil (s : σ) : run step s [] = some s := rfl

theorem run_cons_eq_some {s s' : σ} {a : α} {labels : List α} :
    run step s (a :: labels) = some s' ↔
      ∃ mid, step s a = some mid ∧ run step mid labels = some s' := Option.bind_eq_some_iff

theorem run_append (s : σ) (front back : List α) :
    run step s (front ++ back) = (run step s front).bind fun mid => run step mid back := by
  induction front generalizing s with
  | nil => rfl
  | cons a front ih =>
    rw [List.cons_append, run, run, Option.bind_assoc]
    congr 1
    funext mid
    exact ih mid

/-- What every step that meets the condition preserves holds after a whole run. -/
theorem run_invariant_along {C : σ → α → Prop} {I : σ → Prop}
    (hstep : ∀ s a s', I s → C s a → step s a = some s' → I s') {s s' : σ} {labels : List α}
    (hlabels : Along step C s labels) (hs : I s) (hrun : run step s labels = some s') :
    I s' := by
  induction labels generalizing s with
  | nil =>
    cases hrun
    exact hs
  | cons a labels ih =>
    obtain ⟨mid, hmid, hrest⟩ := run_cons_eq_some.mp hrun
    exact ih (hlabels.2 mid hmid) (hstep s a mid hs hlabels.1 hmid) hrest

theorem along_and {C D : σ → α → Prop} {s : σ} {labels : List α} (hc : Along step C s labels)
    (hd : Along step D s labels) : Along step (fun s a => C s a ∧ D s a) s labels := by
  induction labels generalizing s with
  | nil => trivial
  | cons a labels ih => exact ⟨⟨hc.1, hd.1⟩, fun s' h => ih (hc.2 s' h) (hd.2 s' h)⟩

theorem along_take {C : σ → α → Prop} {s : σ} {labels : List α} (h : Along step C s labels)
    (n : Nat) : Along step C s (labels.take n) := by
  induction labels generalizing s n with
  | nil =>
    rw [List.take_nil]
    trivial
  | cons a labels ih =>
    cases n with
    | zero => trivial
    | succ n => exact ⟨h.1, fun s' hs' => ih (h.2 s' hs') n⟩

theorem along_append {C : σ → α → Prop} {s : σ} {front back : List α}
    (hfront : Along step C s front)
    (hback : ∀ mid, run step s front = some mid → Along step C mid back) :
    Along step C s (front ++ back) := by
  induction front generalizing s with
  | nil => exact hback s rfl
  | cons a front ih =>
    refine ⟨hfront.1, fun s' hs' => ih (hfront.2 s' hs') fun mid hmid => ?_⟩
    exact hback mid (run_cons_eq_some.mpr ⟨s', hs', hmid⟩)

/-- The condition goes on along the rest of the run. -/
theorem along_rest {C : σ → α → Prop} {s s' : σ} {front back : List α}
    (h : Along step C s (front ++ back)) (hrun : run step s front = some s') :
    Along step C s' back := by
  induction front generalizing s with
  | nil =>
    cases hrun
    exact h
  | cons a front ih =>
    obtain ⟨mid, hmid, hrest⟩ := run_cons_eq_some.mp hrun
    exact ih (h.2 mid hmid) hrest

/-- The condition holds of the step after the first `n`. -/
theorem along_at {C : σ → α → Prop} {s s' : σ} {a : α} {labels : List α} {n : Nat}
    (h : Along step C s labels) (hrun : run step s (labels.take n) = some s')
    (ha : labels[n]? = some a) : C s' a := by
  induction labels generalizing s n with
  | nil => nomatch ha
  | cons b labels ih =>
    cases n with
    | zero =>
      cases hrun
      cases ha
      exact h.1
    | succ n =>
      obtain ⟨mid, hmid, hrest⟩ := run_cons_eq_some.mp hrun
      exact ih (h.2 mid hmid) hrest ha

/-- A run passes through the step after the first `n`. -/
theorem run_at {s s' : σ} {a : α} {labels : List α} {n : Nat} (hrun : run step s labels = some s')
    (ha : labels[n]? = some a) :
    ∃ before after, run step s (labels.take n) = some before ∧ step before a = some after ∧
      run step after (labels.drop (n + 1)) = some s' := by
  induction labels generalizing s n with
  | nil => cases ha
  | cons b labels ih =>
    obtain ⟨mid, hmid, hrest⟩ := run_cons_eq_some.mp hrun
    cases n with
    | zero =>
      cases ha
      exact ⟨s, mid, rfl, hmid, hrest⟩
    | succ n =>
      obtain ⟨before, after, hbefore, hstep, hafter⟩ := ih hrest ha
      exact ⟨before, after, run_cons_eq_some.mpr ⟨mid, hmid, hbefore⟩, hstep, hafter⟩

/-- What holds of every label is a condition along the run too. -/
theorem along_and_mem {C : σ → α → Prop} {D : α → Prop} {s : σ} {labels : List α}
    (hlabels : Along step C s labels) (hall : ∀ a ∈ labels, D a) :
    Along step (fun s a => C s a ∧ D a) s labels := by
  induction labels generalizing s with
  | nil => trivial
  | cons a labels ih =>
    refine ⟨⟨hlabels.1, hall a List.mem_cons_self⟩, fun s' h => ?_⟩
    exact ih (hlabels.2 s' h) fun b hb => hall b (List.mem_cons_of_mem a hb)

/-- Where a step keeps the invariant just when it meets the condition, every state of
a run has the invariant just when every step of it meets the condition. The labels may be
those of a kind. -/
theorem invariant_iff_along_of {C : σ → α → Prop} {D : α → Prop} {I : σ → Prop}
    (hstep : ∀ s a s', I s → D a → step s a = some s' → (I s' ↔ C s a))
    (hrefused : ∀ s a, step s a = none → C s a) {s : σ} (hs : I s) {labels : List α}
    (hlabels : ∀ a ∈ labels, D a) :
    (∀ n s', run step s (labels.take n) = some s' → I s') ↔ Along step C s labels := by
  induction labels generalizing s with
  | nil =>
    refine ⟨fun _ => trivial, fun _ n s' hrun => ?_⟩
    rw [List.take_nil] at hrun
    cases hrun
    exact hs
  | cons a labels ih =>
    have ha : D a := hlabels a List.mem_cons_self
    have hlater : ∀ b ∈ labels, D b := fun b hb => hlabels b (List.mem_cons_of_mem a hb)
    constructor
    · intro hall
      cases hmid : step s a with
      | none => exact ⟨hrefused s a hmid, fun s' h => nomatch hmid.symm.trans h⟩
      | some mid =>
        have hi : I mid := hall 1 mid (run_cons_eq_some.mpr ⟨mid, hmid, by simp⟩)
        refine ⟨(hstep s a mid hs ha hmid).mp hi, fun s' h => ?_⟩
        cases hmid.symm.trans h
        exact (ih hi hlater).mp fun n s' hrun =>
          hall (n + 1) s' (run_cons_eq_some.mpr ⟨mid, hmid, hrun⟩)
    · rintro ⟨hc, hrest⟩ n s' hrun
      cases n with
      | zero =>
        cases hrun
        exact hs
      | succ n =>
        obtain ⟨mid, hmid, hrun⟩ := run_cons_eq_some.mp hrun
        have hi : I mid := (hstep s a mid hs ha hmid).mpr hc
        exact (ih hi hlater).mpr (hrest mid hmid) n s' hrun

theorem invariant_iff_along {C : σ → α → Prop} {I : σ → Prop}
    (hstep : ∀ s a s', I s → step s a = some s' → (I s' ↔ C s a))
    (hrefused : ∀ s a, step s a = none → C s a) {s : σ} (hs : I s) (labels : List α) :
    (∀ n s', run step s (labels.take n) = some s' → I s') ↔ Along step C s labels :=
  invariant_iff_along_of (D := fun _ => True) (fun s a s' h _ => hstep s a s' h) hrefused hs
    fun _ _ => trivial

/-- Two conditions that say the same in every state of an invariant say the same along a
run, where the steps that meet them keep the invariant. -/
theorem along_iff_along {C D : σ → α → Prop} {I : σ → Prop}
    (hiff : ∀ s a, I s → (C s a ↔ D s a))
    (hstep : ∀ s a s', I s → C s a → step s a = some s' → I s') {s : σ} (hs : I s)
    (labels : List α) : Along step C s labels ↔ Along step D s labels := by
  induction labels generalizing s with
  | nil => exact Iff.rfl
  | cons a labels ih =>
    constructor
    · rintro ⟨hc, hrest⟩
      refine ⟨(hiff s a hs).mp hc, fun s' h => ?_⟩
      exact (ih (hstep s a s' hs hc h)).mp (hrest s' h)
    · rintro ⟨hd, hrest⟩
      have hc := (hiff s a hs).mpr hd
      refine ⟨hc, fun s' h => ?_⟩
      exact (ih (hstep s a s' hs hc h)).mpr (hrest s' h)

section related

variable {R : σ → σ → Prop}

/-- Every two states of the run, the earlier one first, are related. -/
def RelatedAlong (step : σ → α → Option σ) (R : σ → σ → Prop) (s : σ) (labels : List α) : Prop :=
  ∀ n m earlier later, run step s (labels.take n) = some earlier →
    run step s (labels.take (n + m)) = some later → R earlier later

/-- The condition that a step relates the states before and after it. -/
def Relates (step : σ → α → Option σ) (R : σ → σ → Prop) (s : σ) (a : α) : Prop :=
  ∀ s', step s a = some s' → R s s'

theorem start_related (hrefl : ∀ s, R s s) (htrans : ∀ s s' s'', R s s' → R s' s'' → R s s'')
    {s s' : σ} {labels : List α} (hlabels : Along step (Relates step R) s labels) {n : Nat}
    (hrun : run step s (labels.take n) = some s') : R s s' := by
  induction labels generalizing s n with
  | nil =>
    rw [List.take_nil] at hrun
    cases hrun
    exact hrefl _
  | cons a labels ih =>
    cases n with
    | zero =>
      cases hrun
      exact hrefl _
    | succ n =>
      obtain ⟨mid, hmid, hrest⟩ := run_cons_eq_some.mp hrun
      exact htrans s mid s' (hlabels.1 mid hmid) (ih (hlabels.2 mid hmid) hrest)

/-- A reflexive and transitive relation holds between the states of a run just when every
step of it relates its two states. -/
theorem related_along_iff (hrefl : ∀ s, R s s)
    (htrans : ∀ s s' s'', R s s' → R s' s'' → R s s'') (s : σ) (labels : List α) :
    RelatedAlong step R s labels ↔ Along step (Relates step R) s labels := by
  induction labels generalizing s with
  | nil =>
    refine ⟨fun _ => trivial, fun _ n m earlier later hearlier hlater => ?_⟩
    rw [List.take_nil] at hearlier hlater
    cases hearlier
    cases hlater
    exact hrefl s
  | cons a labels ih =>
    constructor
    · intro hall
      refine ⟨fun s' h => ?_, fun s' h => (ih s').mp ?_⟩
      · exact hall 0 1 s s' rfl (run_cons_eq_some.mpr ⟨s', h, by simp⟩)
      · intro n m earlier later hearlier hlater
        refine hall (n + 1) m earlier later (run_cons_eq_some.mpr ⟨s', h, hearlier⟩) ?_
        rw [Nat.add_right_comm]
        exact run_cons_eq_some.mpr ⟨s', h, hlater⟩
    · intro halong n m earlier later hearlier hlater
      cases n with
      | zero =>
        cases hearlier
        rw [Nat.zero_add] at hlater
        exact start_related hrefl htrans halong hlater
      | succ n =>
        rw [Nat.add_right_comm] at hlater
        obtain ⟨mid, hmid, hearlier⟩ := run_cons_eq_some.mp hearlier
        obtain ⟨mid', hmid', hlater⟩ := run_cons_eq_some.mp hlater
        cases hmid.symm.trans hmid'
        exact (ih mid).mpr (halong.2 mid hmid) n m earlier later hearlier hlater

end related

theorem along_true (s : σ) (labels : List α) : Along step (fun _ _ => True) s labels := by
  induction labels generalizing s with
  | nil => trivial
  | cons a labels ih => exact ⟨trivial, fun s' _ => ih s'⟩

/-- What every step preserves holds after a whole run. -/
theorem run_invariant {I : σ → Prop} (hstep : ∀ s a s', I s → step s a = some s' → I s')
    {s s' : σ} {labels : List α} (hs : I s) (hrun : run step s labels = some s') : I s' :=
  run_invariant_along (fun s a s' h _ => hstep s a s' h) (along_true s labels) hs hrun

end machine
