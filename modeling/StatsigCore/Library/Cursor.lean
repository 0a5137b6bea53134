-- Reading a list of items from front to back. A reading moves a cursor over the items and
-- gives a value, or fails. What it reads depends only on the items that it passes, so a
-- reading that has to end with the last item accepts no list that starts another one.
import Mathlib.Data.List.Basic

namespace cursor

structure Cursor (β : Type) where
  items : List β
  pos : Nat

abbrev Reading (β α : Type) := StateT (Cursor β) Option α

section Readings

variable {β α γ : Type}

/-- The next `n` items, if there are as many. -/
def take (n : Nat) : Reading β (List β) := fun c =>
  if c.pos + n ≤ c.items.length then
    some ((c.items.drop c.pos).take n, { c with pos := c.pos + n })
  else none

/-- The value of a reading that may give none. -/
def required (m : Reading β (Option α)) : Reading β α := do
  let some a ← m | failure
  pure a

/-- A value that was worked out from the items, if that was possible. -/
def lift (value : Option α) : Reading β α := fun c => value.map (·, c)

/-- `n` readings, one after the other, that add to an accumulator. -/
def fold (step : γ → Reading β γ) : Nat → γ → Reading β γ
  | 0, acc => pure acc
  | n + 1, acc => do
    let acc ← step acc
    fold step n acc

/-- A reading that has to end with the last item. -/
def whole (m : Reading β α) (items : List β) : Option α :=
  match m ⟨items, 0⟩ with
  | some (a, c) => if c.pos = items.length then some a else none
  | none => none

theorem bind_apply (m : Reading β α) (f : α → Reading β γ) (c : Cursor β) :
    (m >>= f) c = (m c).bind fun x => f x.1 x.2 := rfl

theorem required_apply (m : Reading β (Option α)) (c : Cursor β) :
    required m c = (m c).bind fun x => x.1.map (·, x.2) := by
  unfold required
  rw [bind_apply]
  apply congrArg
  funext x
  cases x.1 <;> rfl

/-! ## Reading back a block -/

/-- The reading reads the block as the value, wherever the block stands. -/
def Reads (m : Reading β α) (block : List β) (a : α) : Prop :=
  ∀ front rest, m ⟨front ++ (block ++ rest), front.length⟩ =
    some (a, ⟨front ++ (block ++ rest), front.length + block.length⟩)

theorem Reads.pure (a : α) : Reads (pure a : Reading β α) [] a := fun _ _ => rfl

theorem Reads.bind {m : Reading β α} {f : α → Reading β γ} {block block' : List β} {a : α}
    {b : γ} (hm : Reads m block a) (hf : Reads (f a) block' b) :
    Reads (m >>= f) (block ++ block') b := by
  intro front rest
  have hrest := hf (front ++ block) rest
  rw [bind_apply, List.append_assoc, hm front (block' ++ rest), Option.bind_some]
  simp only [List.append_assoc, List.length_append, Nat.add_assoc] at hrest ⊢
  exact hrest

/-- The last reading of a sequence takes no more items. -/
theorem Reads.bind_last {m : Reading β α} {f : α → Reading β γ} {block : List β} {a : α} {b : γ}
    (hm : Reads m block a) (hf : Reads (f a) [] b) : Reads (m >>= f) block b := by
  have h := hm.bind hf
  rw [List.append_nil] at h
  exact h

theorem Reads.map {m : Reading β α} {block : List β} {a : α} (f : α → γ) (hm : Reads m block a) :
    Reads (f <$> m) block (f a) := by
  rw [map_eq_pure_bind]
  exact hm.bind_last (Reads.pure (f a))

theorem Reads.take (block : List β) : Reads (take block.length) block block := by
  intro front rest
  unfold cursor.take
  have hroom : front.length + block.length ≤ (front ++ (block ++ rest)).length := by
    simp only [List.length_append]
    omega
  rw [if_pos hroom]
  simp

theorem Reads.required {m : Reading β (Option α)} {block : List β} {a : α}
    (hm : Reads m block (some a)) : Reads (required m) block a := by
  intro front rest
  rw [required_apply, hm front rest]
  rfl

theorem Reads.lift {value : Option α} {a : α} (h : value = some a) :
    Reads (lift value : Reading β α) [] a := by
  intro front rest
  rw [h]
  rfl

/-- A block for each step is read by as many steps. -/
theorem Reads.fold {ε : Type} {step : γ → Reading β γ} {block : ε → List β} {next : γ → ε → γ}
    (entries : List ε) (hstep : ∀ acc, ∀ e ∈ entries, Reads (step acc) (block e) (next acc e))
    (acc : γ) :
    Reads (fold step entries.length acc) (entries.flatMap block) (entries.foldl next acc) := by
  induction entries generalizing acc with
  | nil => exact Reads.pure acc
  | cons e entries ih =>
    rw [List.flatMap_cons]
    apply (hstep acc e List.mem_cons_self).bind
    exact ih (fun acc e he => hstep acc e (List.mem_cons_of_mem _ he)) (next acc e)

theorem whole_of_reads {m : Reading β α} {items : List β} {a : α} (h : Reads m items a) :
    whole m items = some a := by
  have hread := h [] []
  simp only [List.nil_append, List.append_nil, List.length_nil, Nat.zero_add] at hread
  unfold whole
  rw [hread]
  simp

/-! ## Readings that keep to their items -/

/-- A reading keeps to its items: it ends inside of them, and would have read the same with
more items behind. -/
def Local (m : Reading β α) : Prop :=
  ∀ c a c', m c = some (a, c') → c.pos ≤ c.items.length →
    c'.items = c.items ∧ c'.pos ≤ c.items.length ∧
      ∀ more, m ⟨c.items ++ more, c.pos⟩ = some (a, ⟨c.items ++ more, c'.pos⟩)

theorem Local.pure (a : α) : Local (pure a : Reading β α) := by
  intro c b c' h hpos
  cases h
  exact ⟨rfl, hpos, fun _ => rfl⟩

theorem Local.failure : Local (failure : Reading β α) := by
  intro c a c' h
  cases h

theorem Local.lift (value : Option α) : Local (lift value : Reading β α) := by
  intro c a c' h hpos
  obtain ⟨b, hb, heq⟩ := Option.map_eq_some_iff.mp h
  cases heq
  refine ⟨rfl, hpos, fun more => ?_⟩
  unfold cursor.lift
  rw [hb]
  rfl

theorem Local.take (n : Nat) : Local (take n : Reading β (List β)) := by
  intro c a c' h hpos
  unfold cursor.take at h
  by_cases hroom : c.pos + n ≤ c.items.length
  · rw [if_pos hroom] at h
    cases h
    refine ⟨rfl, hroom, fun more => ?_⟩
    unfold cursor.take
    have hmore : c.pos + n ≤ (c.items ++ more).length := by
      rw [List.length_append]
      omega
    rw [if_pos hmore, List.drop_append_of_le_length hpos, List.take_append_of_le_length]
    rw [List.length_drop]
    omega
  · rw [if_neg hroom] at h
    cases h

theorem Local.bind {m : Reading β α} {f : α → Reading β γ} (hm : Local m)
    (hf : ∀ a, Local (f a)) : Local (m >>= f) := by
  intro c b c' h hpos
  rw [bind_apply] at h
  obtain ⟨⟨a, c₁⟩, hm₁, hf₁⟩ := Option.bind_eq_some_iff.mp h
  obtain ⟨hitems, hle, hmore⟩ := hm c a c₁ hm₁ hpos
  rw [← hitems] at hle
  obtain ⟨hitems', hle', hmore'⟩ := hf a c₁ b c' hf₁ hle
  refine ⟨hitems'.trans hitems, hitems ▸ hle', fun more => ?_⟩
  rw [bind_apply, hmore more, Option.bind_some]
  have h := hmore' more
  rw [hitems] at h
  exact h

theorem Local.map {m : Reading β α} (f : α → γ) (hm : Local m) : Local (f <$> m) := by
  rw [map_eq_pure_bind]
  exact hm.bind fun a => Local.pure (f a)

theorem Local.required {m : Reading β (Option α)} (hm : Local m) : Local (required m) := by
  apply hm.bind
  intro a
  cases a with
  | none => exact Local.failure
  | some a => exact Local.pure a

theorem Local.ite {m m' : Reading β α} {p : Prop} [Decidable p] (hm : Local m) (hm' : Local m') :
    Local (if p then m else m') := by
  by_cases h : p
  · rw [if_pos h]
    exact hm
  · rw [if_neg h]
    exact hm'

theorem Local.fold {step : γ → Reading β γ} (hstep : ∀ acc, Local (step acc)) (n : Nat)
    (acc : γ) : Local (fold step n acc) := by
  induction n generalizing acc with
  | zero => exact Local.pure acc
  | succ n ih => exact (hstep acc).bind ih

section Whole

variable {m : Reading β α} {items : List β} {a : α}

theorem Local.pos_le (hm : Local m) {c : Cursor β} (h : m ⟨items, 0⟩ = some (a, c)) :
    c.pos ≤ items.length :=
  (hm _ _ _ h (Nat.zero_le _)).2.1

/-- Items behind an accepted list are refused. -/
theorem Local.whole_append (hm : Local m) (h : whole m items = some a) {more : List β}
    (hmore : more ≠ []) : whole m (items ++ more) = none := by
  unfold whole at h
  rcases hread : m ⟨items, 0⟩ with _ | ⟨b, c⟩
  · rw [hread] at h
    cases h
  · rw [hread] at h
    by_cases hend : c.pos = items.length
    · obtain ⟨-, -, happend⟩ := hm _ _ _ hread (Nat.zero_le _)
      unfold whole
      rw [happend more]
      have hlen : c.pos ≠ (items ++ more).length := by
        have hpos := List.length_pos_iff.mpr hmore
        rw [List.length_append]
        omega
      simp only [if_neg hlen]
    · simp only [if_neg hend] at h
      cases h

/-- So is every list that an accepted one goes on from. -/
theorem Local.whole_of_longer (hm : Local m) {more : List β}
    (h : whole m (items ++ more) = some a) (hmore : more ≠ []) : whole m items = none := by
  cases hitems : whole m items with
  | none => rfl
  | some b =>
    rw [hm.whole_append hitems hmore] at h
    cases h

end Whole

end Readings

end cursor
