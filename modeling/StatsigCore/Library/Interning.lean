-- Tables that give each new key the next number. An element is found again under its id,
-- and an id stands for the first element of its key.
import Mathlib.Data.List.Forall2
import Mathlib.Logic.Function.Basic

namespace interning

/-- The elements under their ids, the ids under the keys, and how many ids there are. -/
structure Table (κ ι α : Type) where
  element : ι → Option α
  id_of : κ → Option ι
  size : Nat

def Table.empty {κ ι α : Type} : Table κ ι α := ⟨fun _ => none, fun _ => none, 0⟩

section

variable {κ ι α : Type} [DecidableEq κ] [DecidableEq ι] (fresh : Nat → ι) (key : α → κ)

/-- The id of the element's key. A new key gets the next id. -/
def intern (x : α) (t : Table κ ι α) : ι × Table κ ι α :=
  match t.id_of (key x) with
  | some id => (id, t)
  | none =>
    (fresh t.size, {
      element := Function.update t.element (fresh t.size) (some x)
      id_of := Function.update t.id_of (key x) (some (fresh t.size))
      size := t.size + 1 })

def intern_all : List α → Table κ ι α → List ι × Table κ ι α
  | [], t => ([], t)
  | x :: xs, t =>
    let rest := intern_all xs (intern fresh key x t).2
    ((intern fresh key x t).1 :: rest.1, rest.2)

/-- What holds of every table that was filled from the empty one. -/
structure Numbered (t : Table κ ι α) : Prop where
  numbered : ∀ id x, t.element id = some x → ∃ n < t.size, id = fresh n
  found : ∀ k id, t.id_of k = some id → ∃ x, t.element id = some x ∧ key x = k

/-- The later table keeps what the earlier one holds. -/
structure Extends (t t' : Table κ ι α) : Prop where
  element : ∀ id x, t.element id = some x → t'.element id = some x
  id_of : ∀ k id, t.id_of k = some id → t'.id_of k = some id

omit [DecidableEq κ] [DecidableEq ι] in
theorem Extends.refl (t : Table κ ι α) : Extends t t := ⟨fun _ _ h => h, fun _ _ h => h⟩

omit [DecidableEq κ] [DecidableEq ι] in
theorem Extends.trans {t₁ t₂ t₃ : Table κ ι α} (h : Extends t₁ t₂) (h' : Extends t₂ t₃) :
    Extends t₁ t₃ :=
  ⟨fun id x hx => h'.element id x (h.element id x hx),
    fun k id hid => h'.id_of k id (h.id_of k id hid)⟩

omit [DecidableEq κ] [DecidableEq ι] in
theorem empty_numbered : Numbered fresh key (Table.empty : Table κ ι α) :=
  ⟨fun _ _ h => absurd h (by simp [Table.empty]), fun _ _ h => absurd h (by simp [Table.empty])⟩

section Spec

variable {fresh key} {t : Table κ ι α}

omit [DecidableEq κ] [DecidableEq ι] in
/-- No element stands under the next id. -/
theorem Numbered.next_free (h : Numbered fresh key t) (hfresh : Function.Injective fresh) :
    t.element (fresh t.size) = none := by
  cases hnext : t.element (fresh t.size) with
  | none => rfl
  | some x =>
    obtain ⟨n, hn, hid⟩ := h.numbered _ _ hnext
    have hsame := hfresh hid
    omega

/-- All that one step does: the table grows, its id stands for the key, and nothing else
comes in. -/
structure Interned (fresh : Nat → ι) (key : α → κ) (t : Table κ ι α) (x : α) (id : ι)
    (t' : Table κ ι α) : Prop where
  grown : Numbered fresh key t'
  keeps : Extends t t'
  found : t'.id_of (key x) = some id
  known : ∀ id' y, t'.element id' = some y → t.element id' = some y ∨ y = x

theorem intern_spec (h : Numbered fresh key t) (hfresh : Function.Injective fresh) (x : α) :
    Interned fresh key t x (intern fresh key x t).1 (intern fresh key x t).2 := by
  unfold intern
  split
  · rename_i id hid
    exact ⟨h, .refl t, hid, fun _ _ hy => .inl hy⟩
  · rename_i hnew
    have hfree := h.next_free hfresh
    refine ⟨⟨fun id y hy => ?_, fun k id hid => ?_⟩, ⟨fun id y hy => ?_, fun k id hid => ?_⟩,
      Function.update_self .., fun id y hy => ?_⟩
    · dsimp only at hy ⊢
      by_cases hsame : id = fresh t.size
      · exact ⟨t.size, Nat.lt_succ_self _, hsame⟩
      · rw [Function.update_of_ne hsame] at hy
        obtain ⟨n, hn, heq⟩ := h.numbered id y hy
        exact ⟨n, Nat.lt_succ_of_lt hn, heq⟩
    · dsimp only at hid ⊢
      by_cases hk : k = key x
      · rw [hk, Function.update_self] at hid
        exact ⟨x, by rw [← Option.some.inj hid, Function.update_self], hk.symm⟩
      · rw [Function.update_of_ne hk] at hid
        obtain ⟨y, hy, hkey⟩ := h.found k id hid
        refine ⟨y, ?_, hkey⟩
        rw [Function.update_of_ne fun heq => ?_]
        · exact hy
        · rw [heq, hfree] at hy
          cases hy
    · dsimp only
      rw [Function.update_of_ne fun heq => ?_]
      · exact hy
      · rw [heq, hfree] at hy
        cases hy
    · dsimp only
      rw [Function.update_of_ne fun heq => ?_]
      · exact hid
      · rw [heq, hnew] at hid
        cases hid
    · dsimp only at hy
      by_cases hsame : id = fresh t.size
      · rw [hsame, Function.update_self] at hy
        exact .inr (Option.some.inj hy).symm
      · rw [Function.update_of_ne hsame] at hy
        exact .inl hy

/-- What a run leaves: the ids that it gave are those of the keys, in the table that it
ends with and in every later one. -/
structure InternedAll (fresh : Nat → ι) (key : α → κ) (t : Table κ ι α) (xs : List α)
    (ids : List ι) (t' : Table κ ι α) : Prop where
  grown : Numbered fresh key t'
  keeps : Extends t t'
  ids : List.Forall₂ (fun x id => t'.id_of (key x) = some id) xs ids
  known : ∀ id y, t'.element id = some y → t.element id = some y ∨ y ∈ xs

theorem intern_all_spec (h : Numbered fresh key t) (hfresh : Function.Injective fresh)
    (xs : List α) :
    InternedAll fresh key t xs (intern_all fresh key xs t).1 (intern_all fresh key xs t).2 := by
  induction xs generalizing t with
  | nil => exact ⟨h, .refl t, .nil, fun _ _ hy => .inl hy⟩
  | cons x xs ih =>
    have hstep := intern_spec h hfresh x
    have hrest := ih hstep.grown
    unfold intern_all
    dsimp only
    refine ⟨hrest.grown, hstep.keeps.trans hrest.keeps,
      .cons (hrest.keeps.id_of _ _ hstep.found) hrest.ids, fun id y hy => ?_⟩
    rcases hrest.known id y hy with hold | hmem
    · rcases hstep.known id y hold with hold | hx
      · exact .inl hold
      · exact .inr (hx ▸ List.mem_cons_self ..)
    · exact .inr (List.mem_cons_of_mem _ hmem)

omit [DecidableEq κ] [DecidableEq ι] in
/-- An id that was found under a key stands for an element of that key. -/
theorem Numbered.resolves (h : Numbered fresh key t) {x : α} {id : ι}
    (hid : t.id_of (key x) = some id) : ∃ y, t.element id = some y ∧ key y = key x :=
  h.found _ _ hid

omit [DecidableEq κ] [DecidableEq ι] in
/-- The table gives all elements back just when the keys tell them apart. -/
theorem resolves_iff (h : Numbered fresh key t) {S : α → Prop}
    (hids : ∀ x, S x → ∃ id, t.id_of (key x) = some id)
    (hknown : ∀ id y, t.element id = some y → S y) {β : Type} (decode : α → β) :
    (∀ x, S x → ∀ id, t.id_of (key x) = some id →
      ∃ y, t.element id = some y ∧ decode y = decode x) ↔
    ∀ x y, S x → S y → key x = key y → decode x = decode y := by
  constructor
  · intro hall x y hx hy hkey
    obtain ⟨id, hid⟩ := hids x hx
    obtain ⟨z, hz, hzx⟩ := hall x hx id hid
    rw [hkey] at hid
    obtain ⟨z', hz', hzy⟩ := hall y hy id hid
    rw [hz] at hz'
    rw [← hzx, ← hzy, Option.some.inj hz']
  · intro hkeys x hx id hid
    obtain ⟨y, hy, hkey⟩ := h.resolves hid
    exact ⟨y, hy, hkeys y x (hknown id y hy) hx hkey⟩

end Spec

end

end interning
