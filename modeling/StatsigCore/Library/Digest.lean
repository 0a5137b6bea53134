-- Hashes of nested lists. A term keeps what a hash was computed from: numbers that stand for
-- themselves, atoms that are hashed on their own, and lists of the hashes of other terms. Two
-- terms of one shape with one hash are the same, unless something that was hashed on the way
-- collides.
import Mathlib.Data.List.Basic

namespace digest

inductive Term (α : Type) where
  | number (n : Nat)
  | atom (a : α)
  | list (terms : List (Term α))

/-- The two hash functions. Atoms of different kinds may have the same hash. -/
structure Scheme (α κ : Type) where
  kind : α → κ
  hash_atom : α → Nat
  hash_list : List Nat → Nat

namespace Term

variable {α κ : Type}

mutual

def hash (S : Scheme α κ) : Term α → Nat
  | number n => n
  | atom a => S.hash_atom a
  | list terms => S.hash_list (hashes S terms)

def hashes (S : Scheme α κ) : List (Term α) → List Nat
  | [] => []
  | t :: terms => t.hash S :: hashes S terms

end

theorem hashes_eq_map (S : Scheme α κ) (terms : List (Term α)) :
    hashes S terms = terms.map (hash S) := by
  induction terms with
  | nil => rfl
  | cons t terms ih => rw [hashes, ih, List.map_cons]

mutual

/-- The atoms that are hashed for a term. -/
def atoms : Term α → List α
  | number _ => []
  | atom a => [a]
  | list terms => atoms_of terms

def atoms_of : List (Term α) → List α
  | [] => []
  | t :: terms => t.atoms ++ atoms_of terms

end

mutual

/-- The lists that are hashed for a term. -/
def lists (S : Scheme α κ) : Term α → List (List Nat)
  | number _ => []
  | atom _ => []
  | list terms => hashes S terms :: lists_of S terms

def lists_of (S : Scheme α κ) : List (Term α) → List (List Nat)
  | [] => []
  | t :: terms => t.lists S ++ lists_of S terms

end

mutual

/-- The two terms have atoms of the same kinds at the same places. A list of another length is
told apart by its hash, and a zero stands for a missing atom or list. -/
def SameShape (S : Scheme α κ) : Term α → Term α → Prop
  | number _, number _ => True
  | number n, atom _ => n = 0
  | number n, list _ => n = 0
  | atom _, number n => n = 0
  | atom a, atom b => S.kind a = S.kind b
  | atom _, list _ => False
  | list _, number n => n = 0
  | list _, atom _ => False
  | list terms, list terms' => terms.length = terms'.length → SameShapes S terms terms'

def SameShapes (S : Scheme α κ) : List (Term α) → List (Term α) → Prop
  | t :: terms, t' :: terms' => SameShape S t t' ∧ SameShapes S terms terms'
  | _, _ => True

end

end Term

variable {α κ : Type} {S : Scheme α κ}

/-- No hash of the atoms and the lists on one side is the hash of something else on the other
side, and none is zero. -/
structure Separates (S : Scheme α κ) (as as' : List α) (ls ls' : List (List Nat)) : Prop where
  atoms : ∀ a ∈ as, ∀ a' ∈ as', S.kind a = S.kind a' → S.hash_atom a = S.hash_atom a' → a = a'
  lists : ∀ l ∈ ls, ∀ l' ∈ ls', S.hash_list l = S.hash_list l' → l = l'
  atom_hash : ∀ a, a ∈ as ∨ a ∈ as' → S.hash_atom a ≠ 0
  list_hash : ∀ l, l ∈ ls ∨ l ∈ ls' → S.hash_list l ≠ 0

theorem Separates.mono {as as' bs bs' : List α} {ls ls' ms ms' : List (List Nat)}
    (h : Separates S bs bs' ms ms') (has : as ⊆ bs) (has' : as' ⊆ bs') (hls : ls ⊆ ms)
    (hls' : ls' ⊆ ms') : Separates S as as' ls ls' where
  atoms a ha a' ha' := h.atoms a (has ha) a' (has' ha')
  lists l hl l' hl' := h.lists l (hls hl) l' (hls' hl')
  atom_hash a ha := h.atom_hash a (ha.imp (fun ha => has ha) fun ha => has' ha)
  list_hash l hl := h.list_hash l (hl.imp (fun hl => hls hl) fun hl => hls' hl)

/-- Nothing that is hashed for the two terms collides. -/
def NoCollision (S : Scheme α κ) (t t' : Term α) : Prop :=
  Separates S t.atoms t'.atoms (t.lists S) (t'.lists S)

namespace Term

mutual

/-- Equal hashes of terms of one shape are hashes of the same term. -/
theorem eq_of_hash (t t' : Term α) (hshape : SameShape S t t') (hno : NoCollision S t t')
    (h : t.hash S = t'.hash S) : t = t' := by
  cases t with
  | number n =>
    cases t' with
    | number n' => exact congrArg number h
    | atom a' =>
      have hzero : S.hash_atom a' = 0 := h.symm.trans hshape
      exact absurd hzero (hno.atom_hash a' (.inr (List.mem_singleton_self a')))
    | list terms' =>
      have hzero : S.hash_list (hashes S terms') = 0 := h.symm.trans hshape
      exact absurd hzero (hno.list_hash _ (.inr List.mem_cons_self))
  | atom a =>
    cases t' with
    | number n' =>
      have hzero : S.hash_atom a = 0 := Eq.trans h hshape
      exact absurd hzero (hno.atom_hash a (.inl (List.mem_singleton_self a)))
    | atom a' =>
      exact congrArg atom (hno.atoms a (List.mem_singleton_self a) a'
        (List.mem_singleton_self a') hshape h)
    | list terms' => exact hshape.elim
  | list terms =>
    cases t' with
    | number n' =>
      have hzero : S.hash_list (hashes S terms) = 0 := Eq.trans h hshape
      exact absurd hzero (hno.list_hash _ (.inl List.mem_cons_self))
    | atom a' => exact hshape.elim
    | list terms' =>
      have hlists : hashes S terms = hashes S terms' :=
        hno.lists _ List.mem_cons_self _ List.mem_cons_self h
      have hlength : terms.length = terms'.length := by
        have hlengths := congrArg List.length hlists
        rwa [hashes_eq_map, hashes_eq_map, List.length_map, List.length_map] at hlengths
      exact congrArg list (eq_of_hashes terms terms' (hshape hlength)
        (hno.mono (fun _ => id) (fun _ => id) (List.subset_cons_self _ _)
          (List.subset_cons_self _ _)) hlists)

theorem eq_of_hashes (terms terms' : List (Term α)) (hshape : SameShapes S terms terms')
    (hno : Separates S (atoms_of terms) (atoms_of terms') (lists_of S terms) (lists_of S terms'))
    (h : hashes S terms = hashes S terms') : terms = terms' := by
  cases terms with
  | nil =>
    cases terms' with
    | nil => rfl
    | cons t' terms' => cases h
  | cons t terms =>
    cases terms' with
    | nil => cases h
    | cons t' terms' =>
      obtain ⟨hhead, htail⟩ := List.cons.inj h
      rw [eq_of_hash t t' hshape.1 (hno.mono (List.subset_append_left _ _)
          (List.subset_append_left _ _) (List.subset_append_left _ _)
          (List.subset_append_left _ _)) hhead,
        eq_of_hashes terms terms' hshape.2 (hno.mono (List.subset_append_right _ _)
          (List.subset_append_right _ _) (List.subset_append_right _ _)
          (List.subset_append_right _ _)) htail]

end

/-- Lists of terms that are of one shape two by two. -/
theorem sameShapes_map {β γ : Type} {f : β → Term α} {g : γ → Term α}
    (h : ∀ b c, SameShape S (f b) (g c)) (bs : List β) (cs : List γ) :
    SameShapes S (bs.map f) (cs.map g) := by
  induction bs generalizing cs with
  | nil => trivial
  | cons b bs ih =>
    cases cs with
    | nil => trivial
    | cons c cs => exact ⟨h b c, ih cs⟩

theorem sameShape_list_map {β γ : Type} {f : β → Term α} {g : γ → Term α}
    (h : ∀ b c, SameShape S (f b) (g c)) (bs : List β) (cs : List γ) :
    SameShape S (.list (bs.map f)) (.list (cs.map g)) :=
  fun _ => sameShapes_map h bs cs

end Term

end digest
