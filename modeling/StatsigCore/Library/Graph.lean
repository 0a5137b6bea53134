-- Graphs of references. A path that never comes back to a key is no longer than
-- there are keys, and a bound on the length of the paths gives each node a height
-- that drops along every edge.
import Mathlib.Data.Finset.Card
import Mathlib.Data.Nat.Find
import Mathlib.Logic.Relation

open Relation

namespace graph

variable {α : Type} {r : α → α → Prop}

/-! ## Paths and heights -/

/-- A path with a number of edges. -/
inductive Path (r : α → α → Prop) : Nat → α → α → Prop where
  | nil (a : α) : Path r 0 a a
  | cons {n : Nat} {a b c : α} : r a b → Path r n b c → Path r (n + 1) a c

theorem Path.map {β : Type} {r' : β → β → Prop} (f : α → β) (hr : ∀ a b, r a b → r' (f a) (f b))
    {n : Nat} {a b : α} (h : Path r n a b) : Path r' n (f a) (f b) := by
  induction h with
  | nil a => exact .nil (f a)
  | cons hab _ ih => exact .cons (hr _ _ hab) ih

theorem Path.mono {r' : α → α → Prop} (hr : ∀ a b, r a b → r' a b) {n : Nat} {a b : α}
    (h : Path r n a b) : Path r' n a b := h.map id hr

/-- A path is no longer than there are keys, where every node that goes on has a key that no
later node on the way has. -/
theorem Path.length_le {κ : Type} [DecidableEq κ] (key : α → κ) {n : Nat} {a b : α}
    (h : Path r n a b) (keys : Finset κ)
    (hkeys : ∀ c d, ReflTransGen r a c → r c d → key c ∈ keys)
    (hnew : ∀ c d, ReflTransGen r a c → TransGen r c d → key c ≠ key d) : n ≤ keys.card := by
  induction h generalizing keys with
  | nil a => exact Nat.zero_le _
  | @cons n a b c hab hpath ih =>
    have hmem : key a ∈ keys := hkeys a b .refl hab
    have hrest : n ≤ (keys.erase (key a)).card := by
      apply ih
      · intro d e hbd hde
        refine Finset.mem_erase.mpr ⟨?_, hkeys d e (.head hab hbd) hde⟩
        exact (hnew a d .refl (.head' hab hbd)).symm
      · exact fun d e hbd => hnew d e (.head hab hbd)
    rw [Finset.card_erase_of_mem hmem] at hrest
    have hpos : 0 < keys.card := Finset.card_pos.mpr ⟨_, hmem⟩
    omega

open Classical in
/-- The length of the longest path from a node, up to a bound. -/
noncomputable def height (r : α → α → Prop) (bound : Nat) (a : α) : Nat :=
  Nat.findGreatest (fun n => ∃ b, Path r n a b) bound

theorem height_le (bound : Nat) (a : α) : height r bound a ≤ bound := by
  classical
  exact Nat.findGreatest_le bound

/-- With no path from a node longer than the bound, an edge leads to a lower node. -/
theorem height_lt_of_edge {bound : Nat} {a b : α} (hpaths : ∀ n c, Path r n a c → n ≤ bound)
    (hab : r a b) : height r bound b < height r bound a := by
  classical
  have hlongest : ∃ c, Path r (height r bound b) b c :=
    Nat.findGreatest_spec (P := fun n => ∃ c, Path r n b c) (Nat.zero_le bound) ⟨b, .nil b⟩
  obtain ⟨c, hpath⟩ := hlongest
  have hlonger : Path r (height r bound b + 1) a c := .cons hab hpath
  exact Nat.le_findGreatest (hpaths _ _ hlonger) ⟨c, hlonger⟩

end graph
