-- Hash tables whose keys are compared by one thing and placed by another. A probe only sees the
-- entries in the place of its key, so a table keeps its entries by place and name together, and
-- by the name alone exactly where equal keys have equal hashes.
import Mathlib.Data.List.Nodup

namespace hash_table

/-- How keys are compared and hashed, and where a table puts a hash. -/
structure Keys (κ τ η β : Type) where
  name : κ → τ
  hash : κ → η
  place : η → β

/-- Where a key is and what it is compared by. -/
def Keys.cell {κ τ η β : Type} (keys : Keys κ τ η β) (key : κ) : β × τ :=
  (keys.place (keys.hash key), keys.name key)

abbrev Table (κ υ : Type) := List (κ × υ)

inductive Change (κ υ : Type) where
  | insert (key : κ) (value : υ)
  | remove (key : κ)

def Change.key {κ υ : Type} : Change κ υ → κ
  | .insert key _ => key
  | .remove key => key

def Change.value {κ υ : Type} : Change κ υ → Option υ
  | .insert _ value => some value
  | .remove _ => none

section Tables

variable {κ τ η β υ : Type} [DecidableEq τ] [DecidableEq β] (keys : Keys κ τ η β)

/-- A probe for the key stops at an entry in its place with an equal key. -/
def stops (key : κ) (entry : κ × υ) : Bool := keys.cell entry.1 = keys.cell key

def get (t : Table κ υ) (key : κ) : Option υ := (t.find? (stops keys key)).map Prod.snd

/-- An entry that the probe finds keeps its key. -/
def insert (key : κ) (value : υ) : Table κ υ → Table κ υ
  | [] => [(key, value)]
  | entry :: t =>
    if stops keys key entry then (entry.1, value) :: t else entry :: insert key value t

def remove (t : Table κ υ) (key : κ) : Table κ υ := t.eraseP (stops keys key)

def apply (t : Table κ υ) : Change κ υ → Table κ υ
  | .insert key value => insert keys key value t
  | .remove key => remove keys t key

/-- The table after the changes. -/
def filled (changes : List (Change κ υ)) : Table κ υ := changes.foldl (apply keys) []

/-- What the last change of a key with the name left. -/
def last_of {ν : Type} [DecidableEq ν] (name : κ → ν) (changes : List (Change κ υ)) (n : ν) :
    Option υ :=
  changes.foldl (fun found change => if name change.key = n then change.value else found) none

variable {keys} {t : Table κ υ}

/-- No two entries are in one place with equal keys. -/
def Distinct (keys : Keys κ τ η β) (t : Table κ υ) : Prop :=
  (t.map fun entry => keys.cell entry.1).Nodup

theorem stops_iff {key : κ} {entry : κ × υ} :
    stops keys key entry = true ↔ keys.cell entry.1 = keys.cell key := decide_eq_true_iff

theorem get_cons (entry : κ × υ) (t : Table κ υ) (key : κ) :
    get keys (entry :: t) key =
      if keys.cell entry.1 = keys.cell key then some entry.2 else get keys t key := by
  unfold get stops
  rw [List.find?_cons]
  by_cases h : keys.cell entry.1 = keys.cell key
  · simp only [h, decide_true, if_true, Option.map_some]
  · simp only [h, decide_false, if_false]

theorem get_of_not_mem {key : κ}
    (h : keys.cell key ∉ t.map fun entry => keys.cell entry.1) : get keys t key = none := by
  unfold get
  rw [List.find?_eq_none.mpr fun entry hentry hstops => ?_]
  · rfl
  · apply h
    rw [← stops_iff.mp hstops]
    exact List.mem_map_of_mem hentry

theorem get_insert (t : Table κ υ) (key : κ) (value : υ) (other : κ) :
    get keys (insert keys key value t) other =
      if keys.cell key = keys.cell other then some value else get keys t other := by
  induction t with
  | nil => exact get_cons _ _ _
  | cons entry t ih =>
    unfold insert
    split
    · rename_i hstops
      rw [get_cons, get_cons, stops_iff.mp hstops]
      split <;> rfl
    · rename_i hstops
      rw [get_cons, get_cons, ih]
      by_cases h : keys.cell entry.1 = keys.cell other
      · rw [if_pos h, if_pos h, if_neg fun hkey => hstops (stops_iff.mpr (h.trans hkey.symm))]
      · rw [if_neg h, if_neg h]

theorem mem_cells_insert {key : κ} {value : υ} {cell : β × τ}
    (h : cell ∈ (insert keys key value t).map fun entry => keys.cell entry.1) :
    cell = keys.cell key ∨ cell ∈ t.map fun entry => keys.cell entry.1 := by
  induction t with
  | nil => exact .inl (List.mem_singleton.mp h)
  | cons entry t ih =>
    unfold insert at h
    split at h
    · exact .inr h
    · rcases List.mem_cons.mp h with rfl | h
      · exact .inr List.mem_cons_self
      · exact (ih h).imp_right (List.mem_cons_of_mem _)

theorem insert_distinct (key : κ) (value : υ) (ht : Distinct keys t) :
    Distinct keys (insert keys key value t) := by
  induction t with
  | nil => exact List.nodup_singleton _
  | cons entry t ih =>
    obtain ⟨hnew, hrest⟩ := List.nodup_cons.mp ht
    unfold insert
    split
    · exact ht
    · rename_i hstops
      refine List.nodup_cons.mpr ⟨fun hmem => ?_, ih hrest⟩
      exact (mem_cells_insert hmem).elim (fun hcell => hstops (stops_iff.mpr hcell)) hnew

theorem remove_distinct (key : κ) (ht : Distinct keys t) : Distinct keys (remove keys t key) :=
  ht.sublist (List.eraseP_sublist.map _)

theorem get_remove (ht : Distinct keys t) (key other : κ) :
    get keys (remove keys t key) other =
      if keys.cell key = keys.cell other then none else get keys t other := by
  induction t with
  | nil => exact (ite_self none).symm
  | cons entry t ih =>
    obtain ⟨hnew, hrest⟩ := List.nodup_cons.mp ht
    rw [get_cons]
    by_cases h : keys.cell entry.1 = keys.cell key
    · rw [remove, List.eraseP_cons_of_pos (stops_iff.mpr h), h]
      by_cases hother : keys.cell key = keys.cell other
      · rw [if_pos hother]
        exact get_of_not_mem (hother ▸ h ▸ hnew)
      · rw [if_neg hother, if_neg hother]
    · have hlater := ih hrest
      rw [remove] at hlater
      rw [remove, List.eraseP_cons_of_neg (mt stops_iff.mp h), get_cons, hlater]
      by_cases hother : keys.cell entry.1 = keys.cell other
      · rw [if_pos hother, if_pos hother, if_neg fun hkey => h (hother.trans hkey.symm)]
      · rw [if_neg hother, if_neg hother]

/-- A lookup gives what the last change in the place of its key left for an equal key. -/
theorem get_filled (changes : List (Change κ υ)) (key : κ) :
    get keys (filled keys changes) key = last_of keys.cell changes (keys.cell key) := by
  have hgo : ∀ (changes : List (Change κ υ)) (t : Table κ υ) (found : Option υ),
      Distinct keys t → get keys t key = found →
      get keys (changes.foldl (apply keys) t) key =
        changes.foldl (fun found change =>
          if keys.cell change.key = keys.cell key then change.value else found) found := by
    intro changes
    induction changes with
    | nil => exact fun _ _ _ hfound => hfound
    | cons change changes ih =>
      intro t found ht hfound
      rw [List.foldl_cons, List.foldl_cons]
      cases change with
      | insert k value =>
        exact ih _ _ (insert_distinct k value ht) ((get_insert t k value key).trans (hfound ▸ rfl))
      | remove k =>
        exact ih _ _ (remove_distinct k ht) ((get_remove ht k key).trans (hfound ▸ rfl))
  exact hgo changes [] none List.nodup_nil rfl

omit [DecidableEq τ] [DecidableEq β] in
/-- A set of insertions has what was inserted. -/
theorem last_of_inserts {ν : Type} [DecidableEq ν] (name : κ → ν) (inserted : List κ) (value : υ)
    (n : ν) : (last_of name (inserted.map (.insert · value)) n).isSome ↔
      ∃ key ∈ inserted, name key = n := by
  have hgo : ∀ (inserted : List κ) (found : Option υ),
      ((inserted.map (Change.insert · value)).foldl (fun found change =>
          if name change.key = n then change.value else found) found).isSome ↔
        found.isSome ∨ ∃ key ∈ inserted, name key = n := by
    intro inserted
    induction inserted with
    | nil => simp
    | cons key inserted ih =>
      intro found
      rw [List.map_cons, List.foldl_cons, ih]
      by_cases h : name key = n
      · simp [Change.key, Change.value, h]
      · simp [Change.key, h]
  exact (hgo inserted none).trans (or_iff_right nofun)

end Tables

section Contract

variable {κ τ η υ : Type} [DecidableEq τ] (name : κ → τ) (hash : κ → η) (K : κ → Prop)

/-- Equal keys have equal hashes, among the keys of a kind. -/
def Contract : Prop := ∀ a b, K a → K b → name a = name b → hash a = hash b

/-- Every table goes by the names of the keys, wherever it puts its entries. -/
def GoesByName (υ : Type) : Prop :=
  ∀ {β : Type} [DecidableEq β] (place : η → β) (changes : List (Change κ υ)),
    (∀ change ∈ changes, K change.key) → ∀ key, K key →
      get ⟨name, hash, place⟩ (filled ⟨name, hash, place⟩ changes) key =
        last_of name changes (name key)

theorem Contract.goesByName (h : Contract name hash K) : GoesByName name hash K υ := by
  intro β _ place changes hchanges key hkey
  rw [get_filled]
  refine List.foldl_ext _ _ _ fun found change hchange => if_congr ?_ rfl rfl
  refine ⟨fun hcell => (Prod.mk.inj hcell).2, fun hname => ?_⟩
  have hhash := h _ _ (hchanges change hchange) hkey hname
  exact Prod.ext (congrArg place hhash) hname

/-- A table that puts different hashes in different places does not find the second key. -/
theorem GoesByName.contract [DecidableEq η] (value : υ) (h : GoesByName name hash K υ) :
    Contract name hash K := by
  intro a b ha hb hname
  have hfound := h id [.insert a value] (by simpa [Change.key] using ha) b hb
  rw [get_filled] at hfound
  by_contra hhash
  have hcell : Keys.cell ⟨name, hash, id⟩ a ≠ Keys.cell ⟨name, hash, id⟩ b :=
    fun hcell => hhash (Prod.mk.inj hcell).1
  simp [last_of, Change.key, Change.value, hname, hcell] at hfound

end Contract

end hash_table
