-- The order in which a run goes through its hash maps: what is the same in every order, and
-- what a list says that is the same from both ends.
import StatsigCore.ClientInit.SharedContext

open program

namespace statsig_rust.gcir

open evaluation

/-! ## Orders of a map -/

section Orders

variable {κ υ : Type} [DecidableEq κ] {map : HashMap κ υ} {keys keys' : List κ}

theorem Iterates.reverse (h : Iterates map keys) : Iterates map keys.reverse :=
  ⟨List.nodup_reverse.mpr h.nodup, fun key => List.mem_reverse.trans (h.mem key)⟩

theorem mem_entries_in (h : Iterates map keys) {entry : κ × υ} :
    entry ∈ entries_in map keys ↔ map.get entry.1 = some entry.2 := by
  unfold entries_in
  rw [List.mem_filterMap]
  constructor
  · rintro ⟨key, -, hkey⟩
    obtain ⟨value, hvalue, rfl⟩ := Option.map_eq_some_iff.mp hkey
    exact hvalue
  · intro hget
    refine ⟨entry.1, (h.mem entry.1).mpr ?_, by rw [hget]; rfl⟩
    rw [hget]
    exact Option.some_ne_none _

theorem entries_in_keys_nodup (h : Iterates map keys) :
    ((entries_in map keys).map Prod.fst).Nodup :=
  (filter_map_keys map.get keys).nodup h.nodup

/-- Two lists of the same few elements, each once. -/
theorem eq_of_at_most_one {α : Type} {l l' : List α} (hl : l.Nodup) (hl' : l'.Nodup)
    (hmem : ∀ a, a ∈ l ↔ a ∈ l') (hone : ∀ a ∈ l, ∀ b ∈ l, a = b) : l = l' := by
  have hperm : l.Perm l' := (List.perm_ext_iff_of_nodup hl hl').mpr hmem
  cases l with
  | nil => exact hperm.nil_eq
  | cons a rest =>
    have hrest : rest = [] := by
      apply List.eq_nil_iff_forall_not_mem.mpr
      intro b hb
      have hab := hone a List.mem_cons_self b (List.mem_cons_of_mem a hb)
      rw [hab] at hl
      exact (List.nodup_cons.mp hl).1 hb
    rw [hrest] at hperm ⊢
    exact (List.perm_singleton.mp hperm.symm).symm

/-- The entries with some property are the same in every order, when they are at most one. -/
theorem filtered_entries_eq (h : Iterates map keys) (h' : Iterates map keys')
    (p : κ × υ → Bool)
    (hone : {key | ∃ value, map.get key = some value ∧ p (key, value) = true}.Subsingleton) :
    (entries_in map keys).filter p = (entries_in map keys').filter p := by
  have hnodup := (entries_in_keys_nodup h).of_map
  have hnodup' := (entries_in_keys_nodup h').of_map
  refine eq_of_at_most_one (hnodup.filter p) (hnodup'.filter p) (fun entry => ?_) ?_
  · rw [List.mem_filter, List.mem_filter, mem_entries_in h, mem_entries_in h']
  · intro a ha b hb
    rw [List.mem_filter, mem_entries_in h] at ha hb
    have hkey : a.1 = b.1 := hone ⟨a.2, ha⟩ ⟨b.2, hb⟩
    have hvalue : a.2 = b.2 := by
      have hget := hb.1
      rw [← hkey, ha.1] at hget
      exact Option.some.inj hget
    exact Prod.ext hkey hvalue

theorem entries_in_of_at_most_one (h : Iterates map keys) (h' : Iterates map keys')
    (hone : {key | map.get key ≠ none}.Subsingleton) :
    entries_in map keys = entries_in map keys' := by
  have hentries := filtered_entries_eq h h' (fun _ => true) fun a ha b hb => by
    obtain ⟨value, hget, -⟩ := ha
    obtain ⟨value', hget', -⟩ := hb
    exact hone (by rw [Set.mem_ofPred_eq, hget]; exact Option.some_ne_none _)
      (by rw [Set.mem_ofPred_eq, hget']; exact Option.some_ne_none _)
  rwa [List.filter_true, List.filter_true] at hentries

end Orders

/-! ## Written objects -/

section Written

variable {orders orders' : ObjectOrders} {path : List JsonStep}

theorem get_written_entries (entries : HashMap String JsonValue) (key : String) :
    HashMap.get (written_entries orders path entries) key =
      (entries.get key).map (written orders (path ++ [.key key])) := by
  induction entries with
  | nil => rfl
  | cons entry entries ih =>
    obtain ⟨name, value⟩ := entry
    show HashMap.get ((name, written orders (path ++ [.key name]) value) ::
      written_entries orders path entries) key = _
    rw [HashMap.get_cons, HashMap.get_cons, ih]
    by_cases hkey : key = name
    · rw [if_pos hkey, if_pos hkey, hkey]
      rfl
    · rw [if_neg hkey, if_neg hkey]

/-- The entries of an object stay the same, but for the order inside their values. -/
theorem entries_in_written (entries : HashMap String JsonValue) (keys : List String) :
    entries_in (written_entries orders path entries) keys = (entries_in entries keys).map
      fun entry => (entry.1, written orders (path ++ [.key entry.1]) entry.2) := by
  unfold entries_in
  rw [List.map_filterMap]
  refine List.filterMap_congr fun key _ => ?_
  rw [get_written_entries]
  cases entries.get key with
  | none => rfl
  | some value => rfl

/-- A value that is written in one way: no object in it has two keys. -/
inductive OneOrder : JsonValue → Prop
  | null : OneOrder .null
  | bool (b : Bool) : OneOrder (.bool b)
  | number (n : F64) : OneOrder (.number n)
  | string (s : String) : OneOrder (.string s)
  | array {items : List JsonValue} (hitems : ∀ item ∈ items, OneOrder item) :
    OneOrder (.array items)
  | object {entries : HashMap String JsonValue}
    (hone : {key | entries.get key ≠ none}.Subsingleton)
    (hvalues : ∀ key value, entries.get key = some value → OneOrder value) :
    OneOrder (.object entries)

theorem written_eq_of_one_order (h : orders.Fits) (h' : orders'.Fits) {value : JsonValue}
    (hone : OneOrder value) (path : List JsonStep) :
    written orders path value = written orders' path value := by
  induction hone generalizing path with
  | null => rfl
  | bool b => rfl
  | number n => rfl
  | string s => rfl
  | @array items _ ih =>
    have hitems : ∀ (index : Nat) (items : List JsonValue), (∀ item ∈ items, ∀ path,
        written orders path item = written orders' path item) →
        written_items orders path index items = written_items orders' path index items := by
      intro index items
      induction items generalizing index with
      | nil => exact fun _ => rfl
      | cons item items ihitems =>
        intro hitems
        unfold written_items
        rw [hitems item List.mem_cons_self,
          ihitems (index + 1) fun other hother => hitems other (List.mem_cons_of_mem item hother)]
    exact congrArg JsonValue.array (hitems 0 items ih)
  | @object entries hone _ ih =>
    refine congrArg JsonValue.object ?_
    rw [entries_in_written, entries_in_written,
      entries_in_of_at_most_one (h path entries) (h' path entries) hone]
    refine List.map_congr_left fun entry hentry => ?_
    rw [ih entry.1 entry.2 ((mem_entries_in (h' path entries)).mp hentry)]

end Written

end statsig_rust.gcir
