-- Conditions on arrays of strings. The target keeps one spelling for each lowercase text, the
-- last one of the array, so this is when the operators still decide about the whole array.
import StatsigCore.Comparisons.Operators

open last_wins statsig_ffi
open statsig_rust (HashMap InternedString)

namespace comparisons

open MemoizedEvaluatorValue (Arranges from_json is_equal_to_dynamic_value same_elements)

variable (std : Std)

/-! ## The entries of an array -/

def array_of (texts : List String) : JsonValue := .Array (texts.map .String)

theorem texts_of_array (texts : List String) :
    (texts.map JsonValue.String).map (text_of std) = texts := by
  rw [List.map_map]
  exact List.map_id texts

/-- The texts that are still there, in their order. -/
theorem keyed_array_texts (T : List String) :
    (keyed_array std T).map (fun entry => entry.2.2) = last_wins.collect std.to_lowercase T := by
  unfold keyed_array comparisons.collect
  rw [collect_map, List.map_map]
  have htexts : T.zipIdx.map Prod.fst = T := List.zipIdx_map_fst 0 T
  calc (last_wins.collect (std.to_lowercase ∘ Prod.fst) T.zipIdx).map Prod.fst
      = last_wins.collect std.to_lowercase (T.zipIdx.map Prod.fst) := (collect_map _ _ _).symm
    _ = last_wins.collect std.to_lowercase T := by rw [htexts]

theorem keyed_array_keys (T : List String) :
    (keyed_array std T).map Prod.fst = (T.map std.to_lowercase).dedup := by
  unfold keyed_array comparisons.collect
  rw [map_key_collect, List.map_map]
  have htexts : T.zipIdx.map Prod.fst = T := List.zipIdx_map_fst 0 T
  calc (T.zipIdx.map (std.to_lowercase ∘ Prod.fst)).dedup
      = ((T.zipIdx.map Prod.fst).map std.to_lowercase).dedup := by rw [List.map_map]
    _ = (T.map std.to_lowercase).dedup := by rw [htexts]

theorem mem_keyed_array {T : List String} {entry : InternedString × Nat × InternedString}
    (h : entry ∈ keyed_array std T) :
    entry.1 = std.to_lowercase entry.2.2 ∧ T[entry.2.1]? = some entry.2.2 := by
  have hmem := mem_of_mem_collect Prod.fst h
  obtain ⟨⟨text, idx⟩, hplace, rfl⟩ := List.mem_map.mp hmem
  exact ⟨rfl, List.mem_zipIdx_iff_getElem?.mp hplace⟩

/-- A target whose entries are those of an array, in any order. -/
structure Holds (T : List String) (target : MemoizedEvaluatorValue)
    (entries : HashMap InternedString (Nat × InternedString)) : Prop where
  value_type : target.value_type = .Array
  object_value : target.object_value = none
  array_value : target.array_value = some entries
  perm : entries.Perm (keyed_array std T)

theorem holds_of_arranges {items : List JsonValue} {target : MemoizedEvaluatorValue}
    (h : Arranges target (from_json std (.Array items))) :
    ∃ entries, Holds std (items.map (text_of std)) target entries := by
  have hobject := h.object_value
  have harray := h.array_value
  simp only [from_json] at hobject harray
  cases hentries : target.array_value with
  | none =>
    rw [hentries] at harray
    cases harray
  | some entries =>
    rw [hentries] at harray
    cases hmap : target.object_value with
    | some _ =>
      rw [hmap] at hobject
      cases hobject
    | none =>
      cases harray with
      | some hperm => exact ⟨entries, h.value_type, hmap, hentries, hperm⟩

theorem holds_of_array {T : List String} {target : MemoizedEvaluatorValue}
    (h : Arranges target (from_json std (array_of T))) : ∃ entries, Holds std T target entries := by
  have hholds := holds_of_arranges std h
  rwa [texts_of_array] at hholds

variable {std} {T : List String} {target : MemoizedEvaluatorValue}
  {entries : HashMap InternedString (Nat × InternedString)}

/-- A text is in the target where it is the last spelling of its lowercase text. -/
theorem Holds.mem_texts (h : Holds std T target entries) (s : String) :
    s ∈ entries.map (fun entry => entry.2.2) ↔ IsLast std.to_lowercase T s := by
  rw [(h.perm.map _).mem_iff, keyed_array_texts, mem_collect]

theorem Holds.len (h : Holds std T target entries) :
    HashMap.len entries = (T.map std.to_lowercase).dedup.length := by
  unfold HashMap.len
  rw [((h.perm.map Prod.fst).dedup).length_eq, keyed_array_keys,
    (List.nodup_dedup _).dedup]

/-! ## Membership -/

theorem Holds.any_entry (h : Holds std T target entries) (p : String → Bool) :
    entries.any (fun entry => p entry.2.2) = true ↔ ∃ t, IsLast std.to_lowercase T t ∧ p t := by
  rw [List.any_eq_true]
  constructor
  · rintro ⟨entry, hmem, hp⟩
    exact ⟨entry.2.2, (h.mem_texts _).mp (List.mem_map_of_mem hmem), hp⟩
  · rintro ⟨t, hlast, hp⟩
    obtain ⟨entry, hmem, rfl⟩ := List.mem_map.mp ((h.mem_texts t).mpr hlast)
    exact ⟨entry, hmem, hp⟩

theorem Holds.all_entries (h : Holds std T target entries) (p : String → Bool) :
    entries.all (fun entry => p entry.2.2) = true ↔ ∀ t, IsLast std.to_lowercase T t → p t := by
  rw [List.all_eq_true]
  constructor
  · intro hall t hlast
    obtain ⟨entry, hmem, rfl⟩ := List.mem_map.mp ((h.mem_texts t).mpr hlast)
    exact hall entry hmem
  · intro hall entry hmem
    exact hall _ ((h.mem_texts _).mp (List.mem_map_of_mem hmem))

/-- The four loops over the entries, each as one question about all of them. -/
theorem compare_items_eq (contains : InternedString → Bool)
    (entries : HashMap InternedString (Nat × InternedString)) :
    compare_items contains "array_contains_any" entries =
        entries.any (fun entry => contains entry.2.2) ∧
      compare_items contains "array_contains_none" entries =
        !entries.any (fun entry => contains entry.2.2) ∧
      compare_items contains "array_contains_all" entries =
        entries.all (fun entry => contains entry.2.2) ∧
      compare_items contains "not_array_contains_all" entries =
        !entries.all (fun entry => contains entry.2.2) := by
  induction entries with
  | nil => exact ⟨rfl, rfl, rfl, rfl⟩
  | cons entry entries ih =>
    obtain ⟨hany, hnone, hall, hnot_all⟩ := ih
    simp only [compare_items, List.any_cons, List.all_cons, hany, hnone, hall, hnot_all]
    cases h : contains entry.2.2 with
    | true => simp
    | false => simp

/-- The text that the operators on a text read. -/
def element_text (x : DynamicValue) : InternedString :=
  match x.string_value with
  | some s => s.value
  | none => ""

/-- What the operators on an array of strings are for, in a run of them. The text of a value that
has none is empty, but as an element of an array such a value is none of the target's strings. A
value that is no array meets none of the conditions on arrays. -/
structure DecidesMembership (empties_meet : Bool) (T : List String)
    (target : MemoizedEvaluatorValue) (value : DynamicValue) : Prop where
  any : compare_strings_in_array value target "any_case_sensitive" false =
    decide (element_text value ∈ T)
  none : compare_strings_in_array value target "none_case_sensitive" false =
    decide (element_text value ∉ T)
  contains_any : compare_arrays empties_meet value target "array_contains_any" = true ↔
    ∃ U, value.array_value = some U ∧ ∃ t ∈ T, some t ∈ U.map set_element
  contains_none : compare_arrays empties_meet value target "array_contains_none" = true ↔
    ∃ U, value.array_value = some U ∧ ¬ ∃ t ∈ T, some t ∈ U.map set_element
  contains_all : compare_arrays empties_meet value target "array_contains_all" = true ↔
    ∃ U, value.array_value = some U ∧ ∀ t ∈ T, some t ∈ U.map set_element
  not_contains_all : compare_arrays empties_meet value target "not_array_contains_all" = true ↔
    ∃ U, value.array_value = some U ∧ ¬ ∀ t ∈ T, some t ∈ U.map set_element

/-- The last spellings answer for all of them. -/
structure SpellingsKept (lower : String → String) (T : List String) (value : DynamicValue) :
    Prop where
  text : element_text value ∈ T → IsLast lower T (element_text value)
  shared : ∀ U, value.array_value = some U → (∃ t ∈ T, some t ∈ U.map set_element) →
    ∃ t, IsLast lower T t ∧ some t ∈ U.map set_element
  covered : ∀ U, value.array_value = some U →
    (∀ t, IsLast lower T t → some t ∈ U.map set_element) → ∀ t ∈ T, some t ∈ U.map set_element

/-- Where an element without a text may be found as the empty text of the target, it makes no
difference: the two arrays share an element besides, and the other last spellings answer for all
of the target. -/
structure EmptiesApart (lower : String → String) (T : List String) (value : DynamicValue) :
    Prop where
  shared : ∀ U, value.array_value = some U → none ∈ U.map set_element → IsLast lower T "" →
    ∃ t ∈ T, some t ∈ U.map set_element
  covered : ∀ U, value.array_value = some U → none ∈ U.map set_element → IsLast lower T "" →
    (∀ t, IsLast lower T t → t ≠ "" → some t ∈ U.map set_element) →
    ∀ t ∈ T, some t ∈ U.map set_element

theorem isLast_mem {lower : String → String} {t : String} (h : IsLast lower T t) : t ∈ T :=
  mem_of_mem_collect lower ((mem_collect lower).mpr h)

theorem element_text_eq (value : DynamicValue) :
    (value.string_value.getD EMPTY_STRING).value = element_text value := by
  unfold element_text
  cases value.string_value <;> rfl

/-- The two operators on a text look for it among the last spellings. -/
theorem Holds.compare_text (h : Holds std T target entries) (value : DynamicValue) :
    (compare_strings_in_array value target "any_case_sensitive" false = true ↔
        IsLast std.to_lowercase T (element_text value)) ∧
      compare_strings_in_array value target "none_case_sensitive" false =
        !compare_strings_in_array value target "any_case_sensitive" false := by
  have himpl : ∀ op, op = "any_case_sensitive" ∨ op = "none_case_sensitive" →
      compare_strings_in_array_impl (value.string_value.getD EMPTY_STRING) target op false =
        entries.any fun entry => element_text value == entry.2.2 := by
    intro op hop
    have hmatch : matches_entry (value.string_value.getD EMPTY_STRING) op false =
        fun entry => element_text value == entry.2.2 := by
      funext entry
      rcases hop with rfl | rfl <;> simp [matches_entry, element_text_eq]
    simp [compare_strings_in_array_impl, h.array_value, hmatch]
  have hany : compare_strings_in_array value target "any_case_sensitive" false =
      entries.any fun entry => element_text value == entry.2.2 := by
    simp [compare_strings_in_array, himpl]
  refine ⟨?_, ?_⟩
  · rw [hany, h.any_entry fun t => element_text value == t]
    simp
  · rw [hany]
    simp [compare_strings_in_array, himpl]

theorem set_contains_iff (empties_meet : Bool) (value_set : List (Option InternedString))
    (t : InternedString) : set_contains empties_meet value_set t = true ↔
      some t ∈ value_set ∨ empties_meet = true ∧ t = "" ∧ none ∈ value_set := by
  simp [set_contains, and_assoc]

/-- The operators on arrays look for the last spellings. -/
theorem Holds.compare_arrays (h : Holds std T target entries) (empties_meet : Bool)
    {value : DynamicValue} {U : List DynamicValue} (hU : value.array_value = some U) :
    (compare_arrays empties_meet value target "array_contains_any" = true ↔
        ∃ t, IsLast std.to_lowercase T t ∧ set_contains empties_meet (U.map set_element) t) ∧
      (compare_arrays empties_meet value target "array_contains_none" = true ↔
        ¬ ∃ t, IsLast std.to_lowercase T t ∧ set_contains empties_meet (U.map set_element) t) ∧
      (compare_arrays empties_meet value target "array_contains_all" = true ↔
        ∀ t, IsLast std.to_lowercase T t → set_contains empties_meet (U.map set_element) t) ∧
      (compare_arrays empties_meet value target "not_array_contains_all" = true ↔
        ¬ ∀ t, IsLast std.to_lowercase T t → set_contains empties_meet (U.map set_element) t) := by
  have hsome := h.any_entry (set_contains empties_meet (U.map set_element))
  have hevery := h.all_entries (set_contains empties_meet (U.map set_element))
  obtain ⟨hany, hnone, hall, hnot_all⟩ :=
    compare_items_eq (set_contains empties_meet (U.map set_element)) entries
  have hloop : ∀ op, comparisons.compare_arrays empties_meet value target op =
      compare_items (set_contains empties_meet (U.map set_element)) op entries := by
    intro op
    simp [comparisons.compare_arrays, h.array_value, hU]
  rw [hloop, hloop, hloop, hloop, hany, hnone, hall, hnot_all, Bool.not_eq_true',
    Bool.not_eq_true', ← Bool.not_eq_true, ← Bool.not_eq_true]
  exact ⟨hsome, not_congr hsome, hevery, not_congr hevery⟩

theorem compare_arrays_of_no_array {value : DynamicValue} (hU : value.array_value = none)
    (empties_meet : Bool) (op : String) :
    comparisons.compare_arrays empties_meet value target op = false := by
  unfold comparisons.compare_arrays
  rw [hU]
  cases target.array_value <;> rfl

/-- The six operators decide where the text and the two questions about arrays are answered. -/
theorem Holds.decides_iff (h : Holds std T target entries) (empties_meet : Bool)
    (value : DynamicValue) : DecidesMembership empties_meet T target value ↔
      (element_text value ∈ T → IsLast std.to_lowercase T (element_text value)) ∧
      ∀ U, value.array_value = some U →
        ((∃ t, IsLast std.to_lowercase T t ∧ set_contains empties_meet (U.map set_element) t) ↔
          ∃ t ∈ T, some t ∈ U.map set_element) ∧
        ((∀ t, IsLast std.to_lowercase T t → set_contains empties_meet (U.map set_element) t) ↔
          ∀ t ∈ T, some t ∈ U.map set_element) := by
  obtain ⟨htext, hnone⟩ := h.compare_text value
  constructor
  · intro hdecides
    refine ⟨fun hmem => htext.mp ?_, fun U hU => ⟨?_, ?_⟩⟩
    · rw [hdecides.any]
      exact decide_eq_true hmem
    · rw [← (h.compare_arrays empties_meet hU).1, hdecides.contains_any]
      simp [hU]
    · rw [← (h.compare_arrays empties_meet hU).2.2.1, hdecides.contains_all]
      simp [hU]
  · rintro ⟨hlast, harrays⟩
    have hany : compare_strings_in_array value target "any_case_sensitive" false =
        decide (element_text value ∈ T) := by
      rw [Bool.eq_iff_iff, htext, decide_eq_true_eq]
      exact ⟨isLast_mem, hlast⟩
    cases hU : value.array_value with
    | none =>
      refine ⟨hany, by rw [hnone, hany, decide_not], ?_, ?_, ?_, ?_⟩
      all_goals simp [compare_arrays_of_no_array hU, hU]
    | some U =>
      obtain ⟨hcontains, hdisjoint, hcovers, hmisses⟩ := h.compare_arrays empties_meet hU
      obtain ⟨hsome, hall⟩ := harrays U hU
      rw [hsome] at hcontains hdisjoint
      rw [hall] at hcovers hmisses
      refine ⟨hany, by rw [hnone, hany, decide_not], ?_, ?_, ?_, ?_⟩
      · rw [hcontains]
        simp [hU]
      · rw [hdisjoint]
        simp [hU]
      · rw [hcovers]
        simp [hU]
      · rw [hmisses]
        simp [hU]

/-- Where the two empty texts do not meet, the last spellings have to answer. -/
theorem Holds.decides_apart_iff (h : Holds std T target entries) (value : DynamicValue) :
    DecidesMembership false T target value ↔ SpellingsKept std.to_lowercase T value := by
  rw [h.decides_iff]
  simp only [set_contains_iff, Bool.false_eq_true, false_and, or_false]
  constructor
  · rintro ⟨htext, harrays⟩
    exact ⟨htext, fun U hU => (harrays U hU).1.mpr, fun U hU => (harrays U hU).2.mp⟩
  · intro hkept
    refine ⟨hkept.text, fun U hU => ⟨⟨?_, hkept.shared U hU⟩, hkept.covered U hU, ?_⟩⟩
    · rintro ⟨t, hlast, hmem⟩
      exact ⟨t, isLast_mem hlast, hmem⟩
    · intro hall t hlast
      exact hall t (isLast_mem hlast)

/-- Where they do, the element that the static empty string stands for may not count. -/
theorem Holds.decides_met_iff (h : Holds std T target entries) {value : DynamicValue}
    (hkept : SpellingsKept std.to_lowercase T value) :
    DecidesMembership true T target value ↔ EmptiesApart std.to_lowercase T value := by
  rw [h.decides_iff]
  simp only [set_contains_iff, true_and]
  constructor
  · rintro ⟨-, harrays⟩
    refine ⟨fun U hU hempty hlast => (harrays U hU).1.mp ⟨"", hlast, .inr ⟨rfl, hempty⟩⟩,
      fun U hU hempty hlast hothers => (harrays U hU).2.mp fun t ht => ?_⟩
    by_cases htext : t = ""
    · exact .inr ⟨htext, hempty⟩
    · exact .inl (hothers t ht htext)
  · intro hapart
    refine ⟨hkept.text, fun U hU => ⟨⟨?_, fun hsome => ?_⟩, fun hall => ?_, fun hall t hlast =>
      .inl (hall t (isLast_mem hlast))⟩⟩
    · rintro ⟨t, hlast, hmem | ⟨rfl, hempty⟩⟩
      · exact ⟨t, isLast_mem hlast, hmem⟩
      · exact hapart.shared U hU hempty hlast
    · obtain ⟨t, hlast, hmem⟩ := hkept.shared U hU hsome
      exact ⟨t, hlast, .inl hmem⟩
    · by_cases hempty : none ∈ U.map set_element ∧ IsLast std.to_lowercase T ""
      · refine hapart.covered U hU hempty.1 hempty.2 fun t hlast htext => ?_
        exact (hall t hlast).resolve_right fun hmet => htext hmet.1
      · refine hkept.covered U hU fun t hlast => (hall t hlast).resolve_right ?_
        rintro ⟨rfl, hnone⟩
        exact hempty ⟨hnone, hlast⟩

theorem Holds.decides_membership_iff (h : Holds std T target entries) (value : DynamicValue) :
    (∀ empties_meet, DecidesMembership empties_meet T target value) ↔
      SpellingsKept std.to_lowercase T value ∧ EmptiesApart std.to_lowercase T value := by
  rw [Bool.forall_bool, h.decides_apart_iff]
  exact and_congr_right h.decides_met_iff

/-- A user with a text and no other reading. -/
def text_value (s : String) : DynamicValue := { string_value := some ⟨s, s⟩ }

/-- A user's array with a null in it and nothing else. -/
def array_of_null : DynamicValue := { array_value := some [{}] }

theorem kept_everywhere_iff (lower : String → String) (T : List String) :
    (∀ value, SpellingsKept lower T value ∧ EmptiesApart lower T value) ↔
      (∀ x ∈ T, ∀ y ∈ T, lower x = lower y → x = y) ∧ "" ∉ T := by
  rw [← subset_collect_iff]
  constructor
  · intro h
    have hlast : ∀ x ∈ T, IsLast lower T x := fun x hx => (h (text_value x)).1.text hx
    refine ⟨fun x hx => (mem_collect lower).mpr (hlast x hx), fun hempty => ?_⟩
    obtain ⟨t, -, hmem⟩ := (h array_of_null).2.shared [{}] rfl (by decide) (hlast "" hempty)
    exact absurd hmem (by simp [set_element])
  · rintro ⟨hkept, hempty⟩ value
    have hlast : ∀ t ∈ T, IsLast lower T t := fun t ht => (mem_collect lower).mp (hkept t ht)
    refine ⟨⟨hlast _, ?_, ?_⟩, ⟨?_, ?_⟩⟩
    · rintro U - ⟨t, ht, hmem⟩
      exact ⟨t, hlast t ht, hmem⟩
    · intro U _ hcovered t ht
      exact hcovered t (hlast t ht)
    · intro U _ _ hmet
      exact absurd (isLast_mem hmet) hempty
    · intro U _ _ hmet
      exact absurd (isLast_mem hmet) hempty

/-- For one value the operators decide about the array, wherever a set puts its elements, where
the last spellings answer and no element without a text counts. For every value they do exactly
where no lowercase text has two spellings and no string is empty. -/
theorem array_targets_decide_membership_iff (std : Std) (T : List String)
    (target : MemoizedEvaluatorValue) (h : Arranges target (from_json std (array_of T))) :
    (∀ value, (∀ empties_meet, DecidesMembership empties_meet T target value) ↔
        SpellingsKept std.to_lowercase T value ∧ EmptiesApart std.to_lowercase T value) ∧
      ((∀ value empties_meet, DecidesMembership empties_meet T target value) ↔
        (∀ x ∈ T, ∀ y ∈ T, std.to_lowercase x = std.to_lowercase y → x = y) ∧ "" ∉ T) := by
  obtain ⟨entries, hholds⟩ := holds_of_array std h
  refine ⟨hholds.decides_membership_iff, ?_⟩
  rw [← kept_everywhere_iff]
  exact forall_congr' hholds.decides_membership_iff

/-- A text that is there twice has one spelling. -/
theorem fruits_have_one_spelling :
    DecidesMembership false ["Apple", "Banana", "Apple"]
        (from_json (calendar []) (array_of ["Apple", "Banana", "Apple"])) (text_value "Apple") ∧
      DecidesMembership true ["Apple", "Banana", "Apple"]
        (from_json (calendar []) (array_of ["Apple", "Banana", "Apple"])) (text_value "Apple") := by
  have hdecides := (array_targets_decide_membership_iff (calendar [])
    ["Apple", "Banana", "Apple"] _ (Arranges.refl _)).2.mpr (by decide +kernel) (text_value "Apple")
  exact ⟨hdecides false, hdecides true⟩

/-- Of two spellings the first one is lost. -/
theorem first_spelling_is_lost :
    ¬ ∀ (std : Std) (T : List String) (target : MemoizedEvaluatorValue),
      Arranges target (from_json std (array_of T)) →
        ∀ value empties_meet, DecidesMembership empties_meet T target value := by
  intro h
  have hdecides := h (calendar []) ["A", "a"] _ (Arranges.refl _) (text_value "A") false
  have hany := hdecides.any
  revert hany
  decide +kernel

/-! ## Equality -/

section Equality

variable (std : Std) {T : List String} {target : MemoizedEvaluatorValue}
  {entries : HashMap InternedString (Nat × InternedString)}

/-- The elements of a user's array of strings. -/
def users_elements (U : List String) : List DynamicValue :=
  U.map fun s => DynamicValue.from_json std (.String s)

theorem from_items_of_texts (U : List String) :
    DynamicValue.from_items std (U.map .String) = users_elements std U := by
  induction U with
  | nil => rfl
  | cons s U ih =>
    rw [List.map_cons, DynamicValue.from_items, ih]
    rfl

/-- Whether an entry is in its place in the user's array. -/
def in_place (other_arr : List DynamicValue) (entry : InternedString × Nat × InternedString) :
    Bool :=
  match (other_arr[entry.2.1]?).bind (·.string_value) with
  | some s => entry.2.2 == s.value
  | none => false

/-- With every index in bounds the loop asks whether all the entries are in their places. -/
theorem same_elements_in_bounds {other_arr : List DynamicValue}
    (h : ∀ entry ∈ entries, entry.2.1 < other_arr.length) :
    same_elements other_arr entries = some (entries.all (in_place other_arr)) := by
  induction entries with
  | nil => rfl
  | cons entry entries ih =>
    obtain ⟨key, i, self_value⟩ := entry
    have hi : i < other_arr.length := h _ (List.mem_cons_self ..)
    have hrest := ih fun entry hmem => h entry (List.mem_cons_of_mem _ hmem)
    simp only [same_elements, List.all_cons, in_place, List.getElem?_eq_getElem hi,
      Option.bind_some, hrest]
    cases other_arr[i].string_value with
    | none => rfl
    | some s =>
      by_cases heq : self_value = s.value
      · simp [heq]
      · simp [heq]

/-- The loop ends well only with every index in bounds. -/
theorem in_bounds_of_same_elements {other_arr : List DynamicValue}
    (h : same_elements other_arr entries = some true) :
    ∀ entry ∈ entries, entry.2.1 < other_arr.length := by
  induction entries with
  | nil =>
    intro entry hmem
    cases hmem
  | cons entry entries ih =>
    obtain ⟨key, i, self_value⟩ := entry
    unfold same_elements at h
    cases hget : other_arr[i]? with
    | none =>
      rw [hget] at h
      cases h
    | some other =>
      simp only [hget] at h
      cases hs : other.string_value with
      | none =>
        rw [hs] at h
        cases h
      | some s =>
        simp only [hs] at h
        intro entry hmem
        split at h
        · cases h
        · rcases List.mem_cons.mp hmem with rfl | hmem
          · exact (List.getElem?_eq_some_iff.mp hget).1
          · exact ih h entry hmem

theorem in_place_iff {std : Std} {U : List String}
    {entry : InternedString × Nat × InternedString} :
    in_place (users_elements std U) entry = decide (U[entry.2.1]? = some entry.2.2) := by
  unfold in_place users_elements
  rw [List.getElem?_map]
  cases U[entry.2.1]? with
  | none => rfl
  | some s =>
    have htext : (entry.2.2 == s) = decide (some s = some entry.2.2) := by
      rw [Bool.eq_iff_iff, beq_iff_eq, decide_eq_true_eq, Option.some.injEq]
      exact eq_comm
    simpa [DynamicValue.from_json, dynamic_string] using htext

theorem same_elements_out_of_bounds {std : Std} {U : List String} {i : Nat} (hi : U.length ≤ i)
    (key self_value : InternedString) :
    same_elements (users_elements std U) ((key, i, self_value) :: entries) = none := by
  have hget : (users_elements std U)[i]? = none := by
    rw [List.getElem?_eq_none]
    simpa [users_elements] using hi
  simp only [same_elements, hget]

theorem Holds.equal {std : Std} (h : Holds std T target entries) (U : List String) :
    is_equal_to_dynamic_value target (DynamicValue.from_json std (array_of U)) =
      if (T.map std.to_lowercase).dedup.length ≠ U.length then some false
      else same_elements (users_elements std U) entries := by
  unfold is_equal_to_dynamic_value
  simp only [h.value_type, h.array_value, array_of, DynamicValue.from_json, from_items_of_texts,
    h.len, users_elements, List.length_map]

/-- An array that loses nothing keeps every element at its place. -/
theorem Holds.all_in_place {std : Std} (h : Holds std T target entries)
    (hnodup : (T.map std.to_lowercase).Nodup) {U : List String} (hlength : U.length = T.length) :
    entries.all (in_place (users_elements std U)) = decide (U = T) := by
  have hkept : keyed_array std T =
      T.zipIdx.map fun entry => (std.to_lowercase entry.1, (entry.2, entry.1)) := by
    unfold keyed_array comparisons.collect
    rw [collect_eq_self_iff, List.map_map]
    have htexts : T.zipIdx.map Prod.fst = T := List.zipIdx_map_fst 0 T
    have hkeys : T.zipIdx.map (std.to_lowercase ∘ Prod.fst) = T.map std.to_lowercase := by
      rw [← List.map_map, htexts]
    exact hkeys ▸ hnodup
  rw [Bool.eq_iff_iff, List.all_eq_true, decide_eq_true_eq]
  constructor
  · intro hall
    apply List.ext_getElem hlength
    intro i hi hi'
    have hmem : (std.to_lowercase T[i], (i, T[i])) ∈ entries := by
      rw [h.perm.mem_iff, hkept, List.mem_map]
      exact ⟨(T[i], i), List.mem_zipIdx_iff_getElem?.mpr (List.getElem?_eq_getElem hi'), rfl⟩
    have hplace := of_decide_eq_true (in_place_iff ▸ hall _ hmem)
    rw [List.getElem?_eq_getElem hi] at hplace
    exact Option.some.inj hplace
  · rintro rfl entry hmem
    rw [in_place_iff]
    exact decide_eq_true (mem_keyed_array std (h.perm.mem_iff.mp hmem)).2

/-- Without two elements of one lowercase text the equality is total and exact. -/
theorem Holds.equal_exact {std : Std} (h : Holds std T target entries)
    (hnodup : (T.map std.to_lowercase).Nodup) (U : List String) :
    is_equal_to_dynamic_value target (DynamicValue.from_json std (array_of U)) =
      some (decide (U = T)) := by
  rw [h.equal, hnodup.dedup, List.length_map]
  by_cases hlength : T.length = U.length
  · rw [if_neg (not_not.mpr hlength), same_elements_in_bounds, h.all_in_place hnodup hlength.symm]
    intro entry hmem
    have hplace := (mem_keyed_array std (h.perm.mem_iff.mp hmem)).2
    rw [users_elements, List.length_map, ← hlength]
    exact (List.getElem?_eq_some_iff.mp hplace).1
  · rw [if_pos hlength, decide_eq_false]
    rintro rfl
    exact hlength rfl

/-- Where an element is lost, the index of the last one is past the number of those kept. -/
theorem last_index_past_kept (hT : ¬ (T.map std.to_lowercase).Nodup) :
    ∃ last, (std.to_lowercase last, (T.length - 1, last)) ∈ keyed_array std T ∧
      (T.map std.to_lowercase).dedup.length ≤ T.length - 1 := by
  have hne : T ≠ [] := by
    rintro rfl
    exact hT List.nodup_nil
  obtain ⟨texts, last, rfl⟩ : ∃ texts last, T = texts ++ [last] :=
    ⟨T.dropLast, T.getLast hne, (List.dropLast_append_getLast hne).symm⟩
  have hlength : (texts ++ [last]).length - 1 = texts.length := by simp
  rw [hlength]
  refine ⟨last, ?_, ?_⟩
  · unfold keyed_array comparisons.collect
    rw [List.zipIdx_append, List.map_append]
    simpa using last_mem_collect Prod.fst
      (texts.zipIdx.map fun entry => (std.to_lowercase entry.1, (entry.2, entry.1)))
      (std.to_lowercase last, (texts.length, last))
  · have hlt := (collect_length_lt_iff std.to_lowercase).mpr hT
    rw [← List.length_map std.to_lowercase, map_key_collect] at hlt
    simp only [List.length_append, List.length_singleton] at hlt
    omega

/-- The entry of the last element can come first, and it is out of bounds for an array that is
as long as the map. -/
theorem exists_last_entry_first (hT : ¬ (T.map std.to_lowercase).Nodup) :
    ∃ target entries last, Arranges target (from_json std (array_of T)) ∧
      Holds std T target ((std.to_lowercase last, (T.length - 1, last)) :: entries) ∧
      (T.map std.to_lowercase).dedup.length ≤ T.length - 1 := by
  obtain ⟨last, hmem, hlost⟩ := last_index_past_kept std hT
  obtain ⟨before, after, hsplit⟩ := List.append_of_mem hmem
  let entries := (std.to_lowercase last, (T.length - 1, last)) :: (before ++ after)
  have hperm : entries.Perm (keyed_array std T) := by
    rw [hsplit]
    exact List.perm_middle.symm
  have harranged : Arranges { value_type := .Array, array_value := some entries }
      (from_json std (array_of T)) := by
    refine ⟨rfl, rfl, rfl, rfl, rfl, rfl, .none, ?_⟩
    simp only [array_of, from_json, texts_of_array]
    exact .some hperm
  exact ⟨_, before ++ after, last, harranged, ⟨rfl, rfl, rfl, hperm⟩, hlost⟩

/-- Whatever the order of the entries is, the equality is total and exact exactly where no
lowercase text is there twice, or the lengths tell the two arrays apart. -/
theorem array_equality_is_total_and_exact_iff (T U : List String) :
    (∀ target, Arranges target (from_json std (array_of T)) →
      is_equal_to_dynamic_value target (DynamicValue.from_json std (array_of U)) =
        some (decide (U = T))) ↔
    (T.map std.to_lowercase).Nodup ∨
      (U.length ≠ (T.map std.to_lowercase).dedup.length ∧ U ≠ T) := by
  constructor
  · intro h
    by_cases hnodup : (T.map std.to_lowercase).Nodup
    · exact .inl hnodup
    · refine .inr ?_
      obtain ⟨target, entries, last, harranged, hholds, hlost⟩ :=
        exists_last_entry_first std hnodup
      have hequal := h target harranged
      rw [hholds.equal] at hequal
      by_cases hlength : (T.map std.to_lowercase).dedup.length = U.length
      · rw [if_neg (not_not.mpr hlength), same_elements_out_of_bounds (by omega)] at hequal
        cases hequal
      · rw [if_pos hlength] at hequal
        have hdiffers := of_decide_eq_false (Option.some.inj hequal).symm
        exact ⟨fun heq => hlength heq.symm, hdiffers⟩
  · intro h target harranged
    obtain ⟨entries, hholds⟩ := holds_of_array std harranged
    rcases h with hnodup | ⟨hlength, hdiffers⟩
    · exact hholds.equal_exact hnodup U
    · rw [hholds.equal, if_pos fun heq => hlength heq.symm, decide_eq_false hdiffers]

end Equality

/-- An array of one element is compared with the second element of a target with two
spellings. -/
theorem second_spelling_is_out_of_bounds : ¬ ∀ (std : Std) (T U : List String)
    (target : MemoizedEvaluatorValue), Arranges target (from_json std (array_of T)) →
      is_equal_to_dynamic_value target (DynamicValue.from_json std (array_of U)) =
        some (decide (U = T)) := by
  intro h
  have hequal := h (calendar []) ["A", "a"] ["a"] _ (Arranges.refl _)
  revert hequal
  decide +kernel

end comparisons
