-- Targets that are written back as JSON and read again (`SpecStore::get_current_values`, a data
-- store). Which of them still give every operator the same answer.
import StatsigCore.Comparisons.ArrayTargets

open last_wins statsig_ffi
open statsig_rust (DynamicString HashMap InternedString)

namespace comparisons

open MemoizedEvaluatorValue

/-! ## The order of iteration -/

section Arrangement

variable {target other : MemoizedEvaluatorValue} {value : DynamicValue}

/-- Both are missing, or both are there. -/
theorem perm_cases {α : Type} {a b : Option (List α)} (h : Option.Rel List.Perm a b) :
    (a = none ∧ b = none) ∨ ∃ xs ys, a = some xs ∧ b = some ys ∧ xs.Perm ys := by
  cases h with
  | none => exact .inl ⟨rfl, rfl⟩
  | some hperm => exact .inr ⟨_, _, rfl, rfl, hperm⟩

theorem perm_symm {α : Type} {a b : Option (List α)} (h : Option.Rel List.Perm a b) :
    Option.Rel List.Perm b a := by
  cases h with
  | none => exact .none
  | some hperm => exact .some hperm.symm

theorem perm_trans {α : Type} {a b c : Option (List α)} (h : Option.Rel List.Perm a b)
    (h' : Option.Rel List.Perm b c) : Option.Rel List.Perm a c := by
  cases h with
  | none => exact h'
  | some hperm =>
    cases h' with
    | some hperm' => exact .some (hperm.trans hperm')

theorem MemoizedEvaluatorValue.Arranges.symm (h : Arranges target other) :
    Arranges other target where
  value_type := h.value_type.symm
  bool_value := h.bool_value.symm
  float_value := h.float_value.symm
  string_value := h.string_value.symm
  regex_value := h.regex_value.symm
  timestamp_value := h.timestamp_value.symm
  object_value := perm_symm h.object_value
  array_value := perm_symm h.array_value

theorem MemoizedEvaluatorValue.Arranges.trans {third : MemoizedEvaluatorValue}
    (h : Arranges target other)
    (h' : Arranges other third) : Arranges target third where
  value_type := h.value_type.trans h'.value_type
  bool_value := h.bool_value.trans h'.bool_value
  float_value := h.float_value.trans h'.float_value
  string_value := h.string_value.trans h'.string_value
  regex_value := h.regex_value.trans h'.regex_value
  timestamp_value := h.timestamp_value.trans h'.timestamp_value
  object_value := perm_trans h.object_value h'.object_value
  array_value := perm_trans h.array_value h'.array_value

theorem len_of_perm {υ : Type} {m m' : HashMap InternedString υ} (h : m.Perm m') :
    HashMap.len m = HashMap.len m' := ((h.map Prod.fst).dedup).length_eq

theorem contains_key_of_perm {υ : Type} {m m' : HashMap InternedString υ} (h : m.Perm m')
    (key : InternedString) : contains_key m key = contains_key m' key := h.any_eq

theorem compare_items_of_perm {op : String}
    {entries entries' : HashMap InternedString (Nat × InternedString)}
    (hop : op ∈ ["array_contains_any", "array_contains_none", "array_contains_all",
      "not_array_contains_all"])
    (h : entries.Perm entries') (contains : InternedString → Bool) :
    compare_items contains op entries = compare_items contains op entries' := by
  obtain ⟨hany, hnone, hall, hnot_all⟩ := compare_items_eq contains entries
  obtain ⟨hany', hnone', hall', hnot_all'⟩ := compare_items_eq contains entries'
  simp only [List.mem_cons, List.not_mem_nil, or_false] at hop
  rcases hop with rfl | rfl | rfl | rfl
  · rw [hany, hany', h.any_eq]
  · rw [hnone, hnone', h.any_eq]
  · rw [hall, hall', h.all_eq]
  · rw [hnot_all, hnot_all', h.all_eq]

/-- Whether a field of the target is a field of the user's object. -/
def is_field (other_obj : HashMap String DynamicValue) (field : InternedString × DynamicString) :
    Bool :=
  match (other_obj.get field.1).bind (·.string_value) with
  | some other_str_val => other_str_val.value == field.2.value
  | none => false

theorem same_fields_eq (other_obj : HashMap String DynamicValue)
    (fields : HashMap InternedString DynamicString) :
    same_fields other_obj fields = fields.all (is_field other_obj) := by
  induction fields with
  | nil => rfl
  | cons field fields ih =>
    obtain ⟨k, v⟩ := field
    simp only [same_fields, List.all_cons, is_field]
    cases other_obj.get k with
    | none => rfl
    | some other_dyn_val =>
      cases hs : other_dyn_val.string_value with
      | none => simp [hs]
      | some s => simp [hs, ih]

/-- The indices of the entries are those of an array that lost nothing. -/
def Compact (target : MemoizedEvaluatorValue) : Prop :=
  ∀ entries, target.array_value = some entries → ∀ entry ∈ entries, entry.2.1 < entries.len

theorem compare_strings_arranged (h : Arranges target other) (op : String) (ignore_case : Bool) :
    compare_strings_in_array value target op ignore_case =
      compare_strings_in_array value other op ignore_case := by
  have himpl : ∀ s, compare_strings_in_array_impl s target op ignore_case =
      compare_strings_in_array_impl s other op ignore_case := by
    intro s
    unfold compare_strings_in_array_impl
    cases hby : (ignore_case && (op == "any" || op == "none")) with
    | false =>
      rcases perm_cases h.array_value with ⟨h₁, h₂⟩ | ⟨m, m', h₁, h₂, hperm⟩
      · rw [h₁, h₂]
      · rw [h₁, h₂]
        exact hperm.any_eq
    | true =>
      rcases perm_cases h.object_value with ⟨h₁, h₂⟩ | ⟨m, m', h₁, h₂, hperm⟩
      · rw [h₁, h₂]
        rcases perm_cases h.array_value with ⟨h₃, h₄⟩ | ⟨m, m', h₃, h₄, hperm⟩
        · rw [h₃, h₄]
        · rw [h₃, h₄]
          exact contains_key_of_perm hperm _
      · rw [h₁, h₂]
        exact contains_key_of_perm hperm _
  unfold compare_strings_in_array
  simp only [himpl]

theorem compare_arrays_arranged (empties_meet : Bool) (h : Arranges target other) {op : String}
    (hop : op ∈ ["array_contains_any", "array_contains_none", "array_contains_all",
      "not_array_contains_all"]) :
    compare_arrays empties_meet value target op = compare_arrays empties_meet value other op := by
  unfold compare_arrays
  rcases perm_cases h.array_value with ⟨h₁, h₂⟩ | ⟨m, m', h₁, h₂, hperm⟩
  · rw [h₁, h₂]
  · rw [h₁, h₂]
    cases value.array_value with
    | none => rfl
    | some U => exact compare_items_of_perm hop hperm _

/-- Out of bounds or not is a matter of the order, unless no index is. -/
theorem is_equal_arranged (h : Arranges target other) (hcompact : Compact target) :
    is_equal_to_dynamic_value target value = is_equal_to_dynamic_value other value := by
  unfold is_equal_to_dynamic_value
  rw [h.value_type, h.bool_value, h.float_value, h.string_value]
  cases other.value_type with
  | Array =>
    rcases perm_cases h.array_value with ⟨h₁, h₂⟩ | ⟨m, m', h₁, h₂, hperm⟩
    · simp only [h₁, h₂]
    · simp only [h₁, h₂]
      cases value.array_value with
      | none => rfl
      | some other_arr =>
        have hlen := len_of_perm hperm
        by_cases hlength : HashMap.len m' = other_arr.length
        · have hbounds : ∀ entry ∈ m, entry.2.1 < other_arr.length := by
            intro entry hmem
            rw [← hlength, ← hlen]
            exact hcompact m h₁ entry hmem
          have hbounds' : ∀ entry ∈ m', entry.2.1 < other_arr.length :=
            fun entry hmem => hbounds entry (hperm.mem_iff.mpr hmem)
          simp only [hlen, hlength, ne_eq, not_true_eq_false, ↓reduceIte,
            same_elements_in_bounds hbounds, same_elements_in_bounds hbounds', hperm.all_eq]
        · simp only [hlen, ne_eq, hlength, not_false_eq_true, ↓reduceIte]
  | Object =>
    rcases perm_cases h.object_value with ⟨h₁, h₂⟩ | ⟨m, m', h₁, h₂, hperm⟩
    · simp only [h₁, h₂]
    · simp only [h₁, h₂]
      cases value.object_value with
      | none => rfl
      | some other_obj => simp only [len_of_perm hperm, same_fields_eq, hperm.all_eq]
  | _ => rfl

/-- No operator asks for the order of iteration, once no index is out of bounds. -/
theorem evaluate_operator_arranged (env : OperatorEnv) (operator : String)
    (h : Arranges target other) (hcompact : Compact target) :
    evaluate_operator env operator value target = evaluate_operator env operator value other := by
  have hnumbers : compare_numbers value target operator = compare_numbers value other operator := by
    unfold compare_numbers
    rw [h.float_value]
  have hversions : compare_versions value target operator =
      compare_versions value other operator := by
    unfold compare_versions
    rw [h.string_value]
  have hregex : compare_str_with_regex env.regex value target =
      compare_str_with_regex env.regex value other := by
    unfold compare_str_with_regex
    rw [h.regex_value]
  have htime : compare_time env.overflow_checks value target operator =
      compare_time env.overflow_checks value other operator := by
    unfold compare_time
    rw [h.timestamp_value, h.float_value]
  have hlist : evaluate_id_list env operator target value =
      evaluate_id_list env operator other value := by
    unfold evaluate_id_list is_in_id_list
    rw [h.string_value]
  unfold evaluate_operator
  rw [hnumbers, hversions, hregex, htime, hlist, compare_strings_arranged h,
    compare_strings_arranged h, is_equal_arranged h hcompact]
  by_cases hop : operator ∈ ["array_contains_any", "array_contains_none", "array_contains_all",
      "not_array_contains_all"]
  · rw [compare_arrays_arranged env.empties_meet h hop]
  · simp only [if_neg hop]

theorem load_target_arranged (env : OperatorEnv) (operator : String) (h : Arranges target other) :
    Arranges (load_target env operator target) (load_target env operator other) := by
  unfold load_target
  by_cases hop : operator = "str_matches"
  · rw [if_pos hop, if_pos hop]
    unfold compile_regex
    rw [h.string_value]
    cases other.string_value with
    | none => exact h
    | some s =>
      dsimp only
      split
      · exact ⟨h.value_type, h.bool_value, h.float_value, rfl, rfl, h.timestamp_value,
          h.object_value, h.array_value⟩
      · exact h
  · rw [if_neg hop, if_neg hop]
    exact h

theorem load_target_array (env : OperatorEnv) (operator : String) :
    (load_target env operator target).array_value = target.array_value := by
  unfold load_target compile_regex
  repeat' split
  all_goals rfl

end Arrangement

/-! ## Written and read again -/

/-- What `serde_json` and the standard library do with booleans and integers. -/
structure Serde (std : Std) : Prop where
  i64_finite : ∀ n, (std.i64_as_f64 n).is_finite
  u64_finite : ∀ n, (std.u64_as_f64 n).is_finite
  bool_text : ∀ b, std.json_to_string (.Bool b) = toString b

/-- JSON has no number that is not finite. -/
def IsJson : JsonValue → Prop
  | .Number (.Float f) => f.is_finite
  | _ => True

/-- The values that are read again as they were: a text that is no boolean, and an array with no
two elements of one lowercase text. -/
def Survives (std : Std) : JsonValue → Prop
  | .String s => s ≠ "true" ∧ s ≠ "false"
  | .Array items => ((items.map (text_of std)).map std.to_lowercase).Nodup
  | _ => True

section Reloaded

variable {std : Std} {target : MemoizedEvaluatorValue}

theorem as_f64_finite (hserde : Serde std) {n : Number} (hjson : IsJson (.Number n)) :
    (n.as_f64 std).is_finite := by
  cases n with
  | PosInt n => exact hserde.u64_finite n
  | NegInt n => exact hserde.i64_finite n
  | Float f => exact hjson

/-- A dynamic string is read back, as a text or as the text of a boolean. -/
theorem text_of_serialized (hserde : Serde std) (text : String) :
    text_of std (serialize_string (dynamic_string std text)) = text := by
  unfold serialize_string dynamic_string
  dsimp only
  by_cases htrue : text = "true"
  · rw [if_pos htrue, htrue]
    exact hserde.bool_text true
  · by_cases hfalse : text = "false"
    · rw [if_neg htrue, if_pos hfalse, hfalse]
      exact hserde.bool_text false
    · rw [if_neg htrue, if_neg hfalse]
      rfl

/-- The entries that stay are in the order of their places. -/
theorem keyed_array_sorted (T : List String) :
    ((keyed_array std T).map Prod.snd).Pairwise fun a b => a.1 ≤ b.1 := by
  have hplaces : T.zipIdx.Pairwise fun a b => a.2 ≤ b.2 := by
    rw [← List.pairwise_map (f := Prod.snd) (R := fun i j => i ≤ j), List.zipIdx_map_snd]
    exact (List.pairwise_lt_range' 1).imp Nat.le_of_lt
  unfold keyed_array comparisons.collect
  rw [collect_map, List.map_map, List.pairwise_map]
  exact hplaces.sublist (collect_sublist _ _)

/-- The entries of an array, in any order, are written back by their places. -/
theorem serialize_array_eq {T : List String}
    {entries : HashMap InternedString (Nat × InternedString)}
    (hperm : entries.Perm (keyed_array std T)) :
    serialize_array entries = last_wins.collect std.to_lowercase T := by
  have hplace : ∀ place ∈ entries.map Prod.snd, T[place.1]? = some place.2 := by
    intro place hmem
    obtain ⟨entry, hentry, rfl⟩ := List.mem_map.mp hmem
    exact (mem_keyed_array std (hperm.mem_iff.mp hentry)).2
  have hsorted : (entries.map Prod.snd).mergeSort (fun a b => a.1 ≤ b.1) =
      (keyed_array std T).map Prod.snd := by
    refine @List.Perm.eq_of_pairwise _ (fun a b => a.1 ≤ b.1) _ _ ?_ ?_ (keyed_array_sorted T) ?_
    · intro a b ha hb hab hba
      have ha' := hplace a (List.mem_mergeSort.mp ha)
      have hb' := hplace b ((hperm.map Prod.snd).mem_iff.mpr hb)
      have hindex : a.1 = b.1 := Nat.le_antisymm hab hba
      rw [← hindex, ha'] at hb'
      exact Prod.ext hindex (Option.some.inj hb')
    · have hmerge := @List.pairwise_mergeSort (Nat × InternedString) (fun a b => a.1 ≤ b.1)
        (fun a b c hab hbc => by
          simp only [decide_eq_true_eq] at hab hbc ⊢
          omega)
        (fun a b => by
          simp only [Bool.or_eq_true, decide_eq_true_eq]
          omega) (entries.map Prod.snd)
      exact hmerge.imp fun h => of_decide_eq_true h
    · exact (List.mergeSort_perm _ _).trans (hperm.map Prod.snd)
  unfold serialize_array
  rw [hsorted, List.map_map]
  exact keyed_array_texts std T

/-- The fields of an object are read back, in the order that they were written in. -/
theorem reloaded_object (hserde : Serde std) {fields : List (String × JsonValue)}
    {self_obj : HashMap InternedString DynamicString}
    (hperm : self_obj.Perm (comparisons.collect (fields.map fun (k, v) =>
      (k, dynamic_string std (text_of std v))))) :
    comparisons.collect ((self_obj.map fun (k, v) => (k, serialize_string v)).map fun (k, v) =>
      (k, dynamic_string std (text_of std v))) = self_obj := by
  have hread : (self_obj.map fun (k, v) => (k, serialize_string v)).map (fun (k, v) =>
      (k, dynamic_string std (text_of std v))) = self_obj := by
    rw [List.map_map]
    refine (List.map_congr_left fun entry hmem => ?_).trans (List.map_id self_obj)
    obtain ⟨⟨k, v⟩, -, rfl⟩ :=
      List.mem_map.mp (mem_of_mem_collect Prod.fst (hperm.mem_iff.mp hmem))
    simp only [Function.comp_apply, text_of_serialized hserde, id_eq]
  rw [hread]
  unfold comparisons.collect at hperm ⊢
  rw [collect_eq_self_iff, (hperm.map Prod.fst).nodup_iff]
  exact nodup_keys _ _

/-- A value that survives is read again as the same target, but for the order of its maps. -/
theorem reloaded_arranges (hserde : Serde std) {j : JsonValue} (hjson : IsJson j)
    (hsurvives : Survives std j) (h : Arranges target (from_json std j)) :
    Arranges (from_json std target.serialize) (from_json std j) := by
  cases j with
  | Null =>
    unfold serialize
    rw [h.value_type]
    exact Arranges.refl _
  | Bool b =>
    unfold serialize
    rw [h.value_type, h.bool_value]
    exact Arranges.refl _
  | Number n =>
    unfold serialize
    rw [h.value_type, h.float_value]
    have hfinite := as_f64_finite hserde hjson
    simp only [from_json, Option.elim_some, serialize_f64, Number.from_f64, hfinite, ↓reduceIte]
    exact Arranges.refl _
  | String s =>
    unfold serialize
    rw [h.value_type, h.string_value]
    simp only [from_json, from_string, Option.elim_some, serialize_string, dynamic_string,
      if_neg hsurvives.1, if_neg hsurvives.2]
    exact Arranges.refl _
  | Array items =>
    obtain ⟨entries, hholds⟩ := holds_of_arranges std h
    unfold serialize
    rw [hholds.value_type, hholds.array_value]
    simp only [from_json, Option.elim_some, serialize_array_eq hholds.perm, texts_of_array]
    rw [(collect_eq_self_iff std.to_lowercase).mpr hsurvives]
    exact Arranges.refl _
  | Object fields =>
    rcases perm_cases h.object_value with ⟨-, hnone⟩ | ⟨self_obj, m, hmap, hcompiled, hperm⟩
    · cases hnone
    · cases hcompiled
      unfold serialize
      rw [h.value_type, hmap]
      simp only [from_json, Option.elim_some, reloaded_object hserde hperm]
      exact ⟨rfl, rfl, rfl, rfl, rfl, rfl, .some hperm, .none⟩

/-- An array that survives keeps its indices below its length. -/
theorem compact_of_survives {j : JsonValue} (hsurvives : Survives std j)
    (h : Arranges target (from_json std j)) : Compact target := by
  intro entries hentries entry hmem
  have harray := h.array_value
  rw [hentries] at harray
  cases j with
  | Array items =>
    obtain ⟨entries', hholds⟩ := holds_of_arranges std h
    have hsame : entries = entries' := Option.some.inj (hentries.symm.trans hholds.array_value)
    subst hsame
    have hplace := (mem_keyed_array std (hholds.perm.mem_iff.mp hmem)).2
    have hnodup : ((items.map (text_of std)).map std.to_lowercase).Nodup := hsurvives
    rw [hholds.len, hnodup.dedup, List.length_map]
    exact (List.getElem?_eq_some_iff.mp hplace).1
  | _ => cases harray

end Reloaded

/-! ## The round trip -/

/-- The target of a condition gives every operator the answer that it gave before it was
written and read again, whatever the maps' orders are. -/
def AnswersAgain (std : Std) (j : JsonValue) : Prop :=
  ∀ target reloaded, Arranges target (from_json std j) →
    Arranges reloaded (from_json std target.serialize) →
    ∀ env operator value,
      evaluate_operator env operator value (load_target env operator target) =
        evaluate_operator env operator value (load_target env operator reloaded)

/-- Equality does not look at the rest of the environment. -/
def bare_env : OperatorEnv where
  overflow_checks := true
  empties_meet := false
  regex := ⟨fun _ => false, fun _ _ => none⟩
  hashing := ⟨id, fun _ _ => none, fun _ _ _ => none⟩
  id_list_resolver := .MapLookup []

theorem bare_eq (value : DynamicValue) (target : MemoizedEvaluatorValue) :
    evaluate_operator bare_env "eq" value (load_target bare_env "eq" target) =
      .of (is_equal_to_dynamic_value target value) := by
  simp [evaluate_operator, load_target]

/-- The text of a boolean becomes a boolean, which no text is equal to. -/
theorem boolean_text_does_not_survive (std : Std) {s : String} (h : s = "true" ∨ s = "false") :
    ¬ AnswersAgain std (.String s) := by
  intro hagain
  have heq := hagain _ _ (Arranges.refl _) (Arranges.refl _) bare_env "eq" (text_value s)
  rw [bare_eq, bare_eq] at heq
  rcases h with rfl | rfl
  · simp [from_json, from_string, dynamic_string, is_equal_to_dynamic_value, same_string,
      text_value, serialize, serialize_string, Answer.of] at heq
  · simp [from_json, from_string, dynamic_string, is_equal_to_dynamic_value, same_string,
      text_value, serialize, serialize_string, Answer.of] at heq

/-- The array that is written is not the one whose indices were kept: before, the target is
equal to no array of its own length, and afterwards it is equal to what was written. -/
theorem lossy_array_does_not_survive (std : Std) {items : List JsonValue}
    (h : ¬ ((items.map (text_of std)).map std.to_lowercase).Nodup) :
    ¬ AnswersAgain std (.Array items) := by
  intro hagain
  generalize hT : items.map (text_of std) = T at h
  have htarget : Arranges (from_json std (.Array items)) (from_json std (.Array items)) :=
    Arranges.refl _
  obtain ⟨entries, hholds⟩ := holds_of_arranges std htarget
  rw [hT] at hholds
  let kept := last_wins.collect std.to_lowercase T
  have heq := hagain _ _ htarget (Arranges.refl _) bare_env "eq"
    (DynamicValue.from_json std (array_of kept))
  have hlength : (T.map std.to_lowercase).dedup.length = kept.length := by
    rw [← map_key_collect, List.length_map]
  have hafter : is_equal_to_dynamic_value
      (from_json std (serialize (from_json std (.Array items))))
      (DynamicValue.from_json std (array_of kept)) = some true := by
    have hwritten : serialize (from_json std (.Array items)) = array_of kept := by
      unfold serialize
      rw [hholds.value_type, hholds.array_value]
      exact congrArg (fun texts => JsonValue.Array (texts.map .String))
        (serialize_array_eq hholds.perm)
    rw [hwritten]
    obtain ⟨entries', hreloaded⟩ :=
      holds_of_array std (Arranges.refl (from_json std (array_of kept)))
    rw [hreloaded.equal_exact (nodup_keys _ _)]
    simp
  rw [bare_eq, bare_eq, hafter, hholds.equal, if_neg (not_not.mpr hlength)] at heq
  obtain ⟨last, hlast, hpast⟩ := last_index_past_kept std h
  cases hloop : same_elements (users_elements std kept) entries with
  | none =>
    rw [hloop] at heq
    cases heq
  | some b =>
    rw [hloop] at heq
    have htrue : b = true := Answer.decided.inj heq
    subst htrue
    have hindex := in_bounds_of_same_elements hloop _ (hholds.perm.mem_iff.mpr hlast)
    simp only [users_elements, List.length_map] at hindex
    omega

/-- A JSON value that is no text of a boolean, and no array that loses an element, is read again
as a target with the same answers, and no other value is. -/
theorem targets_survive_the_round_trip_iff {std : Std} (hserde : Serde std) {j : JsonValue}
    (hjson : IsJson j) : AnswersAgain std j ↔ Survives std j := by
  constructor
  · intro hagain
    cases j with
    | String s =>
      constructor
      · rintro rfl
        exact boolean_text_does_not_survive std (.inl rfl) hagain
      · rintro rfl
        exact boolean_text_does_not_survive std (.inr rfl) hagain
    | Array items =>
      by_contra hlossy
      exact lossy_array_does_not_survive std hlossy hagain
    | _ => trivial
  · intro hsurvives target reloaded htarget hreloaded env operator value
    have hsame : Arranges target reloaded :=
      htarget.trans (hreloaded.trans (reloaded_arranges hserde hjson hsurvives htarget)).symm
    apply evaluate_operator_arranged env operator (load_target_arranged env operator hsame)
    intro entries hentries
    rw [load_target_array] at hentries
    exact compact_of_survives hsurvives htarget entries hentries

theorem calendar_serde (dates : List (String × Int64)) : Serde (calendar dates) where
  i64_finite _ := (by decide +kernel : (0 : F64).is_finite)
  u64_finite _ := (by decide +kernel : (0 : F64).is_finite)
  bool_text _ := rfl

/-- The two fruits are a target that survives. -/
theorem fruits_survive : AnswersAgain (calendar []) (array_of ["Apple", "Banana"]) :=
  (targets_survive_the_round_trip_iff (j := array_of ["Apple", "Banana"]) (calendar_serde [])
    trivial).mpr (by simp only [Survives, array_of, texts_of_array]; decide +kernel)

/-- A target that is the text of a boolean is read again as the boolean. -/
theorem boolean_text_is_lost : ¬ ∀ (std : Std) (j : JsonValue), Serde std → IsJson j →
    AnswersAgain std j := by
  intro h
  exact boolean_text_does_not_survive (calendar []) (.inl rfl)
    (h (calendar []) (.String "true") (calendar_serde []) trivial)

end comparisons
