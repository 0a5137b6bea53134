-- The value table of an init_v2 response gives every value back, as long as its hash is its
-- own. The three constants `null`, `true` and `false` all have the hash 0, so two of them in one
-- response share an id, and the client reads the one that came first.
import Mathlib.Logic.Equiv.List
import StatsigCore.ClientInit.SharedTables

open interning

namespace statsig_rust.evaluation

open gcir

/-! ## What a client reads -/

/-- Each value id stands for the value that was converted, and no id changes its value. -/
def ValuesDecode (hasher : Hasher) (conversions : List Conversion) : Prop :=
  let converted := convert_all hasher conversions {}
  let values := converted.2.values.value_id_to_value_map
  List.Forall₂ (fun conversion eval =>
    List.Forall₂ (fun value id => ∃ found, values.get id = some found ∧ found.value = value.value)
      (Conversion.value conversion).toList (EvaluationInitV2.value_id eval).toList)
    conversions converted.1 ∧
  ∀ before after, conversions = before ++ after → ∀ id found,
    (convert_all hasher before {}).2.values.value_id_to_value_map.get id = some found →
      values.get id = some found

/-- The values come from the store. -/
def Conversion.Stored (store : InternedStore) (conversion : Conversion) : Prop :=
  ∀ value, conversion.result.json_value = some value →
    ∃ raw, value = store.get_or_intern_returnable raw

section

variable {hasher : Hasher} {conversions : List Conversion}

theorem value_of_mem {value : InternedReturnable}
    (h : value ∈ conversions.filterMap Conversion.value) :
    ∃ conversion ∈ conversions, conversion.value = some value := List.mem_filterMap.mp h

theorem Registered.value_entry {tables : InitTables} {conversion : Conversion}
    {eval : EvaluationInitV2} (h : Registered hasher tables conversion eval)
    {value : InternedReturnable} (hvalue : conversion.value = some value) :
    ∃ id, eval.value_id = some id ∧ tables.values.view.id_of value.hash = some id := by
  have hids := h.value
  rw [hvalue] at hids
  cases hid : eval.value_id with
  | none =>
    rw [hid] at hids
    cases hids
  | some id =>
    rw [hid] at hids
    cases hids with
    | cons hfound _ => exact ⟨id, rfl, hfound⟩

/-- The table gives an id for every value that was converted. -/
theorem value_ids (value : InternedReturnable)
    (h : value ∈ conversions.filterMap Conversion.value) :
    ∃ id, (convert_all hasher conversions {}).2.values.view.id_of value.hash = some id := by
  obtain ⟨conversion, hmem, hvalue⟩ := value_of_mem h
  obtain ⟨eval, hregistered⟩ := forall₂_left (converted_all hasher conversions).registered hmem
  obtain ⟨id, -, hid⟩ := hregistered.value_entry hvalue
  exact ⟨id, hid⟩

theorem known_values (id : InternedString) (value : InternedReturnable)
    (h : (convert_all hasher conversions {}).2.values.view.element id = some value) :
    value ∈ conversions.filterMap Conversion.value := by
  rcases (converted_all hasher conversions).values id value h with hold | hmem
  · exact absurd hold (by simp [ValueTables.view, view_of])
  · exact hmem

/-- The values decode just when their hashes tell them apart. -/
theorem values_decode_iff_hashes :
    ValuesDecode hasher conversions ↔
      ∀ v w, v ∈ conversions.filterMap Conversion.value →
        w ∈ conversions.filterMap Conversion.value → v.hash = w.hash → v.value = w.value := by
  have hall := converted_all hasher conversions
  refine Iff.trans ?_ (resolves_iff hall.held.values value_ids known_values
    InternedReturnable.value)
  constructor
  · rintro ⟨hdecode, -⟩ value hvalue id hid
    obtain ⟨conversion, hmem, hconverted⟩ := value_of_mem hvalue
    obtain ⟨eval, hregistered, hfound⟩ := forall₂_left (hdecode.mp
      (fun _ _ hfound hregistered => And.intro hregistered hfound) hall.registered) hmem
    obtain ⟨id', hlisted, hid'⟩ := hregistered.value_entry hconverted
    rw [hconverted, hlisted] at hfound
    rw [hid] at hid'
    rw [← Option.some.inj hid'] at hfound
    cases hfound with
    | cons hfound _ => exact hfound
  · intro hresolves
    refine ⟨?_, fun before after hsplit id found hget => ?_⟩
    · refine List.Forall₂.imp ?_ ((List.forall₂_and_left _ _).mpr
        ⟨fun conversion hmem => hmem, hall.registered⟩)
      rintro conversion eval ⟨hmem, hregistered⟩
      refine List.Forall₂.imp ?_ ((List.forall₂_and_left _ _).mpr
        ⟨fun value hvalue => hvalue, hregistered.value⟩)
      rintro value id ⟨hvalue, hid⟩
      exact hresolves value
        (List.mem_filterMap.mpr ⟨conversion, hmem, Option.mem_toList.mp hvalue⟩) id hid
    · rw [hsplit]
      exact (convert_all_settles before after).values.element id found hget

end

/-! ## Hashes of stored values -/

section

variable {store : InternedStore} {conversions : List Conversion}

theorem value_stored {conversion : Conversion} (h : conversion.Stored store)
    {value : InternedReturnable} (hvalue : conversion.value = some value) :
    ∃ raw, value = store.get_or_intern_returnable raw := by
  have hempty : InternedReturnable.empty = store.get_or_intern_returnable "null" := rfl
  have hget : conversion.result.json_value.getD .empty = value := by
    cases conversion with
    | gate result => cases hvalue
    | dynamic_config result => exact Option.some.inj hvalue
    | experiment spec_entity result => exact Option.some.inj hvalue
    | layer result => exact Option.some.inj hvalue
  cases hjson : conversion.result.json_value with
  | none =>
    rw [hjson] at hget
    exact ⟨"null", hget.symm.trans hempty⟩
  | some json =>
    rw [hjson] at hget
    obtain ⟨raw, hraw⟩ := h json hjson
    exact ⟨raw, hget.symm.trans hraw⟩

/-- A hash other than 0 is that of the raw text. -/
theorem hash_of_stored {raw : String} (h : (store.get_or_intern_returnable raw).hash ≠ 0) :
    (store.get_or_intern_returnable raw).hash = store.hash_one raw := by
  unfold InternedStore.get_or_intern_returnable at h ⊢
  by_cases htrue : raw = "true"
  · rw [if_pos htrue] at h
    exact absurd rfl h
  by_cases hfalse : raw = "false"
  · rw [if_neg htrue, if_pos hfalse] at h
    exact absurd rfl h
  by_cases hnull : raw = "null"
  · rw [if_neg htrue, if_neg hfalse, if_pos hnull] at h
    exact absurd rfl h
  rw [if_neg htrue, if_neg hfalse, if_neg hnull]

/-- With an injective hash of the raw texts, the value table of a response gives back what
was converted just when the converted values of hash 0 are all one value. -/
theorem values_decode_iff (hasher : Hasher) (hhash : Function.Injective store.hash_one)
    (hstored : ∀ conversion ∈ conversions, conversion.Stored store) :
    ValuesDecode hasher conversions ↔
      ∀ v w, v ∈ conversions.filterMap Conversion.value →
        w ∈ conversions.filterMap Conversion.value → v.hash = 0 → w.hash = 0 →
        v.value = w.value := by
  rw [values_decode_iff_hashes]
  constructor
  · intro hall v w hv hw hzero hzero'
    exact hall v w hv hw (hzero.trans hzero'.symm)
  · intro hall v w hv hw hsame
    by_cases hzero : v.hash = 0
    · exact hall v w hv hw hzero (hsame ▸ hzero)
    · obtain ⟨conversion, hmem, hvalue⟩ := value_of_mem hv
      obtain ⟨conversion', hmem', hvalue'⟩ := value_of_mem hw
      obtain ⟨raw, rfl⟩ := value_stored (hstored _ hmem) hvalue
      obtain ⟨raw', rfl⟩ := value_stored (hstored _ hmem') hvalue'
      have hraw : store.hash_one raw = store.hash_one raw' := by
        rw [← hash_of_stored hzero, ← hash_of_stored (hsame ▸ hzero), hsame]
      rw [hhash hraw]

end

/-! ## Two constants in one response -/

/-- A store with a hash that spells the text out, and that parses every text to the empty
object. -/
def spelling_store : InternedStore where
  hash_one := fun text => Encodable.encode (text.toList.map Char.toNat)
  parse := fun _ => []

theorem spelling_injective : Function.Injective spelling_store.hash_one := by
  intro text text' h
  have hchars : text.toList.map Char.toNat = text'.toList.map Char.toNat :=
    Encodable.encode_injective h
  exact String.toList_injective
    (List.map_injective_iff.mpr (fun _ _ hc => Char.toNat_inj.mp hc) hchars)

/-- A dynamic config whose value was read from this text. -/
def config_of (raw : String) : Conversion :=
  let value := spelling_store.get_or_intern_returnable raw
  .dynamic_config {
    result := { json_value := some value.value }
    exposures := []
    undelegated := none
    json_value := some value
    exposures_eq := rfl
    undelegated_eq := rfl
    value_eq := rfl }

theorem config_of_stored (raw : String) : (config_of raw).Stored spelling_store :=
  fun _ hvalue => ⟨raw, (Option.some.inj hvalue).symm⟩

def no_hashes : Hasher := ⟨fun _ => 0, fun _ => 0, fun _ => 0⟩

theorem object_and_null_decode :
    ValuesDecode no_hashes [config_of "null", config_of "\x7b\x7d", config_of "null"] := by
  refine (values_decode_iff no_hashes spelling_injective fun conversion hmem => ?_).mpr
    fun v w hv hw hzero hzero' => ?_
  · simp only [List.mem_cons, List.not_mem_nil, or_false] at hmem
    rcases hmem with rfl | rfl | rfl <;> exact config_of_stored _
  · have hnull : ∀ value ∈ [config_of "null", config_of "\x7b\x7d", config_of "null"].filterMap
        Conversion.value, value.hash = 0 → value.value = .null := by
      intro value hmem hhash
      simp only [List.filterMap_cons, List.filterMap_nil, List.mem_cons, List.not_mem_nil,
        or_false, config_of, Conversion.value, Conversion.result, Option.getD_some] at hmem
      rcases hmem with rfl | rfl | rfl
      · rfl
      · exact absurd hhash (by decide +kernel)
      · rfl
    rw [hnull v hv hzero, hnull w hw hzero']

/-- A config that returns `true` and one that returns `false` get one id. -/
theorem two_constants_share_an_id :
    ¬ ∀ (store : InternedStore) (hasher : Hasher) (conversions : List Conversion),
        Function.Injective store.hash_one →
        (∀ conversion ∈ conversions, conversion.Stored store) →
        ValuesDecode hasher conversions := by
  intro hall
  have hdecode := hall spelling_store no_hashes [config_of "true", config_of "false"]
    spelling_injective fun conversion hmem => by
      simp only [List.mem_cons, List.not_mem_nil, or_false] at hmem
      rcases hmem with rfl | rfl <;> exact config_of_stored _
  have hsame := values_decode_iff_hashes.mp hdecode (.from_bool true) (.from_bool false)
    (List.mem_cons_self ..) (List.mem_cons_of_mem _ (List.mem_cons_self ..)) rfl
  cases hsame

end statsig_rust.evaluation
