-- The tables of an init_v2 response. A conversion registers its exposures and its value, and
-- what it lists are the ids that the tables of the whole response give them. The value table
-- tells values apart by their hash alone.
import StatsigCore.ClientInit.LaterEvaluations
import StatsigCore.Library.Interning

open interning

namespace statsig_rust.evaluation

open gcir

/-! ## The tables as numbered tables -/

def number (n : Nat) : InternedString := toString n

theorem number_injective : Function.Injective number := fun _ _ h => toString_injective h

/-- A map of elements and a map of ids as one table. -/
def view_of {κ α : Type} [DecidableEq κ] (elements : HashMap InternedString α)
    (ids : HashMap κ InternedString) : Table κ InternedString α :=
  ⟨elements.get, ids.get, elements.len⟩

def ExposureTables.view (tables : ExposureTables) :
    Table SecondaryExposureKey InternedString InternedExposure :=
  view_of tables.expo_id_to_exposure_map tables.expo_key_to_expo_id_map

def ValueTables.view (tables : ValueTables) : Table Nat InternedString InternedReturnable :=
  view_of tables.value_id_to_value_map tables.value_key_to_value_id

section Views

variable {κ α : Type} [DecidableEq κ] {key : α → κ}

/-- Both maps take an element under a free id. -/
theorem view_of_insert {elements : HashMap InternedString α} {ids : HashMap κ InternedString}
    {id : InternedString} (k : κ) (x : α) (h : elements.get id = none) :
    view_of (elements.insert id x) (ids.insert k id) =
      ⟨Function.update elements.get id (some x), Function.update ids.get k (some id),
        elements.len + 1⟩ := by
  unfold view_of
  rw [HashMap.len_insert x h]
  congr 1
  · funext other
    rw [HashMap.get_insert, Function.update_apply]
  · funext other
    rw [HashMap.get_insert, Function.update_apply]

/-- A new key is interned by one insert into each map. -/
theorem intern_view_of {elements : HashMap InternedString α} {ids : HashMap κ InternedString}
    (h : Numbered number key (view_of elements ids)) (x : α) (hnew : ids.get (key x) = none) :
    intern number key x (view_of elements ids) =
      (number elements.len, view_of (elements.insert (number elements.len) x)
        (ids.insert (key x) (number elements.len))) := by
  have hfree : elements.get (number elements.len) = none := h.next_free number_injective
  rw [view_of_insert (key x) x hfree]
  unfold intern
  rw [show (view_of elements ids).id_of (key x) = none from hnew]
  rfl

theorem intern_view_of_known {elements : HashMap InternedString α}
    {ids : HashMap κ InternedString} {x : α} {id : InternedString}
    (hid : ids.get (key x) = some id) :
    intern number key x (view_of elements ids) = (id, view_of elements ids) := by
  unfold intern
  rw [show (view_of elements ids).id_of (key x) = some id from hid]

end Views

section Steps

variable {hasher : Hasher}

theorem map_exposure_view {tables : ExposureTables}
    (h : Numbered number (SecondaryExposureKey.from_exposure hasher) tables.view)
    (exposure : InternedExposure) :
    (map_exposure hasher exposure tables).map id ExposureTables.view =
      intern number (SecondaryExposureKey.from_exposure hasher) exposure tables.view := by
  unfold map_exposure
  dsimp only
  cases hid : tables.expo_key_to_expo_id_map.get
      (SecondaryExposureKey.from_exposure hasher exposure) with
  | some expo_id => exact (intern_view_of_known hid).symm
  | none => exact (intern_view_of h exposure hid).symm

theorem map_exposures_view {tables : ExposureTables}
    (h : Numbered number (SecondaryExposureKey.from_exposure hasher) tables.view)
    (exposures : List InternedExposure) :
    (map_exposures hasher exposures tables).map id ExposureTables.view =
      intern_all number (SecondaryExposureKey.from_exposure hasher) exposures tables.view := by
  induction exposures generalizing tables with
  | nil => rfl
  | cons exposure exposures ih =>
    have hstep := map_exposure_view h exposure
    have hgrown := (intern_spec h number_injective exposure).grown
    unfold map_exposures intern_all
    rw [← hstep] at hgrown ⊢
    have hrest := @ih (map_exposure hasher exposure tables).2 hgrown
    dsimp only [Prod.map_fst, Prod.map_snd]
    rw [← hrest]
    rfl

theorem get_mapped_value_view {tables : ValueTables}
    (h : Numbered number InternedReturnable.hash tables.view) (value : Option InternedReturnable) :
    (get_mapped_value value tables).map id ValueTables.view =
      intern number InternedReturnable.hash (value.getD .empty) tables.view := by
  unfold get_mapped_value
  dsimp only
  cases hid : tables.value_key_to_value_id.get (value.getD .empty).hash with
  | some mapped_key => exact (intern_view_of_known hid).symm
  | none => exact (intern_view_of h (value.getD .empty) hid).symm

/-- A list that is not written is an empty list. -/
theorem map_some_exposures_spec {tables : ExposureTables}
    (h : Numbered number (SecondaryExposureKey.from_exposure hasher) tables.view)
    (exposures : List InternedExposure) :
    InternedAll number (SecondaryExposureKey.from_exposure hasher) tables.view exposures
      ((map_some_exposures hasher exposures tables).1.getD [])
      (map_some_exposures hasher exposures tables).2.view := by
  have hall := intern_all_spec h number_injective exposures
  rw [← map_exposures_view h] at hall
  unfold map_some_exposures
  split
  · rename_i hempty
    rw [List.isEmpty_iff.mp hempty] at hall ⊢
    exact hall
  · exact hall

end Steps

/-! ## One conversion -/

namespace Conversion

def result : Conversion → InternedResult
  | gate result => result
  | dynamic_config result => result
  | experiment _ result => result
  | layer result => result

/-- Only a layer lists its undelegated exposures. -/
def undelegated : Conversion → List InternedExposure
  | layer result => result.undelegated.getD []
  | _ => []

/-- A gate has its value in the evaluation itself. -/
def value : Conversion → Option InternedReturnable
  | gate _ => none
  | conversion => some (conversion.result.json_value.getD .empty)

end Conversion

namespace EvaluationInitV2

def base : EvaluationInitV2 → BaseEvaluationInitV2
  | gate eval => eval.base
  | dynamic_config eval => eval.base
  | experiment eval => eval.base
  | layer eval => eval.base

def exposure_ids (eval : EvaluationInitV2) : List InternedString :=
  eval.base.secondary_exposures.getD []

def undelegated_ids : EvaluationInitV2 → List InternedString
  | layer eval => eval.undelegated_secondary_exposures.getD []
  | _ => []

def value_id : EvaluationInitV2 → Option InternedString
  | gate _ => none
  | dynamic_config eval => some eval.value
  | experiment eval => some eval.value
  | layer eval => some eval.value

end EvaluationInitV2

section Conversions

variable {hasher : Hasher}

/-- Both tables of a response are numbered. -/
structure Held (hasher : Hasher) (tables : InitTables) : Prop where
  exposures : Numbered number (SecondaryExposureKey.from_exposure hasher) tables.exposures.view
  values : Numbered number InternedReturnable.hash tables.values.view

structure Kept (tables tables' : InitTables) : Prop where
  exposures : Extends tables.exposures.view tables'.exposures.view
  values : Extends tables.values.view tables'.values.view

theorem Kept.refl (tables : InitTables) : Kept tables tables := ⟨.refl _, .refl _⟩

theorem Kept.trans {t₁ t₂ t₃ : InitTables} (h : Kept t₁ t₂) (h' : Kept t₂ t₃) : Kept t₁ t₃ :=
  ⟨h.exposures.trans h'.exposures, h.values.trans h'.values⟩

/-- The ids of the exposures, in the order of the exposures. -/
def ExposuresAt (hasher : Hasher) (tables : InitTables) (exposures : List InternedExposure)
    (ids : List InternedString) : Prop :=
  List.Forall₂ (fun exposure id => tables.exposures.view.id_of
    (SecondaryExposureKey.from_exposure hasher exposure) = some id) exposures ids

theorem ExposuresAt.keep {tables tables' : InitTables} {exposures : List InternedExposure}
    {ids : List InternedString} (h : ExposuresAt hasher tables exposures ids)
    (hkept : Kept tables tables') : ExposuresAt hasher tables' exposures ids :=
  h.imp fun _ _ hid => hkept.exposures.id_of _ _ hid

/-- The evaluation lists what the tables give the parts of the result. -/
structure Registered (hasher : Hasher) (tables : InitTables) (conversion : Conversion)
    (eval : EvaluationInitV2) : Prop where
  exposures : ExposuresAt hasher tables conversion.result.exposures eval.exposure_ids
  undelegated : ExposuresAt hasher tables conversion.undelegated eval.undelegated_ids
  value : List.Forall₂ (fun value id => tables.values.view.id_of value.hash = some id)
    conversion.value.toList eval.value_id.toList

theorem Registered.keep {tables tables' : InitTables} {conversion : Conversion}
    {eval : EvaluationInitV2} (h : Registered hasher tables conversion eval)
    (hkept : Kept tables tables') : Registered hasher tables' conversion eval :=
  ⟨h.exposures.keep hkept, h.undelegated.keep hkept,
    h.value.imp fun _ _ hid => hkept.values.id_of _ _ hid⟩

/-- All that a conversion does to the tables. -/
structure Converted (hasher : Hasher) (tables : InitTables) (conversion : Conversion)
    (eval : EvaluationInitV2) (tables' : InitTables) : Prop where
  held : Held hasher tables'
  kept : Kept tables tables'
  registered : Registered hasher tables' conversion eval
  exposures : ∀ id exposure, tables'.exposures.view.element id = some exposure →
    tables.exposures.view.element id = some exposure ∨
      exposure ∈ conversion.undelegated ++ conversion.result.exposures
  values : ∀ id value, tables'.values.view.element id = some value →
    tables.values.view.element id = some value ∨ value ∈ conversion.value.toList

theorem convert_spec {tables : InitTables} (h : Held hasher tables) (conversion : Conversion) :
    Converted hasher tables conversion (conversion.convert hasher tables).1
      (conversion.convert hasher tables).2 := by
  have hbase := map_some_exposures_spec h.exposures conversion.result.exposures
  have hvalue := intern_spec h.values number_injective (conversion.result.json_value.getD .empty)
  rw [← get_mapped_value_view h.values] at hvalue
  cases conversion with
  | gate result =>
    exact ⟨⟨hbase.grown, h.values⟩, ⟨hbase.keeps, .refl _⟩, ⟨hbase.ids, .nil, .nil⟩, hbase.known,
      fun _ _ hold => .inl hold⟩
  | dynamic_config result =>
    exact ⟨⟨hbase.grown, hvalue.grown⟩, ⟨hbase.keeps, hvalue.keeps⟩,
      ⟨hbase.ids, .nil, .cons hvalue.found .nil⟩, hbase.known,
      fun id value hid => (hvalue.known id value hid).imp_right List.mem_singleton.mpr⟩
  | experiment spec_entity result =>
    exact ⟨⟨hbase.grown, hvalue.grown⟩, ⟨hbase.keeps, hvalue.keeps⟩,
      ⟨hbase.ids, .nil, .cons hvalue.found .nil⟩, hbase.known,
      fun id value hid => (hvalue.known id value hid).imp_right List.mem_singleton.mpr⟩
  | layer result =>
    -- the exposures of the layer come after the undelegated ones
    have hfirst := map_some_exposures_spec h.exposures (result.undelegated.getD [])
    have hsecond := map_some_exposures_spec hfirst.grown result.exposures
    refine ⟨⟨hsecond.grown, hvalue.grown⟩, ⟨hfirst.keeps.trans hsecond.keeps, hvalue.keeps⟩,
      ⟨hsecond.ids, hfirst.ids.imp fun _ _ hid => hsecond.keeps.id_of _ _ hid,
        .cons hvalue.found .nil⟩, fun id exposure hid => ?_,
      fun id value hid => (hvalue.known id value hid).imp_right List.mem_singleton.mpr⟩
    rcases hsecond.known id exposure hid with hold | hmem
    · exact (hfirst.known id exposure hold).imp_right fun hmem => List.mem_append_left _ hmem
    · exact .inr (List.mem_append_right _ hmem)

/-! ## A whole response -/

/-- What all conversions together leave. -/
structure ConvertedAll (hasher : Hasher) (tables : InitTables) (conversions : List Conversion)
    (evals : List EvaluationInitV2) (tables' : InitTables) : Prop where
  held : Held hasher tables'
  kept : Kept tables tables'
  registered : List.Forall₂ (Registered hasher tables') conversions evals
  exposures : ∀ id exposure, tables'.exposures.view.element id = some exposure →
    tables.exposures.view.element id = some exposure ∨
      ∃ conversion ∈ conversions,
        exposure ∈ conversion.undelegated ++ conversion.result.exposures
  values : ∀ id value, tables'.values.view.element id = some value →
    tables.values.view.element id = some value ∨ value ∈ conversions.filterMap Conversion.value

theorem convert_all_spec {tables : InitTables} (h : Held hasher tables)
    (conversions : List Conversion) :
    ConvertedAll hasher tables conversions (convert_all hasher conversions tables).1
      (convert_all hasher conversions tables).2 := by
  induction conversions generalizing tables with
  | nil => exact ⟨h, .refl _, .nil, fun _ _ hold => .inl hold, fun _ _ hold => .inl hold⟩
  | cons conversion conversions ih =>
    have hstep := convert_spec h conversion
    have hrest := ih hstep.held
    unfold convert_all
    dsimp only
    refine ⟨hrest.held, hstep.kept.trans hrest.kept,
      .cons (hstep.registered.keep hrest.kept) hrest.registered, fun id exposure hid => ?_,
      fun id value hid => ?_⟩
    · rcases hrest.exposures id exposure hid with hold | ⟨other, hother, hmem⟩
      · exact (hstep.exposures id exposure hold).imp_right fun hmem =>
          ⟨conversion, List.mem_cons_self .., hmem⟩
      · exact .inr ⟨other, List.mem_cons_of_mem _ hother, hmem⟩
    · rw [List.filterMap_cons]
      rcases hrest.values id value hid with hold | hmem
      · refine (hstep.values id value hold).imp_right fun hmem => ?_
        rw [Option.mem_toList] at hmem
        rw [hmem]
        exact List.mem_cons_self ..
      · refine .inr ?_
        split
        · exact hmem
        · exact List.mem_cons_of_mem _ hmem

theorem fresh_tables_held (hasher : Hasher) : Held hasher {} :=
  ⟨empty_numbered .., empty_numbered ..⟩

/-- The conversions of a response start from empty tables. -/
theorem converted_all (hasher : Hasher) (conversions : List Conversion) :
    ConvertedAll hasher {} conversions (convert_all hasher conversions {}).1
      (convert_all hasher conversions {}).2 :=
  convert_all_spec (fresh_tables_held hasher) conversions

theorem convert_all_append (before after : List Conversion) (tables : InitTables) :
    (convert_all hasher (before ++ after) tables).2 =
      (convert_all hasher after (convert_all hasher before tables).2).2 := by
  induction before generalizing tables with
  | nil => rfl
  | cons conversion before ih => exact ih _

/-- No later conversion changes what an id stands for. -/
theorem convert_all_settles (before after : List Conversion) :
    Kept (convert_all hasher before {}).2 (convert_all hasher (before ++ after) {}).2 := by
  rw [convert_all_append]
  exact (convert_all_spec (converted_all hasher before).held after).kept

theorem forall₂_left {α β : Type} {R : α → β → Prop} {xs : List α} {ys : List β}
    (h : List.Forall₂ R xs ys) {x : α} (hx : x ∈ xs) : ∃ y, R x y := by
  induction h with
  | nil => cases hx
  | cons hr _ ih =>
    rcases List.mem_cons.mp hx with rfl | hx
    · exact ⟨_, hr⟩
    · exact ih hx

end Conversions

end statsig_rust.evaluation
