-- Which entries of a response its hash notices. Each `create_hash` leaves some fields out, the
-- parameters of a store and the bandits are not hashed at all, and the three constant values
-- have one hash. Everything else is the same whenever the hash is.
import StatsigCore.ClientInit.IterationOrder
import Mathlib.Data.Fintype.Option

open program digest

namespace statsig_rust.gcir

open evaluation

/-! ## What a client sees -/

/-- Objects are the same whatever the order of their keys. -/
def SameObject {κ υ : Type} [DecidableEq κ] (map map' : HashMap κ υ) : Prop :=
  ∀ key, map.get key = map'.get key

/-- Values that can be written alike, each with its objects in some order. -/
def SameJson (value value' : JsonValue) : Prop :=
  ∃ orders orders' : ObjectOrders, orders.Fits ∧ orders'.Fits ∧
    written orders [] value = written orders' [] value'

def SameValue : DynamicReturnable → DynamicReturnable → Prop
  | .null, .null => True
  | .bool b, .bool b' => b = b'
  | .json map, .json map' => SameJson (.object map) (.object map')
  | _, _ => False

/-- `exposure_info` is not serialized. -/
structure SameBase (base base' : BaseEvaluation) : Prop where
  name : base.name.text = base'.name.text
  rule_id : base.rule_id.text = base'.rule_id.text
  secondary_exposures : base.secondary_exposures = base'.secondary_exposures

structure SameGate (eval eval' : GateEvaluation) : Prop where
  base : SameBase eval.base eval'.base
  id_type : eval.id_type = eval'.id_type
  value : eval.value = eval'.value

structure SameDynamicConfig (eval eval' : DynamicConfigEvaluation) : Prop where
  base : SameBase eval.base eval'.base
  id_type : eval.id_type = eval'.id_type
  value : SameValue eval.value eval'.value
  is_device_based : eval.is_device_based = eval'.is_device_based
  passed : eval.passed = eval'.passed

structure SameExperiment (eval eval' : ExperimentEvaluation) : Prop where
  base : SameBase eval.base eval'.base
  id_type : eval.id_type = eval'.id_type
  value : SameValue eval.value eval'.value
  is_device_based : eval.is_device_based = eval'.is_device_based
  is_in_layer : eval.is_in_layer = eval'.is_in_layer
  explicit_parameters : eval.explicit_parameters = eval'.explicit_parameters
  group_name : eval.group_name = eval'.group_name
  is_experiment_active : eval.is_experiment_active = eval'.is_experiment_active
  is_user_in_experiment : eval.is_user_in_experiment = eval'.is_user_in_experiment
  undelegated_secondary_exposures :
    eval.undelegated_secondary_exposures = eval'.undelegated_secondary_exposures

def SameConfig : AnyConfigEvaluation → AnyConfigEvaluation → Prop
  | .DynamicConfig eval, .DynamicConfig eval' => SameDynamicConfig eval eval'
  | .Experiment eval, .Experiment eval' => SameExperiment eval eval'
  | _, _ => False

structure SameLayer (eval eval' : LayerEvaluation) : Prop where
  base : SameBase eval.base eval'.base
  value : SameValue eval.value eval'.value
  id_type : eval.id_type = eval'.id_type
  is_device_based : eval.is_device_based = eval'.is_device_based
  group_name : eval.group_name = eval'.group_name
  is_experiment_active : eval.is_experiment_active = eval'.is_experiment_active
  is_user_in_experiment : eval.is_user_in_experiment = eval'.is_user_in_experiment
  allocated_experiment_name : eval.allocated_experiment_name = eval'.allocated_experiment_name
  explicit_parameters : eval.explicit_parameters = eval'.explicit_parameters
  undelegated_secondary_exposures :
    eval.undelegated_secondary_exposures = eval'.undelegated_secondary_exposures
  parameter_rule_ids : Option.Rel SameObject eval.parameter_rule_ids eval'.parameter_rule_ids

/-- Two maps of the same keys, with values that are related. -/
def SameMap {υ υ' : Type} (R : υ → υ' → Prop) (map : HashMap String υ) (map' : HashMap String υ') :
    Prop :=
  ∀ key, Option.Rel R (map.get key) (map'.get key)

/-- The two responses hold the same for a client. -/
structure SameParts (parts parts' : FirstParts) : Prop where
  feature_gates : SameMap SameGate parts.feature_gates parts'.feature_gates
  dynamic_configs : SameMap SameConfig parts.dynamic_configs parts'.dynamic_configs
  layer_configs : SameMap SameLayer parts.layer_configs parts'.layer_configs
  param_stores : SameMap SameObject parts.param_stores parts'.param_stores

/-! ## What the hash leaves out -/

/-- Two constants that are the same, or two objects. -/
def SameConstant : DynamicReturnable → DynamicReturnable → Prop
  | .null, .null => True
  | .bool b, .bool b' => b = b'
  | .json _, .json _ => True
  | _, _ => False

def SameUnhashedConfig : AnyConfigEvaluation → AnyConfigEvaluation → Prop
  | .DynamicConfig eval, .DynamicConfig eval' =>
    eval.id_type = eval'.id_type ∧ eval.is_device_based = eval'.is_device_based ∧
      SameConstant eval.value eval'.value
  | .Experiment eval, .Experiment eval' =>
    eval.id_type = eval'.id_type ∧ eval.is_device_based = eval'.is_device_based ∧
      SameConstant eval.value eval'.value ∧
      eval.explicit_parameters.isSome = eval'.explicit_parameters.isSome
  | _, _ => False

def SameUnhashedLayer (eval eval' : LayerEvaluation) : Prop :=
  eval.id_type = eval'.id_type ∧ eval.is_device_based = eval'.is_device_based ∧
    SameConstant eval.value eval'.value

/-- The two responses hold the same in what no hash is computed from: all of the bandits, all of
the parameters of the stores, and some fields of the other entries. -/
structure SameUnhashed (bandits : Set String) (parts parts' : FirstParts) : Prop where
  feature_gates : ∀ key eval eval', parts.feature_gates.get key = some eval →
    parts'.feature_gates.get key = some eval' → eval.id_type = eval'.id_type
  dynamic_configs : ∀ key eval eval', key ∉ bandits →
    parts.dynamic_configs.get key = some eval → parts'.dynamic_configs.get key = some eval' →
    SameUnhashedConfig eval eval'
  bandits : ∀ key ∈ bandits,
    Option.Rel SameConfig (parts.dynamic_configs.get key) (parts'.dynamic_configs.get key)
  layer_configs : ∀ key eval eval', parts.layer_configs.get key = some eval →
    parts'.layer_configs.get key = some eval' → SameUnhashedLayer eval eval'
  param_stores : ∀ key store store', parts.param_stores.get key = some store →
    parts'.param_stores.get key = some store' → SameObject store store'

/-! ## Evaluations of one term -/

section Terms

variable {orders orders' : MapOrders}

theorem text_of_rule_id_term {rule_id rule_id' : Interned}
    (h : rule_id_term rule_id = rule_id_term rule_id') : rule_id.text = rule_id'.text := by
  cases rule_id with
  | empty =>
    cases rule_id' with
    | empty => rfl
    | stored text' => cases h
  | stored text =>
    cases rule_id' with
    | empty => cases h
    | stored text' => exact HashAtom.text.inj (Term.atom.inj h)

theorem optional_term_injective {text text' : Option InternedString}
    (h : optional_term text = optional_term text') : text = text' := by
  cases text with
  | none =>
    cases text' with
    | none => rfl
    | some text' => cases h
  | some text =>
    cases text' with
    | none => cases h
    | some text' => exact congrArg some (HashAtom.text.inj (Term.atom.inj h))

theorem exposures_term_injective {exposures exposures' : List SecondaryExposure}
    (h : exposures_term exposures = exposures_term exposures') : exposures = exposures' := by
  refine List.map_injective_iff.mpr (fun a b hab => ?_) (Term.list.inj h)
  have hterms := Term.list.inj hab
  simp only [text_term, List.cons.injEq, Term.atom.injEq, HashAtom.text.injEq] at hterms
  obtain ⟨hgate, hvalue, hrule, -⟩ := hterms
  cases a
  cases b
  cases hgate
  cases hvalue
  cases hrule
  rfl

theorem bool_to_nat_injective : Function.Injective Bool.toNat := by
  decide +revert

theorem opt_bool_to_hashable_injective : Function.Injective opt_bool_to_hashable := by
  decide +revert

theorem same_json_refl (value : JsonValue) : SameJson value value :=
  ⟨fun _ => keys_of, fun _ => keys_of, fun _ => iterates_keys_of, fun _ => iterates_keys_of, rfl⟩

/-- Values of one term are the same but for which constant they are. -/
theorem same_value_iff {value value' : DynamicReturnable}
    (h : value_term value = value_term value') :
    SameValue value value' ↔ SameConstant value value' := by
  cases value with
  | null => cases value' <;> exact Iff.rfl
  | bool b => cases value' <;> exact Iff.rfl
  | json map =>
    cases value' with
    | null => cases h
    | bool b' => cases h
    | json map' =>
      obtain rfl := HashAtom.object.inj (Term.atom.inj h)
      exact ⟨fun _ => trivial, fun _ => same_json_refl _⟩

/-- The name that an evaluation has in the response. -/
def NamedGate (hashed_name : String) (eval : GateEvaluation) : Prop :=
  eval.base.name.text = hashed_name

/-- The name, and that no undelegated exposures are kept. -/
def NamedConfig (hashed_name : String) : AnyConfigEvaluation → Prop
  | .DynamicConfig eval => eval.base.name.text = hashed_name
  | .Experiment eval =>
    eval.base.name.text = hashed_name ∧ eval.undelegated_secondary_exposures = none

/-- The name, and that there are undelegated exposures. -/
def NamedLayer (hashed_name : String) (eval : LayerEvaluation) : Prop :=
  eval.base.name.text = hashed_name ∧ eval.undelegated_secondary_exposures ≠ none

variable {hashed_name : String} {name name' : InternedString}

theorem same_base {base base' : BaseEvaluation} (hname : base.name.text = hashed_name)
    (hname' : base'.name.text = hashed_name)
    (hrule : rule_id_term base.rule_id = rule_id_term base'.rule_id)
    (hexposures : exposures_term base.secondary_exposures =
      exposures_term base'.secondary_exposures) : SameBase base base' :=
  ⟨hname.trans hname'.symm, text_of_rule_id_term hrule, exposures_term_injective hexposures⟩

theorem same_gate_iff {eval eval' : GateEvaluation} (hnamed : NamedGate hashed_name eval)
    (hnamed' : NamedGate hashed_name eval') (h : gate_term eval name = gate_term eval' name') :
    SameGate eval eval' ↔ eval.id_type = eval'.id_type := by
  have hterms := Term.list.inj h
  simp only [List.cons.injEq, Term.number.injEq] at hterms
  obtain ⟨-, hvalue, hrule, hexposures, -⟩ := hterms
  refine ⟨fun hsame => hsame.id_type, fun hid => ?_⟩
  exact ⟨same_base hnamed hnamed' hrule hexposures, hid, bool_to_nat_injective hvalue⟩

theorem same_dynamic_config_iff {eval eval' : DynamicConfigEvaluation}
    (hname : eval.base.name.text = hashed_name) (hname' : eval'.base.name.text = hashed_name)
    (h : config_term eval name = config_term eval' name') :
    SameDynamicConfig eval eval' ↔
      SameUnhashedConfig (.DynamicConfig eval) (.DynamicConfig eval') := by
  have hterms := Term.list.inj h
  simp only [List.cons.injEq, Term.number.injEq] at hterms
  obtain ⟨-, hvalue, hrule, hexposures, hpassed, -⟩ := hterms
  constructor
  · intro hsame
    exact ⟨hsame.id_type, hsame.is_device_based, (same_value_iff hvalue).mp hsame.value⟩
  · rintro ⟨hid, hdevice, hconstant⟩
    exact ⟨same_base hname hname' hrule hexposures, hid, (same_value_iff hvalue).mpr hconstant,
      hdevice, bool_to_nat_injective hpassed⟩

theorem same_experiment_iff {eval eval' : ExperimentEvaluation}
    (hnamed : NamedConfig hashed_name (.Experiment eval))
    (hnamed' : NamedConfig hashed_name (.Experiment eval'))
    (h : experiment_term eval name = experiment_term eval' name') :
    SameExperiment eval eval' ↔ SameUnhashedConfig (.Experiment eval) (.Experiment eval') := by
  have hterms := Term.list.inj h
  simp only [List.cons.injEq, Term.number.injEq] at hterms
  obtain ⟨-, hvalue, hrule, hexposures, hlayer, hexplicit, hgroup, hactive, huser, -⟩ := hterms
  constructor
  · intro hsame
    exact ⟨hsame.id_type, hsame.is_device_based, (same_value_iff hvalue).mp hsame.value,
      congrArg Option.isSome hsame.explicit_parameters⟩
  · rintro ⟨hid, hdevice, hconstant, hsome⟩
    have hparameters : eval.explicit_parameters = eval'.explicit_parameters := by
      have htexts := texts_term_injective hexplicit
      revert hsome htexts
      cases eval.explicit_parameters with
      | none =>
        cases eval'.explicit_parameters with
        | none => exact fun _ _ => rfl
        | some _ => exact nofun
      | some _ =>
        cases eval'.explicit_parameters with
        | none => exact nofun
        | some _ => exact fun _ htexts => congrArg some htexts
    exact ⟨same_base hnamed.1 hnamed'.1 hrule hexposures, hid,
      (same_value_iff hvalue).mpr hconstant, hdevice, bool_to_nat_injective hlayer, hparameters,
      optional_term_injective hgroup, opt_bool_to_hashable_injective hactive,
      opt_bool_to_hashable_injective huser, hnamed.2.trans hnamed'.2.symm⟩

theorem same_config_iff {eval eval' : AnyConfigEvaluation} (hnamed : NamedConfig hashed_name eval)
    (hnamed' : NamedConfig hashed_name eval')
    (h : any_config_term eval name = any_config_term eval' name') :
    SameConfig eval eval' ↔ SameUnhashedConfig eval eval' := by
  cases eval with
  | DynamicConfig eval =>
    cases eval' with
    | DynamicConfig eval' => exact same_dynamic_config_iff hnamed hnamed' h
    | Experiment eval' => exact Iff.rfl
  | Experiment eval =>
    cases eval' with
    | DynamicConfig eval' => exact Iff.rfl
    | Experiment eval' => exact same_experiment_iff hnamed hnamed' h

/-- Maps with the same entries, each in an order of its own. -/
theorem same_object_of_entries {κ υ : Type} [DecidableEq κ] {map map' : HashMap κ υ}
    {keys keys' : List κ} (h : Iterates map keys) (h' : Iterates map' keys')
    (hentries : entries_in map keys = entries_in map' keys') : SameObject map map' := by
  intro key
  cases hget : map.get key with
  | none =>
    cases hget' : map'.get key with
    | none => rfl
    | some value =>
      have hmem : (key, value) ∈ entries_in map keys := by
        rw [hentries]
        exact (mem_entries_in h').mpr hget'
      rw [(mem_entries_in h).mp hmem] at hget
      cases hget
  | some value =>
    have hmem : (key, value) ∈ entries_in map' keys' := by
      rw [← hentries]
      exact (mem_entries_in h).mpr hget
    exact ((mem_entries_in h').mp hmem).symm

/-- The rule ids of a layer are in its term, whatever the order. -/
theorem same_parameter_rule_ids {specs specs' : specs_response.SpecsResponseFull}
    (horders : orders.Fits specs) (horders' : orders'.Fits specs') {eval eval' : LayerEvaluation}
    (h : parameter_rule_ids_term orders eval name = parameter_rule_ids_term orders' eval' name') :
    Option.Rel SameObject eval.parameter_rule_ids eval'.parameter_rule_ids := by
  unfold parameter_rule_ids_term at h
  cases hids : eval.parameter_rule_ids with
  | none =>
    cases hids' : eval'.parameter_rule_ids with
    | none => exact .none
    | some ids' =>
      rw [hids, hids'] at h
      cases h
  | some ids =>
    cases hids' : eval'.parameter_rule_ids with
    | none =>
      rw [hids, hids'] at h
      cases h
    | some ids' =>
      rw [hids, hids'] at h
      have hentries := flat_pairs_injective (texts_term_injective (List.cons.inj h).1)
      exact .some (same_object_of_entries (horders.parameter_rule_ids name ids)
        (horders'.parameter_rule_ids name' ids') hentries)

theorem same_layer_value_iff {specs specs' : specs_response.SpecsResponseFull}
    (horders : orders.Fits specs) (horders' : orders'.Fits specs') {eval eval' : LayerEvaluation}
    (hids : Option.Rel SameObject eval.parameter_rule_ids eval'.parameter_rule_ids)
    (h : layer_value_term orders eval name = layer_value_term orders' eval' name') :
    SameValue eval.value eval'.value ↔ SameConstant eval.value eval'.value := by
  unfold layer_value_term at h
  generalize eval.parameter_rule_ids = ids at h hids
  generalize eval'.parameter_rule_ids = ids' at h hids
  generalize eval.value = value at h ⊢
  generalize eval'.value = value' at h ⊢
  cases hids with
  | none => exact same_value_iff h
  | some _ =>
    cases value with
    | null => cases value' <;> exact Iff.rfl
    | bool b => cases value' <;> exact Iff.rfl
    | json map =>
      cases value' with
      | null => exact Iff.rfl
      | bool b' => exact Iff.rfl
      | json map' =>
        have hwritten : written (orders.merged_values name) [] (.object map) =
            written (orders'.merged_values name') [] (.object map') :=
          congrArg JsonValue.object (HashAtom.object.inj (Term.atom.inj h))
        exact ⟨fun _ => trivial, fun _ => ⟨_, _, horders.merged_values name,
          horders'.merged_values name', hwritten⟩⟩

theorem same_layer_iff {specs specs' : specs_response.SpecsResponseFull}
    (horders : orders.Fits specs) (horders' : orders'.Fits specs') {eval eval' : LayerEvaluation}
    (hnamed : NamedLayer hashed_name eval) (hnamed' : NamedLayer hashed_name eval')
    (h : layer_term orders eval name = layer_term orders' eval' name') :
    SameLayer eval eval' ↔ SameUnhashedLayer eval eval' := by
  obtain ⟨hfixed, hids⟩ := List.append_inj (Term.list.inj h) rfl
  simp only [List.cons.injEq, Term.number.injEq] at hfixed
  obtain ⟨-, hvalue, hrule, hexposures, hgroup, hactive, huser, hallocated, hexplicit,
    hundelegated, -⟩ := hfixed
  have hrule_ids := same_parameter_rule_ids horders horders' hids
  have hvalue_iff := same_layer_value_iff horders horders' hrule_ids hvalue
  constructor
  · intro hsame
    exact ⟨hsame.id_type, hsame.is_device_based, hvalue_iff.mp hsame.value⟩
  · rintro ⟨hid, hdevice, hconstant⟩
    have hkept : eval.undelegated_secondary_exposures = eval'.undelegated_secondary_exposures := by
      obtain ⟨exposures, hsome⟩ := Option.ne_none_iff_exists'.mp hnamed.2
      obtain ⟨exposures', hsome'⟩ := Option.ne_none_iff_exists'.mp hnamed'.2
      rw [hsome, hsome'] at hundelegated ⊢
      exact congrArg some (exposures_term_injective hundelegated)
    exact ⟨same_base hnamed.1 hnamed'.1 hrule hexposures, hvalue_iff.mpr hconstant, hid, hdevice,
      optional_term_injective hgroup, opt_bool_to_hashable_injective hactive,
      opt_bool_to_hashable_injective huser, optional_term_injective hallocated,
      texts_term_injective hexplicit, hkept, hrule_ids⟩

end Terms

/-! ## The maps of a response -/

section Maps

variable {env env' : EvaluatorEnv} {depth : Nat} {hasher : Hasher} {orders orders' : MapOrders}
  {options : ClientInitResponseOptions} {specs specs' : specs_response.SpecsResponseFull}

/-- Whatever is true of the evaluations that the factory makes is true of those of the loop. -/
theorem process_keys_made {T : Type} {get_spec_type : specs_response.Spec → SpecType}
    {evaluation_factory : EvaluationFactory T} {P : String → T → Prop}
    (hfactory : ∀ entity hashed_name result,
      P hashed_name (evaluation_factory entity hashed_name result).1)
    {specs_map : HashMap InternedString specs_response.Spec} {keys : List InternedString}
    {evals : List (InternedString × T)} {s s' : GcirContext}
    (h : process_keys env depth options get_spec_type evaluation_factory specs_map keys s =
      .ok evals s') :
    ∀ entry ∈ evals, P (env.hashing.hash entry.1 options.get_hash_algorithm) entry.2 := by
  have hspec : ∀ {name spec s eval s'}, process_spec env depth options get_spec_type
      evaluation_factory name spec s = .ok eval s' → ∀ value, eval = some value →
      P (env.hashing.hash name options.get_hash_algorithm) value := by
    intro name spec s eval s' h value hvalue
    obtain ⟨_, s₁, -, h⟩ := ok_of_bind h
    obtain ⟨_, s₂, -, h⟩ := ok_of_bind h
    obtain ⟨ctx, s₃, -, h⟩ := ok_of_bind h
    by_cases hdefault : is_default_value_gate options spec ctx.evaluator.result
    · rw [if_pos hdefault] at h
      cases h
      cases hvalue
    · rw [if_neg hdefault] at h
      by_cases hlayer : is_experiment_in_layer options spec ctx.evaluator.result
      · rw [if_pos hlayer] at h
        cases h
        cases hvalue
      · rw [if_neg hlayer] at h
        obtain ⟨_, s₄, -, h⟩ := ok_of_bind h
        obtain ⟨made, s₅, hmade, h⟩ := ok_of_bind h
        cases hmade
        cases h
        cases hvalue
        exact hfactory _ _ _
  induction keys generalizing evals s s' with
  | nil =>
    cases h
    exact fun entry hentry => absurd hentry List.not_mem_nil
  | cons name names ih =>
    unfold process_keys at h
    cases hget : specs_map.get name with
    | none =>
      rw [hget] at h
      exact ih h
    | some spec =>
      rw [hget] at h
      dsimp only at h
      by_cases hskips : skips env options spec name
      · rw [if_pos hskips] at h
        exact ih h
      · rw [if_neg hskips] at h
        obtain ⟨eval, s₁, hrun, h⟩ := ok_of_bind h
        obtain ⟨rest, s₂, hrest, h⟩ := ok_of_bind h
        cases h
        intro entry hentry
        rcases List.mem_append.mp hentry with hfirst | hlater
        · cases eval with
          | none => cases hfirst
          | some value =>
            obtain rfl := List.mem_singleton.mp hfirst
            exact hspec hrun value rfl
        · exact ih hrest entry hlater

/-- Inserting related values under the same keys leaves related maps. -/
theorem sameMap_foldl {β γ υ υ' : Type} {R : υ → υ' → Prop} {f : β → String} {g : β → υ}
    {f' : γ → String} {g' : γ → υ'} {bs : List β} {cs : List γ}
    (h : List.Forall₂ (fun b c => f b = f' c ∧ R (g b) (g' c)) bs cs) {map : HashMap String υ}
    {map' : HashMap String υ'} (hmap : SameMap R map map') :
    SameMap R (bs.foldl (fun map b => map.insert (f b) (g b)) map)
      (cs.foldl (fun map c => map.insert (f' c) (g' c)) map') := by
  induction h generalizing map map' with
  | nil => exact hmap
  | cons hbc _ ih =>
    refine ih fun key => ?_
    rw [HashMap.get_insert, HashMap.get_insert, ← hbc.1]
    split
    · exact .some hbc.2
    · exact hmap key

theorem sameMap_nil {υ υ' : Type} (R : υ → υ' → Prop) : SameMap R [] [] := fun _ => .none

/-- Entries of one term, in the responses that they are collected in. -/
theorem collect_results_same {T : Type} [GCIRHashable T] [HashTerms T]
    (hhashing : env.hashing = env'.hashing) {P : String → T → Prop} {R : T → T → Prop}
    (hname : ∀ orders (value : T) name, ∃ rest,
      HashTerms.term orders value name = .list (text_term name :: rest))
    (hterm : ∀ {hashed_name name name' value value'}, P hashed_name value →
      P hashed_name value' →
      HashTerms.term orders value name = HashTerms.term orders' value' name' →
      R value value')
    {evals evals' : List (InternedString × T)}
    (hmade : ∀ entry ∈ evals, P (env.hashing.hash entry.1 options.get_hash_algorithm) entry.2)
    (hmade' : ∀ entry ∈ evals',
      P (env'.hashing.hash entry.1 options.get_hash_algorithm) entry.2)
    (h : entries_term orders evals = entries_term orders' evals') :
    SameMap R (collect_results env options evals) (collect_results env' options evals') := by
  refine sameMap_foldl ?_ (sameMap_nil R)
  have hterms := Term.list.inj h
  clear h
  induction evals generalizing evals' with
  | nil =>
    cases evals' with
    | nil => exact .nil
    | cons entry' evals' => cases hterms
  | cons entry evals ih =>
    cases evals' with
    | nil => cases hterms
    | cons entry' evals' =>
      obtain ⟨hhead, htail⟩ := List.cons.inj hterms
      have hsame : entry.1 = entry'.1 := by
        obtain ⟨rest, hrest⟩ := hname orders entry.2 entry.1
        obtain ⟨rest', hrest'⟩ := hname orders' entry'.2 entry'.1
        dsimp only at hhead
        rw [hrest, hrest'] at hhead
        exact HashAtom.text.inj (Term.atom.inj (List.cons.inj (Term.list.inj hhead)).1)
      have hhashed : env.hashing.hash entry.1 options.get_hash_algorithm =
          env'.hashing.hash entry'.1 options.get_hash_algorithm := by rw [hhashing, hsame]
      refine .cons ⟨hhashed, ?_⟩ (ih (fun e he => hmade e (List.mem_cons_of_mem entry he))
        (fun e he => hmade' e (List.mem_cons_of_mem entry' he)) htail)
      have hfirst := hmade entry List.mem_cons_self
      rw [hhashed] at hfirst
      exact hterm hfirst (hmade' entry' List.mem_cons_self) hhead

/-- The keys of the bandits in the response. -/
def bandit_keys (env : EvaluatorEnv) (options : ClientInitResponseOptions)
    (specs : specs_response.SpecsResponseFull) : Set String :=
  {key | ∃ node ∈ visited_cmabs env options specs,
    env.hashing.hash node.2 options.get_hash_algorithm = key}

/-- The bandits leave the other entries as they are. -/
theorem add_cmab_evaluations_get (horders : orders.Fits specs)
    {result result' : HashMap String AnyConfigEvaluation} {s s' : GcirContext}
    (h : add_cmab_evaluations env depth orders options specs result s = .ok result' s')
    {key : String} (hkey : key ∉ bandit_keys env options specs) :
    result'.get key = result.get key := by
  unfold add_cmab_evaluations at h
  cases hsome : specs.cmab_configs with
  | none =>
    rw [hsome] at h
    cases h
    rfl
  | some cmab_configs =>
    rw [hsome] at h
    have hiterates := horders.cmab_configs
    rw [hsome, Option.getD_some] at hiterates
    have hnames : ∀ name ∈ orders.cmab_configs,
        skips_cmab env options cmab_configs name = false →
        env.hashing.hash name options.get_hash_algorithm ≠ key := by
      intro name hname hskips hsame
      exact hkey ⟨_, ⟨cmab_configs, hsome, name, (hiterates.mem name).mp hname, hskips, rfl⟩,
        hsame⟩
    dsimp only at h
    clear hiterates
    revert hnames h
    generalize orders.cmab_configs = names
    intro h hnames
    induction names generalizing result s with
    | nil =>
      cases h
      rfl
    | cons name names ih =>
      unfold process_cmabs at h
      split at h
      · exact ih h fun name hname => hnames name (List.mem_cons_of_mem _ hname)
      · rename_i hskips
        obtain ⟨eval, s₁, -, h⟩ := ok_of_bind h
        rw [ih h fun name hname => hnames name (List.mem_cons_of_mem _ hname),
          HashMap.get_insert, if_neg]
        exact fun hsame => hnames name List.mem_cons_self (Bool.not_eq_true _ ▸ hskips) hsame.symm

theorem stores_names {stores stores' : List (InternedString × specs_response.ParameterStore)}
    (h : entries_term orders stores = entries_term orders' stores') :
    List.Forall₂ (fun entry entry' => entry.1 = entry'.1) stores stores' := by
  have hnames := names_of_entries_term (fun _ _ _ => ⟨_, rfl⟩) h
  exact List.forall₂_map_left_iff.mp
    (List.forall₂_map_right_iff.mp (List.forall₂_eq_eq_eq ▸ hnames))

/-- The hash fixes which stores there are. -/
theorem response_stores_same (hhashing : env.hashing = env'.hashing)
    (h : stores_term env orders options specs = stores_term env' orders' options specs') :
    SameMap (fun _ _ => True) (response_stores env orders options specs)
      (response_stores env' orders' options specs') := by
  unfold stores_term at h
  unfold response_stores
  cases hstores : specs.param_stores with
  | none =>
    cases hstores' : specs'.param_stores with
    | none => exact sameMap_nil _
    | some stores' =>
      rw [hstores, hstores'] at h
      cases h
  | some stores =>
    cases hstores' : specs'.param_stores with
    | none =>
      rw [hstores, hstores'] at h
      cases h
    | some stores' =>
      rw [hstores, hstores'] at h
      refine sameMap_foldl ((stores_names h).imp fun entry entry' hsame => ?_) (sameMap_nil _)
      exact ⟨by rw [hhashing, hsame], trivial⟩

end Maps

/-! ## One hash, one response -/

/-- The parts that a response holds. -/
def InitializeResponse.parts (response : InitializeResponse) : FirstParts where
  feature_gates := response.feature_gates
  dynamic_configs := response.dynamic_configs
  layer_configs := response.layer_configs
  param_stores := response.param_stores

section

variable {env env' : EvaluatorEnv} {depth : Nat} {hasher : Hasher} {orders orders' : MapOrders}
  {options : ClientInitResponseOptions} {specs specs' : specs_response.SpecsResponseFull}
  {run run' : FirstRun}

/-- A response with updates holds the parts of its run. -/
theorem updated_response_parts (hprevious : options.previous_response_hash.isSome)
    {c s : GcirContext} {response : InitializeResponse}
    (hrun : evaluate_first env depth hasher orders options specs {} = .ok run c)
    (hresponse : generate_v1_format env depth hasher orders options specs {} = .ok response s) :
    (response.has_updates = true → response.parts = run.parts) ∧
      s.gcir_hashes = Term.hashes hasher.scheme (run.terms env orders options specs) := by
  obtain ⟨run₁, c₁, info, hrun₁, rfl, hhashes⟩ := generate_v1_format_run hprevious hresponse
  rw [hrun] at hrun₁
  cases hrun₁
  refine ⟨fun hupdates => ?_, hhashes⟩
  unfold first_response at hupdates ⊢
  split at hupdates
  · cases hupdates
  · rw [if_neg ‹_›]
    rfl

/-- A related pair of entries is the same where it is the same in the rest. -/
theorem rel_iff_of_covered {υ : Type} {R U : υ → υ → Prop} {o o' : Option υ}
    (h : Option.Rel (fun v v' => R v v' ↔ U v v') o o') :
    Option.Rel R o o' ↔ ∀ v v', o = some v → o' = some v' → U v v' := by
  cases h with
  | none => exact ⟨fun _ _ _ hv => absurd hv.symm (Option.some_ne_none _), fun _ => .none⟩
  | @some v v' hcovered =>
    constructor
    · rintro hrel w w' hw hw'
      cases hw
      cases hw'
      cases hrel with
      | some hrel => exact hcovered.mp hrel
    · exact fun hall => .some (hcovered.mpr (hall v v' rfl rfl))

/-- Runs of one term show the same, but for what is not in the term. -/
theorem same_parts_iff (hhashing : env.hashing = env'.hashing) (horders : orders.Fits specs)
    (horders' : orders'.Fits specs') (hmade : run.Made env depth orders options specs)
    (hmade' : run'.Made env' depth orders' options specs')
    (hterms : run.terms env orders options specs = run'.terms env' orders' options specs') :
    SameParts run.parts run'.parts ↔ SameUnhashed
      {key | key ∈ bandit_keys env options specs ∨ key ∈ bandit_keys env' options specs'}
      run.parts run'.parts := by
  simp only [FirstRun.terms, List.cons.injEq] at hterms
  obtain ⟨hgate_terms, hconfig_terms, hlayer_terms, hstore_terms, -⟩ := hterms
  have hgates : SameMap (fun e e' => SameGate e e' ↔ e.id_type = e'.id_type)
      run.parts.feature_gates run'.parts.feature_gates := by
    obtain ⟨s, t, hrun⟩ := hmade.gate_run
    obtain ⟨s', t', hrun'⟩ := hmade'.gate_run
    have hnamed : ∀ entity hashed_name result,
        NamedGate hashed_name (gate_factory options entity hashed_name result).1 :=
      fun _ hashed_name _ => get_exposure_name_text hashed_name _
    rw [hmade.feature_gates, hmade'.feature_gates]
    exact collect_results_same (P := NamedGate) hhashing (fun _ _ _ => ⟨_, rfl⟩) same_gate_iff
      (process_keys_made hnamed hrun) (process_keys_made hnamed hrun') hgate_terms
  have hlayers : SameMap (fun e e' => SameLayer e e' ↔ SameUnhashedLayer e e')
      run.parts.layer_configs run'.parts.layer_configs := by
    obtain ⟨s, t, hrun⟩ := hmade.layer_run
    obtain ⟨s', t', hrun'⟩ := hmade'.layer_run
    have hnamed : ∀ env entity hashed_name result,
        NamedLayer hashed_name (layer_factory env options entity hashed_name result).1 :=
      fun _ _ hashed_name _ => ⟨get_exposure_name_text hashed_name _, Option.some_ne_none _⟩
    rw [hmade.layer_configs, hmade'.layer_configs]
    exact collect_results_same (P := NamedLayer) hhashing (fun _ _ _ => ⟨_, rfl⟩)
      (same_layer_iff horders horders') (process_keys_made (hnamed env) hrun)
      (process_keys_made (hnamed env') hrun') hlayer_terms
  have hnamed : ∀ entity hashed_name result,
      NamedConfig hashed_name (config_factory options entity hashed_name result).1 := by
    intro entity hashed_name result
    unfold config_factory
    split
    · exact get_exposure_name_text _ _
    · exact ⟨get_exposure_name_text _ _, rfl⟩
  have hconfigs : SameMap (fun e e' => SameConfig e e' ↔ SameUnhashedConfig e e')
      (collect_results env options run.configs) (collect_results env' options run'.configs) := by
    obtain ⟨s, t, hrun⟩ := hmade.config_run
    obtain ⟨s', t', hrun'⟩ := hmade'.config_run
    refine collect_results_same (P := NamedConfig) hhashing (fun _ value _ => ?_) same_config_iff
      (process_keys_made hnamed hrun) (process_keys_made hnamed hrun') hconfig_terms
    cases value with
    | DynamicConfig eval => exact ⟨_, rfl⟩
    | Experiment eval => exact ⟨_, rfl⟩
  have hstores : SameMap (fun _ _ => True) run.parts.param_stores run'.parts.param_stores := by
    rw [hmade.param_stores, hmade'.param_stores]
    exact response_stores_same hhashing hstore_terms
  -- outside the bandits the configs are those of the specs
  have hothers : ∀ key, key ∉ bandit_keys env options specs →
      key ∉ bandit_keys env' options specs' →
      Option.Rel (fun e e' => SameConfig e e' ↔ SameUnhashedConfig e e')
        (run.parts.dynamic_configs.get key) (run'.parts.dynamic_configs.get key) := by
    intro key hkey hkey'
    obtain ⟨s, t, hrun⟩ := hmade.dynamic_configs
    obtain ⟨s', t', hrun'⟩ := hmade'.dynamic_configs
    rw [add_cmab_evaluations_get horders hrun hkey, add_cmab_evaluations_get horders' hrun' hkey']
    exact hconfigs key
  have hcovered : SameMap
      (fun store store' => SameObject store store' ↔ SameObject store store')
      run.parts.param_stores run'.parts.param_stores := by
    intro key
    have hrel := hstores key
    generalize run.parts.param_stores.get key = o at hrel ⊢
    generalize run'.parts.param_stores.get key = o' at hrel ⊢
    cases hrel with
    | none => exact .none
    | some _ => exact .some Iff.rfl
  constructor
  · intro hsame
    refine ⟨fun key => (rel_iff_of_covered (hgates key)).mp (hsame.feature_gates key),
      fun key eval eval' hkey => ?_, fun key _ => hsame.dynamic_configs key,
      fun key => (rel_iff_of_covered (hlayers key)).mp (hsame.layer_configs key),
      fun key => (rel_iff_of_covered (hcovered key)).mp (hsame.param_stores key)⟩
    obtain ⟨hkey, hkey'⟩ := not_or.mp hkey
    exact (rel_iff_of_covered (hothers key hkey hkey')).mp (hsame.dynamic_configs key) eval eval'
  · intro hsame
    refine ⟨fun key => (rel_iff_of_covered (hgates key)).mpr (hsame.feature_gates key),
      fun key => ?_, fun key => (rel_iff_of_covered (hlayers key)).mpr (hsame.layer_configs key),
      fun key => (rel_iff_of_covered (hcovered key)).mpr (hsame.param_stores key)⟩
    by_cases hkey : key ∈ bandit_keys env options specs ∨ key ∈ bandit_keys env' options specs'
    · exact hsame.bandits key hkey
    · obtain ⟨hkey₁, hkey₂⟩ := not_or.mp hkey
      exact (rel_iff_of_covered (hothers key hkey₁ hkey₂)).mpr fun eval eval' =>
        hsame.dynamic_configs key eval eval' hkey

end

end statsig_rust.gcir
