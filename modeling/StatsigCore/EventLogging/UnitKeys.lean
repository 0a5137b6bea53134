-- Which users the keys of exposures tell apart. A key holds one hash of a user: of the user
-- id, the stable id, the value of one id type, and the wrapping sum over all custom ids. The
-- typed operations pass the id type of their evaluation. The raw ones and the secondary
-- exposures pass none, and a sum does not say which id has which value.
import Mathlib.Algebra.BigOperators.Group.List.Basic
import Mathlib.Data.UInt
import StatsigCore.EventLogging.ExposureDedupe

namespace statsig_rust.event_logging

open evaluation

/-! ## The unit of a user -/

section Units

variable (hashing : Hashing) (user : UserData)

/-- The value of a user for an id type. -/
def unit_value (id_type : String) : Option DynamicValue :=
  if id_type.toLower = "userid" then user.user_id
  else
    user.custom_ids.bind fun custom_ids =>
      (custom_ids.get id_type).or (custom_ids.get (hashing.to_lowercase id_type))

/-- The values of the custom ids, without their keys. -/
def custom_values : List DynamicValue :=
  match user.custom_ids with
  | none => []
  | some custom_ids => (custom_ids.map Prod.fst).dedup.filterMap custom_ids.get

/-- Every value that can stand for the user. -/
def unit_values : List DynamicValue := user.user_id.toList ++ custom_values user

/-- The sum of the hashes of the custom ids, modulo 2^64. -/
def custom_sum : UInt64 := ((custom_values user).map hashing.hash_value).sum

/-- What the hash of a user is made from. -/
def user_parts (unit_id_type : Option String) : List UInt64 :=
  [id_hash hashing user.user_id, id_hash hashing (unit_value hashing user "stableID"),
    id_hash hashing (unit_id_type.bind (unit_value hashing user)), custom_sum hashing user]

/-- The evaluator reads the same value, where the two ways to lowercase an id type agree
on the user id. -/
theorem unit_value_eq_get_unit_id (t : String) (statsig_instance : Option StatsigInstance)
    (hlower : t.toLower = "userid" ↔ hashing.to_lowercase t = "userid") :
    unit_value hashing user t =
      (StatsigUserInternal.mk user statsig_instance).get_unit_id
        ⟨t, hashing.to_lowercase t⟩ := by
  unfold unit_value StatsigUserInternal.get_unit_id
  by_cases h : t.toLower = "userid"
  · simp [h, hlower.mp h]
  · have h' : ¬ hashing.to_lowercase t = "userid" := fun hl => h (hlower.mpr hl)
    simp only [h, h', if_false]
    cases user.custom_ids <;> rfl

theorem get_unit_id_hash_eq (t : String) :
    get_unit_id_hash hashing user t = id_hash hashing (unit_value hashing user t) := by
  unfold get_unit_id_hash unit_value
  by_cases h : t.toLower = "userid"
  · simp [h]
  · simp only [h, if_false]
    cases user.custom_ids <;> rfl

theorem sum_custom_id_hashes_eq :
    sum_custom_id_hashes hashing user = custom_sum hashing user := by
  unfold sum_custom_id_hashes custom_sum custom_values
  cases user.custom_ids with
  | none => rfl
  | some custom_ids =>
    rw [List.sum_eq_foldl, List.foldl_map]

theorem create_exposure_dedupe_user_hash_eq (unit_id_type : Option String) :
    create_exposure_dedupe_user_hash hashing user unit_id_type =
      hashing.hash_one (user_parts hashing user unit_id_type) := by
  unfold create_exposure_dedupe_user_hash user_parts
  rw [get_unit_id_hash_eq, sum_custom_id_hashes_eq]
  cases unit_id_type with
  | none => rfl
  | some t => simp only [get_unit_id_hash_eq, Option.bind_some]

variable {hashing user}

theorem get_mem_custom_values {custom_ids : UserDataMap} {key : String} {value : DynamicValue}
    (hids : user.custom_ids = some custom_ids) (h : custom_ids.get key = some value) :
    value ∈ custom_values user := by
  unfold custom_values
  rw [hids]
  apply List.mem_filterMap.mpr
  exact ⟨key, List.mem_dedup.mpr (HashMap.mem_keys_of_get h), h⟩

/-- A value of the user for any id type is one of the user's values. -/
theorem unit_value_mem {t : String} {value : DynamicValue}
    (h : unit_value hashing user t = some value) : value ∈ unit_values user := by
  unfold unit_value at h
  unfold unit_values
  by_cases hu : t.toLower = "userid"
  · rw [if_pos hu] at h
    simp [h]
  · rw [if_neg hu] at h
    obtain ⟨custom_ids, hids, h⟩ := Option.bind_eq_some_iff.mp h
    apply List.mem_append_right
    rcases Option.or_eq_some_iff.mp h with h | ⟨-, h⟩
    · exact get_mem_custom_values hids h
    · exact get_mem_custom_values hids h

end Units

/-! ## Logged exposures -/

/-- Every exposure that is logged: one that is asked for, or a secondary one that is logged
as a primary one. -/
inductive LoggedExposure where
  | primary (op : ExposureOp)
  | secondary (op : EnqueueSecondaryExposureAsPrimaryOp)

/-- What a key adds to the name and the rule, as the operation holds it. -/
inductive Outcome where
  | flag (value : Bool)
  | parameter (name : String)
  | interned_parameter (name : Interned)

def Outcome.hash (hashing : Hashing) : Outcome → UInt64
  | flag value => value.toUInt64
  | parameter name => hashing.ahash_str name
  | interned_parameter name => hashing.interned name

namespace ExposureOp

def user : ExposureOp → UserData
  | typed_gate op => op.user
  | typed_config op => op.user
  | typed_experiment op => op.user
  | typed_layer_param op => op.layer.user
  | gate_exposure call | dynamic_config_exposure call | experiment_exposure call
  | layer_param_exposure _ call => call.user
  | layer_param_exposure_from_partial_raw _ _ partial_raw _ => partial_raw.user

/-- The id type that the operation passes for its key. -/
def unit_id_type : ExposureOp → Option String
  | typed_gate op => op.evaluation.bind (·.id_type)
  | typed_config op => op.config.evaluation.bind (·.id_type)
  | typed_experiment op => some op.experiment.id_type
  | typed_layer_param op => op.layer.evaluation.bind (·.id_type)
  | _ => none

def outcome : ExposureOp → Outcome
  | typed_gate op => .flag (op.evaluation.any (·.value))
  | typed_config op => .flag (op.config.evaluation.any (·.passed))
  | typed_experiment op =>
    .flag (op.experiment.evaluation.any (·.is_user_in_experiment == some true))
  | typed_layer_param op => .parameter op.parameter_name
  | gate_exposure call | dynamic_config_exposure call => .flag (call.result.any (·.bool_value))
  | experiment_exposure call => .flag (call.result.any (·.is_experiment_group))
  | layer_param_exposure parameter_name _
  | layer_param_exposure_from_partial_raw parameter_name _ _ _ =>
    .interned_parameter parameter_name

theorem key_user_values (hashing : Hashing) (op : ExposureOp) :
    (op.create_exposure_sampling_key hashing).user_values_hash =
      hashing.hash_one (user_parts hashing op.user op.unit_id_type) := by
  rw [← create_exposure_dedupe_user_hash_eq]
  cases op <;> rfl

theorem key_outcome (hashing : Hashing) (op : ExposureOp) :
    (op.create_exposure_sampling_key hashing).additional_hash = op.outcome.hash hashing := by
  cases op <;> rfl

end ExposureOp

namespace LoggedExposure

def create_exposure_sampling_key (hashing : Hashing) : LoggedExposure → ExposureSamplingKey
  | primary op => op.create_exposure_sampling_key hashing
  | secondary op => op.create_exposure_sampling_key hashing

def user : LoggedExposure → UserData
  | primary op => op.user
  | secondary op => op.user

def unit_id_type : LoggedExposure → Option String
  | primary op => op.unit_id_type
  | secondary _ => none

def spec_name : LoggedExposure → Interned
  | primary op => op.key_name
  | secondary op => op.secondary_exposure.gate

def rule_id : LoggedExposure → Interned
  | primary op => op.key_rule_id
  | secondary op => op.secondary_exposure.rule_id

def outcome : LoggedExposure → Outcome
  | primary op => op.outcome
  | secondary op => .flag (op.secondary_exposure.gate_value.text == "true")

/-- The value of the user for the id type that the operation passes. -/
def passed_value (hashing : Hashing) (exposure : LoggedExposure) : Option DynamicValue :=
  exposure.unit_id_type.bind (unit_value hashing exposure.user)

/-- Exposures of one spec, with the same rule and outcome. -/
structure SameOutcome (a b : LoggedExposure) : Prop where
  spec_name : a.spec_name = b.spec_name
  rule_id : a.rule_id = b.rule_id
  outcome : a.outcome = b.outcome

theorem key_eq (hashing : Hashing) (exposure : LoggedExposure) :
    exposure.create_exposure_sampling_key hashing =
      { spec_name_hash := hashing.interned exposure.spec_name
        rule_id_hash := hashing.interned exposure.rule_id
        user_values_hash :=
          hashing.hash_one (user_parts hashing exposure.user exposure.unit_id_type)
        additional_hash := exposure.outcome.hash hashing } := by
  cases exposure with
  | primary op =>
    simp only [spec_name, rule_id, user, unit_id_type, outcome, ← key_spec_name, ← key_rule,
      ← ExposureOp.key_user_values, ← ExposureOp.key_outcome]
    rfl
  | secondary op =>
    simp only [user, unit_id_type, ← create_exposure_dedupe_user_hash_eq]
    rfl

/-- Two exposures with the same outcome share their key just when their users have one
hash. -/
theorem keys_eq_iff {hashing : Hashing} {a b : LoggedExposure} (hsame : a.SameOutcome b) :
    a.create_exposure_sampling_key hashing = b.create_exposure_sampling_key hashing ↔
      hashing.hash_one (user_parts hashing a.user a.unit_id_type) =
        hashing.hash_one (user_parts hashing b.user b.unit_id_type) := by
  rw [key_eq, key_eq, hsame.spec_name, hsame.rule_id, hsame.outcome]
  simp only [ExposureSamplingKey.mk.injEq, true_and, and_true]

end LoggedExposure

/-! ## Which users a key tells apart -/

/-- The hashes are injective, and none of a value is 0. No 64-bit hash is injective on all
the values there are, so this asks it of the values and the parts at hand. -/
structure Hashing.TellsApart (hashing : Hashing) (a b : LoggedExposure) : Prop where
  values : ∀ x ∈ unit_values a.user, ∀ y ∈ unit_values b.user,
    hashing.hash_value x = hashing.hash_value y → x = y
  nonzero : ∀ x ∈ unit_values a.user ++ unit_values b.user, hashing.hash_value x ≠ 0
  parts : hashing.hash_one (user_parts hashing a.user a.unit_id_type) =
      hashing.hash_one (user_parts hashing b.user b.unit_id_type) →
    user_parts hashing a.user a.unit_id_type = user_parts hashing b.user b.unit_id_type

section Apart

variable {hashing : Hashing} {a b : LoggedExposure}

/-- Two values of the users are the same just when their hashes are, also where there is
no value. -/
theorem Hashing.TellsApart.id_hash_eq_iff (h : hashing.TellsApart a b)
    {x y : Option DynamicValue} (hx : ∀ v, x = some v → v ∈ unit_values a.user)
    (hy : ∀ v, y = some v → v ∈ unit_values b.user) :
    id_hash hashing x = id_hash hashing y ↔ x = y := by
  constructor
  · intro heq
    cases x with
    | none =>
      cases y with
      | none => rfl
      | some v => exact absurd heq.symm (h.nonzero v (List.mem_append_right _ (hy v rfl)))
    | some v =>
      cases y with
      | none => exact absurd heq (h.nonzero v (List.mem_append_left _ (hx v rfl)))
      | some w => rw [h.values v (hx v rfl) w (hy w rfl) heq]
  · intro heq
    rw [heq]

theorem user_id_mem {user : UserData} {value : DynamicValue} (h : user.user_id = some value) :
    value ∈ unit_values user := by
  simp [unit_values, h]

theorem passed_value_mem {value : DynamicValue} (h : a.passed_value hashing = some value) :
    value ∈ unit_values a.user := by
  obtain ⟨t, -, ht⟩ := Option.bind_eq_some_iff.mp h
  exact unit_value_mem ht

/-- The parts of two users agree just when the users agree on each part. -/
theorem Hashing.TellsApart.parts_eq_iff (h : hashing.TellsApart a b) :
    user_parts hashing a.user a.unit_id_type = user_parts hashing b.user b.unit_id_type ↔
      a.user.user_id = b.user.user_id ∧
      unit_value hashing a.user "stableID" = unit_value hashing b.user "stableID" ∧
      a.passed_value hashing = b.passed_value hashing ∧
      custom_sum hashing a.user = custom_sum hashing b.user := by
  have huser := h.id_hash_eq_iff (fun _ hv => user_id_mem hv) (fun _ hv => user_id_mem hv)
  have hstable : id_hash hashing (unit_value hashing a.user "stableID") =
      id_hash hashing (unit_value hashing b.user "stableID") ↔
        unit_value hashing a.user "stableID" = unit_value hashing b.user "stableID" :=
    h.id_hash_eq_iff (fun _ hv => unit_value_mem hv) (fun _ hv => unit_value_mem hv)
  have hpassed : id_hash hashing (a.passed_value hashing) =
      id_hash hashing (b.passed_value hashing) ↔
        a.passed_value hashing = b.passed_value hashing :=
    h.id_hash_eq_iff (fun _ hv => passed_value_mem hv) (fun _ hv => passed_value_mem hv)
  unfold LoggedExposure.passed_value at hpassed ⊢
  unfold user_parts
  rw [List.cons.injEq, List.cons.injEq, List.cons.injEq, List.cons.injEq, huser, hstable, hpassed]
  simp only [and_true]

/-- Two users differ in what their keys are made from: in the user id, the stable id, the
value for the id type that is passed, or the sum of the custom ids. -/
def LoggedExposure.UsersDiffer (hashing : Hashing) (a b : LoggedExposure) : Prop :=
  a.user.user_id ≠ b.user.user_id ∨
  unit_value hashing a.user "stableID" ≠ unit_value hashing b.user "stableID" ∨
  a.passed_value hashing ≠ b.passed_value hashing ∨
  custom_sum hashing a.user ≠ custom_sum hashing b.user

theorem Hashing.TellsApart.keys_ne_iff (h : hashing.TellsApart a b) (hsame : a.SameOutcome b) :
    a.create_exposure_sampling_key hashing ≠ b.create_exposure_sampling_key hashing ↔
      a.UsersDiffer hashing b := by
  have hparts : a.create_exposure_sampling_key hashing = b.create_exposure_sampling_key hashing ↔
      user_parts hashing a.user a.unit_id_type = user_parts hashing b.user b.unit_id_type := by
    rw [LoggedExposure.keys_eq_iff hsame]
    constructor
    · exact h.parts
    · intro hparts
      rw [hparts]
  unfold LoggedExposure.UsersDiffer
  rw [ne_eq, hparts, h.parts_eq_iff, not_and_or, not_and_or, not_and_or]

/-- Where both operations pass the id type, its values are in the keys. -/
theorem users_differ_of_passed {t : String} (ha : a.unit_id_type = some t)
    (hb : b.unit_id_type = some t)
    (hunit : unit_value hashing a.user t ≠ unit_value hashing b.user t) :
    a.UsersDiffer hashing b := by
  apply Or.inr
  apply Or.inr
  apply Or.inl
  unfold LoggedExposure.passed_value
  rw [ha, hb]
  exact hunit

/-- Custom ids that hold the same values under other keys have one sum. -/
theorem custom_sum_of_perm {u v : UserData} (h : (custom_values u).Perm (custom_values v)) :
    custom_sum hashing u = custom_sum hashing v :=
  (h.map _).sum_eq

/-- Without an id type, users whose custom ids hold the same values share a key, whatever
the hashes are. -/
theorem permuted_ids_share_a_key (hsame : a.SameOutcome b) (ha : a.unit_id_type = none)
    (hb : b.unit_id_type = none) (huser : a.user.user_id = b.user.user_id)
    (hstable : unit_value hashing a.user "stableID" = unit_value hashing b.user "stableID")
    (hperm : (custom_values a.user).Perm (custom_values b.user)) :
    a.create_exposure_sampling_key hashing = b.create_exposure_sampling_key hashing := by
  apply (LoggedExposure.keys_eq_iff hsame).mpr
  unfold user_parts
  rw [ha, hb, huser, hstable, custom_sum_of_perm hperm]
  rfl

/-- A typed operation that is made from an evaluation passes its id type. -/
theorem made_operations_pass_id_type (user : UserData) (name parameter_name : String)
    (details : EvaluationDetails) (result : EvaluatorResult) (trigger : ExposureTrigger)
    (exposure_time : Nat) (disable_exposure : Bool) (t : String) (h : result.id_type = some t) :
    (ExposureOp.typed_gate ⟨user, name, some (result_to_gate_eval name result), details, trigger,
      exposure_time⟩).unit_id_type = some t ∧
    (ExposureOp.typed_config ⟨user, get_dynamic_config_impl name (details, some result), trigger,
      exposure_time⟩).unit_id_type = some t ∧
    (ExposureOp.typed_experiment ⟨user, get_experiment_impl name (details, some result), trigger,
      exposure_time⟩).unit_id_type = some t ∧
    (ExposureOp.typed_layer_param ⟨exposure_time,
      get_layer_impl user name disable_exposure (details, some result), parameter_name,
      trigger⟩).unit_id_type = some t := by
  refine ⟨h, ?_, ?_, ?_⟩
  · simp [ExposureOp.unit_id_type, get_dynamic_config_impl, make_dynamic_config,
      result_to_dynamic_config_eval, get_id_type_info, h]
  · simp [ExposureOp.unit_id_type, get_experiment_impl, make_experiment,
      result_to_experiment_eval, get_id_type_info, h]
  · simp [ExposureOp.unit_id_type, get_layer_impl, make_layer, result_to_layer_eval,
      get_id_type_info, h]

end Apart

/-- Two exposures of one spec, with the same rule and outcome, whose users have another value
for its id type, have different keys just when the users differ in what the keys are made
from. Operations that pass the id type are always told apart. -/
theorem units_are_told_apart_iff (hashing : Hashing) (t : String) (a b : LoggedExposure)
    (hsame : a.SameOutcome b) (h : hashing.TellsApart a b)
    (hunit : unit_value hashing a.user t ≠ unit_value hashing b.user t) :
    (a.create_exposure_sampling_key hashing ≠ b.create_exposure_sampling_key hashing ↔
      a.UsersDiffer hashing b) ∧
    (a.unit_id_type = some t → b.unit_id_type = some t → a.UsersDiffer hashing b) :=
  ⟨h.keys_ne_iff hsame, fun ha hb => users_differ_of_passed ha hb hunit⟩

/-! ## Two ids that change places -/

/-- A value of a user that is a text. -/
def text_value (text : String) : DynamicValue :=
  { string_value := some ⟨text, text.toLower⟩, json_value := .string text }

/-- A user of a company and a team. -/
def member (company team : String) : UserData where
  user_id := some (text_value "anna")
  custom_ids := some [("companyID", text_value company), ("teamID", text_value team)]

/-- A gate of the company, as it is on for the user. -/
def company_gate (user : UserData) : ExposureCall where
  user := user
  spec_name := .from_str_ref "checkout"
  trigger := .Auto
  details := { reason := "Network:Recognized" }
  result := some
    { name := some "checkout"
      rule_id := some "on"
      bool_value := true
      id_type := some "companyID" }
  exposure_time := 0

/-- The same gate, checked by the typed call. -/
def typed_company_gate (user : UserData) : EnqueueGateExpoOp where
  user := user
  queried_gate_name := "checkout"
  evaluation := (company_gate user).result.map (result_to_gate_eval "checkout")
  details := { reason := "Network:Recognized" }
  trigger := .Auto
  exposure_time := 0

/-- A hash for the examples: a text counts by its length. -/
def Hashing.by_value_length : Hashing :=
  { Hashing.by_length with
    hash_value := fun value =>
      match value.string_value with
      | some text => UInt64.ofNat (text.value.length + 1)
      | none => 1 }

theorem unit_values_member (company team : String) : unit_values (member company team) =
    [text_value "anna", text_value company, text_value team] := rfl

theorem members_values {x y : DynamicValue}
    (hx : x ∈ unit_values (member "initech" "qa")) (hy : y ∈ unit_values (member "qa" "initech"))
    (h : Hashing.by_value_length.hash_value x = Hashing.by_value_length.hash_value y) : x = y := by
  rw [unit_values_member] at hx hy
  simp only [List.mem_cons, List.not_mem_nil, or_false] at hx hy
  rcases hx with rfl | rfl | rfl <;> rcases hy with rfl | rfl | rfl <;>
    first | rfl | exact absurd h (by decide +kernel)

theorem members_nonzero : ∀ x ∈ unit_values (member "initech" "qa") ++
    unit_values (member "qa" "initech"), Hashing.by_value_length.hash_value x ≠ 0 := by
  rw [unit_values_member, unit_values_member]
  simp only [List.cons_append, List.nil_append, List.forall_mem_cons]
  decide +kernel

theorem members_companies :
    unit_value .by_value_length (member "initech" "qa") "companyID" ≠
      unit_value .by_value_length (member "qa" "initech") "companyID" := by
  intro h
  exact absurd (congrArg (id_hash .by_value_length) h) (by decide +kernel)

/-- The typed gate passes its id type, so it keeps the two members apart. -/
theorem typed_gate_keeps_members_apart :
    let a : LoggedExposure := .primary (.typed_gate (typed_company_gate (member "initech" "qa")))
    let b : LoggedExposure := .primary (.typed_gate (typed_company_gate (member "qa" "initech")))
    (a.create_exposure_sampling_key .by_value_length ≠
        b.create_exposure_sampling_key .by_value_length ↔ a.UsersDiffer .by_value_length b) ∧
      (a.unit_id_type = some "companyID" → b.unit_id_type = some "companyID" →
        a.UsersDiffer .by_value_length b) := by
  intro a b
  have hsame : a.SameOutcome b := ⟨rfl, rfl, rfl⟩
  have happart : Hashing.by_value_length.TellsApart a b :=
    ⟨fun _ hx _ hy h => members_values hx hy h, members_nonzero, by decide +kernel⟩
  exact units_are_told_apart_iff .by_value_length "companyID" a b hsame happart members_companies

/-- The raw gate does not: the second member's exposure counts as the first one's. -/
theorem raw_gate_confuses_members :
    ¬ ∀ (hashing : Hashing) (t : String) (a b : LoggedExposure),
      a.SameOutcome b → hashing.TellsApart a b →
      unit_value hashing a.user t ≠ unit_value hashing b.user t →
      a.create_exposure_sampling_key hashing ≠ b.create_exposure_sampling_key hashing := by
  intro h
  let a : LoggedExposure := .primary (.gate_exposure (company_gate (member "initech" "qa")))
  let b : LoggedExposure := .primary (.gate_exposure (company_gate (member "qa" "initech")))
  have hsame : a.SameOutcome b := ⟨rfl, rfl, rfl⟩
  have happart : Hashing.by_value_length.TellsApart a b :=
    ⟨fun _ hx _ hy h => members_values hx hy h, members_nonzero, by decide +kernel⟩
  apply h .by_value_length "companyID" a b hsame happart members_companies
  have hstable (user : UserData) (hnone : (unit_value .by_value_length user "stableID").isNone) :
      unit_value .by_value_length user "stableID" = none := Option.isNone_iff_eq_none.mp hnone
  apply permuted_ids_share_a_key hsame rfl rfl rfl
  · rw [hstable a.user (by decide +kernel), hstable b.user (by decide +kernel)]
  · exact List.Perm.swap (text_value "qa") (text_value "initech") []

end statsig_rust.event_logging
