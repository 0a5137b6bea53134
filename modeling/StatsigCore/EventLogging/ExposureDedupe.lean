-- Two exposures with one sampling key count as the same exposure, and the second is
-- not logged. The typed operations make their key from the evaluation and their
-- event from the object, so the key says less than the event. The law here is when
-- two operations with one key do log the same exposure.
import StatsigCore.EventLogging.QueuedExposures

namespace statsig_rust.event_logging

open evaluation

/-! ## Operations -/

/-- Every way to make an exposure operation. -/
inductive ExposureOp where
  | typed_gate (op : EnqueueGateExpoOp)
  | typed_config (op : EnqueueConfigExpoOp)
  | typed_experiment (op : EnqueueExperimentExpoOp)
  | typed_layer_param (op : EnqueueLayerParamExpoOp)
  | gate_exposure (call : ExposureCall)
  | dynamic_config_exposure (call : ExposureCall)
  | experiment_exposure (call : ExposureCall)
  | layer_param_exposure (parameter_name : Interned) (call : ExposureCall)
  | layer_param_exposure_from_partial_raw (parameter_name : Interned)
      (trigger : ExposureTrigger) (partial_raw : PartialLayerRaw) (exposure_time : Nat)

/-- Which fields an event has: a config exposure may report `rulePassed` or not. -/
inductive ExposureKind where
  | gate
  | config (reports_rule_passed : Bool)
  | layer
deriving DecidableEq

/-- What a key adds to the names: a flag or the name of a parameter. -/
inductive Detail where
  | flag (value : Bool)
  | parameter (name : String)

namespace ExposureOp

def create_exposure_sampling_key (hashing : Hashing) : ExposureOp → ExposureSamplingKey
  | typed_gate op => op.create_exposure_sampling_key hashing
  | typed_config op => op.create_exposure_sampling_key hashing
  | typed_experiment op => op.create_exposure_sampling_key hashing
  | typed_layer_param op => op.create_exposure_sampling_key hashing
  | gate_exposure call =>
    (EnqueueExposureOp.gate_exposure call).create_exposure_sampling_key hashing
  | dynamic_config_exposure call =>
    (EnqueueExposureOp.dynamic_config_exposure call).create_exposure_sampling_key hashing
  | experiment_exposure call =>
    (EnqueueExposureOp.experiment_exposure call).create_exposure_sampling_key hashing
  | layer_param_exposure parameter_name call =>
    (EnqueueExposureOp.layer_param_exposure parameter_name call).create_exposure_sampling_key
      hashing
  | layer_param_exposure_from_partial_raw parameter_name trigger partial_raw exposure_time =>
    (EnqueueExposureOp.layer_param_exposure_from_partial_raw parameter_name trigger partial_raw
      exposure_time).create_exposure_sampling_key hashing

def into_event : ExposureOp → StatsigEvent
  | typed_gate op => op.into_event
  | typed_config op => op.into_event
  | typed_experiment op => op.into_event
  | typed_layer_param op => op.into_event
  | gate_exposure call => (EnqueueExposureOp.gate_exposure call).into_event
  | dynamic_config_exposure call => (EnqueueExposureOp.dynamic_config_exposure call).into_event
  | experiment_exposure call => (EnqueueExposureOp.experiment_exposure call).into_event
  | layer_param_exposure parameter_name call =>
    (EnqueueExposureOp.layer_param_exposure parameter_name call).into_event
  | layer_param_exposure_from_partial_raw parameter_name trigger partial_raw exposure_time =>
    (EnqueueExposureOp.layer_param_exposure_from_partial_raw parameter_name trigger partial_raw
      exposure_time).into_event

/-! ## What the object says -/

def kind : ExposureOp → ExposureKind
  | typed_gate _ | gate_exposure _ => .gate
  | typed_config op => .config op.config.evaluation.isSome
  | dynamic_config_exposure _ => .config true
  | typed_experiment _ | experiment_exposure _ => .config false
  | typed_layer_param _ | layer_param_exposure _ _
  | layer_param_exposure_from_partial_raw _ _ _ _ => .layer

/-- The name of the object. A typed gate has no object, only an evaluation. -/
def spec_name : ExposureOp → String
  | typed_gate op => (or_empty (op.evaluation.map (·.base.name))).text
  | typed_config op => op.config.name
  | typed_experiment op => op.experiment.name
  | typed_layer_param op => op.layer.name
  | gate_exposure call | dynamic_config_exposure call | experiment_exposure call
  | layer_param_exposure _ call => call.spec_name.text
  | layer_param_exposure_from_partial_raw _ _ partial_raw _ => partial_raw.name

/-- The rule id of the object. A layer may have one for the parameter alone. -/
def rule_id : ExposureOp → String
  | typed_gate op => (or_empty (op.evaluation.map (·.base.rule_id))).text
  | typed_config op => op.config.rule_id
  | typed_experiment op => op.experiment.rule_id
  | typed_layer_param op => op.rule_id
  | gate_exposure call | dynamic_config_exposure call | experiment_exposure call
  | layer_param_exposure _ call => (call.result.bind (·.rule_id)).getD ""
  | layer_param_exposure_from_partial_raw parameter_name _ partial_raw _ =>
    (EnqueueExposureOp.partial_raw_rule_id parameter_name partial_raw).getD ""

def detail : ExposureOp → Detail
  | typed_gate op => .flag (op.evaluation.any (·.value))
  | typed_config op => .flag (op.config.evaluation.any (·.passed))
  | typed_experiment op =>
    .flag (op.experiment.evaluation.any (·.is_user_in_experiment == some true))
  | typed_layer_param op => .parameter op.parameter_name
  | gate_exposure call | dynamic_config_exposure call => .flag (call.result.any (·.bool_value))
  | experiment_exposure call => .flag (call.result.any (·.is_experiment_group))
  | layer_param_exposure parameter_name _
  | layer_param_exposure_from_partial_raw parameter_name _ _ _ => .parameter parameter_name.text

end ExposureOp

def Detail.text : Detail → String
  | flag value => from_bool value
  | parameter name => name

/-- The exposure of a kind. -/
def Exposure.of (kind : ExposureKind) (spec_name rule_id : String) (detail : Detail) : Exposure :=
  match kind with
  | .gate =>
    { event_name := GATE_EXPOSURE_EVENT_NAME
      spec_name := some spec_name
      rule_id := some rule_id
      gate_value := some detail.text }
  | .config reports_rule_passed =>
    { event_name := CONFIG_EXPOSURE_EVENT_NAME
      spec_name := some spec_name
      rule_id := some rule_id
      rule_passed := if reports_rule_passed then some detail.text else none }
  | .layer =>
    { event_name := LAYER_EXPOSURE_EVENT_NAME
      spec_name := some spec_name
      rule_id := some rule_id
      parameter_name := some detail.text }

/-- Every operation logs what its object says. -/
theorem ExposureOp.exposure (op : ExposureOp) :
    op.into_event.exposure = .of op.kind op.spec_name op.rule_id op.detail := by
  cases op with
  | typed_gate op => exact op.exposure
  | typed_config op =>
    rw [into_event, op.exposure]
    cases h : op.config.evaluation with
    | none => simp [kind, spec_name, rule_id, h, Exposure.of]
    | some e => simp [kind, spec_name, rule_id, detail, h, Exposure.of, Detail.text]
  | typed_experiment op => exact op.exposure
  | typed_layer_param op => exact op.exposure
  | gate_exposure call => exact EnqueueExposureOp.gate_exposure_reports call
  | dynamic_config_exposure call => exact EnqueueExposureOp.dynamic_config_exposure_reports call
  | experiment_exposure call => exact EnqueueExposureOp.experiment_exposure_reports call
  | layer_param_exposure parameter_name call =>
    exact EnqueueExposureOp.layer_param_exposure_reports parameter_name call
  | layer_param_exposure_from_partial_raw parameter_name trigger partial_raw exposure_time =>
    exact EnqueueExposureOp.partial_raw_exposure_reports parameter_name trigger partial_raw
      exposure_time

/-- Two exposures are the same just when each field that they report is. -/
theorem Exposure.of_eq_iff {k k' : ExposureKind} {n n' r r' : String} {d d' : Detail} :
    Exposure.of k n r d = Exposure.of k' n' r' d' ↔
      k = k' ∧ n = n' ∧ r = r' ∧ (k ≠ .config false → d.text = d'.text) := by
  have hgc : GATE_EXPOSURE_EVENT_NAME ≠ CONFIG_EXPOSURE_EVENT_NAME := by decide
  have hgl : GATE_EXPOSURE_EVENT_NAME ≠ LAYER_EXPOSURE_EVENT_NAME := by decide
  have hcl : CONFIG_EXPOSURE_EVENT_NAME ≠ LAYER_EXPOSURE_EVENT_NAME := by decide
  cases k with
  | gate => cases k' <;> simp [Exposure.of, hgc, hgl]
  | config p =>
    cases k' with
    | gate => simp [Exposure.of, hgc.symm]
    | config p' => cases p <;> cases p' <;> simp [Exposure.of]
    | layer => simp [Exposure.of, hcl]
  | layer => cases k' <;> simp [Exposure.of, hgl.symm, hcl.symm]

/-! ## What the key says -/

namespace ExposureOp

/-- The name that the key hashes: for a typed operation the one of the evaluation. -/
def key_name : ExposureOp → Interned
  | typed_gate op => or_empty (op.evaluation.map (·.base.name))
  | typed_config op => or_empty (op.config.evaluation.map (·.base.name))
  | typed_experiment op => or_empty (op.experiment.evaluation.map (·.base.name))
  | typed_layer_param op => or_empty (op.layer.evaluation.map (·.base.name))
  | gate_exposure call | dynamic_config_exposure call | experiment_exposure call
  | layer_param_exposure _ call => call.spec_name
  | layer_param_exposure_from_partial_raw _ _ partial_raw _ => .stored partial_raw.name

def key_rule_id : ExposureOp → Interned
  | typed_gate op => or_empty (op.evaluation.map (·.base.rule_id))
  | typed_config op => or_empty (op.config.evaluation.map (·.base.rule_id))
  | typed_experiment op => or_empty (op.experiment.evaluation.map (·.base.rule_id))
  | typed_layer_param op => or_empty (op.layer.evaluation.map (·.base.rule_id))
  | gate_exposure call | dynamic_config_exposure call | experiment_exposure call
  | layer_param_exposure _ call => or_empty ((call.result.bind (·.rule_id)).map .stored)
  | layer_param_exposure_from_partial_raw parameter_name _ partial_raw _ =>
    or_empty ((EnqueueExposureOp.partial_raw_rule_id parameter_name partial_raw).map .stored)

/-- The strings that the key is made from. -/
def key_texts (op : ExposureOp) : List String :=
  [op.key_name.text, op.key_rule_id.text] ++
    match op.detail with
    | .parameter name => [name]
    | .flag _ => []

end ExposureOp

/-- All the hashes that stand for a text: the empty text is 0 as well. -/
def Hashing.hashes_of (hashing : Hashing) (text : String) : List UInt64 :=
  [hashing.hash_bytes text, hashing.ahash_str text] ++ if text = "" then [0] else []

/-- The string hashes are injective on the given texts. No 64-bit hash is injective on
all the strings there are, so this asks it of the strings at hand. -/
def Hashing.NoCollision (hashing : Hashing) (texts texts' : List String) : Prop :=
  ∀ s ∈ texts, ∀ t ∈ texts', ∀ hash ∈ hashing.hashes_of s, hash ∈ hashing.hashes_of t → s = t

instance (hashing : Hashing) (texts texts' : List String) :
    Decidable (hashing.NoCollision texts texts') :=
  -- decided along the lists: there are too many hashes to go through
  @List.decidableBAll _ _ (fun _ => @List.decidableBAll _ _ (fun _ =>
    @List.decidableBAll _ _ (fun _ => inferInstance) _) _) _

section Key

variable {hashing : Hashing}

theorem interned_mem_hashes (interned : Interned) :
    hashing.interned interned ∈ hashing.hashes_of interned.text := by
  cases interned with
  | empty => simp [Hashing.interned, Hashing.hashes_of]
  | stored text => simp [Hashing.interned, Hashing.hashes_of]

theorem Hashing.NoCollision.text_eq {texts texts' : List String}
    (h : hashing.NoCollision texts texts') {i j : Interned} (hi : i.text ∈ texts)
    (hj : j.text ∈ texts') (hash : hashing.interned i = hashing.interned j) :
    i.text = j.text := by
  apply h i.text hi j.text hj (hashing.interned i) (interned_mem_hashes i)
  rw [hash]
  exact interned_mem_hashes j

theorem key_spec_name (op : ExposureOp) :
    (op.create_exposure_sampling_key hashing).spec_name_hash = hashing.interned op.key_name := by
  cases op with
  | typed_gate op | typed_config op | typed_experiment op | typed_layer_param op =>
    exact congrArg (fun name => hashing.interned (or_empty name)) (Option.map_map _ _ _)
  | _ => rfl

theorem key_rule (op : ExposureOp) :
    (op.create_exposure_sampling_key hashing).rule_id_hash = hashing.interned op.key_rule_id := by
  cases op with
  | typed_gate op | typed_config op | typed_experiment op | typed_layer_param op =>
    exact congrArg (fun id => hashing.interned (or_empty id)) (Option.map_map _ _ _)
  | _ => rfl

/-- What stands for a detail in the key. -/
def Detail.hashed (hashing : Hashing) (hash : UInt64) : Detail → Prop
  | flag value => hash = value.toUInt64
  | parameter name => hash ∈ hashing.hashes_of name

theorem key_detail (op : ExposureOp) :
    op.detail.hashed hashing (op.create_exposure_sampling_key hashing).additional_hash := by
  cases op with
  | typed_layer_param op =>
    change hashing.ahash_str op.parameter_name ∈ _
    simp [Hashing.hashes_of]
  | layer_param_exposure parameter_name call => exact interned_mem_hashes parameter_name
  | layer_param_exposure_from_partial_raw parameter_name trigger partial_raw exposure_time =>
    exact interned_mem_hashes parameter_name
  | _ => rfl

theorem kind_eq_layer_iff (op : ExposureOp) :
    op.kind = .layer ↔ ∃ name, op.detail = .parameter name := by
  cases op <;> simp [ExposureOp.kind, ExposureOp.detail]

/-- Of two exposures of one kind, the key tells the details apart. -/
theorem detail_eq {a b : ExposureOp} (hhash : hashing.NoCollision a.key_texts b.key_texts)
    (hkind : a.kind = b.kind)
    (hkey : a.create_exposure_sampling_key hashing = b.create_exposure_sampling_key hashing) :
    a.detail.text = b.detail.text := by
  have ha : a.detail.hashed hashing (a.create_exposure_sampling_key hashing).additional_hash :=
    key_detail a
  have hb : b.detail.hashed hashing (a.create_exposure_sampling_key hashing).additional_hash := by
    rw [hkey]
    exact key_detail b
  have hlayer : (∃ name, a.detail = .parameter name) ↔ ∃ name, b.detail = .parameter name := by
    rw [← kind_eq_layer_iff, ← kind_eq_layer_iff, hkind]
  cases hda : a.detail with
  | flag x =>
    cases hdb : b.detail with
    | flag y =>
      rw [hda] at ha
      rw [hdb] at hb
      have hinj : ∀ x y : Bool, x.toUInt64 = y.toUInt64 → x = y := by decide
      rw [hinj x y (ha.symm.trans hb)]
    | parameter name => simp [hda, hdb] at hlayer
  | parameter name =>
    cases hdb : b.detail with
    | flag y => simp [hda, hdb] at hlayer
    | parameter name' =>
      rw [hda] at ha
      rw [hdb] at hb
      have hmem : name ∈ a.key_texts := by simp [ExposureOp.key_texts, hda]
      have hmem' : name' ∈ b.key_texts := by simp [ExposureOp.key_texts, hdb]
      exact hhash name hmem name' hmem' _ ha hb

end Key

/-! ## Where the key says as much as the event -/

namespace ExposureOp

/-- The key hashes the name of the object: there is an evaluation, and it has that
name. -/
def NameKeyed : ExposureOp → Prop
  | typed_config op => ∃ e, op.config.evaluation = some e ∧ e.base.name.text = op.config.name
  | typed_experiment op =>
    ∃ e, op.experiment.evaluation = some e ∧ e.base.name.text = op.experiment.name
  | typed_layer_param op => ∃ e, op.layer.evaluation = some e ∧ e.base.name.text = op.layer.name
  | _ => True

/-- The key hashes the rule id of the object: there is an evaluation, and it has that
rule id. -/
def RuleKeyed : ExposureOp → Prop
  | typed_config op =>
    ∃ e, op.config.evaluation = some e ∧ e.base.rule_id.text = op.config.rule_id
  | typed_experiment op =>
    ∃ e, op.experiment.evaluation = some e ∧ e.base.rule_id.text = op.experiment.rule_id
  | typed_layer_param op =>
    ∃ e, op.layer.evaluation = some e ∧ e.base.rule_id.text = op.rule_id
  | _ => True

theorem NameKeyed.text {op : ExposureOp} (h : op.NameKeyed) : op.key_name.text = op.spec_name := by
  cases op with
  | typed_config op | typed_experiment op | typed_layer_param op =>
    obtain ⟨e, he, hname⟩ := h
    simp [key_name, spec_name, he, hname]
  | _ => rfl

theorem RuleKeyed.text {op : ExposureOp} (h : op.RuleKeyed) :
    op.key_rule_id.text = op.rule_id := by
  cases op with
  | typed_config op | typed_experiment op | typed_layer_param op =>
    obtain ⟨e, he, hrule⟩ := h
    simp [key_rule_id, rule_id, he, hrule]
  | typed_gate op => rfl
  | _ => exact or_empty_text _

section Made

variable (user : UserData) (name : String) (outcome : EvaluationDetails × Option EvaluatorResult)
  (trigger : ExposureTrigger) (exposure_time : Nat)

/-- A config as it is made is in its key just when it was evaluated. -/
theorem made_config_keyed :
    let op := typed_config ⟨user, get_dynamic_config_impl name outcome, trigger, exposure_time⟩
    op.NameKeyed ∧ op.RuleKeyed ↔ outcome.2.isSome := by
  obtain ⟨details, _ | result⟩ := outcome
  · simp [NameKeyed, get_dynamic_config_impl, make_dynamic_config]
  · simp [NameKeyed, RuleKeyed, get_dynamic_config_impl, make_dynamic_config,
      result_to_dynamic_config_eval, result_to_base_eval]

theorem made_experiment_keyed :
    let op := typed_experiment ⟨user, get_experiment_impl name outcome, trigger, exposure_time⟩
    op.NameKeyed ∧ op.RuleKeyed ↔ outcome.2.isSome := by
  obtain ⟨details, _ | result⟩ := outcome
  · simp [NameKeyed, get_experiment_impl, make_experiment]
  · simp [NameKeyed, RuleKeyed, get_experiment_impl, make_experiment,
      result_to_experiment_eval, result_to_base_eval]

/-- A layer is in its key just when it was evaluated and the parameter has no rule id
of its own other than the layer's. -/
theorem made_layer_keyed (disable_exposure : Bool) (parameter_name : String) :
    let layer := get_layer_impl user name disable_exposure outcome
    let op := typed_layer_param ⟨exposure_time, layer, parameter_name, trigger⟩
    op.NameKeyed ∧ op.RuleKeyed ↔ outcome.2.isSome ∧
      ∀ id, layer.parameter_rule_ids.bind (·.get parameter_name) = some id →
        id = layer.rule_id := by
  obtain ⟨details, _ | result⟩ := outcome
  · simp [NameKeyed, get_layer_impl, make_layer]
  · simp only [NameKeyed, RuleKeyed, EnqueueLayerParamExpoOp.rule_id, get_layer_impl, make_layer,
      result_to_layer_eval, result_to_base_eval, Option.map_some, Option.bind_some,
      Option.some.injEq, exists_eq_left', get_exposure_name_text, create_suffixed_rule_id_text,
      true_and, Option.isSome_some]
    cases result.parameter_rule_ids with
    | none => simp
    | some ids =>
      cases h : HashMap.get ids parameter_name with
      | none => simp [h]
      | some id => simp [h, eq_comm]

end Made

/-- What two operations with one key must still have in common: the kind of exposure,
and what is said of a name or a rule id that the key of one of them leaves out. -/
structure SameBesidesKey (a b : ExposureOp) : Prop where
  kind : a.kind = b.kind
  name : ¬ (a.NameKeyed ∧ b.NameKeyed) → a.spec_name = b.spec_name
  rule : ¬ (a.RuleKeyed ∧ b.RuleKeyed) → a.rule_id = b.rule_id

end ExposureOp

/-- Two operations with one key log the same exposure just when they are of one kind
and agree on every name and rule id that is not in the key. -/
theorem deduped_exposures_agree_iff (hashing : Hashing) (a b : ExposureOp)
    (hhash : hashing.NoCollision a.key_texts b.key_texts)
    (hkey : a.create_exposure_sampling_key hashing = b.create_exposure_sampling_key hashing) :
    a.into_event.exposure = b.into_event.exposure ↔ a.SameBesidesKey b := by
  rw [a.exposure, b.exposure, Exposure.of_eq_iff]
  constructor
  · rintro ⟨hkind, hname, hrule, -⟩
    exact ⟨hkind, fun _ => hname, fun _ => hrule⟩
  · rintro ⟨hkind, hname, hrule⟩
    refine ⟨hkind, ?_, ?_, fun _ => detail_eq hhash hkind hkey⟩
    · by_cases hkeyed : a.NameKeyed ∧ b.NameKeyed
      · rw [← hkeyed.1.text, ← hkeyed.2.text]
        apply hhash.text_eq (by simp [ExposureOp.key_texts]) (by simp [ExposureOp.key_texts])
        rw [← key_spec_name, ← key_spec_name, hkey]
      · exact hname hkeyed
    · by_cases hkeyed : a.RuleKeyed ∧ b.RuleKeyed
      · rw [← hkeyed.1.text, ← hkeyed.2.text]
        apply hhash.text_eq (by simp [ExposureOp.key_texts]) (by simp [ExposureOp.key_texts])
        rw [← key_rule, ← key_rule, hkey]
      · exact hrule hkeyed

/-- A hash for the examples: the number of characters. -/
def Hashing.by_length : Hashing where
  ahash_str text := UInt64.ofNat (text.length + 100)
  hash_bytes text := UInt64.ofNat (text.length + 2)
  hash_one hashes := hashes.foldl (fun acc hash => 31 * acc + hash) 7
  hash_value _ := 5
  to_lowercase text := text.toLower

/-- A gate that is checked and then logged by hand is one exposure. -/
theorem checked_and_manual_gate_agree :
    let result : EvaluatorResult :=
      { name := some "checkout"
        rule_id := some "on"
        bool_value := true
        id_type := some "userID" }
    let details : EvaluationDetails := { reason := "Network:Recognized" }
    let checked : ExposureOp := .typed_gate
      ⟨{}, "checkout", some (result_to_gate_eval "checkout" result), details, .Auto, 0⟩
    let by_hand : ExposureOp :=
      .gate_exposure ⟨{}, .from_str_ref "checkout", .Manual, details, some result, 1⟩
    checked.into_event.exposure = by_hand.into_event.exposure := by
  intro result details checked by_hand
  apply (deduped_exposures_agree_iff Hashing.by_length checked by_hand ?_ ?_).mpr
  · exact ⟨rfl, fun h => absurd ⟨trivial, trivial⟩ h, fun h => absurd ⟨trivial, trivial⟩ h⟩
  · decide +kernel
  · decide +kernel

/-- Two configs whose evaluations fail have one key: the second is not logged. -/
theorem failed_configs_are_deduped :
    ¬ ∀ (hashing : Hashing) (a b : ExposureOp),
      hashing.NoCollision a.key_texts b.key_texts →
      a.create_exposure_sampling_key hashing = b.create_exposure_sampling_key hashing →
      a.into_event.exposure = b.into_event.exposure := by
  intro h
  let failed : EvaluationDetails × Option EvaluatorResult :=
    (.error (StatsigErr.to_string .StackOverflowError), none)
  let checkout : ExposureOp :=
    .typed_config ⟨{}, get_dynamic_config_impl "checkout" failed, .Auto, 0⟩
  let pricing : ExposureOp :=
    .typed_config ⟨{}, get_dynamic_config_impl "pricing" failed, .Auto, 0⟩
  have hsame := h Hashing.by_length checkout pricing (by decide +kernel) (by decide +kernel)
  exact absurd hsame (by decide +kernel)

end statsig_rust.event_logging
