-- The delegates of the sticky values that layers save. Enforcement re-evaluates the
-- delegate of a stored value, and honors a value that has none. The typed path saves a
-- value only for a layer that is allocated to an experiment. The raw path does not ask.
-- Whether a layer is allocated is told from the rules that decide on the way.
import Mathlib.Data.List.Induction
import StatsigCore.Evaluation.Course
import StatsigCore.Library.Machine
import StatsigCore.PersistentStorage.StickyAgreement

open machine

namespace statsig_rust.persistent_storage

open evaluation

/-! ## The last decision of an evaluation -/

/-- The last value that the events give a field. -/
def last_set {α : Type} (sets : Event → Option α) (events : List Event) : Option α :=
  events.reverse.findSome? sets

/-- Whether the event puts the user in a group: the rule that decides says so, and a merged layer
keeps it from the rule that delegated. -/
def sets_group : Event → Option Bool
  | .decides _ rule => some (rule.is_experiment_group.getD false)
  | .merges _ s => some s.is_experiment_group
  | .overrides result => some result.is_experiment_group
  | .resets => some false
  | _ => none

/-- Whether the event says that the experiment is active. A spec that has no such flag says so
only where it decides. -/
def sets_active : Event → Option Bool
  | .begins _ spec => spec.is_active
  | .decides spec _ | .merges spec _ => some (spec.is_active.getD false)
  | .enters cmab => some cmab.enabled
  | .overrides result => some result.is_experiment_active
  | .resets => some false
  | _ => none

/-- The delegate that the event gives: the one of a rule whose delegate the specs have. -/
def sets_delegate : Event → Option (Option InternedString)
  | .accepts rule => some rule.config_delegate
  | .merges _ s => some s.delegate_name
  | .overrides result => some result.config_delegate
  | .resets => some none
  | _ => none

/-- A field that each event sets or keeps has the last value that it was given. -/
theorem field_after {α : Type} {field : Marks → α} {sets : Event → Option α}
    (h : ∀ m event, field (m.apply event) = (sets event).getD (field m)) (m : Marks)
    (events : List Event) : field (m.after events) = (last_set sets events).getD (field m) := by
  induction events using List.reverseRecOn with
  | nil => rfl
  | append_singleton events event ih =>
    have hlast : last_set sets (events ++ [event]) = (sets event).or (last_set sets events) := by
      unfold last_set
      rw [List.reverse_append, List.findSome?_append]
      cases hsets : sets event <;> simp [hsets]
    rw [Marks.after_append, Marks.after_cons, Marks.after_nil, h, ih, hlast]
    cases sets event <;> rfl

theorem apply_asks (m : Marks) (gate : InternedString) (rule_id : Option InternedString)
    (fresh : Bool) : m.apply (.asks gate rule_id fresh) =
      { m with has_seen_analytical_gates :=
          (m.apply (.asks gate rule_id fresh)).has_seen_analytical_gates } := by
  dsimp only [Marks.apply]
  split <;> rfl

theorem group_after (m : Marks) (events : List Event) : (m.after events).is_experiment_group =
    (last_set sets_group events).getD m.is_experiment_group := by
  refine field_after (fun m event => ?_) m events
  cases event with
  | asks gate rule_id fresh =>
    rw [apply_asks]
    rfl
  | _ => rfl

theorem active_after (m : Marks) (events : List Event) : (m.after events).is_experiment_active =
    (last_set sets_active events).getD m.is_experiment_active := by
  refine field_after (fun m event => ?_) m events
  cases event with
  | asks gate rule_id fresh =>
    rw [apply_asks]
    rfl
  | _ => rfl

theorem delegate_after (m : Marks) (events : List Event) : (m.after events).config_delegate =
    (last_set sets_delegate events).getD m.config_delegate := by
  refine field_after (fun m event => ?_) m events
  cases event with
  | asks gate rule_id fresh =>
    rw [apply_asks]
    rfl
  | _ => rfl

/-! ## Layer calls -/

inductive LayerPath where
  | get_layer | use_raw_layer
deriving DecidableEq

/-- The storage, by key and config name. -/
abbrev Storage := HashMap (String × String) StickyValues

/-- A call for a layer. `data` is what the read lock of the evaluation gives, and
`locked` says whether the second one, for the sticky values, is acquired. The caller
may have read the storage, so the options depend on it. -/
structure LayerCall where
  path : LayerPath
  env : EvaluatorEnv
  depth : Nat
  data : Option SpecStoreData
  layer_name : String
  options : Storage → LayerEvaluationOptions
  manager : Bool
  locked : Bool
  reeval : StickyReeval
  now : Nat

namespace LayerCall

variable (to_lowercase : String → String)

/-- The operation that a call issues once the layer is evaluated: `get_layer_impl` and
`use_raw_layer_with_options`. -/
def issue (call : LayerCall) (options : LayerEvaluationOptions)
    (outcome : EvaluationDetails × Option EvaluatorResult) : Option StorageOp :=
  if !call.locked then none
  else
    match call.path with
    | .get_layer =>
      (try_apply_sticky_value_to_layer to_lowercase call.now call.env.user call.manager options
        call.env.specs_data
        (get_layer_impl call.env.user.data call.layer_name options.disable_exposure_logging outcome)
        call.reeval).2
    | .use_raw_layer =>
      (try_apply_sticky_value_to_raw_layer to_lowercase call.now call.env.user call.manager options
        call.env.specs_data outcome.1 outcome.2 call.reeval).2

/-- The outcome of the evaluation, if the stack has room for it. -/
def evaluated (call : LayerCall) : Option (EvaluationDetails × Option EvaluatorResult) :=
  evaluate_spec_raw call.env call.depth call.data call.layer_name .Layer

/-- What is decided on the way of the evaluation. -/
def course (call : LayerCall) : List Event :=
  evaluate_course call.env call.depth call.layer_name .Layer {}

end LayerCall

/-! ## Runs -/

/-- What is stored, and what the layer paths have issued. -/
structure StickyRun where
  stored : Storage := []
  issued : List StorageOp := []

/-- A call for a layer, or an operation on the storage from anywhere else. -/
inductive StickyAction where
  | layer (call : LayerCall)
  | elsewhere (op : StorageOp)

def StorageOp.apply (stored : Storage) : StorageOp → Storage
  | delete key config_name => stored.remove (key, config_name)
  | save key config_name data => stored.insert (key, config_name) data

def StickyRun.step (to_lowercase : String → String) (run : StickyRun) :
    StickyAction → Option StickyRun
  | .layer call => do
    let outcome ← call.evaluated
    match call.issue to_lowercase (call.options run.stored) outcome with
    | none => some run
    | some op => some { stored := op.apply run.stored, issued := run.issued ++ [op] }
  | .elsewhere op => some { run with stored := op.apply run.stored }

/-- A save has a delegate, and its name is not empty. -/
def StorageOp.delegated : StorageOp → Bool
  | delete _ _ => true
  | save _ _ data => data.config_delegate.any (· ≠ "")

/-- Every save of the layer paths has a delegate. -/
def StickyRun.Delegated (run : StickyRun) : Prop := ∀ op ∈ run.issued, op.delegated = true

/-- The name that a value of the layer is stored under: the one of the first spec that begins. -/
def stored_name (events : List Event) : Option InternedString := (Marks.after {} events).name

/-- The storage key of the user, for the id type of the spec. -/
def storage_key_after (to_lowercase : String → String) (user : StatsigUserInternal)
    (events : List Event) : Option String :=
  match (Marks.after {} events).id_type, stored_name events with
  | some id_type, some _ => get_persistent_storage_key to_lowercase user id_type
  | _, _ => none

/-- The call looks for a sticky value of the layer, and the values that it is given have none. -/
structure Unrecorded (to_lowercase : String → String) (call : LayerCall)
    (options : LayerEvaluationOptions) : Prop where
  locked : call.locked = true
  manager : call.manager = true
  key : (storage_key_after to_lowercase call.env.user call.course).isSome
  values : ∃ values, options.user_persisted_values = some values ∧
    values.get ((stored_name call.course).getD "") = none

/-- The rule that decided last leaves the user out of the groups, or the spec that said so last
is not active, or the last delegate has a name. -/
def AllocatesGroups (events : List Event) : Prop :=
  last_set sets_group events = some true → last_set sets_active events = some true →
    ∃ delegate, last_set sets_delegate events = some (some delegate) ∧ delegate ≠ ""

/-- A raw call whose evaluation succeeds, for a user without a sticky value, has its group from an
experiment that the layer is allocated to. -/
def Allocated (to_lowercase : String → String) (run : StickyRun) : StickyAction → Prop
  | .elsewhere _ => True
  | .layer call =>
    call.path = .use_raw_layer → (∃ details result, call.evaluated = some (details, some result)) →
      Unrecorded to_lowercase call (call.options run.stored) → AllocatesGroups call.course

/-! ## One call -/

/-- A value is recorded for a user in a group of an active experiment who has a key and no value. -/
theorem Request.branch_record_iff (request : Request) (values : Option UserPersistedValues) :
    request.branch values = .record ↔ request.storage_key.isSome = true ∧
      (∃ found, values = some found ∧ found.get request.config_name = none) ∧
      request.active none = true ∧ request.in_group = true := by
  unfold Request.branch
  cases request.storage_key with
  | none => simp
  | some key =>
    cases values with
    | none => simp
    | some values =>
      cases hget : values.get request.config_name with
      | none =>
        cases hactive : request.active none with
        | false => simp [hget, hactive]
        | true => simp [hget, hactive]
      | some found =>
        have hreplays : ∀ b : Bool, (if b then Branch.replay found else .live) ≠ .record := by
          intro b
          cases b <;> simp
        cases hactive : request.active (some found) with
        | false => simp [hget, hactive]
        | true => simp [hget, hactive, hreplays]

/-- What the protocol issues is delegated just when a value that it records is. -/
theorem Request.issued_delegated_iff {α : Type} (request : Request)
    (values : Option UserPersistedValues) (live : α) (from_sticky : StickyValues → α)
    (fresh : Option StickyValues) :
    (∀ op, (request.answer values live from_sticky fresh).2 = some op → op.delegated = true) ↔
      (request.branch values = .record →
        ∀ new, fresh = some new → new.config_delegate.any (· ≠ "") = true) := by
  unfold Request.answer
  cases hb : request.branch values with
  | live => simp
  | replay found => simp
  | drop =>
    obtain ⟨key, hk⟩ := Request.storage_key_of_branch request values (by simp [hb])
    simp [hk, StorageOp.delegated]
  | record =>
    obtain ⟨key, hk⟩ := Request.storage_key_of_branch request values (by simp [hb])
    cases fresh with
    | none => simp [hk]
    | some new => simp [hk, StorageOp.delegated]

section Call

variable {to_lowercase : String → String} {call : LayerCall} {options : LayerEvaluationOptions}
  {details : EvaluationDetails} {result : Option EvaluatorResult}

/-- What the typed path issues is delegated: the layer is in a group only with a
delegate. -/
theorem typed_issue_delegated (hpath : call.path = .get_layer) (op : StorageOp)
    (h : call.issue to_lowercase options (details, result) = some op) : op.delegated = true := by
  have hissue : call.issue to_lowercase options (details, result) =
      if call.locked then
        (typed_layer to_lowercase call.now call.env.user call.layer_name options
          call.env.specs_data call.reeval details call.manager options.disable_exposure_logging
          result).2
      else none := by
    unfold LayerCall.issue
    rw [hpath]
    cases call.locked <;> rfl
  rw [hissue] at h
  split at h
  · rw [typed_layer_eq] at h
    refine (Request.issued_delegated_iff _ _ _ _ _).mpr ?_ op h
    intro hrecord new hnew
    have hgroup := Request.in_group_of_record hrecord
    cases result with
    | none => simp [typed_layer_request] at hgroup
    | some live =>
      simp only [typed_layer_request, Option.any_some, Bool.and_eq_true, has_delegate] at hgroup
      obtain rfl := Option.some.inj hnew
      simpa [get_layer_impl, make_layer, result_to_layer_eval] using hgroup.1
  · cases h

/-- What the raw path issues is delegated just when a result that it records has a
delegate. -/
theorem raw_issue_delegated_iff (hpath : call.path = .use_raw_layer)
    (hlocked : call.locked = true) :
    (∀ op, call.issue to_lowercase options (details, result) = some op → op.delegated = true) ↔
      ∀ live, result = some live →
        (raw_layer_request to_lowercase call.env.user options call.env.specs_data call.reeval
          call.manager (some live)).branch options.user_persisted_values = .record →
        has_delegate live = true := by
  have hissue : call.issue to_lowercase options (details, result) =
      (raw_layer to_lowercase call.now call.env.user call.layer_name options call.env.specs_data
        call.reeval details call.manager options.disable_exposure_logging result).2 := by
    unfold LayerCall.issue
    rw [hpath, hlocked]
    rfl
  rw [hissue, raw_layer_eq, Request.issued_delegated_iff]
  cases result with
  | none => simp
  | some live =>
    simp [make_sticky_value_from_evaluation_result, has_delegate]

/-- The result of an evaluation has the marks of its course. -/
theorem marks_of_evaluated {live : EvaluatorResult}
    (h : call.evaluated = some (details, some live)) :
    Marks.of_result live = Marks.after {} call.course := by
  have hdocumented := evaluate_documented call.env call.depth call.layer_name .Layer {}
  unfold LayerCall.evaluated evaluate_spec_raw at h
  unfold Documents at hdocumented
  cases hdata : call.data with
  | none => simp [hdata] at h
  | some data =>
    rw [hdata] at h
    cases hrun : evaluate call.env call.depth call.layer_name .Layer {} with
    | ok recognition ctx =>
      simp only [hrun, Option.some.injEq, Prod.mk.injEq] at h
      rw [hrun, program.meets_ok] at hdocumented
      rw [← h.2]
      exact hdocumented
    | err e ctx => simp [hrun] at h
    | deep => simp [hrun] at h

/-- A raw call records the group of an active experiment, when it has no value for it yet. -/
theorem raw_records_iff {live : EvaluatorResult} (hlocked : call.locked = true)
    (h : call.evaluated = some (details, some live)) :
    (raw_layer_request to_lowercase call.env.user options call.env.specs_data call.reeval
        call.manager (some live)).branch options.user_persisted_values = .record ↔
      Unrecorded to_lowercase call options ∧ last_set sets_group call.course = some true ∧
        last_set sets_active call.course = some true := by
  have hmarks := marks_of_evaluated h
  have hname : live.name = stored_name call.course := congrArg Marks.name hmarks
  have hid : live.id_type = (Marks.after {} call.course).id_type := congrArg Marks.id_type hmarks
  have hgroup : live.is_experiment_group = (last_set sets_group call.course).getD false :=
    (congrArg Marks.is_experiment_group hmarks).trans (group_after {} call.course)
  have hactive : live.is_experiment_active = (last_set sets_active call.course).getD false :=
    (congrArg Marks.is_experiment_active hmarks).trans (active_after {} call.course)
  have hkey : raw_storage_key_of to_lowercase call.env.user call.manager (some live) =
      if call.manager then storage_key_after to_lowercase call.env.user call.course else none := by
    unfold raw_storage_key_of storage_key_after raw_storage_key
    rw [← hname, ← hid]
    rfl
  rw [Request.branch_record_iff]
  simp only [raw_layer_request, hkey, hgroup, hactive, Option.any_some, Option.bind_some, hname,
    sticky_aware_none, Option.getD_eq_iff, Bool.false_eq_true, and_false, or_false]
  constructor
  · rintro ⟨hsome, hvalues, hisactive, hingroup⟩
    cases hmanager : call.manager with
    | false => simp [hmanager] at hsome
    | true =>
      exact ⟨⟨hlocked, hmanager, by simpa [hmanager] using hsome, hvalues⟩, hingroup, hisactive⟩
  · rintro ⟨⟨-, hmanager, hsome, hvalues⟩, hingroup, hisactive⟩
    exact ⟨by simpa [hmanager] using hsome, hvalues, hisactive, hingroup⟩

/-- The result has a delegate just when the last one that the course gives has a name. -/
theorem has_delegate_iff {live : EvaluatorResult}
    (h : call.evaluated = some (details, some live)) :
    has_delegate live = true ↔
      ∃ delegate, last_set sets_delegate call.course = some (some delegate) ∧ delegate ≠ "" := by
  have hdelegate : live.config_delegate = (last_set sets_delegate call.course).getD none :=
    (congrArg Marks.config_delegate (marks_of_evaluated h)).trans (delegate_after {} call.course)
  unfold has_delegate
  rw [hdelegate]
  cases last_set sets_delegate call.course with
  | none => simp
  | some delegate => cases delegate <;> simp

/-- What a raw call issues is delegated just when the layer is allocated. -/
theorem raw_issue_allocated_iff (hpath : call.path = .use_raw_layer)
    (h : call.evaluated = some (details, result)) :
    (∀ op, call.issue to_lowercase options (details, result) = some op → op.delegated = true) ↔
      ((∃ details result, call.evaluated = some (details, some result)) →
        Unrecorded to_lowercase call options → AllocatesGroups call.course) := by
  cases result with
  | none =>
    refine iff_of_true (fun op hop => ?_) fun hsome => ?_
    · cases hlocked : call.locked with
      | false => simp [LayerCall.issue, hlocked] at hop
      | true =>
        refine (raw_issue_delegated_iff hpath hlocked).mpr (fun live hnone => ?_) op hop
        cases hnone
    · obtain ⟨details', result, hsome⟩ := hsome
      simp [h] at hsome
  | some live =>
    cases hlocked : call.locked with
    | false =>
      refine iff_of_true (fun op hop => ?_) fun _ hlook => ?_
      · simp [LayerCall.issue, hlocked] at hop
      · simp [hlook.locked] at hlocked
    | true =>
      rw [raw_issue_delegated_iff hpath hlocked]
      unfold AllocatesGroups
      rw [← has_delegate_iff h]
      constructor
      · intro hall _ hlook hgroup hactive
        exact hall live rfl ((raw_records_iff hlocked h).mpr ⟨hlook, hgroup, hactive⟩)
      · rintro hall _ hlive hrecord
        obtain rfl := Option.some.inj hlive
        obtain ⟨hlook, hgroup, hactive⟩ := (raw_records_iff hlocked h).mp hrecord
        exact hall ⟨details, live, h⟩ hlook hgroup hactive

end Call

/-! ## Whole runs -/

variable {to_lowercase : String → String}

/-- After a layer call the saves are delegated just when the one that it issued is. -/
theorem layer_step_delegated_iff {run run' : StickyRun} {call : LayerCall}
    {outcome : EvaluationDetails × Option EvaluatorResult} (hrun : run.Delegated)
    (houtcome : call.evaluated = some outcome)
    (hstep : run.step to_lowercase (.layer call) = some run') :
    run'.Delegated ↔ ∀ op, call.issue to_lowercase (call.options run.stored) outcome = some op →
      op.delegated = true := by
  simp only [StickyRun.step, houtcome, Option.bind_eq_bind, Option.bind_some] at hstep
  cases hissue : call.issue to_lowercase (call.options run.stored) outcome with
  | none =>
    rw [hissue] at hstep
    obtain rfl := Option.some.inj hstep
    exact iff_of_true hrun fun op h => nomatch h
  | some op =>
    rw [hissue] at hstep
    obtain rfl := Option.some.inj hstep
    unfold StickyRun.Delegated
    constructor
    · intro hall op' hop
      apply hall
      rw [Option.some.inj hop]
      simp
    · intro hop op' hmem
      rcases List.mem_append.mp hmem with hmem | hmem
      · exact hrun op' hmem
      · rw [List.mem_singleton.mp hmem]
        exact hop op rfl

/-- A step keeps the saves delegated just when it is allocated. -/
theorem step_delegated_iff {run run' : StickyRun} {action : StickyAction}
    (hrun : run.Delegated) (hstep : run.step to_lowercase action = some run') :
    run'.Delegated ↔ Allocated to_lowercase run action := by
  cases action with
  | elsewhere op =>
    obtain rfl := Option.some.inj hstep
    exact iff_of_true hrun trivial
  | layer call =>
    obtain ⟨⟨details, result⟩, houtcome, -⟩ := Option.bind_eq_some_iff.mp hstep
    rw [layer_step_delegated_iff hrun houtcome hstep]
    cases hpath : call.path with
    | get_layer =>
      refine iff_of_true (fun op h => typed_issue_delegated hpath op h) fun hraw => ?_
      simp [hpath] at hraw
    | use_raw_layer =>
      rw [raw_issue_allocated_iff hpath houtcome]
      exact ⟨fun hall _ => hall, fun hall => hall hpath⟩

/-- In every state of a run every save of a layer has a delegate, just when the raw calls of the
run for users without a sticky value have their groups from allocated experiments. -/
theorem layer_saves_are_delegated_iff (to_lowercase : String → String)
    (actions : List StickyAction) :
    (∀ n run, machine.run (StickyRun.step to_lowercase) {} (actions.take n) = some run →
        run.Delegated) ↔
      Along (StickyRun.step to_lowercase) (Allocated to_lowercase) {} actions := by
  apply invariant_iff_along (I := StickyRun.Delegated)
  · intro run action run' hrun hstep
    exact step_delegated_iff hrun hstep
  · intro run action hrefused
    cases action with
    | elsewhere op => trivial
    | layer call =>
      rintro _ ⟨details, result, houtcome⟩
      simp only [StickyRun.step, houtcome, Option.bind_eq_bind, Option.bind_some] at hrefused
      split at hrefused <;> cases hrefused
  · intro op hop
    cases hop

/-- A layer whose experiment is no longer among the specs. -/
def SpecsResponseFull.orphaned : SpecsResponseFull where
  condition_map := [("everyone", .everyone)]
  layer_configs := [("layer", {
    is_active := some true
    rules := [{
      id := "allocation"
      conditions := ["everyone"]
      is_experiment_group := some true
      config_delegate := some "experiment" }] })]

/-- A raw call for such a layer saves a value without a delegate. -/
theorem orphaned_layer_is_saved_without_delegate :
    ¬ ∀ (to_lowercase : String → String) (actions : List StickyAction) (run : StickyRun),
      machine.run (StickyRun.step to_lowercase) {} actions = some run → run.Delegated := by
  intro h
  let user : StatsigUserInternal :=
    { data := { user_id := some { string_value := some ⟨"ada", "ada"⟩ } } }
  let call : LayerCall :=
    { path := .use_raw_layer
      env := { EvaluatorEnv.plain SpecsResponseFull.orphaned with user }
      depth := 3
      data := some ⟨.Network, 1, none⟩
      layer_name := "layer"
      options := fun _ => { user_persisted_values := some [] }
      manager := true
      locked := true
      reeval := fun _ _ _ => false
      now := 0 }
  have hrun : ((machine.run (StickyRun.step String.toLower) {} [.layer call]).map
      fun run => run.issued.map StorageOp.delegated) = some [false] := by decide +kernel
  obtain ⟨run, hrun, hissued⟩ := Option.map_eq_some_iff.mp hrun
  have hall := h String.toLower [.layer call] run hrun
  have hmem : false ∈ run.issued.map StorageOp.delegated := by simp [hissued]
  obtain ⟨op, hop, hfalse⟩ := List.mem_map.mp hmem
  rw [hall op hop] at hfalse
  cases hfalse

end statsig_rust.persistent_storage
