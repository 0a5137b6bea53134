-- A storage and the calls that use it. The first call that finds its user in a group records
-- it, and the user keeps it over all later calls, whatever the specs have become, until a call
-- drops it. The calls may be of any of the four paths, for any users, experiments and layers.
import StatsigCore.Library.Machine
import StatsigCore.PersistentStorage.StickyAgreement

open machine

namespace statsig_rust.persistent_storage

open evaluation

/-! ## The storage -/

/-- What a storage holds, by storage key and config name. The storage belongs to the caller, and
does what its `save` and `delete` say. -/
abbrev CallerStorage := String → String → Option StickyValues

def CallerStorage.put (storage : CallerStorage) (key config_name : String)
    (held : Option StickyValues) :
    CallerStorage := fun key' config_name' =>
  if key' = key ∧ config_name' = config_name then held else storage key' config_name'

def CallerStorage.apply (storage : CallerStorage) : Option StorageOp → CallerStorage
  | none => storage
  | some (.save key config_name data) => storage.put key config_name (some data)
  | some (.delete key config_name) => storage.put key config_name none

@[simp] theorem CallerStorage.put_self (storage : CallerStorage) (key config_name : String)
    (held : Option StickyValues) : storage.put key config_name held key config_name = held :=
  if_pos ⟨rfl, rfl⟩

theorem CallerStorage.put_other (storage : CallerStorage)
    {key config_name key' config_name' : String} (held : Option StickyValues)
    (h : ¬ (key' = key ∧ config_name' = config_name)) :
    storage.put key config_name held key' config_name' = storage key' config_name' := if_neg h

/-! ## The calls -/

/-- The four ways to ask for an experiment or a layer. -/
inductive Path where
  | Experiment | Layer | RawExperiment | RawLayer
deriving DecidableEq

/-- One call, and what its evaluation gave. -/
structure Call where
  path : Path
  user : StatsigUserInternal
  name : String
  options : ExperimentEvaluationOptions := {}
  /-- The specs at the time of the call, and how they re-evaluate a part of the rules. -/
  specs_data : SpecsResponseFull := {}
  reeval : StickyReeval := fun _ _ _ => false
  now : Nat := 0
  details : EvaluationDetails
  result : Option EvaluatorResult

namespace Call

variable (to_lowercase : String → String) (call : Call)

/-- What the caller sees, and the operation that is issued. -/
def answer : View × Option StorageOp :=
  match call.path with
  | .Experiment => typed_experiment to_lowercase call.now call.user call.name call.options
      call.reeval call.details true call.result
  | .Layer => typed_layer to_lowercase call.now call.user call.name call.options call.specs_data
      call.reeval call.details true call.options.disable_exposure_logging call.result
  | .RawExperiment => raw_experiment to_lowercase call.now call.user call.name call.options
      call.reeval call.details true call.result
  | .RawLayer => raw_layer to_lowercase call.now call.user call.name call.options call.specs_data
      call.reeval call.details true call.options.disable_exposure_logging call.result

def request : Request :=
  match call.path with
  | .Experiment =>
    typed_experiment_request to_lowercase call.user call.name call.options call.reeval true
      call.result
  | .Layer =>
    typed_layer_request to_lowercase call.user call.name call.options call.specs_data call.reeval
      true call.result
  | .RawExperiment =>
    raw_experiment_request to_lowercase call.user call.options call.reeval true call.result
  | .RawLayer =>
    raw_layer_request to_lowercase call.user call.options call.specs_data call.reeval true
      call.result

/-- What the caller sees of the evaluation itself. -/
def live : View :=
  match call.path with
  | .Experiment | .Layer => typed_live call.result
  | .RawExperiment | .RawLayer => raw_live call.result

/-- The value that a recording call saves. -/
def fresh : Option StickyValues :=
  match call.path with
  | .Experiment => make_sticky_value_from_experiment
      (get_experiment_impl call.name (call.details, call.result))
  | .Layer => make_sticky_value_from_layer (get_layer_impl call.user.data call.name
      call.options.disable_exposure_logging (call.details, call.result))
  | .RawExperiment | .RawLayer =>
    call.result.map (make_sticky_value_from_evaluation_result · call.details.lcut)

theorem answer_eq : call.answer to_lowercase =
    (call.request to_lowercase).answer call.options.user_persisted_values call.live
      View.of_sticky call.fresh := by
  obtain ⟨path, user, name, options, specs_data, reeval, now, details, result⟩ := call
  cases path with
  | Experiment => exact typed_experiment_eq
  | Layer => exact typed_layer_eq
  | RawExperiment => exact raw_experiment_eq
  | RawLayer => exact raw_layer_eq

/-- The call is about this value of the storage. -/
def About (key config_name : String) : Prop :=
  (call.request to_lowercase).storage_key = some key ∧
    (call.request to_lowercase).config_name = config_name

/-- The call wants no sticky value, or finds that the experiment behind it is not active. -/
def Drops (found : StickyValues) : Prop :=
  call.options.user_persisted_values = none ∨
    (call.request to_lowercase).active (some found) = false

/-- The call passes what the storage holds of its user and config. -/
def Current (storage : CallerStorage) : Prop :=
  ∀ key, (call.request to_lowercase).storage_key = some key →
    ∀ values ∈ call.options.user_persisted_values,
      HashMap.get values (call.request to_lowercase).config_name =
        storage key (call.request to_lowercase).config_name

end Call

/-- One call after the other. No call is refused. -/
def step (to_lowercase : String → String) (storage : CallerStorage) (call : Call) :
    Option CallerStorage :=
  some (storage.apply (call.answer to_lowercase).2)

/-! ## One call -/

section Step

variable {to_lowercase : String → String} {storage storage' : CallerStorage} {call : Call}
  {key config_name : String} {found : StickyValues}

/-- A call issues nothing, or one operation on the value that it is about. -/
theorem op_cases (to_lowercase : String → String) (call : Call) :
    (call.answer to_lowercase).2 = none ∨
      ∃ key, (call.request to_lowercase).storage_key = some key ∧
        ((call.answer to_lowercase).2 =
            some (.delete key (call.request to_lowercase).config_name) ∨
          ∃ new, call.fresh = some new ∧
            (call.request to_lowercase).branch call.options.user_persisted_values = .record ∧
            (call.answer to_lowercase).2 =
              some (.save key (call.request to_lowercase).config_name new)) := by
  rw [call.answer_eq to_lowercase]
  unfold Request.answer
  cases hbranch : (call.request to_lowercase).branch call.options.user_persisted_values with
  | live => exact .inl rfl
  | replay found => exact .inl rfl
  | drop =>
    obtain ⟨key, hkey⟩ := Request.storage_key_of_branch _ _
      (show (call.request to_lowercase).branch call.options.user_persisted_values ≠ .live by
        simp [hbranch])
    exact .inr ⟨key, hkey, .inl (by simp [hkey])⟩
  | record =>
    obtain ⟨key, hkey⟩ := Request.storage_key_of_branch _ _
      (show (call.request to_lowercase).branch call.options.user_persisted_values ≠ .live by
        simp [hbranch])
    cases hfresh : call.fresh with
    | none => exact .inl (by simp)
    | some new => exact .inr ⟨key, hkey, .inr ⟨new, rfl, rfl, by simp [hkey]⟩⟩

/-- A call about another value leaves this one alone. -/
theorem other_call_keeps (habout : ¬ call.About to_lowercase key config_name) :
    storage.apply (call.answer to_lowercase).2 key config_name = storage key config_name := by
  rcases op_cases to_lowercase call with hop | ⟨key', hkey, hop | ⟨new, -, -, hop⟩⟩
  · rw [hop]
    rfl
  all_goals
    rw [hop]
    refine CallerStorage.put_other _ _ ?_
    rintro ⟨rfl, rfl⟩
    exact habout ⟨hkey, rfl⟩

/-- The branch of a call that passes a value of the storage. -/
theorem branch_of_held (hcurrent : call.Current to_lowercase storage)
    (habout : call.About to_lowercase key config_name)
    (hheld : storage key config_name = some found) :
    (call.Drops to_lowercase found ∧
        (call.request to_lowercase).branch call.options.user_persisted_values = .drop) ∨
      (¬ call.Drops to_lowercase found ∧
        (call.request to_lowercase).branch call.options.user_persisted_values =
          if (call.request to_lowercase).honored found then .replay found else .live) := by
  obtain ⟨hkey, rfl⟩ := habout
  unfold Call.Drops Request.branch
  cases hvalues : call.options.user_persisted_values with
  | none => exact .inl ⟨.inl rfl, by simp [hkey]⟩
  | some values =>
    have hget : HashMap.get values (call.request to_lowercase).config_name = some found :=
      (hcurrent key hkey values hvalues).trans hheld
    cases hactive : (call.request to_lowercase).active (some found) with
    | false => exact .inl ⟨.inr rfl, by simp [hkey, hget, hactive]⟩
    | true => exact .inr ⟨by simp, by simp [hkey, hget, hactive]⟩

/-- A call keeps a value just when it does not drop it. -/
theorem step_keeps_iff (hcurrent : call.Current to_lowercase storage)
    (hheld : storage key config_name = some found)
    (hstep : step to_lowercase storage call = some storage') :
    storage' key config_name = some found ↔
      (call.About to_lowercase key config_name → ¬ call.Drops to_lowercase found) := by
  cases hstep
  by_cases habout : call.About to_lowercase key config_name
  · rw [call.answer_eq to_lowercase]
    unfold Request.answer
    rcases branch_of_held hcurrent habout hheld with ⟨hdrops, hbranch⟩ | ⟨hdrops, hbranch⟩
    · obtain ⟨hkey, rfl⟩ := habout
      simp [hbranch, CallerStorage.apply, hkey, hdrops, Call.About]
    · refine iff_of_true ?_ fun _ => hdrops
      rw [hbranch]
      split
      · next h =>
        split at h <;> cases h
        exact hheld
      · next h => split at h <;> cases h
      · exact hheld
      · next h => split at h <;> cases h
  · refine iff_of_true ?_ fun h => absurd h habout
    rw [other_call_keeps habout]
    exact hheld

/-- What a call shows of a value that it does not drop. -/
theorem shown_of_held (hcurrent : call.Current to_lowercase storage)
    (habout : call.About to_lowercase key config_name)
    (hheld : storage key config_name = some found) (hdrops : ¬ call.Drops to_lowercase found) :
    call.answer to_lowercase =
      (if (call.request to_lowercase).honored found then View.of_sticky found else call.live,
        none) := by
  rw [call.answer_eq to_lowercase]
  unfold Request.answer
  rcases branch_of_held hcurrent habout hheld with ⟨h, -⟩ | ⟨-, hbranch⟩
  · exact absurd h hdrops
  · rw [hbranch]
    cases (call.request to_lowercase).honored found with
    | true => rfl
    | false => rfl

theorem view_of_saved_experiment {name : String} {details : EvaluationDetails}
    {result : Option EvaluatorResult}
    (h : make_sticky_value_from_experiment (get_experiment_impl name (details, result)) =
      some found) : typed_live result = View.of_sticky found := by
  cases result with
  | none => cases h
  | some live =>
    cases h
    simp [typed_live, View.of_result, View.of_sticky, sticky_json, result_to_experiment_eval,
      result_to_base_eval, get_json_value, ← json_or_default_get, json_or_default]

theorem view_of_saved_layer {user : UserData} {name : String} {disable_exposure : Bool}
    {details : EvaluationDetails} {result : Option EvaluatorResult}
    (h : make_sticky_value_from_layer (get_layer_impl user name disable_exposure (details, result)) =
      some found) : typed_live result = View.of_sticky found := by
  cases result with
  | none => cases h
  | some live =>
    cases h
    simp [typed_live, View.of_result, View.of_sticky, sticky_json, result_to_layer_eval,
      result_to_base_eval, get_json_value, ← json_or_default_get, json_or_default]

/-- The raw paths save the rule id without its suffix. -/
theorem view_of_saved_result_iff {details : EvaluationDetails} {result : Option EvaluatorResult}
    (h : result.map (make_sticky_value_from_evaluation_result · details.lcut) = some found) :
    raw_live result = View.of_sticky found ↔
      ∀ live ∈ result, live.rule_id_suffix = none := by
  cases result with
  | none => cases h
  | some live =>
    cases h
    have hjson : (live.json_value.map json_or_default).getD [] =
        (live.json_value.bind (·.get_json)).getD [] := by cases live.json_value <;> rfl
    simp [raw_live, View.of_result, View.of_sticky, sticky_json,
      make_sticky_value_from_evaluation_result, hjson, suffixed_eq_iff]

/-- The recording call itself shows what later calls will show, unless it is raw and its rule id
has a suffix: the raw paths save the rule id without it. -/
theorem recorded_view_iff
    (hsave : (call.answer to_lowercase).2 = some (.save key config_name found)) :
    (call.answer to_lowercase).1 = View.of_sticky found ↔
      (call.path = .RawExperiment ∨ call.path = .RawLayer →
        ∀ result ∈ call.result, result.rule_id_suffix = none) := by
  obtain ⟨hfresh, hbranch⟩ : call.fresh = some found ∧
      (call.request to_lowercase).branch call.options.user_persisted_values = .record := by
    rcases op_cases to_lowercase call with hop | ⟨key', hkey, hop | ⟨new, hnew, hbranch, hop⟩⟩
    · cases hop.symm.trans hsave
    · cases hop.symm.trans hsave
    · cases hop.symm.trans hsave
      exact ⟨hnew, hbranch⟩
  have hlive : (call.answer to_lowercase).1 = call.live := by
    rw [call.answer_eq to_lowercase]
    unfold Request.answer
    rw [hbranch]
  rw [hlive]
  obtain ⟨path, user, name, options, specs_data, reeval, now, details, result⟩ := call
  cases path with
  | Experiment => simpa [Call.live] using view_of_saved_experiment hfresh
  | Layer => simpa [Call.live] using view_of_saved_layer hfresh
  | RawExperiment => simpa [Call.live] using view_of_saved_result_iff hfresh
  | RawLayer => simpa [Call.live] using view_of_saved_result_iff hfresh

end Step

/-! ## Runs -/

section Runs

variable {to_lowercase : String → String} {storage : CallerStorage} {key config_name : String}
  {found : StickyValues}

/-- A value that the storage holds is there in every state of the run just when no call drops
it. -/
theorem run_keeps_iff {calls : List Call}
    (hcurrent : Along (step to_lowercase) (fun storage call => call.Current to_lowercase storage)
      storage calls)
    (hheld : storage key config_name = some found) :
    (∀ n later, run (step to_lowercase) storage (calls.take n) = some later →
        later key config_name = some found) ↔
      ∀ call ∈ calls, call.About to_lowercase key config_name →
        ¬ call.Drops to_lowercase found := by
  induction calls generalizing storage with
  | nil =>
    refine iff_of_true (fun n later hrun => ?_) fun call hcall => (nomatch hcall)
    rw [List.take_nil] at hrun
    cases hrun
    exact hheld
  | cons call calls ih =>
    have hkeeps := step_keeps_iff hcurrent.1 hheld
      (show step to_lowercase storage call = some _ from rfl)
    rw [List.forall_mem_cons]
    constructor
    · intro hall
      have hnext := hall 1 _ rfl
      refine ⟨hkeeps.mp hnext, ?_⟩
      exact (ih (hcurrent.2 _ rfl) hnext).mp fun n later hrun => hall (n + 1) later hrun
    · rintro ⟨hcall, hcalls⟩ n later hrun
      cases n with
      | zero =>
        cases hrun
        exact hheld
      | succ n => exact (ih (hcurrent.2 _ rfl) (hkeeps.mpr hcall)).mpr hcalls n later hrun

/-- Over a run that drops nothing, every call about the value shows it. -/
theorem run_shows {calls : List Call}
    (hcurrent : Along (step to_lowercase) (fun storage call => call.Current to_lowercase storage)
      storage calls)
    (hheld : storage key config_name = some found)
    (hdrops : ∀ call ∈ calls, call.About to_lowercase key config_name →
      ¬ call.Drops to_lowercase found) :
    ∀ call ∈ calls, call.About to_lowercase key config_name →
      call.answer to_lowercase =
        (if (call.request to_lowercase).honored found then View.of_sticky found else call.live,
          none) := by
  induction calls generalizing storage with
  | nil => exact fun call hcall => (nomatch hcall)
  | cons call calls ih =>
    obtain ⟨hcall, hcalls⟩ := List.forall_mem_cons.mp hdrops
    have hnext := (step_keeps_iff hcurrent.1 hheld
      (show step to_lowercase storage call = some _ from rfl)).mpr hcall
    rw [List.forall_mem_cons]
    exact ⟨fun habout => shown_of_held hcurrent.1 habout hheld (hcall habout),
      ih (hcurrent.2 _ rfl) hnext hcalls⟩

/-- Once a call has recorded a value, the user has it in every state of the run just when no later
call about it drops it. Until then every call about it shows the recorded view, or the evaluation
itself where an enforced rule says so, and issues nothing. The recording call shows that view too,
unless it is raw and its rule id has a suffix. -/
theorem a_recorded_group_is_kept {first : Call} {calls : List Call}
    (hcurrent : Along (step to_lowercase) (fun storage call => call.Current to_lowercase storage)
      storage (first :: calls))
    (hfirst : (first.answer to_lowercase).2 = some (.save key config_name found)) :
    ((first.answer to_lowercase).1 = View.of_sticky found ↔
      (first.path = .RawExperiment ∨ first.path = .RawLayer →
        ∀ result ∈ first.result, result.rule_id_suffix = none)) ∧
    ((∀ n later, run (step to_lowercase) storage ((first :: calls).take (n + 1)) = some later →
        later key config_name = some found) ↔
      ∀ call ∈ calls, call.About to_lowercase key config_name →
        ¬ call.Drops to_lowercase found) ∧
    ((∀ call ∈ calls, call.About to_lowercase key config_name → ¬ call.Drops to_lowercase found) →
      ∀ call ∈ calls, call.About to_lowercase key config_name →
        call.answer to_lowercase =
          (if (call.request to_lowercase).honored found then View.of_sticky found
            else call.live, none)) := by
  have hheld : storage.apply (first.answer to_lowercase).2 key config_name = some found := by
    rw [hfirst]
    exact CallerStorage.put_self _ _ _ _
  have hlater := hcurrent.2 _ rfl
  exact ⟨recorded_view_iff hfirst, run_keeps_iff hlater hheld, run_shows hlater hheld⟩

end Runs

/-- An evaluation that puts the user in a group of the checkout experiment. -/
def in_group (rule_id group_name : String) : EvaluatorResult where
  name := some "checkout"
  id_type := some "userID"
  rule_id := some rule_id
  group_name := some group_name
  bool_value := true
  json_value := some (.json [])
  is_experiment_active := true
  is_experiment_group := true

def ada : StatsigUserInternal where
  data := { user_id := some { string_value := some ⟨"ada", "ada"⟩ } }

theorem ada_key : get_persistent_storage_key String.toLower ada "userID" = some "ada:userID" := by
  decide +kernel

def checkout_call (path : Path) (values : UserPersistedValues) (result : EvaluatorResult) :
    Call where
  path
  user := ada
  name := "checkout"
  options := { user_persisted_values := some values }
  details := { reason := "Network:Recognized" }
  result := some result

def blue_values : StickyValues where
  value := true
  json_value := some (.json [])
  rule_id := some "blue"
  group_name := some "Blue"

/-- A user who was given the blue group still has it when the rules have moved everybody to the
red one, and when it is the raw path that asks. -/
theorem blue_is_kept :
    ((checkout_call .RawExperiment [("checkout", blue_values)] (in_group "red" "Red")).answer
      String.toLower).1 =
    ((checkout_call .Experiment [] (in_group "blue" "Blue")).answer String.toLower).1 := by
  have hfirst : ((checkout_call .Experiment [] (in_group "blue" "Blue")).answer String.toLower).2 =
      some (.save "ada:userID" "checkout" blue_values) := by
    have hkey : ((checkout_call .Experiment [] (in_group "blue" "Blue")).request
        String.toLower).storage_key = some "ada:userID" := ada_key
    have hbranch : ((checkout_call .Experiment [] (in_group "blue" "Blue")).request
        String.toLower).branch (some []) = .record := by
      unfold Request.branch
      rw [hkey]
      rfl
    rw [Call.answer_eq]
    unfold Request.answer
    rw [show (checkout_call .Experiment [] (in_group "blue" "Blue")).options.user_persisted_values =
      some [] from rfl, hbranch, hkey]
    rfl
  have habout : (checkout_call .RawExperiment [("checkout", blue_values)]
      (in_group "red" "Red")).About String.toLower "ada:userID" "checkout" := ⟨ada_key, rfl⟩
  have hdrops : ¬ (checkout_call .RawExperiment [("checkout", blue_values)]
      (in_group "red" "Red")).Drops String.toLower blue_values := by
    rintro (h | h)
    · cases h
    · cases h
  have hcurrent : Along (step String.toLower)
      (fun storage call => call.Current String.toLower storage) (fun _ _ => none)
      [checkout_call .Experiment [] (in_group "blue" "Blue"),
        checkout_call .RawExperiment [("checkout", blue_values)] (in_group "red" "Red")] := by
    refine ⟨?_, ?_⟩
    · rintro key - values ⟨⟩
      rfl
    · rintro storage ⟨⟩
      refine ⟨?_, fun _ _ => trivial⟩
      rintro key hkey values ⟨⟩
      cases hkey.symm.trans habout.1
      rw [hfirst, habout.2]
      rfl
  obtain ⟨hshown, -, hlater⟩ := a_recorded_group_is_kept hcurrent hfirst
  rw [hshown.mpr fun h => by simp [checkout_call] at h]
  rw [hlater (List.forall_mem_singleton.mpr fun _ => hdrops) _ (List.mem_singleton.mpr rfl) habout]
  rfl

end statsig_rust.persistent_storage
