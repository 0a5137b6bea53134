-- The layers that merge their rules (`new_layer_eval`). What the loop finds at each rule is
-- written down as a turn, and the value map and its rule ids are told from the turns alone:
-- the first contributor that has a parameter gives it.
import StatsigCore.Evaluation.Agreement
import StatsigCore.Evaluation.Simulation

open program

namespace statsig_rust.evaluation

/-! ## The turns of the loop -/

/-- How the loop leaves a rule. -/
inductive RuleOutcome where
  | failed
  | own
  | delegated (result : EvaluatorResult)

/-- One rule of the layer, with the exposures that its conditions added and whether all of its
conditions left the result supported. -/
structure Turn where
  rule : Rule
  exposures : List SecondaryExposure
  supported : Bool
  outcome : RuleOutcome

section Turns

variable (env : EvaluatorEnv) (rec : Recur)

/-- Every condition that the rule evaluates leaves the result supported. -/
def conditions_supported : List InternedString → EvaluatorContext → Bool
  | [], _ => true
  | hash :: hashes, ctx =>
    match env.specs_data.condition_map.get hash with
    | none => false
    | some condition =>
      match evaluate_condition env rec condition ctx with
      | .ok _ ctx => !ctx.result.unsupported && conditions_supported hashes ctx
      | _ => false

/-- A delegate with a value is accepted when no earlier rule contributed. -/
def accepts (has_passed_rule : Bool) (result : EvaluatorResult) : Bool :=
  !has_passed_rule && result.json_value.isSome

/-- The turn of a rule that starts from `ctx` and whose conditions end in `asked`. -/
def turn_of (rule : Rule) (ctx asked : EvaluatorContext) (outcome : RuleOutcome) : Turn :=
  { rule := rule
    exposures :=
      asked.result.secondary_exposures.drop ctx.result.secondary_exposures.length
    supported := conditions_supported env rec rule.conditions ctx
    outcome := outcome }

/-- The rules that the loop evaluates. A rule passes when its conditions hold and the user is
in its pass percentage. -/
def layer_turns (spec : Spec) (filter_active : Bool) :
    List Rule → Bool → EvaluatorContext → List Turn
  | [], _, _ => []
  | rule :: rules, has_passed_rule, ctx =>
    if filter_active && !rule_matches_filter ctx rule then
      layer_turns spec filter_active rules has_passed_rule ctx
    else
      match evaluate_rule env rec rule ctx with
      | .ok _ asked =>
        if asked.result.unsupported then []
        else if !(asked.result.bool_value && evaluate_pass_percentage env rule spec.salt) then
          turn_of env rec rule ctx asked .failed ::
            layer_turns spec filter_active rules has_passed_rule (take_exposures asked)
        else
          match delegate_of env rule with
          | none =>
            turn_of env rec rule ctx asked .own ::
              layer_turns spec filter_active rules true (take_exposures asked)
          | some _ =>
            match evaluate_config_delegate env rec rule (take_exposures asked) with
            | .ok _ inner =>
              turn_of env rec rule ctx asked (.delegated inner.result) ::
                if accepts has_passed_rule inner.result then
                  layer_turns spec filter_active rules true (take_exposures inner)
                else layer_turns spec filter_active rules has_passed_rule inner
            | _ => []
      | _ => []

end Turns

/-! ## Contributors -/

structure Contribution where
  rule_id : InternedString
  values : HashMap String JsonValue

def Contribution.of (rule_id : InternedString) (value : DynamicReturnable) : Contribution :=
  ⟨rule_id, value.get_json.getD []⟩

/-- What a rule contributes: its own value, or its delegate's when no earlier rule
contributed. -/
def contribution (turn : Turn) (earlier : Bool) : Option Contribution :=
  match turn.outcome with
  | .failed => none
  | .own => some (.of turn.rule.id turn.rule.return_value)
  | .delegated result => if earlier then none else result.json_value.map (.of turn.rule.id)

def contributions : List Turn → Bool → List Contribution
  | [], _ => []
  | turn :: turns, earlier =>
    match contribution turn earlier with
    | none => contributions turns earlier
    | some c => c :: contributions turns true

/-- The accepted delegating rule, with the result of its delegate. -/
def accepted : List Turn → Option (Rule × EvaluatorResult)
  | [] => none
  | turn :: turns =>
    match turn.outcome with
    | .failed => accepted turns
    | .own => none
    | .delegated result =>
      if result.json_value.isSome then some (turn.rule, result) else accepted turns

/-- The value of the first contributor that has the parameter. -/
def first_value (contributors : List Contribution) (p : String) : Option JsonValue :=
  contributors.findSome? fun c => c.values.get p

def first_rule_id (contributors : List Contribution) (p : String) : Option InternedString :=
  (contributors.find? fun c => (c.values.get p).isSome).map (·.rule_id)

theorem first_value_append (contributors : List Contribution) (c : Contribution) (p : String) :
    first_value (contributors ++ [c]) p = (first_value contributors p).or (c.values.get p) := by
  unfold first_value
  rw [List.findSome?_append]
  cases h : c.values.get p <;> simp [h]

theorem first_rule_id_append (contributors : List Contribution) (c : Contribution) (p : String) :
    first_rule_id (contributors ++ [c]) p = (first_rule_id contributors p).or
      (if (c.values.get p).isSome then some c.rule_id else none) := by
  unfold first_rule_id
  rw [List.find?_append]
  cases h : c.values.get p with
  | none => cases contributors.find? _ <;> simp [h]
  | some v => cases contributors.find? _ <;> simp [h]

/-- The two maps have the same parameters. -/
theorem first_rule_id_isSome (contributors : List Contribution) (p : String) :
    (first_rule_id contributors p).isSome = (first_value contributors p).isSome := by
  unfold first_rule_id first_value
  induction contributors with
  | nil => rfl
  | cons c contributors ih =>
    cases h : c.values.get p with
    | none => simpa [h] using ih
    | some v => simp [h]

/-! ## The two maps -/

theorem update_parameter_values_get (rule_id : InternedString) (entries : HashMap String JsonValue)
    (value : HashMap String JsonValue) (rule_ids : HashMap InternedString InternedString)
    (p : String) :
    (update_parameter_values rule_id entries (value, rule_ids)).1.get p =
        (value.get p).or (entries.get p) ∧
      (update_parameter_values rule_id entries (value, rule_ids)).2.get p =
        if (value.get p).isSome then rule_ids.get p
        else if (entries.get p).isSome then some rule_id else rule_ids.get p := by
  induction entries generalizing value rule_ids with
  | nil => simp [update_parameter_values]
  | cons entry entries ih =>
    obtain ⟨k, v⟩ := entry
    unfold update_parameter_values
    by_cases hk : (value.get k).isSome
    · rw [if_pos hk]
      obtain ⟨hvalue, hids⟩ := ih value rule_ids
      rw [hvalue, hids, HashMap.get_cons]
      by_cases hp : p = k
      · subst hp
        obtain ⟨w, hw⟩ := Option.isSome_iff_exists.mp hk
        simp [hw]
      · simp [hp]
    · rw [if_neg hk]
      obtain ⟨hvalue, hids⟩ := ih (HashMap.insert value k v) (HashMap.insert rule_ids k rule_id)
      rw [hvalue, hids, HashMap.get_insert, HashMap.get_insert, HashMap.get_cons]
      have hnone : value.get k = none := Option.not_isSome_iff_eq_none.mp hk
      by_cases hp : p = k
      · subst hp
        simp [hnone]
      · simp [hp]

/-- A passing rule without a delegate gives its own value. -/
def LayerState.contribute (s : LayerState) (rule : Rule) (passed : Bool) : LayerState :=
  { s.update rule.return_value.get_json rule.id with
    passed := passed
    has_passed_rule := true }

/-- What the loop holds after some contributors. -/
structure Merged (contributors : List Contribution) (delegate : Option (Rule × EvaluatorResult))
    (s : LayerState) : Prop where
  value : ∀ p, s.value.get p = first_value contributors p
  rule_ids : ∀ p, s.rule_ids.get p = first_rule_id contributors p
  delegate_name : s.delegate_name = delegate.bind fun d => d.1.config_delegate
  rule_id : s.rule_id = delegate.elim default_rule_id fun d => d.1.id
  is_experiment_group :
    s.is_experiment_group = delegate.elim false fun d => d.1.is_experiment_group.getD false
  group_name : s.group_name = delegate.bind fun d => d.2.group_name

section Merged

variable {contributors : List Contribution} {delegate : Option (Rule × EvaluatorResult)}
  {s : LayerState}

theorem merged_nothing : Merged [] none {} :=
  ⟨fun _ => rfl, fun _ => rfl, rfl, rfl, rfl, rfl⟩

/-- The maps of the loop, after one more contributor. -/
theorem Merged.update_maps (h : Merged contributors delegate s) (rule_id : InternedString)
    (value : DynamicReturnable) (p : String) :
    (s.update value.get_json rule_id).value.get p =
        first_value (contributors ++ [.of rule_id value]) p ∧
      (s.update value.get_json rule_id).rule_ids.get p =
        first_rule_id (contributors ++ [.of rule_id value]) p := by
  rw [first_value_append, first_rule_id_append, ← h.value, ← h.rule_ids]
  have hsame : (s.rule_ids.get p).isSome = (s.value.get p).isSome := by
    rw [h.value, h.rule_ids, first_rule_id_isSome]
  unfold LayerState.update Contribution.of
  cases hjson : value.get_json with
  | none => simp
  | some map =>
    obtain ⟨hvalue, hids⟩ := update_parameter_values_get rule_id map s.value s.rule_ids p
    refine ⟨hvalue, hids.trans ?_⟩
    cases hp : s.value.get p with
    | some v =>
      rw [hp] at hsame
      obtain ⟨id, hid⟩ := Option.isSome_iff_exists.mp hsame
      simp [hid]
    | none =>
      rw [hp] at hsame
      have hid : s.rule_ids.get p = none := Option.not_isSome_iff_eq_none.mp (by simp [hsame])
      simp [hid]

theorem update_delegate_name (s : LayerState) (values : Option (HashMap String JsonValue))
    (rule_id : InternedString) :
    (s.update values rule_id).delegate_name = s.delegate_name ∧
      (s.update values rule_id).rule_id = s.rule_id ∧
      (s.update values rule_id).is_experiment_group = s.is_experiment_group ∧
      (s.update values rule_id).group_name = s.group_name := by
  unfold LayerState.update
  cases values <;> exact ⟨rfl, rfl, rfl, rfl⟩

/-- A contributor that is no delegate. -/
theorem Merged.update (h : Merged contributors delegate s) (rule_id : InternedString)
    (value : DynamicReturnable) :
    Merged (contributors ++ [.of rule_id value]) delegate (s.update value.get_json rule_id) := by
  obtain ⟨hname, hid, hflag, hgroup⟩ := update_delegate_name s value.get_json rule_id
  exact ⟨fun p => (h.update_maps rule_id value p).1, fun p => (h.update_maps rule_id value p).2,
    hname.trans h.delegate_name, hid.trans h.rule_id, hflag.trans h.is_experiment_group,
    hgroup.trans h.group_name⟩

theorem Merged.contribute (h : Merged contributors delegate s) (rule : Rule) (passed : Bool) :
    Merged (contributors ++ [.of rule.id rule.return_value]) delegate
      (s.contribute rule passed) :=
  let h := h.update rule.id rule.return_value
  ⟨h.value, h.rule_ids, h.delegate_name, h.rule_id, h.is_experiment_group, h.group_name⟩

theorem Merged.append_exposures (h : Merged contributors delegate s) (ctx : EvaluatorContext) :
    Merged contributors delegate (s.append_exposures ctx) :=
  ⟨h.value, h.rule_ids, h.delegate_name, h.rule_id, h.is_experiment_group, h.group_name⟩

theorem Merged.accept (h : Merged contributors delegate s) (rule : Rule)
    (value : DynamicReturnable) {ctx : EvaluatorContext}
    (hname : ctx.result.config_delegate = rule.config_delegate) :
    Merged (contributors ++ [.of rule.id value]) (some (rule, ctx.result))
      (s.accept rule value ctx) :=
  ⟨fun p => (h.update_maps rule.id value p).1, fun p => (h.update_maps rule.id value p).2, hname,
    rfl, rfl, rfl⟩

end Merged

/-! ## The loop -/

section Loop

variable {env : EvaluatorEnv} {depth : Nat}

/-- The delegate of a rule that has one is recognized, and the result names it. -/
theorem evaluate_config_delegate_some {rule : Rule} {delegate : InternedString}
    (hdelegate : delegate_of env rule = some delegate) :
    Triple (fun _ => True) (evaluate_config_delegate env (evaluate env depth) rule)
      (fun delegated c => delegated = true ∧ c.result.config_delegate = rule.config_delegate)
      (fun _ _ => True) True := by
  obtain ⟨hname, delegate_spec, hget⟩ := delegate_of_eq_some hdelegate
  unfold evaluate_config_delegate
  simp only [hname, hget]
  refine triple_update_bind (M := fun _ => True) (fun _ _ => trivial) ?_
  refine (triple_true _).bind fun _ => ?_
  refine Triple.bind (Triple.pre (evaluate_recognizes hget depth) fun _ _ => trivial)
    fun recognition => ?_
  rintro c rfl
  exact ⟨rfl, hname⟩

/-- What the loop does at a rule that it evaluates. -/
inductive LayerStep (env : EvaluatorEnv) (rec : Recur) (rule : Rule) (s : LayerState)
    (ctx : EvaluatorContext) : Turn → LayerState → EvaluatorContext → Prop
  | failed {asked : EvaluatorContext} (hasked : evaluate_rule env rec rule ctx = .ok () asked) :
    LayerStep env rec rule s ctx (turn_of env rec rule ctx asked .failed)
      (s.append_exposures asked) (take_exposures asked)
  | own {asked : EvaluatorContext} (hasked : evaluate_rule env rec rule ctx = .ok () asked) :
    LayerStep env rec rule s ctx (turn_of env rec rule ctx asked .own)
      ((s.append_exposures asked).contribute rule asked.result.bool_value) (take_exposures asked)
  | delegated {asked inner : EvaluatorContext} {value : DynamicReturnable}
    (hasked : evaluate_rule env rec rule ctx = .ok () asked)
    (hname : inner.result.config_delegate = rule.config_delegate)
    (hfirst : s.has_passed_rule = false) (hvalue : inner.result.json_value = some value) :
    LayerStep env rec rule s ctx (turn_of env rec rule ctx asked (.delegated inner.result))
      ((s.append_exposures asked).accept rule value inner) (take_exposures inner)
  | turned_down {asked inner : EvaluatorContext}
    (hasked : evaluate_rule env rec rule ctx = .ok () asked)
    (hturned : accepts s.has_passed_rule inner.result = false) :
    LayerStep env rec rule s ctx (turn_of env rec rule ctx asked (.delegated inner.result))
      (s.append_exposures asked) inner

inductive LayerRun (env : EvaluatorEnv) (rec : Recur) : List Turn → LayerState →
    EvaluatorContext → LayerState → EvaluatorContext → Prop
  | nil (s : LayerState) (ctx : EvaluatorContext) : LayerRun env rec [] s ctx s ctx
  | cons {turn : Turn} {turns : List Turn} {rule : Rule} {s s' s'' : LayerState}
    {ctx ctx' ctx'' : EvaluatorContext} (step : LayerStep env rec rule s ctx turn s' ctx')
    (rest : LayerRun env rec turns s' ctx' s'' ctx'') :
    LayerRun env rec (turn :: turns) s ctx s'' ctx''

/-- A run of the loop that ends supported goes through its turns. -/
theorem new_layer_rules_run {spec : Spec} {filter_active : Bool} {rules : List Rule}
    {s : LayerState} (hempty : s.EmptyUntilPassed)
    {ctx ctx' : EvaluatorContext} {recognition : Recognition}
    (hrun : new_layer_rules env (evaluate env depth) spec filter_active rules s ctx =
      .ok recognition ctx') (hsupported : ctx'.result.unsupported = false) :
    ∃ s' last, ctx' = s'.finish spec last ∧
      LayerRun env (evaluate env depth) (layer_turns env (evaluate env depth) spec filter_active
        rules s.has_passed_rule ctx) s ctx s' last := by
  induction rules generalizing s ctx with
  | nil =>
    obtain ⟨-, rfl⟩ := Outcome.ok.inj hrun
    exact ⟨s, ctx, rfl, .nil s ctx⟩
  | cons rule rules ih =>
    unfold new_layer_rules at hrun
    unfold layer_turns
    rw [state_bind] at hrun
    by_cases hfilter : (filter_active && !rule_matches_filter ctx rule) = true
    · rw [if_pos hfilter] at hrun ⊢
      exact ih hempty hrun
    rw [if_neg hfilter] at hrun ⊢
    obtain ⟨⟨⟩, asked, hasked, hrun⟩ := ok_of_bind hrun
    rw [state_bind, update_bind] at hrun
    simp only [hasked]
    by_cases hunsupported : asked.result.unsupported = true
    · rw [if_pos hunsupported] at hrun
      obtain ⟨-, rfl⟩ := Outcome.ok.inj hrun
      rw [show (take_exposures asked).result.unsupported = true from hunsupported] at hsupported
      cases hsupported
    rw [if_neg hunsupported] at hrun ⊢
    by_cases hbool : asked.result.bool_value = true
    swap
    · rw [Bool.not_eq_true] at hbool
      simp only [hbool, Bool.not_false, ↓reduceIte, Bool.false_and] at hrun ⊢
      obtain ⟨s', last, hlast, hrest⟩ := ih (s := s.append_exposures asked) hempty hrun
      exact ⟨s', last, hlast, .cons (.failed hasked) hrest⟩
    by_cases hpass : evaluate_pass_percentage env rule spec.salt = true
    swap
    · rw [Bool.not_eq_true] at hpass
      simp only [hbool, hpass, Bool.not_false, Bool.not_true, ↓reduceIte, Bool.and_false,
        Bool.false_eq_true] at hrun ⊢
      obtain ⟨s', last, hlast, hrest⟩ := ih (s := s.append_exposures asked) hempty hrun
      exact ⟨s', last, hlast, .cons (.failed hasked) hrest⟩
    simp only [hbool, hpass, Bool.not_true, ↓reduceIte, Bool.and_true, Bool.false_eq_true]
      at hrun ⊢
    obtain ⟨delegated, inner, hinner, hrun⟩ := ok_of_bind hrun
    cases hdelegate : delegate_of env rule with
    | none =>
      rw [evaluate_config_delegate_none hdelegate] at hinner
      obtain ⟨rfl, rfl⟩ := Outcome.ok.inj hinner
      rw [if_neg Bool.false_ne_true, state_bind] at hrun
      obtain ⟨s', last, hlast, hrest⟩ := ih
        (s := (s.append_exposures asked).contribute rule asked.result.bool_value)
        (fun h => by cases h) hrun
      exact ⟨s', last, hlast, .cons (.own hasked) hrest⟩
    | some delegate =>
      obtain ⟨rfl, hname⟩ : delegated = true ∧
          inner.result.config_delegate = rule.config_delegate := by
        have h := @evaluate_config_delegate_some env depth rule delegate hdelegate
          (take_exposures asked) trivial
        rwa [hinner] at h
      simp only [hinner]
      rw [if_pos rfl, state_bind] at hrun
      by_cases hfirst : s.has_passed_rule = true
      · have hturned : accepts s.has_passed_rule inner.result = false := by simp [accepts, hfirst]
        rw [show (s.append_exposures asked).has_passed_rule = true from hfirst, if_pos rfl] at hrun
        simp only [hturned, Bool.false_eq_true, ↓reduceIte]
        obtain ⟨s', last, hlast, hrest⟩ := ih (s := s.append_exposures asked) hempty hrun
        exact ⟨s', last, hlast, .cons (.turned_down hasked hturned) hrest⟩
      rw [Bool.not_eq_true] at hfirst
      rw [show (s.append_exposures asked).has_passed_rule = false from hfirst,
        if_neg Bool.false_ne_true] at hrun
      cases hvalue : inner.result.json_value with
      | none =>
        rw [hvalue] at hrun
        have hturned : accepts s.has_passed_rule inner.result = false := by simp [accepts, hvalue]
        simp only [hturned, Bool.false_eq_true, ↓reduceIte]
        obtain ⟨s', last, hlast, hrest⟩ := ih (s := s.append_exposures asked) hempty hrun
        exact ⟨s', last, hlast, .cons (.turned_down hasked hturned) hrest⟩
      | some value =>
        rw [hvalue] at hrun
        have hstill : (s.append_exposures asked).EmptyUntilPassed := hempty
        have hreuses := reuses_nothing hstill hfirst value
        have haccepts : accepts s.has_passed_rule inner.result = true := by
          simp [accepts, hfirst, hvalue]
        simp only [hreuses, Bool.false_eq_true, ↓reduceIte, update_bind] at hrun
        simp only [haccepts, ↓reduceIte]
        obtain ⟨s', last, hlast, hrest⟩ := ih
          (s := (s.append_exposures asked).accept rule value inner) (fun h => by cases h) hrun
        exact ⟨s', last, hlast, .cons (.delegated hasked hname hfirst hvalue) hrest⟩

/-- A layer that merges its rules stops before them when a filter leaves none, or goes through
its turns. -/
theorem new_layer_eval_run {spec : Spec} {ctx ctx' : EvaluatorContext}
    {recognition : Recognition}
    (hrun : new_layer_eval env (evaluate env depth) spec ctx = .ok recognition ctx')
    (hsupported : ctx'.result.unsupported = false) :
    if filter_active ctx && !spec_has_filtered_rule ctx spec then
      ctx' = (ctx.set_bool false).finalize_evaluation spec none
    else ∃ s last, ctx' = s.finish spec last ∧
      LayerRun env (evaluate env depth) (layer_turns env (evaluate env depth) spec
        (filter_active ctx) spec.rules false ctx) {} ctx s last := by
  unfold new_layer_eval at hrun
  rw [state_bind] at hrun
  by_cases hfilter : (filter_active ctx && !spec_has_filtered_rule ctx spec) = true
  · rw [if_pos hfilter]
    unfold filter_active at hfilter
    simp only [hfilter, ↓reduceIte, update_bind] at hrun
    exact (Outcome.ok.inj hrun).2.symm
  · rw [if_neg hfilter]
    unfold filter_active at hfilter
    simp only [hfilter, Bool.false_eq_true, ↓reduceIte] at hrun
    exact new_layer_rules_run (s := {}) (fun _ => rfl) hrun hsupported

section Steps

variable {rec : Recur} {rule : Rule} {turn : Turn} {s s' : LayerState}
  {ctx ctx' : EvaluatorContext} {contributors : List Contribution}
  {delegate : Option (Rule × EvaluatorResult)}

theorem LayerStep.has_passed_rule (step : LayerStep env rec rule s ctx turn s' ctx') :
    s'.has_passed_rule =
      (s.has_passed_rule || (contribution turn s.has_passed_rule).isSome) := by
  cases step with
  | failed hasked => exact (Bool.or_false _).symm
  | own hasked => exact (Bool.or_true _).symm
  | delegated hasked hname hpassed hvalue =>
    simp [LayerState.accept, contribution, turn_of, hpassed, hvalue]
  | turned_down hasked hturned =>
    simp only [accepts, Bool.and_eq_false_iff, Bool.not_eq_false'] at hturned
    rcases hturned with hpassed | hnone
    · simp [LayerState.append_exposures, hpassed]
    · simp [LayerState.append_exposures, contribution, turn_of,
        Option.not_isSome_iff_eq_none.mp (Bool.eq_false_iff.mp hnone)]

theorem LayerStep.merged (step : LayerStep env rec rule s ctx turn s' ctx')
    (h : Merged contributors delegate s) :
    Merged (contributors ++ (contribution turn s.has_passed_rule).toList)
      (if s.has_passed_rule then delegate else (accepted [turn]).or delegate) s' := by
  cases step with
  | @failed asked hasked =>
    simp only [contribution, turn_of, accepted, Option.toList_none, List.append_nil,
      Option.none_or, ite_self]
    exact h.append_exposures asked
  | @own asked hasked =>
    simp only [contribution, turn_of, accepted, Option.toList_some, Option.none_or, ite_self]
    exact (h.append_exposures asked).contribute rule asked.result.bool_value
  | @delegated asked inner value hasked hname hpassed hvalue =>
    simp only [contribution, turn_of, accepted, hpassed, hvalue, Bool.false_eq_true, ↓reduceIte,
      Option.map_some, Option.toList_some, Option.isSome_some, Option.some_or]
    exact (h.append_exposures asked).accept rule value hname
  | @turned_down asked inner hasked hturned =>
    simp only [accepts, Bool.and_eq_false_iff, Bool.not_eq_false'] at hturned
    have hmerged := h.append_exposures asked
    rcases hturned with hpassed | hnone
    · simpa [contribution, turn_of, hpassed] using hmerged
    · have hvalue := Option.not_isSome_iff_eq_none.mp (Bool.eq_false_iff.mp hnone)
      simpa [contribution, turn_of, accepted, hvalue] using hmerged

theorem contributions_cons (turn : Turn) (turns : List Turn) (earlier : Bool) :
    contributions (turn :: turns) earlier = (contribution turn earlier).toList ++
      contributions turns (earlier || (contribution turn earlier).isSome) := by
  rw [contributions]
  cases contribution turn earlier with
  | none => simp
  | some c => simp

/-- A rule that contributes first decides whether a delegate is accepted. -/
theorem accepted_cons (turn : Turn) (turns : List Turn) :
    accepted (turn :: turns) =
      if (contribution turn false).isSome then accepted [turn] else accepted turns := by
  cases houtcome : turn.outcome with
  | failed => simp [contribution, accepted, houtcome]
  | own => simp [contribution, accepted, houtcome]
  | delegated result =>
    cases hvalue : result.json_value <;> simp [contribution, accepted, houtcome, hvalue]

theorem accepted_none (h : contribution turn false = none) : accepted [turn] = none := by
  cases houtcome : turn.outcome with
  | failed => simp [accepted, houtcome]
  | own => simp [accepted, houtcome]
  | delegated result =>
    have hnone : result.json_value = none := by simpa [contribution, houtcome] using h
    simp [accepted, houtcome, hnone]

/-- The contributors of the turns come after those before, and the first delegate with a value
is the accepted one when no rule contributed before. -/
theorem LayerRun.merged {turns : List Turn} (run : LayerRun env rec turns s ctx s' ctx')
    (h : Merged contributors delegate s) (hfirst : s.has_passed_rule = false → delegate = none) :
    Merged (contributors ++ contributions turns s.has_passed_rule)
      (if s.has_passed_rule then delegate else accepted turns) s' := by
  induction run generalizing contributors delegate with
  | nil s ctx =>
    rw [contributions, List.append_nil, accepted]
    by_cases hpassed : s.has_passed_rule = true
    · rwa [if_pos hpassed]
    · rw [Bool.not_eq_true] at hpassed
      rw [hpassed, if_neg Bool.false_ne_true]
      rwa [hfirst hpassed] at h
  | @cons turn turns rule s₁ s₂ s₃ ctx₁ ctx₂ ctx₃ step rest ih =>
    have hnext := ih (step.merged h)
    rw [step.has_passed_rule] at hnext
    rw [contributions_cons, ← List.append_assoc]
    cases hpassed : s₁.has_passed_rule with
    | true =>
      simp only [hpassed, Bool.true_or, ↓reduceIte] at hnext ⊢
      exact hnext fun hfalse => by cases hfalse
    | false =>
      simp only [hpassed, Bool.false_or, ↓reduceIte, Bool.false_eq_true, hfirst hpassed,
        Option.or_none, accepted_cons turn turns] at hnext ⊢
      refine hnext fun hnone => ?_
      exact accepted_none (Option.not_isSome_iff_eq_none.mp (Bool.eq_false_iff.mp hnone))

end Steps

end Loop

/-! ## The merged layer -/

/-- The contributors of a layer: its rules in their order, and then its default. -/
def contributors_of (spec : Spec) (turns : List Turn) : List Contribution :=
  contributions turns false ++ [.of default_rule_id spec.default_value]

/-- The result of a layer that merges its rules. -/
structure Merges (spec : Spec) (turns : List Turn) (result : EvaluatorResult) : Prop where
  maps : ∃ map rule_ids, result.json_value = some (DynamicReturnable.from_map map) ∧
    result.parameter_rule_ids = some rule_ids ∧
    ∀ p, map.get p = first_value (contributors_of spec turns) p ∧
      rule_ids.get p = first_rule_id (contributors_of spec turns) p ∧
      (rule_ids.get p).isSome = (map.get p).isSome
  config_delegate :
    result.config_delegate = (accepted turns).bind fun d => d.1.config_delegate
  rule_id : result.rule_id = some ((accepted turns).elim default_rule_id fun d => d.1.id)
  is_experiment_group : result.is_experiment_group =
    (accepted turns).elim false fun d => d.1.is_experiment_group.getD false
  group_name : result.group_name = (accepted turns).bind fun d => d.2.group_name

theorem Merged.finish {spec : Spec} {turns : List Turn} {s : LayerState}
    (h : Merged (contributions turns false) (accepted turns) s) (ctx : EvaluatorContext) :
    Merges spec turns (s.finish spec ctx).result := by
  have hlast := h.update default_rule_id spec.default_value
  unfold LayerState.finish
  dsimp only
  obtain ⟨hjson, hids, hname, hid, hflag, hgroup⟩ := finalize_keeps _ spec none
  constructor
  · refine ⟨_, _, hjson, hids, fun p => ⟨hlast.value p, hlast.rule_ids p, ?_⟩⟩
    rw [hlast.rule_ids, hlast.value, first_rule_id_isSome]
  · exact hname.trans hlast.delegate_name
  · exact hid.trans (congrArg some hlast.rule_id)
  · exact hflag.trans hlast.is_experiment_group
  · exact hgroup.trans hlast.group_name

/-- A layer that merges its rules gives each parameter the value of its first contributor. Where
a filter leaves no rule to look at, it merges nothing and the maps stay as they were. -/
theorem layers_merge_first_wins {env : EvaluatorEnv} {depth : Nat} {spec : Spec}
    {ctx ctx' : EvaluatorContext} {recognition : Recognition}
    (hrun : new_layer_eval env (evaluate env depth) spec ctx = .ok recognition ctx')
    (hsupported : ctx'.result.unsupported = false) :
    if filter_active ctx && !spec_has_filtered_rule ctx spec then
      ctx'.result.json_value = ctx.result.json_value ∧
        ctx'.result.parameter_rule_ids = ctx.result.parameter_rule_ids
    else Merges spec (layer_turns env (evaluate env depth) spec (filter_active ctx) spec.rules
      false ctx) ctx'.result := by
  have hlayer := new_layer_eval_run hrun hsupported
  by_cases hfilter : (filter_active ctx && !spec_has_filtered_rule ctx spec) = true
  · rw [if_pos hfilter] at hlayer ⊢
    subst hlayer
    obtain ⟨hjson, hids, -⟩ := finalize_keeps (ctx.set_bool false) spec none
    exact ⟨hjson, hids⟩
  · rw [if_neg hfilter] at hlayer ⊢
    obtain ⟨s, last, rfl, hturns⟩ := hlayer
    exact Merged.finish (hturns.merged merged_nothing fun _ => rfl) last

/-- A layer with an experiment for one parameter and a rule that sets two. -/
def shared_layer : Spec where
  use_new_layer_eval := some true
  default_value := .json [("title", .string "hello"), ("size", .number 12)]
  rules := [
    { id := "allocation", conditions := [], config_delegate := some "experiment" },
    { id := "everyone", conditions := [],
      return_value := .json [("title", .string "hi"), ("color", .string "red")] }]

def shared_layer_specs : SpecsResponseFull where
  dynamic_configs := [("experiment", {
    default_value := .json [("title", .string "dear")]
    rules := [] })]
  layer_configs := [("layer", shared_layer)]

def shared_layer_turns : List Turn :=
  layer_turns (.plain shared_layer_specs) (evaluate (.plain shared_layer_specs) 2) shared_layer
    false shared_layer.rules false {}

/-- The experiment gives the title, the rule the color, and the default the size. -/
theorem shared_layer_merges :
    (∃ ctx', new_layer_eval (.plain shared_layer_specs)
        (evaluate (.plain shared_layer_specs) 2) shared_layer {} = .ok .Recognized ctx' ∧
      Merges shared_layer shared_layer_turns ctx'.result) ∧
    ["title", "color", "size", "none"].map
        (first_rule_id (contributors_of shared_layer shared_layer_turns)) =
      [some "allocation", some "everyone", some "default", none] := by
  refine ⟨⟨_, rfl, ?_⟩, rfl⟩
  exact @layers_merge_first_wins (.plain shared_layer_specs) 2 shared_layer {} _ _ rfl rfl

end statsig_rust.evaluation
