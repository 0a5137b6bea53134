-- What the rules of a spec mean, with no state and no memo. The first rule
-- whose conditions all hold decides, and the exposures are the trace of the
-- gates that were asked on the way.
import Mathlib.Order.Filter.AtTopBot.Basic
import StatsigCore.Library.Graph
import StatsigCore.Evaluation.Frame

open program Filter

namespace statsig_rust.evaluation

/-! ## The reference semantics -/

/-- What a spec gives a user. -/
structure Verdict where
  bool_value : Bool
  json_value : DynamicReturnable
  rule_id : InternedString
  exposures : List SecondaryExposure

/-- The exposure that a condition on a gate adds, unless the gate is a segment. -/
def gate_exposure (gate : InternedString) (v : Verdict) : List SecondaryExposure :=
  if !starts_with gate "segment:" && !(v.rule_id == "") then
    [{ gate, gate_value := from_bool v.bool_value, rule_id := v.rule_id }]
  else []

section Reference

variable (env : EvaluatorEnv) (groups : String → Option String)
  (gate experiment : String → Option Verdict)

/-- Whether a condition holds, and the exposures of its gate. -/
def reference_condition (condition : Condition) : Option (Bool × List SecondaryExposure) :=
  match type_of condition with
  | .Public => some (true, [])
  | .PassGate =>
    let name := gate_name_of (target_of condition)
    (gate name).map fun v => (v.bool_value, v.exposures ++ gate_exposure name v)
  | .FailGate =>
    let name := gate_name_of (target_of condition)
    (gate name).map fun v => (!v.bool_value, v.exposures ++ gate_exposure name v)
  | .ExperimentGroup =>
    let group := (condition.field.bind fun f => groups f.value).map env.parsers.from_string
    (operator_outcome env condition group).map fun b => (b, [])
  | .Unknown => none
  | _ => (operator_outcome env condition (read_value env condition).value).map fun b => (b, [])

/-- Whether all the conditions hold. All of them are asked. -/
def reference_conditions : List InternedString → Option (Bool × List SecondaryExposure)
  | [] => some (true, [])
  | hash :: hashes => do
    let condition ← env.specs_data.condition_map.get hash
    let (b, exposures) ← reference_condition env groups gate condition
    let (all, rest) ← reference_conditions hashes
    return (b && all, exposures ++ rest)

/-- The experiment that a rule delegates to, when the specs hold it. -/
def delegate_of (rule : Rule) : Option InternedString :=
  rule.config_delegate.filter fun d => (env.specs_data.dynamic_configs.get d).isSome

/-- A rule with no delegate: its value or the default, by the pass percentage. -/
def rule_verdict (spec : Spec) (rule : Rule) : Verdict :=
  if evaluate_pass_percentage env rule spec.salt then
    { bool_value := rule.return_value.get_bool != some false
      json_value := rule.return_value
      rule_id := rule.id
      exposures := [] }
  else
    { bool_value := spec.default_value.get_bool == some true
      json_value := spec.default_value
      rule_id := rule.id
      exposures := [] }

def default_verdict (spec : Spec) : Verdict where
  bool_value := spec.default_value.get_bool == some true
  json_value := spec.default_value
  rule_id := if spec.enabled then default_rule_id else DISABLED_RULE
  exposures := []

/-- What a rule decides: nothing unless its conditions hold, else what its delegate
says, else its own verdict. -/
def decision (spec : Spec) (rule : Rule) (passes : Bool) (rest : Option Verdict) :
    Option Verdict :=
  if passes then
    match delegate_of env rule with
    | some delegate => experiment delegate
    | none => some (rule_verdict env spec rule)
  else rest

/-- The first rule whose conditions all hold decides. -/
def reference_rules (spec : Spec) : List Rule → Option Verdict
  | [] => some (default_verdict spec)
  | rule :: rules => do
    let (passes, exposures) ← reference_conditions env groups gate rule.conditions
    (decision env experiment spec rule passes (reference_rules spec rules)).map fun v =>
      { v with exposures := exposures ++ v.exposures }

end Reference

/-- The verdict of a spec, with references followed to a bounded depth. `groups`
names the group of an experiment for the conditions that ask for it. -/
def reference (env : EvaluatorEnv) (groups : String → Option String) : Nat → Node → Option Verdict
  | 0, _ => none
  | depth + 1, node =>
    (spec_of env node).bind fun spec =>
      reference_rules env groups (fun name => reference env groups depth (.Gate, name))
        (fun name => reference env groups depth (.Experiment, name)) spec spec.rules

/-- The verdict of a spec, with room enough for its references. -/
def Yields (env : EvaluatorEnv) (groups : String → Option String) (node : Node) (v : Verdict) :
    Prop :=
  ∀ᶠ depth in atTop, reference env groups depth node = some v

theorem Yields.unique {env : EvaluatorEnv} {groups : String → Option String} {node : Node}
    {v w : Verdict} (hv : Yields env groups node v) (hw : Yields env groups node w) : v = w := by
  obtain ⟨depth, hv', hw'⟩ := (hv.and hw).exists
  exact Option.some.inj (hv'.symm.trans hw')

/-! ## A depth that is enough -/

section Enough

variable {env : EvaluatorEnv} {groups : String → Option String}
  {gate gate' experiment experiment' : String → Option Verdict}

theorem reference_conditions_congr (hashes : List InternedString)
    (h : ∀ name, GateCondition env hashes name → gate name = gate' name) :
    reference_conditions env groups gate hashes = reference_conditions env groups gate' hashes := by
  induction hashes with
  | nil => rfl
  | cons hash hashes ih =>
    have hrest := ih fun name hname => by
      obtain ⟨hash', hmem, hcondition⟩ := hname
      exact h name ⟨hash', List.mem_cons_of_mem _ hmem, hcondition⟩
    unfold reference_conditions
    cases hget : env.specs_data.condition_map.get hash with
    | none => rfl
    | some condition =>
      have hcondition : reference_condition env groups gate condition =
          reference_condition env groups gate' condition := by
        unfold reference_condition
        cases hty : type_of condition
        case PassGate =>
          dsimp only
          rw [h _ ⟨hash, List.mem_cons_self .., condition, hget, .inl hty, rfl⟩]
        case FailGate =>
          dsimp only
          rw [h _ ⟨hash, List.mem_cons_self .., condition, hget, .inr hty, rfl⟩]
        all_goals rfl
      simp only [Option.bind_eq_bind, Option.bind_some, hcondition, hrest]

theorem reference_rules_congr (spec : Spec) (rules : List Rule)
    (hgate : ∀ rule ∈ rules, ∀ name, GateCondition env rule.conditions name →
      gate name = gate' name)
    (hexperiment : ∀ rule ∈ rules, ∀ name, delegate_of env rule = some name →
      experiment name = experiment' name) :
    reference_rules env groups gate experiment spec rules =
      reference_rules env groups gate' experiment' spec rules := by
  induction rules with
  | nil => rfl
  | cons rule rules ih =>
    have hrest := ih (fun r hr => hgate r (List.mem_cons_of_mem _ hr))
      (fun r hr => hexperiment r (List.mem_cons_of_mem _ hr))
    have hdecision : ∀ passes rest, decision env experiment spec rule passes rest =
        decision env experiment' spec rule passes rest := by
      intro passes rest
      unfold decision
      cases hdelegate : delegate_of env rule with
      | none => rfl
      | some delegate =>
        dsimp only
        rw [hexperiment rule (List.mem_cons_self ..) delegate hdelegate]
    unfold reference_rules
    simp only [reference_conditions_congr _ (hgate rule (List.mem_cons_self ..)), hrest, hdecision]

/-- The verdict of the rules, after the exposures of the first one. -/
theorem reference_rules_cons {spec : Spec} {rule : Rule} {rules : List Rule} {passes : Bool}
    {exposures : List SecondaryExposure} {v : Verdict}
    (hrule : reference_conditions env groups gate rule.conditions = some (passes, exposures))
    (hv : decision env experiment spec rule passes
      (reference_rules env groups gate experiment spec rules) = some v) :
    reference_rules env groups gate experiment spec (rule :: rules) =
      some { v with exposures := exposures ++ v.exposures } := by
  unfold reference_rules
  simp only [hrule, Option.bind_eq_bind, Option.bind_some]
  rw [hv]
  rfl

theorem delegate_of_eq_some {rule : Rule} {delegate : InternedString}
    (h : delegate_of env rule = some delegate) : rule.config_delegate = some delegate ∧
      ∃ delegate_spec, env.specs_data.dynamic_configs.get delegate = some delegate_spec := by
  unfold delegate_of at h
  rw [Option.filter_eq_some_iff] at h
  exact ⟨h.1, Option.isSome_iff_exists.mp h.2⟩

theorem delegate_of_present {rule : Rule} {delegate : InternedString} {delegate_spec : Spec}
    (hdelegate : rule.config_delegate = some delegate)
    (hget : env.specs_data.dynamic_configs.get delegate = some delegate_spec) :
    delegate_of env rule = some delegate := by
  simp [delegate_of, Option.filter, hdelegate, hget]

/-- Past the height of a node, more depth gives the same verdict. -/
theorem reference_past_height {height : Node → Nat}
    (hheight : ∀ a b, Nests env a b → height b < height a) {node : Node} {d d' : Nat}
    (hd : height node < d) (hd' : height node < d') :
    reference env groups d node = reference env groups d' node := by
  induction d generalizing node d' with
  | zero => omega
  | succ d ih =>
    obtain ⟨e, rfl⟩ : ∃ e, d' = e + 1 := ⟨d' - 1, by omega⟩
    unfold reference
    cases hspec : spec_of env node with
    | none => rfl
    | some spec =>
      refine reference_rules_congr spec spec.rules ?_ ?_
      · intro rule hrule name hname
        have hnest := hheight node _ (.gate (.inl ⟨spec, hspec, hrule⟩) hname)
        exact ih (by omega) (by omega)
      · intro rule hrule name hname
        obtain ⟨hdelegate, delegate_spec, hget⟩ := delegate_of_eq_some hname
        have hnest := hheight node _ (.delegate hspec hrule hdelegate hget)
        exact ih (by omega) (by omega)

end Enough

end statsig_rust.evaluation
