-- The flag `has_seen_analytical_gates`. It is set when a gate is exposed while the shared
-- result has no sampling rate. A gate of the memo does not bring its sampling rate back, so the
-- flag then reads the rate of whatever was decided last.
import StatsigCore.Evaluation.Course

open program

namespace statsig_rust.evaluation

/-! ## The gates that are asked for -/

/-- A gate that a condition asks for, with the sampling rate that the last decision before it
left. That is the decision of the gate itself when the gate is fresh. -/
structure Ask where
  gate : InternedString
  rule_id : Option InternedString
  fresh : Bool
  sampling_rate : Option Nat

/-- The event puts another result in the place of the shared one. -/
def Event.replaces : Event → Bool
  | .overrides _ | .resets => true
  | _ => false

/-- The sampling rate that an event leaves. -/
def rate_after (rate : Option Nat) : Event → Option Nat
  | .decides _ rule => rule.sampling_rate
  | .ends | .delegates | .merges _ _ | .resets => none
  | .overrides result => result.sampling_rate
  | .begins _ _ | .accepts _ | .enters _ | .assigns _ | .asks _ _ _ => rate

def asks : Option Nat → List Event → List Ask
  | _, [] => []
  | rate, .asks gate rule_id fresh :: events =>
    ⟨gate, rule_id, fresh, rate⟩ :: asks rate events
  | rate, event :: events => asks (rate_after rate event) events

/-- A gate other than a segment, with a rule id, is exposed without a sampling rate. -/
def Ask.is_analytical (ask : Ask) : Bool :=
  is_exposed ask.gate ask.rule_id && ask.sampling_rate.isNone

theorem apply_sampling_rate (m : Marks) (event : Event) :
    (m.apply event).sampling_rate = rate_after m.sampling_rate event := by
  cases event with
  | asks gate rule_id fresh =>
    unfold Marks.apply rate_after
    dsimp only
    split <;> rfl
  | _ => rfl

/-- The flag after the events: set by an analytical gate, and never reset. -/
theorem after_has_seen (m : Marks) {events : List Event}
    (hkeeps : ∀ event ∈ events, event.replaces = false) :
    (m.after events).has_seen_analytical_gates =
      if (asks m.sampling_rate events).any Ask.is_analytical then some true
      else m.has_seen_analytical_gates := by
  induction events generalizing m with
  | nil => rfl
  | cons event events ih =>
    obtain ⟨hevent, hrest⟩ := List.forall_mem_cons.mp hkeeps
    rw [Marks.after_cons, ih _ hrest, apply_sampling_rate]
    cases event with
    | asks gate rule_id fresh =>
      simp only [asks, List.any_cons, rate_after, Ask.is_analytical, Marks.apply]
      by_cases hask : (is_exposed gate rule_id && m.sampling_rate.isNone) = true
      · simp [hask]
      · simp [hask]
    | overrides result => cases hevent
    | resets => cases hevent
    | _ => rfl

/-! ## The flag of a run -/

/-- A fresh gate was decided without a sampling rate. -/
def SeesAnalyticalGate (events : List Event) : Prop :=
  ∃ ask ∈ asks none events, ask.fresh = true ∧ ask.is_analytical = true

/-- A gate that was not evaluated is exposed after a decision without a sampling rate. -/
def MisreadsGate (events : List Event) : Prop :=
  ∃ ask ∈ asks none events, ask.fresh = false ∧ ask.is_analytical = true

instance (events : List Event) : Decidable (SeesAnalyticalGate events) :=
  inferInstanceAs (Decidable (∃ ask ∈ asks none events, _))

instance (events : List Event) : Decidable (MisreadsGate events) :=
  inferInstanceAs (Decidable (∃ ask ∈ asks none events, _))

/-- The flag says that an analytical gate was seen just when one was, or when no gate of the memo
is exposed after a decision without a sampling rate. -/
theorem sampling_flag_is_exact_iff {env : EvaluatorEnv} (hadapter : env.override_adapter = none)
    (hmapped : env.specs_data.overrides = none) {depth : Nat} {name : String} {ty : SpecType}
    {ctx ctx' : EvaluatorContext} {recognition : Recognition}
    (hfresh : ctx.result = {} ∧ ctx.nested_gate_memo = [])
    (hrun : evaluate env depth name ty ctx = .ok recognition ctx') :
    (ctx'.result.has_seen_analytical_gates = some true ↔
        SeesAnalyticalGate (evaluate_course env depth name ty ctx)) ↔
      (SeesAnalyticalGate (evaluate_course env depth name ty ctx) ∨
        ¬ MisreadsGate (evaluate_course env depth name ty ctx)) := by
  have hmarks := evaluate_documented env depth name ty ctx
  unfold Documents at hmarks
  rw [hrun] at hmarks
  have hcovers : Covers env (fun _ => True) fun event => event.replaces = false :=
    { plain := fun event h => by cases event <;> first | rfl | cases h
      gates := fun _ => trivial
      experiments := fun _ => trivial
      merges := fun _ _ _ _ _ => rfl
      enters := fun _ _ => rfl
      assigns := fun _ _ => rfl }
  have hkeeps := @evaluate_course_covered env _ _ hcovers hadapter hmapped depth name ty trivial ctx
  generalize evaluate_course env depth name ty ctx = events at hmarks hkeeps ⊢
  have hflag : ctx'.result.has_seen_analytical_gates =
      if (asks none events).any Ask.is_analytical then some true else none := by
    have hstart : marks ctx = {} := by
      rw [marks, hfresh.1]
      rfl
    have hseen := congrArg Marks.has_seen_analytical_gates hmarks
    rwa [hstart, after_has_seen _ hkeeps] at hseen
  have hset : ctx'.result.has_seen_analytical_gates = some true ↔
      SeesAnalyticalGate events ∨ MisreadsGate events := by
    rw [hflag]
    constructor
    · intro h
      obtain ⟨ask, hmem, hask⟩ : ∃ ask ∈ asks none events, ask.is_analytical = true := by
        by_contra hnone
        rw [if_neg (by simpa using hnone)] at h
        cases h
      cases hfresh : ask.fresh with
      | true => exact .inl ⟨ask, hmem, hfresh, hask⟩
      | false => exact .inr ⟨ask, hmem, hfresh, hask⟩
    · rintro (⟨ask, hmem, -, hask⟩ | ⟨ask, hmem, -, hask⟩)
      · rw [if_pos (List.any_eq_true.mpr ⟨ask, hmem, hask⟩)]
      · rw [if_pos (List.any_eq_true.mpr ⟨ask, hmem, hask⟩)]
  rw [hset]
  tauto

/-- A gate with a sampling rate and a segment, asked for by two configs: one asks for the gate
alone, the other for the gate again after the segment. -/
def sampled_gate_specs : SpecsResponseFull where
  condition_map := [("in_gate", .on_gate "pass_gate" "gate"),
    ("in_segment", .on_gate "pass_gate" "segment:staff")]
  feature_gates := [
    ("gate", { rules := [{ id := "on", conditions := [], sampling_rate := some 10 }] }),
    ("segment:staff", { rules := [{ id := "staff", conditions := [] }] })]
  dynamic_configs := [
    ("asks_once", { rules := [{ id := "rule", conditions := ["in_gate"] }] }),
    ("asks_again", { rules := [
      { id := "rule", conditions := ["in_gate", "in_segment", "in_gate"] }] })]

/-- The gate has a sampling rate, so no analytical gate is seen. -/
theorem sampled_gate_is_not_analytical : ∃ ctx',
    evaluate (.plain sampled_gate_specs) 3 "asks_once" .DynamicConfig {} = .ok .Recognized ctx' ∧
    ctx'.result.has_seen_analytical_gates ≠ some true := by
  refine ⟨_, rfl, fun hflag => ?_⟩
  have hiff := @sampling_flag_is_exact_iff (.plain sampled_gate_specs) rfl rfl 3 "asks_once"
    .DynamicConfig {} _ _ ⟨rfl, rfl⟩ rfl
  have hseen := (hiff.mpr (.inr (by decide))).mp hflag
  exact absurd hseen (by decide)

/-- The gate comes from the memo after the segment, and is taken for an analytical one. -/
theorem recalled_gate_is_taken_for_analytical :
    ¬ ∀ (env : EvaluatorEnv), env.override_adapter = none → env.specs_data.overrides = none →
      ∀ (depth : Nat) (name : String) (ty : SpecType) (ctx ctx' : EvaluatorContext)
        (recognition : Recognition), ctx.result = {} ∧ ctx.nested_gate_memo = [] →
      evaluate env depth name ty ctx = .ok recognition ctx' →
      (ctx'.result.has_seen_analytical_gates = some true ↔
        SeesAnalyticalGate (evaluate_course env depth name ty ctx)) := by
  intro h
  have hiff := h (.plain sampled_gate_specs) rfl rfl 3 "asks_again" .DynamicConfig {} _ _
    ⟨rfl, rfl⟩ rfl
  exact absurd (hiff.mp (by decide)) (by decide)

end statsig_rust.evaluation
