-- What an evaluation reads of the user: the fields that the conditions of the reachable rules name,
-- and the ids that their rules and bandits are about. Nothing else of the user decides an outcome,
-- private attributes included.
import StatsigCore.Evaluation.Relevance

namespace statsig_rust.evaluation

variable {env : EvaluatorEnv} {user : StatsigUserInternal} {scores : GroupScores}

/-! ## What a condition reads -/

def SameField (user user' : StatsigUserInternal) (field : Option DynamicString) : Prop :=
  user.get_user_value field = user'.get_user_value field

/-- The two users have the same values in the fields that the condition reads. A user agent or an
ip is read where the field itself has no value. -/
def SameFields (user user' : StatsigUserInternal) (condition : Condition) : Prop :=
  match type_of condition with
  | .UaBased =>
    SameField user user' condition.field ∧ SameField user user' (some ⟨"userAgent", "useragent"⟩)
  | .IpBased => SameField user user' condition.field ∧ SameField user user' (some ⟨"ip", "ip"⟩)
  | .UserField => SameField user user' condition.field
  | .EnvironmentField =>
    user.get_value_from_environment condition.field =
      user'.get_value_from_environment condition.field
  | .UserBucket | .UnitId => user.get_unit_id condition.id_type = user'.get_unit_id condition.id_type
  | _ => True

theorem same_unit_of {id_type : DynamicString}
    (h : env.user.get_unit_id id_type = user.get_unit_id id_type) :
    SameUnit env (env.for_user user scores) id_type := by
  unfold SameUnit get_unit_id
  rw [h]
  rfl

theorem get_value_from_user_agent_congr {field : Option DynamicString}
    (h : SameField env.user user (some ⟨"userAgent", "useragent"⟩)) :
    get_value_from_user_agent env field =
      get_value_from_user_agent (env.for_user user scores) field := by
  unfold get_value_from_user_agent
  rw [h]
  rfl

theorem get_value_from_ip_congr {field : Option DynamicString}
    (h : SameField env.user user (some ⟨"ip", "ip"⟩)) :
    get_value_from_ip env field = get_value_from_ip (env.for_user user scores) field := by
  unfold get_value_from_ip
  rw [h]
  rfl

theorem read_value_congr {condition : Condition} (h : SameFields env.user user condition) :
    read_value env condition = read_value (env.for_user user scores) condition := by
  unfold SameFields at h
  unfold read_value
  cases htype : type_of condition with
  | UaBased =>
    rw [htype] at h
    dsimp only
    rw [h.1, get_value_from_user_agent_congr h.2]
    rfl
  | IpBased =>
    rw [htype] at h
    dsimp only
    rw [h.1, get_value_from_ip_congr h.2]
    rfl
  | UserField =>
    rw [htype] at h
    exact congrArg (fun value => Reading.mk value none) h
  | EnvironmentField =>
    rw [htype] at h
    exact congrArg (fun value => Reading.mk value none) h
  | UserBucket =>
    rw [htype] at h
    dsimp only
    unfold get_hash_for_user_bucket
    rw [same_unit_of h]
    rfl
  | UnitId =>
    rw [htype] at h
    exact congrArg (fun value => Reading.mk value none) h
  | Public | FailGate | PassGate | ExperimentGroup | CurrentTime | TargetApp | Unknown => rfl

/-! ## The whole evaluation -/

/-- Another user agrees on what a call for the node reads itself. -/
structure FieldsAgree (env : EvaluatorEnv) (user : StatsigUserInternal) (scores : GroupScores)
    (node : Node) : Prop where
  conditions : ∀ rule, RuleOf env node rule → ∀ hash ∈ rule.conditions,
    ∀ condition ∈ env.specs_data.condition_map.get hash, SameFields env.user user condition
  units : ∀ rule, RuleOf env node rule →
    env.user.get_unit_id rule.id_type = user.get_unit_id rule.id_type
  bandit : ∀ cmab, BanditOf env node cmab →
    env.user.get_unit_id cmab.id_type = user.get_unit_id cmab.id_type ∧
      ∀ config ∈ cmab.config, ∀ group ∈ cmab.groups,
        env.cmab_score group config = scores group config
  override : ∀ opt_spec, try_apply_override env node.2 node.1 opt_spec =
    try_apply_override (env.for_user user scores) node.2 node.1 opt_spec

theorem FieldsAgree.same_at {node : Node} (h : FieldsAgree env user scores node) :
    SameAt env (env.for_user user scores) node := by
  have hrule {rule : Rule} (hrule : RuleOf env node rule) :
      SameRule env (env.for_user user scores) rule :=
    ⟨fun hash hmem => ⟨rfl, fun condition hcondition =>
      read_value_congr (h.conditions rule hrule hash hmem condition hcondition)⟩,
      same_unit_of (h.units rule hrule)⟩
  exact
    { override := h.override
      mappings := rfl
      override_rules := fun _ _ _ _ _ _ => rfl
      mapping_rules := fun mapping rule hmapping => hrule (.inr ⟨mapping, hmapping⟩)
      bandit := by
        refine fun htype => ⟨rfl, fun cmab hcmab => ?_⟩
        obtain ⟨cmabs, hcmabs, hget⟩ := Option.bind_eq_some_iff.mp hcmab
        obtain ⟨hunit, hscores⟩ := h.bandit cmab ⟨htype, cmabs, hcmabs, hget⟩
        exact ⟨same_unit_of hunit, hscores⟩
      spec := rfl
      spec_rules := fun spec hspec rule hmem => hrule (.inl ⟨spec, hspec, hmem⟩)
      delegates := fun _ _ _ _ _ _ => rfl
      param_store := fun _ => Iff.rfl }

/-- An evaluation depends on the user only by the fields that reachable conditions name, by the ids
of reachable rules and bandits, and by what the override adapter answers: for any other user who
agrees there, the same run, from the same context, has the same outcome, exposures included. -/
theorem evaluate_depends_on_fields {node : Node}
    (h : ∀ b, Relation.ReflTransGen (Mentions env) node b → FieldsAgree env user scores b)
    (depth : Nat) (ctx : EvaluatorContext) :
    evaluate env depth node.2 node.1 ctx =
      evaluate (env.for_user user scores) depth node.2 node.1 ctx := by
  have heval : evaluate env depth node.2 node.1 =
      evaluate (env.for_user user scores) depth node.2 node.1 :=
    evaluate_congr (fun b hb => (h b hb).same_at) depth
  rw [heval]

/-- A gate for one country. -/
def country_gate : SpecsResponseFull where
  feature_gates := [("gate", { rules := [{ id := "nz", conditions := ["in_nz"] }] })]
  condition_map := [("in_nz",
    { condition_type := "user_field", field := some ⟨"country", "country"⟩ })]

/-- A user from the country, of whom some more is known in private. -/
def user_of (country secret : String) : StatsigUserInternal where
  data :=
    { country := some { string_value := some ⟨country, country⟩ }
      private_attributes := some [("secret", { string_value := some ⟨secret, secret⟩ })] }

/-- The evaluation of the gate for such a user. -/
def country_env (country secret : String) : EvaluatorEnv :=
  { EvaluatorEnv.plain country_gate with user := user_of country secret }

theorem secret_does_not_decide :
    evaluate (country_env "NZ" "a") 2 "gate" .Gate {} =
      evaluate (country_env "NZ" "b") 2 "gate" .Gate {} := by
  have hcondition {condition : Condition} (h : condition ∈ country_gate.condition_map.get "in_nz") :
      condition = { condition_type := "user_field", field := some ⟨"country", "country"⟩ } :=
    (Option.some.inj h).symm
  have halone := @mentions_nothing (country_env "NZ" "a") "gate" _ rfl rfl
    (List.forall_mem_singleton.mpr ⟨by
      rintro gate ⟨hash, hmem, condition, hget, htype, -⟩
      cases List.mem_singleton.mp hmem
      rw [hcondition hget] at htype
      revert htype
      decide, by
      rintro name ⟨hash, hmem, condition, field, hget, htype, -⟩
      cases List.mem_singleton.mp hmem
      rw [hcondition hget] at htype
      revert htype
      decide, rfl⟩)
  refine @evaluate_depends_on_fields (country_env "NZ" "a") (user_of "NZ" "b") (fun _ _ => none)
    (.Gate, "gate") ?_ 2 {}
  intro b hb
  obtain rfl := reaches_itself halone hb
  refine ⟨?_, ?_, ?_, fun _ => rfl⟩
  · intro rule hrule hash hmem condition hget
    have hrule := @rule_of_gate (country_env "NZ" "a") "gate" _ _ rfl rfl hrule
    rw [List.mem_singleton.mp hrule] at hmem
    cases List.mem_singleton.mp hmem
    rw [hcondition hget]
    rfl
  · intro rule hrule
    have hrule := @rule_of_gate (country_env "NZ" "a") "gate" _ _ rfl rfl hrule
    rw [List.mem_singleton.mp hrule]
    rfl
  · rintro cmab ⟨h, -⟩
    cases h

end statsig_rust.evaluation
