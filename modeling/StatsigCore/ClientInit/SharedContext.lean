-- One context serves the whole response, so a spec may find gates in the memo that other
-- specs asked for. Where no gate is missing, and nested gates leave alone what the memo does
-- not hold, the order of the specs does not show in the response.
import StatsigCore.ClientInit.GcirFormatter
import StatsigCore.Evaluation.Agreement

open program Relation

namespace statsig_rust.gcir

open evaluation

/-! ## Specs that the memo serves well -/

/-- What the evaluation of the nodes may evaluate. -/
def reached (env : EvaluatorEnv) (visited : Set Node) : Set Node :=
  {b | ∃ a ∈ visited, ReflTransGen (Refers env) a b}

/-- The gates that are asked as nested gates, and what they lead to. -/
def asked (env : EvaluatorEnv) (visited : Set Node) : Set Node :=
  {b | ∃ a ∈ reached env visited, ∃ rule gate, RuleOf env a rule ∧
    GateCondition env rule.conditions gate ∧
    ReflTransGen (fun a b => Nests env a b ∨ MapsTo env a b) (.Gate, gate) b}

/-- The evaluations end within the nesting limit, and evaluate all that they are asked for. -/
structure Grounded (env : EvaluatorEnv) (visited : Set Node) : Prop where
  short : ∃ height : Node → Nat, ∀ a ∈ reached env visited, height a < MAX_RECURSIVE_DEPTH ∧
    ∀ b, Refers env a b → height b < height a
  gates : ∀ a ∈ reached env visited, ∀ gate, Nests env a (.Gate, gate) →
    spec_of env (.Gate, gate) ≠ none
  supported : ∀ a ∈ reached env visited, ∀ rule, RuleOf env a rule → ∀ hash ∈ rule.conditions,
    SupportedHash env hash
  bandits : ∀ a ∈ reached env visited, ∀ cmab, BanditOf env a cmab → FixedGroup env cmab
  nested_bandits : ∀ a ∈ reached env visited, ∀ b, Nests env a b → ¬ Bandits env b

/-- No evaluation of the specs can tell whether a nested gate was in the memo. -/
structure MemoSafe (env : EvaluatorEnv) (visited : Set Node) : Prop
    extends Grounded env visited where
  groups : Ungrouped env (asked env visited)

section MemoSafe

variable {env : EvaluatorEnv} {visited : Set Node} {height : Node → Nat}

theorem reached_of_visited {a : Node} (h : a ∈ visited) : a ∈ reached env visited :=
  ⟨a, h, .refl⟩

theorem reached_refers {a b : Node} (ha : a ∈ reached env visited) (hab : Refers env a b) :
    b ∈ reached env visited := by
  obtain ⟨start, hstart, hpath⟩ := ha
  exact ⟨start, hstart, hpath.tail hab⟩

/-- A reference is to a gate or an experiment, or keeps the type of the node. -/
theorem refers_type {a b : Node} (h : Refers env a b) :
    b.1 = .Gate ∨ b.1 = .Experiment ∨ b.1 = a.1 := by
  rcases h with hnests | hasks | hmaps
  · cases hnests with
    | gate => exact .inl rfl
    | delegate => exact .inr (.inl rfl)
    | targeting => exact .inl rfl
  · exact .inr (.inl hasks.1)
  · exact .inr (.inr hmaps.1)

/-- A type that is neither of the two cannot appear on the way. -/
theorem refers_types {a b : Node} (hpath : ReflTransGen (Refers env) a b) {ty : SpecType}
    (hgate : ty ≠ .Gate) (hexperiment : ty ≠ .Experiment) (ha : a.1 ≠ ty) : b.1 ≠ ty := by
  induction hpath with
  | refl => exact ha
  | tail _ hstep ih =>
    rcases refers_type hstep with h | h | h
    · rw [h]
      exact hgate.symm
    · rw [h]
      exact hexperiment.symm
    · rw [h]
      exact ih

theorem asked_type {b : Node} (hb : b ∈ asked env visited) : b.1 ≠ .Layer := by
  obtain ⟨a, -, rule, gate, -, -, hpath⟩ := hb
  have hrefers : ReflTransGen (Refers env) (.Gate, gate) b := by
    refine ReflTransGen.mono (fun x y h => ?_) _ _ hpath
    rcases h with hnests | hmaps
    · exact .inl hnests
    · exact .inr (.inr hmaps)
  exact refers_types hrefers nofun nofun nofun

theorem bandits_of_maps {a b : Node} (hab : MapsTo env a b) (hb : Bandits env b) :
    Bandits env a := by
  obtain ⟨other, hpath, hbandit⟩ := hb
  exact ⟨other, hpath.head hab, hbandit⟩

/-- A gate is not mapped to a bandit. -/
theorem gate_not_bandits (gate : InternedString) : ¬ Bandits env (.Gate, gate) := by
  rintro ⟨other, hpath, cmab, hty, -⟩
  have hsame : other.1 = .Gate := by
    clear hty
    induction hpath with
    | refl => rfl
    | tail _ hstep ih => rw [hstep.1, ih]
  rw [hsame] at hty
  cases hty

theorem Grounded.asked_not_bandits (h : Grounded env visited) {b : Node}
    (hb : b ∈ asked env visited) : ¬ Bandits env b := by
  obtain ⟨a, ha, rule, gate, hrule, hgate, hpath⟩ := hb
  have hall : ∀ c, ReflTransGen (fun a b => Nests env a b ∨ MapsTo env a b) (.Gate, gate) c →
      c ∈ reached env visited ∧ ¬ Bandits env c := by
    intro c hc
    induction hc with
    | refl =>
      exact ⟨reached_refers ha (.inl (.gate hrule hgate)), gate_not_bandits gate⟩
    | tail _ hstep ih =>
      obtain ⟨hreached, hnot⟩ := ih
      rcases hstep with hnests | hmaps
      · exact ⟨reached_refers hreached (.inl hnests), h.nested_bandits _ hreached _ hnests⟩
      · exact ⟨reached_refers hreached (.inr (.inr hmaps)),
          fun hb => hnot (bandits_of_maps hmaps hb)⟩
  exact (hall b hpath).2

theorem untouched_without_adapter (hadapter : env.override_adapter = none) (node : Node) :
    Untouched env node := by
  unfold Untouched try_apply_override
  rw [hadapter]
  rfl

/-- The heights may be any that the references lower. -/
theorem Grounded.regular_at (h : Grounded env visited)
    (huntouched : ∀ a ∈ reached env visited, Untouched env a) (hstatsig : env.statsig = false)
    (htypes : ∀ a ∈ visited, a.1 ≠ .ParameterStore)
    (hheight : ∀ a ∈ reached env visited, height a < MAX_RECURSIVE_DEPTH ∧
      ∀ b, Refers env a b → height b < height a) :
    Regular env (reached env visited) (asked env visited) height := by
  exact {
    refers := fun a ha b hab => ⟨reached_refers ha hab, (hheight a ha).2 b hab⟩
    short := fun a ha => (hheight a ha).1
    types := by
      rintro b ⟨a, ha, hpath⟩
      exact refers_types hpath nofun nofun (htypes a ha)
    untouched := huntouched
    supported := h.supported
    gates := h.gates
    inner_gates := fun a ha rule hrule gate hgate => ⟨a, ha, rule, gate, hrule, hgate, .refl⟩
    inner_refers := by
      rintro a ⟨start, hstart, rule, gate, hrule, hgate, hpath⟩ b hab
      exact ⟨start, hstart, rule, gate, hrule, hgate, hpath.tail hab⟩
    inner_types := fun a ha => asked_type ha
    asked_groups := by
      rintro a ha b ⟨-, _, -, _, -, _, _, -, -, -, -, hs⟩
      rw [hstatsig] at hs
      cases hs
    inner_bandits := fun a ha cmab hbandit =>
      h.asked_not_bandits ha ⟨a, .refl, cmab, hbandit⟩
    nested_bandits := h.nested_bandits
    bandits := h.bandits }

theorem Grounded.regular (h : Grounded env visited)
    (huntouched : ∀ a ∈ reached env visited, Untouched env a) (hstatsig : env.statsig = false)
    (htypes : ∀ a ∈ visited, a.1 ≠ .ParameterStore) :
    ∃ height, Regular env (reached env visited) (asked env visited) height := by
  obtain ⟨height, hheight⟩ := h.short
  exact ⟨height, h.regular_at huntouched hstatsig htypes hheight⟩

end MemoSafe

/-! ## What a response shows -/

/-- What a client sees of an evaluation. -/
structure Shown where
  value : DynamicReturnable
  rule_id : Interned
  group_name : Option InternedString
  secondary_exposures : List SecondaryExposure

def shown_gate (eval : GateEvaluation) : Shown :=
  ⟨.bool eval.value, eval.base.rule_id, none, eval.base.secondary_exposures⟩

def shown_config : AnyConfigEvaluation → Shown
  | .DynamicConfig eval => ⟨eval.value, eval.base.rule_id, none, eval.base.secondary_exposures⟩
  | .Experiment eval =>
    ⟨eval.value, eval.base.rule_id, eval.group_name, eval.base.secondary_exposures⟩

def shown_layer (eval : LayerEvaluation) : Shown :=
  ⟨eval.value, eval.base.rule_id, eval.group_name, eval.base.secondary_exposures⟩

/-- Two results that show the same. -/
structure SameResult (r r' : EvaluatorResult) : Prop where
  bool_value : r.bool_value = r'.bool_value
  json_value : r.json_value = r'.json_value
  rule_id : r.rule_id = r'.rule_id
  rule_id_suffix : r.rule_id_suffix = r'.rule_id_suffix
  group_name : r.group_name = r'.group_name
  secondary_exposures : r.secondary_exposures = r'.secondary_exposures

/-- The factory makes an evaluation that shows what the result shows, and leaves the mark. -/
structure Faithful {T : Type} (evaluation_factory : EvaluationFactory T) (shown : T → Shown) :
    Prop where
  shows : ∀ entity hashed_name r r', SameResult r r' →
    shown (evaluation_factory entity hashed_name r).1 =
      shown (evaluation_factory entity hashed_name r').1
  unsupported : ∀ entity hashed_name r,
    (evaluation_factory entity hashed_name r).2.unsupported = r.unsupported

theorem gate_factory_faithful (options : ClientInitResponseOptions) :
    Faithful (gate_factory options) shown_gate := by
  refine ⟨fun entity hashed_name r r' h => ?_, fun _ _ _ => rfl⟩
  simp only [shown_gate, gate_factory, result_to_gate_eval, result_to_base_eval, h.bool_value,
    h.rule_id, h.rule_id_suffix, h.secondary_exposures]

theorem config_factory_faithful (options : ClientInitResponseOptions) :
    Faithful (config_factory options) shown_config := by
  refine ⟨fun entity hashed_name r r' h => ?_, fun entity hashed_name r => ?_⟩
  all_goals unfold config_factory
  · split
    · simp only [shown_config, result_to_dynamic_config_eval, result_to_base_eval, get_json_value,
        h.json_value, h.rule_id, h.rule_id_suffix, h.secondary_exposures]
    · simp only [shown_config, result_to_experiment_eval, result_to_base_eval, get_json_value,
        h.json_value, h.rule_id, h.rule_id_suffix, h.group_name, h.secondary_exposures]
  · split
    · rfl
    · rfl

theorem layer_factory_faithful (env : EvaluatorEnv) (options : ClientInitResponseOptions) :
    Faithful (layer_factory env options) shown_layer := by
  refine ⟨fun entity hashed_name r r' h => ?_, fun _ _ _ => rfl⟩
  simp only [shown_layer, layer_factory, result_to_layer_eval, result_to_base_eval,
    get_json_value, h.json_value, h.rule_id, h.rule_id_suffix, h.group_name,
    h.secondary_exposures]

/-! ## Hashed exposures -/

/-- The memo of hashed names holds the hashes of the names. -/
def HashesNames (hashing : HashUtil) (hash_algorithm : HashAlgorithm)
    (memo : HashMap InternedString InternedString) : Prop :=
  ∀ gate hash, memo.get gate = some hash → hash = hashing.hash gate hash_algorithm

/-- The first exposure of each key, with its gate hashed. -/
def hashed_exposures (hashing : HashUtil) (hash_algorithm : HashAlgorithm) :
    List SecondaryExposure → List String → List SecondaryExposure
  | [], _ => []
  | expo :: exposures, seen =>
    let expo_key := SecondaryExposure.get_dedupe_key expo
    if seen.contains expo_key then hashed_exposures hashing hash_algorithm exposures seen
    else { expo with gate := hashing.hash expo.gate hash_algorithm } ::
      hashed_exposures hashing hash_algorithm exposures (expo_key :: seen)

section Exposures

variable {hashing : HashUtil} {hash_algorithm : HashAlgorithm}

theorem HashesNames.insert {memo : HashMap InternedString InternedString}
    (h : HashesNames hashing hash_algorithm memo) (gate : InternedString) :
    HashesNames hashing hash_algorithm (memo.insert gate (hashing.hash gate hash_algorithm)) := by
  intro other hash hget
  rw [HashMap.get_insert] at hget
  split at hget
  · rename_i hsame
    rw [hsame, Option.some.inj hget]
  · exact h other hash hget

theorem loop_filter_n_hash_spec (exposures : List SecondaryExposure) (seen : List String)
    {memo : HashMap InternedString InternedString}
    (h : HashesNames hashing hash_algorithm memo) :
    (loop_filter_n_hash hashing hash_algorithm exposures seen memo).1 =
      hashed_exposures hashing hash_algorithm exposures seen ∧
    HashesNames hashing hash_algorithm
      (loop_filter_n_hash hashing hash_algorithm exposures seen memo).2 := by
  induction exposures generalizing seen memo with
  | nil => exact ⟨rfl, h⟩
  | cons expo exposures ih =>
    unfold loop_filter_n_hash hashed_exposures
    dsimp only
    split
    · exact ih seen h
    · split
      · rename_i hash hget
        obtain ⟨hlist, hmemo⟩ := ih (SecondaryExposure.get_dedupe_key expo :: seen) h
        rw [hlist, h _ _ hget]
        exact ⟨rfl, hmemo⟩
      · obtain ⟨hlist, hmemo⟩ := ih (SecondaryExposure.get_dedupe_key expo :: seen)
          (h.insert expo.gate)
        rw [hlist]
        exact ⟨rfl, hmemo⟩

/-- All that the hashing of the exposures changes. -/
theorem hash_secondary_exposures_eq {ctx : GcirContext}
    (h : HashesNames hashing hash_algorithm ctx.sec_expo_hash_memo) :
    ∃ undelegated memo, hash_secondary_exposures hashing hash_algorithm ctx = { ctx with
      evaluator.result.secondary_exposures :=
        hashed_exposures hashing hash_algorithm ctx.evaluator.result.secondary_exposures []
      evaluator.result.undelegated_secondary_exposures := undelegated
      sec_expo_hash_memo := memo } ∧ HashesNames hashing hash_algorithm memo := by
  obtain ⟨hlist, hmemo⟩ :=
    loop_filter_n_hash_spec ctx.evaluator.result.secondary_exposures [] h
  unfold hash_secondary_exposures
  dsimp only
  rw [hlist]
  split
  · exact ⟨ctx.evaluator.result.undelegated_secondary_exposures, _, rfl, hmemo⟩
  · rename_i undelegated _
    obtain ⟨-, hmemo'⟩ := loop_filter_n_hash_spec undelegated [] hmemo
    exact ⟨_, _, rfl, hmemo'⟩

end Exposures

/-! ## One spec -/

/-- The context of a response, between two specs. -/
structure Serves (env : EvaluatorEnv) (S : Set Node) (height : Node → Nat)
    (options : ClientInitResponseOptions) (ctx : GcirContext) : Prop where
  calm : Calm env S height 0 ctx.evaluator
  hashes : HashesNames env.hashing options.get_hash_algorithm ctx.sec_expo_hash_memo

/-- What is watched while the specs of a response are evaluated. -/
def watched (options : ClientInitResponseOptions) : Watch where
  exposures := True
  group_name := True
  is_in_layer := options.remove_experiments_in_layers.getD false = true
  rule_id_suffix := True

/-- A spec of the set is evaluated alike in any two contexts of responses. -/
def Uniform (env : EvaluatorEnv) (S : Set Node) (height : Node → Nat) (depth : Nat)
    (options : ClientInitResponseOptions) : Prop :=
  ∀ node ∈ S, ∀ s t, Clean env S height s → Clean env S height t → ∃ kind recognition s' t',
    evaluate env depth node.2 node.1 s.reset_result = .ok recognition s' ∧
    evaluate env depth node.2 node.1 t.reset_result = .ok recognition t' ∧
    Ends env S height (watched options) 0 kind false false node recognition s' t'

section OneSpec

variable {env : EvaluatorEnv} {S inner : Set Node} {height : Node → Nat} {depth : Nat}
  {options : ClientInitResponseOptions}

theorem fresh_serves : Serves env S height options {} := by
  refine ⟨⟨⟨fun gate entry _ h => ?_, rfl, rfl⟩, Nat.le_refl 0, rfl⟩, fun gate hash h => ?_⟩
  · rw [HashMap.get_nil] at h
    cases h
  · rw [HashMap.get_nil] at h
    cases h

/-- Specs that are regular are evaluated alike in any two contexts of responses. -/
theorem uniform_of_regular (h : Regular env S inner height) (hdepth : MAX_RECURSIVE_DEPTH ≤ depth)
    (hfits : Fits env inner (watched options)) : Uniform env S height depth options := by
  intro node hnode s t hs ht
  have hheight := h.short node hnode
  exact ⟨_, agreeing_of_regular h hnode depth depth 0 (watched options) false false (by omega)
    (by omega) (by omega) hfits (fun _ => ⟨trivial, trivial⟩) (fun _ => rfl) _ _
    (reset_alike hs ht _ 0)⟩

theorem same_result_of_decides {w : Watch} {level : Nat} {kind : Kind} {b₁ b₂ : Bool}
    {s t : EvaluatorContext} (h : Decides env S height w level kind b₁ b₂ s t) (hw : w.exposures)
    (hw' : w.group_name) (hw'' : w.rule_id_suffix) : SameResult s.result t.result :=
  ⟨h.bool_value, h.json_value, h.rule_id, h.rule_id_suffix hw'', h.group_name hw',
    h.exposures hw⟩

/-- The typed evaluations of two results that show the same show the same. -/
theorem finish_agrees {T : Type} {evaluation_factory : EvaluationFactory T} {shown : T → Shown}
    (hfaithful : Faithful evaluation_factory shown) (entity : InternedString)
    (hashed_name : String) {s t : GcirContext} (hs : Serves env S height options s)
    (ht : Serves env S height options t)
    (hsame : SameResult s.evaluator.result t.evaluator.result) :
    ∃ x s' y t',
      run_factory evaluation_factory entity hashed_name
        (hash_secondary_exposures env.hashing options.get_hash_algorithm s) = .ok x s' ∧
      run_factory evaluation_factory entity hashed_name
        (hash_secondary_exposures env.hashing options.get_hash_algorithm t) = .ok y t' ∧
      Serves env S height options s' ∧ Serves env S height options t' ∧ shown x = shown y := by
  obtain ⟨undelegated, memo, hhashed, hmemo⟩ := hash_secondary_exposures_eq hs.hashes
  obtain ⟨undelegated', memo', hhashed', hmemo'⟩ := hash_secondary_exposures_eq ht.hashes
  rw [hhashed, hhashed']
  refine ⟨_, _, _, _, rfl, rfl, ⟨hs.calm.with_result ?_, hmemo⟩,
    ⟨ht.calm.with_result ?_, hmemo'⟩, ?_⟩
  · rw [hfaithful.unsupported]
    exact hs.calm.supported
  · rw [hfaithful.unsupported]
    exact ht.calm.supported
  refine hfaithful.shows entity hashed_name _ _ ⟨hsame.bool_value, hsame.json_value, hsame.rule_id,
    hsame.rule_id_suffix, hsame.group_name, ?_⟩
  show hashed_exposures _ _ s.evaluator.result.secondary_exposures [] = _
  rw [hsame.secondary_exposures]

theorem process_spec_agrees {T : Type} {evaluation_factory : EvaluationFactory T}
    {shown : T → Shown} (hfaithful : Faithful evaluation_factory shown)
    (h : Uniform env S height depth options)
    {get_spec_type : specs_response.Spec → SpecType} {name : InternedString}
    {spec : specs_response.Spec} (hnode : (get_spec_type spec, name) ∈ S)
    (hpresent : spec_of env (get_spec_type spec, name) ≠ none) {s t : GcirContext}
    (hs : Serves env S height options s) (ht : Serves env S height options t) :
    ∃ x s' y t',
      process_spec env depth options get_spec_type evaluation_factory name spec s = .ok x s' ∧
      process_spec env depth options get_spec_type evaluation_factory name spec t = .ok y t' ∧
      Serves env S height options s' ∧ Serves env S height options t' ∧
      x.map shown = y.map shown := by
  obtain ⟨_, recognition, s₁, t₁, hrun, hrun', hends⟩ :=
    h _ hnode _ _ hs.calm.toClean ht.calm.toClean
  have hdecides := hends.decided (hends.present hpresent)
  have hsame := same_result_of_decides hdecides trivial trivial trivial
  have hcall : ∀ {c : GcirContext} {c₁ : EvaluatorContext},
      evaluate env depth name (get_spec_type spec) c.evaluator.reset_result = .ok recognition c₁ →
      evaluator_call (evaluate env depth name (get_spec_type spec))
        { c with evaluator := c.evaluator.reset_result } =
        .ok recognition { c with evaluator := c₁ } := by
    intro c c₁ hc
    unfold evaluator_call
    dsimp only
    rw [hc]
  have hs₁ : Serves env S height options { s with evaluator := s₁ } :=
    ⟨hdecides.first, hs.hashes⟩
  have ht₁ : Serves env S height options { t with evaluator := t₁ } :=
    ⟨hdecides.second, ht.hashes⟩
  have hdefault : is_default_value_gate options spec s₁.result =
      is_default_value_gate options spec t₁.result := by
    unfold is_default_value_gate
    rw [hsame.rule_id, hsame.bool_value, hsame.secondary_exposures]
  have hlayer : is_experiment_in_layer options spec s₁.result =
      is_experiment_in_layer options spec t₁.result := by
    unfold is_experiment_in_layer
    by_cases hremove : options.remove_experiments_in_layers.getD false = true
    · rw [hdecides.is_in_layer hremove rfl]
    · rw [Bool.eq_false_iff.mpr hremove, Bool.and_false, Bool.false_and, Bool.false_and]
  unfold process_spec
  simp only [update_bind]
  rw [bind_apply, hcall hrun, bind_apply, hcall hrun']
  simp only [andThen_ok, state_bind]
  rw [hdefault, hlayer]
  split
  · exact ⟨none, _, none, _, rfl, rfl, hs₁, ht₁, rfl⟩
  · split
    · exact ⟨none, _, none, _, rfl, rfl, hs₁, ht₁, rfl⟩
    · obtain ⟨x, s', y, t', hx, hy, hs', ht', hshown⟩ := finish_agrees hfaithful spec.entity
        (env.hashing.hash name options.get_hash_algorithm) hs₁ ht₁ hsame
      simp only [update_bind]
      rw [bind_apply, hx, bind_apply, hy]
      exact ⟨some x, s', some y, t', rfl, rfl, hs', ht', congrArg some hshown⟩

end OneSpec

/-! ## The loop -/

/-- The specs of a map that the loop evaluates. -/
def visited_specs (env : EvaluatorEnv) (options : ClientInitResponseOptions)
    (get_spec_type : specs_response.Spec → SpecType)
    (specs_map : HashMap InternedString specs_response.Spec) : Set Node :=
  {node | ∃ name spec, specs_map.get name = some spec ∧ skips env options spec name = false ∧
    node = (get_spec_type spec, name)}

/-- The evaluation of a spec alone, in a context of its own. -/
def alone {T : Type} (env : EvaluatorEnv) (depth : Nat) (options : ClientInitResponseOptions)
    (get_spec_type : specs_response.Spec → SpecType) (evaluation_factory : EvaluationFactory T)
    (specs_map : HashMap InternedString specs_response.Spec) (name : InternedString) : Option T :=
  match specs_map.get name with
  | none => none
  | some spec =>
    if skips env options spec name then none
    else
      match process_spec env depth options get_spec_type evaluation_factory name spec {} with
      | .ok eval _ => eval
      | _ => none

section Loop

variable {env : EvaluatorEnv} {S : Set Node} {height : Node → Nat} {depth : Nat}
  {options : ClientInitResponseOptions} {T : Type} {evaluation_factory : EvaluationFactory T}
  {shown : T → Shown} {get_spec_type : specs_response.Spec → SpecType}
  {specs_map : HashMap InternedString specs_response.Spec}

/-- Every spec of the loop is evaluated as if it were alone. -/
theorem process_keys_shows (hfaithful : Faithful evaluation_factory shown)
    (h : Uniform env S height depth options)
    (hvisited : ∀ node ∈ visited_specs env options get_spec_type specs_map,
      node ∈ S ∧ spec_of env node ≠ none)
    (keys : List InternedString) {s : GcirContext} (hs : Serves env S height options s) :
    ∃ evals s',
      process_keys env depth options get_spec_type evaluation_factory specs_map keys s =
        .ok evals s' ∧ Serves env S height options s' ∧
      evals.map (fun entry => (entry.1, shown entry.2)) = keys.filterMap fun name =>
        (alone env depth options get_spec_type evaluation_factory specs_map name).map
          fun eval => (name, shown eval) := by
  induction keys generalizing s with
  | nil => exact ⟨[], s, rfl, hs, rfl⟩
  | cons name names ih =>
    unfold process_keys
    rw [List.filterMap_cons]
    cases hget : specs_map.get name with
    | none =>
      have halone : alone env depth options get_spec_type evaluation_factory specs_map name =
          none := by
        unfold alone
        rw [hget]
      rw [halone]
      exact ih hs
    | some spec =>
      dsimp only
      cases hskips : skips env options spec name with
      | true =>
        have halone : alone env depth options get_spec_type evaluation_factory specs_map name =
            none := by
          unfold alone
          rw [hget]
          exact if_pos hskips
        rw [halone, if_pos rfl]
        exact ih hs
      | false =>
        obtain ⟨hnode, hpresent⟩ := hvisited _ ⟨name, spec, hget, hskips, rfl⟩
        obtain ⟨x, s', y, t', hrun, hfresh, hs', -, hshown⟩ :=
          process_spec_agrees hfaithful h hnode hpresent hs fresh_serves
        obtain ⟨evals, s'', hrest, hs'', hevals⟩ := ih hs'
        have halone : alone env depth options get_spec_type evaluation_factory specs_map name =
            y := by
          unfold alone
          rw [hget]
          dsimp only
          rw [hskips, hfresh]
          rfl
        simp only [Bool.false_eq_true, ↓reduceIte]
        refine ⟨(x.map fun eval => (name, eval)).toList ++ evals, s'', ?_, hs'', ?_⟩
        · rw [bind_apply, hrun]
          simp only [andThen_ok]
          rw [bind_apply, hrest]
          rfl
        · rw [halone, List.map_append, hevals]
          cases x with
          | none =>
            cases y with
            | none => rfl
            | some y => cases hshown
          | some x =>
            cases y with
            | none => cases hshown
            | some y =>
              have hxy : shown x = shown y := Option.some.inj hshown
              show (name, shown x) :: _ = (name, shown y) :: _
              rw [hxy]
              rfl

end Loop

/-! ## The map of the results -/

section Results

variable {T : Type} {env : EvaluatorEnv} {options : ClientInitResponseOptions}

theorem filter_map_keys {κ υ : Type} (g : κ → Option υ) (keys : List κ) :
    ((keys.filterMap fun key => (g key).map fun value => (key, value)).map Prod.fst).Sublist
      keys := by
  induction keys with
  | nil => exact .refl []
  | cons key keys ih =>
    rw [List.filterMap_cons]
    cases g key with
    | none => exact ih.cons key
    | some value => exact ih.cons_cons key

end Results

/-! ## The parts of a response -/

/-- The results show, for every spec that is evaluated, what the spec alone shows. -/
def ShowsAlone {T : Type} (env : EvaluatorEnv) (depth : Nat) (options : ClientInitResponseOptions)
    (get_spec_type : specs_response.Spec → SpecType) (evaluation_factory : EvaluationFactory T)
    (shown : T → Shown) (specs_map : HashMap InternedString specs_response.Spec)
    (results : HashMap String T) : Prop :=
  ∀ node ∈ visited_specs env options get_spec_type specs_map,
    (results.get (env.hashing.hash node.2 options.get_hash_algorithm)).map shown =
      (alone env depth options get_spec_type evaluation_factory specs_map node.2).map shown

section Parts

variable {env : EvaluatorEnv} {S : Set Node} {height : Node → Nat} {depth : Nat}
  {options : ClientInitResponseOptions} {orders : MapOrders}
  {specs : specs_response.SpecsResponseFull}

/-- The loop goes through, and each of its evaluations shows what its spec alone shows. -/
theorem gcir_process_iter_evals {T : Type} [GCIRHashable T]
    {evaluation_factory : EvaluationFactory T} {shown : T → Shown}
    (hfaithful : Faithful evaluation_factory shown) (h : Uniform env S height depth options)
    {get_spec_type : specs_response.Spec → SpecType}
    {specs_map : HashMap InternedString specs_response.Spec}
    (hvisited : ∀ node ∈ visited_specs env options get_spec_type specs_map,
      node ∈ S ∧ spec_of env node ≠ none) (hasher : Hasher) (orders : MapOrders)
    (keys : List InternedString) {s : GcirContext} (hs : Serves env S height options s) :
    ∃ evals s',
      gcir_process_iter env depth options get_spec_type evaluation_factory hasher orders specs_map
        keys s = .ok (collect_results env options evals) s' ∧ Serves env S height options s' ∧
      evals.map (fun entry => (entry.1, shown entry.2)) =
        (ordered_keys options keys).filterMap fun name =>
          (alone env depth options get_spec_type evaluation_factory specs_map name).map
            fun eval => (name, shown eval) := by
  obtain ⟨evals, s₁, hrun, hs₁, hevals⟩ := process_keys_shows hfaithful h hvisited
    (ordered_keys options keys) hs
  unfold gcir_process_iter
  rw [bind_apply, hrun]
  simp only [andThen_ok]
  by_cases hprevious : options.previous_response_hash.isSome
  · rw [if_pos hprevious]
    exact ⟨evals, _, rfl, ⟨hs₁.calm, hs₁.hashes⟩, hevals⟩
  · rw [if_neg hprevious]
    exact ⟨evals, _, rfl, hs₁, hevals⟩

/-- A bandit leaves the context as good as it was. -/
theorem process_cmab_serves (h : Uniform env S height depth options)
    {config_name : String} (hnode : (.Experiment, config_name) ∈ S) {s : GcirContext}
    (hs : Serves env S height options s) :
    ∃ eval s', process_cmab env depth options config_name s = .ok eval s' ∧
      Serves env S height options s' := by
  obtain ⟨_, recognition, s₁, t₁, hrun, -, hends⟩ :=
    h _ hnode _ _ hs.calm.toClean hs.calm.toClean
  have hcalm : Calm env S height 0 s₁ := by
    cases recognition with
    | Recognized => exact (hends.decided rfl).first
    | Unrecognized =>
      obtain ⟨_, _, hunknown⟩ := hends.unknown rfl
      exact hunknown.first
  have hs₁ : Serves env S height options { s with evaluator := s₁ } := ⟨hcalm, hs.hashes⟩
  obtain ⟨eval, s', _, _, hfinish, -, hs', -, -⟩ := finish_agrees (config_factory_faithful options)
    "autotune" (env.hashing.hash config_name options.get_hash_algorithm) hs₁ hs₁
    ⟨rfl, rfl, rfl, rfl, rfl, rfl⟩
  refine ⟨eval, s', ?_, hs'⟩
  have hcall : attempt (evaluator_call (evaluate env depth config_name .Experiment))
      { s with evaluator := s.evaluator.reset_result } =
      .ok (.ok recognition) { s with evaluator := s₁ } := by
    unfold attempt evaluator_call
    dsimp only
    rw [hrun]
  unfold process_cmab
  simp only [update_bind]
  rw [bind_apply, hcall]
  simp only [andThen_ok, update_bind]
  exact hfinish

/-- The bandits that the response holds. -/
def visited_cmabs (env : EvaluatorEnv) (options : ClientInitResponseOptions)
    (specs : specs_response.SpecsResponseFull) : Set Node :=
  {node | ∃ cmab_configs, specs.cmab_configs = some cmab_configs ∧
    ∃ config_name, cmab_configs.get config_name ≠ none ∧
      skips_cmab env options cmab_configs config_name = false ∧
      node = (.Experiment, config_name)}

theorem add_cmab_evaluations_serves (h : Uniform env S height depth options)
    (hvisited : ∀ node ∈ visited_cmabs env options specs, node ∈ S)
    (horder : Iterates (specs.cmab_configs.getD []) orders.cmab_configs)
    (result : HashMap String AnyConfigEvaluation) {s : GcirContext}
    (hs : Serves env S height options s) :
    ∃ result' s', add_cmab_evaluations env depth orders options specs result s = .ok result' s' ∧
      Serves env S height options s' := by
  unfold add_cmab_evaluations
  cases hcmabs : specs.cmab_configs with
  | none => exact ⟨result, s, rfl, hs⟩
  | some cmab_configs =>
    rw [hcmabs, Option.getD_some] at horder
    have hall : ∀ names, (∀ name ∈ names, name ∈ orders.cmab_configs) →
        ∀ result {s : GcirContext}, Serves env S height options s →
        ∃ result' s', process_cmabs env depth options cmab_configs names result s =
          .ok result' s' ∧ Serves env S height options s' := by
      intro names
      induction names with
      | nil => exact fun _ result s hs => ⟨result, s, rfl, hs⟩
      | cons name names ih =>
        intro hsub result s hs
        have hrest := ih fun other hother => hsub other (List.mem_cons_of_mem name hother)
        unfold process_cmabs
        cases hskips : skips_cmab env options cmab_configs name with
        | true => exact hrest result hs
        | false =>
          have hnode := hvisited _ ⟨cmab_configs, hcmabs, name,
            (horder.mem name).mp (hsub name List.mem_cons_self), hskips, rfl⟩
          obtain ⟨eval, s₁, hrun, hs₁⟩ := process_cmab_serves h hnode hs
          obtain ⟨result', s', hrun', hs'⟩ := hrest (result.insert
            (env.hashing.hash name options.get_hash_algorithm) eval) hs₁
          refine ⟨result', s', ?_, hs'⟩
          simp only [Bool.false_eq_true, ↓reduceIte]
          rw [bind_apply, hrun]
          exact hrun'
    exact hall orders.cmab_configs (fun _ h => h) result hs

end Parts

end statsig_rust.gcir
