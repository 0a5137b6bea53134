-- The order of the specs does not show in a response where the memo is safe. A gate that the
-- specs do not hold is memoized with the rule id of whatever was evaluated before it, and
-- there the order shows.
import StatsigCore.ClientInit.SharedContext
import StatsigCore.Evaluation.RulesInReach

open program Relation

namespace statsig_rust.gcir

open evaluation

/-! ## The evaluations of a response -/

structure Evaluations where
  gates : HashMap String GateEvaluation
  configs : HashMap String AnyConfigEvaluation
  layers : HashMap String LayerEvaluation

section

variable (env : EvaluatorEnv) (depth : Nat) (options : ClientInitResponseOptions)
  (specs : specs_response.SpecsResponseFull)

def visited_gates : Set Node :=
  visited_specs env options (fun _ => .Gate) specs.feature_gates

def visited_configs : Set Node :=
  visited_specs env options get_dynamic_config_type specs.dynamic_configs

def visited_layers : Set Node :=
  visited_specs env options (fun _ => .Layer) specs.layer_configs

/-- All that a response evaluates. -/
def visited : Set Node :=
  {node | node ∈ visited_gates env options specs ∨ node ∈ visited_configs env options specs ∨
    node ∈ visited_layers env options specs ∨ node ∈ visited_cmabs env options specs}

/-- Each spec shows what it shows alone. -/
structure Evaluations.Alone (evals : Evaluations) : Prop where
  gates : ShowsAlone env depth options (fun _ => .Gate) (gate_factory options) shown_gate
    specs.feature_gates evals.gates
  configs : ShowsAlone env depth options get_dynamic_config_type (config_factory options)
    shown_config specs.dynamic_configs evals.configs
  layers : ShowsAlone env depth options (fun _ => .Layer) (layer_factory env options) shown_layer
    specs.layer_configs evals.layers

/-- Two responses show the same for each spec. -/
structure Evaluations.Same (evals evals' : Evaluations) : Prop where
  gates : ∀ node ∈ visited_gates env options specs,
    (evals.gates.get (env.hashing.hash node.2 options.get_hash_algorithm)).map shown_gate =
      (evals'.gates.get (env.hashing.hash node.2 options.get_hash_algorithm)).map shown_gate
  configs : ∀ node ∈ visited_configs env options specs,
    (evals.configs.get (env.hashing.hash node.2 options.get_hash_algorithm)).map shown_config =
      (evals'.configs.get (env.hashing.hash node.2 options.get_hash_algorithm)).map shown_config
  layers : ∀ node ∈ visited_layers env options specs,
    (evals.layers.get (env.hashing.hash node.2 options.get_hash_algorithm)).map shown_layer =
      (evals'.layers.get (env.hashing.hash node.2 options.get_hash_algorithm)).map shown_layer

end

section

variable {env : EvaluatorEnv} {S inner : Set Node} {height : Node → Nat} {depth : Nat}
  {options : ClientInitResponseOptions} {specs : specs_response.SpecsResponseFull}

theorem Evaluations.Alone.same {evals evals' : Evaluations}
    (h : evals.Alone env depth options specs) (h' : evals'.Alone env depth options specs) :
    evals.Same env options specs evals' where
  gates node hnode := (h.gates node hnode).trans (h'.gates node hnode).symm
  configs node hnode := (h.configs node hnode).trans (h'.configs node hnode).symm
  layers node hnode := (h.layers node hnode).trans (h'.layers node hnode).symm

/-- The evaluator finds every spec that a map of the response holds. -/
theorem visited_present (options : ClientInitResponseOptions)
    (hview : env.specs_data = evaluator_view specs) :
    (∀ node ∈ visited_gates env options specs, spec_of env node ≠ none) ∧
    (∀ node ∈ visited_configs env options specs, spec_of env node ≠ none) ∧
    ∀ node ∈ visited_layers env options specs, spec_of env node ≠ none := by
  refine ⟨?_, ?_, ?_⟩
  · rintro node ⟨name, spec, hget, -, rfl⟩
    unfold spec_of find_spec
    rw [hview]
    show HashMap.get (specs.feature_gates.map fun entry => (entry.1, entry.2.toSpec)) name ≠ none
    rw [HashMap.get_map (fun spec : specs_response.Spec => spec.toSpec), hget]
    exact Option.some_ne_none _
  · rintro node ⟨name, spec, hget, -, rfl⟩
    have hsome : HashMap.get (specs.dynamic_configs.map fun entry => (entry.1, entry.2.toSpec))
        name ≠ none := by
      rw [HashMap.get_map (fun spec : specs_response.Spec => spec.toSpec), hget]
      exact Option.some_ne_none _
    unfold spec_of find_spec
    rw [hview]
    unfold get_dynamic_config_type
    by_cases hentity : spec.entity = "dynamic_config"
    · rw [if_pos hentity]
      exact hsome
    · rw [if_neg hentity]
      exact hsome
  · rintro node ⟨name, spec, hget, -, rfl⟩
    unfold spec_of find_spec
    rw [hview]
    show HashMap.get (specs.layer_configs.map fun entry => (entry.1, entry.2.toSpec)) name ≠ none
    rw [HashMap.get_map (fun spec : specs_response.Spec => spec.toSpec), hget]
    exact Option.some_ne_none _

theorem visited_types {node : Node} (h : node ∈ visited env options specs) :
    node.1 ≠ .ParameterStore := by
  rcases h with ⟨_, _, _, _, rfl⟩ | ⟨_, spec, _, _, rfl⟩ | ⟨_, _, _, _, rfl⟩ |
    ⟨_, _, _, _, _, rfl⟩
  · exact nofun
  · unfold get_dynamic_config_type
    dsimp only
    split
    · exact nofun
    · exact nofun
  · exact nofun
  · exact nofun

end

/-! ## Rules out of reach -/

section InReach

variable {env : EvaluatorEnv} {S inner : Set Node} {height : Node → Nat} {depth : Nat}
  {options : ClientInitResponseOptions} {w : Watch} {level : Nat} {b₁ b₂ : Bool}
  {c s t : EvaluatorContext}

end InReach

/-- Some order of the keys of a map. -/
def keys_of {κ υ : Type} [DecidableEq κ] (map : HashMap κ υ) : List κ := (map.map Prod.fst).dedup

theorem iterates_keys_of {κ υ : Type} [DecidableEq κ] (map : HashMap κ υ) :
    Iterates map (keys_of map) := by
  refine ⟨List.nodup_dedup _, fun key => ?_⟩
  unfold keys_of
  rw [List.mem_dedup]
  constructor
  · intro h
    obtain ⟨value, hvalue⟩ := HashMap.get_of_mem_keys h
    rw [hvalue]
    exact Option.some_ne_none value
  · intro h
    obtain ⟨value, hvalue⟩ := Option.ne_none_iff_exists'.mp h
    exact HashMap.mem_keys_of_get hvalue

/-- Some order of the maps of the specs. -/
def some_orders (specs : specs_response.SpecsResponseFull) : MapOrders where
  feature_gates := keys_of specs.feature_gates
  dynamic_configs := keys_of specs.dynamic_configs
  layer_configs := keys_of specs.layer_configs
  cmab_configs := keys_of (specs.cmab_configs.getD [])
  param_stores := keys_of (specs.param_stores.getD [])
  event_triggers := keys_of ((specs.session_replay_info.bind
    (·.session_recording_event_triggers)).getD [])
  exposure_triggers := keys_of ((specs.session_replay_info.bind
    (·.session_recording_exposure_triggers)).getD [])
  parameter_rule_ids := fun _ => keys_of
  merged_values := fun _ _ => keys_of

theorem some_orders_fit (specs : specs_response.SpecsResponseFull) :
    (some_orders specs).Fits specs where
  feature_gates := iterates_keys_of _
  dynamic_configs := iterates_keys_of _
  layer_configs := iterates_keys_of _
  cmab_configs := iterates_keys_of _
  param_stores := iterates_keys_of _
  event_triggers data hdata := by
    unfold some_orders
    rw [hdata]
    exact iterates_keys_of _
  exposure_triggers data hdata := by
    unfold some_orders
    rw [hdata]
    exact iterates_keys_of _
  parameter_rule_ids _ := iterates_keys_of
  merged_values _ _ := iterates_keys_of

/-- A hasher that tells nothing apart. -/
def zero_hasher : Hasher := ⟨fun _ => 0, fun _ => 0, fun _ => 0⟩

/-- The names stay as they are. -/
def plain_names : ClientInitResponseOptions := { hash_algorithm := some .None }

/-- In simple specs whose rules name no groups, the memo is safe. -/
theorem simple_memo_safe {env : EvaluatorEnv} (h : Simple env) {visited : Set Node}
    (height : Node → Nat) (hshort : ∀ a, height a < MAX_RECURSIVE_DEPTH)
    (hlower : ∀ a b, Nests env a b → height b < height a)
    (hgroups : ∀ a spec, spec_of env a = some spec → ∀ rule ∈ spec.rules, rule.group_name = none)
    (hvisited : ∀ a ∈ visited, ∃ spec, spec_of env a = some spec) : MemoSafe env visited := by
  have hreached : ∀ a ∈ reached env visited, ∃ spec, spec_of env a = some spec := by
    rintro a ⟨start, hstart, hpath⟩
    cases hpath with
    | refl => exact hvisited _ hstart
    | tail _ hstep => exact h.nests_present (h.refers_nests hstep)
  exact {
    short := ⟨height, fun a _ => ⟨hshort a, fun b hab => hlower a b (h.refers_nests hab)⟩⟩
    gates := by
      intro a _ gate hgate
      obtain ⟨spec, hspec⟩ := h.nests_present hgate
      rw [hspec]
      exact Option.some_ne_none spec
    supported := by
      intro a _ rule hrule
      obtain ⟨spec, hspec, hmem⟩ := h.rule_of hrule
      exact h.supported a spec hspec rule hmem
    bandits := fun a _ cmab hbandit => absurd hbandit (h.not_bandit a cmab)
    nested_bandits := by
      rintro a _ b _ ⟨other, -, cmab, hbandit⟩
      exact h.not_bandit other cmab hbandit
    groups := fun a _ => hgroups a }

end statsig_rust.gcir
