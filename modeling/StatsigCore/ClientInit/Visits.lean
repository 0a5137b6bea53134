-- The evaluations behind a response. The loops of every format evaluate the same specs one
-- after the other, and what a format writes is made from the results of these visits: the
-- hashing of the exposures comes between a visit and its entry.
import StatsigCore.ClientInit.LaterFormats
import StatsigCore.ClientInit.SharedContext

open program

namespace statsig_rust.gcir

open evaluation

/-! ## Visits -/

/-- One evaluation of the run, as the evaluator left its result. -/
structure Visit where
  name : InternedString
  entity : InternedString
  result : EvaluatorResult

section

variable (env : EvaluatorEnv) (depth : Nat) (options : ClientInitResponseOptions)

/-- The visit of a spec, unless its entry is left out. -/
def visit_spec (get_spec_type : specs_response.Spec → SpecType) (name : InternedString)
    (spec : specs_response.Spec) : Eval (Option Visit) := do
  update EvaluatorContext.reset_result
  let _ ← evaluate env depth name (get_spec_type spec)
  let ctx ← state
  if is_default_value_gate options spec ctx.result then pure none
  else if is_experiment_in_layer options spec ctx.result then pure none
  else pure (some { name, entity := spec.entity, result := ctx.result })

def visit_keys (get_spec_type : specs_response.Spec → SpecType)
    (specs_map : HashMap InternedString specs_response.Spec) :
    List InternedString → Eval (List Visit)
  | [] => pure []
  | name :: names =>
    match specs_map.get name with
    | none => visit_keys get_spec_type specs_map names
    | some spec =>
      if skips env options spec name then visit_keys get_spec_type specs_map names
      else do
        let visit ← visit_spec env depth options get_spec_type name spec
        let rest ← visit_keys get_spec_type specs_map names
        pure (visit.toList ++ rest)

/-- The visit of a bandit, also where its evaluation fails. -/
def visit_cmab (config_name : String) : Eval Visit := do
  update EvaluatorContext.reset_result
  let _ ← attempt (evaluate env depth config_name .Experiment)
  let ctx ← state
  pure { name := config_name, entity := "autotune", result := ctx.result }

def visit_cmabs (cmab_configs : HashMap String specs_response.CMABConfig) :
    List String → Eval (List Visit)
  | [] => pure []
  | config_name :: names =>
    if skips_cmab env options cmab_configs config_name then visit_cmabs cmab_configs names
    else do
      let visit ← visit_cmab env depth config_name
      let rest ← visit_cmabs cmab_configs names
      pure (visit :: rest)

def visit_all_cmabs (orders : MapOrders) (specs : specs_response.SpecsResponseFull) :
    Eval (List Visit) :=
  match specs.cmab_configs with
  | none => pure []
  | some cmab_configs => visit_cmabs env depth options cmab_configs orders.cmab_configs

/-- The visits of a response, by the part that they are for. -/
structure Visits where
  gates : List Visit
  configs : List Visit
  cmabs : List Visit
  layers : List Visit

def Visits.all (visits : Visits) : List Visit :=
  visits.gates ++ visits.configs ++ visits.cmabs ++ visits.layers

def visit_specs (orders : MapOrders) (specs : specs_response.SpecsResponseFull) : Eval Visits := do
  let gates ← visit_keys env depth options (fun _ => .Gate) specs.feature_gates
    (ordered_keys options orders.feature_gates)
  let configs ← visit_keys env depth options get_dynamic_config_type specs.dynamic_configs
    (ordered_keys options orders.dynamic_configs)
  let cmabs ← visit_all_cmabs env depth options orders specs
  let layers ← visit_keys env depth options (fun _ => .Layer) specs.layer_configs
    (ordered_keys options orders.layer_configs)
  pure { gates, configs, cmabs, layers }

/-! ## Entries -/

def hashed_name (visit : Visit) : String := env.hashing.hash visit.name options.get_hash_algorithm

/-- A result with the exposures that are shown: the first of each key, with its gate hashed. -/
def hashed (result : EvaluatorResult) : EvaluatorResult :=
  { result with
    secondary_exposures :=
      hashed_exposures env.hashing options.get_hash_algorithm result.secondary_exposures []
    undelegated_secondary_exposures := result.undelegated_secondary_exposures.map fun undelegated =>
      hashed_exposures env.hashing options.get_hash_algorithm undelegated [] }

/-- The entries of the visits, each under its hashed name. -/
def entry_map {T : Type} (entries : List (Visit × T)) (result : HashMap String T) :
    HashMap String T :=
  entries.foldl (fun result entry => result.insert (hashed_name env options entry.1) entry.2) result

/-- The entries that a factory makes of the visits, where it reads only the result. -/
def make_entries {T : Type} (evaluation_factory : EvaluationFactory T) (visits : List Visit) :
    List (Visit × T) :=
  visits.map fun visit => (visit,
    (evaluation_factory visit.entity (hashed_name env options visit)
      (hashed env options visit.result)).1)

/-- The entries that a factory makes of the visits and what it leaves in its tables. -/
def fill {Tables T : Type} (evaluation_factory : TableFactory Tables T)
    (prepare : EvaluatorResult → EvaluatorResult) :
    List Visit → Tables → List (Visit × T) × Tables
  | [], tables => ([], tables)
  | visit :: visits, tables =>
    let eval := evaluation_factory visit.entity (hashed_name env options visit)
      (prepare visit.result) tables
    let rest := fill evaluation_factory prepare visits eval.2
    ((visit, eval.1) :: rest.1, rest.2)

end

section Entries

variable {env : EvaluatorEnv} {options : ClientInitResponseOptions} {T Tables : Type}

theorem entry_map_get {entries : List (Visit × T)} {result : HashMap String T} {key : String}
    {eval : T} (h : (entry_map env options entries result).get key = some eval) :
    (∃ visit, (visit, eval) ∈ entries ∧ hashed_name env options visit = key) ∨
      result.get key = some eval := by
  induction entries generalizing result with
  | nil => exact .inr h
  | cons entry entries ih =>
    rcases ih h with ⟨visit, hmem, hname⟩ | hget
    · exact .inl ⟨visit, List.mem_cons_of_mem _ hmem, hname⟩
    · rw [HashMap.get_insert] at hget
      by_cases hkey : key = hashed_name env options entry.1
      · rw [if_pos hkey] at hget
        refine .inl ⟨entry.1, ?_, hkey.symm⟩
        rw [← Option.some.inj hget]
        exact List.mem_cons_self ..
      · rw [if_neg hkey] at hget
        exact .inr hget

theorem entry_map_append (entries entries' : List (Visit × T)) (result : HashMap String T) :
    entry_map env options (entries ++ entries') result =
      entry_map env options entries' (entry_map env options entries result) :=
  List.foldl_append ..

theorem fill_visits (env : EvaluatorEnv) (options : ClientInitResponseOptions)
    (evaluation_factory : TableFactory Tables T) (prepare : EvaluatorResult → EvaluatorResult)
    (visits : List Visit) (tables : Tables) :
    (fill env options evaluation_factory prepare visits tables).1.map Prod.fst = visits := by
  induction visits generalizing tables with
  | nil => rfl
  | cons visit visits ih => exact congrArg (visit :: ·) (ih _)

end Entries

/-! ## Runs and their visits -/

/-- A run of the response beside a run of the visits: the next evaluation starts alike, and
the memo of hashed names is right. -/
structure Mirrored (env : EvaluatorEnv) (options : ClientInitResponseOptions) (s : GcirContext)
    (t : EvaluatorContext) : Prop where
  next : s.evaluator.reset_result = t.reset_result
  hashes : HashesNames env.hashing options.get_hash_algorithm s.sec_expo_hash_memo

/-- Where `x` gives a value, `y` gives a related one. -/
def Mirrors {α β : Type} (env : EvaluatorEnv) (options : ClientInitResponseOptions) (x : Gcir α)
    (y : Eval β) (R : α → β → Prop) : Prop :=
  ∀ s t a s', Mirrored env options s t → x s = .ok a s' →
    ∃ b t', y t = .ok b t' ∧ R a b ∧ Mirrored env options s' t'

section Mirrors

variable {env : EvaluatorEnv} {depth : Nat} {options : ClientInitResponseOptions}
  {α β α' β' : Type} {R : α → β → Prop} {R' : α' → β' → Prop}

theorem mirrors_pure {a : α} {b : β} (h : R a b) :
    Mirrors env options (pure a) (pure b) R := by
  intro s t a' s' hm hrun
  cases hrun
  exact ⟨b, t, rfl, h, hm⟩

theorem Mirrors.bind {x : Gcir α} {y : Eval β} {f : α → Gcir α'} {g : β → Eval β'}
    (h : Mirrors env options x y R) (hf : ∀ a b, R a b → Mirrors env options (f a) (g b) R') :
    Mirrors env options (x >>= f) (y >>= g) R' := by
  intro s t a s' hm hrun
  obtain ⟨b, s₁, hx, hrest⟩ := ok_of_bind hrun
  obtain ⟨c, t₁, hy, hr, hm₁⟩ := h s t b s₁ hm hx
  obtain ⟨d, t', hg, hr', hm'⟩ := hf b c hr s₁ t₁ a s' hm₁ hrest
  exact ⟨d, t', by rw [bind_apply, hy, andThen_ok, hg], hr', hm'⟩

/-- A step of the response alone. -/
theorem Mirrors.after {x : Gcir α} {f : α → Gcir α'} {y : Eval β'}
    (hx : ∀ s t a s', Mirrored env options s t → x s = .ok a s' → Mirrored env options s' t)
    (hf : ∀ a, Mirrors env options (f a) y R') : Mirrors env options (x >>= f) y R' := by
  intro s t a s' hm hrun
  obtain ⟨b, s₁, hrun₁, hrest⟩ := ok_of_bind hrun
  exact hf b s₁ t a s' (hx s t b s₁ hm hrun₁) hrest

theorem Mirrors.then_pure {x : Gcir α} {y : Eval β} {g : β → β'} {R₁ : α → β' → Prop}
    (h : Mirrors env options x y R) (hr : ∀ a b, R a b → R₁ a (g b)) :
    Mirrors env options x (y >>= fun b => pure (g b)) R₁ := by
  intro s t a s' hm hrun
  obtain ⟨b, t', hy, hrel, hm'⟩ := h s t a s' hm hrun
  exact ⟨g b, t', by rw [bind_apply, hy]; rfl, hr a b hrel, hm'⟩

/-- All that the hashing of the exposures does. -/
theorem hash_secondary_exposures_hashed (ctx : GcirContext)
    (h : HashesNames env.hashing options.get_hash_algorithm ctx.sec_expo_hash_memo) :
    ∃ memo, hash_secondary_exposures env.hashing options.get_hash_algorithm ctx =
        { ctx with
          evaluator.result := hashed env options ctx.evaluator.result
          sec_expo_hash_memo := memo } ∧
      HashesNames env.hashing options.get_hash_algorithm memo := by
  obtain ⟨hlist, hmemo⟩ :=
    loop_filter_n_hash_spec ctx.evaluator.result.secondary_exposures [] h
  unfold hash_secondary_exposures hashed
  dsimp only
  rw [hlist]
  cases hundelegated : ctx.evaluator.result.undelegated_secondary_exposures with
  | none => exact ⟨_, rfl, hmemo⟩
  | some undelegated =>
    obtain ⟨hlist', hmemo'⟩ := loop_filter_n_hash_spec undelegated [] hmemo
    dsimp only
    rw [hlist']
    exact ⟨_, rfl, hmemo'⟩

theorem process_spec_mirrors (get_spec_type : specs_response.Spec → SpecType) {T : Type}
    (evaluation_factory : EvaluationFactory T) (name : InternedString)
    (spec : specs_response.Spec) :
    Mirrors env options (process_spec env depth options get_spec_type evaluation_factory name spec)
      (visit_spec env depth options get_spec_type name spec)
      (fun eval visit => (∀ v, visit = some v → v.name = name ∧ v.entity = spec.entity) ∧
        eval = visit.map fun visit =>
          (evaluation_factory visit.entity (hashed_name env options visit)
            (hashed env options visit.result)).1) := by
  intro s t a s' hm hrun
  unfold process_spec at hrun
  unfold visit_spec
  rw [update_bind] at hrun ⊢
  obtain ⟨recognition, s₁, hcall, hrest⟩ := ok_of_bind hrun
  unfold evaluator_call at hcall
  dsimp only at hcall
  rw [hm.next] at hcall
  rw [bind_apply]
  cases heval : evaluate env depth name (get_spec_type spec) t.reset_result with
  | err e c =>
    rw [heval] at hcall
    cases hcall
  | deep =>
    rw [heval] at hcall
    cases hcall
  | ok found c =>
    rw [heval] at hcall
    cases hcall
    rw [andThen_ok, state_bind]
    rw [state_bind] at hrest
    dsimp only at hrest
    by_cases hdefault : is_default_value_gate options spec c.result = true
    · rw [if_pos hdefault] at hrest ⊢
      cases hrest
      exact ⟨none, c, rfl, ⟨fun _ hv => absurd hv (by simp), rfl⟩, rfl, hm.hashes⟩
    rw [if_neg hdefault] at hrest ⊢
    by_cases hlayer : is_experiment_in_layer options spec c.result = true
    · rw [if_pos hlayer] at hrest ⊢
      cases hrest
      exact ⟨none, c, rfl, ⟨fun _ hv => absurd hv (by simp), rfl⟩, rfl, hm.hashes⟩
    rw [if_neg hlayer] at hrest ⊢
    rw [update_bind] at hrest
    obtain ⟨memo, hhash, hmemo⟩ := hash_secondary_exposures_hashed
      { s with evaluator := c } hm.hashes
    rw [hhash] at hrest
    cases hrest
    refine ⟨some { name, entity := spec.entity, result := c.result }, c, rfl, ⟨fun v hv => ?_, rfl⟩,
      rfl, hmemo⟩
    rw [← Option.some.inj hv]
    exact ⟨rfl, rfl⟩

theorem process_keys_mirrors (get_spec_type : specs_response.Spec → SpecType) {T : Type}
    (evaluation_factory : EvaluationFactory T)
    (specs_map : HashMap InternedString specs_response.Spec) (keys : List InternedString) :
    Mirrors env options
      (process_keys env depth options get_spec_type evaluation_factory specs_map keys)
      (visit_keys env depth options get_spec_type specs_map keys)
      (fun evals visits => evals = (make_entries env options evaluation_factory visits).map
        fun entry => (entry.1.name, entry.2)) := by
  induction keys with
  | nil => exact mirrors_pure rfl
  | cons name names ih =>
    unfold process_keys visit_keys
    cases specs_map.get name with
    | none => exact ih
    | some spec =>
      dsimp only
      split
      · exact ih
      · refine (process_spec_mirrors get_spec_type evaluation_factory name spec).bind
          fun eval visit heval => ih.bind fun rest visits hrest => mirrors_pure ?_
        obtain ⟨hnames, heval⟩ := heval
        cases visit with
        | none =>
          rw [heval, hrest]
          rfl
        | some v =>
          rw [heval, hrest]
          unfold make_entries
          simp [(hnames v rfl).1]

/-- The loop with tables fills them from the visits. -/
theorem process_keys_into_mirrors (get_spec_type : specs_response.Spec → SpecType)
    {Tables T : Type} (evaluation_factory : TableFactory Tables T)
    (specs_map : HashMap InternedString specs_response.Spec) (keys : List InternedString)
    (tables : Tables) :
    Mirrors env options
      (process_keys_into env depth options get_spec_type evaluation_factory specs_map keys tables)
      (visit_keys env depth options get_spec_type specs_map keys)
      (fun evals visits =>
        let filled := fill env options evaluation_factory (hashed env options) visits tables
        evals = (filled.1.map fun entry => (entry.1.name, entry.2), filled.2)) := by
  induction keys generalizing tables with
  | nil => exact mirrors_pure rfl
  | cons name names ih =>
    unfold process_keys_into visit_keys
    cases specs_map.get name with
    | none => exact ih tables
    | some spec =>
      dsimp only
      split
      · exact ih tables
      · refine (process_spec_mirrors get_spec_type keep_result name spec).bind
          fun result visit hresult => ?_
        obtain ⟨hnames, hresult⟩ := hresult
        cases visit with
        | none =>
          rw [hresult]
          exact (ih tables).then_pure fun evals visits hevals => hevals
        | some v =>
          obtain ⟨hname, hentity⟩ := hnames v rfl
          rw [hresult]
          dsimp only [Option.map_some, keep_result]
          refine (ih _).bind fun rest visits hrest => mirrors_pure ?_
          rw [hrest, ← hname, ← hentity]
          rfl

/-! ## Bandits -/

/-- What is done to the exposures of a bandit's result before its entry. -/
def Prepares (env : EvaluatorEnv) (options : ClientInitResponseOptions)
    (prepare : GcirContext → GcirContext) (prepared : EvaluatorResult → EvaluatorResult) : Prop :=
  ∀ ctx, HashesNames env.hashing options.get_hash_algorithm ctx.sec_expo_hash_memo →
    ∃ memo, prepare ctx =
        { ctx with
          evaluator.result := prepared ctx.evaluator.result
          sec_expo_hash_memo := memo } ∧
      HashesNames env.hashing options.get_hash_algorithm memo

theorem hash_prepares : Prepares env options
    (hash_secondary_exposures env.hashing options.get_hash_algorithm) (hashed env options) :=
  hash_secondary_exposures_hashed

theorem id_prepares : Prepares env options id id := fun ctx h => ⟨ctx.sec_expo_hash_memo, rfl, h⟩

theorem attempt_call {x : Eval α} {s s' : GcirContext} {r : Except StatsigErr α}
    (h : attempt (evaluator_call x) s = .ok r s') :
    ∃ c, attempt x s.evaluator = .ok r c ∧ s' = { s with evaluator := c } := by
  unfold attempt evaluator_call at *
  cases hx : x s.evaluator with
  | ok a c =>
    rw [hx] at h
    cases h
    exact ⟨c, rfl, rfl⟩
  | err e c =>
    rw [hx] at h
    cases h
    exact ⟨c, rfl, rfl⟩
  | deep =>
    rw [hx] at h
    cases h

/-- A bandit's entry is made of its result as it is prepared. -/
theorem cmab_mirrors {prepare : GcirContext → GcirContext}
    {prepared : EvaluatorResult → EvaluatorResult}
    (hprepare : Prepares env options prepare prepared)
    (config_name : String) {x : Gcir α} {f : EvaluatorResult → α}
    (hx : ∀ s a s', x s = .ok a s' → a = f s.evaluator.result ∧
      s'.evaluator.reset_result = s.evaluator.reset_result ∧
      s'.sec_expo_hash_memo = s.sec_expo_hash_memo) :
    Mirrors env options
      (do
        update fun ctx => { ctx with evaluator := ctx.evaluator.reset_result }
        let _ ← attempt (evaluator_call (evaluate env depth config_name .Experiment))
        update prepare
        x)
      (visit_cmab env depth config_name)
      (fun a visit => visit.name = config_name ∧ visit.entity = "autotune" ∧
        a = f (prepared visit.result)) := by
  intro s t a s' hm hrun
  rw [update_bind] at hrun
  obtain ⟨recognition, s₁, hcall, hrest⟩ := ok_of_bind hrun
  obtain ⟨c, hattempt, rfl⟩ := attempt_call hcall
  dsimp only at hattempt hrest
  rw [hm.next] at hattempt
  rw [update_bind] at hrest
  obtain ⟨memo, hprep, hmemo⟩ := hprepare { s with evaluator := c } hm.hashes
  rw [hprep] at hrest
  obtain ⟨ha, hnext, hhashes⟩ := hx _ _ _ hrest
  refine ⟨{ name := config_name, entity := "autotune", result := c.result }, c, ?_,
    ⟨rfl, rfl, ha⟩, hnext, ?_⟩
  · unfold visit_cmab
    rw [update_bind, bind_apply, hattempt]
    rfl
  · rw [hhashes]
    exact hmemo

theorem process_cmab_into_mirrors {Tables T : Type} (evaluation_factory : TableFactory Tables T)
    {prepare : GcirContext → GcirContext} {prepared : EvaluatorResult → EvaluatorResult}
    (hprepare : Prepares env options prepare prepared) (config_name : String) (tables : Tables) :
    Mirrors env options
      (process_cmab_into env depth options evaluation_factory prepare config_name tables)
      (visit_cmab env depth config_name)
      (fun eval visit => visit.name = config_name ∧ visit.entity = "autotune" ∧
        eval = evaluation_factory "autotune"
          (env.hashing.hash config_name options.get_hash_algorithm) (prepared visit.result)
          tables) := by
  refine cmab_mirrors (f := fun result => evaluation_factory "autotune"
    (env.hashing.hash config_name options.get_hash_algorithm) result tables) hprepare config_name
    fun s a s' hrun => ?_
  cases hrun
  exact ⟨rfl, rfl, rfl⟩

theorem process_cmab_mirrors (config_name : String) :
    Mirrors env options (process_cmab env depth options config_name)
      (visit_cmab env depth config_name)
      (fun eval visit => visit.name = config_name ∧ visit.entity = "autotune" ∧
        eval = (config_factory options "autotune"
          (env.hashing.hash config_name options.get_hash_algorithm)
          (hashed env options visit.result)).1) := by
  refine cmab_mirrors (f := fun result => (config_factory options "autotune"
    (env.hashing.hash config_name options.get_hash_algorithm) result).1) hash_prepares config_name
    fun s a s' hrun => ?_
  cases hrun
  exact ⟨rfl, rfl, rfl⟩

theorem process_cmabs_into_mirrors {Tables T : Type} (evaluation_factory : TableFactory Tables T)
    {prepare : GcirContext → GcirContext} {prepared : EvaluatorResult → EvaluatorResult}
    (hprepare : Prepares env options prepare prepared)
    (cmab_configs : HashMap String specs_response.CMABConfig) (names : List String)
    (result : HashMap String T) (tables : Tables) :
    Mirrors env options
      (process_cmabs_into env depth options evaluation_factory prepare cmab_configs names result
        tables)
      (visit_cmabs env depth options cmab_configs names)
      (fun evals visits =>
        let filled := fill env options evaluation_factory prepared visits tables
        evals = (entry_map env options filled.1 result, filled.2)) := by
  induction names generalizing result tables with
  | nil => exact mirrors_pure rfl
  | cons config_name names ih =>
    unfold process_cmabs_into visit_cmabs
    split
    · exact ih result tables
    · refine (process_cmab_into_mirrors evaluation_factory hprepare config_name tables).bind
        fun eval visit heval => (ih _ _).then_pure fun evals visits hevals => ?_
      obtain ⟨hname, hentity, heval⟩ := heval
      rw [hevals, heval, ← hname, ← hentity]
      rfl

theorem process_cmabs_mirrors (cmab_configs : HashMap String specs_response.CMABConfig)
    (names : List String) (result : HashMap String AnyConfigEvaluation) :
    Mirrors env options (process_cmabs env depth options cmab_configs names result)
      (visit_cmabs env depth options cmab_configs names)
      (fun evals visits => evals = entry_map env options
        (make_entries env options (config_factory options) visits) result) := by
  induction names generalizing result with
  | nil => exact mirrors_pure rfl
  | cons config_name names ih =>
    unfold process_cmabs visit_cmabs
    split
    · exact ih result
    · refine (process_cmab_mirrors config_name).bind
        fun eval visit heval => (ih _).then_pure fun evals visits hevals => ?_
      obtain ⟨hname, hentity, heval⟩ := heval
      rw [hevals, heval, ← hname, ← hentity]
      rfl

/-! ## Formats -/

theorem collect_entries {T : Type} (entries : List (Visit × T)) :
    collect_results env options (entries.map fun entry => (entry.1.name, entry.2)) =
      entry_map env options entries [] := by
  unfold collect_results
  rw [List.foldl_map]
  rfl

theorem gcir_process_iter_mirrors {T : Type} [GCIRHashable T]
    (get_spec_type : specs_response.Spec → SpecType) (evaluation_factory : EvaluationFactory T)
    (hasher : Hasher) (orders : MapOrders)
    (specs_map : HashMap InternedString specs_response.Spec) (keys : List InternedString) :
    Mirrors env options
      (gcir_process_iter env depth options get_spec_type evaluation_factory hasher orders specs_map
        keys)
      (visit_keys env depth options get_spec_type specs_map (ordered_keys options keys))
      (fun results visits => results = entry_map env options
        (make_entries env options evaluation_factory visits) []) := by
  intro s t results s' hm hrun
  obtain ⟨evals, s₁, hkeys, hrest⟩ := ok_of_bind hrun
  obtain ⟨visits, t', hvisits, hevals, hm'⟩ := process_keys_mirrors _ _ _ _ s t evals s₁ hm hkeys
  have hcollect : collect_results env options evals = entry_map env options
      (make_entries env options evaluation_factory visits) [] := by
    rw [hevals, collect_entries]
  dsimp only at hrest
  split at hrest
  · cases hrest
    exact ⟨visits, t', hvisits, hcollect, hm'.next, hm'.hashes⟩
  · cases hrest
    exact ⟨visits, t', hvisits, hcollect, hm'⟩

theorem gcir_process_iter_into_mirrors {Tables T : Type}
    (get_spec_type : specs_response.Spec → SpecType) (evaluation_factory : TableFactory Tables T)
    (specs_map : HashMap InternedString specs_response.Spec) (keys : List InternedString)
    (tables : Tables) :
    Mirrors env options
      (gcir_process_iter_into env depth options get_spec_type evaluation_factory specs_map keys
        tables)
      (visit_keys env depth options get_spec_type specs_map (ordered_keys options keys))
      (fun results visits =>
        let filled := fill env options evaluation_factory (hashed env options) visits tables
        results = (entry_map env options filled.1 [], filled.2)) := by
  intro s t results s' hm hrun
  obtain ⟨evals, s₁, hkeys, hrest⟩ := ok_of_bind hrun
  obtain ⟨visits, t', hvisits, hevals, hm'⟩ :=
    process_keys_into_mirrors _ _ _ _ tables s t evals s₁ hm hkeys
  cases hrest
  refine ⟨visits, t', hvisits, ?_, hm'⟩
  rw [hevals]
  dsimp only
  rw [collect_entries]

theorem new_memo_mirrored {s s' : GcirContext} {t : EvaluatorContext}
    (h : Mirrored env options s t) (hrun : new_memo s = .ok () s') : Mirrored env options s' t := by
  cases hrun
  refine ⟨h.next, fun gate hash hget => ?_⟩
  rw [HashMap.get_nil] at hget
  cases hget

theorem add_cmab_evaluations_mirrors (orders : MapOrders)
    (specs : specs_response.SpecsResponseFull) (configs : HashMap String AnyConfigEvaluation) :
    Mirrors env options (add_cmab_evaluations env depth orders options specs configs)
      (visit_all_cmabs env depth options orders specs)
      (fun evals visits => evals = entry_map env options
        (make_entries env options (config_factory options) visits) configs) := by
  unfold add_cmab_evaluations visit_all_cmabs
  cases specs.cmab_configs with
  | none => exact mirrors_pure rfl
  | some cmab_configs => exact process_cmabs_mirrors _ _ configs

variable (env depth options) (hasher : Hasher) (orders : MapOrders)
  (specs : specs_response.SpecsResponseFull)

/-- The entries of the first format are made of the visits. -/
theorem v1_specs_mirrors :
    Mirrors env options
      (do
        let gates ← get_gate_evaluations env depth hasher orders options specs
        let configs ← get_dynamic_config_evaluations env depth hasher orders options specs
        let layers ← get_layer_evaluations env depth hasher orders options specs
        pure (gates, configs, layers))
      (visit_specs env depth options orders specs)
      (fun results visits => results = (
        entry_map env options (make_entries env options (gate_factory options) visits.gates) [],
        entry_map env options (make_entries env options (config_factory options)
          (visits.configs ++ visits.cmabs)) [],
        entry_map env options
          (make_entries env options (layer_factory env options) visits.layers) [])) := by
  unfold visit_specs
  refine (gcir_process_iter_mirrors _ _ hasher orders _ _).bind fun gates vg hgates => ?_
  unfold get_dynamic_config_evaluations
  rw [bind_bind]
  refine (gcir_process_iter_mirrors _ _ hasher orders _ _).bind fun configs vc hconfigs => ?_
  refine (add_cmab_evaluations_mirrors orders specs configs).bind fun all vb hall => ?_
  refine (gcir_process_iter_mirrors _ _ hasher orders _ _).bind fun layers vl hlayers => ?_
  refine mirrors_pure ?_
  rw [hgates, hall, hconfigs, hlayers]
  unfold make_entries
  rw [List.map_append, entry_map_append]

/-- The entries of a later format, with what its tables hold in the end. -/
structure Filled (Gate Config Layer Tables : Type) where
  gates : List (Visit × Gate)
  configs : List (Visit × Config)
  layers : List (Visit × Layer)
  tables : Tables

section

variable {Gate Config Layer Tables : Type} (gate_factory : TableFactory Tables Gate)
  (config_factory : TableFactory Tables Config) (layer_factory : TableFactory Tables Layer)

/-- All visits go to the tables one after the other, the bandits after the configs. -/
def fill_specs (env : EvaluatorEnv) (options : ClientInitResponseOptions)
    (prepared : EvaluatorResult → EvaluatorResult) (visits : Visits) (tables : Tables) :
    Filled Gate Config Layer Tables :=
  let gates := fill env options gate_factory (hashed env options) visits.gates tables
  let configs := fill env options config_factory (hashed env options) visits.configs gates.2
  let cmabs := fill env options config_factory prepared visits.cmabs configs.2
  let layers := fill env options layer_factory (hashed env options) visits.layers cmabs.2
  { gates := gates.1, configs := configs.1 ++ cmabs.1, layers := layers.1, tables := layers.2 }

/-- The entries of a later format are made of the visits, over its tables. -/
theorem later_specs_mirrors (before : Gcir Unit)
    (hbefore : ∀ s t s', Mirrored env options s t → before s = .ok () s' →
      Mirrored env options s' t)
    {prepare : GcirContext → GcirContext} {prepared : EvaluatorResult → EvaluatorResult}
    (hprepare : Prepares env options prepare prepared) (tables : Tables) :
    Mirrors env options
      (do
        let gates ← before >>= fun _ => gcir_process_iter_into env depth options (fun _ => .Gate)
          gate_factory specs.feature_gates orders.feature_gates tables
        let configs ← before >>= fun _ => do
          let result ← gcir_process_iter_into env depth options get_dynamic_config_type
            config_factory specs.dynamic_configs orders.dynamic_configs gates.2
          add_cmab_evaluations_into env depth options config_factory prepare orders specs result.1
            result.2
        let layers ← before >>= fun _ => gcir_process_iter_into env depth options (fun _ => .Layer)
          layer_factory specs.layer_configs orders.layer_configs configs.2
        pure (gates.1, configs.1, layers))
      (visit_specs env depth options orders specs)
      (fun results visits =>
        let filled := fill_specs gate_factory config_factory layer_factory env options prepared
          visits tables
        results = (entry_map env options filled.gates [], entry_map env options filled.configs [],
          entry_map env options filled.layers [], filled.tables)) := by
  have hskip : ∀ {α β : Type} {x : Gcir α} {y : Eval β} {R : α → β → Prop},
      Mirrors env options x y R → Mirrors env options (before >>= fun _ => x) y R :=
    fun h => Mirrors.after (fun s t _ s' => hbefore s t s') fun _ => h
  unfold visit_specs
  refine (hskip (gcir_process_iter_into_mirrors _ _ _ _ tables)).bind fun gates vg hgates => ?_
  rw [bind_bind]
  refine Mirrors.after (fun s t _ s' => hbefore s t s') fun _ => ?_
  rw [bind_bind]
  refine (gcir_process_iter_into_mirrors _ _ _ _ gates.2).bind fun configs vc hconfigs => ?_
  have hcmabs : Mirrors env options
      (add_cmab_evaluations_into env depth options config_factory prepare orders specs configs.1
        configs.2)
      (visit_all_cmabs env depth options orders specs)
      (fun evals visits =>
        let filled := fill env options config_factory prepared visits configs.2
        evals = (entry_map env options filled.1 configs.1, filled.2)) := by
    unfold add_cmab_evaluations_into visit_all_cmabs
    cases specs.cmab_configs with
    | none => exact mirrors_pure rfl
    | some cmab_configs =>
      exact process_cmabs_into_mirrors config_factory hprepare _ _ configs.1 configs.2
  refine hcmabs.bind fun all vb hall => ?_
  refine (hskip (gcir_process_iter_into_mirrors _ _ _ _ all.2)).bind fun layers vl hlayers => ?_
  refine mirrors_pure ?_
  unfold fill_specs
  dsimp only
  rw [hlayers, hall, hconfigs, hgates, entry_map_append]

end

end Mirrors

/-! ## Responses -/

/-- A run that keeps an invariant of the whole context, however it ends. -/
def Preserves {α : Type} (P : GcirContext → Prop) (x : Gcir α) : Prop :=
  Triple P x (fun _ => P) (fun _ => P) True

section Responses

variable {α β : Type} {P : GcirContext → Prop} {x : Gcir α} {f : α → Gcir β}

theorem preserves_pure (a : α) : Preserves P (pure a : Gcir α) := triple_pure fun _ h => h

theorem Preserves.bind (hx : Preserves P x) (hf : ∀ a, Preserves P (f a)) :
    Preserves P (x >>= f) :=
  Triple.bind hx hf

variable (env : EvaluatorEnv) (depth : Nat) (hasher : Hasher) (orders : MapOrders)
  (options : ClientInitResponseOptions) (specs : specs_response.SpecsResponseFull)

/-- Where the later formats start with the specs: after the parameter stores and the session
replay. -/
def later_start : Gcir Unit := do
  let _ ← get_serializeable_param_stores env hasher orders options specs
  let _ ← get_session_replay_info env depth hasher orders options specs
  pure ()

section Start

variable (hpush : ∀ hash, Preserves P (push_hash hash)) (hdraw : Preserves P (draw_random env))
  (hcall : ∀ gate, Preserves P (attempt (evaluator_call (evaluate env depth gate .Gate))))

include hpush

theorem param_stores_preserve :
    Preserves P (get_serializeable_param_stores env hasher orders options specs) := by
  unfold get_serializeable_param_stores
  split
  · dsimp only
    split
    · exact (hpush _).bind fun _ => preserves_pure _
    · exact preserves_pure _
  · dsimp only
    split
    · exact (hpush _).bind fun _ => preserves_pure _
    · exact preserves_pure _

include hdraw hcall

theorem session_replay_preserves :
    Preserves P (get_session_replay_info env depth hasher orders options specs) := by
  have htargeting : ∀ targeting_gate,
      Preserves P (get_session_targeting env depth targeting_gate) := by
    intro targeting_gate
    unfold get_session_targeting
    split
    · exact preserves_pure none
    · refine (hcall _).bind fun recognition => ?_
      split
      · exact triple_state_any fun ctx => preserves_pure _
      · exact preserves_pure _
  unfold get_session_replay_info
  split
  · exact (hpush 0).bind fun _ => preserves_pure _
  · refine (htargeting _).bind fun targeting => hdraw.bind fun random => ?_
    dsimp only
    split
    · exact (hpush _).bind fun _ => preserves_pure _
    · exact preserves_pure _

theorem later_start_preserves :
    Preserves P (later_start env depth hasher orders options specs) :=
  (param_stores_preserve env hasher orders options specs hpush).bind fun _ =>
    (session_replay_preserves env depth hasher orders options specs hpush hdraw hcall).bind
      fun _ => preserves_pure ()

end Start

theorem fresh_mirrored : Mirrored env options {} {} := by
  refine ⟨rfl, fun gate hash hget => ?_⟩
  rw [HashMap.get_nil] at hget
  cases hget

theorem later_start_mirrored {s : GcirContext}
    (h : later_start env depth hasher orders options specs {} = .ok () s) :
    Mirrored env options s s.evaluator := by
  have hmemo := later_start_preserves (P := fun c => c.sec_expo_hash_memo = []) env depth hasher
    orders options specs (fun _ _ h => h) (fun _ h => h) (fun gate c h => by
      unfold attempt evaluator_call
      cases evaluate env depth gate .Gate c.evaluator with
      | ok a c' => exact h
      | err e c' => exact h
      | deep => trivial) {} rfl
  rw [h] at hmemo
  refine ⟨rfl, fun gate hash hget => ?_⟩
  rw [show s.sec_expo_hash_memo = [] from hmemo, HashMap.get_nil] at hget
  cases hget

/-- A first-format response is blank, or made of the visits. -/
theorem v1_visits {response : InitializeResponse} {s : GcirContext}
    (h : generate_v1_format env depth hasher orders options specs {} = .ok response s) :
    ∃ visits t, visit_specs env depth options orders specs {} = .ok visits t ∧
      (response = InitializeResponse.blank_without_user ∨
        response.feature_gates =
          entry_map env options (make_entries env options (gate_factory options) visits.gates) [] ∧
        response.dynamic_configs = entry_map env options
          (make_entries env options (config_factory options) (visits.configs ++ visits.cmabs)) [] ∧
        response.layer_configs = entry_map env options
          (make_entries env options (layer_factory env options) visits.layers) []) := by
  unfold generate_v1_format at h
  obtain ⟨gates, s₁, hgates, h⟩ := ok_of_bind h
  obtain ⟨configs, s₂, hconfigs, h⟩ := ok_of_bind h
  obtain ⟨layers, s₃, hlayers, h⟩ := ok_of_bind h
  obtain ⟨param_stores, s₄, -, h⟩ := ok_of_bind h
  obtain ⟨info, s₅, -, h⟩ := ok_of_bind h
  obtain ⟨visits, t, hvisits, hentries, -⟩ := v1_specs_mirrors env depth options hasher orders specs
    {} {} (gates, configs, layers) s₃ (fresh_mirrored env options) (by
      rw [bind_apply, hgates, andThen_ok, bind_apply, hconfigs, andThen_ok, bind_apply, hlayers]
      rfl)
  obtain ⟨hg, hentries⟩ := Prod.mk.inj hentries
  obtain ⟨hc, hl⟩ := Prod.mk.inj hentries
  rw [state_bind] at h
  split at h
  · cases h
    exact ⟨visits, t, hvisits, .inl rfl⟩
  · cases h
    exact ⟨visits, t, hvisits, .inr ⟨hg, hc, hl⟩⟩

theorem run_three {γ δ : Type} {y : α → Gcir β} {z : β → Gcir γ} {g : α → β → γ → δ}
    {s s₁ s₂ s₃ : GcirContext} {a : α} {b : β} {c : γ} (hx : x s = .ok a s₁)
    (hy : y a s₁ = .ok b s₂) (hz : z b s₂ = .ok c s₃) :
    (do
      let a ← x
      let b ← y a
      let c ← z b
      pure (g a b c)) s = .ok (g a b c) s₃ := by
  rw [bind_apply, hx, andThen_ok, bind_apply, hy, andThen_ok, bind_apply, hz]
  rfl

theorem later_start_ok {param_stores : SerializeableParamStore} {info : GCIRSessionReplayInfo}
    {s s₁ s₂ : GcirContext}
    (hstores : get_serializeable_param_stores env hasher orders options specs s =
      .ok param_stores s₁)
    (hinfo : get_session_replay_info env depth hasher orders options specs s₁ = .ok info s₂) :
    later_start env depth hasher orders options specs s = .ok () s₂ := by
  unfold later_start
  rw [bind_apply, hstores, andThen_ok, bind_apply, hinfo]
  rfl

/-- A v2 response is made of the visits, over one map of exposures. -/
theorem v2_visits {response : InitializeEvaluationsResponse} {s : GcirContext}
    (h : generate_v2_format env depth hasher orders options specs {} = .ok response s) :
    ∃ start visits t, later_start env depth hasher orders options specs {} = .ok () start ∧
      visit_specs env depth options orders specs start.evaluator = .ok visits t ∧
      let filled := fill_specs (gate_factory_v2 env options) (config_factory_v2 env options)
        (layer_factory_v2 env options) env options (hashed env options) visits []
      response.feature_gates = entry_map env options filled.gates [] ∧
      response.dynamic_configs = entry_map env options filled.configs [] ∧
      response.layer_configs = entry_map env options filled.layers [] ∧
      response.exposures = filled.tables := by
  unfold generate_v2_format at h
  obtain ⟨param_stores, s₁, hstores, h⟩ := ok_of_bind h
  obtain ⟨info, s₂, hinfo, h⟩ := ok_of_bind h
  obtain ⟨gates, s₃, hgates, h⟩ := ok_of_bind h
  obtain ⟨configs, s₄, hconfigs, h⟩ := ok_of_bind h
  obtain ⟨layers, s₅, hlayers, h⟩ := ok_of_bind h
  cases h
  have hstart := later_start_ok env depth hasher orders options specs hstores hinfo
  have hmirrors := later_specs_mirrors env depth options orders specs
    (gate_factory_v2 env options) (config_factory_v2 env options) (layer_factory_v2 env options)
    (pure ())
    (fun s t s' hm hrun => by cases hrun; exact hm) hash_prepares
    []
  obtain ⟨visits, t, hvisits, hentries, -⟩ := hmirrors s₂ s₂.evaluator
    (gates.1, configs.1, layers) s
    (later_start_mirrored env depth hasher orders options specs hstart)
    (run_three hgates hconfigs hlayers)
  obtain ⟨hg, hentries⟩ := Prod.mk.inj hentries
  obtain ⟨hc, hentries⟩ := Prod.mk.inj hentries
  exact ⟨s₂, visits, t, hstart, hvisits, hg, hc, congrArg Prod.fst hentries,
    congrArg Prod.snd hentries⟩

/-- An init_v2 response is made of the visits, over its tables. The results of the bandits are
taken as they are. -/
theorem init_v2_visits (storage : Storage) {response : InitializeV2Response} {s : GcirContext}
    (h : generate_init_v2_format env depth hasher orders options specs storage {} =
      .ok response s) :
    ∃ start visits t, later_start env depth hasher orders options specs {} = .ok () start ∧
      visit_specs env depth options orders specs start.evaluator = .ok visits t ∧
      let filled := fill_specs (gate_factory_init_v2 hasher options storage)
        (config_factory_init_v2 hasher options storage)
        (layer_factory_init_v2 env hasher options storage) env options id visits {}
      response.feature_gates = entry_map env options filled.gates [] ∧
      response.dynamic_configs = entry_map env options filled.configs [] ∧
      response.layer_configs = entry_map env options filled.layers [] ∧
      response.exposures = filled.tables.exposures.expo_id_to_exposure_map ∧
      response.values = filled.tables.values.value_id_to_value_map := by
  unfold generate_init_v2_format at h
  obtain ⟨param_stores, s₁, hstores, h⟩ := ok_of_bind h
  obtain ⟨info, s₂, hinfo, h⟩ := ok_of_bind h
  obtain ⟨gates, s₃, hgates, h⟩ := ok_of_bind h
  obtain ⟨configs, s₄, hconfigs, h⟩ := ok_of_bind h
  obtain ⟨layers, s₅, hlayers, h⟩ := ok_of_bind h
  cases h
  have hstart := later_start_ok env depth hasher orders options specs hstores hinfo
  have hmirrors := later_specs_mirrors env depth options orders specs
    (gate_factory_init_v2 hasher options storage) (config_factory_init_v2 hasher options storage)
    (layer_factory_init_v2 env hasher options storage) new_memo
    (fun s t s' hm hrun => new_memo_mirrored hm hrun) id_prepares
    {}
  obtain ⟨visits, t, hvisits, hentries, -⟩ := hmirrors s₂ s₂.evaluator
    (gates.1, configs.1, layers) s
    (later_start_mirrored env depth hasher orders options specs hstart)
    (run_three hgates hconfigs hlayers)
  obtain ⟨hg, hentries⟩ := Prod.mk.inj hentries
  obtain ⟨hc, hentries⟩ := Prod.mk.inj hentries
  obtain ⟨hl, htables⟩ := Prod.mk.inj hentries
  refine ⟨s₂, visits, t, hstart, hvisits, hg, hc, hl, ?_, ?_⟩
  · rw [← htables]
  · rw [← htables]

end Responses

/-! ## The value of a run -/

def value_of {σ ε α : Type} : Outcome σ ε α → Option α
  | .ok a _ => some a
  | _ => none

theorem run_of_value {σ ε α : Type} {outcome : Outcome σ ε α} {a : α}
    (h : value_of outcome = some a) : ∃ s, outcome = .ok a s := by
  cases outcome with
  | ok b s => exact ⟨s, congrArg (Outcome.ok · s) (Option.some.inj h)⟩
  | err e s => cases h
  | deep => cases h

end statsig_rust.gcir
