-- The ranked list of a bandit (`evaluation/cmab_evaluator.rs`) beside the group that it assigns.
-- Both are read here over scores of any linear order. The assignment of the evaluator is the one
-- with doubles for scores.
import Mathlib.Algebra.Order.Ring.Unbundled.Rat
import StatsigCore.Evaluation.CmabEvaluator
import StatsigCore.Library.FirstBest

open program
open first_best (IsFirstBest)

namespace statsig_rust.evaluation

/-! ## The two functions over any scores -/

/-- The scores of the groups. A score is told from the id of the group, and a group may have none.
`zero` and `explored` are the `0.0` and the `0.0001` of the code. -/
structure Scores (Score : Type) where
  zero : Score
  explored : Score
  get_cmab_score_for_group : InternedString → HashMap String CMABGroupConfig → Option Score

structure CMABRankedGroup (Score : Type) where
  score : Score
  variant_name : String
  rule_id : InternedString
  value : Option (HashMap String JsonValue)
  cmab_name : String

section Definitions

variable {Score : Type} [LinearOrder Score] (scores : Scores Score) (env : EvaluatorEnv)
  (cmab : CMABConfig)

def should_sample : Bool :=
  match env.hashing.evaluation_hash_dot2 cmab.salt (get_unit_id env cmab.id_type) with
  | some hash => ((hash % 10000 : Nat) : F64) < env.f64_round (cmab.sample_rate * 10000)
  | none => false

def ranked_group (name : String) (score : Score) (rule_id : InternedString) (group : CMABGroup) :
    CMABRankedGroup Score :=
  { score
    variant_name := group.name
    rule_id
    value := group.parameter_values.get_json
    cmab_name := name }

/-- The first score is not worse than the second one. -/
def no_worse (higher_better : Bool) (a b : Score) : Bool :=
  if higher_better then decide (b ≤ a) else decide (a ≤ b)

/-- The groups by their scores. A group without a score counts with `zero`, and groups with one
score stay in their order. -/
def rank_groups (config : HashMap String CMABGroupConfig) (name : String) :
    List (CMABRankedGroup Score) :=
  let result := cmab.groups.map fun group =>
    ranked_group name ((scores.get_cmab_score_for_group group.id config).getD scores.zero) group.id
      group
  result.mergeSort fun a b => no_worse cmab.higher_is_better a.score b.score

/-- `get_shuffled_groups` draws the order of the groups. -/
def get_cmab_ranked_list (get_shuffled_groups : CMABConfig → List CMABGroup) (rec : Recur)
    (name : String) : Eval (List (CMABRankedGroup Score)) :=
  match env.specs_data.cmab_configs with
  | none => pure []
  | some cmabs =>
    match cmabs.get name with
    | none => pure []
    | some cmab =>
      if !is_cmab_started cmab then pure []
      else do
        if ← get_passes_targeting rec cmab then
          match cmab.config with
          | none =>
            pure ((get_shuffled_groups cmab).map fun group =>
              ranked_group name scores.explored group.id group)
          | some config =>
            if should_sample env cmab then
              pure ((get_shuffled_groups cmab).map fun group =>
                ranked_group name scores.explored (group.id ++ ":explore") group)
            else pure (rank_groups scores cmab config name)
        else pure []

/-- `pick_best` with these scores. -/
def pick_best_by (config : HashMap String CMABGroupConfig) (best : Option (Score × CMABGroup))
    (group : CMABGroup) : Option (Score × CMABGroup) :=
  match scores.get_cmab_score_for_group group.id config, best with
  | none, best => best
  | some score, none => some (score, group)
  | some score, some (best_score, best_group) =>
    if (cmab.higher_is_better && score > best_score) ||
        (!cmab.higher_is_better && score < best_score) then some (score, group)
    else some (best_score, best_group)

/-- `apply_best_group` with these scores. -/
def apply_best_group_by (config : HashMap String CMABGroupConfig) (ctx : EvaluatorContext) :
    EvaluatorContext :=
  match cmab.groups.foldl (pick_best_by scores cmab config) none with
  | some (_, best_group) => apply_group best_group ctx.result.rule_id_suffix ctx
  | none =>
    let i := (env.f64_round (env.thread_rng ctx.draws * (cmab.groups.length : F64))).floor.toNat
    let ctx := { ctx with draws := ctx.draws + 1 }
    match cmab.groups[i]? with
    | some best_group => apply_group best_group ctx.result.rule_id_suffix ctx
    | none => ctx

/-- `assign_cmab_group` with these scores. -/
def assign_cmab_group_by (ctx : EvaluatorContext) : EvaluatorContext :=
  let user_hash := env.hashing.evaluation_hash_dot2 cmab.salt (get_unit_id env cmab.id_type)
  match cmab.config with
  | none => apply_random_group env cmab user_hash ctx
  | some config =>
    if should_sample env cmab then
      let value := env.thread_rng ctx.draws
      let ctx := { ctx with draws := ctx.draws + 1 }
      match sampling_group env cmab config value with
      | some group => apply_group group (some EXPLORE_RULE_ID_SUFFIX) ctx
      | none => apply_best_group_by scores env cmab config ctx
    else apply_best_group_by scores env cmab config ctx

/-- `evaluate_cmab` with these scores. -/
def evaluate_cmab_by (rec : Recur) (spec_name : String) (spec_type : SpecType) : Eval Bool :=
  match spec_type, env.specs_data.cmab_configs with
  | .Experiment, some cmabs =>
    match cmabs.get spec_name with
    | none => pure false
    | some cmab =>
      if !is_cmab_started cmab then do
        update (apply_cmab_default cmab NOT_STARTED_RULE)
        pure true
      else do
        if ← get_passes_targeting rec cmab then do
          update (fun ctx => assign_cmab_group_by scores env cmab (set_cmab_fields cmab ctx))
          pure true
        else do
          update (apply_cmab_default cmab FAILS_TARGETING)
          pure true
  | _, _ => pure false

end Definitions

/-- With doubles for scores, it is the function of the evaluator. -/
theorem evaluate_cmab_by_doubles (scores : Scores F64) (env : EvaluatorEnv)
    (hscores : ∀ group config,
      env.cmab_score group config = scores.get_cmab_score_for_group group.id config) :
    evaluate_cmab_by scores env = evaluate_cmab env := by
  have hpick : ∀ cmab config, pick_best_by scores cmab config = pick_best env cmab config := by
    intro cmab config
    funext best group
    unfold pick_best_by pick_best
    rw [hscores]
    rcases scores.get_cmab_score_for_group group.id config with _ | score
    · rfl
    · rcases best with _ | ⟨best_score, best_group⟩
      · rfl
      · rfl
  have hbest : ∀ cmab config, apply_best_group_by scores env cmab config =
      apply_best_group env cmab config := by
    intro cmab config
    funext ctx
    rw [apply_best_group_by, apply_best_group, hpick]
    rcases cmab.groups.foldl (pick_best env cmab config) none with _ | best
    · rfl
    · rfl
  have hassign : ∀ cmab, assign_cmab_group_by scores env cmab = assign_cmab_group env cmab := by
    intro cmab
    funext ctx
    simp only [assign_cmab_group_by, assign_cmab_group, hbest]
    rfl
  funext rec spec_name spec_type
  simp only [evaluate_cmab_by, hassign]
  rfl

/-! ## The two selections -/

section Selections

variable {Score : Type} [LinearOrder Score]

theorem no_worse_trans (higher_better : Bool) {a b c : Score}
    (hab : no_worse higher_better a b = true) (hbc : no_worse higher_better b c = true) :
    no_worse higher_better a c = true := by
  cases higher_better with
  | true =>
    simp only [no_worse, if_true, decide_eq_true_eq] at hab hbc ⊢
    exact hbc.trans hab
  | false =>
    simp only [no_worse, Bool.false_eq_true, if_false, decide_eq_true_eq] at hab hbc ⊢
    exact hab.trans hbc

theorem no_worse_total (higher_better : Bool) (a b : Score) :
    (no_worse higher_better a b || no_worse higher_better b a) = true := by
  cases higher_better with
  | true => simpa [no_worse] using le_total b a
  | false => simpa [no_worse] using le_total a b

/-- What is better than one of two is better than what that one is no worse than. -/
theorem no_worse_of_worse (higher_better : Bool) {a b : Score}
    (h : no_worse higher_better a b = false) : no_worse higher_better b a = true := by
  have htotal := no_worse_total higher_better a b
  rw [h, Bool.false_or] at htotal
  exact htotal

variable (scores : Scores Score) (cmab : CMABConfig) (config : HashMap String CMABGroupConfig)

/-- The order of the groups with their scores. -/
def group_order (a b : Score × CMABGroup) : Bool := no_worse cmab.higher_is_better a.1 b.1

theorem group_order_trans (a b c : Score × CMABGroup) (hab : group_order cmab a b = true)
    (hbc : group_order cmab b c = true) : group_order cmab a c = true :=
  no_worse_trans _ hab hbc

theorem group_order_total (a b : Score × CMABGroup) :
    (group_order cmab a b || group_order cmab b a) = true :=
  no_worse_total _ a.1 b.1

def scored (groups : List CMABGroup) : List (Score × CMABGroup) :=
  groups.filterMap fun group => (scores.get_cmab_score_for_group group.id config).map (·, group)

def defaulted (groups : List CMABGroup) : List (Score × CMABGroup) :=
  groups.map fun group =>
    ((scores.get_cmab_score_for_group group.id config).getD scores.zero, group)

/-- A turn of the loop skips a group without a score, and picks the better of two others. -/
theorem pick_best_by_eq (best : Option (Score × CMABGroup)) (group : CMABGroup) :
    pick_best_by scores cmab config best group =
      match scores.get_cmab_score_for_group group.id config with
      | none => best
      | some score => first_best.pick (group_order cmab) best (score, group) := by
  unfold pick_best_by first_best.pick group_order no_worse
  rcases scores.get_cmab_score_for_group group.id config with _ | score
  · rfl
  · rcases best with _ | ⟨best_score, best_group⟩
    · rfl
    · cases cmab.higher_is_better with
      | true => by_cases h : score ≤ best_score <;> simp [h]
      | false => by_cases h : best_score ≤ score <;> simp [h]

/-- The loop of the assignment is a scan of the groups that have a score. -/
theorem foldl_pick_best_by (groups : List CMABGroup) (best : Option (Score × CMABGroup)) :
    groups.foldl (pick_best_by scores cmab config) best =
      (scored scores config groups).foldl (first_best.pick (group_order cmab)) best := by
  induction groups generalizing best with
  | nil => rfl
  | cons group groups ih =>
    rw [List.foldl_cons, ih, pick_best_by_eq, scored, scored, List.filterMap_cons]
    cases scores.get_cmab_score_for_group group.id config with
    | none => rfl
    | some score => rfl

/-- The ranked list is the stable sort of all the groups with their scores. -/
theorem rank_groups_eq (name : String) :
    rank_groups scores cmab config name =
      ((defaulted scores config cmab.groups).mergeSort (group_order cmab)).map
        fun scored => ranked_group name scored.1 scored.2.id scored.2 := by
  unfold rank_groups
  rw [List.map_mergeSort (s := fun a b => no_worse cmab.higher_is_better a.score b.score)]
  · rw [defaulted, List.map_map]
    rfl
  · intro a _ b _
    rfl

/-- Each group without a score is beaten: by a score that is better than zero, or by one in front
of it that is not worse. -/
def UnscoredAreBeaten : Prop :=
  ∀ front group back, cmab.groups = front ++ group :: back →
    scores.get_cmab_score_for_group group.id config = none →
    (∃ other ∈ cmab.groups, ∃ score, scores.get_cmab_score_for_group other.id config = some score ∧
      no_worse cmab.higher_is_better scores.zero score = false) ∨
    ∃ other ∈ front, ∃ score, scores.get_cmab_score_for_group other.id config = some score ∧
      no_worse cmab.higher_is_better score scores.zero = true

variable {scores cmab config} {best : Score × CMABGroup}

/-- A best score is no worse than any other. -/
theorem best_no_worse
    (hbest : IsFirstBest (group_order cmab) (scored scores config cmab.groups) best)
    {other : CMABGroup} (hother : other ∈ cmab.groups) {score : Score}
    (hscore : scores.get_cmab_score_for_group other.id config = some score) :
    no_worse cmab.higher_is_better best.1 score = true := by
  obtain ⟨front, back, hsplit, hfront, hback⟩ := hbest
  have hmem : (score, other) ∈ scored scores config cmab.groups :=
    List.mem_filterMap.mpr ⟨other, hother, by rw [hscore]; rfl⟩
  rw [hsplit] at hmem
  rcases List.mem_append.mp hmem with hmem | hmem
  · exact no_worse_of_worse _ (hfront _ hmem)
  · rcases List.mem_cons.mp hmem with rfl | hmem
    · simpa using no_worse_total cmab.higher_is_better score score
    · exact hback _ hmem

/-- When the groups without a score are beaten, the ranking is headed by the best score. -/
theorem defaulted_of_beaten (hbeaten : UnscoredAreBeaten scores cmab config)
    (hbest : IsFirstBest (group_order cmab) (scored scores config cmab.groups) best) :
    IsFirstBest (group_order cmab) (defaulted scores config cmab.groups) best := by
  have hno_worse {other : CMABGroup} (hother : other ∈ cmab.groups) {score : Score}
      (hscore : scores.get_cmab_score_for_group other.id config = some score) :
      no_worse cmab.higher_is_better best.1 score = true := best_no_worse hbest hother hscore
  obtain ⟨front, group, back, hsplit, hgroup, hfront, hback⟩ := first_best.of_filterMap hbest
  obtain ⟨score, hscore, rfl⟩ := Option.map_eq_some_iff.mp hgroup
  have hself : ((scores.get_cmab_score_for_group group.id config).getD scores.zero, group) =
      (score, group) := by rw [hscore, Option.getD_some]
  rw [defaulted, hsplit, ← hself]
  apply first_best.map_of_split
  · intro other hother
    rw [hself]
    cases hnone : scores.get_cmab_score_for_group other.id config with
    | some value => exact hfront other hother (value, other) (by rw [hnone]; rfl)
    | none =>
      -- a zero in front of the best score is worse than it
      obtain ⟨front, rest, rfl⟩ := List.append_of_mem hother
      have hzero : ¬ no_worse cmab.higher_is_better scores.zero score = true := by
        intro hzero
        rcases hbeaten front other (rest ++ group :: back) (by simp [hsplit]) hnone with
          ⟨better, hmem, value, hvalue, hbetter⟩ | ⟨better, hmem, value, hvalue, hbetter⟩
        · have := no_worse_trans _ hzero (hno_worse hmem hvalue)
          simp [hbetter] at this
        · have hworse := hfront better (List.mem_append_left _ hmem) (value, better)
            (by rw [hvalue]; rfl)
          have := no_worse_trans _ hbetter hzero
          simp [group_order, this] at hworse
      simpa [group_order] using hzero
  · intro other hother
    rw [hself]
    cases hnone : scores.get_cmab_score_for_group other.id config with
    | some value => exact hback other hother (value, other) (by rw [hnone]; rfl)
    | none =>
      obtain ⟨middle, rest, rfl⟩ := List.append_of_mem hother
      rcases hbeaten (front ++ group :: middle) other rest (by simp [hsplit]) hnone with
        ⟨better, hmem, value, hvalue, hbetter⟩ | ⟨better, hmem, value, hvalue, hbetter⟩
      · exact no_worse_trans _ (hno_worse hmem hvalue) (no_worse_of_worse _ hbetter)
      · have hmem : better ∈ cmab.groups := by
          rw [hsplit]
          simp only [List.mem_append, List.mem_cons] at hmem ⊢
          tauto
        exact no_worse_trans _ (hno_worse hmem hvalue) hbetter

/-- When one is not beaten, the ranking is headed by a group without a score. -/
theorem head_unscored {first : Score × CMABGroup}
    (hbeaten : ¬ UnscoredAreBeaten scores cmab config)
    (hfirst : IsFirstBest (group_order cmab) (defaulted scores config cmab.groups) first) :
    scores.get_cmab_score_for_group first.2.id config = none := by
  by_contra hsome
  obtain ⟨score, hscore⟩ := Option.ne_none_iff_exists'.mp hsome
  apply hbeaten
  intro front other back hother hnone
  have hdefaulted : defaulted scores config cmab.groups = cmab.groups.filterMap fun group =>
      some ((scores.get_cmab_score_for_group group.id config).getD scores.zero, group) :=
    by rw [List.filterMap_eq_map', defaulted]
  rw [hdefaulted] at hfirst
  obtain ⟨front', group, back', hsplit, hgroup, hfront, hback⟩ := first_best.of_filterMap hfirst
  cases hgroup
  have hne : other ≠ group := by
    rintro rfl
    exact hsome hnone
  have hmem : group ∈ cmab.groups := by
    rw [hsplit]
    simp
  have hsplits := hother.symm.trans hsplit
  rcases List.append_eq_append_iff.mp hsplits with ⟨middle, hfronts, hbacks⟩ |
    ⟨middle, hfronts, hbacks⟩
  · -- the group without a score is in front of the first one
    cases middle with
    | nil => exact absurd (List.cons.inj hbacks).1 hne
    | cons x middle =>
      have hx := (List.cons.inj hbacks).1
      subst hx
      have hworse := hfront other (by rw [hfronts]; simp) _ rfl
      refine .inl ⟨group, hmem, score, hscore, ?_⟩
      simpa [group_order, hnone, hscore] using hworse
  · cases middle with
    | nil => exact absurd (List.cons.inj hbacks).1.symm hne
    | cons x middle =>
      obtain ⟨hx, hrest⟩ := List.cons.inj hbacks
      subst hx
      have hno_worse := hback other (by rw [hrest]; simp) _ rfl
      refine .inr ⟨group, by rw [hfronts]; simp, score, hscore, ?_⟩
      simpa [group_order, hnone, hscore] using hno_worse

theorem exists_best (hscored : ∃ group ∈ cmab.groups,
      (scores.get_cmab_score_for_group group.id config).isSome) :
    ∃ best, IsFirstBest (group_order cmab) (scored scores config cmab.groups) best := by
  obtain ⟨group, hgroup, hsome⟩ := hscored
  obtain ⟨score, hscore⟩ := Option.isSome_iff_exists.mp hsome
  have hmem : (score, group) ∈ scored scores config cmab.groups :=
    List.mem_filterMap.mpr ⟨group, hgroup, by rw [hscore]; rfl⟩
  exact first_best.exists_first_best (group_order_trans cmab) (group_order_total cmab)
    (List.ne_nil_of_mem hmem)

theorem rank_groups_head (name : String) {first : Score × CMABGroup}
    (hfirst : IsFirstBest (group_order cmab) (defaulted scores config cmab.groups) first) :
    ∃ rest, rank_groups scores cmab config name =
      ranked_group name first.1 first.2.id first.2 :: rest := by
  have hhead := first_best.head_mergeSort (group_order_trans cmab) (group_order_total cmab) hfirst
  obtain ⟨rest, hsort⟩ := List.head?_eq_some_iff.mp hhead
  rw [rank_groups_eq, hsort, List.map_cons]
  exact ⟨_, rfl⟩

end Selections

/-! ## The ranking and the assignment -/

/-- A bandit that runs for a user: it is started, it has a config, and the user is not sampled. -/
structure RunningCmab (env : EvaluatorEnv) (name : String) where
  cmabs : HashMap String CMABConfig
  cmab : CMABConfig
  config : HashMap String CMABGroupConfig
  loaded : env.specs_data.cmab_configs = some cmabs
  named : cmabs.get name = some cmab
  started : is_cmab_started cmab = true
  configured : cmab.config = some config
  not_sampled : should_sample env cmab = false

section Runs

variable {Score : Type} [LinearOrder Score] (scores : Scores Score) {env : EvaluatorEnv}
  {name : String} (running : RunningCmab env name) {rec : Recur} {ctx passed : EvaluatorContext}

theorem get_cmab_ranked_list_eq (get_shuffled_groups : CMABConfig → List CMABGroup)
    (hpasses : get_passes_targeting rec running.cmab ctx = .ok true passed) :
    get_cmab_ranked_list scores env get_shuffled_groups rec name ctx =
      .ok (rank_groups scores running.cmab running.config name) passed := by
  unfold get_cmab_ranked_list
  rw [running.loaded]
  dsimp only
  rw [running.named]
  simp only [running.started, Bool.not_true, Bool.false_eq_true, if_false, bind_apply, hpasses,
    andThen_ok, if_true, running.configured, running.not_sampled]
  rfl

theorem evaluate_cmab_by_eq {best : Score × CMABGroup}
    (hpasses : get_passes_targeting rec running.cmab ctx = .ok true passed)
    (hbest : IsFirstBest (group_order running.cmab)
      (scored scores running.config running.cmab.groups) best) :
    evaluate_cmab_by scores env rec name .Experiment ctx =
      .ok true (apply_group best.2 passed.result.rule_id_suffix
        (set_cmab_fields running.cmab passed)) := by
  have hfold := foldl_pick_best_by scores running.cmab running.config running.cmab.groups none
  rw [first_best.foldl_pick_eq hbest] at hfold
  have hassign :
      assign_cmab_group_by scores env running.cmab (set_cmab_fields running.cmab passed) =
        apply_group best.2 passed.result.rule_id_suffix (set_cmab_fields running.cmab passed) := by
    simp only [assign_cmab_group_by, running.configured, running.not_sampled, apply_best_group_by,
      hfold]
    rfl
  unfold evaluate_cmab_by
  rw [running.loaded]
  dsimp only
  rw [running.named]
  simp only [running.started, Bool.not_true, Bool.false_eq_true, if_false, bind_apply, hpasses,
    andThen_ok, if_true]
  rw [← hassign]
  rfl

end Runs

/-- The ranked list is headed by the group that is assigned, just when the groups without a score
are beaten. -/
theorem ranking_agrees_iff {Score : Type} [LinearOrder Score] (scores : Scores Score)
    {env : EvaluatorEnv} {name : String} (running : RunningCmab env name)
    (get_shuffled_groups : CMABConfig → List CMABGroup) (rec : Recur)
    {ctx passed ctx' passed' : EvaluatorContext}
    (hranked : get_passes_targeting rec running.cmab ctx = .ok true passed)
    (hassigned : get_passes_targeting rec running.cmab ctx' = .ok true passed')
    (hscored : ∃ group ∈ running.cmab.groups,
      (scores.get_cmab_score_for_group group.id running.config).isSome) :
    (∃ first rest assigned,
      get_cmab_ranked_list scores env get_shuffled_groups rec name ctx =
        .ok (first :: rest) passed ∧
      evaluate_cmab_by scores env rec name .Experiment ctx' = .ok true assigned ∧
      assigned.result.rule_id = some first.rule_id ∧
      assigned.result.json_value.bind DynamicReturnable.get_json = first.value) ↔
      UnscoredAreBeaten scores running.cmab running.config := by
  obtain ⟨best, hbest⟩ := exists_best hscored
  rw [get_cmab_ranked_list_eq scores running get_shuffled_groups hranked,
    evaluate_cmab_by_eq scores running hassigned hbest]
  constructor
  · rintro ⟨first, rest, assigned, hlist, hassigned, hid, -⟩
    by_contra hbeaten
    obtain ⟨group, hgroup, -⟩ := hscored
    have hne : defaulted scores running.config running.cmab.groups ≠ [] := by
      intro hnil
      rw [List.map_eq_nil_iff.mp hnil] at hgroup
      cases hgroup
    obtain ⟨head, hhead⟩ := first_best.exists_first_best (group_order_trans running.cmab)
      (group_order_total running.cmab) hne
    obtain ⟨others, hranks⟩ := rank_groups_head name hhead
    have hnone := head_unscored hbeaten hhead
    rw [hranks] at hlist
    cases hlist
    cases hassigned
    obtain ⟨-, group, -, -, hgroup, -⟩ := first_best.of_filterMap hbest
    obtain ⟨score, hscore, rfl⟩ := Option.map_eq_some_iff.mp hgroup
    have hids : group.id = head.2.id := Option.some.inj hid
    rw [hids, hnone] at hscore
    cases hscore
  · intro hbeaten
    obtain ⟨rest, hranks⟩ := rank_groups_head name (defaulted_of_beaten hbeaten hbest)
    exact ⟨_, rest, _, congrArg (fun list => Outcome.ok list passed) hranks, rfl, rfl, rfl⟩

/-- A bandit with the groups "a" and "b". The better score is the higher one. -/
def two_groups : CMABConfig where
  salt := ""
  default_value := .null
  id_type := ⟨"userID", "userid"⟩
  enabled := true
  version := 1
  sample_rate := 0
  higher_is_better := true
  groups := [⟨"A", .json [], "a"⟩, ⟨"B", .null, "b"⟩]
  config := some []
  targeting_gate_name := none

def two_groups_env : EvaluatorEnv := .plain { cmab_configs := some [("bandit", two_groups)] }

def two_groups_run : RunningCmab two_groups_env "bandit" where
  cmabs := [("bandit", two_groups)]
  cmab := two_groups
  config := []
  loaded := rfl
  named := rfl
  started := rfl
  configured := rfl
  not_sampled := by simp [should_sample, two_groups_env, EvaluatorEnv.plain, two_groups]

/-- The group "b" has a score, and "a" has none. -/
def one_score (score : Int) : Scores Int where
  zero := 0
  explored := 1
  get_cmab_score_for_group := fun id _ => if id = "b" then some score else none

/-- A score of one beats the group without a score. -/
theorem positive_score_agrees : ∃ first rest assigned,
    get_cmab_ranked_list (one_score 1) two_groups_env CMABConfig.groups
      (fun _ _ => pure .Recognized) "bandit" {} = .ok (first :: rest) {} ∧
    evaluate_cmab_by (one_score 1) two_groups_env (fun _ _ => pure .Recognized) "bandit"
      .Experiment {} = .ok true assigned ∧
    assigned.result.rule_id = some first.rule_id ∧
    assigned.result.json_value.bind DynamicReturnable.get_json = first.value := by
  apply (ranking_agrees_iff (one_score 1) two_groups_run CMABConfig.groups
    (fun _ _ => pure .Recognized) rfl rfl ⟨_, List.mem_cons_of_mem _ List.mem_cons_self, rfl⟩).mpr
  intro front group back hsplit hnone
  exact .inl ⟨_, List.mem_cons_of_mem _ List.mem_cons_self, 1, rfl, rfl⟩

/-- A group without a score is ranked in front of one with a negative score. -/
theorem negative_score_disagrees :
    ¬ ∀ (scores : Scores Int) (env : EvaluatorEnv) (name : String) (running : RunningCmab env name)
      (get_shuffled_groups : CMABConfig → List CMABGroup) (rec : Recur)
      (ctx passed ctx' passed' : EvaluatorContext),
      get_passes_targeting rec running.cmab ctx = .ok true passed →
      get_passes_targeting rec running.cmab ctx' = .ok true passed' →
      (∃ group ∈ running.cmab.groups,
        (scores.get_cmab_score_for_group group.id running.config).isSome) →
      ∃ first rest assigned,
        get_cmab_ranked_list scores env get_shuffled_groups rec name ctx =
          .ok (first :: rest) passed ∧
        evaluate_cmab_by scores env rec name .Experiment ctx' = .ok true assigned ∧
        assigned.result.rule_id = some first.rule_id ∧
        assigned.result.json_value.bind DynamicReturnable.get_json = first.value := by
  intro hagree
  obtain ⟨first, rest, assigned, hlist, hassigned, hid, -⟩ := hagree (one_score (-1))
    two_groups_env "bandit" two_groups_run CMABConfig.groups (fun _ _ => pure .Recognized) {} {} {}
    {} rfl rfl ⟨_, List.mem_cons_of_mem _ List.mem_cons_self, rfl⟩
  have hfirst : IsFirstBest (group_order two_groups)
      (defaulted (one_score (-1)) [] two_groups.groups) (0, ⟨"A", .json [], "a"⟩) :=
    ⟨[], [(-1, ⟨"B", .null, "b"⟩)], rfl, by simp, by simp [group_order, no_worse, two_groups]⟩
  have hbest : IsFirstBest (group_order two_groups)
      (scored (one_score (-1)) [] two_groups.groups) (-1, ⟨"B", .null, "b"⟩) :=
    ⟨[], [], rfl, by simp, by simp⟩
  obtain ⟨others, hranks⟩ := rank_groups_head "bandit" hfirst
  rw [get_cmab_ranked_list_eq _ two_groups_run _ rfl] at hlist
  rw [evaluate_cmab_by_eq _ two_groups_run rfl hbest] at hassigned
  have hhead := hranks.symm.trans (Outcome.ok.inj hlist).1
  cases hhead
  cases hassigned
  revert hid
  decide

end statsig_rust.evaluation
