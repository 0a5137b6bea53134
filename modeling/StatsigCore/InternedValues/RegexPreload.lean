-- Which preloads leave the conditions of a pattern as they are, over all runs, in JSON and in
-- messages.
import StatsigCore.InternedValues.EvaluatorEntries
import StatsigCore.Library.Machine

open comparisons machine
open statsig_ffi (DynamicValue)
open statsig_ffi.format (utf8)

namespace interned_values

namespace EvaluatorStore

variable {crates : Crates} {pattern : String} {s s' : EvaluatorStore}

/-! ## Runs -/

/-- The hash tells the texts of the step from those of the target. -/
def TellsApart (crates : Crates) (target : Target) : EvaluatorStep → Prop
  | .parse_condition other _ => ∀ text ∈ other.texts crates, ∀ text' ∈ target.texts crates,
    crates.hash_one text = crates.hash_one text' → text = text'
  | _ => True

/-- Every text of the target finds what it should. -/
def AllSound (crates : Crates) (pattern : String) (target : Target) (s : EvaluatorStore) : Prop :=
  ∀ hash ∈ target.hashes crates, Sound crates pattern hash s

theorem step_sound (hserde : StringsReadBack crates) {target : Target}
    (htarget : target.value crates = some (.String pattern))
    (hpattern : crates.env.regex.new pattern = true) (label : EvaluatorStep)
    (hs : AllSound crates pattern target s) (hlabel : TellsApart crates target label)
    (h : step crates s label = some s') : AllSound crates pattern target s' := by
  intro hash hhash
  cases step_changes h with
  | quiet _ _ _ himmortal hmap huses => exact sound_quiet (hs hash hhash) himmortal hmap huses
  | interned other operator raw_value arc mid _ htext hputs hvalue himmortal hmap huses =>
    refine sound_interned hpattern (hs hash hhash) (fun hsame => ?_) hputs hvalue himmortal hmap
      huses
    obtain ⟨text, htext', rfl⟩ := List.mem_map.mp hhash
    apply from_raw_value_of_reads
    rw [hlabel _ htext text htext' hsame]
    exact text_reads hserde htarget text htext'
  | swept => exact sound_swept (hs hash hhash)
  | preloaded _ => exact sound_preloaded (hs hash hhash)

/-- If the step makes the entries static, the first text of the target that has an entry was
used with `str_matches` since its entry was put in. -/
def PreloadsCompiled (crates : Crates) (target : Target) (s : EvaluatorStore) :
    EvaluatorStep → Prop
  | .mutable_to_immortal => s.IMMORTAL_DATA = none →
    ∀ hash, (target.hashes crates).find? (fun hash => hash ∈ s.uses.map Prod.fst) = some hash →
      (hash, some "str_matches") ∈ s.uses
  | _ => True

/-- No static value of the target lacks its regex. -/
def StaticCompiled (crates : Crates) (pattern : String) (target : Target) (s : EvaluatorStore) :
    Prop :=
  ∀ value, s.preloaded_value crates target = some value → value = compiled crates pattern

theorem compiled_ne_plain : compiled crates pattern ≠ plain crates pattern :=
  fun h => nomatch congrArg MemoizedEvaluatorValue.regex_value h

theorem findSome_of_find {α β : Type} {f : α → Option β} {p : α → Bool} {l : List α}
    (h : ∀ a ∈ l, (f a).isSome ↔ p a = true) : l.findSome? f = (l.find? p).bind f := by
  induction l with
  | nil => rfl
  | cons a l ih =>
    have hrest := ih fun b hb => h b (List.mem_cons_of_mem a hb)
    have ha := h a List.mem_cons_self
    rw [List.findSome?_cons, List.find?_cons]
    cases hf : f a with
    | some b =>
      rw [hf] at ha
      rw [ha.mp rfl]
      exact hf.symm
    | none =>
      rw [hf] at ha
      rw [Bool.eq_false_iff.mpr fun hp => nomatch ha.mpr hp]
      exact hrest

theorem preloaded_value_after {target : Target} (hs : AllSound crates pattern target s) :
    s.mutable_to_immortal.preloaded_value crates target =
      ((target.hashes crates).find? fun hash => hash ∈ s.uses.map Prod.fst).map fun hash =>
        if (hash, some "str_matches") ∈ s.uses then compiled crates pattern
        else plain crates pattern := by
  unfold preloaded_value
  simp only [funext (preloaded_shared s)]
  rw [findSome_of_find (p := fun hash => hash ∈ s.uses.map Prod.fst) fun hash hhash => ?_]
  · cases hfind : (target.hashes crates).find? fun hash => hash ∈ s.uses.map Prod.fst with
    | none => rfl
    | some hash =>
      have hhash := List.mem_of_find?_eq_some hfind
      have hmem : hash ∈ s.uses.map Prod.fst := by
        simpa only [decide_eq_true_eq] using List.find?_some hfind
      have hused := (hs hash hhash).used.mpr hmem
      obtain ⟨arc, hget⟩ := Option.isSome_iff_exists.mp hused
      rw [Option.bind_some, hget, Option.map_some, Option.map_some, (hs hash hhash).entry arc hget]
  · rw [Option.isSome_map, decide_eq_true_eq]
    exact (hs hash hhash).used

/-- What the step does to the static values of the target. -/
theorem step_staticCompiled_iff {target : Target} {label : EvaluatorStep}
    (hs : AllSound crates pattern target s) (hstatic : StaticCompiled crates pattern target s)
    (h : step crates s label = some s') :
    StaticCompiled crates pattern target s' ↔ PreloadsCompiled crates target s label := by
  have hkept (himmortal : s'.IMMORTAL_DATA = s.IMMORTAL_DATA) :
      StaticCompiled crates pattern target s' := by
    unfold StaticCompiled preloaded_value
    rw [funext (shared_of_immortal himmortal)]
    exact hstatic
  cases step_changes h with
  | quiet label _ hlabel himmortal _ _ =>
    refine ⟨fun _ => ?_, fun _ => hkept himmortal⟩
    cases label with
    | mutable_to_immortal => exact absurd rfl hlabel
    | _ => trivial
  | interned _ _ _ _ mid _ _ hputs _ himmortal _ _ =>
    exact ⟨fun _ => trivial, fun _ => hkept (himmortal.trans hputs.immortal)⟩
  | swept => exact ⟨fun _ => trivial, fun _ => hkept rfl⟩
  | preloaded hfirst =>
    unfold StaticCompiled
    rw [preloaded_value_after hs]
    constructor
    · intro hall _ hash hfind
      by_contra hunmatched
      have hplain := hall _ (congrArg _ hfind)
      exact compiled_ne_plain (hplain.symm.trans (if_neg hunmatched))
    · intro hmatched value hvalue
      obtain ⟨hash, hfind, rfl⟩ := Option.map_eq_some_iff.mp hvalue
      exact if_pos (hmatched hfirst hash hfind)

theorem refused_preload {target : Target} {label : EvaluatorStep}
    (h : step crates s label = none) : PreloadsCompiled crates target s label := by
  cases label with
  | mutable_to_immortal =>
    intro hfirst
    simp only [step, hfirst, Option.isSome_none, Bool.false_eq_true, if_false] at h
    cases h
  | _ => trivial

/-! ## Evaluations -/

/-- What a condition of the target answers when it is parsed now and evaluated. -/
def outcome (crates : Crates) (s : EvaluatorStore) (target : Target) (value : DynamicValue) :
    Option Answer :=
  (s.parse_condition crates target (some "str_matches")).map fun (condition, _) =>
    evaluate_condition crates condition value

/-- The condition compares with what a preload left, else with the compiled pattern. -/
theorem outcome_eq (hserde : StringsReadBack crates) {target : Target}
    (htarget : target.value crates = some (.String pattern))
    (hpattern : crates.env.regex.new pattern = true) (hs : AllSound crates pattern target s)
    (value : DynamicValue) :
    s.outcome crates target value = some (.decided (compare_str_with_regex crates.env.regex value
      ((s.preloaded_value crates target).getD (compiled crates pattern)))) := by
  obtain ⟨found, mid, hparse⟩ := parse_target_of_value (s := s) htarget
  have hparsed := finish_condition_parsed (parse_target_found hparse) (some "str_matches")
  have htarget_value :
      (finish_condition crates (some "str_matches") (some found, mid)).1.target_value ≠ none :=
    nofun
  unfold outcome parse_condition
  rw [hparse, Option.map_some, Option.map_some]
  generalize finish_condition crates (some "str_matches") (some found, mid) = parsed
    at hparsed htarget_value
  cases hparsed with
  | nothing _ => exact absurd rfl htarget_value
  | preloaded hash static hlookup =>
    rw [hlookup]
    rfl
  | interned raw_value arc mid htext hlookup hputs hvalue =>
    have hmem := Target.mem_texts_of_interned htext
    have hhash : crates.hash_one (utf8 raw_value) ∈ target.hashes crates := List.mem_map_of_mem hmem
    rw [from_raw_value_of_reads (text_reads hserde htarget _ hmem),
      (hs _ hhash).value_found, used_value_of_pattern hpattern, if_pos List.mem_cons_self] at hvalue
    rw [hlookup, Option.getD_none, ← hvalue]
    rfl

theorem run_sound (hserde : StringsReadBack crates) {target : Target}
    (htarget : target.value crates = some (.String pattern))
    (hpattern : crates.env.regex.new pattern = true) {labels : List EvaluatorStep}
    (hlabels : ∀ label ∈ labels, TellsApart crates target label)
    (h : run (step crates) {} labels = some s) : AllSound crates pattern target s := by
  have halong : Along (step crates) (fun _ label => True ∧ TellsApart crates target label) {}
      labels := along_and_mem (along_true _ labels) hlabels
  refine run_invariant_along (fun s label s' hs hlabel hstep => ?_) halong
    (fun hash _ => start_sound hash) h
  exact step_sound hserde htarget hpattern label hs hlabel.2 hstep

/-- Without a preload, a condition of a pattern matches as the pattern does, in JSON and in a
message. -/
theorem outcome_unpreloaded (hserde : StringsReadBack crates) {target : Target}
    (htarget : target.value crates = some (.String pattern))
    (hpattern : crates.env.regex.new pattern = true) (value : DynamicValue) :
    outcome crates {} target value = some (.decided (compare_str_with_regex crates.env.regex value
      (compiled crates pattern))) := by
  have hnone : preloaded_value {} crates target = none :=
    List.findSome?_eq_none_iff.mpr fun _ _ => rfl
  rw [outcome_eq hserde htarget hpattern (fun hash _ => start_sound hash), hnone, Option.getD_none]

theorem plain_matches_nothing (value : DynamicValue) :
    compare_str_with_regex crates.env.regex value (plain crates pattern) = false := by
  unfold compare_str_with_regex
  rw [plain_regex]
  cases value.string_value <;> rfl

/-- One state of a run: a condition that is parsed there answers as without a preload, unless a
static value lacks the regex that would match. -/
theorem outcome_unchanged_iff (hserde : StringsReadBack crates) {target : Target}
    (htarget : target.value crates = some (.String pattern))
    (hpattern : crates.env.regex.new pattern = true) (hs : AllSound crates pattern target s)
    (value : DynamicValue) :
    s.outcome crates target value = outcome crates {} target value ↔
      StaticCompiled crates pattern target s ∨
        outcome crates {} target value = some (.decided false) := by
  rw [outcome_eq hserde htarget hpattern hs, outcome_unpreloaded hserde htarget hpattern]
  unfold StaticCompiled
  cases hlookup : s.preloaded_value crates target with
  | none => exact ⟨fun _ => .inl fun _ h => (nomatch h), fun _ => rfl⟩
  | some static =>
    obtain ⟨hash, hhash, hshared⟩ := List.exists_of_findSome?_eq_some hlookup
    rw [Option.getD_some]
    rcases (hs hash hhash).shared static hshared with rfl | rfl
    · rw [plain_matches_nothing]
      constructor
      · exact fun hsame => .inr hsame.symm
      · rintro (hcompiled | hfalse)
        · exact absurd (hcompiled _ rfl).symm compiled_ne_plain
        · exact hfalse.symm
    · exact ⟨fun _ => .inl fun _ h => (Option.some.inj h).symm, fun _ => rfl⟩

end EvaluatorStore

open EvaluatorStore

variable {crates : Crates} {target : Target} {pattern : String}

/-- Whatever is parsed, dropped, swept and preloaded, a condition of a pattern answers as without
a preload exactly if the preload finds the pattern used with `str_matches`, or not at all, or if
the pattern does not match. -/
theorem preload_is_transparent_iff (hserde : StringsReadBack crates)
    (htarget : target.value crates = some (.String pattern))
    (hpattern : crates.env.regex.new pattern = true) {labels : List EvaluatorStep}
    (hlabels : ∀ label ∈ labels, TellsApart crates target label) (value : DynamicValue) :
    (∀ n s, run (step crates) {} (labels.take n) = some s →
        s.outcome crates target value = outcome crates {} target value) ↔
      Along (step crates) (PreloadsCompiled crates target) {} labels ∨
        outcome crates {} target value = some (.decided false) := by
  have hsound (n : Nat) (s : EvaluatorStore)
      (h : run (step crates) {} (labels.take n) = some s) : AllSound crates pattern target s :=
    run_sound hserde htarget hpattern
      (fun label hmem => hlabels label (List.mem_of_mem_take hmem)) h
  have hpoint (n : Nat) (s : EvaluatorStore)
      (h : run (step crates) {} (labels.take n) = some s) :=
    outcome_unchanged_iff hserde htarget hpattern (hsound n s h) value
  have halong : (∀ n s, run (step crates) {} (labels.take n) = some s →
      AllSound crates pattern target s ∧ StaticCompiled crates pattern target s) ↔
      Along (step crates) (PreloadsCompiled crates target) {} labels := by
    refine invariant_iff_along_of (fun s label s' hs hlabel hstep => ?_)
      (fun s label hrefused => refused_preload hrefused)
      ⟨fun hash _ => start_sound hash, fun value h => ?_⟩ hlabels
    · rw [← step_staticCompiled_iff hs.1 hs.2 hstep]
      exact and_iff_right (step_sound hserde htarget hpattern label hs.1 hlabel hstep)
    · have hnone : preloaded_value {} crates target = none :=
        List.findSome?_eq_none_iff.mpr fun _ _ => rfl
      nomatch hnone.symm.trans h
  rw [← halong]
  constructor
  · intro hall
    by_cases hfalse : outcome crates {} target value = some (.decided false)
    · exact .inr hfalse
    · refine .inl fun n s h => ⟨hsound n s h, ?_⟩
      exact ((hpoint n s h).mp (hall n s h)).resolve_right hfalse
  · rintro (hstatic | hfalse) n s h
    · exact (hpoint n s h).mpr (.inl (hstatic n s h).2)
    · exact (hpoint n s h).mpr (.inr hfalse)

/-- Specs that are parsed and then made static, before anything else. -/
def preload (specs : List (Target × Option String)) : List EvaluatorStep :=
  specs.map (fun spec => .parse_condition spec.1 spec.2) ++ [.mutable_to_immortal]

/-- `serde_json` for strings that need no escapes, and regexes that are plain text. -/
def plain_text_crates : Crates where
  std := {
    calendar [] with
    json_to_string := fun value =>
      match value with
      | .String s => String.ofList ('\x22' :: s.toList ++ ['\x22'])
      | _ => "null"
    json_from_str := fun text =>
      if text.toList.head? = some '\x22' ∧ text.toList.getLast? = some '\x22' then
        some (.String (String.ofList text.toList.tail.dropLast))
      else none }
  hash_one bytes := bytes.foldl (fun hash byte => 31 * hash + byte.toUInt64) 7
  env := {
    overflow_checks := true
    empties_meet := false
    regex := ⟨fun _ => true, fun pattern text => some (contains text pattern)⟩
    hashing := ⟨id, fun _ _ => none, fun _ _ _ => none⟩
    id_list_resolver := .MapLookup [] }

theorem plain_text_reads_back : StringsReadBack plain_text_crates := by
  intro s
  have hlast : ('\x22' :: (s.toList ++ ['\x22'])).getLast? = some '\x22' :=
    List.getLast?_concat (l := '\x22' :: s.toList)
  simp [plain_text_crates, hlast]

def test_email : Target := .json (String.ofList ('\x22' :: "test_email".toList ++ ['\x22']))

def email_value : DynamicValue := { string_value := some ⟨"test_email", "test_email"⟩ }

theorem one_text_told_apart (crates : Crates) (raw_value : String) (operator : Option String) :
    ∀ label ∈ preload [(.json raw_value, operator)], TellsApart crates (.json raw_value) label := by
  intro label hlabel
  rcases List.mem_cons.mp hlabel with rfl | hlabel
  · intro text htext text' htext' _
    rw [List.mem_singleton.mp htext, List.mem_singleton.mp htext']
  · rw [List.mem_singleton.mp hlabel]
    trivial

/-- The specs that are preloaded use the text with `str_matches`. -/
theorem preloaded_regex_matches :
    (∀ n s, run (step plain_text_crates) {}
        ((preload [(test_email, some "str_matches")]).take n) = some s →
        s.outcome plain_text_crates test_email email_value =
          outcome plain_text_crates {} test_email email_value) ↔
      Along (step plain_text_crates) (PreloadsCompiled plain_text_crates test_email) {}
          (preload [(test_email, some "str_matches")]) ∨
        outcome plain_text_crates {} test_email email_value = some (.decided false) :=
  have htarget : test_email.value plain_text_crates = some (.String "test_email") := rfl
  preload_is_transparent_iff plain_text_reads_back htarget rfl (one_text_told_apart _ _ _)
    email_value

/-- The specs that are preloaded use the text with another operator only. -/
theorem preloaded_text_never_matches :
    ∃ s, run (step plain_text_crates) {} (preload [(test_email, some "any")]) = some s ∧
      s.outcome plain_text_crates test_email email_value = some (.decided false) ∧
      outcome plain_text_crates {} test_email email_value = some (.decided true) :=
  ⟨_, rfl, by decide +kernel, by decide +kernel⟩

/-! ## A preload at the start -/

/-- What the specs use with which operators. -/
def uses_of (crates : Crates) (specs : List (Target × Option String)) :
    List (UInt64 × Option String) :=
  specs.flatMap fun spec =>
    (spec.1.interned_text crates).toList.map fun text => (crates.hash_one text, spec.2)

theorem uses_of_cons (spec : Target × Option String) (specs : List (Target × Option String)) :
    uses_of crates (spec :: specs) =
      (spec.1.interned_text crates).toList.map (fun text => (crates.hash_one text, spec.2)) ++
        uses_of crates specs := List.flatMap_cons

theorem parse_uses {s s' : EvaluatorStore} {operator : Option String}
    (hfirst : s.IMMORTAL_DATA = none)
    (h : step crates s (.parse_condition target operator) = some s') :
    s'.IMMORTAL_DATA = none ∧ s'.uses =
      (target.interned_text crates).toList.map (fun text => (crates.hash_one text, operator)) ++
        s.uses := by
  obtain ⟨⟨condition, mid⟩, hparse, rfl⟩ := Option.map_eq_some_iff.mp h
  cases parse_condition_parsed hparse with
  | nothing hnothing =>
    rw [hnothing]
    exact ⟨hfirst, rfl⟩
  | preloaded hash value hlookup =>
    obtain ⟨found, -, hshared⟩ := List.exists_of_findSome?_eq_some hlookup
    rw [get_evaluator_value_from_shared, hfirst] at hshared
    nomatch hshared
  | interned raw_value arc mid htext hlookup hputs hvalue =>
    rw [htext]
    exact ⟨hputs.immortal.trans hfirst, congrArg _ hputs.uses⟩

theorem specs_uses {specs : List (Target × Option String)} {s s' : EvaluatorStore}
    (hfirst : s.IMMORTAL_DATA = none)
    (h : run (step crates) s (specs.map fun spec => .parse_condition spec.1 spec.2) = some s') :
    s'.IMMORTAL_DATA = none ∧
      ∀ used, used ∈ s'.uses ↔ used ∈ uses_of crates specs ∨ used ∈ s.uses := by
  induction specs generalizing s with
  | nil =>
    cases h
    exact ⟨hfirst, fun used => (or_iff_right List.not_mem_nil).symm⟩
  | cons spec specs ih =>
    obtain ⟨mid, hmid, hrest⟩ := run_cons_eq_some.mp h
    obtain ⟨hmidFirst, hmidUses⟩ := parse_uses hfirst hmid
    obtain ⟨hlast, huses⟩ := ih hmidFirst hrest
    refine ⟨hlast, fun used => ?_⟩
    rw [huses used, hmidUses, uses_of_cons, List.mem_append, List.mem_append, ← or_assoc]
    exact or_congr_left or_comm

/-- Of the texts that the target is looked up under, the first that the specs have is one that
they use with `str_matches`. -/
def UsedAsRegex (crates : Crates) (target : Target) (specs : List (Target × Option String)) :
    Prop :=
  ∀ hash, (target.hashes crates).find? (fun hash => hash ∈ (uses_of crates specs).map Prod.fst) =
    some hash → (hash, some "str_matches") ∈ uses_of crates specs

/-- After a preload at the start, a condition of a pattern answers as without it exactly if the
specs have the pattern with `str_matches`, or not at all, or if it does not match. -/
theorem startup_preload_iff (hserde : StringsReadBack crates)
    (htarget : target.value crates = some (.String pattern))
    (hpattern : crates.env.regex.new pattern = true) {specs : List (Target × Option String)}
    (hspecs : ∀ label ∈ preload specs, TellsApart crates target label) {s : EvaluatorStore}
    (h : run (step crates) {} (preload specs) = some s) (value : DynamicValue) :
    s.outcome crates target value = outcome crates {} target value ↔
      UsedAsRegex crates target specs ∨ outcome crates {} target value = some (.decided false) := by
  rw [outcome_unchanged_iff hserde htarget hpattern (run_sound hserde htarget hpattern hspecs h)]
  apply or_congr_left
  have hrun := h
  rw [preload, run_append] at hrun
  obtain ⟨mid, hmid, hlast⟩ := Option.bind_eq_some_iff.mp hrun
  obtain ⟨hfirst, huses⟩ := specs_uses rfl hmid
  obtain ⟨last, hdrain, hend⟩ := run_cons_eq_some.mp hlast
  cases hend
  have hsound : AllSound crates pattern target mid :=
    run_sound hserde htarget hpattern (fun label hlabel =>
      hspecs label (List.mem_append_left _ hlabel)) hmid
  have hstatic : StaticCompiled crates pattern target mid := by
    intro value hvalue
    obtain ⟨hash, -, hshared⟩ := List.exists_of_findSome?_eq_some hvalue
    rw [get_evaluator_value_from_shared, hfirst] at hshared
    nomatch hshared
  have hmem (used : UInt64 × Option String) : used ∈ mid.uses ↔ used ∈ uses_of crates specs :=
    (huses used).trans (or_iff_left List.not_mem_nil)
  have hkeys (hash : UInt64) :
      hash ∈ mid.uses.map Prod.fst ↔ hash ∈ (uses_of crates specs).map Prod.fst := by
    simp only [List.mem_map, hmem]
  rw [step_staticCompiled_iff hsound hstatic hdrain]
  unfold UsedAsRegex
  simp only [PreloadsCompiled, hfirst, forall_const, hkeys, hmem]

end interned_values
