-- What each step leaves under the hashes of a pattern: an entry that is compiled once it was used
-- with `str_matches`, and a static value that was compiled before the preload or never is.
import StatsigCore.InternedValues.EvaluatorValues

open comparisons
open statsig_ffi (JsonValue from_utf8_utf8)
open statsig_ffi.format (utf8)
open statsig_rust (HashMap)
open statsig_rust.interned_values (Arc LocalStore)

namespace interned_values

/-! ## Targets -/

namespace Target

/-- What a target reads as. A null in JSON is no target. -/
def value (crates : Crates) : Target → Option JsonValue
  | .json raw_value => if raw_value = "null" then none else crates.std.json_from_str raw_value
  | .proto any_value => EvaluatorStore.any_value_to_json_value crates any_value

/-- The text of JSON that a message is interned under. -/
def written (crates : Crates) (any_value : AnyValue) : Option (List UInt8) :=
  (EvaluatorStore.any_value_to_json_value crates any_value).map fun value =>
    utf8 (crates.std.json_to_string value)

/-- The bytes that are looked up among the static values as they are. -/
def raw_bytes : AnyValue → List (List UInt8)
  | .RawValue bytes => [bytes]
  | _ => []

/-- The texts whose hashes a target is looked up under, in their order. -/
def texts (crates : Crates) : Target → List (List UInt8)
  | .json raw_value => [utf8 raw_value]
  | .proto any_value => raw_bytes any_value ++ (written crates any_value).toList

/-- The text that a target is interned under, where no static value is found. -/
def interned_text (crates : Crates) : Target → Option (List UInt8)
  | .json raw_value => if raw_value = "null" then none else some (utf8 raw_value)
  | .proto any_value => written crates any_value

theorem mem_texts_of_interned {crates : Crates} {target : Target} {text : List UInt8}
    (h : target.interned_text crates = some text) : text ∈ target.texts crates := by
  cases target with
  | json raw_value =>
    rcases ite_eq_iff.mp h with ⟨-, hnone⟩ | ⟨-, hsome⟩
    · nomatch hnone
    · exact Option.some.inj hsome ▸ List.mem_singleton_self _
  | proto any_value => exact List.mem_append_right _ (Option.mem_toList.mpr h)

def hashes (crates : Crates) (target : Target) : List UInt64 :=
  (target.texts crates).map crates.hash_one

end Target

/-- `serde_json` reads a string that it wrote as the same string. -/
def StringsReadBack (crates : Crates) : Prop :=
  ∀ s, crates.std.json_from_str (crates.std.json_to_string (.String s)) = some (.String s)

namespace EvaluatorStore

variable {crates : Crates} {pattern : String}

/-- The target of a pattern before `compile_regex`. -/
def plain (crates : Crates) (pattern : String) : MemoizedEvaluatorValue :=
  .from_json crates.std (.String pattern)

def compiled (crates : Crates) (pattern : String) : MemoizedEvaluatorValue :=
  { plain crates pattern with regex_value := some pattern }

@[simp] theorem plain_regex : (plain crates pattern).regex_value = none := rfl

theorem compile_plain (hpattern : crates.env.regex.new pattern = true) :
    (plain crates pattern).compile_regex crates.env.regex = compiled crates pattern :=
  if_pos hpattern

theorem from_slice_utf8 (text : String) :
    from_slice crates (utf8 text) = crates.std.json_from_str text := by
  unfold from_slice
  rw [from_utf8_utf8, Option.bind_some]

/-- Every text of the target reads as what the target does. -/
theorem text_reads (hserde : StringsReadBack crates) {target : Target}
    (htarget : target.value crates = some (.String pattern)) :
    ∀ text ∈ target.texts crates, from_slice crates text = some (.String pattern) := by
  intro text htext
  cases target with
  | json raw_value =>
    rw [List.mem_singleton.mp htext, from_slice_utf8]
    exact (ite_eq_iff.mp htarget).elim (fun h => nomatch h.2) (·.2)
  | proto any_value =>
    have hvalue : any_value_to_json_value crates any_value = some (.String pattern) := htarget
    rcases List.mem_append.mp htext with hraw | hwritten
    · cases any_value with
      | RawValue bytes => exact List.mem_singleton.mp hraw ▸ hvalue
      | _ => nomatch hraw
    · rw [Target.written, hvalue] at hwritten
      rw [List.mem_singleton.mp hwritten, from_slice_utf8]
      exact hserde pattern

theorem from_raw_value_of_reads {raw_value : String}
    (h : from_slice crates (utf8 raw_value) = some (.String pattern)) :
    from_raw_value crates raw_value = plain crates pattern := by
  rw [from_slice_utf8] at h
  unfold from_raw_value
  rw [h]
  rfl

/-! ## What a step does -/

variable {s s' : EvaluatorStore} {hash : UInt64}

/-- The map has the `Arc` under the hash, and is otherwise as it was. -/
structure Puts (s : EvaluatorStore) (hash : UInt64) (arc : Arc MemoizedEvaluatorValue)
    (s' : EvaluatorStore) : Prop where
  immortal : s'.IMMORTAL_DATA = s.IMMORTAL_DATA
  uses : s'.uses = s.uses
  get : ∀ key, s'.MUTABLE_DATA.get key = if key = hash then some arc else s.MUTABLE_DATA.get key
  keys : (s.MUTABLE_DATA.map.map Prod.fst).Nodup → (s'.MUTABLE_DATA.map.map Prod.fst).Nodup

theorem puts_found {arc : Arc MemoizedEvaluatorValue} (h : s.MUTABLE_DATA.get hash = some arc) :
    Puts s hash arc s where
  immortal := rfl
  uses := rfl
  get key := by
    by_cases hkey : key = hash
    · rw [if_pos hkey, hkey, h]
    · rw [if_neg hkey]
  keys := id

theorem puts_insert (s : EvaluatorStore) (hash : UInt64) (arc : Arc MemoizedEvaluatorValue)
    (allocated : Nat) : Puts s hash arc ({ s with allocated }.insert hash arc) where
  immortal := rfl
  uses := rfl
  get := s.MUTABLE_DATA.get_insert hash arc
  keys := s.MUTABLE_DATA.insert_keys hash arc

theorem Puts.found {arc : Arc MemoizedEvaluatorValue} (h : Puts s hash arc s') :
    s'.MUTABLE_DATA.get hash = some arc := (h.get hash).trans (if_pos rfl)

theorem Puts.trans {arc arc' : Arc MemoizedEvaluatorValue} {mid : EvaluatorStore}
    (h : Puts s hash arc mid) (h' : Puts mid hash arc' s') : Puts s hash arc' s' where
  immortal := h'.immortal.trans h.immortal
  uses := h'.uses.trans h.uses
  get key := by
    rw [h'.get, h.get]
    split <;> rfl
  keys hkeys := h'.keys (h.keys hkeys)

theorem get_from_local_spec (crates : Crates) (s : EvaluatorStore) (hash : UInt64)
    (raw_value : String) :
    Puts s hash (s.get_evaluator_value_from_local crates hash raw_value).1
        (s.get_evaluator_value_from_local crates hash raw_value).2 ∧
      (s.get_evaluator_value_from_local crates hash raw_value).1.value =
        ((s.MUTABLE_DATA.get hash).map Arc.value).getD (from_raw_value crates raw_value) := by
  unfold get_evaluator_value_from_local
  cases h : s.MUTABLE_DATA.get hash with
  | some arc => exact ⟨puts_found h, rfl⟩
  | none => exact ⟨puts_insert s hash _ _, rfl⟩

/-- What a condition of the operator makes of the value of its entry. -/
def used_value (crates : Crates) (operator : Option String) (value : MemoizedEvaluatorValue) :
    MemoizedEvaluatorValue :=
  if operator = some "str_matches" then
    if value.regex_value.isSome then value else value.compile_regex crates.env.regex
  else value

theorem make_mut_spec (s : EvaluatorStore) (hash : UInt64) (arc : Arc MemoizedEvaluatorValue)
    (change : MemoizedEvaluatorValue → MemoizedEvaluatorValue) :
    (s.make_mut arc change).1.value = change arc.value ∧
      Puts s hash (s.make_mut arc change).1
        ((s.make_mut arc change).2.insert hash (s.make_mut arc change).1) := by
  unfold make_mut
  split
  · exact ⟨rfl, puts_insert s hash _ s.allocated⟩
  · exact ⟨rfl, puts_insert s hash _ _⟩

theorem compile_regex_spec (crates : Crates) {arc : Arc MemoizedEvaluatorValue}
    (h : s.MUTABLE_DATA.get hash = some arc) :
    ∃ arc', (s.compile_regex crates ⟨hash, .Pointer arc⟩).1 = ⟨hash, .Pointer arc'⟩ ∧
      arc'.value = used_value crates (some "str_matches") arc.value ∧
      Puts s hash arc' (s.compile_regex crates ⟨hash, .Pointer arc⟩).2 := by
  unfold compile_regex used_value
  rw [if_pos rfl]
  by_cases hregex : arc.value.regex_value.isSome
  · simp only [if_pos hregex]
    exact ⟨arc, rfl, rfl, puts_found h⟩
  · simp only [if_neg hregex]
    obtain ⟨hvalue, hputs⟩ := make_mut_spec s hash arc (.compile_regex crates.env.regex)
    exact ⟨_, rfl, hvalue, hputs⟩

/-! ## What a parser does -/

/-- The first static value of the target's texts. -/
def preloaded_value (s : EvaluatorStore) (crates : Crates) (target : Target) :
    Option MemoizedEvaluatorValue :=
  (target.hashes crates).findSome? s.get_evaluator_value_from_shared

/-- What a target becomes before it is used: a static value, or the entry of its text. -/
inductive Found (crates : Crates) (s : EvaluatorStore) (target : Target) :
    EvaluatorValue × EvaluatorStore → Prop where
  | preloaded (hash : UInt64) (value : MemoizedEvaluatorValue)
      (h : s.preloaded_value crates target = some value) :
      Found crates s target (⟨hash, .Static value⟩, s)
  | interned (raw_value : String) (htext : target.interned_text crates = some (utf8 raw_value))
      (h : s.preloaded_value crates target = none) :
      Found crates s target
        (⟨crates.hash_one (utf8 raw_value),
          .Pointer (s.get_evaluator_value_from_local crates (crates.hash_one (utf8 raw_value))
            raw_value).1⟩,
          (s.get_evaluator_value_from_local crates (crates.hash_one (utf8 raw_value)) raw_value).2)

theorem get_or_intern_found {target : Target} {raw_value : String} {front : List (List UInt8)}
    (htexts : target.texts crates = front ++ [utf8 raw_value])
    (hinterned : target.interned_text crates = some (utf8 raw_value))
    (hfront : ∀ text ∈ front,
      s.get_evaluator_value_from_shared (crates.hash_one text) = none) :
    Found crates s target (s.get_or_intern_evaluator_value crates raw_value) := by
  have hlookup : s.preloaded_value crates target =
      s.get_evaluator_value_from_shared (crates.hash_one (utf8 raw_value)) := by
    unfold preloaded_value Target.hashes
    rw [htexts, List.map_append, List.findSome?_append,
      List.findSome?_eq_none_iff.mpr fun hash hmem => ?_, Option.none_or]
    · rw [List.map_singleton, List.findSome?_singleton]
    · obtain ⟨text, htext, rfl⟩ := List.mem_map.mp hmem
      exact hfront text htext
  unfold get_or_intern_evaluator_value
  dsimp only
  cases hshared : s.get_evaluator_value_from_shared (crates.hash_one (utf8 raw_value)) with
  | some value => exact .preloaded _ value (hlookup.trans hshared)
  | none => exact .interned raw_value hinterned (hlookup.trans hshared)

/-- The value of a message that is not found by its bytes. -/
theorem from_json_value_found {any_value : AnyValue} {found : EvaluatorValue × EvaluatorStore}
    (hraw : ∀ bytes ∈ Target.raw_bytes any_value,
      s.get_evaluator_value_from_shared (crates.hash_one bytes) = none)
    (h : (any_value_to_json_value crates any_value).map (s.from_json_value crates) =
      some found) : Found crates s (.proto any_value) found := by
  obtain ⟨value, hvalue, rfl⟩ := Option.map_eq_some_iff.mp h
  have hwritten : Target.written crates any_value =
      some (utf8 (crates.std.json_to_string value)) := congrArg (Option.map _) hvalue
  refine get_or_intern_found ?_ hwritten hraw
  simp only [Target.texts, hwritten, Option.toList_some]

theorem target_value_from_pb_found {any_value : AnyValue} {found : EvaluatorValue × EvaluatorStore}
    (h : s.target_value_from_pb crates any_value = some found) :
    Found crates s (.proto any_value) found := by
  unfold target_value_from_pb at h
  cases any_value with
  | RawValue bytes =>
    cases hshared : s.get_evaluator_value_from_shared (crates.hash_one bytes) with
    | some value =>
      simp only [try_get_preloaded_evaluator_value, hshared, Option.map_some] at h
      cases h
      refine .preloaded _ value ?_
      simp only [preloaded_value, Target.hashes, Target.texts, Target.raw_bytes,
        List.singleton_append, List.map_cons, List.findSome?_cons, hshared]
    | none =>
      simp only [try_get_preloaded_evaluator_value, hshared, Option.map_none] at h
      refine from_json_value_found (fun text htext => ?_) h
      rw [List.mem_singleton.mp htext, hshared]
  | _ => exact from_json_value_found (fun _ htext => nomatch htext) h

theorem parse_target_found {target : Target} {value : EvaluatorValue}
    (h : s.parse_target crates target = some (some value, s')) :
    Found crates s target (value, s') := by
  cases target with
  | json raw_value =>
    simp only [parse_target] at h
    split at h
    · nomatch h
    · rename_i hnull
      cases h
      exact get_or_intern_found (List.nil_append _).symm (if_neg hnull) fun _ h => nomatch h
  | proto any_value =>
    simp only [parse_target, Option.map_eq_some_iff] at h
    obtain ⟨found, hfound, heq⟩ := h
    cases heq
    exact target_value_from_pb_found hfound

theorem parse_target_nothing {target : Target}
    (h : s.parse_target crates target = some (none, s')) :
    s' = s ∧ target.interned_text crates = none := by
  cases target with
  | json raw_value =>
    simp only [parse_target] at h
    split at h
    · rename_i hnull
      cases h
      exact ⟨rfl, if_pos hnull⟩
    · nomatch h
  | proto any_value =>
    simp only [parse_target, Option.map_eq_some_iff] at h
    obtain ⟨found, -, heq⟩ := h
    nomatch heq

/-- A target that reads as something becomes a value. -/
theorem parse_target_of_value {target : Target} {value : JsonValue}
    (htarget : target.value crates = some value) :
    ∃ found s', s.parse_target crates target = some (some found, s') := by
  cases target with
  | json raw_value =>
    have hnull : raw_value ≠ "null" := fun hnull => nomatch (if_pos hnull).symm.trans htarget
    exact ⟨_, _, if_neg hnull⟩
  | proto any_value =>
    simp only [parse_target, target_value_from_pb]
    split
    · exact ⟨_, _, rfl⟩
    · simp only [show any_value_to_json_value crates any_value = some value from htarget]
      exact ⟨_, _, rfl⟩

/-- What the parser of a condition gives, and what it leaves in the store. -/
inductive Parsed (crates : Crates) (s : EvaluatorStore) (target : Target)
    (operator : Option String) : Condition × EvaluatorStore → Prop where
  | nothing (h : target.interned_text crates = none) :
      Parsed crates s target operator (⟨none, operator⟩, s)
  | preloaded (hash : UInt64) (value : MemoizedEvaluatorValue)
      (h : s.preloaded_value crates target = some value) :
      Parsed crates s target operator (⟨some ⟨hash, .Static value⟩, operator⟩, s)
  | interned (raw_value : String) (arc : Arc MemoizedEvaluatorValue) (mid : EvaluatorStore)
      (htext : target.interned_text crates = some (utf8 raw_value))
      (h : s.preloaded_value crates target = none)
      (hputs : Puts s (crates.hash_one (utf8 raw_value)) arc mid)
      (hvalue : arc.value = used_value crates operator
        (((s.MUTABLE_DATA.get (crates.hash_one (utf8 raw_value))).map Arc.value).getD
          (from_raw_value crates raw_value))) :
      Parsed crates s target operator
        (⟨some ⟨crates.hash_one (utf8 raw_value), .Pointer arc⟩, operator⟩,
          { mid with uses := (crates.hash_one (utf8 raw_value), operator) :: mid.uses })

theorem finish_condition_parsed {target : Target} {found : EvaluatorValue × EvaluatorStore}
    (h : Found crates s target found) (operator : Option String) :
    Parsed crates s target operator (finish_condition crates operator (some found.1, found.2)) := by
  cases h with
  | preloaded hash value hlookup =>
    have hfinish : finish_condition crates operator (some ⟨hash, .Static value⟩, s) =
        (⟨some ⟨hash, .Static value⟩, operator⟩, s) := by
      simp only [finish_condition, compile_regex, ite_self, note_use]
    rw [hfinish]
    exact .preloaded hash value hlookup
  | interned raw_value htext hlookup =>
    generalize hkey : crates.hash_one (utf8 raw_value) = key
    obtain ⟨hputs, hvalue⟩ := get_from_local_spec crates s key raw_value
    generalize s.get_evaluator_value_from_local crates key raw_value = found at hputs hvalue
    obtain ⟨arc, mid⟩ := found
    dsimp only at hputs hvalue
    subst hkey
    simp only [finish_condition]
    by_cases hop : operator = some "str_matches"
    · obtain ⟨arc', hresult, hvalue', hputs'⟩ := compile_regex_spec crates hputs.found
      simp only [if_pos hop, hresult, note_use]
      refine .interned raw_value arc' _ htext hlookup (hputs.trans hputs') ?_
      rw [hvalue', hvalue, hop]
    · simp only [if_neg hop, note_use]
      refine .interned raw_value arc mid htext hlookup hputs ?_
      rw [hvalue]
      exact (if_neg hop).symm

theorem parse_condition_parsed {target : Target} {operator : Option String}
    {parsed : Condition × EvaluatorStore}
    (h : s.parse_condition crates target operator = some parsed) :
    Parsed crates s target operator parsed := by
  obtain ⟨⟨value, mid⟩, hparse, rfl⟩ := Option.map_eq_some_iff.mp h
  cases value with
  | none =>
    obtain ⟨rfl, hnothing⟩ := parse_target_nothing hparse
    exact .nothing hnothing
  | some value => exact finish_condition_parsed (parse_target_found hparse) operator

/-- All that a step does to the static values, to the map and to what is noted of its uses. -/
inductive Changes (crates : Crates) (s : EvaluatorStore) :
    EvaluatorStep → EvaluatorStore → Prop where
  | quiet (label : EvaluatorStep) (s' : EvaluatorStore)
      (hlabel : label ≠ .mutable_to_immortal)
      (himmortal : s'.IMMORTAL_DATA = s.IMMORTAL_DATA)
      (hmap : s'.MUTABLE_DATA = s.MUTABLE_DATA) (huses : s'.uses = s.uses) :
      Changes crates s label s'
  | interned (target : Target) (operator : Option String) (raw_value : String)
      (arc : Arc MemoizedEvaluatorValue) (mid s' : EvaluatorStore)
      (htext : utf8 raw_value ∈ target.texts crates)
      (hputs : Puts s (crates.hash_one (utf8 raw_value)) arc mid)
      (hvalue : arc.value = used_value crates operator
        (((s.MUTABLE_DATA.get (crates.hash_one (utf8 raw_value))).map Arc.value).getD
          (from_raw_value crates raw_value)))
      (himmortal : s'.IMMORTAL_DATA = mid.IMMORTAL_DATA)
      (hmap : s'.MUTABLE_DATA = mid.MUTABLE_DATA)
      (huses : s'.uses = (crates.hash_one (utf8 raw_value), operator) :: s.uses) :
      Changes crates s (.parse_condition target operator) s'
  | swept : Changes crates s .try_sweep s.try_sweep
  | preloaded (h : s.IMMORTAL_DATA = none) :
      Changes crates s .mutable_to_immortal s.mutable_to_immortal

theorem step_changes {label : EvaluatorStep} (h : step crates s label = some s') :
    Changes crates s label s' := by
  cases label with
  | parse_condition target operator =>
    obtain ⟨⟨condition, mid⟩, hparse, rfl⟩ := Option.map_eq_some_iff.mp h
    cases parse_condition_parsed hparse with
    | nothing _ => exact .quiet _ _ nofun rfl rfl rfl
    | preloaded hash value hlookup => exact .quiet _ _ nofun rfl rfl rfl
    | interned raw_value arc mid htext hlookup hputs hvalue =>
      refine .interned target operator raw_value arc mid _ (Target.mem_texts_of_interned htext)
        hputs hvalue rfl rfl ?_
      exact congrArg _ hputs.uses
  | clone k =>
    obtain ⟨condition, -, rfl⟩ := Option.map_eq_some_iff.mp h
    exact .quiet _ _ nofun rfl rfl rfl
  | drop k =>
    obtain ⟨condition, -, rfl⟩ := Option.map_eq_some_iff.mp h
    exact .quiet _ _ nofun rfl rfl rfl
  | try_sweep =>
    cases h
    exact .swept
  | mutable_to_immortal =>
    simp only [step] at h
    split at h
    · nomatch h
    · rename_i hfirst
      cases h
      exact .preloaded (Option.not_isSome_iff_eq_none.mp hfirst)

/-! ## The entry of a pattern -/

/-- What the store has under a hash of the pattern: the entry is compiled when it was used
with `str_matches`, and a static value may be either. -/
structure Sound (crates : Crates) (pattern : String) (hash : UInt64) (s : EvaluatorStore) :
    Prop where
  keys : (s.MUTABLE_DATA.map.map Prod.fst).Nodup
  entry : ∀ arc, s.MUTABLE_DATA.get hash = some arc →
    arc.value = if (hash, some "str_matches") ∈ s.uses then compiled crates pattern
      else plain crates pattern
  used : (s.MUTABLE_DATA.get hash).isSome ↔ hash ∈ s.uses.map Prod.fst
  shared : ∀ value, s.get_evaluator_value_from_shared hash = some value →
    value = plain crates pattern ∨ value = compiled crates pattern

theorem start_sound (hash : UInt64) : Sound crates pattern hash {} where
  keys := List.nodup_nil
  entry _ h := nomatch h
  used := ⟨fun h => (nomatch h), fun h => (nomatch h)⟩
  shared _ h := nomatch h

theorem shared_of_immortal (h : s'.IMMORTAL_DATA = s.IMMORTAL_DATA) (hash : UInt64) :
    s'.get_evaluator_value_from_shared hash = s.get_evaluator_value_from_shared hash := by
  unfold get_evaluator_value_from_shared
  rw [h]

theorem sound_quiet (hs : Sound crates pattern hash s)
    (himmortal : s'.IMMORTAL_DATA = s.IMMORTAL_DATA) (hmap : s'.MUTABLE_DATA = s.MUTABLE_DATA)
    (huses : s'.uses = s.uses) : Sound crates pattern hash s' where
  keys := hmap ▸ hs.keys
  entry := by
    rw [hmap, huses]
    exact hs.entry
  used := by
    rw [hmap, huses]
    exact hs.used
  shared := by
    rw [shared_of_immortal himmortal]
    exact hs.shared

/-- What the pattern's own text finds is what its entry was used for. -/
theorem Sound.value_found (hs : Sound crates pattern hash s) :
    ((s.MUTABLE_DATA.get hash).map Arc.value).getD (plain crates pattern) =
      if (hash, some "str_matches") ∈ s.uses then compiled crates pattern
      else plain crates pattern := by
  cases hget : s.MUTABLE_DATA.get hash with
  | some arc => exact hs.entry arc hget
  | none =>
    rw [if_neg fun hmem => ?_]
    · rfl
    · have hsome := hs.used.mpr (List.mem_map_of_mem hmem)
      rw [hget] at hsome
      nomatch hsome

theorem used_value_match {value : MemoizedEvaluatorValue}
    (hpattern : crates.env.regex.new pattern = true)
    (h : value = plain crates pattern ∨ value = compiled crates pattern) :
    used_value crates (some "str_matches") value = compiled crates pattern := by
  unfold used_value
  rw [if_pos rfl]
  rcases h with rfl | rfl
  · exact (if_neg nofun).trans (compile_plain hpattern)
  · exact if_pos rfl

theorem used_value_other {operator : Option String} (hop : operator ≠ some "str_matches")
    (value : MemoizedEvaluatorValue) : used_value crates operator value = value := if_neg hop

/-- A new use of the entry is one more reason to be compiled. -/
theorem used_value_of_pattern (hpattern : crates.env.regex.new pattern = true)
    (operator : Option String) (uses : List (UInt64 × Option String)) :
    used_value crates operator (if (hash, some "str_matches") ∈ uses then compiled crates pattern
        else plain crates pattern) =
      if (hash, some "str_matches") ∈ (hash, operator) :: uses then compiled crates pattern
      else plain crates pattern := by
  by_cases hop : operator = some "str_matches"
  · rw [hop, if_pos List.mem_cons_self]
    apply used_value_match hpattern
    split
    · exact .inr rfl
    · exact .inl rfl
  · have hsame : (hash, some "str_matches") ∈ (hash, operator) :: uses ↔
        (hash, some "str_matches") ∈ uses := by
      refine ⟨fun hmem => ?_, List.mem_cons_of_mem _⟩
      exact (List.mem_cons.mp hmem).resolve_left fun heq => hop (Prod.mk.inj heq).2.symm
    rw [used_value_other hop]
    simp only [hsame]

/-- Text whose hash is that of the pattern's text is that text. -/
theorem sound_interned (hpattern : crates.env.regex.new pattern = true)
    (hs : Sound crates pattern hash s) {operator : Option String} {raw_value : String}
    {arc : Arc MemoizedEvaluatorValue} {mid : EvaluatorStore}
    (hraw : crates.hash_one (utf8 raw_value) = hash →
      from_raw_value crates raw_value = plain crates pattern)
    (hputs : Puts s (crates.hash_one (utf8 raw_value)) arc mid)
    (hvalue : arc.value = used_value crates operator
      (((s.MUTABLE_DATA.get (crates.hash_one (utf8 raw_value))).map Arc.value).getD
        (from_raw_value crates raw_value)))
    (himmortal : s'.IMMORTAL_DATA = mid.IMMORTAL_DATA) (hmap : s'.MUTABLE_DATA = mid.MUTABLE_DATA)
    (huses : s'.uses = (crates.hash_one (utf8 raw_value), operator) :: s.uses) :
    Sound crates pattern hash s' := by
  generalize hkey : crates.hash_one (utf8 raw_value) = key at hraw hputs hvalue huses
  refine ⟨hmap ▸ hputs.keys hs.keys, fun arc' hget => ?_, ?_, fun value hvalue => ?_⟩
  · rw [hmap, hputs.get] at hget
    rw [huses]
    by_cases hsame : key = hash
    · subst hsame
      rw [if_pos rfl] at hget
      cases hget
      rw [hvalue, hraw rfl, hs.value_found, used_value_of_pattern hpattern]
    · rw [if_neg (Ne.symm hsame)] at hget
      have hold : (hash, some "str_matches") ∈ (key, operator) :: s.uses ↔
          (hash, some "str_matches") ∈ s.uses := by
        refine ⟨fun hmem => ?_, List.mem_cons_of_mem _⟩
        exact (List.mem_cons.mp hmem).resolve_left fun heq => hsame (Prod.mk.inj heq).1.symm
      simp only [hold]
      exact hs.entry arc' hget
  · rw [hmap, hputs.get, huses, List.map_cons, List.mem_cons]
    by_cases hsame : hash = key
    · simp only [hsame, if_true, Option.isSome_some, true_or]
    · simp only [hsame, if_false, false_or]
      exact hs.used
  · rw [shared_of_immortal (himmortal.trans hputs.immortal)] at hvalue
    exact hs.shared value hvalue

/-- A sweep keeps an entry with its uses, or takes both. -/
theorem sound_swept (hs : Sound crates pattern hash s) :
    Sound crates pattern hash s.try_sweep := by
  have hsub : s.try_sweep.MUTABLE_DATA.map.Sublist s.MUTABLE_DATA.map := List.filter_sublist
  have hkept : ∀ arc, s.try_sweep.MUTABLE_DATA.get hash = some arc →
      s.MUTABLE_DATA.get hash = some arc := fun arc hget =>
    HashMap.get_of_mem hs.keys (hsub.subset (HashMap.mem_of_get hget))
  have huses : ∀ operator, (hash, operator) ∈ s.try_sweep.uses ↔
      (hash, operator) ∈ s.uses ∧ hash ∈ s.try_sweep.MUTABLE_DATA.map.map Prod.fst := by
    intro operator
    refine List.mem_filter.trans ?_
    rw [decide_eq_true_eq]
    rfl
  refine ⟨hs.keys.sublist (hsub.map Prod.fst), fun arc hget => ?_, ?_, hs.shared⟩
  · rw [hs.entry arc (hkept arc hget)]
    have hthere : hash ∈ s.try_sweep.MUTABLE_DATA.map.map Prod.fst := HashMap.mem_keys_of_get hget
    simp only [huses, hthere, and_true]
  · constructor
    · intro hsome
      obtain ⟨arc, hget⟩ := Option.isSome_iff_exists.mp hsome
      have hused := hs.used.mp (Option.isSome_iff_exists.mpr ⟨arc, hkept arc hget⟩)
      obtain ⟨⟨key, operator⟩, hmem, rfl⟩ := List.mem_map.mp hused
      exact List.mem_map_of_mem ((huses operator).mpr ⟨hmem, HashMap.mem_keys_of_get hget⟩)
    · intro hused
      obtain ⟨⟨key, operator⟩, hmem, rfl⟩ := List.mem_map.mp hused
      obtain ⟨arc, hget⟩ := HashMap.get_of_mem_keys ((huses operator).mp hmem).2
      exact Option.isSome_iff_exists.mpr ⟨arc, hget⟩

/-- A preload makes the entry static as it is. -/
theorem preloaded_shared (s : EvaluatorStore) (hash : UInt64) :
    s.mutable_to_immortal.get_evaluator_value_from_shared hash =
      (s.MUTABLE_DATA.get hash).map Arc.value := HashMap.get_map ..

theorem sound_preloaded (hs : Sound crates pattern hash s) :
    Sound crates pattern hash s.mutable_to_immortal where
  keys := List.nodup_nil
  entry _ h := nomatch h
  used := ⟨fun h => (nomatch h), fun h => (nomatch h)⟩
  shared value h := by
    rw [preloaded_shared] at h
    obtain ⟨arc, hget, rfl⟩ := Option.map_eq_some_iff.mp h
    rw [hs.entry arc hget]
    split
    · exact .inr rfl
    · exact .inl rfl

end EvaluatorStore

end interned_values
