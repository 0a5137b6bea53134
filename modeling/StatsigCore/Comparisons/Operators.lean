-- The comparisons of `evaluation/comparisons`, and the choice among them by the operator of a
-- condition (`evaluation/evaluator.rs`). Nothing but an equality and a comparison of times can
-- panic.
import StatsigCore.Comparisons.Timestamps
import StatsigCore.Evaluation.EvaluatorContext

namespace statsig_ffi.F64

/-- The place of a double among the doubles. The two zeros share one. -/
def order (f : F64) : Int := if f.is_negative then -(f.toNat - 2 ^ 63 : Nat) else f.toNat

/-- `<`: a NaN is neither before nor after anything. -/
def lt (f g : F64) : Bool := !f.is_nan && !g.is_nan && f.order < g.order

def le (f g : F64) : Bool := lt f g || eq f g

end statsig_ffi.F64

open statsig_ffi
open statsig_rust (DynamicString HashMap InternedString)
open statsig_rust.evaluation (HashUtil IdListResolution)

namespace comparisons

/-! ## Numbers and versions -/

def compare_numbers (left : DynamicValue) (right : MemoizedEvaluatorValue) (op : String) : Bool :=
  match left.float_value, right.float_value with
  | some left_num, some right_num =>
    match op with
    | "gt" => F64.lt right_num left_num
    | "gte" => F64.le right_num left_num
    | "lt" => F64.lt left_num right_num
    | "lte" => F64.le left_num right_num
    | _ => false
  | _, _ => false

/-- The Unicode property `White_Space`. -/
def is_whitespace (c : Char) : Bool :=
  (9 ≤ c.toNat && c.toNat ≤ 13) || (0x2000 ≤ c.toNat && c.toNat ≤ 0x200A) ||
    c.toNat ∈ [0x20, 0x85, 0xA0, 0x1680, 0x2028, 0x2029, 0x202F, 0x205F, 0x3000]

def trim (part : List Char) : List Char :=
  ((part.dropWhile is_whitespace).reverse.dropWhile is_whitespace).reverse

def parse_digits (digits : List Char) : Option Int :=
  if digits ≠ [] ∧ digits.all Char.isDigit then
    some (digits.foldl (fun n c => 10 * n + (c.toNat - 48 : Nat)) 0)
  else none

/-- `str::parse::<i128>`. -/
def parse_i128 (part : List Char) : Option Int :=
  let parsed := match part with
    | '-' :: digits => (parse_digits digits).map fun n => -n
    | '+' :: digits => parse_digits digits
    | digits => parse_digits digits
  parsed.filter fun n => -2 ^ 127 ≤ n ∧ n < 2 ^ 127

/-- A part that is not there is no number. `none` is a failure to parse. -/
def next_num : Option (List Char) → Option (Option Int)
  | none => some none
  | some part => (parse_i128 (trim part)).map some

/-- The parts in pairs, as long as one side has one more. -/
def paired_parts (left_parts right_parts : List (List Char)) :
    List (Option (List Char) × Option (List Char)) :=
  let rounds := max left_parts.length right_parts.length
  (List.range rounds).map fun i => (left_parts[i]?, right_parts[i]?)

/-- The loop of `compare_versions_impl`. `none` is `NumericParseFailure`. -/
def compare_parts : List (Option (List Char) × Option (List Char)) → Option Int
  | [] => some 0
  | (left, right) :: parts => do
    let left_num ← next_num left
    let right_num ← next_num right
    if left_num.getD 0 < right_num.getD 0 then some (-1)
    else if left_num.getD 0 > right_num.getD 0 then some 1
    else compare_parts parts

/-- What comes after a dash is no part of the version. -/
def version_parts (s : String) : List (List Char) :=
  (s.toList.takeWhile (· ≠ '-')).splitOn '.'

def compare_versions_impl (left_str right_str : String) : Option Int :=
  compare_parts (paired_parts (version_parts left_str) (version_parts right_str))

def compare_versions (left : DynamicValue) (right : MemoizedEvaluatorValue) (op : String) : Bool :=
  match left.string_value, right.string_value with
  | some left_dyn_str, some right_dyn_str =>
    match compare_versions_impl left_dyn_str.value right_dyn_str.value with
    | none => false
    | some result =>
      match op with
      | "version_gt" => result > 0
      | "version_gte" => result ≥ 0
      | "version_lt" => result < 0
      | "version_lte" => result ≤ 0
      | "version_eq" => result = 0
      | "version_neq" => result ≠ 0
      | _ => false
  | _, _ => false

/-! ## Texts -/

def starts_with (s t : String) : Bool := t.toList.isPrefixOf s.toList

def ends_with (s t : String) : Bool := t.toList.isSuffixOf s.toList

def contains (s t : String) : Bool := s.toList.tails.any t.toList.isPrefixOf

def EMPTY_STRING : DynamicString := ⟨"", ""⟩

/-- One turn of the loop over the entries of the target. -/
def matches_entry (value_str : DynamicString) (op : String) (ignore_case : Bool)
    (entry : InternedString × Nat × InternedString) : Bool :=
  let left := if ignore_case then value_str.lowercased_value else value_str.value
  let right := if ignore_case then entry.1 else entry.2.2
  match op with
  | "any" | "none" | "any_case_sensitive" | "none_case_sensitive" => left == right
  | "str_starts_with_any" => starts_with left right
  | "str_ends_with_any" => ends_with left right
  | "str_contains_any" | "str_contains_none" => contains left right
  | _ => false

def contains_key {υ : Type} (map : HashMap InternedString υ) (key : InternedString) : Bool :=
  map.any fun entry => entry.1 == key

def compare_strings_in_array_impl (value_str : DynamicString)
    (target_value : MemoizedEvaluatorValue) (op : String) (ignore_case : Bool) : Bool :=
  let by_key := ignore_case && (op == "any" || op == "none")
  match by_key, target_value.object_value, target_value.array_value with
  | true, some keyed_lookup, _ => contains_key keyed_lookup value_str.lowercased_value
  | true, none, some array_value => contains_key array_value value_str.lowercased_value
  | false, _, some array_value => array_value.any (matches_entry value_str op ignore_case)
  | _, _, none => false

def compare_strings_in_array (value : DynamicValue) (target_value : MemoizedEvaluatorValue)
    (op : String) (ignore_case : Bool) : Bool :=
  let value_str := value.string_value.getD EMPTY_STRING
  let result := compare_strings_in_array_impl value_str target_value op ignore_case
  if op = "none" ∨ op = "none_case_sensitive" ∨ op = "str_contains_none" then !result else result

/-- The regex engine: whether a pattern compiles, and whether a text matches. -/
structure FancyRegex where
  new : String → Bool
  is_match : String → String → Option Bool

def MemoizedEvaluatorValue.compile_regex (regex : FancyRegex) (self : MemoizedEvaluatorValue) :
    MemoizedEvaluatorValue :=
  match self.string_value with
  | none => self
  | some dyn_str =>
    if regex.new dyn_str.value then { self with regex_value := some dyn_str.value } else self

def compare_str_with_regex (regex : FancyRegex) (value : DynamicValue)
    (regex_value : MemoizedEvaluatorValue) : Bool :=
  match value.string_value, regex_value.regex_value with
  | some value_str, some pattern => (regex.is_match pattern value_str.value).getD false
  | _, _ => false

/-! ## Arrays -/

/-- An element of the user's array as it is in the set. One without a text stands there as the
static empty string, whose hash is not that of an interned empty text, so it is `none`. -/
def set_element (x : DynamicValue) : Option InternedString := x.string_value.map (·.value)

/-- Whether the set finds an item. A set mixes its random keys into the hashes, and compares the
texts once a few bits of the two mixed hashes agree. `empties_meet` says whether those of the
static empty string and of an interned empty text do: then the one is found as the other. -/
def set_contains (empties_meet : Bool) (value_set : List (Option InternedString))
    (item : InternedString) : Bool :=
  value_set.contains (some item) || (empties_meet && item == "" && value_set.contains none)

/-- The loop over the entries of the target. -/
def compare_items (contains : InternedString → Bool) (op : String) :
    HashMap InternedString (Nat × InternedString) → Bool
  | [] => !(op == "array_contains_any" || op == "not_array_contains_all")
  | (_, _, item) :: entries =>
    match op with
    | "array_contains_all" =>
      if !contains item then false else compare_items contains op entries
    | "array_contains_any" =>
      if contains item then true else compare_items contains op entries
    | "array_contains_none" =>
      if contains item then false else compare_items contains op entries
    | "not_array_contains_all" =>
      if !contains item then true else compare_items contains op entries
    | _ => false

def compare_arrays (empties_meet : Bool) (value : DynamicValue)
    (target_value : MemoizedEvaluatorValue) (op : String) : Bool :=
  match target_value.array_value, value.array_value with
  | some target_array, some value_array =>
    compare_items (set_contains empties_meet (value_array.map set_element)) op target_array
  | _, _ => false

/-! ## The choice of a comparison -/

/-- What the comparisons of one evaluation share. -/
structure OperatorEnv where
  overflow_checks : Bool
  empties_meet : Bool
  regex : FancyRegex
  hashing : HashUtil
  id_list_resolver : IdListResolution

section Operators

variable (env : OperatorEnv)

def is_in_id_list (target_value : MemoizedEvaluatorValue) (value : DynamicValue) : Bool :=
  match target_value.string_value, value.string_value with
  | some list_name, some dyn_str =>
    let lookup_id := String.ofList ((env.hashing.sha256 dyn_str.value).toList.take 8)
    match env.id_list_resolver with
    | .MapLookup id_lists =>
      match id_lists.get list_name.value with
      | some ids => ids.contains lookup_id
      | none => false
    | .Callback callback => callback list_name.value lookup_id
  | _, _ => false

def evaluate_id_list (op : String) (target_value : MemoizedEvaluatorValue)
    (value : DynamicValue) : Bool :=
  let is_in_list := is_in_id_list env target_value value
  if op = "not_in_segment_list" then !is_in_list else is_in_list

inductive Answer where
  | decided (b : Bool)
  | unsupported
  | panicked
deriving DecidableEq

def Answer.of : Option Bool → Answer
  | some b => .decided b
  | none => .panicked

/-- The comparison at the end of `evaluate_condition`. -/
def evaluate_operator (operator : String) (value : DynamicValue)
    (target_value : MemoizedEvaluatorValue) : Answer :=
  if operator ∈ ["gt", "gte", "lt", "lte"] then
    .decided (compare_numbers value target_value operator)
  else if operator ∈ ["version_gt", "version_gte", "version_lt", "version_lte", "version_eq",
      "version_neq"] then
    .decided (compare_versions value target_value operator)
  else if operator ∈ ["any", "none", "str_starts_with_any", "str_ends_with_any",
      "str_contains_any", "str_contains_none"] then
    .decided (compare_strings_in_array value target_value operator true)
  else if operator ∈ ["any_case_sensitive", "none_case_sensitive"] then
    .decided (compare_strings_in_array value target_value operator false)
  else if operator = "str_matches" then
    .decided (compare_str_with_regex env.regex value target_value)
  else if operator ∈ ["before", "after", "on"] then
    .of (compare_time env.overflow_checks value target_value operator)
  else if operator = "eq" then
    .of (target_value.is_equal_to_dynamic_value value)
  else if operator = "neq" then
    .of ((target_value.is_equal_to_dynamic_value value).map not)
  else if operator ∈ ["in_segment_list", "not_in_segment_list"] then
    .decided (evaluate_id_list env operator target_value value)
  else if operator ∈ ["array_contains_any", "array_contains_none", "array_contains_all",
      "not_array_contains_all"] then
    .decided (compare_arrays env.empties_meet value target_value operator)
  else .unsupported

/-- The target of a condition is compiled when the specs are loaded. -/
def load_target (operator : String) (target_value : MemoizedEvaluatorValue) :
    MemoizedEvaluatorValue :=
  if operator = "str_matches" then target_value.compile_regex env.regex else target_value

end Operators

end comparisons
