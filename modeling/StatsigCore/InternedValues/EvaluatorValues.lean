-- The targets of conditions in the interned store (`evaluation/evaluator_value.rs`,
-- `interned_values/interned_store.rs`), from the specs that are parsed to the preload that makes
-- them static. Each step is a whole call: a preload runs before concurrent traffic.
import StatsigCore.Comparisons.Operators
import StatsigCore.InternedValues.InternedStore
import StatsigCore.UserPayload.DecodeUserPayload

open comparisons
open statsig_ffi (DynamicValue F64 JsonValue Number Std from_utf8)
open statsig_rust (HashMap)
open statsig_rust.interned_values (Arc LocalStore SharedStore)
open statsig_ffi.format (utf8)

namespace interned_values

inductive EvaluatorValueInner where
  | Pointer (arc : Arc MemoizedEvaluatorValue)
  | Static (value : MemoizedEvaluatorValue)

structure EvaluatorValue where
  hash : UInt64
  inner : EvaluatorValueInner

def EvaluatorValue.as_ref (value : EvaluatorValue) : MemoizedEvaluatorValue :=
  match value.inner with
  | .Pointer arc => arc.value
  | .Static value => value

/-- The fields of a condition that the store and the regexes are about. -/
structure Condition where
  target_value : Option EvaluatorValue
  operator : Option String

/-- A condition that has no target is compared with `EvaluatorValue::empty()`. -/
def Condition.target (condition : Condition) : MemoizedEvaluatorValue :=
  (condition.target_value.map EvaluatorValue.as_ref).getD (.new .Null)

/-- The value of a `pb::AnyValue`. -/
inductive AnyValue where
  | BoolValue (value : Bool)
  | RawValue (value : List UInt8)
  | StringValue (value : String)
  | DoubleValue (value : F64)
  | Int64Value (value : Int64)
  | Uint64Value (value : UInt64)

/-- A target as the specs have it: the text that stands in the JSON, or the value of the message. -/
inductive Target where
  | json (raw_value : String)
  | proto (any_value : AnyValue)

/-- The strings and the returnables are left out. The last field is no part of the program: what
the entries of the map have been used with since they were put in. -/
structure EvaluatorStore where
  IMMORTAL_DATA : Option (HashMap UInt64 MemoizedEvaluatorValue) := none
  MUTABLE_DATA : LocalStore MemoizedEvaluatorValue := {}
  conditions : List Condition := []
  allocated : Nat := 0
  uses : List (UInt64 × Option String) := []

inductive EvaluatorStep where
  /-- A condition of specs that are loaded or preloaded. -/
  | parse_condition (target : Target) (operator : Option String)
  | clone (k : Nat)
  | drop (k : Nat)
  /-- A sweep of the map, by a drop or by `run_maintenance`. -/
  | try_sweep
  /-- The end of `preload_multi`, once its specs are parsed. -/
  | mutable_to_immortal

/-- What the store is linked with: `serde_json` and the parsers of texts, the hash of `ahash` for
bytes, and what the operators share. -/
structure Crates where
  std : Std
  hash_one : List UInt8 → UInt64
  env : OperatorEnv

namespace EvaluatorStore

/-- The `Arc`s that the conditions hold. -/
def holders (s : EvaluatorStore) : List (UInt64 × Arc MemoizedEvaluatorValue) :=
  s.conditions.filterMap fun condition =>
    match condition.target_value with
    | some ⟨hash, .Pointer arc⟩ => some (hash, arc)
    | _ => none

/-- How many of the map's entries and of the conditions own the `Arc`. -/
def strong_count (s : EvaluatorStore) (arc : Arc MemoizedEvaluatorValue) : Nat :=
  (SharedStore.addresses s.MUTABLE_DATA.map).count arc.address +
    (SharedStore.addresses s.holders).count arc.address

def allocate (s : EvaluatorStore) (value : MemoizedEvaluatorValue) :
    Arc MemoizedEvaluatorValue × EvaluatorStore :=
  (⟨s.allocated, value⟩, { s with allocated := s.allocated + 1 })

def insert (s : EvaluatorStore) (hash : UInt64) (arc : Arc MemoizedEvaluatorValue) :
    EvaluatorStore :=
  { s with MUTABLE_DATA := s.MUTABLE_DATA.insert hash arc }

/-! ## Interning -/

section Interning

variable (crates : Crates)

/-- `MemoizedEvaluatorValue::from_raw_value`. -/
def from_raw_value (raw_value : String) : MemoizedEvaluatorValue :=
  match crates.std.json_from_str raw_value with
  | some value => .from_json crates.std value
  | none => .new .Null

def get_evaluator_value_from_shared (s : EvaluatorStore) (hash : UInt64) :
    Option MemoizedEvaluatorValue :=
  s.IMMORTAL_DATA.bind fun shared => HashMap.get shared hash

def get_evaluator_value_from_local (s : EvaluatorStore) (hash : UInt64) (raw_value : String) :
    Arc MemoizedEvaluatorValue × EvaluatorStore :=
  match s.MUTABLE_DATA.get hash with
  | some arc => (arc, s)
  | none =>
    let (arc, s) := s.allocate (from_raw_value crates raw_value)
    (arc, s.insert hash arc)

def get_or_intern_evaluator_value (s : EvaluatorStore) (raw_value : String) :
    EvaluatorValue × EvaluatorStore :=
  let hash := crates.hash_one (utf8 raw_value)
  match s.get_evaluator_value_from_shared hash with
  | some value => (⟨hash, .Static value⟩, s)
  | none =>
    let (arc, s) := s.get_evaluator_value_from_local crates hash raw_value
    (⟨hash, .Pointer arc⟩, s)

def try_get_preloaded_evaluator_value (s : EvaluatorStore) (bytes : List UInt8) :
    Option EvaluatorValue :=
  let hash := crates.hash_one bytes
  (s.get_evaluator_value_from_shared hash).map fun value => ⟨hash, .Static value⟩

def from_json_value (s : EvaluatorStore) (value : JsonValue) : EvaluatorValue × EvaluatorStore :=
  s.get_or_intern_evaluator_value crates (crates.std.json_to_string value)

/-- `serde_json::from_slice`. -/
def from_slice (bytes : List UInt8) : Option JsonValue :=
  (from_utf8 bytes).bind crates.std.json_from_str

/-- `none` is an error of the parser. -/
def any_value_to_json_value : AnyValue → Option JsonValue
  | .BoolValue value => some (.Bool value)
  | .RawValue value => from_slice crates value
  | .StringValue value => some (.String value)
  | .DoubleValue value => some (((Number.from_f64 value).map JsonValue.Number).getD .Null)
  | .Int64Value value => some (.Number (Number.from_i64 value))
  | .Uint64Value value => some (.Number (.PosInt value))

def target_value_from_pb (s : EvaluatorStore) (target_value : AnyValue) :
    Option (EvaluatorValue × EvaluatorStore) :=
  let preloaded := match target_value with
    | .RawValue raw_value => s.try_get_preloaded_evaluator_value crates raw_value
    | _ => none
  match preloaded with
  | some evaluator_value => some (evaluator_value, s)
  | none => (any_value_to_json_value crates target_value).map (s.from_json_value crates)

/-- `Arc::make_mut` and the call on what it gives: the only owner changes its value in place, and
any other one a copy. -/
def make_mut (s : EvaluatorStore) (arc : Arc MemoizedEvaluatorValue)
    (change : MemoizedEvaluatorValue → MemoizedEvaluatorValue) :
    Arc MemoizedEvaluatorValue × EvaluatorStore :=
  if s.strong_count arc = 0 then (⟨arc.address, change arc.value⟩, s)
  else s.allocate (change arc.value)

/-- `EvaluatorValue::compile_regex`. A static value is left as it is. -/
def compile_regex (s : EvaluatorStore) (value : EvaluatorValue) : EvaluatorValue × EvaluatorStore :=
  match value.inner with
  | .Static _ => (value, s)
  | .Pointer arc =>
    if arc.value.regex_value.isSome then (value, s)
    else
      let (arc, s) := s.make_mut arc (.compile_regex crates.env.regex)
      (⟨value.hash, .Pointer arc⟩, s.insert value.hash arc)

/-! ## Conditions -/

/-- The target of a condition in JSON may be null, which is no target. `none` is an error. -/
def parse_target (s : EvaluatorStore) : Target → Option (Option EvaluatorValue × EvaluatorStore)
  | .json raw_value =>
    if raw_value = "null" then some (none, s)
    else
      let (value, s) := s.get_or_intern_evaluator_value crates raw_value
      some (some value, s)
  | .proto any_value => (s.target_value_from_pb crates any_value).map fun (value, s) => (value, s)

/-- A use of an entry of the map. -/
def note_use (s : EvaluatorStore) (value : EvaluatorValue) (operator : Option String) :
    EvaluatorStore :=
  match value.inner with
  | .Pointer _ => { s with uses := (value.hash, operator) :: s.uses }
  | .Static _ => s

/-- The end of `Condition::deserialize` and of `condition_from_pb`. -/
def finish_condition (operator : Option String) :
    Option EvaluatorValue × EvaluatorStore → Condition × EvaluatorStore
  | (none, s) => (⟨none, operator⟩, s)
  | (some value, s) =>
    let (value, s) := if operator = some "str_matches" then s.compile_regex crates value
      else (value, s)
    (⟨some value, operator⟩, s.note_use value operator)

def parse_condition (s : EvaluatorStore) (target : Target) (operator : Option String) :
    Option (Condition × EvaluatorStore) :=
  (s.parse_target crates target).map (finish_condition crates operator)

/-- `evaluate_condition`, from the value that it compares on. -/
def evaluate_condition (condition : Condition) (value : DynamicValue) : Answer :=
  match condition.operator with
  | none => .unsupported
  | some operator => evaluate_operator crates.env operator value condition.target

end Interning

/-! ## Sweeps and preloads -/

/-- The entries that something other than the map owns. -/
def try_sweep (s : EvaluatorStore) : EvaluatorStore :=
  let map := s.MUTABLE_DATA.map.filter fun entry => s.strong_count entry.2 ≠ 1
  { s with
    MUTABLE_DATA.map := map
    uses := s.uses.filter fun used => used.1 ∈ map.map Prod.fst }

/-- Every entry becomes static, whichever specs it is from. -/
def mutable_to_immortal (s : EvaluatorStore) : EvaluatorStore :=
  { s with
    IMMORTAL_DATA := some (s.MUTABLE_DATA.map.map fun entry => (entry.1, entry.2.value))
    MUTABLE_DATA.map := []
    uses := [] }

def step (crates : Crates) (s : EvaluatorStore) : EvaluatorStep → Option EvaluatorStore
  | .parse_condition target operator =>
    (s.parse_condition crates target operator).map fun (condition, s) =>
      { s with conditions := condition :: s.conditions }
  | .clone k => s.conditions[k]?.map fun condition =>
    { s with conditions := condition :: s.conditions }
  | .drop k => s.conditions[k]?.map fun _ => { s with conditions := s.conditions.eraseIdx k }
  | .try_sweep => some s.try_sweep
  | .mutable_to_immortal => if s.IMMORTAL_DATA.isSome then none else some s.mutable_to_immortal

end EvaluatorStore

end interned_values
