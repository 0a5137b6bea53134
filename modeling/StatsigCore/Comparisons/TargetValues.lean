-- The target of a condition (`evaluation/evaluator_value.rs`): compiled out of JSON, written
-- back as JSON, and compared with a value of the user.
import StatsigCore.Library.LastWins
import StatsigCore.UserPayload.DynamicValues

open statsig_ffi
open statsig_rust (DynamicString EvaluatorValueType HashMap InternedString)

namespace comparisons

variable (std : Std)

/-! ## Targets -/

/-- `regex_value` is the pattern of the compiled regex. The array is keyed by the lowercase
text, with the index and the text of the array. -/
structure MemoizedEvaluatorValue where
  value_type : EvaluatorValueType
  bool_value : Option Bool := none
  float_value : Option F64 := none
  string_value : Option DynamicString := none
  regex_value : Option String := none
  timestamp_value : Option Int64 := none
  object_value : Option (HashMap InternedString DynamicString) := none
  array_value : Option (HashMap InternedString (Nat × InternedString)) := none

namespace MemoizedEvaluatorValue

def new (value_type : EvaluatorValueType) : MemoizedEvaluatorValue := { value_type }

/-- The plain parser of the rules, next to the one of the users. -/
def try_parse_timestamp (s : String) : Option Int64 :=
  match std.parse_i64 s with
  | some ts => some ts
  | none => (std.parse_from_rfc3339 s).or (std.parse_naive_datetime s)

/-- `From<String>`. -/
def from_string (value : String) : MemoizedEvaluatorValue where
  value_type := .String
  timestamp_value := try_parse_timestamp std value
  float_value := std.parse_f64 value
  string_value := some (dynamic_string std value)

end MemoizedEvaluatorValue

/-- The text of a value: its own for a string, else its JSON. -/
def text_of : JsonValue → String
  | .String s => s
  | value => std.json_to_string value

/-- `HashMap::from_iter`: of two entries of one key the later one stays. No key is there
twice, so the list is also an order in which the map can be gone through. -/
def collect {κ υ : Type} [DecidableEq κ] (entries : List (κ × υ)) : HashMap κ υ :=
  last_wins.collect Prod.fst entries

/-- The texts of an array with their places, keyed by the lowercase text. -/
def keyed_array (texts : List String) : HashMap InternedString (Nat × InternedString) :=
  collect (texts.zipIdx.map fun (text, idx) => (std.to_lowercase text, (idx, text)))

namespace MemoizedEvaluatorValue

/-- `From<JsonValue>`. -/
def from_json : JsonValue → MemoizedEvaluatorValue
  | .Null => .new .Null
  | .Bool b => { value_type := .Bool, bool_value := some b }
  | .Number n => { value_type := .Number, float_value := some (n.as_f64 std) }
  | .String s => from_string std s
  | .Array items =>
    { value_type := .Array
      array_value := some (keyed_array std (items.map (text_of std))) }
  | .Object entries =>
    { value_type := .Object
      object_value := some (collect (entries.map fun (k, v) =>
        (k, dynamic_string std (text_of std v)))) }

/-- The same target, with its maps in any order of iteration. -/
structure Arranges (target compiled : MemoizedEvaluatorValue) : Prop where
  value_type : target.value_type = compiled.value_type
  bool_value : target.bool_value = compiled.bool_value
  float_value : target.float_value = compiled.float_value
  string_value : target.string_value = compiled.string_value
  regex_value : target.regex_value = compiled.regex_value
  timestamp_value : target.timestamp_value = compiled.timestamp_value
  object_value : Option.Rel List.Perm target.object_value compiled.object_value
  array_value : Option.Rel List.Perm target.array_value compiled.array_value

theorem Arranges.refl (target : MemoizedEvaluatorValue) : Arranges target target := by
  refine ⟨rfl, rfl, rfl, rfl, rfl, rfl, ?_, ?_⟩
  · cases target.object_value with
    | none => exact .none
    | some m => exact .some (List.Perm.refl m)
  · cases target.array_value with
    | none => exact .none
    | some m => exact .some (List.Perm.refl m)

/-! ## Equality -/

/-- `PartialEq` of two strings reads their values only. -/
def same_string : Option DynamicString → Option DynamicString → Bool
  | some s, some t => s.value == t.value
  | none, none => true
  | _, _ => false

def same_float : Option F64 → Option F64 → Bool
  | some f, some g => F64.eq f g
  | none, none => true
  | _, _ => false

/-- The loop over the entries of an array. `none` is the panic of an index out of bounds. -/
def same_elements (other_arr : List DynamicValue) :
    HashMap InternedString (Nat × InternedString) → Option Bool
  | [] => some true
  | (_, i, self_value) :: entries =>
    match other_arr[i]? with
    | none => none
    | some other =>
      match other.string_value with
      | none => some false
      | some other_dyn_str =>
        if self_value ≠ other_dyn_str.value then some false else same_elements other_arr entries

/-- The loop over the entries of an object. -/
def same_fields (other_obj : HashMap String DynamicValue) :
    HashMap InternedString DynamicString → Bool
  | [] => true
  | (k, v) :: entries =>
    match other_obj.get k with
    | none => false
    | some other_dyn_val =>
      match other_dyn_val.string_value with
      | none => false
      | some other_str_val => other_str_val.value == v.value && same_fields other_obj entries

/-- `none` when the comparison panics. -/
def is_equal_to_dynamic_value (self : MemoizedEvaluatorValue) (other : DynamicValue) :
    Option Bool :=
  match self.value_type with
  | .Null =>
    match other.json_value with
    | .Null => some true
    | _ => some false
  | .Bool => some (self.bool_value == other.bool_value)
  | .Number => some (same_float self.float_value other.float_value)
  | .String => some (same_string self.string_value other.string_value)
  | .Array =>
    match self.array_value, other.array_value with
    | none, other_arr => some other_arr.isNone
    | some _, none => some false
    | some self_keyed_arr, some other_arr =>
      if self_keyed_arr.len ≠ other_arr.length then some false
      else same_elements other_arr self_keyed_arr
  | .Object =>
    match self.object_value, other.object_value with
    | none, other_obj => some other_obj.isNone
    | some _, none => some false
    | some self_obj, some other_obj =>
      if self_obj.len ≠ HashMap.len other_obj then some false
      else some (same_fields other_obj self_obj)

/-! ## Serialization -/

/-- `Serialize` of a dynamic string: the two texts that parse as a boolean become one. -/
def serialize_string (s : DynamicString) : JsonValue :=
  if s.value = "true" then .Bool true
  else if s.value = "false" then .Bool false
  else .String s.value

/-- `Serialize` of an `f64`: what is no JSON number is null. -/
def serialize_f64 (f : F64) : JsonValue :=
  match Number.from_f64 f with
  | some n => .Number n
  | none => .Null

/-- The texts of an array, by their places. -/
def serialize_array (array_map : HashMap InternedString (Nat × InternedString)) : List String :=
  ((array_map.map Prod.snd).mergeSort fun a b => a.1 ≤ b.1).map Prod.snd

/-- `Serialize`. An option without a value is null. -/
def serialize (self : MemoizedEvaluatorValue) : JsonValue :=
  match self.value_type with
  | .Null => .Null
  | .Bool => self.bool_value.elim .Null .Bool
  | .Number => self.float_value.elim .Null serialize_f64
  | .String => self.string_value.elim .Null serialize_string
  | .Array => self.array_value.elim .Null fun array_map =>
    .Array ((serialize_array array_map).map .String)
  | .Object => self.object_value.elim .Null fun self_obj =>
    .Object (self_obj.map fun (k, v) => (k, serialize_string v))

end MemoizedEvaluatorValue

end comparisons
