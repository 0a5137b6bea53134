-- The values of a user, and the builder of a user (`evaluation/dynamic_value.rs`,
-- `user/unit_id.rs`, `user/statsig_user_builder.rs`). A payload can hold any 64 bits as a
-- double, so here an `f64` is its bits. The hash of a value is left out.
import Mathlib.Algebra.GroupWithZero.Nat
import Mathlib.Algebra.Ring.Int.Defs
import StatsigCore.Evaluation.SpecTypes

namespace statsig_ffi

open statsig_rust (HashMap DynamicString)

/-! ## Doubles -/

abbrev F64 := UInt64

namespace F64

def exponent (f : F64) : Nat := f.toNat / 2 ^ 52 % 2 ^ 11

def mantissa (f : F64) : Nat := f.toNat % 2 ^ 52

def is_negative (f : F64) : Bool := 2 ^ 63 ≤ f.toNat

def is_finite (f : F64) : Bool := f.exponent ≠ 2047

def is_nan (f : F64) : Bool := !f.is_finite && f.mantissa ≠ 0

/-- The whole part of the absolute value. -/
def whole_part (f : F64) : Nat :=
  let significand := if f.exponent = 0 then f.mantissa else f.mantissa + 2 ^ 52
  let exponent := max f.exponent 1
  if 1075 ≤ exponent then significand * 2 ^ (exponent - 1075)
  else significand / 2 ^ (1075 - exponent)

/-- `f as i64`: towards zero, and no further than an `i64` goes. -/
def as_i64 (f : F64) : Int64 :=
  if f.is_nan then 0
  else
    match f.is_finite, f.is_negative with
    | false, false => Int64.maxValue
    | false, true => Int64.minValue
    | true, false => Int64.ofInt (min f.whole_part (2 ^ 63 - 1))
    | true, true => Int64.ofInt (max (-f.whole_part) (-2 ^ 63))

/-- `==`: a NaN is not itself, and the two zeros are one. -/
def eq (f g : F64) : Bool :=
  !f.is_nan && !g.is_nan && (f == g || (f <<< 1 == 0 && g <<< 1 == 0))

end F64

/-! ## JSON -/

/-- `serde_json::Number`. -/
inductive Number where
  | PosInt (n : UInt64)
  | NegInt (n : Int64)
  | Float (f : F64)
deriving DecidableEq

/-- `serde_json::Value`. -/
inductive JsonValue where
  | Null
  | Bool (b : Bool)
  | Number (n : Number)
  | String (s : String)
  | Array (items : List JsonValue)
  | Object (entries : List (String × JsonValue))

/-- What the standard library, `chrono` and `serde_json` make of texts and numbers. -/
structure Std where
  to_lowercase : String → String
  parse_i64 : String → Option Int64
  parse_f64 : String → Option F64
  f64_to_string : F64 → String
  i64_as_f64 : Int64 → F64
  u64_as_f64 : UInt64 → F64
  parse_from_rfc3339 : String → Option Int64
  parse_naive_datetime : String → Option Int64
  json_to_string : JsonValue → String
  json_from_str : String → Option JsonValue

namespace Number

/-- `Number::from` of an `i64`. -/
def from_i64 (n : Int64) : Number := if n < 0 then NegInt n else PosInt n.toUInt64

def from_f64 (f : F64) : Option Number := if f.is_finite then some (Float f) else none

def as_i64 : Number → Option Int64
  | PosInt n => if n ≤ Int64.maxValue.toUInt64 then some n.toInt64 else none
  | NegInt n => some n
  | Float _ => none

def as_f64 (std : Std) : Number → F64
  | PosInt n => std.u64_as_f64 n
  | NegInt n => std.i64_as_f64 n
  | Float f => f

theorem as_i64_from_i64 (n : Int64) : (from_i64 n).as_i64 = some n := by
  unfold from_i64
  by_cases h : n < 0
  · rw [if_pos h]
    rfl
  · rw [if_neg h]
    have hfits : n.toUInt64 ≤ Int64.maxValue.toUInt64 :=
      Int64.toUInt64_le (Int64.not_lt.mp h) (Int64.le_maxValue n)
    simp [as_i64, hfits]

end Number

/-! ## Dynamic values -/

structure DynamicValue where
  null : Option Unit := none
  bool_value : Option Bool := none
  int_value : Option Int64 := none
  float_value : Option F64 := none
  timestamp_value : Option Int64 := none
  string_value : Option DynamicString := none
  array_value : Option (List DynamicValue) := none
  object_value : Option (List (String × DynamicValue)) := none
  json_value : JsonValue := .Null

section From

variable (std : Std)

def dynamic_string (value : String) : DynamicString := ⟨value, std.to_lowercase value⟩

def try_parse_timestamp (s : String) : Option Int64 :=
  match std.parse_i64 s with
  | some ts => some ts
  | none =>
    if s.utf8ByteSize < 8 ∨ s.utf8ByteSize > 20 ∨
        ('-' ∉ s.toList ∧ 'T' ∉ s.toList ∧ ':' ∉ s.toList) then none
    else (std.parse_from_rfc3339 s).or (std.parse_naive_datetime s)

/-- The `i64` that a number is, also where it is written as a double. -/
def int_of (n : Number) : Option Int64 :=
  match n.as_i64 with
  | some i => some i
  | none =>
    let f := n.as_f64 std
    if F64.eq (std.i64_as_f64 f.as_i64) f then some f.as_i64 else none

namespace DynamicValue

mutual

/-- `From<JsonValue>`. -/
def from_json : JsonValue → DynamicValue
  | .Null => { null := some (), json_value := .Null }
  | .Bool b =>
    { bool_value := some b
      string_value := some (dynamic_string std (toString b))
      json_value := .Bool b }
  | .Number n =>
    { float_value := some (n.as_f64 std)
      int_value := int_of std n
      string_value := some (dynamic_string std (std.f64_to_string (n.as_f64 std)))
      json_value := .Number n }
  | .String s =>
    { string_value := some (dynamic_string std s)
      timestamp_value := try_parse_timestamp std s
      int_value := std.parse_i64 s
      float_value := std.parse_f64 s
      json_value := .String s }
  | .Array items =>
    { array_value := some (from_items items)
      string_value := some (dynamic_string std (std.json_to_string (.Array items)))
      json_value := .Array items }
  | .Object entries =>
    { object_value := some (from_entries entries), json_value := .Object entries }

def from_items : List JsonValue → List DynamicValue
  | [] => []
  | item :: items => from_json item :: from_items items

def from_entries : List (String × JsonValue) → List (String × DynamicValue)
  | [] => []
  | (key, value) :: entries => (key, from_json value) :: from_entries entries

end

def from_string (value : String) : DynamicValue := from_json std (.String value)

def from_bool (value : Bool) : DynamicValue := from_json std (.Bool value)

def from_i64 (value : Int64) : DynamicValue := from_json std (.Number (.from_i64 value))

/-- A double that JSON has no number for becomes an integer. -/
def from_f64 (value : F64) : DynamicValue :=
  match Number.from_f64 value with
  | some num => from_json std (.Number num)
  | none => from_i64 std value.as_i64

@[simp] theorem from_json_json_value (value : JsonValue) :
    (from_json std value).json_value = value := by
  cases value <;> simp [from_json]

@[simp] theorem from_string_value (value : String) :
    (from_string std value).string_value = some (dynamic_string std value) := by
  simp [from_string, from_json]

@[simp] theorem from_bool_value (value : Bool) :
    (from_bool std value).bool_value = some value := by
  simp [from_bool, from_json]

@[simp] theorem from_i64_value (value : Int64) :
    (from_i64 std value).int_value = some value := by
  simp [from_i64, from_json, int_of, Number.as_i64_from_i64]

theorem from_f64_finite {value : F64} (h : value.is_finite) :
    (from_f64 std value).float_value = some value := by
  simp [from_f64, Number.from_f64, h, from_json, Number.as_f64]

theorem from_f64_other {value : F64} (h : ¬ value.is_finite) :
    from_f64 std value = from_i64 std value.as_i64 := by
  simp [from_f64, Number.from_f64, h]

end DynamicValue

end From

/-! ## Users -/

/-- `user/unit_id.rs`. -/
inductive UnitID where
  | String (s : String)
  | Float (f : F64)
  | Int (i : Int64)

def UnitID.into (std : Std) : UnitID → DynamicValue
  | String s => .from_string std s
  | Float f => .from_f64 std f
  | Int i => .from_i64 std i

abbrev UserDataMap := HashMap String DynamicValue

structure UserData where
  user_id : Option DynamicValue := none
  custom_ids : Option UserDataMap := none
  email : Option DynamicValue := none
  ip : Option DynamicValue := none
  user_agent : Option DynamicValue := none
  country : Option DynamicValue := none
  locale : Option DynamicValue := none
  app_version : Option DynamicValue := none
  statsig_environment : Option UserDataMap := none
  private_attributes : Option UserDataMap := none
  custom : Option UserDataMap := none

/-- `user/statsig_user_builder.rs`. -/
structure StatsigUserBuilder where
  user_id : Option UnitID := none
  custom_ids : Option (HashMap String UnitID) := none
  email : Option DynamicValue := none
  ip : Option DynamicValue := none
  user_agent : Option DynamicValue := none
  country : Option DynamicValue := none
  locale : Option DynamicValue := none
  app_version : Option DynamicValue := none
  custom : Option UserDataMap := none
  private_attributes : Option UserDataMap := none
  statsig_environment : Option UserDataMap := none

/-- The same keys, with other values. -/
def map_values {κ υ ω : Type} (f : υ → ω) (m : HashMap κ υ) : HashMap κ ω :=
  m.map fun entry => (entry.1, f entry.2)

@[simp] theorem get_map_values {κ υ ω : Type} [DecidableEq κ] (f : υ → ω) (m : HashMap κ υ)
    (key : κ) : (map_values f m).get key = (m.get key).map f :=
  HashMap.get_map f m key

namespace StatsigUserBuilder

variable (std : Std) (self : StatsigUserBuilder)

def new_with_user_id (user_id : UnitID) : StatsigUserBuilder := { user_id := some user_id }

def new_with_custom_ids (custom_ids : HashMap String String) : StatsigUserBuilder :=
  { custom_ids := some (map_values UnitID.String custom_ids) }

/-- A setter keeps the field where there is no value. -/
def set {α : Type} (field value : Option α) : Option α := value.or field

@[simp] theorem set_none {α : Type} (value : Option α) : set none value = value :=
  Option.or_none

def with_user_id (user_id : Option String) : StatsigUserBuilder :=
  { self with user_id := set self.user_id (user_id.map .String) }

def with_email (email : Option String) : StatsigUserBuilder :=
  { self with email := set self.email (email.map (.from_string std)) }

def with_ip (ip : Option String) : StatsigUserBuilder :=
  { self with ip := set self.ip (ip.map (.from_string std)) }

def with_user_agent (user_agent : Option String) : StatsigUserBuilder :=
  { self with user_agent := set self.user_agent (user_agent.map (.from_string std)) }

def with_country (country : Option String) : StatsigUserBuilder :=
  { self with country := set self.country (country.map (.from_string std)) }

def with_locale (locale : Option String) : StatsigUserBuilder :=
  { self with locale := set self.locale (locale.map (.from_string std)) }

def with_app_version (app_version : Option String) : StatsigUserBuilder :=
  { self with app_version := set self.app_version (app_version.map (.from_string std)) }

def with_custom (custom : Option UserDataMap) : StatsigUserBuilder :=
  { self with custom := set self.custom custom }

def with_private_attributes (private_attributes : Option UserDataMap) : StatsigUserBuilder :=
  { self with private_attributes := set self.private_attributes private_attributes }

def build : UserData where
  user_id := self.user_id.map (UnitID.into std)
  custom_ids := self.custom_ids.map (map_values (UnitID.into std))
  email := self.email
  ip := self.ip
  user_agent := self.user_agent
  country := self.country
  locale := self.locale
  app_version := self.app_version
  statsig_environment := self.statsig_environment
  private_attributes := self.private_attributes
  custom := self.custom

attribute [simp] new_with_user_id new_with_custom_ids with_user_id with_email with_ip
  with_user_agent with_country with_locale with_app_version with_custom with_private_attributes

end StatsigUserBuilder

end statsig_ffi
