-- The format of a payload, as `user_payload.rs` and `StatsigUserPayload.java` both describe
-- it: which bytes stand for a user, apart from how either side makes or reads them.
import StatsigCore.Library.BigEndian
import StatsigCore.UserPayload.DynamicValues

namespace statsig_ffi.format

def int_block (n : Int32) : List UInt8 := big_endian.encode 4 n.toUInt32.toNat

def long_block (n : UInt64) : List UInt8 := big_endian.encode 8 n.toNat

def utf8 (s : String) : List UInt8 := s.toByteArray.data.toList

/-- A length and then the text, or -1 for no text. -/
def string_block : Option String → List UInt8
  | none => int_block (-1)
  | some s => int_block (Int32.ofNat (utf8 s).length) ++ utf8 s

/-- A count and then the entries, or -1 for no map. -/
def map_block {ε : Type} (entry_block : ε → List UInt8) : Option (List ε) → List UInt8
  | none => int_block (-1)
  | some entries => int_block (Int32.ofNat entries.length) ++ entries.flatMap entry_block

/-- A value with its tag. -/
inductive Tagged where
  | String (s : String)
  | Bool (b : Bool)
  | I64 (n : Int64)
  | F64 (f : F64)
  | Json (text : String)

def Tagged.block : Tagged → List UInt8
  | String s => [1] ++ string_block (some s)
  | Bool b => [if b then 2 else 3]
  | I64 n => [4] ++ long_block n.toUInt64
  | F64 f => [5] ++ long_block f
  | Json text => [6] ++ string_block (some text)

def string_entry_block (entry : String × String) : List UInt8 :=
  string_block (some entry.1) ++ string_block (some entry.2)

def tagged_entry_block (entry : String × Tagged) : List UInt8 :=
  string_block (some entry.1) ++ entry.2.block

/-- What a payload says about a user. -/
structure Content where
  user_id : Option String
  email : Option String
  ip : Option String
  user_agent : Option String
  country : Option String
  locale : Option String
  app_version : Option String
  custom_ids : Option (List (String × String))
  custom : Option (List (String × Tagged))
  private_attributes : Option (List (String × Tagged))

/-- The version, the seven strings and the three maps. -/
def Content.block (content : Content) : List UInt8 :=
  [1] ++ (string_block content.user_id ++ (string_block content.email ++
    (string_block content.ip ++ (string_block content.user_agent ++
    (string_block content.country ++ (string_block content.locale ++
    (string_block content.app_version ++ (map_block string_entry_block content.custom_ids ++
    (map_block tagged_entry_block content.custom ++
      map_block tagged_entry_block content.private_attributes)))))))))

@[simp] theorem int_block_length (n : Int32) : (int_block n).length = 4 :=
  big_endian.encode_length _ _

@[simp] theorem long_block_length (n : UInt64) : (long_block n).length = 8 :=
  big_endian.encode_length _ _

end statsig_ffi.format
