-- Interned strings (`interned_string.rs`), with the hash that each of them carries, and the store
-- that they come from (`interned_values/interned_store.rs`). Each step is a whole call.
import StatsigCore.InternedValues.InternedStore
import StatsigCore.UserPayload.Format

open statsig_ffi.format (utf8)
open statsig_rust (HashMap)
open statsig_rust.interned_values (Arc LocalStore SharedStore)

namespace interned_values

inductive InternedStringValue where
  | Pointer (arc : Arc String)
  | Static (text : String)

structure InternedString where
  hash : UInt64
  value : InternedStringValue

namespace InternedString

/-- The text is all that `PartialEq` compares, and the `hash` is all that `Hash` writes. -/
def as_str (self : InternedString) : String :=
  match self.value with
  | .Pointer arc => arc.value
  | .Static text => text

/-- What `empty`, `empty_ref` and `default` give. -/
def EMPTY : InternedString := ⟨0, .Static ""⟩

end InternedString

/-- A call that gives an interned string. -/
inductive Constructor where
  | from_str_ref (value : String)
  | from_string (value : String)
  | from_bool (value : Bool)
  | from_str_parts (parts : List String)
  /-- With the text of the dynamic string's value. -/
  | from_dynamic_string (value : String)
  | deserialize (raw : String)
  | default_rule_id
  | empty
  | default

/-- The strings of a file that `write_mmap_data` wrote: each stands under its hash. -/
structure MmapData (hash_one : List UInt8 → UInt64) where
  strings : HashMap UInt64 String
  keyed : ∀ entry ∈ strings, entry.1 = hash_one (utf8 entry.2)

/-- The strings of the store, and those that are held, with the calls that they came from. The
last field is no part of the program: it is all that was ever given out. -/
structure StringStore where
  MMAP_DATA : Option (HashMap UInt64 String) := none
  IMMORTAL_DATA : Option (HashMap UInt64 String) := none
  MUTABLE_DATA : LocalStore String := {}
  TRUE_STRING : Option InternedString := none
  FALSE_STRING : Option InternedString := none
  DEFAULT_RULE_ID : Option InternedString := none
  held : List (Constructor × InternedString) := []
  allocated : Nat := 0
  obtained : List (Constructor × InternedString) := []

inductive StringStep (hash_one : List UInt8 → UInt64) where
  | construct (constructor : Constructor)
  | clone (k : Nat)
  | drop (k : Nat)
  | try_sweep
  /-- The end of `preload_multi`, once its specs are parsed. -/
  | mutable_to_immortal
  /-- The end of `write_mmap_data`, once its specs are parsed. -/
  | write_mmap_data
  | preload_mmap (data : MmapData hash_one)

namespace StringStore

/-! ## The constructors -/

section Constructors

variable (hash_one : List UInt8 → UInt64)

def get_string_from_mmap (s : StringStore) (hash : UInt64) : Option String :=
  s.MMAP_DATA.bind fun data => HashMap.get data hash

def get_string_from_shared (s : StringStore) (hash : UInt64) : Option String :=
  s.IMMORTAL_DATA.bind fun shared => HashMap.get shared hash

def get_string_from_local (s : StringStore) (hash : UInt64) (value : String) :
    Arc String × StringStore :=
  match s.MUTABLE_DATA.get hash with
  | some arc => (arc, s)
  | none =>
    let arc : Arc String := ⟨s.allocated, value⟩
    (arc, { s with
      MUTABLE_DATA := s.MUTABLE_DATA.insert hash arc
      allocated := s.allocated + 1 })

/-- The text is the one that the store has for the hash. -/
def get_or_intern_string (s : StringStore) (value : String) : InternedString × StringStore :=
  let hash := hash_one (utf8 value)
  match s.get_string_from_mmap hash with
  | some text => (⟨hash, .Static text⟩, s)
  | none =>
    match s.get_string_from_shared hash with
    | some text => (⟨hash, .Static text⟩, s)
    | none =>
      let (arc, s) := s.get_string_from_local hash value
      (⟨hash, .Pointer arc⟩, s)

/-- `from_bool` clones one of two strings, each of which is made when it is first asked for. -/
def from_bool (s : StringStore) : Bool → InternedString × StringStore
  | true =>
    match s.TRUE_STRING with
    | some value => (value, s)
    | none =>
      let (value, s) := s.get_or_intern_string hash_one "true"
      (value, { s with TRUE_STRING := some value })
  | false =>
    match s.FALSE_STRING with
    | some value => (value, s)
    | none =>
      let (value, s) := s.get_or_intern_string hash_one "false"
      (value, { s with FALSE_STRING := some value })

def default_rule_id (s : StringStore) : InternedString × StringStore :=
  match s.DEFAULT_RULE_ID with
  | some value => (value, s)
  | none =>
    let (value, s) := s.get_or_intern_string hash_one "default"
    (value, { s with DEFAULT_RULE_ID := some value })

def construct (s : StringStore) : Constructor → InternedString × StringStore
  | .from_str_ref value => s.get_or_intern_string hash_one value
  | .from_string value => s.get_or_intern_string hash_one value
  | .from_bool value => s.from_bool hash_one value
  | .from_str_parts parts => s.get_or_intern_string hash_one (parts.foldl (· ++ ·) "")
  | .from_dynamic_string value => s.get_or_intern_string hash_one value
  | .deserialize raw => s.get_or_intern_string hash_one raw
  | .default_rule_id => s.default_rule_id hash_one
  | .empty => (.EMPTY, s)
  | .default => (.EMPTY, s)

end Constructors

/-! ## Steps -/

/-- The `Arc`s of the strings that are held, and of those that are made once. -/
def holders (s : StringStore) : List (UInt64 × Arc String) :=
  (s.TRUE_STRING.toList ++ s.FALSE_STRING.toList ++ s.DEFAULT_RULE_ID.toList ++
      s.held.map Prod.snd).filterMap fun string =>
    match string.value with
    | .Pointer arc => some (string.hash, arc)
    | .Static _ => none

def strong_count (s : StringStore) (arc : Arc String) : Nat :=
  (SharedStore.addresses s.MUTABLE_DATA.map).count arc.address +
    (SharedStore.addresses s.holders).count arc.address

def try_sweep (s : StringStore) : StringStore :=
  { s with
    MUTABLE_DATA.map := s.MUTABLE_DATA.map.filter fun entry => s.strong_count entry.2 ≠ 1 }

/-- What `drain` takes out of the map. -/
def drained (s : StringStore) : HashMap UInt64 String :=
  s.MUTABLE_DATA.map.map fun entry => (entry.1, entry.2.value)

def give (s : StringStore) (constructor : Constructor) (string : InternedString) : StringStore :=
  { s with
    held := (constructor, string) :: s.held
    obtained := (constructor, string) :: s.obtained }

def step {hash_one : List UInt8 → UInt64} (s : StringStore) :
    StringStep hash_one → Option StringStore
  | .construct constructor =>
    let (string, s) := s.construct hash_one constructor
    some (s.give constructor string)
  | .clone k => s.held[k]?.map fun (constructor, string) => s.give constructor string
  | .drop k => s.held[k]?.map fun _ => { s with held := s.held.eraseIdx k }
  | .try_sweep => some s.try_sweep
  | .mutable_to_immortal =>
    if s.IMMORTAL_DATA.isSome then none
    else some { s with IMMORTAL_DATA := some s.drained, MUTABLE_DATA.map := [] }
  | .write_mmap_data => some { s with MUTABLE_DATA.map := [] }
  | .preload_mmap data =>
    if s.MMAP_DATA.isSome then none else some { s with MMAP_DATA := some data.strings }

end StringStore

end interned_values
