-- The encoder of a user, `StatsigUserPayload.java`: one pass over the user that writes into a
-- growing buffer, with the count of each map filled in once the map is written. The texts of
-- `fastjson2` and the decimals of `Float` are parameters.
import StatsigCore.UserPayload.Format

namespace statsig_java

open statsig_ffi (F64)
open statsig_rust (HashMap)
open statsig_ffi.format

/-! ## What Java hands over -/

/-- A value of a map, by its class. `Nested` is every other class. -/
inductive Object (Nested : Type) where
  | String (s : String)
  | Boolean (b : Bool)
  | Integer (n : Int32)
  | Long (n : Int64)
  | Short (n : Int16)
  | Byte (n : Int8)
  | Double (f : F64)
  | Float (f : UInt32)
  | Other (value : Nested)

/-- A `java.util.Map`: a key has one entry. Keys and values may be null. -/
structure JavaMap (V : Type) where
  entrySet : List (Option String × Option V)
  distinct : (entrySet.map Prod.fst).Nodup

/-- `map.get(key)`. -/
def JavaMap.get {V : Type} (map : JavaMap V) (key : String) : Option V :=
  (HashMap.get map.entrySet (some key)).join

/-- The arguments of `encode`. -/
structure JavaUser (Nested : Type) where
  userID : Option String := none
  customIDs : Option (JavaMap (Object Nested)) := none
  email : Option String := none
  ip : Option String := none
  userAgent : Option String := none
  country : Option String := none
  locale : Option String := none
  appVersion : Option String := none
  custom : Option (JavaMap (Object Nested)) := none
  privateAttributes : Option (JavaMap (Object Nested)) := none

/-- `JSON.toJSONString`, and `Double.parseDouble(Float.toString(f))`. -/
structure Java (Nested : Type) where
  toJSONString : Nested → String
  float_to_double : UInt32 → F64

/-! ## The buffer -/

inductive JavaException where
  | IllegalStateException (needed : Nat)
  | ArrayIndexOutOfBoundsException
deriving DecidableEq

/-- `buf.length`, and the bytes of `buf` before `pos`. The bytes behind are never read. -/
structure Writer where
  length : Nat := 256
  written : List UInt8 := []
deriving DecidableEq

def MAX_CAPACITY : Nat := 2 ^ 31 - 1 - 8

abbrev Write := Writer → Except JavaException Writer

namespace Writer

def ensure (extra : Nat) : Write := fun w =>
  let needed := w.written.length + extra
  if needed ≤ w.length then .ok w
  else if needed > MAX_CAPACITY then .error (.IllegalStateException needed)
  else .ok { w with length := min (max (w.length * 2) needed) MAX_CAPACITY }

/-- `buf[pos++] = value`, for one byte after the other. -/
def put (bytes : List UInt8) : Write := fun w =>
  if w.written.length + bytes.length ≤ w.length then
    .ok { w with written := w.written ++ bytes }
  else .error .ArrayIndexOutOfBoundsException

def writeByte (value : UInt8) : Write := fun w => do
  let w ← ensure 1 w
  put [value] w

/-- The bytes of an `int`, by unsigned shifts. -/
def int_bytes (value : Int32) : List UInt8 :=
  let value := value.toUInt32
  [(value >>> 24).toUInt8, (value >>> 16).toUInt8, (value >>> 8).toUInt8, value.toUInt8]

def writeInt (value : Int32) : Write := fun w => do
  let w ← ensure 4 w
  put (int_bytes value) w

/-- `patchInt`: four bytes that were reserved at `pos`. -/
def patchInt (pos : Nat) (value : Int32) : Write := fun w =>
  if pos + 4 ≤ w.length then
    .ok { w with written := w.written.take pos ++ int_bytes value ++ w.written.drop (pos + 4) }
  else .error .ArrayIndexOutOfBoundsException

def long_shifts : List UInt64 := [56, 48, 40, 32, 24, 16, 8, 0]

def long_bytes (value : Int64) : List UInt8 :=
  long_shifts.map fun shift => (value.toUInt64 >>> shift).toUInt8

def writeLong (value : Int64) : Write := fun w => do
  let w ← ensure 8 w
  put (long_bytes value) w

end Writer

/-- `Double.doubleToLongBits`: every NaN is the one NaN. -/
def doubleToLongBits (f : F64) : F64 := if f.is_nan then 0x7ff8000000000000 else f

namespace Writer

def writeDouble (value : F64) : Write := writeLong (doubleToLongBits value).toInt64

def writeString (value : Option String) : Write := fun w =>
  match value with
  | none => writeInt (-1) w
  | some value => do
    let w ← writeInt (Int32.ofNat (utf8 value).length) w
    let w ← ensure (utf8 value).length w
    put (utf8 value) w

def toByteArray (w : Writer) : List UInt8 := w.written

end Writer

/-! ## Encoding -/

def VERSION : UInt8 := 1

def TAG_STRING : UInt8 := 1
def TAG_BOOL_TRUE : UInt8 := 2
def TAG_BOOL_FALSE : UInt8 := 3
def TAG_I64 : UInt8 := 4
def TAG_F64 : UInt8 := 5
def TAG_JSON : UInt8 := 6

section Encode

variable {Nested : Type} (java : Java Nested)

open Writer

/-- A tag and then the value behind it. -/
def write_tagged (tag : UInt8) (write : Write) : Write := fun w => do
  let w ← writeByte tag w
  write w

def writeTaggedValue : Object Nested → Write
  | .String s => write_tagged TAG_STRING (writeString (some s))
  | .Boolean b => writeByte (if b then TAG_BOOL_TRUE else TAG_BOOL_FALSE)
  | .Integer n => write_tagged TAG_I64 (writeLong n.toInt64)
  | .Long n => write_tagged TAG_I64 (writeLong n)
  | .Short n => write_tagged TAG_I64 (writeLong n.toInt64)
  | .Byte n => write_tagged TAG_I64 (writeLong n.toInt64)
  | .Double f => write_tagged TAG_F64 (writeDouble f)
  | .Float f => write_tagged TAG_F64 (writeDouble (java.float_to_double f))
  | .Other value => write_tagged TAG_JSON (writeString (some (java.toJSONString value)))

/-- The loop over the entries, with the count so far. An entry that gives nothing to write
is skipped. -/
def write_entries {V : Type} (entry : Option String → Option V → Option Write) :
    List (Option String × Option V) → Nat → Writer → Except JavaException (Nat × Writer)
  | [], count, w => .ok (count, w)
  | (key, value) :: rest, count, w =>
    match entry key value with
    | none => write_entries entry rest count w
    | some write => do
      let w ← write w
      write_entries entry rest (count + 1) w

/-- What the two map writers share. -/
def write_map {V : Type} (entry : Option String → Option V → Option Write) :
    Option (JavaMap V) → Write
  | none => writeInt (-1)
  | some map => fun w => do
    let countPos := w.written.length
    let w ← writeInt 0 w
    let (count, w) ← write_entries entry map.entrySet 0 w
    patchInt countPos (Int32.ofNat count) w

/-- A key and then its value. -/
def write_pair (key : String) (value : Write) : Write := fun w => do
  let w ← writeString (some key) w
  value w

def write_string_entry : Option String → Option (Object Nested) → Option Write
  | some key, some (.String s) => some (write_pair key (writeString (some s)))
  | _, _ => none

def writeStringMap : Option (JavaMap (Object Nested)) → Write := write_map write_string_entry

def write_typed_entry : Option String → Option (Object Nested) → Option Write
  | some key, some value => some (write_pair key (writeTaggedValue java value))
  | _, _ => none

def writeTypedMap : Option (JavaMap (Object Nested)) → Write :=
  write_map (write_typed_entry java)

def encode (user : JavaUser Nested) : Except JavaException (List UInt8) := do
  let w ← writeByte VERSION {}
  let w ← writeString user.userID w
  let w ← writeString user.email w
  let w ← writeString user.ip w
  let w ← writeString user.userAgent w
  let w ← writeString user.country w
  let w ← writeString user.locale w
  let w ← writeString user.appVersion w
  let w ← writeStringMap user.customIDs w
  let w ← writeTypedMap java user.custom w
  let w ← writeTypedMap java user.privateAttributes w
  pure w.toByteArray

end Encode

/-! ## The format of what is written -/

section Writes

open Writer

/-- The buffer holds what was written, and is no larger than it may get. -/
structure Writer.Fits (w : Writer) : Prop where
  written_le : w.written.length ≤ w.length
  length_le : w.length ≤ MAX_CAPACITY

/-- While there is room, the write adds the block. -/
def Writes (write : Write) (block : List UInt8) : Prop :=
  ∀ w : Writer, w.Fits → w.written.length + block.length ≤ MAX_CAPACITY →
    ∃ w' : Writer, write w = .ok w' ∧ w'.written = w.written ++ block ∧ w'.Fits

theorem Writes.bind {write write' : Write} {block block' : List UInt8} (h : Writes write block)
    (h' : Writes write' block') : Writes (fun w => write w >>= write') (block ++ block') := by
  intro w hfits hroom
  rw [List.length_append] at hroom
  obtain ⟨w₁, hok₁, hwritten₁, hfits₁⟩ := h w hfits (by omega)
  have hroom₁ : w₁.written.length + block'.length ≤ MAX_CAPACITY := by
    rw [hwritten₁, List.length_append]
    omega
  obtain ⟨w₂, hok₂, hwritten₂, hfits₂⟩ := h' w₁ hfits₁ hroom₁
  refine ⟨w₂, ?_, ?_, hfits₂⟩
  · change write w >>= write' = .ok w₂
    rw [hok₁]
    exact hok₂
  · rw [hwritten₂, hwritten₁, List.append_assoc]

/-- Every write of bytes makes room for them first. -/
theorem ensure_put_writes (bytes : List UInt8) :
    Writes (fun w => ensure bytes.length w >>= put bytes) bytes := by
  intro w hfits hroom
  obtain ⟨hwritten, hlength⟩ := hfits
  by_cases hfree : w.written.length + bytes.length ≤ w.length
  · refine ⟨{ w with written := w.written ++ bytes }, ?_, rfl, ?_, hlength⟩
    · simp [ensure, put, hfree, Except.bind, bind]
    · simpa using hfree
  · have hnot : ¬ MAX_CAPACITY < w.written.length + bytes.length := by omega
    let grown := min (max (w.length * 2) (w.written.length + bytes.length)) MAX_CAPACITY
    have hgrown : w.written.length + bytes.length ≤ grown := by omega
    refine ⟨⟨grown, w.written ++ bytes⟩, ?_, rfl, ?_, ?_⟩
    · simp only [ensure, hfree, hnot, if_false, bind, Except.bind]
      exact if_pos hgrown
    · rw [List.length_append]
      exact hgrown
    · exact Nat.min_le_right _ _

theorem int_byte_eq (value shift : UInt32) (d : Nat) (h : 2 ^ (shift.toNat % 32) = d) :
    (value >>> shift).toUInt8 = UInt8.ofNat (value.toNat / d) := by
  apply UInt8.toNat_inj.mp
  simp only [UInt32.toNat_toUInt8, UInt32.toNat_shiftRight, UInt8.toNat_ofNat',
    Nat.shiftRight_eq_div_pow, h]

theorem int_bytes_eq (value : Int32) : int_bytes value = int_block value := by
  unfold int_bytes int_block
  simp only [big_endian.encode, Nat.div_div_eq_div_mul, List.nil_append, List.cons_append]
  rw [int_byte_eq _ 24 _ rfl, int_byte_eq _ 16 _ rfl, int_byte_eq _ 8 _ rfl]
  rfl

theorem long_byte_eq (value shift : UInt64) (d : Nat) (h : 2 ^ (shift.toNat % 64) = d) :
    (value >>> shift).toUInt8 = UInt8.ofNat (value.toNat / d) := by
  apply UInt8.toNat_inj.mp
  simp only [UInt64.toNat_toUInt8, UInt64.toNat_shiftRight, UInt8.toNat_ofNat',
    Nat.shiftRight_eq_div_pow, h]

theorem long_bytes_eq (value : Int64) : long_bytes value = long_block value.toUInt64 := by
  unfold long_bytes long_shifts long_block
  simp only [big_endian.encode, Nat.div_div_eq_div_mul, List.nil_append, List.cons_append,
    List.map_cons, List.map_nil]
  rw [long_byte_eq _ 56 _ rfl, long_byte_eq _ 48 _ rfl, long_byte_eq _ 40 _ rfl,
    long_byte_eq _ 32 _ rfl, long_byte_eq _ 24 _ rfl, long_byte_eq _ 16 _ rfl,
    long_byte_eq _ 8 _ rfl, long_byte_eq _ 0 1 rfl, Nat.div_one]
  rfl

theorem writeByte_writes (value : UInt8) : Writes (writeByte value) [value] :=
  ensure_put_writes [value]

theorem writeInt_writes (value : Int32) : Writes (writeInt value) (int_block value) := by
  rw [← int_bytes_eq]
  exact ensure_put_writes (int_bytes value)

theorem writeLong_writes (value : Int64) :
    Writes (writeLong value) (long_block value.toUInt64) := by
  rw [← long_bytes_eq]
  exact ensure_put_writes (long_bytes value)

theorem writeDouble_writes (value : F64) :
    Writes (writeDouble value) (long_block (doubleToLongBits value)) :=
  writeLong_writes (doubleToLongBits value).toInt64

theorem writeString_writes (value : Option String) :
    Writes (writeString value) (string_block value) := by
  cases value with
  | none => exact writeInt_writes (-1)
  | some s =>
    exact (writeInt_writes (Int32.ofNat (utf8 s).length)).bind (ensure_put_writes (utf8 s))

/-! ### Maps -/

section Maps

variable {V ε : Type}

/-- The entries that are kept are written as their blocks, and the others are skipped. -/
def Renders (entry : Option String → Option V → Option Write)
    (kept : Option String × Option V → Option ε) (block : ε → List UInt8) : Prop :=
  ∀ key value, match kept (key, value) with
    | none => entry key value = none
    | some e => ∃ write, entry key value = some write ∧ Writes write (block e)

variable {entry : Option String → Option V → Option Write}
  {kept : Option String × Option V → Option ε} {block : ε → List UInt8}

theorem write_entries_writes (h : Renders entry kept block)
    (entries : List (Option String × Option V)) (count : Nat) (w : Writer) (hfits : w.Fits)
    (hroom : w.written.length + ((entries.filterMap kept).flatMap block).length ≤ MAX_CAPACITY) :
    ∃ w' : Writer,
      write_entries entry entries count w =
        .ok (count + (entries.filterMap kept).length, w') ∧
      w'.written = w.written ++ (entries.filterMap kept).flatMap block ∧ w'.Fits := by
  induction entries generalizing count w with
  | nil => exact ⟨w, rfl, by simp, hfits⟩
  | cons e entries ih =>
    obtain ⟨key, value⟩ := e
    have hentry := h key value
    cases hkept : kept (key, value) with
    | none =>
      rw [hkept] at hentry
      simp only [List.filterMap_cons, hkept] at hroom ⊢
      unfold write_entries
      rw [hentry]
      exact ih count w hfits hroom
    | some e =>
      rw [hkept] at hentry
      obtain ⟨write, hwrite, hwrites⟩ := hentry
      simp only [List.filterMap_cons, hkept, List.flatMap_cons, List.length_append,
        List.length_cons] at hroom ⊢
      obtain ⟨w₁, hok₁, hwritten₁, hfits₁⟩ := hwrites w hfits (by omega)
      have hroom₁ : w₁.written.length + ((entries.filterMap kept).flatMap block).length ≤
          MAX_CAPACITY := by
        rw [hwritten₁, List.length_append]
        omega
      obtain ⟨w₂, hok₂, hwritten₂, hfits₂⟩ := ih (count + 1) w₁ hfits₁ hroom₁
      refine ⟨w₂, ?_, ?_, hfits₂⟩
      · unfold write_entries
        rw [hwrite]
        simp only [bind, Except.bind, hok₁, hok₂, Except.ok.injEq, Prod.mk.injEq, and_true]
        omega
      · rw [hwritten₂, hwritten₁, List.append_assoc]

/-- A count that was reserved in front of a block is filled in. -/
theorem patchInt_reserved (front rest : List UInt8) (value : Int32) (length : Nat)
    (hfits : Writer.Fits ⟨length, front ++ int_block 0 ++ rest⟩) :
    patchInt front.length value ⟨length, front ++ int_block 0 ++ rest⟩ =
      .ok ⟨length, front ++ int_block value ++ rest⟩ := by
  have hle := hfits.written_le
  simp only [List.length_append, int_block_length] at hle
  have hroom : front.length + 4 ≤ length := by omega
  have hdrop : (front ++ (int_block 0 ++ rest)).drop (front.length + 4) = rest := by
    rw [← List.append_assoc]
    apply List.drop_left'
    simp
  unfold patchInt
  rw [if_pos hroom, int_bytes_eq, List.append_assoc, List.take_left, hdrop]

theorem write_map_writes (h : Renders entry kept block) (map : Option (JavaMap V)) :
    Writes (write_map entry map)
      (map_block block (map.map fun map => map.entrySet.filterMap kept)) := by
  cases map with
  | none => exact writeInt_writes (-1)
  | some map =>
    intro w hfits hroom
    simp only [Option.map_some, map_block, List.length_append, int_block_length] at hroom ⊢
    obtain ⟨w₁, hok₁, hwritten₁, hfits₁⟩ := writeInt_writes 0 w hfits (by
      rw [int_block_length]
      omega)
    have hroom₁ : w₁.written.length +
        ((map.entrySet.filterMap kept).flatMap block).length ≤ MAX_CAPACITY := by
      rw [hwritten₁, List.length_append, int_block_length]
      omega
    obtain ⟨w₂, hok₂, hwritten₂, hfits₂⟩ :=
      write_entries_writes h map.entrySet 0 w₁ hfits₁ hroom₁
    obtain ⟨length, written⟩ := w₂
    simp only at hwritten₂
    rw [hwritten₁] at hwritten₂
    subst hwritten₂
    refine ⟨⟨length, w.written ++ int_block _ ++ (map.entrySet.filterMap kept).flatMap block⟩,
      ?_, List.append_assoc _ _ _, ?_, hfits₂.length_le⟩
    · unfold write_map
      simp only [bind, Except.bind, hok₁, hok₂, Nat.zero_add]
      exact patchInt_reserved _ _ _ _ hfits₂
    · have hle := hfits₂.written_le
      simp only [List.length_append, int_block_length] at hle ⊢
      exact hle

end Maps

/-! ### Users -/

section Users

variable {Nested : Type} (java : Java Nested)

def Object.tagged : Object Nested → Tagged
  | .String s => .String s
  | .Boolean b => .Bool b
  | .Integer n => .I64 n.toInt64
  | .Long n => .I64 n
  | .Short n => .I64 n.toInt64
  | .Byte n => .I64 n.toInt64
  | .Double f => .F64 (doubleToLongBits f)
  | .Float f => .F64 (doubleToLongBits (java.float_to_double f))
  | .Other value => .Json (java.toJSONString value)

def text_of : Object Nested → Option String
  | .String s => some s
  | _ => none

/-- An entry of a map, if it is written: it has a key and a value that is picked. -/
def kept {V ε : Type} (pick : V → Option ε) : Option String × Option V → Option (String × ε)
  | (some key, some value) => (pick value).map (key, ·)
  | _ => none

/-- The entries of the custom ids that are written. -/
def kept_strings (map : JavaMap (Object Nested)) : List (String × String) :=
  map.entrySet.filterMap (kept text_of)

/-- The entries of another map that are written. -/
def kept_tagged (map : JavaMap (Object Nested)) : List (String × Tagged) :=
  map.entrySet.filterMap (kept fun value => some (value.tagged java))

/-- What a payload of the user says. -/
def JavaUser.content (user : JavaUser Nested) : Content where
  user_id := user.userID
  email := user.email
  ip := user.ip
  user_agent := user.userAgent
  country := user.country
  locale := user.locale
  app_version := user.appVersion
  custom_ids := user.customIDs.map kept_strings
  custom := user.custom.map (kept_tagged java)
  private_attributes := user.privateAttributes.map (kept_tagged java)

theorem write_tagged_writes {tag : UInt8} {write : Write} {block : List UInt8}
    (h : Writes write block) : Writes (write_tagged tag write) ([tag] ++ block) :=
  (writeByte_writes tag).bind h

theorem writeTaggedValue_writes (value : Object Nested) :
    Writes (writeTaggedValue java value) (value.tagged java).block := by
  cases value with
  | String s => exact write_tagged_writes (writeString_writes _)
  | Boolean b =>
    cases b with
    | false => exact writeByte_writes TAG_BOOL_FALSE
    | true => exact writeByte_writes TAG_BOOL_TRUE
  | Integer n | Long n | Short n | Byte n => exact write_tagged_writes (writeLong_writes _)
  | Double f | Float f => exact write_tagged_writes (writeDouble_writes _)
  | Other value => exact write_tagged_writes (writeString_writes _)

theorem write_pair_writes (key : String) {write : Write} {block : List UInt8}
    (h : Writes write block) : Writes (write_pair key write) (string_block (some key) ++ block) :=
  (writeString_writes (some key)).bind h

theorem writeStringMap_writes (map : Option (JavaMap (Object Nested))) :
    Writes (writeStringMap map) (map_block string_entry_block (map.map kept_strings)) := by
  have hrenders : Renders (@write_string_entry Nested) (kept text_of)
      string_entry_block := by
    intro key value
    cases key with
    | none => rfl
    | some key =>
      cases value with
      | none => rfl
      | some value =>
        cases value with
        | String s => exact ⟨_, rfl, write_pair_writes key (writeString_writes (some s))⟩
        | _ => rfl
  exact write_map_writes hrenders map

theorem writeTypedMap_writes (map : Option (JavaMap (Object Nested))) :
    Writes (writeTypedMap java map)
      (map_block tagged_entry_block (map.map (kept_tagged java))) := by
  have hrenders : Renders (write_typed_entry java) (kept fun value => some (value.tagged java))
      tagged_entry_block := by
    intro key value
    cases key with
    | none => rfl
    | some key =>
      cases value with
      | none => rfl
      | some value =>
        exact ⟨_, rfl, write_pair_writes key (writeTaggedValue_writes java value)⟩
  exact write_map_writes hrenders map

/-- All the writes of `encode`, one after the other. -/
def write_user (user : JavaUser Nested) : Write := fun w =>
  writeByte VERSION w >>= fun w => writeString user.userID w >>= fun w =>
  writeString user.email w >>= fun w => writeString user.ip w >>= fun w =>
  writeString user.userAgent w >>= fun w => writeString user.country w >>= fun w =>
  writeString user.locale w >>= fun w => writeString user.appVersion w >>= fun w =>
  writeStringMap user.customIDs w >>= fun w => writeTypedMap java user.custom w >>=
  writeTypedMap java user.privateAttributes

theorem write_user_writes (user : JavaUser Nested) :
    Writes (write_user java user) (user.content java).block := by
  apply (writeByte_writes VERSION).bind
  apply (writeString_writes user.userID).bind
  apply (writeString_writes user.email).bind
  apply (writeString_writes user.ip).bind
  apply (writeString_writes user.userAgent).bind
  apply (writeString_writes user.country).bind
  apply (writeString_writes user.locale).bind
  apply (writeString_writes user.appVersion).bind
  apply (writeStringMap_writes user.customIDs).bind
  exact (writeTypedMap_writes java user.custom).bind
    (writeTypedMap_writes java user.privateAttributes)

/-- Below the limit of the writer, the payload of a user is the block of its content. -/
theorem encode_eq (user : JavaUser Nested)
    (hsize : (user.content java).block.length ≤ MAX_CAPACITY) :
    encode java user = .ok (user.content java).block := by
  have hfits : Writer.Fits {} := ⟨Nat.zero_le _, by decide⟩
  obtain ⟨w, hok, hwritten, -⟩ :=
    write_user_writes java user {} hfits (by simpa using hsize)
  have hencode : encode java user = write_user java user {} >>= fun w => pure w.toByteArray := by
    simp only [encode, write_user, bind_assoc]
  rw [hencode, hok]
  exact congrArg Except.ok hwritten

end Users

end Writes

end statsig_java
