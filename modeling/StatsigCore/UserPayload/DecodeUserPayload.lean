-- The decoder of a user, `user_payload.rs`: a reader over the bytes whose every read is
-- checked, and the builder that takes what was read.
import StatsigCore.Library.BigEndian
import StatsigCore.Library.Cursor
import StatsigCore.UserPayload.Format

namespace statsig_ffi

open cursor format
open statsig_rust (HashMap DynamicString)

def USER_PAYLOAD_VERSION : UInt8 := 1

def TAG_STRING : UInt8 := 1
def TAG_BOOL_TRUE : UInt8 := 2
def TAG_BOOL_FALSE : UInt8 := 3
def TAG_I64 : UInt8 := 4
def TAG_F64 : UInt8 := 5
def TAG_JSON : UInt8 := 6

abbrev Read (α : Type) := Reading UInt8 α

/-! ## The reader -/

def read_u8 : Read UInt8 := fun reader =>
  match reader.items[reader.pos]? with
  | some byte => some (byte, { reader with pos := reader.pos + 1 })
  | none => none

def i32_from_be_bytes (bytes : List UInt8) : Int32 :=
  (UInt32.ofNat (big_endian.decode bytes)).toInt32

def u64_from_be_bytes (bytes : List UInt8) : UInt64 := UInt64.ofNat (big_endian.decode bytes)

def read_i32 : Read Int32 := do
  let slice ← take 4
  pure (i32_from_be_bytes slice)

def read_i64 : Read Int64 := do
  let slice ← take 8
  pure (u64_from_be_bytes slice).toInt64

def read_f64 : Read F64 := do
  let slice ← take 8
  pure (u64_from_be_bytes slice)

/-- `std::str::from_utf8`. -/
def from_utf8 (bytes : List UInt8) : Option String := String.fromUTF8? ⟨bytes.toArray⟩

/-- A length of -1 is no string; no other length is negative. -/
def read_opt_string : Read (Option String) := do
  let len ← read_i32
  if len = -1 then pure none
  else if len < 0 then failure
  else do
    let slice ← take len.toNatClampNeg
    some <$> lift (from_utf8 slice)

def insert_some {V : Type} (map : HashMap String V) : Option (String × V) → HashMap String V
  | some (key, value) => map.insert key value
  | none => map

/-- What the two readers of a map share: a count of -1 is no map. -/
def read_map {V : Type} (read_entry : Read (Option (String × V))) :
    Read (Option (HashMap String V)) := do
  let count ← read_i32
  if count = -1 then pure none
  else if count < 0 then failure
  else some <$> fold (fun map => insert_some map <$> read_entry) count.toNatClampNeg []

/-- An entry without its key or its value is skipped. -/
def read_string_entry : Read (Option (String × String)) := do
  let key ← read_opt_string
  let value ← read_opt_string
  pure (key.bind fun key => value.map fun value => (key, value))

def read_string_map : Read (Option (HashMap String String)) := read_map read_string_entry

section

variable (std : Std)

def read_tagged (tag : UInt8) : Read DynamicValue :=
  if tag = TAG_STRING then .from_string std <$> required read_opt_string
  else if tag = TAG_BOOL_TRUE then pure (.from_bool std true)
  else if tag = TAG_BOOL_FALSE then pure (.from_bool std false)
  else if tag = TAG_I64 then .from_i64 std <$> read_i64
  else if tag = TAG_F64 then .from_f64 std <$> read_f64
  else if tag = TAG_JSON then do
    let json ← required read_opt_string
    .from_json std <$> lift (std.json_from_str json)
  else failure

def read_typed_entry : Read (Option (String × DynamicValue)) := do
  let key ← required read_opt_string
  let tag ← read_u8
  let value ← read_tagged std tag
  pure (some (key, value))

def read_typed_map : Read (Option UserDataMap) := read_map (read_typed_entry std)

/-! ## The payload -/

/-- What is read before the builder runs. -/
structure Payload where
  user_id : Option String
  email : Option String
  ip : Option String
  user_agent : Option String
  country : Option String
  locale : Option String
  app_version : Option String
  custom_ids : Option (HashMap String String)
  custom : Option UserDataMap
  private_attributes : Option UserDataMap

def read_version : Read Unit := do
  let version ← read_u8
  if version ≠ USER_PAYLOAD_VERSION then failure else pure ()

def read_payload : Read Payload := do
  read_version
  let user_id ← read_opt_string
  let email ← read_opt_string
  let ip ← read_opt_string
  let user_agent ← read_opt_string
  let country ← read_opt_string
  let locale ← read_opt_string
  let app_version ← read_opt_string
  let custom_ids ← read_string_map
  let custom ← read_typed_map std
  let private_attributes ← read_typed_map std
  pure
    { user_id, email, ip, user_agent, country, locale, app_version, custom_ids, custom
      private_attributes }

/-- The custom ids choose how the builder starts. -/
def Payload.build (payload : Payload) : UserData :=
  let builder : StatsigUserBuilder :=
    match payload.custom_ids with
    | some custom_ids =>
      StatsigUserBuilder.new_with_custom_ids custom_ids |>.with_user_id payload.user_id
    | none => .new_with_user_id (.String (payload.user_id.getD ""))
  builder
    |>.with_email std payload.email
    |>.with_ip std payload.ip
    |>.with_user_agent std payload.user_agent
    |>.with_country std payload.country
    |>.with_locale std payload.locale
    |>.with_app_version std payload.app_version
    |>.with_custom payload.custom
    |>.with_private_attributes payload.private_attributes
    |>.build std

/-- What the builder makes of a payload: every field as it was read, and an empty user id
where there is none and no custom ids either. -/
theorem Payload.build_eq (payload : Payload) : payload.build std =
    { user_id := (payload.user_id.or (if payload.custom_ids.isNone then some "" else none)).map
        (.from_string std)
      custom_ids := payload.custom_ids.map fun ids =>
        map_values (UnitID.into std) (map_values UnitID.String ids)
      email := payload.email.map (.from_string std)
      ip := payload.ip.map (.from_string std)
      user_agent := payload.user_agent.map (.from_string std)
      country := payload.country.map (.from_string std)
      locale := payload.locale.map (.from_string std)
      app_version := payload.app_version.map (.from_string std)
      private_attributes := payload.private_attributes
      custom := payload.custom } := by
  unfold Payload.build
  cases payload.custom_ids with
  | none =>
    cases payload.user_id with
    | none => simp; rfl
    | some user_id => simp; rfl
  | some custom_ids =>
    cases payload.user_id with
    | none => simp; rfl
    | some user_id => simp; rfl

/-- How a call ends. -/
inductive Decoded where
  | returned (user : Option UserData)
  | panicked

/-- The message about bytes that are left over subtracts their numbers. -/
def decode_user_payload (bytes : List UInt8) : Decoded :=
  match read_payload std ⟨bytes, 0⟩ with
  | none => .returned none
  | some (payload, reader) =>
    if reader.pos ≠ bytes.length then
      if reader.pos ≤ bytes.length then .returned none else .panicked
    else .returned (some (payload.build std))

end

/-! ## Reading the format back -/

/-- The reading reads the block as the value, if the block is shorter than a length can
say. -/
def ReadsBack {α : Type} (m : Read α) (block : List UInt8) (a : α) : Prop :=
  block.length < 2 ^ 31 → Reads m block a

section ReadsBack

variable {α β γ : Type} {m : Read α} {block block' : List UInt8} {a : α} {b : β}

theorem ReadsBack.bind {f : α → Read β} (hm : ReadsBack m block a)
    (hf : ReadsBack (f a) block' b) : ReadsBack (m >>= f) (block ++ block') b := by
  intro hlen
  rw [List.length_append] at hlen
  exact (hm (by omega)).bind (hf (by omega))

theorem ReadsBack.bind_last {f : α → Read β} (hm : ReadsBack m block a)
    (hf : Reads (f a) [] b) : ReadsBack (m >>= f) block b :=
  fun hlen => (hm hlen).bind_last hf

theorem ReadsBack.map (f : α → β) (hm : ReadsBack m block a) : ReadsBack (f <$> m) block (f a) :=
  fun hlen => (hm hlen).map f

theorem ReadsBack.required {m : Read (Option α)} (hm : ReadsBack m block (some a)) :
    ReadsBack (required m) block a :=
  fun hlen => (hm hlen).required

theorem ReadsBack.fold {ε : Type} {step : γ → Read γ} {block : ε → List UInt8}
    {next : γ → ε → γ} (entries : List ε)
    (hstep : ∀ acc, ∀ e ∈ entries, ReadsBack (step acc) (block e) (next acc e)) (acc : γ) :
    ReadsBack (fold step entries.length acc) (entries.flatMap block)
      (entries.foldl next acc) := by
  intro hlen
  apply Reads.fold
  intro acc e he
  apply hstep acc e he
  have hle : (block e).length ≤ (entries.flatMap block).length :=
    (List.sublist_flatten_of_mem (List.mem_map_of_mem he)).length_le
  omega

end ReadsBack

theorem read_u8_reads (byte : UInt8) : Reads read_u8 [byte] byte := by
  intro front rest
  simp [read_u8]

theorem i32_from_int_block (n : Int32) : i32_from_be_bytes (int_block n) = n := by
  unfold i32_from_be_bytes int_block
  rw [big_endian.decode_encode_of_lt (UInt32.toNat_lt _), UInt32.ofNat_toNat]
  rfl

theorem u64_from_long_block (n : UInt64) : u64_from_be_bytes (long_block n) = n := by
  unfold u64_from_be_bytes long_block
  rw [big_endian.decode_encode_of_lt (UInt64.toNat_lt _), UInt64.ofNat_toNat]

theorem read_i32_reads (n : Int32) : Reads read_i32 (int_block n) n := by
  have hread : Reads read_i32 (int_block n) (i32_from_be_bytes (int_block n)) :=
    (int_block_length n ▸ Reads.take (int_block n) : Reads (take 4) _ _).bind_last (Reads.pure _)
  rw [i32_from_int_block] at hread
  exact hread

theorem read_f64_reads (f : F64) : Reads read_f64 (long_block f) f := by
  have hread : Reads read_f64 (long_block f) (u64_from_be_bytes (long_block f)) :=
    (long_block_length f ▸ Reads.take (long_block f) : Reads (take 8) _ _).bind_last (Reads.pure _)
  rw [u64_from_long_block] at hread
  exact hread

theorem read_i64_reads (n : Int64) : Reads read_i64 (long_block n.toUInt64) n := by
  have hread : Reads read_i64 (long_block n.toUInt64)
      (u64_from_be_bytes (long_block n.toUInt64)).toInt64 :=
    (long_block_length n.toUInt64 ▸ Reads.take (long_block n.toUInt64) :
      Reads (take 8) _ _).bind_last (Reads.pure _)
  rw [u64_from_long_block] at hread
  exact hread

theorem from_utf8_utf8 (s : String) : from_utf8 (utf8 s) = some s := by
  unfold from_utf8 utf8
  rw [Array.toArray_toList]
  exact dif_pos s.isValidUTF8

/-- A length or a count that fits is neither -1 nor negative. -/
theorem int_of_length {n : Nat} (h : n < 2 ^ 31) :
    (Int32.ofNat n).toNatClampNeg = n ∧ Int32.ofNat n ≠ -1 ∧ ¬ Int32.ofNat n < 0 := by
  have hint : (Int32.ofNat n).toInt = n := Int32.toInt_ofNat_of_lt h
  refine ⟨Int32.toNatClampNeg_ofNat_of_lt h, ?_, ?_⟩
  · intro heq
    rw [heq] at hint
    have hneg : (-1 : Int32).toInt = -1 := rfl
    omega
  · rw [Int32.lt_iff_toInt_lt, hint]
    have hzero : (0 : Int32).toInt = 0 := rfl
    omega

theorem read_opt_string_reads (value : Option String) :
    ReadsBack read_opt_string (string_block value) value := by
  intro hlen
  cases value with
  | none => exact (read_i32_reads (-1)).bind_last (Reads.pure none)
  | some s =>
    simp only [string_block, List.length_append, int_block_length] at hlen ⊢
    obtain ⟨hnat, hnull, hneg⟩ := int_of_length (show (utf8 s).length < 2 ^ 31 by omega)
    apply (read_i32_reads (Int32.ofNat (utf8 s).length)).bind
    rw [if_neg hnull, if_neg hneg, hnat]
    exact (Reads.take (utf8 s)).bind_last ((Reads.lift (from_utf8_utf8 s)).map some)

theorem read_string_reads (s : String) :
    ReadsBack (required read_opt_string) (string_block (some s)) s :=
  (read_opt_string_reads (some s)).required

/-- The map that holds the entries; of two with one key, the later one. -/
def map_of {V : Type} (entries : List (String × V)) : HashMap String V :=
  entries.foldl (fun map entry => map.insert entry.1 entry.2) []

theorem length_le_flatMap {ε : Type} {block : ε → List UInt8} (h : ∀ e, block e ≠ [])
    (entries : List ε) : entries.length ≤ (entries.flatMap block).length := by
  induction entries with
  | nil => exact Nat.zero_le _
  | cons e entries ih =>
    have hpos := List.length_pos_iff.mpr (h e)
    rw [List.flatMap_cons, List.length_append, List.length_cons]
    omega

theorem read_map_reads {ε V : Type} {read_entry : Read (Option (String × V))}
    {block : ε → List UInt8} {value : ε → String × V} (entries : Option (List ε))
    (hblock : ∀ e, block e ≠ [])
    (hentry : ∀ list, entries = some list → ∀ e ∈ list,
      ReadsBack read_entry (block e) (some (value e))) :
    ReadsBack (read_map read_entry) (map_block block entries)
      (entries.map fun entries => map_of (entries.map value)) := by
  cases entries with
  | none => exact fun _ => (read_i32_reads (-1)).bind_last (Reads.pure none)
  | some entries =>
    intro hlen
    simp only [map_block, List.length_append, int_block_length, Option.map_some] at hlen ⊢
    have hcount := length_le_flatMap hblock entries
    obtain ⟨hnat, hnull, hneg⟩ := int_of_length (show entries.length < 2 ^ 31 by omega)
    apply (read_i32_reads (Int32.ofNat entries.length)).bind
    rw [if_neg hnull, if_neg hneg, hnat]
    have hfold : ReadsBack (fold (fun map => insert_some map <$> read_entry) entries.length [])
        (entries.flatMap block)
        (entries.foldl (fun map e => map.insert (value e).1 (value e).2) []) :=
      ReadsBack.fold entries (fun map e he => (hentry entries rfl e he).map (insert_some map)) []
    have hmap := (hfold (by omega)).map some
    unfold map_of
    rw [List.foldl_map]
    exact hmap

theorem string_block_ne_nil (value : Option String) : string_block value ≠ [] := by
  apply List.ne_nil_of_length_pos
  cases value with
  | none => simp [string_block]
  | some s =>
    rw [string_block, List.length_append, int_block_length]
    omega

theorem read_string_map_reads (entries : Option (List (String × String))) :
    ReadsBack read_string_map (map_block string_entry_block entries) (entries.map map_of) := by
  have hread (entry : String × String) :
      ReadsBack read_string_entry (string_entry_block entry) (some entry) :=
    (read_opt_string_reads (some entry.1)).bind
      ((read_opt_string_reads (some entry.2)).bind_last (Reads.pure _))
  have hmap : ReadsBack (read_map read_string_entry) (map_block string_entry_block entries)
      (entries.map fun entries => map_of (entries.map id)) :=
    read_map_reads entries (fun _ h => string_block_ne_nil _ (List.append_eq_nil_iff.mp h).1)
      (fun _ _ entry _ => hread entry)
  simp only [List.map_id] at hmap
  exact hmap

/-! ### Typed values -/

section Values

variable (std : Std)

/-- The text of a JSON value can be parsed. -/
def Parses : Tagged → Prop
  | .Json text => (std.json_from_str text).isSome
  | _ => True

def value_of : Tagged → DynamicValue
  | .String s => .from_string std s
  | .Bool b => .from_bool std b
  | .I64 n => .from_i64 std n
  | .F64 f => .from_f64 std f
  | .Json text => .from_json std ((std.json_from_str text).getD .Null)

theorem read_typed_entry_reads (entry : String × Tagged) (h : Parses std entry.2) :
    ReadsBack (read_typed_entry std) (tagged_entry_block entry)
      (some (entry.1, value_of std entry.2)) := by
  obtain ⟨key, tagged⟩ := entry
  apply (read_string_reads key).bind
  have hvalue {tag : UInt8} {block : List UInt8} {value : DynamicValue}
      (hread : ReadsBack (read_tagged std tag) block value) :
      ReadsBack (read_u8 >>= fun tag => read_tagged std tag >>= fun value =>
        pure (some (key, value))) ([tag] ++ block) (some (key, value)) := by
    apply ReadsBack.bind (fun _ => read_u8_reads tag)
    exact hread.bind_last (Reads.pure _)
  cases tagged with
  | String s => exact hvalue ((read_string_reads s).map (DynamicValue.from_string std))
  | Bool b =>
    cases b with
    | false =>
      have hread : ReadsBack (read_tagged std TAG_BOOL_FALSE) [] (.from_bool std false) :=
        fun _ => Reads.pure _
      exact hvalue hread
    | true =>
      have hread : ReadsBack (read_tagged std TAG_BOOL_TRUE) [] (.from_bool std true) :=
        fun _ => Reads.pure _
      exact hvalue hread
  | I64 n => exact hvalue fun _ => (read_i64_reads n).map (DynamicValue.from_i64 std)
  | F64 f => exact hvalue fun _ => (read_f64_reads f).map (DynamicValue.from_f64 std)
  | Json text =>
    obtain ⟨json, hjson⟩ := Option.isSome_iff_exists.mp h
    have hread : ReadsBack (read_tagged std TAG_JSON) (string_block (some text))
        (.from_json std json) :=
      (read_string_reads text).bind_last ((Reads.lift hjson).map (DynamicValue.from_json std))
    simp only [value_of, hjson, Option.getD_some]
    exact hvalue hread

/-- The entries of a map of values, as they arrive. -/
def typed_map_of (entries : List (String × Tagged)) : UserDataMap :=
  map_of (entries.map fun entry => (entry.1, value_of std entry.2))

def AllParse (entries : Option (List (String × Tagged))) : Prop :=
  ∀ list, entries = some list → ∀ entry ∈ list, Parses std entry.2

theorem read_typed_map_reads (entries : Option (List (String × Tagged)))
    (h : AllParse std entries) :
    ReadsBack (read_typed_map std) (map_block tagged_entry_block entries)
      (entries.map (typed_map_of std)) :=
  read_map_reads entries
    (fun _ h => string_block_ne_nil _ (List.append_eq_nil_iff.mp h).1)
    (fun list hlist entry hentry => read_typed_entry_reads std entry (h list hlist entry hentry))

/-- What is read from the block of a content. -/
def payload_of (content : Content) : Payload where
  user_id := content.user_id
  email := content.email
  ip := content.ip
  user_agent := content.user_agent
  country := content.country
  locale := content.locale
  app_version := content.app_version
  custom_ids := content.custom_ids.map map_of
  custom := content.custom.map (typed_map_of std)
  private_attributes := content.private_attributes.map (typed_map_of std)

theorem read_version_reads : Reads read_version [USER_PAYLOAD_VERSION] () :=
  (read_u8_reads USER_PAYLOAD_VERSION).bind_last (Reads.pure ())

theorem read_payload_reads (content : Content) (hcustom : AllParse std content.custom)
    (hprivate : AllParse std content.private_attributes) :
    ReadsBack (read_payload std) content.block (payload_of std content) := by
  apply ReadsBack.bind (fun _ => read_version_reads)
  apply (read_opt_string_reads content.user_id).bind
  apply (read_opt_string_reads content.email).bind
  apply (read_opt_string_reads content.ip).bind
  apply (read_opt_string_reads content.user_agent).bind
  apply (read_opt_string_reads content.country).bind
  apply (read_opt_string_reads content.locale).bind
  apply (read_opt_string_reads content.app_version).bind
  apply (read_string_map_reads content.custom_ids).bind
  apply (read_typed_map_reads std content.custom hcustom).bind
  exact (read_typed_map_reads std content.private_attributes hprivate).bind_last (Reads.pure _)

end Values

/-! ## Reading any bytes -/

section Local

variable (std : Std)

theorem read_u8_local : Local read_u8 := by
  intro reader byte reader' h hpos
  unfold read_u8 at h
  cases hbyte : reader.items[reader.pos]? with
  | none =>
    rw [hbyte] at h
    cases h
  | some found =>
    rw [hbyte] at h
    cases h
    obtain ⟨hlt, -⟩ := List.getElem?_eq_some_iff.mp hbyte
    refine ⟨rfl, hlt, fun more => ?_⟩
    unfold read_u8
    simp only [List.getElem?_append_left hlt, hbyte]

theorem read_i32_local : Local read_i32 := (Local.take 4).bind fun _ => Local.pure _

theorem read_i64_local : Local read_i64 := (Local.take 8).bind fun _ => Local.pure _

theorem read_f64_local : Local read_f64 := (Local.take 8).bind fun _ => Local.pure _

theorem read_opt_string_local : Local read_opt_string := by
  apply read_i32_local.bind
  intro len
  apply Local.ite (Local.pure none)
  apply Local.ite Local.failure
  apply (Local.take _).bind
  intro slice
  exact (Local.lift _).map some

theorem read_map_local {V : Type} {read_entry : Read (Option (String × V))}
    (h : Local read_entry) : Local (read_map read_entry) := by
  apply read_i32_local.bind
  intro count
  apply Local.ite (Local.pure none)
  apply Local.ite Local.failure
  exact (Local.fold (fun map => h.map (insert_some map)) _ _).map some

theorem read_string_map_local : Local read_string_map := by
  apply read_map_local
  apply read_opt_string_local.bind
  intro key
  apply read_opt_string_local.bind
  intro value
  exact Local.pure _

theorem read_tagged_local (tag : UInt8) : Local (read_tagged std tag) := by
  apply Local.ite (read_opt_string_local.required.map _)
  apply Local.ite (Local.pure _)
  apply Local.ite (Local.pure _)
  apply Local.ite (read_i64_local.map _)
  apply Local.ite (read_f64_local.map _)
  apply Local.ite _ Local.failure
  apply read_opt_string_local.required.bind
  intro json
  exact (Local.lift _).map _

theorem read_typed_map_local : Local (read_typed_map std) := by
  apply read_map_local
  apply read_opt_string_local.required.bind
  intro key
  apply read_u8_local.bind
  intro tag
  apply (read_tagged_local std tag).bind
  intro value
  exact Local.pure _

theorem read_version_local : Local read_version := by
  apply read_u8_local.bind
  intro version
  exact Local.ite Local.failure (Local.pure ())

theorem read_payload_local : Local (read_payload std) := by
  apply read_version_local.bind
  intro _
  apply read_opt_string_local.bind
  intro user_id
  apply read_opt_string_local.bind
  intro email
  apply read_opt_string_local.bind
  intro ip
  apply read_opt_string_local.bind
  intro user_agent
  apply read_opt_string_local.bind
  intro country
  apply read_opt_string_local.bind
  intro locale
  apply read_opt_string_local.bind
  intro app_version
  apply read_string_map_local.bind
  intro custom_ids
  apply (read_typed_map_local std).bind
  intro custom
  apply (read_typed_map_local std).bind
  intro private_attributes
  exact Local.pure _

/-- A call returns, and accepts just the bytes that the reader takes as a whole. -/
theorem decode_user_payload_eq (bytes : List UInt8) :
    decode_user_payload std bytes =
      .returned ((whole (read_payload std) bytes).map (Payload.build std)) := by
  unfold decode_user_payload whole
  cases hread : read_payload std ⟨bytes, 0⟩ with
  | none => rfl
  | some x =>
    obtain ⟨payload, reader⟩ := x
    have hle : reader.pos ≤ bytes.length := (read_payload_local std).pos_le hread
    by_cases hend : reader.pos = bytes.length
    · simp [hend]
    · simp [hend, hle]

end Local

end statsig_ffi
