-- The decoder undoes the encoder. A user that Java hands over arrives with the same scalars
-- and with the entries of its maps that are not null. Only a double that is not finite does
-- not arrive as itself: JSON has no number for it, so it becomes an integer. And no payload
-- that is accepted starts another one.
import Mathlib.Data.List.Nodup
import StatsigCore.UserPayload.DecodeUserPayload
import StatsigCore.UserPayload.StatsigUserPayload

namespace statsig_ffi

open cursor format statsig_java
open statsig_rust (HashMap DynamicString)

/-! ## Maps -/

section Maps

variable {κ V ε : Type}

theorem map_of_eq (entries : List (String × V)) : map_of entries = entries.reverse := by
  have hfold (acc : HashMap String V) :
      entries.foldl (fun map entry => map.insert entry.1 entry.2) acc =
        entries.reverse ++ acc := by
    induction entries generalizing acc with
    | nil => rfl
    | cons entry entries ih =>
      rw [List.foldl_cons, ih, List.reverse_cons, List.append_assoc]
      rfl
  rw [map_of, hfold, List.append_nil]

theorem map_of_get {entries : List (String × V)} (hdistinct : (entries.map Prod.fst).Nodup)
    {key : String} {value : V} :
    (map_of entries).get key = some value ↔ (key, value) ∈ entries := by
  rw [map_of_eq]
  constructor
  · intro h
    exact List.mem_reverse.mp (HashMap.mem_of_get h)
  · intro h
    apply HashMap.get_of_mem
    · rw [List.map_reverse]
      exact (List.reverse_perm _).nodup_iff.mpr hdistinct
    · exact List.mem_reverse.mpr h

theorem java_get {map : JavaMap V} {key : String} {value : V} :
    map.get key = some value ↔ (some key, some value) ∈ map.entrySet := by
  unfold JavaMap.get
  rw [Option.join_eq_some_iff]
  constructor
  · exact HashMap.mem_of_get
  · exact HashMap.get_of_mem map.distinct

theorem mem_kept {pick : V → Option ε} {entries : List (Option String × Option V)}
    {key : String} {e : ε} :
    (key, e) ∈ entries.filterMap (kept pick) ↔
      ∃ value, (some key, some value) ∈ entries ∧ pick value = some e := by
  rw [List.mem_filterMap]
  constructor
  · rintro ⟨⟨key', value⟩, hmem, hkept⟩
    cases key' with
    | none => cases hkept
    | some key' =>
      cases value with
      | none => cases hkept
      | some value =>
        obtain ⟨e', hpick, heq⟩ := Option.map_eq_some_iff.mp hkept
        cases heq
        exact ⟨value, hmem, hpick⟩
  · rintro ⟨value, hmem, hpick⟩
    exact ⟨_, hmem, by simp [kept, hpick]⟩

/-- The keys that are kept stand in the order of the entries. -/
theorem kept_keys (pick : V → Option ε) (entries : List (Option String × Option V)) :
    ((entries.filterMap (kept pick)).map fun entry => some entry.1).Sublist
      (entries.map Prod.fst) := by
  induction entries with
  | nil => exact List.Sublist.refl _
  | cons entry entries ih =>
    obtain ⟨key, value⟩ := entry
    rw [List.filterMap_cons, List.map_cons]
    cases hkept : kept pick (key, value) with
    | none => exact ih.cons _
    | some found =>
      have hkey : key = some found.1 := by
        cases key with
        | none => cases hkept
        | some key =>
          cases value with
          | none => cases hkept
          | some value =>
            obtain ⟨e, -, heq⟩ := Option.map_eq_some_iff.mp hkept
            cases heq
            rfl
      rw [hkey]
      exact ih.cons_cons _

theorem kept_distinct (map : JavaMap V) (pick : V → Option ε) :
    ((map.entrySet.filterMap (kept pick)).map Prod.fst).Nodup := by
  have hkeys := map.distinct.sublist (kept_keys pick map.entrySet)
  have hsome : (((map.entrySet.filterMap (kept pick)).map Prod.fst).map some).Nodup := by
    rw [List.map_map]
    exact hkeys
  exact List.Nodup.of_map some hsome

/-- A key has the value that is kept of its entry. -/
theorem get_kept (map : JavaMap V) (pick : V → Option ε) (key : String) :
    (map_of (map.entrySet.filterMap (kept pick))).get key = (map.get key).bind pick := by
  apply Option.ext
  intro e
  rw [map_of_get (kept_distinct map pick), mem_kept, Option.bind_eq_some_iff]
  simp only [java_get]

end Maps

/-! ## Values that arrive -/

section Arrives

variable {Nested : Type} (std : Std) (java : Java Nested) (json_of : Nested → JsonValue)

def IsText (s : String) (value : DynamicValue) : Prop :=
  value.string_value.map (·.value) = some s ∧ value.json_value = .String s

/-- The value has the reading of the object. -/
def IsValue : Object Nested → DynamicValue → Prop
  | .String s, value => IsText s value
  | .Boolean b, value => value.bool_value = some b
  | .Integer n, value => value.int_value = some n.toInt64
  | .Long n, value => value.int_value = some n
  | .Short n, value => value.int_value = some n.toInt64
  | .Byte n, value => value.int_value = some n.toInt64
  | .Double f, value => value.float_value = some f
  | .Float f, value => value.float_value = some (java.float_to_double f)
  | .Other nested, value => value.json_value = json_of nested

/-- The double of an object, if it is not finite. -/
def not_finite : Object Nested → Option F64
  | .Double f => if f.is_finite then none else some f
  | .Float f =>
    if (java.float_to_double f).is_finite then none else some (java.float_to_double f)
  | _ => none

/-- As `IsValue`, but a double that is not finite becomes the integer it is cast to. -/
def Lands (object : Object Nested) (value : DynamicValue) : Prop :=
  match not_finite java object with
  | none => IsValue java json_of object value
  | some f => value = .from_i64 std f.as_i64

/-- What arrives of a map: no map for none, and for each key what is picked of its entry. -/
def MapArrives {V ε : Type} (pick : V → Option ε) (R : ε → DynamicValue → Prop)
    (map : Option (JavaMap V)) (user_map : Option UserDataMap) : Prop :=
  Option.Rel (fun map user_map =>
    ∀ key, Option.Rel R ((map.get key).bind pick) (user_map.get key)) map user_map

theorem MapArrives.value {V : Type} {R : V → DynamicValue → Prop} {map : JavaMap V}
    {user_map : Option UserDataMap} (h : MapArrives some R (some map) user_map) {key : String}
    {value : V} (hget : map.get key = some value) :
    ∃ arrived, user_map.bind (·.get key) = some arrived ∧ R value arrived := by
  cases h with
  | @some _ user_map h =>
    have hkey := h key
    rw [hget, Option.bind_some] at hkey
    rw [Option.bind_some]
    cases hfound : HashMap.get user_map key with
    | none =>
      rw [hfound] at hkey
      cases hkey
    | some arrived =>
      rw [hfound] at hkey
      cases hkey with
      | some hvalue => exact ⟨arrived, rfl, hvalue⟩

/-- The user that arrives, where `R` says how a value of a map does. -/
structure UserArrives (R : Object Nested → DynamicValue → Prop) (user : JavaUser Nested)
    (data : UserData) : Prop where
  user_id : Option.Rel IsText
    (user.userID.or (if user.customIDs.isNone then some "" else none)) data.user_id
  email : Option.Rel IsText user.email data.email
  ip : Option.Rel IsText user.ip data.ip
  user_agent : Option.Rel IsText user.userAgent data.user_agent
  country : Option.Rel IsText user.country data.country
  locale : Option.Rel IsText user.locale data.locale
  app_version : Option.Rel IsText user.appVersion data.app_version
  custom_ids : MapArrives text_of IsText user.customIDs data.custom_ids
  custom : MapArrives some R user.custom data.custom
  private_attributes : MapArrives some R user.privateAttributes data.private_attributes
  statsig_environment : data.statsig_environment = none

theorem is_text (s : String) : IsText s (.from_string std s) := by
  constructor
  · rw [DynamicValue.from_string_value]
    rfl
  · exact DynamicValue.from_json_json_value std (.String s)

theorem text_arrives (value : Option String) :
    Option.Rel IsText value (value.map (DynamicValue.from_string std)) := by
  cases value with
  | none => exact .none
  | some s => exact .some (is_text std s)

theorem nan_not_finite {f : F64} (h : f.is_nan) : ¬ f.is_finite := by
  intro hfinite
  simp [F64.is_nan, hfinite] at h

/-- A double that is no NaN is written as it is. -/
theorem bits_of_finite {f : F64} (h : f.is_finite) : doubleToLongBits f = f := by
  unfold doubleToLongBits
  rw [if_neg fun hnan => nan_not_finite hnan h]

theorem double_lands {f : F64} {object : Object Nested}
    (hvalue : IsValue java json_of object = fun value => value.float_value = some f)
    (hfinite : not_finite java object = if f.is_finite then none else some f) :
    Lands std java json_of object (.from_f64 std (doubleToLongBits f)) := by
  unfold Lands
  rw [hfinite]
  by_cases h : f.is_finite
  · rw [if_pos h, bits_of_finite h]
    simp only [hvalue]
    exact DynamicValue.from_f64_finite std h
  · rw [if_neg h]
    by_cases hnan : f.is_nan
    · have hbits : doubleToLongBits f = 0x7ff8000000000000 := if_pos hnan
      have hcast : f.as_i64 = F64.as_i64 0x7ff8000000000000 := by
        unfold F64.as_i64
        rw [if_pos hnan]
        rfl
      simp only [hbits, hcast]
      exact DynamicValue.from_f64_other std (by decide)
    · have hbits : doubleToLongBits f = f := if_neg hnan
      simp only [hbits]
      exact DynamicValue.from_f64_other std h

variable {std java json_of}

theorem value_lands (hleaf : ∀ nested,
      std.json_from_str (java.toJSONString nested) = some (json_of nested))
    (object : Object Nested) :
    Lands std java json_of object (value_of std (object.tagged java)) := by
  cases object with
  | String s => exact is_text std s
  | Boolean b => exact DynamicValue.from_bool_value std b
  | Integer n => exact DynamicValue.from_i64_value std n.toInt64
  | Long n => exact DynamicValue.from_i64_value std n
  | Short n => exact DynamicValue.from_i64_value std n.toInt64
  | Byte n => exact DynamicValue.from_i64_value std n.toInt64
  | Double f => exact double_lands std java json_of rfl rfl
  | Float f => exact double_lands std java json_of rfl rfl
  | Other nested =>
    change (value_of std (.Json (java.toJSONString nested))).json_value = json_of nested
    simp [value_of, hleaf]

/-- The entries of a map of values arrive. -/
theorem tagged_map_arrives (hleaf : ∀ nested,
      std.json_from_str (java.toJSONString nested) = some (json_of nested))
    (map : Option (JavaMap (Object Nested))) :
    MapArrives some (Lands std java json_of) map
      ((map.map (kept_tagged java)).map (typed_map_of std)) := by
  cases map with
  | none => exact .none
  | some map =>
    refine .some fun key => ?_
    have hget : (typed_map_of std (kept_tagged java map)).get key =
        (map.get key).map fun value => value_of std (value.tagged java) := by
      have hvalues : typed_map_of std (kept_tagged java map) =
          map_values (value_of std) (map_of (kept_tagged java map)) := by
        unfold typed_map_of map_values
        rw [map_of_eq, map_of_eq, List.map_reverse]
      rw [hvalues, get_map_values]
      unfold kept_tagged
      rw [get_kept]
      cases map.get key <;> rfl
    rw [hget]
    cases map.get key with
    | none => exact .none
    | some value => exact .some (value_lands hleaf value)

theorem custom_ids_arrive (map : Option (JavaMap (Object Nested))) :
    MapArrives text_of IsText map (((map.map kept_strings).map map_of).map fun ids =>
      map_values (UnitID.into std) (map_values UnitID.String ids)) := by
  cases map with
  | none => exact .none
  | some map =>
    refine .some fun key => ?_
    rw [get_map_values, get_map_values]
    unfold kept_strings
    rw [get_kept, Option.map_map]
    exact text_arrives std ((map.get key).bind text_of)

theorem all_parse (hleaf : ∀ nested,
      std.json_from_str (java.toJSONString nested) = some (json_of nested))
    (map : Option (JavaMap (Object Nested))) :
    AllParse std (map.map (kept_tagged java)) := by
  intro list hlist entry hentry
  obtain ⟨map, -, rfl⟩ := Option.map_eq_some_iff.mp hlist
  obtain ⟨value, -, hvalue⟩ := mem_kept.mp hentry
  rw [← Option.some.inj hvalue]
  cases value with
  | Other nested =>
    change (std.json_from_str (java.toJSONString nested)).isSome
    rw [hleaf]
    rfl
  | _ => trivial

theorem build_arrives (hleaf : ∀ nested,
      std.json_from_str (java.toJSONString nested) = some (json_of nested))
    (user : JavaUser Nested) :
    UserArrives (Lands std java json_of) user
      ((payload_of std (user.content java)).build std) := by
  rw [Payload.build_eq]
  refine
    { user_id := ?_
      email := text_arrives std user.email
      ip := text_arrives std user.ip
      user_agent := text_arrives std user.userAgent
      country := text_arrives std user.country
      locale := text_arrives std user.locale
      app_version := text_arrives std user.appVersion
      custom_ids := custom_ids_arrive user.customIDs
      custom := tagged_map_arrives hleaf user.custom
      private_attributes := tagged_map_arrives hleaf user.privateAttributes
      statsig_environment := rfl }
  have hnone : ((user.content java).custom_ids.map map_of).isNone = user.customIDs.isNone := by
    unfold statsig_java.JavaUser.content
    rw [Option.isNone_map, Option.isNone_map]
  simp only [payload_of, hnone]
  exact text_arrives std _

/-- Below the limit of the writer, a user that is encoded and decoded arrives. -/
theorem round_trip (hleaf : ∀ nested,
      std.json_from_str (java.toJSONString nested) = some (json_of nested))
    (user : JavaUser Nested) (hsize : (user.content java).block.length ≤ MAX_CAPACITY) :
    ∃ bytes data, encode java user = .ok bytes ∧
      decode_user_payload std bytes = .returned (some data) ∧
      UserArrives (Lands std java json_of) user data := by
  have hshort : (user.content java).block.length < 2 ^ 31 := Nat.lt_of_le_of_lt hsize (by decide)
  have hread : whole (read_payload std) (user.content java).block =
      some (payload_of std (user.content java)) :=
    whole_of_reads (read_payload_reads std _ (all_parse hleaf user.custom)
      (all_parse hleaf user.privateAttributes) hshort)
  refine ⟨(user.content java).block, _, encode_eq java user hsize, ?_, build_arrives hleaf user⟩
  rw [decode_user_payload_eq, hread]
  rfl

/-- What is accepted was read as a whole. -/
theorem whole_of_accepted {bytes : List UInt8} {data : UserData}
    (h : decode_user_payload std bytes = .returned (some data)) :
    ∃ payload, whole (read_payload std) bytes = some payload := by
  rw [decode_user_payload_eq] at h
  obtain ⟨payload, hpayload, -⟩ := Option.map_eq_some_iff.mp (Decoded.returned.inj h)
  exact ⟨payload, hpayload⟩

end Arrives

/-- The decoder undoes the encoder, where `R` says how the values of the maps arrive. It
returns for every byte string, and of two byte strings of which one starts the other it
accepts at most one. -/
structure DecodeUndoesEncode {Nested : Type} (std : Std) (java : Java Nested)
    (R : Object Nested → DynamicValue → Prop) : Prop where
  arrives : ∀ user : JavaUser Nested, (user.content java).block.length ≤ MAX_CAPACITY →
    ∃ bytes data, encode java user = .ok bytes ∧
      decode_user_payload std bytes = .returned (some data) ∧ UserArrives R user data
  returns : ∀ bytes, ∃ user, decode_user_payload std bytes = .returned user
  refuses_extension : ∀ bytes more data, more ≠ [] →
    decode_user_payload std bytes = .returned (some data) →
      decode_user_payload std (bytes ++ more) = .returned none
  refuses_prefix : ∀ bytes more data, more ≠ [] →
    decode_user_payload std (bytes ++ more) = .returned (some data) →
      decode_user_payload std bytes = .returned none

/-- Every value arrives as itself, but for the doubles that are not finite. -/
theorem decode_undoes_encode {Nested : Type} (std : Std) (java : Java Nested)
    (json_of : Nested → JsonValue)
    (hleaf : ∀ nested, std.json_from_str (java.toJSONString nested) = some (json_of nested)) :
    DecodeUndoesEncode std java (Lands std java json_of) where
  arrives := round_trip hleaf
  returns := fun bytes => ⟨_, decode_user_payload_eq std bytes⟩
  refuses_extension := by
    intro bytes more data hmore h
    obtain ⟨payload, hpayload⟩ := whole_of_accepted h
    rw [decode_user_payload_eq, (read_payload_local std).whole_append hpayload hmore]
    rfl
  refuses_prefix := by
    intro bytes more data hmore h
    obtain ⟨payload, hpayload⟩ := whole_of_accepted h
    rw [decode_user_payload_eq, (read_payload_local std).whole_of_longer hpayload hmore]
    rfl

/-- The readings of the texts `pro` and `[]`, and of the number 0. -/
def Std.for_example : Std where
  to_lowercase := String.toLower
  parse_i64 _ := none
  parse_f64 _ := none
  f64_to_string _ := "0"
  i64_as_f64 _ := 0
  u64_as_f64 _ := 0
  parse_from_rfc3339 _ := none
  parse_naive_datetime _ := none
  json_to_string _ := "[]"
  json_from_str text := if text = "[]" then some (.Array []) else none

/-- The one nested value is the empty list. -/
def java_example : Java Unit where
  toJSONString _ := "[]"
  float_to_double _ := 0

/-- A user with a plan, a value that is null, and an empty list. -/
def paying_user : JavaUser Unit where
  userID := some "anna"
  custom := some
    { entrySet := [(some "plan", some (.String "pro")), (some "skipped", none),
        (some "tags", some (.Other ()))]
      distinct := by decide }

theorem paying_user_arrives : ∃ bytes data, encode java_example paying_user = .ok bytes ∧
    decode_user_payload .for_example bytes = .returned (some data) ∧
    UserArrives (Lands .for_example java_example fun _ => .Array []) paying_user data :=
  (decode_undoes_encode .for_example java_example (fun _ => .Array []) fun _ => rfl).arrives
    paying_user (by decide +kernel)

/-- A score that is no number. -/
def no_score : JavaMap (Object Unit) where
  entrySet := [(some "score", some (.Double 0x7ff8000000000000))]
  distinct := by decide

def unscored_user : JavaUser Unit where
  userID := some "anna"
  custom := some no_score

/-- The score that is no number arrives as 0. -/
theorem unscored_user_does_not_arrive :
    ¬ ∀ (std : Std) (java : Java Unit) (json_of : Unit → JsonValue),
      (∀ nested, std.json_from_str (java.toJSONString nested) = some (json_of nested)) →
      DecodeUndoesEncode std java (IsValue java json_of) := by
  intro h
  have hleaf : ∀ nested : Unit, Std.for_example.json_from_str (java_example.toJSONString nested) =
      some (JsonValue.Array []) := fun _ => rfl
  have hsize : (unscored_user.content java_example).block.length ≤ MAX_CAPACITY := by
    decide +kernel
  obtain ⟨bytes, data, hencode, hdecode, harrives⟩ :=
    (h .for_example java_example (fun _ => .Array []) hleaf).arrives unscored_user hsize
  obtain ⟨bytes', data', hencode', hdecode', harrives'⟩ :=
    round_trip hleaf unscored_user hsize
  have hbytes : bytes = bytes' := Except.ok.inj (hencode.symm.trans hencode')
  subst hbytes
  have hdata : data = data' :=
    Option.some.inj (Decoded.returned.inj (hdecode.symm.trans hdecode'))
  subst hdata
  have hget : no_score.get "score" = some (.Double 0x7ff8000000000000) := rfl
  obtain ⟨value, hvalue, hsame⟩ := harrives.custom.value hget
  obtain ⟨value', hvalue', hlands⟩ := harrives'.custom.value hget
  have heq : value = value' := Option.some.inj (hvalue.symm.trans hvalue')
  subst heq
  have hint : value = .from_i64 .for_example 0 := hlands
  have hscore : value.float_value = some 0x7ff8000000000000 := hsame
  rw [hint] at hscore
  exact absurd hscore (by decide)

end statsig_ffi
