-- Which interned strings keep the contract of `Eq` and `Hash`, over all runs of the store, and
-- what that makes of the tables that are keyed by them.
import StatsigCore.Comparisons.ArrayTargets
import StatsigCore.EventLogging.QueuedExposures
import StatsigCore.InternedValues.InternedStrings
import StatsigCore.Library.HashTable
import StatsigCore.Library.Machine

open hash_table machine
open statsig_ffi (DynamicValue)
open statsig_ffi.format (utf8)
open statsig_rust (HashMap)
open statsig_rust.evaluation (Interned)
open statsig_rust.event_logging (Hashing)
open statsig_rust.interned_values (Arc LocalStore)

namespace interned_values

variable {hash_one : List UInt8 → UInt64}

/-- The string carries the hash of its own text. -/
def InternedString.Own (hash_one : List UInt8 → UInt64) (self : InternedString) : Prop :=
  self.hash = hash_one (utf8 self.as_str)

/-- What a call gives: the static empty string, or a string with the hash of its text. -/
def Constructor.Gives (hash_one : List UInt8 → UInt64) : Constructor → InternedString → Prop
  | .empty, string => string = .EMPTY
  | .default, string => string = .EMPTY
  | _, string => string.Own hash_one

namespace StringStore

variable {s s' : StringStore}

/-! ## Every entry stands under its own hash -/

def Keyed (hash_one : List UInt8 → UInt64) (map : HashMap UInt64 String) : Prop :=
  ∀ entry ∈ map, entry.1 = hash_one (utf8 entry.2)

/-- What every step keeps. -/
structure Kept (hash_one : List UInt8 → UInt64) (s : StringStore) : Prop where
  mmap : ∀ data, s.MMAP_DATA = some data → Keyed hash_one data
  immortal : ∀ data, s.IMMORTAL_DATA = some data → Keyed hash_one data
  mutable : ∀ entry ∈ s.MUTABLE_DATA.map, entry.1 = hash_one (utf8 entry.2.value)
  truth : ∀ string, s.TRUE_STRING = some string → string.Own hash_one
  falsity : ∀ string, s.FALSE_STRING = some string → string.Own hash_one
  default_rule_id : ∀ string, s.DEFAULT_RULE_ID = some string → string.Own hash_one
  given : ∀ given ∈ s.obtained, given.1.Gives hash_one given.2
  held : s.held ⊆ s.obtained

theorem start_kept : Kept hash_one {} :=
  ⟨nofun, nofun, nofun, nofun, nofun, nofun, nofun, List.Subset.refl _⟩

theorem own_of_get {data : HashMap UInt64 String} (h : Keyed hash_one data) {hash : UInt64}
    {text : String} (hget : HashMap.get data hash = some text) : hash = hash_one (utf8 text) :=
  h _ (HashMap.mem_of_get hget)

/-- What `get_or_intern_string` gives and leaves. -/
theorem get_or_intern_kept (hs : Kept hash_one s) (value : String) :
    (s.get_or_intern_string hash_one value).1.Own hash_one ∧
      Kept hash_one (s.get_or_intern_string hash_one value).2 := by
  unfold get_or_intern_string
  dsimp only
  cases hmmap : s.get_string_from_mmap (hash_one (utf8 value)) with
  | some text =>
    obtain ⟨data, hdata, hget⟩ := Option.bind_eq_some_iff.mp hmmap
    exact ⟨own_of_get (hs.mmap data hdata) hget, hs⟩
  | none =>
    cases hshared : s.get_string_from_shared (hash_one (utf8 value)) with
    | some text =>
      obtain ⟨data, hdata, hget⟩ := Option.bind_eq_some_iff.mp hshared
      exact ⟨own_of_get (hs.immortal data hdata) hget, hs⟩
    | none =>
      dsimp only
      unfold get_string_from_local
      cases hlocal : s.MUTABLE_DATA.get (hash_one (utf8 value)) with
      | some arc => exact ⟨hs.mutable _ (HashMap.mem_of_get hlocal), hs⟩
      | none =>
        refine ⟨rfl, { hs with mutable := fun entry hentry => ?_ }⟩
        rcases List.mem_cons.mp hentry with rfl | hold
        · rfl
        · exact hs.mutable entry (List.mem_of_mem_filter hold)

theorem construct_kept (hs : Kept hash_one s) (constructor : Constructor) :
    constructor.Gives hash_one (s.construct hash_one constructor).1 ∧
      Kept hash_one (s.construct hash_one constructor).2 := by
  cases constructor with
  | from_str_ref value => exact get_or_intern_kept hs value
  | from_string value => exact get_or_intern_kept hs value
  | from_bool value =>
    cases value with
    | true =>
      simp only [construct, from_bool]
      cases hmade : s.TRUE_STRING with
      | some string => exact ⟨hs.truth string hmade, hs⟩
      | none =>
        obtain ⟨hown, hkept⟩ := get_or_intern_kept hs "true"
        exact ⟨hown, { hkept with truth := fun _ h => Option.some.inj h ▸ hown }⟩
    | false =>
      simp only [construct, from_bool]
      cases hmade : s.FALSE_STRING with
      | some string => exact ⟨hs.falsity string hmade, hs⟩
      | none =>
        obtain ⟨hown, hkept⟩ := get_or_intern_kept hs "false"
        exact ⟨hown, { hkept with falsity := fun _ h => Option.some.inj h ▸ hown }⟩
  | from_str_parts parts => exact get_or_intern_kept hs _
  | from_dynamic_string value => exact get_or_intern_kept hs value
  | deserialize raw => exact get_or_intern_kept hs raw
  | default_rule_id =>
    simp only [construct, StringStore.default_rule_id]
    cases hmade : s.DEFAULT_RULE_ID with
    | some string => exact ⟨hs.default_rule_id string hmade, hs⟩
    | none =>
      obtain ⟨hown, hkept⟩ := get_or_intern_kept hs "default"
      exact ⟨hown, { hkept with default_rule_id := fun _ h => Option.some.inj h ▸ hown }⟩
  | empty => exact ⟨rfl, hs⟩
  | default => exact ⟨rfl, hs⟩

theorem give_kept (hs : Kept hash_one s) {constructor : Constructor} {string : InternedString}
    (h : constructor.Gives hash_one string) : Kept hash_one (s.give constructor string) :=
  { hs with
    given := List.forall_mem_cons.mpr ⟨h, hs.given⟩
    held := List.cons_subset_cons _ hs.held }

theorem drained_keyed (hs : Kept hash_one s) : Keyed hash_one s.drained := by
  intro entry hentry
  obtain ⟨stored, hstored, rfl⟩ := List.mem_map.mp hentry
  exact hs.mutable stored hstored

/-- The file that `write_mmap_data` writes. -/
def write_mmap_data (s : StringStore) (hs : Kept hash_one s) : MmapData hash_one :=
  ⟨s.drained, drained_keyed hs⟩

theorem step_kept {label : StringStep hash_one} (hs : Kept hash_one s)
    (h : s.step label = some s') : Kept hash_one s' := by
  cases label with
  | construct constructor =>
    cases h
    obtain ⟨hgives, hkept⟩ := construct_kept hs constructor
    exact give_kept hkept hgives
  | clone k =>
    obtain ⟨given, hget, rfl⟩ := Option.map_eq_some_iff.mp h
    exact give_kept hs (hs.given given (hs.held (List.mem_of_getElem? hget)))
  | drop k =>
    obtain ⟨given, -, rfl⟩ := Option.map_eq_some_iff.mp h
    exact { hs with held := fun _ hmem => hs.held (List.mem_of_mem_eraseIdx hmem) }
  | try_sweep =>
    cases h
    exact { hs with
      mutable := fun entry hentry => hs.mutable entry (List.mem_of_mem_filter hentry) }
  | mutable_to_immortal =>
    simp only [step] at h
    split at h
    · nomatch h
    · cases h
      exact { hs with
        immortal := fun _ hdata => Option.some.inj hdata ▸ drained_keyed hs
        mutable := nofun }
  | write_mmap_data =>
    cases h
    exact { hs with mutable := nofun }
  | preload_mmap data =>
    simp only [step] at h
    split at h
    · nomatch h
    · cases h
      exact { hs with mmap := fun _ hdata => Option.some.inj hdata ▸ data.keyed }

theorem run_kept {labels : List (StringStep hash_one)} (h : run step {} labels = some s) :
    Kept hash_one s :=
  run_invariant (fun _ _ _ hs hstep => step_kept hs hstep) start_kept h

/-! ## The contract -/

/-- All the strings that were given out. -/
def strings (s : StringStore) : List InternedString := s.obtained.map Prod.snd

/-- The hash tells the texts that were given out apart. -/
def NoCollision (hash_one : List UInt8 → UInt64) (s : StringStore) : Prop :=
  ∀ a ∈ s.strings, ∀ b ∈ s.strings,
    hash_one (utf8 a.as_str) = hash_one (utf8 b.as_str) → a.as_str = b.as_str

structure ObeysHashContract (hash_one : List UInt8 → UInt64) (s : StringStore) : Prop where
  equal_hashes : Contract InternedString.as_str InternedString.hash (· ∈ s.strings)
  lookups : ∀ υ : Type, GoesByName InternedString.as_str InternedString.hash (· ∈ s.strings) υ
  equal_texts : s.NoCollision hash_one →
    ∀ a ∈ s.strings, ∀ b ∈ s.strings, a.hash = b.hash → a.as_str = b.as_str

end StringStore

/-- The calls that give the static empty string. -/
def Constructor.is_static : Constructor → Bool
  | .empty | .default => true
  | _ => false

theorem Constructor.Gives.cases {constructor : Constructor} {string : InternedString}
    (h : constructor.Gives hash_one string) :
    (constructor.is_static = true ∧ string = .EMPTY) ∨
      (constructor.is_static = false ∧ string.Own hash_one) := by
  cases constructor with
  | empty => exact .inl ⟨rfl, h⟩
  | default => exact .inl ⟨rfl, h⟩
  | _ => exact .inr ⟨rfl, h⟩

namespace StringStore

variable {s : StringStore}

/-- The run has the static empty string, whose hash is 0, next to a text of the store that is
empty and has another hash, or that is not empty and has this hash. -/
def MixesEmpty (hash_one : List UInt8 → UInt64) (s : StringStore) : Prop :=
  (∃ given ∈ s.obtained, given.1.is_static = true) ∧
    ∃ given ∈ s.obtained, given.1.is_static = false ∧
      ((given.2.as_str = "" ∧ hash_one (utf8 "") ≠ 0) ∨
        (s.NoCollision hash_one ∧ given.2.as_str ≠ "" ∧ hash_one (utf8 given.2.as_str) = 0))

theorem Kept.string_cases (hs : Kept hash_one s) {string : InternedString}
    (h : string ∈ s.strings) :
    (string = .EMPTY ∧ ∃ given ∈ s.obtained, given.1.is_static = true) ∨
      (string.Own hash_one ∧ ∃ given ∈ s.obtained, given.1.is_static = false ∧
        given.2 = string) := by
  obtain ⟨given, hgiven, rfl⟩ := List.mem_map.mp h
  rcases (hs.given given hgiven).cases with ⟨hstatic, hempty⟩ | ⟨hstatic, hown⟩
  · exact .inl ⟨hempty, given, hgiven, hstatic⟩
  · exact .inr ⟨hown, given, hgiven, hstatic, rfl⟩

/-- Next to the static empty string, an empty text of the store has the hash 0. -/
theorem hash_of_empty_text (hmixes : ¬ MixesEmpty hash_one s)
    (hstatic : ∃ given ∈ s.obtained, given.1.is_static = true) {string : InternedString}
    (hown : string.Own hash_one)
    (hstored : ∃ given ∈ s.obtained, given.1.is_static = false ∧ given.2 = string)
    (htext : string.as_str = "") : string.hash = 0 := by
  obtain ⟨given, hgiven, hfalse, rfl⟩ := hstored
  rw [hown, htext]
  by_contra hhash
  exact hmixes ⟨hstatic, given, hgiven, hfalse, .inl ⟨htext, hhash⟩⟩

/-- Next to the static empty string, a text of the store with the hash 0 is empty. -/
theorem text_of_hash_zero (hmixes : ¬ MixesEmpty hash_one s) (hcollision : s.NoCollision hash_one)
    (hstatic : ∃ given ∈ s.obtained, given.1.is_static = true) {string : InternedString}
    (hown : string.Own hash_one)
    (hstored : ∃ given ∈ s.obtained, given.1.is_static = false ∧ given.2 = string)
    (hhash : string.hash = 0) : string.as_str = "" := by
  obtain ⟨given, hgiven, hfalse, rfl⟩ := hstored
  by_contra htext
  exact hmixes ⟨hstatic, given, hgiven, hfalse, .inr ⟨hcollision, htext, hown.symm.trans hhash⟩⟩

theorem Kept.equal_hashes (hs : Kept hash_one s) (hmixes : ¬ MixesEmpty hash_one s) :
    Contract InternedString.as_str InternedString.hash (· ∈ s.strings) := by
  intro a b ha hb htext
  rcases hs.string_cases ha with ⟨rfl, hstatic⟩ | ⟨hown, hstored⟩
  · rcases hs.string_cases hb with ⟨rfl, -⟩ | ⟨hown', hstored'⟩
    · rfl
    · exact (hash_of_empty_text hmixes hstatic hown' hstored' htext.symm).symm
  · rcases hs.string_cases hb with ⟨rfl, hstatic⟩ | ⟨hown', -⟩
    · exact hash_of_empty_text hmixes hstatic hown hstored htext
    · rw [hown, hown', htext]

theorem Kept.equal_texts (hs : Kept hash_one s) (hmixes : ¬ MixesEmpty hash_one s)
    (hcollision : s.NoCollision hash_one) {a b : InternedString} (ha : a ∈ s.strings)
    (hb : b ∈ s.strings) (hhash : a.hash = b.hash) : a.as_str = b.as_str := by
  rcases hs.string_cases ha with ⟨rfl, hstatic⟩ | ⟨hown, hstored⟩
  · rcases hs.string_cases hb with ⟨rfl, -⟩ | ⟨hown', hstored'⟩
    · rfl
    · exact (text_of_hash_zero hmixes hcollision hstatic hown' hstored' hhash.symm).symm
  · rcases hs.string_cases hb with ⟨rfl, hstatic⟩ | ⟨hown', -⟩
    · exact text_of_hash_zero hmixes hcollision hstatic hown hstored hhash
    · exact hcollision a ha b hb (hown.symm.trans (hhash.trans hown'))

/-- The static empty string breaks the contract with what it is mixed with. -/
theorem Kept.not_mixesEmpty (hs : Kept hash_one s) (h : s.ObeysHashContract hash_one) :
    ¬ MixesEmpty hash_one s := by
  rintro ⟨⟨static, hstatic, htrue⟩, stored, hstored, hfalse, hclash⟩
  have hempty : static.2 = .EMPTY := by
    rcases (hs.given static hstatic).cases with ⟨-, hempty⟩ | ⟨hfalse, -⟩
    · exact hempty
    · exact absurd (hfalse.symm.trans htrue) nofun
  have hown : stored.2.Own hash_one := by
    rcases (hs.given stored hstored).cases with ⟨htrue, -⟩ | ⟨-, hown⟩
    · exact absurd (hfalse.symm.trans htrue) nofun
    · exact hown
  have hmem : InternedString.EMPTY ∈ s.strings := hempty ▸ List.mem_map_of_mem hstatic
  have hmem' : stored.2 ∈ s.strings := List.mem_map_of_mem hstored
  rcases hclash with ⟨htext, hhash⟩ | ⟨hcollision, htext, hhash⟩
  · apply hhash
    rw [← htext, ← hown]
    exact (h.equal_hashes _ _ hmem hmem' htext.symm).symm
  · exact htext (h.equal_texts hcollision _ hmem _ hmem' (hown.trans hhash).symm).symm

/-- Over every run, the strings that were given out obey the contract exactly if the static empty
string is not mixed with a text of the store that its hash does not fit. -/
theorem hash_contract_iff {labels : List (StringStep hash_one)} (h : run step {} labels = some s) :
    s.ObeysHashContract hash_one ↔ ¬ MixesEmpty hash_one s := by
  have hs := run_kept h
  constructor
  · exact hs.not_mixesEmpty
  · intro hmixes
    have hcontract := hs.equal_hashes hmixes
    refine ⟨hcontract, fun υ => hcontract.goesByName _ _ _, fun hcollision a ha b hb hhash => ?_⟩
    exact hs.equal_texts hmixes hcollision ha hb hhash

/-- A hash that tells short texts apart, for the samples. -/
def sample_hash (bytes : List UInt8) : UInt64 :=
  bytes.foldl (fun hash byte => 31 * hash + byte.toUInt64) 7

/-- The name of a gate next to the static empty string. -/
theorem gate_next_to_empty : ∃ s, @run _ (StringStep sample_hash) step {}
    [.construct (.from_str_ref "gate"), .construct .empty] = some s ∧
      s.ObeysHashContract sample_hash := by
  have hiff := @hash_contract_iff sample_hash _
    [.construct (.from_str_ref "gate"), .construct .empty] rfl
  refine ⟨_, rfl, hiff.mpr ?_⟩
  rintro ⟨-, given, hgiven, hfalse, hclash⟩
  rcases List.mem_cons.mp hgiven with rfl | hgiven
  · nomatch hfalse
  · rw [List.mem_singleton.mp hgiven] at hclash
    rcases hclash with ⟨htext, -⟩ | ⟨-, -, hhash⟩
    · exact absurd htext (by decide)
    · exact absurd hhash (by decide +kernel)

/-- An empty text of the store next to the static empty string. -/
theorem empty_texts_differ : ∃ s, @run _ (StringStep sample_hash) step {}
    [.construct (.from_str_ref ""), .construct .empty] = some s ∧
      ¬ s.ObeysHashContract sample_hash ∧
      ¬ GoesByName InternedString.as_str InternedString.hash (· ∈ s.strings) Unit := by
  refine ⟨_, rfl, ?_⟩
  generalize hs : StringStore.strings _ = strings
  have hcontract : ¬ Contract InternedString.as_str InternedString.hash (· ∈ strings) := by
    intro h
    subst hs
    exact absurd (h .EMPTY ⟨7, .Pointer ⟨0, ""⟩⟩ List.mem_cons_self
      (List.mem_cons_of_mem _ List.mem_cons_self) rfl) (by decide)
  exact ⟨fun h => hcontract (hs ▸ h.equal_hashes), fun h => hcontract (h.contract _ _ _ ())⟩

/-! ## The strings of the other modules -/

/-- A string that was given out is an empty or a stored one, with its text and its hash. -/
theorem Kept.interned (hs : Kept hash_one s) {hashing : Hashing}
    (hbytes : ∀ text, hashing.hash_bytes text = hash_one (utf8 text)) {string : InternedString}
    (h : string ∈ s.strings) :
    ∃ interned : Interned, string.as_str = interned.text ∧
      string.hash = hashing.interned interned := by
  rcases hs.string_cases h with ⟨rfl, -⟩ | ⟨hown, -⟩
  · exact ⟨.empty, rfl, rfl⟩
  · exact ⟨.stored string.as_str, rfl, hown.trans (hbytes _).symm⟩

end StringStore

section ArraySets

variable {intern : String → InternedString} {β : Type} [DecidableEq β] {place : UInt64 → β}

/-- An element of the user's array, as `compare_arrays` puts it in the set. -/
def element_string (intern : String → InternedString) (x : DynamicValue) : InternedString :=
  match x.string_value with
  | some s => intern s.value
  | none => .EMPTY

def value_set (intern : String → InternedString) (place : UInt64 → β)
    (value_array : List DynamicValue) : Table InternedString Unit :=
  filled ⟨InternedString.as_str, InternedString.hash, place⟩
    ((value_array.map (element_string intern)).map (.insert · ()))

/-- The set finds what the operators are modelled to find in it, wherever it puts its entries: the
two empty texts meet where their places are one. -/
theorem value_set_contains (hown : ∀ text, (intern text).Own hash_one)
    (htext : ∀ text, (intern text).as_str = text) (value_array : List DynamicValue)
    (item : String) :
    (get ⟨InternedString.as_str, InternedString.hash, place⟩ (value_set intern place value_array)
        (intern item)).isSome ↔
      comparisons.set_contains (decide (place 0 = place (hash_one (utf8 ""))))
        (value_array.map comparisons.set_element) item := by
  rw [comparisons.set_contains_iff, value_set, get_filled, last_of_inserts]
  simp only [List.mem_map, exists_exists_and_eq_and, decide_eq_true_eq]
  have hcell : ∀ x : DynamicValue,
      ((place (element_string intern x).hash, (element_string intern x).as_str) =
          (place (intern item).hash, (intern item).as_str) ↔
        comparisons.set_element x = some item ∨
          place 0 = place (hash_one (utf8 "")) ∧ item = "" ∧ comparisons.set_element x = none) := by
    intro x
    have hhash : ∀ text, (intern text).hash = hash_one (utf8 text) := fun text => by
      rw [hown text, htext text]
    unfold element_string comparisons.set_element
    cases x.string_value with
    | none =>
      rw [hhash, htext, Prod.mk.injEq]
      constructor
      · rintro ⟨hplace, hitem⟩
        have hempty : item = "" := hitem.symm
        exact .inr ⟨hempty ▸ hplace, hempty, rfl⟩
      · rintro (hnone | ⟨hplace, rfl, -⟩)
        · cases hnone
        · exact ⟨hplace, rfl⟩
    | some s =>
      simp only [Option.map_some, Option.some.injEq, hhash, htext, Prod.mk.injEq]
      constructor
      · exact fun h => .inl h.2
      · rintro (hitem | ⟨-, -, hnone⟩)
        · exact ⟨by rw [hitem], hitem⟩
        · cases hnone
  constructor
  · rintro ⟨x, hx, hsame⟩
    rcases (hcell x).mp hsame with hitem | ⟨hplace, hempty, hnone⟩
    · exact .inl ⟨x, hx, hitem⟩
    · exact .inr ⟨hplace, hempty, x, hx, hnone⟩
  · rintro (⟨x, hx, hitem⟩ | ⟨hplace, hempty, x, hx, hnone⟩)
    · exact ⟨x, hx, (hcell x).mpr (.inl hitem)⟩
    · exact ⟨x, hx, (hcell x).mpr (.inr ⟨hplace, hempty, hnone⟩)⟩

end ArraySets

end interned_values
