-- The country of an IP address (`evaluation/country_lookup.rs`): the table of ranges, its loader,
-- and the search of an address in it.
import StatsigCore.Comparisons.Operators

open comparisons (parse_i128)

namespace statsig_rust.evaluation.country_lookup

/-! ## Arithmetic of `i64` -/

def wrap_i64 (n : Int) : Int := n.bmod (2 ^ 64)

/-- A result of a sum or of a product. A build without overflow checks wraps. -/
def arith_i64 (overflow_checks : Bool) (n : Int) : Option Int :=
  if -2 ^ 63 ≤ n ∧ n < 2 ^ 63 then some n
  else if overflow_checks then none
  else some (wrap_i64 n)

/-- A shift drops the high bits, in any build. -/
def shl_i64 (n : Int) (bits : Nat) : Int := wrap_i64 (n * 2 ^ bits)

/-- `str::parse::<i64>`. -/
def parse_i64 (part : List Char) : Option Int :=
  (parse_i128 part).filter fun n => -2 ^ 63 ≤ n ∧ n < 2 ^ 63

/-! ## The table -/

structure CountryLookupData where
  country_codes : List String
  ip_ranges : List Int
deriving DecidableEq

section Load

variable (overflow_checks : Bool)

/-- The codes at the beginning of the bytes, and the bytes after them. `none` is a read past the
end. -/
def read_codes : List UInt8 → Option (List String × List UInt8)
  | [] => some ([], [])
  | [_] => none
  | c1 :: c2 :: bytes =>
    let code := String.ofList [Char.ofNat c1.toNat, Char.ofNat c2.toNat]
    if Char.ofNat c1.toNat = '*' then some ([code], bytes)
    else (read_codes bytes).map fun rest => (code :: rest.1, rest.2)

/-- The end of one turn of the loop over the ranges, and the turns after it. -/
def push_range (raw_code_lookup : List String) (last_end_range : Int) (count : Nat) (cc : UInt8)
    (rest : Int → Option CountryLookupData) : Option CountryLookupData := do
  let last_end_range ← arith_i64 overflow_checks (last_end_range + (count : Int) * 256)
  let code ← raw_code_lookup[cc.toNat]?
  let data ← rest last_end_range
  return ⟨code :: data.country_codes, last_end_range :: data.ip_ranges⟩

/-- The loop over the ranges. A range is the number of its blocks and its code. -/
def read_ranges (raw_code_lookup : List String) (last_end_range : Int) :
    List UInt8 → Option CountryLookupData
  | n1 :: n2 :: bytes =>
    if n1.toNat = 242 then
      match bytes with
      | n3 :: cc :: bytes =>
        push_range overflow_checks raw_code_lookup last_end_range (n2.toNat ||| n3.toNat <<< 8) cc
          fun last_end_range => read_ranges raw_code_lookup last_end_range bytes
      | _ => none
    else if n1.toNat = 243 then
      match bytes with
      | n3 :: n4 :: cc :: bytes =>
        push_range overflow_checks raw_code_lookup last_end_range
          (n2.toNat ||| n3.toNat <<< 8 ||| n4.toNat <<< 16) cc
          fun last_end_range => read_ranges raw_code_lookup last_end_range bytes
      | _ => none
    else
      push_range overflow_checks raw_code_lookup last_end_range
        (if n1.toNat < 240 then n1.toNat else 0) n2
        fun last_end_range => read_ranges raw_code_lookup last_end_range bytes
  | _ => some ⟨[], []⟩

/-- What `load_country_lookup` makes of the bytes of the table. -/
def load_country_lookup (bytes : List UInt8) : Option CountryLookupData := do
  let (raw_code_lookup, bytes) ← read_codes bytes
  read_ranges overflow_checks raw_code_lookup 0 bytes

end Load

/-! ## The search -/

/-- The loop of `binary_search`. -/
def search (ip_ranges : List Int) (value : Int) (min max : Nat) (hmax : max ≤ ip_ranges.length) :
    Nat :=
  if hlt : min < max then
    let mid := (min + max) / 2
    have hmid : mid < max := by omega
    if ip_ranges[mid] ≤ value then search ip_ranges value (mid + 1) max hmax
    else search ip_ranges value min mid (Nat.le_trans (Nat.le_of_lt hmid) hmax)
  else min
termination_by max - min

def binary_search (value : Int) (country_lookup_data : CountryLookupData) : Nat :=
  search country_lookup_data.ip_ranges value 0 country_lookup_data.ip_ranges.length (Nat.le_refl _)

inductive LookupResult where
  | returned (country : Option String)
  | not_loaded
  | panicked
deriving DecidableEq

def lookup_numeric (ip_address : Int) (country_lookup_data : CountryLookupData) : LookupResult :=
  match country_lookup_data.country_codes[binary_search ip_address country_lookup_data]? with
  | none => .panicked
  | some cc => .returned (if cc = "--" then none else some cc)

def ip_number (overflow_checks : Bool) (n0 n1 n2 n3 : Int) : Option Int := do
  let high ← arith_i64 overflow_checks (n0 * 256 ^ 3)
  let sum ← arith_i64 overflow_checks (high + shl_i64 n1 16)
  let sum ← arith_i64 overflow_checks (sum + shl_i64 n2 8)
  arith_i64 overflow_checks (sum + n3)

/-- `none` is a table that is not loaded. -/
def lookup (overflow_checks : Bool) (ip_address : String)
    (country_lookup_data : Option CountryLookupData) : LookupResult :=
  match ip_address.toList.splitOn '.' with
  | [part0, part1, part2, part3] =>
    match country_lookup_data with
    | none => .not_loaded
    | some country_lookup_data =>
      match parse_i64 part0, parse_i64 part1, parse_i64 part2, parse_i64 part3 with
      | some n0, some n1, some n2, some n3 =>
        match ip_number overflow_checks n0 n1 n2 n3 with
        | none => .panicked
        | some ip_number => lookup_numeric ip_number country_lookup_data
      | _, _, _, _ => .returned none
  | _ => .returned none

/-! ## The tables that are loaded -/

section

variable {overflow_checks : Bool} {raw_code_lookup : List String}

theorem arith_i64_of_fits {n : Int} (hlow : -2 ^ 63 ≤ n) (hhigh : n < 2 ^ 63) :
    arith_i64 overflow_checks n = some n := if_pos ⟨hlow, hhigh⟩

/-- With overflow checks, a result is the exact one. -/
theorem arith_i64_checked {n m : Int} : arith_i64 true n = some m ↔
    (-2 ^ 63 ≤ n ∧ n < 2 ^ 63) ∧ n = m := by
  simp [arith_i64]

/-- The ends of the ranges go on from the last one. -/
structure GoesOn (last_end_range : Int) (data : CountryLookupData) : Prop where
  same_length : data.country_codes.length = data.ip_ranges.length
  sorted : (last_end_range :: data.ip_ranges).Pairwise (· ≤ ·)

theorem push_range_goes_on {last_end_range : Int} {count : Nat} {cc : UInt8}
    {rest : Int → Option CountryLookupData} {data : CountryLookupData}
    (hfits : -2 ^ 63 ≤ last_end_range ∧ last_end_range + (count : Int) * 256 < 2 ^ 63)
    (hrest : ∀ data, rest (last_end_range + (count : Int) * 256) = some data →
      GoesOn (last_end_range + (count : Int) * 256) data)
    (h : push_range overflow_checks raw_code_lookup last_end_range count cc rest = some data) :
    GoesOn last_end_range data := by
  unfold push_range at h
  rw [arith_i64_of_fits (by omega) hfits.2] at h
  cases hcode : raw_code_lookup[cc.toNat]? with
  | none =>
    rw [hcode] at h
    cases h
  | some code =>
    cases hdata : rest (last_end_range + (count : Int) * 256) with
    | none =>
      rw [hcode] at h
      simp [hdata] at h
    | some later =>
      rw [hcode] at h
      simp only [hdata, Option.bind_eq_bind, Option.bind_some, Option.pure_def,
        Option.some.injEq] at h
      obtain ⟨hlength, hsorted⟩ := hrest later hdata
      subst h
      refine ⟨congrArg (· + 1) hlength, List.pairwise_cons.mpr ⟨?_, hsorted⟩⟩
      intro bound hbound
      have hstart : last_end_range ≤ last_end_range + (count : Int) * 256 := by omega
      rcases List.mem_cons.mp hbound with rfl | hbound
      · exact hstart
      · exact Int.le_trans hstart (List.rel_of_pairwise_cons hsorted hbound)

theorem blocks_lt (n2 n3 n4 : UInt8) :
    n2.toNat ||| n3.toNat <<< 8 < 2 ^ 24 ∧
      n2.toNat ||| n3.toNat <<< 8 ||| n4.toNat <<< 16 < 2 ^ 24 := by
  have h2 : n2.toNat < 2 ^ 24 := Nat.lt_trans n2.toNat_lt (by decide)
  have h3 : n3.toNat <<< 8 < 2 ^ 24 := by
    rw [Nat.shiftLeft_eq]
    have := n3.toNat_lt
    omega
  have h4 : n4.toNat <<< 16 < 2 ^ 24 := by
    rw [Nat.shiftLeft_eq]
    have := n4.toNat_lt
    omega
  exact ⟨Nat.or_lt_two_pow h2 h3, Nat.or_lt_two_pow (Nat.or_lt_two_pow h2 h3) h4⟩

/-- A table of bytes that are not too many for its ends has as many codes as ranges, and its ends
do not decrease. -/
theorem read_ranges_goes_on {last_end_range : Int} {bytes : List UInt8} {data : CountryLookupData}
    (hpos : 0 ≤ last_end_range) (hfits : last_end_range + (bytes.length : Int) * 2 ^ 32 < 2 ^ 63)
    (h : read_ranges overflow_checks raw_code_lookup last_end_range bytes = some data) :
    GoesOn last_end_range data := by
  fun_induction read_ranges overflow_checks raw_code_lookup last_end_range bytes
    generalizing data with
  | case1 last_end_range n1 n2 htwo n3 cc bytes ih =>
    have hcount := (blocks_lt n2 n3 0).1
    simp only [List.length_cons] at hfits
    exact push_range_goes_on (by omega) (fun _ => ih _ (by omega) (by omega)) h
  | case2 => cases h
  | case3 last_end_range n1 n2 _ hthree n3 n4 cc bytes ih =>
    have hcount := (blocks_lt n2 n3 n4).2
    simp only [List.length_cons] at hfits
    exact push_range_goes_on (by omega) (fun _ => ih _ (by omega) (by omega)) h
  | case4 => cases h
  | case5 last_end_range n1 n2 bytes _ _ ih =>
    have hcount : (if n1.toNat < 240 then n1.toNat else 0) < 240 := by
      split
      · assumption
      · decide
    simp only [List.length_cons] at hfits
    exact push_range_goes_on (by omega) (fun _ => ih _ (by omega) (by omega)) h
  | case6 bytes last_end_range =>
    cases h
    exact ⟨rfl, List.pairwise_singleton _ _⟩

end

/-- A table that covers all the addresses, as the loader makes one. -/
structure CountryTable extends CountryLookupData where
  same_length : country_codes.length = ip_ranges.length
  sorted : ip_ranges.Pairwise (· ≤ ·)
  covers : 2 ^ 32 ≤ ip_ranges.getLast?.getD 0

theorem read_codes_length {bytes : List UInt8} {codes : List String} {rest : List UInt8}
    (h : read_codes bytes = some (codes, rest)) : rest.length ≤ bytes.length := by
  fun_induction read_codes bytes generalizing codes with
  | case1 =>
    cases h
    exact Nat.le_refl _
  | case2 => cases h
  | case3 c1 c2 bytes code =>
    cases h
    simp only [List.length_cons]
    omega
  | case4 c1 c2 bytes code hstar =>
    rename_i ih
    obtain ⟨⟨codes', rest'⟩, hrest, heq⟩ := Option.map_eq_some_iff.mp h
    cases heq
    have hle : rest'.length ≤ bytes.length := ih hrest
    simp only [List.length_cons]
    omega

/-- What the loader makes of any bytes is a table, if its last range goes far enough. -/
theorem loaded_table {overflow_checks : Bool} {bytes : List UInt8} {data : CountryLookupData}
    (hlength : bytes.length < 2 ^ 30) (h : load_country_lookup overflow_checks bytes = some data)
    (hcovers : 2 ^ 32 ≤ data.ip_ranges.getLast?.getD 0) :
    ∃ table : CountryTable, table.toCountryLookupData = data := by
  unfold load_country_lookup at h
  obtain ⟨⟨codes, rest⟩, hcodes, hranges⟩ := Option.bind_eq_some_iff.mp h
  have hrest := read_codes_length hcodes
  obtain ⟨hsame, hsorted⟩ := read_ranges_goes_on (Int.le_refl 0) (by omega) hranges
  exact ⟨⟨data, hsame, hsorted.of_cons, hcovers⟩, rfl⟩

/-! ## The search in a table -/

/-- The search comes to the place where the ends become greater than the address. -/
theorem search_spec {ip_ranges : List Int} (hsorted : ip_ranges.Pairwise (· ≤ ·)) (value : Int)
    {min max : Nat} (hmax : max ≤ ip_ranges.length) (hle : min ≤ max)
    (hbelow : ∀ i (hi : i < ip_ranges.length), i < min → ip_ranges[i] ≤ value)
    (habove : ∀ i (hi : i < ip_ranges.length), max ≤ i → value < ip_ranges[i]) :
    search ip_ranges value min max hmax ≤ ip_ranges.length ∧
      ∀ i (hi : i < ip_ranges.length),
        ip_ranges[i] ≤ value ↔ i < search ip_ranges value min max hmax := by
  fun_induction search ip_ranges value min max hmax with
  | case1 min max hmax hlt mid hmid hend ih =>
    apply ih hmid
    · intro i hi hbefore
      rcases Nat.lt_or_eq_of_le (Nat.le_of_lt_succ hbefore) with hbefore | rfl
      · exact Int.le_trans (List.pairwise_iff_getElem.mp hsorted i mid hi (by omega) hbefore) hend
      · exact hend
    · exact habove
  | case2 min max hmax hlt mid hmid hend ih =>
    apply ih (by omega) hbelow
    intro i hi hafter
    rcases Nat.lt_or_eq_of_le hafter with hafter | rfl
    · have := List.pairwise_iff_getElem.mp hsorted mid i (by omega) hi hafter
      omega
    · omega
  | case3 min max hmax hge =>
    refine ⟨by omega, ?_⟩
    intro i hi
    constructor
    · intro hend
      by_contra hafter
      have := habove i hi (by omega)
      omega
    · exact hbelow i hi


namespace CountryTable

variable (table : CountryTable)

/-- The end of the last range. -/
def last : Int := table.ip_ranges.getLast?.getD 0

/-- The end of the range before. -/
def start (i : Nat) : Int := (0 :: table.ip_ranges).getD i 0

/-- The address is in the half-open range. -/
def Contains (i : Nat) (address : Int) : Prop :=
  ∃ h : i < table.ip_ranges.length, table.start i ≤ address ∧ address < table.ip_ranges[i]

/-- What is said of the addresses of a range. -/
def country (i : Nat) : Option String :=
  (table.country_codes[i]?).filter fun cc => cc ≠ "--"

theorem binary_search_spec (value : Int) :
    binary_search value table.toCountryLookupData ≤ table.ip_ranges.length ∧
      ∀ i (hi : i < table.ip_ranges.length),
        table.ip_ranges[i] ≤ value ↔ i < binary_search value table.toCountryLookupData := by
  apply search_spec table.sorted value (Nat.le_refl _) (Nat.zero_le _)
  · intro i _ hlt
    exact absurd hlt (Nat.not_lt_zero i)
  · intro i hi hle
    exact absurd hi (Nat.not_lt.mpr hle)

theorem last_eq : ∃ h : 0 < table.ip_ranges.length,
    table.last = table.ip_ranges[table.ip_ranges.length - 1] := by
  have hcovers := table.covers
  unfold last
  rw [List.getLast?_eq_getElem?] at hcovers ⊢
  by_cases hpos : 0 < table.ip_ranges.length
  · refine ⟨hpos, ?_⟩
    rw [List.getElem?_eq_getElem (by omega), Option.getD_some]
  · rw [List.getElem?_eq_none (by omega)] at hcovers
    exact absurd hcovers (by decide)

/-- The search stays in the table just when the value is below the last end. -/
theorem search_in_table_iff (value : Int) :
    binary_search value table.toCountryLookupData < table.ip_ranges.length ↔
      value < table.last := by
  obtain ⟨hpos, hlast⟩ := table.last_eq
  obtain ⟨hle, hspec⟩ := table.binary_search_spec value
  have hend := hspec (table.ip_ranges.length - 1) (by omega)
  rw [hlast]
  omega

theorem start_succ {i : Nat} (hi : i < table.ip_ranges.length) :
    table.start (i + 1) = table.ip_ranges[i] := by
  unfold start
  rw [List.getD_cons_succ, List.getD_eq_getElem?_getD, List.getElem?_eq_getElem hi,
    Option.getD_some]

/-- The search finds the one range that an address is in. -/
theorem contains_iff {address : Int} (hpos : 0 ≤ address) (i : Nat) :
    table.Contains i address ↔
      i = binary_search address table.toCountryLookupData ∧ i < table.ip_ranges.length := by
  obtain ⟨-, hspec⟩ := table.binary_search_spec address
  constructor
  · rintro ⟨hi, hstart, hend⟩
    refine ⟨?_, hi⟩
    have hbelow := hspec i hi
    cases i with
    | zero => omega
    | succ i =>
      have habove := hspec i (by omega)
      rw [table.start_succ (by omega)] at hstart
      omega
  · rintro ⟨hindex, hi⟩
    have hend := hspec i hi
    refine ⟨hi, ?_, by omega⟩
    cases i with
    | zero => exact hpos
    | succ i =>
      rw [table.start_succ (by omega)]
      exact (hspec i (by omega)).mpr (by omega)

/-- In the table, the search of a number gives the code of its range. Past the table it panics. -/
theorem lookup_numeric_eq (value : Int) :
    lookup_numeric value table.toCountryLookupData =
      if value < table.last then
        .returned (table.country (binary_search value table.toCountryLookupData))
      else .panicked := by
  have hindex := table.search_in_table_iff value
  rw [← table.same_length] at hindex
  unfold lookup_numeric country
  by_cases hvalue : value < table.last
  · rw [if_pos hvalue]
    have hlt := hindex.mpr hvalue
    cases hget : table.country_codes[binary_search value table.toCountryLookupData]? with
    | none =>
      rw [List.getElem?_eq_none_iff] at hget
      omega
    | some code => by_cases hcode : code = "--" <;> simp [hcode, Option.filter]
  · rw [if_neg hvalue, List.getElem?_eq_none (by omega)]

end CountryTable

/-! ## The addresses -/

/-- The four numbers of an address. -/
def octets (ip_address : String) : Option (Int × Int × Int × Int) :=
  match ip_address.toList.splitOn '.' with
  | [part0, part1, part2, part3] => do
    let n0 ← parse_i64 part0
    let n1 ← parse_i64 part1
    let n2 ← parse_i64 part2
    let n3 ← parse_i64 part3
    return (n0, n1, n2, n3)
  | _ => none

theorem lookup_eq (overflow_checks : Bool) (ip_address : String) (data : CountryLookupData) :
    lookup overflow_checks ip_address (some data) =
      match octets ip_address with
      | none => .returned none
      | some (n0, n1, n2, n3) =>
        match ip_number overflow_checks n0 n1 n2 n3 with
        | none => .panicked
        | some ip_number => lookup_numeric ip_number data := by
  unfold lookup octets
  split
  · rename_i part0 part1 part2 part3 _
    dsimp only
    cases parse_i64 part0 with
    | none => rfl
    | some n0 =>
      cases parse_i64 part1 with
      | none => rfl
      | some n1 =>
        cases parse_i64 part2 with
        | none => rfl
        | some n2 =>
          cases parse_i64 part3 with
          | none => rfl
          | some n3 => rfl
  · rfl

/-- The number that the code makes of four numbers, without the overflows. -/
def number_of (n0 n1 n2 n3 : Int) : Int :=
  n0 * 256 ^ 3 + shl_i64 n1 16 + shl_i64 n2 8 + n3

/-- The product and the sums of `lookup` fit in an `i64`. -/
def Fit (n0 n1 n2 n3 : Int) : Prop :=
  ∀ sum ∈ [n0 * 256 ^ 3, n0 * 256 ^ 3 + shl_i64 n1 16,
      n0 * 256 ^ 3 + shl_i64 n1 16 + shl_i64 n2 8, number_of n0 n1 n2 n3],
    -2 ^ 63 ≤ sum ∧ sum < 2 ^ 63

theorem ip_number_of_fit {n0 n1 n2 n3 : Int} (h : Fit n0 n1 n2 n3) (overflow_checks : Bool) :
    ip_number overflow_checks n0 n1 n2 n3 = some (number_of n0 n1 n2 n3) := by
  simp only [Fit, List.forall_mem_cons] at h
  obtain ⟨hhigh, hsum1, hsum2, hsum3, -⟩ := h
  simp only [ip_number, Option.bind_eq_bind]
  rw [arith_i64_of_fits hhigh.1 hhigh.2, Option.bind_some,
    arith_i64_of_fits hsum1.1 hsum1.2, Option.bind_some,
    arith_i64_of_fits hsum2.1 hsum2.2, Option.bind_some]
  exact arith_i64_of_fits hsum3.1 hsum3.2

/-- Overflow checks find each overflow. -/
theorem fit_of_ip_number {n0 n1 n2 n3 n : Int} (h : ip_number true n0 n1 n2 n3 = some n) :
    Fit n0 n1 n2 n3 := by
  simp only [ip_number, Option.bind_eq_bind, Option.bind_eq_some_iff, arith_i64_checked] at h
  obtain ⟨_, ⟨hhigh, rfl⟩, _, ⟨hsum1, rfl⟩, _, ⟨hsum2, rfl⟩, hsum3, -⟩ := h
  simp only [Fit, List.forall_mem_cons]
  exact ⟨hhigh, hsum1, hsum2, hsum3, fun _ hnil => absurd hnil List.not_mem_nil⟩

/-- One of the four numbers of a dotted quad. -/
def IsOctet (n : Int) : Prop := 0 ≤ n ∧ n ≤ 255

theorem shl_octet {n : Int} (h : IsOctet n) :
    shl_i64 n 16 = n * 2 ^ 16 ∧ shl_i64 n 8 = n * 2 ^ 8 := by
  obtain ⟨hlow, hhigh⟩ := h
  unfold shl_i64 wrap_i64
  constructor
  · exact Int.bmod_eq_of_le (by omega) (by omega)
  · exact Int.bmod_eq_of_le (by omega) (by omega)

/-- The number of a dotted quad is its address, and there is no overflow on the way. -/
theorem number_of_quad {n0 n1 n2 n3 : Int} (h0 : IsOctet n0) (h1 : IsOctet n1) (h2 : IsOctet n2)
    (h3 : IsOctet n3) :
    number_of n0 n1 n2 n3 = n0 * 2 ^ 24 + n1 * 2 ^ 16 + n2 * 2 ^ 8 + n3 ∧ Fit n0 n1 n2 n3 := by
  simp only [Fit, number_of, (shl_octet h1).1, (shl_octet h2).2, List.forall_mem_cons]
  unfold IsOctet at *
  refine ⟨rfl, ?_, ?_, ?_, ?_, fun _ hnil => absurd hnil List.not_mem_nil⟩
  · omega
  · omega
  · omega
  · omega

section Claims

variable (table : CountryTable) (ip_address : String)

/-- A lookup that comes to a number in the table says what its range says. Else it panics. -/
theorem lookup_of_fit {n0 n1 n2 n3 : Int} (hoctets : octets ip_address = some (n0, n1, n2, n3))
    (hfit : Fit n0 n1 n2 n3) (overflow_checks : Bool) :
    lookup overflow_checks ip_address (some table.toCountryLookupData) =
      if number_of n0 n1 n2 n3 < table.last then
        .returned (table.country
          (binary_search (number_of n0 n1 n2 n3) table.toCountryLookupData))
      else .panicked := by
  rw [lookup_eq, hoctets]
  dsimp only
  rw [ip_number_of_fit hfit]
  exact table.lookup_numeric_eq _

theorem lookup_of_overflow {n0 n1 n2 n3 : Int}
    (hoctets : octets ip_address = some (n0, n1, n2, n3)) (hfit : ¬ Fit n0 n1 n2 n3) :
    lookup true ip_address (some table.toCountryLookupData) = .panicked := by
  rw [lookup_eq, hoctets]
  dsimp only
  cases hnumber : ip_number true n0 n1 n2 n3 with
  | none => rfl
  | some n => exact absurd (fit_of_ip_number hnumber) hfit

/-- A dotted quad is in one range, and the lookup says what the range says. -/
theorem quad_is_exact {n0 n1 n2 n3 : Int} (hoctets : octets ip_address = some (n0, n1, n2, n3))
    (h0 : IsOctet n0) (h1 : IsOctet n1) (h2 : IsOctet n2) (h3 : IsOctet n3) :
    ∃ i, table.Contains i (n0 * 2 ^ 24 + n1 * 2 ^ 16 + n2 * 2 ^ 8 + n3) ∧
      (∀ j, table.Contains j (n0 * 2 ^ 24 + n1 * 2 ^ 16 + n2 * 2 ^ 8 + n3) → j = i) ∧
      ∀ overflow_checks, lookup overflow_checks ip_address (some table.toCountryLookupData) =
        .returned (table.country i) := by
  obtain ⟨hnumber, hfit⟩ := number_of_quad h0 h1 h2 h3
  have hlookup := lookup_of_fit table ip_address hoctets hfit
  rw [hnumber] at hlookup
  have hcovers : 2 ^ 32 ≤ table.last := table.covers
  unfold IsOctet at h0 h1 h2 h3
  have hpos : 0 ≤ n0 * 2 ^ 24 + n1 * 2 ^ 16 + n2 * 2 ^ 8 + n3 := by omega
  have hlast : n0 * 2 ^ 24 + n1 * 2 ^ 16 + n2 * 2 ^ 8 + n3 < table.last := by omega
  refine ⟨_, (table.contains_iff hpos _).mpr ⟨rfl, (table.search_in_table_iff _).mpr hlast⟩, ?_, ?_⟩
  · intro j hj
    exact ((table.contains_iff hpos j).mp hj).1
  · intro overflow_checks
    rw [hlookup, if_pos hlast]

/-- A lookup neither panics nor overflows, and is exact on the dotted quads: just when four numbers
fit, and their number is before the end of the last range. -/
theorem lookup_is_total_and_exact_iff :
    ((∀ overflow_checks,
        lookup overflow_checks ip_address (some table.toCountryLookupData) ≠ .panicked) ∧
      ∀ n0 n1 n2 n3, octets ip_address = some (n0, n1, n2, n3) →
        IsOctet n0 → IsOctet n1 → IsOctet n2 → IsOctet n3 →
        ∃ i, table.Contains i (n0 * 2 ^ 24 + n1 * 2 ^ 16 + n2 * 2 ^ 8 + n3) ∧
          (∀ j, table.Contains j (n0 * 2 ^ 24 + n1 * 2 ^ 16 + n2 * 2 ^ 8 + n3) → j = i) ∧
          ∀ overflow_checks, lookup overflow_checks ip_address (some table.toCountryLookupData) =
            .returned (table.country i)) ↔
      ∀ n0 n1 n2 n3, octets ip_address = some (n0, n1, n2, n3) →
        Fit n0 n1 n2 n3 ∧ number_of n0 n1 n2 n3 < table.last := by
  constructor
  · rintro ⟨hsafe, -⟩ n0 n1 n2 n3 hoctets
    by_cases hfit : Fit n0 n1 n2 n3
    · refine ⟨hfit, ?_⟩
      by_contra hlast
      apply hsafe true
      rw [lookup_of_fit table ip_address hoctets hfit, if_neg hlast]
    · exact absurd (lookup_of_overflow table ip_address hoctets hfit) (hsafe true)
  · intro hfits
    refine ⟨?_, fun n0 n1 n2 n3 => quad_is_exact table ip_address⟩
    intro overflow_checks
    cases hoctets : octets ip_address with
    | none =>
      rw [lookup_eq, hoctets]
      simp
    | some quad =>
      obtain ⟨n0, n1, n2, n3⟩ := quad
      obtain ⟨hfit, hlast⟩ := hfits n0 n1 n2 n3 hoctets
      rw [lookup_of_fit table ip_address hoctets hfit, if_pos hlast]
      simp

end Claims

/-- Two codes, and two ranges that cover the addresses. -/
def small_table : List UInt8 := [85, 83, 42, 42, 243, 255, 255, 255, 0, 1, 1]

/-- A first number of more than one byte is past the end of the table. -/
theorem large_octet_panics :
    ¬ ∀ (table : CountryTable) (ip_address : String) (overflow_checks : Bool),
      lookup overflow_checks ip_address (some table.toCountryLookupData) ≠ .panicked := by
  intro hsafe
  have hload : load_country_lookup false small_table =
      some ⟨["US", "**"], [4294967040, 4294967296]⟩ := by decide
  obtain ⟨table, htable⟩ := loaded_table (by decide) hload (by decide)
  apply hsafe table "999.0.0.0" false
  have hoctets : octets "999.0.0.0" = some (999, 0, 0, 0) := by decide
  have hfit : Fit 999 0 0 0 := by
    unfold Fit number_of shl_i64 wrap_i64
    decide
  rw [lookup_of_fit table _ hoctets hfit, CountryTable.last, htable]
  exact if_neg (by decide)

end statsig_rust.evaluation.country_lookup
