-- Timestamps: the parser of the users' values (`evaluation/dynamic_value.rs`) beside the one of
-- the targets (`evaluation/evaluator_value.rs`), and the comparison of two times
-- (`evaluation/comparisons/compare_time.rs`).
import Mathlib.Algebra.Order.Group.Unbundled.Int
import StatsigCore.Comparisons.TargetValues

open statsig_ffi

namespace comparisons

open MemoizedEvaluatorValue (from_string)

variable (std : Std)

/-! ## The two parsers -/

/-- What the users' parser does not reject at once: the length of a date, and one of its
delimiters. -/
def MayBeDate (s : String) : Prop :=
  8 ≤ s.utf8ByteSize ∧ s.utf8ByteSize ≤ 20 ∧ ('-' ∈ s.toList ∨ 'T' ∈ s.toList ∨ ':' ∈ s.toList)

theorem try_parse_timestamp_of_date {s : String} (h : MayBeDate s) :
    statsig_ffi.try_parse_timestamp std s = MemoizedEvaluatorValue.try_parse_timestamp std s := by
  obtain ⟨hshort, hlong, hdelimiter⟩ := h
  unfold statsig_ffi.try_parse_timestamp MemoizedEvaluatorValue.try_parse_timestamp
  have hlet : ¬ (s.utf8ByteSize < 8 ∨ s.utf8ByteSize > 20 ∨
      ('-' ∉ s.toList ∧ 'T' ∉ s.toList ∧ ':' ∉ s.toList)) := by
    rintro (hlt | hgt | ⟨hdash, hT, hcolon⟩)
    · omega
    · omega
    · rcases hdelimiter with h | h | h
      · exact hdash h
      · exact hT h
      · exact hcolon h
  cases std.parse_i64 s with
  | none => exact if_neg hlet
  | some ts => rfl

theorem try_parse_timestamp_rejects {s : String} (h : ¬ MayBeDate s)
    (hint : std.parse_i64 s = none) : statsig_ffi.try_parse_timestamp std s = none := by
  unfold statsig_ffi.try_parse_timestamp
  rw [hint]
  apply if_pos
  by_contra hno
  apply h
  simp only [not_or, not_and, Classical.not_not] at hno
  obtain ⟨hshort, hlong, hdelimiter⟩ := hno
  refine ⟨by omega, by omega, ?_⟩
  by_cases hdash : '-' ∈ s.toList
  · exact .inl hdash
  · by_cases hT : 'T' ∈ s.toList
    · exact .inr (.inl hT)
    · exact .inr (.inr (hdelimiter hdash hT))

/-- The fast reject is exact on the integers, on the texts that it lets through, and on those
that no parser accepts. -/
theorem timestamp_parsers_agree_iff (s : String) :
    statsig_ffi.try_parse_timestamp std s = MemoizedEvaluatorValue.try_parse_timestamp std s ↔
      (std.parse_i64 s).isSome ∨ MayBeDate s ∨
        (std.parse_from_rfc3339 s = none ∧ std.parse_naive_datetime s = none) := by
  by_cases hdate : MayBeDate s
  · simp [hdate, try_parse_timestamp_of_date std hdate]
  · cases hint : std.parse_i64 s with
    | some ts =>
      simp [statsig_ffi.try_parse_timestamp, MemoizedEvaluatorValue.try_parse_timestamp, hint]
    | none =>
      rw [try_parse_timestamp_rejects std hdate hint]
      simp only [MemoizedEvaluatorValue.try_parse_timestamp, hint, Option.isSome_none, hdate,
        Bool.false_eq_true, false_or]
      rw [eq_comm, Option.or_eq_none_iff]

/-- A library that knows some dates, and no other text. -/
def calendar (dates : List (String × Int64)) : Std where
  to_lowercase s := String.ofList (s.toList.map Char.toLower)
  parse_i64 _ := none
  parse_f64 _ := none
  f64_to_string _ := "0"
  i64_as_f64 _ := 0
  u64_as_f64 _ := 0
  parse_from_rfc3339 s := dates.lookup s
  parse_naive_datetime _ := none
  json_to_string
    | .Bool b => toString b
    | _ => "[]"
  json_from_str _ := none

/-- A date with milliseconds is a date for the targets only. -/
theorem milliseconds_are_rejected : ¬ ∀ (std : Std) (s : String),
    statsig_ffi.try_parse_timestamp std s = MemoizedEvaluatorValue.try_parse_timestamp std s := by
  intro h
  have hagree := h (calendar [("2023-01-01T12:00:00.000Z", 1672574400000)])
    "2023-01-01T12:00:00.000Z"
  revert hagree
  decide +kernel

/-! ## The comparison of two times -/

/-- `i64::abs`. The absolute value of the least number is none of them: with overflow checks
the call panics, and without them it is the number itself. -/
def abs (overflow_checks : Bool) (n : Int64) : Option Int64 :=
  if n = Int64.minValue then if overflow_checks then none else some n
  else some (if n < 0 then -n else n)

def saturating_mul (n m : Int64) : Int64 :=
  Int64.ofInt (max (-2 ^ 63) (min (n.toInt * m.toInt) (2 ^ 63 - 1)))

def to_millis (overflow_checks : Bool) (ts : Int64) : Option Int64 :=
  (abs overflow_checks ts).map fun digits =>
    if digits < 10000000000 then saturating_mul ts 1000 else ts

/-- `Duration::milliseconds(ms).num_days()`. The duration of the least number is out of
bounds, and the days are cut off towards zero. -/
def num_days (ms : Int64) : Option Int :=
  if ms = Int64.minValue then none else some (ms.toInt.tdiv 86400000)

def compare_instants (left_ts right_ts : Int64) : String → Option Bool
  | "before" => some (left_ts < right_ts)
  | "after" => some (left_ts > right_ts)
  | "on" => do
    let left_days ← num_days left_ts
    let right_days ← num_days right_ts
    return left_days == right_days
  | _ => some false

/-- `none` when the comparison panics. -/
def compare_time (overflow_checks : Bool) (left : DynamicValue) (right : MemoizedEvaluatorValue)
    (op : String) : Option Bool :=
  match left.timestamp_value.or left.int_value with
  | none => some false
  | some raw_left_ts =>
    (to_millis overflow_checks raw_left_ts).bind fun left_ts =>
      match right.timestamp_value.or (right.float_value.map F64.as_i64) with
      | none => some false
      | some right_ts => compare_instants left_ts right_ts op

/-! ## Instants -/

/-- `chrono` has no dates before its first one, or after its last one. -/
def InRange (a : Int64) : Prop := -8334601228800000 ≤ a.toInt ∧ a.toInt ≤ 8210266876799999

structure Chrono (std : Std) : Prop where
  rfc3339 : ∀ s a, std.parse_from_rfc3339 s = some a → InRange a
  naive_datetime : ∀ s a, std.parse_naive_datetime s = some a → InRange a

/-- Both parsers take the text for a date, and for the same instant. -/
structure Denotes (std : Std) (s : String) (a : Int64) : Prop where
  no_integer : std.parse_i64 s = none
  by_users : statsig_ffi.try_parse_timestamp std s = some a
  by_targets : MemoizedEvaluatorValue.try_parse_timestamp std s = some a

theorem Denotes.in_range {std : Std} {s : String} {a : Int64} (h : Denotes std s a)
    (hchrono : Chrono std) : InRange a := by
  have hparsed := h.by_targets
  simp only [MemoizedEvaluatorValue.try_parse_timestamp, h.no_integer] at hparsed
  rcases Option.or_eq_some_iff.mp hparsed with hdate | ⟨-, hdate⟩
  · exact hchrono.rfc3339 s a hdate
  · exact hchrono.naive_datetime s a hdate

/-- The instant that a user's date is taken for: the first and the last 115 days around the
epoch are taken for seconds. -/
def taken_for (a : Int) : Int := if |a| < 10000000000 then 1000 * a else a

theorem InRange.not_min {a : Int64} (h : InRange a) : a ≠ Int64.minValue := by
  rintro rfl
  have hlow := h.1
  rw [Int64.toInt_minValue] at hlow
  omega

theorem InRange.abs {a : Int64} (h : InRange a) (overflow_checks : Bool) :
    ∃ digits, comparisons.abs overflow_checks a = some digits ∧ digits.toInt = |a.toInt| := by
  obtain ⟨hlow, hhigh⟩ := id h
  unfold comparisons.abs
  rw [if_neg h.not_min]
  refine ⟨_, rfl, ?_⟩
  have hzero : (a < 0) ↔ a.toInt < 0 := Int64.lt_iff_toInt_lt
  by_cases hneg : a < 0
  · have hneg' := hzero.mp hneg
    rw [if_pos hneg, abs_of_neg hneg', Int64.toInt_neg]
    apply Int.bmod_eq_of_le
    · omega
    · omega
  · have hpos : ¬ a.toInt < 0 := fun hlt => hneg (hzero.mpr hlt)
    rw [if_neg hneg, abs_of_nonneg (by omega)]

theorem InRange.to_millis {a : Int64} (h : InRange a) (overflow_checks : Bool) :
    ∃ ts, comparisons.to_millis overflow_checks a = some ts ∧ ts.toInt = taken_for a.toInt := by
  obtain ⟨digits, habs, hdigits⟩ := h.abs overflow_checks
  unfold comparisons.to_millis taken_for
  rw [habs]
  refine ⟨_, rfl, ?_⟩
  dsimp only
  have hsmall : digits < 10000000000 ↔ |a.toInt| < 10000000000 := by
    rw [Int64.lt_iff_toInt_lt, hdigits]
    rfl
  by_cases hlt : |a.toInt| < 10000000000
  · rw [if_pos (hsmall.mpr hlt), if_pos hlt]
    obtain ⟨hlow, hhigh⟩ := abs_lt.mp hlt
    have hproduct : a.toInt * (1000 : Int64).toInt = 1000 * a.toInt := Int.mul_comm _ _
    unfold saturating_mul
    rw [hproduct, Int64.toInt_ofInt_of_le]
    · omega
    · omega
    · omega
  · rw [if_neg (fun hd => hlt (hsmall.mp hd)), if_neg hlt]

theorem taken_for_bounds {a : Int64} (h : InRange a) :
    -8334601228800000 ≤ taken_for a.toInt ∧ taken_for a.toInt ≤ 8210266876799999 := by
  unfold taken_for
  by_cases hlt : |a.toInt| < 10000000000
  · rw [if_pos hlt]
    obtain ⟨hlow, hhigh⟩ := abs_lt.mp hlt
    omega
  · rw [if_neg hlt]
    exact h

theorem num_days_of_ne {ms : Int64} (h : ms ≠ Int64.minValue) :
    num_days ms = some (ms.toInt.tdiv 86400000) := if_neg h

theorem tdiv_of_nonneg {a : Int} (h : 0 ≤ a) : a.tdiv 86400000 = a / 86400000 :=
  Int.tdiv_eq_ediv_of_nonneg h

/-- Before the epoch the days count back from it. -/
theorem tdiv_of_neg {a : Int} (h : a < 0) : a.tdiv 86400000 = -(-a / 86400000) := by
  rw [← Int.tdiv_eq_ediv_of_nonneg (by omega), Int.neg_tdiv, Int.neg_neg]

/-- The value of a comparison of two dates: it never panics. -/
theorem compare_dates {std : Std} (hchrono : Chrono std) {s t : String} {a b : Int64}
    (hs : Denotes std s a) (ht : Denotes std t b) (overflow_checks : Bool) :
    compare_time overflow_checks (.from_string std s) (from_string std t) "before" =
        some (decide (taken_for a.toInt < b.toInt)) ∧
      compare_time overflow_checks (.from_string std s) (from_string std t) "after" =
        some (decide (taken_for a.toInt > b.toInt)) ∧
      compare_time overflow_checks (.from_string std s) (from_string std t) "on" =
        some (decide ((taken_for a.toInt).tdiv 86400000 = b.toInt.tdiv 86400000)) := by
  have hrange := hs.in_range hchrono
  obtain ⟨ts, hts, hvalue⟩ := hrange.to_millis overflow_checks
  have hbounds := taken_for_bounds hrange
  have hmin : ts ≠ Int64.minValue := by
    rintro rfl
    rw [Int64.toInt_minValue] at hvalue
    omega
  have htime : ∀ op, compare_time overflow_checks (.from_string std s) (from_string std t) op =
      compare_instants ts b op := by
    intro op
    unfold compare_time
    simp only [DynamicValue.from_string, DynamicValue.from_json, from_string, hs.by_users,
      ht.by_targets, Option.some_or]
    rw [hts]
    rfl
  rw [htime, htime, htime]
  refine ⟨?_, ?_, ?_⟩
  · simp only [compare_instants, Int64.lt_iff_toInt_lt, hvalue]
  · simp only [compare_instants, gt_iff_lt, Int64.lt_iff_toInt_lt, hvalue]
  · simp only [compare_instants, num_days_of_ne hmin,
      num_days_of_ne (ht.in_range hchrono).not_min, hvalue]
    rfl

/-! ## What is chronological -/

/-- The target does not lie where the date and what it is taken for disagree on being earlier. -/
def BeforeKept (a b : Int) : Prop :=
  ¬ (a < b ∧ b ≤ taken_for a) ∧ ¬ (taken_for a < b ∧ b ≤ a)

def AfterKept (a b : Int) : Prop :=
  ¬ (a ≤ b ∧ b < taken_for a) ∧ ¬ (taken_for a ≤ b ∧ b < a)

/-- Where a date is taken for itself, the two days are the calendar's but for two dates before
the epoch, less than a day apart, one of which is a midnight. A date around the epoch is off
whenever the target is on its day, or on the day that it is taken for. -/
def DayKept (a b : Int) : Prop :=
  if 10000000000 ≤ |a| then
    ¬ (a < 0 ∧ b < 0 ∧ (86400000 ∣ a ↔ ¬ 86400000 ∣ b) ∧ |a - b| < 86400000)
  else if 86400 ≤ a then
    b / 86400000 ≠ a / 86400000 ∧ b / 86400000 ≠ 1000 * a / 86400000
  else if 0 ≤ a then b ≤ -86400000 ∨ 0 ≤ b
  else if -86400 < a then b ≠ -86400000 ∧ ¬ (0 ≤ b ∧ b < 86400000)
  else (b / 86400000 ≠ a / 86400000 ∧ -b / 86400000 ≠ -(1000 * a) / 86400000) ∨
    (b = -86400000 ∧ -172800 < a)

theorem before_kept_iff (a b : Int) : (taken_for a < b ↔ a < b) ↔ BeforeKept a b := by
  unfold BeforeKept
  omega

theorem after_kept_iff (a b : Int) : (taken_for a > b ↔ a > b) ↔ AfterKept a b := by
  unfold AfterKept
  omega

/-- Two dates that are taken for themselves. -/
theorem same_days_iff {a b : Int} (h : 10000000000 ≤ |a|) :
    (a.tdiv 86400000 = b.tdiv 86400000 ↔ a / 86400000 = b / 86400000) ↔
      ¬ (a < 0 ∧ b < 0 ∧ (86400000 ∣ a ↔ ¬ 86400000 ∣ b) ∧ |a - b| < 86400000) := by
  rw [abs_lt]
  rcases le_abs.mp h with hlate | hearly
  · rw [tdiv_of_nonneg (by omega)]
    by_cases hb : b < 0
    · rw [tdiv_of_neg hb]
      omega
    · rw [tdiv_of_nonneg (by omega)]
      omega
  · rw [tdiv_of_neg (by omega)]
    by_cases hb : b < 0
    · rw [tdiv_of_neg hb]
      omega
    · rw [tdiv_of_nonneg (by omega)]
      omega

theorem day_kept_iff (a b : Int) :
    ((taken_for a).tdiv 86400000 = b.tdiv 86400000 ↔ a / 86400000 = b / 86400000) ↔
      DayKept a b := by
  unfold DayKept taken_for
  by_cases hfar : 10000000000 ≤ |a|
  · rw [if_pos hfar, if_neg (by omega)]
    exact same_days_iff hfar
  · rw [if_neg hfar, if_pos (by omega)]
    obtain ⟨hlow, hhigh⟩ := abs_lt.mp (Int.not_le.mp hfar)
    by_cases hb : b < 0
    · rw [tdiv_of_neg hb]
      by_cases ha : a < 0
      · rw [tdiv_of_neg (by omega)]
        split_ifs <;> omega
      · rw [tdiv_of_nonneg (by omega)]
        split_ifs <;> omega
    · rw [tdiv_of_nonneg (a := b) (by omega)]
      by_cases ha : a < 0
      · rw [tdiv_of_neg (by omega)]
        split_ifs <;> omega
      · rw [tdiv_of_nonneg (by omega)]
        split_ifs <;> omega

theorem taken_for_eq_self_iff (a : Int) : taken_for a = a ↔ a = 0 ∨ 10000000000 ≤ |a| := by
  unfold taken_for
  split <;> omega

/-- Being earlier or later is kept for every target exactly where a date is taken for itself. -/
theorem order_kept_everywhere_iff (a : Int) :
    (∀ b, BeforeKept a b ∧ AfterKept a b) ↔ a = 0 ∨ 10000000000 ≤ |a| := by
  rw [← taken_for_eq_self_iff]
  unfold BeforeKept AfterKept
  constructor
  · intro h
    have hself := (h a).1
    have htaken := (h (taken_for a)).1
    omega
  · intro h b
    omega

/-- The day is kept for every target from the end of the first 115 days on. -/
theorem day_kept_everywhere_iff (a : Int) : (∀ b, DayKept a b) ↔ 10000000000 ≤ a := by
  constructor
  · intro h
    by_contra hlow
    unfold DayKept at h
    by_cases hearly : a ≤ -10000000000
    · have hfar : 10000000000 ≤ |a| := le_abs.mpr (.inr (by omega))
      -- the last midnight before the date, or the midnight before its own
      by_cases hmidnight : 86400000 ∣ a
      · have hb := h (a + 1)
        rw [if_pos hfar, abs_lt] at hb
        omega
      · have hb := h (a / 86400000 * 86400000)
        rw [if_pos hfar, abs_lt] at hb
        omega
    · have hnear : ¬ 10000000000 ≤ |a| := by
        rw [not_le, abs_lt]
        omega
      simp only [if_neg hnear] at h
      by_cases hfirst : 86400 ≤ a
      · have hb := h a
        rw [if_pos hfirst] at hb
        exact hb.1 rfl
      · simp only [if_neg hfirst] at h
        by_cases hpos : 0 ≤ a
        · have hb := h (-1)
          rw [if_pos hpos] at hb
          omega
        · simp only [if_neg hpos] at h
          by_cases hlast : -86400 < a
          · have hb := h 0
            rw [if_pos hlast] at hb
            omega
          · have hb := h a
            rw [if_neg hlast] at hb
            omega
  · intro h b
    unfold DayKept
    rw [if_pos (le_abs.mpr (.inl h))]
    omega

theorem some_decide_eq_iff {p q : Prop} [Decidable p] [Decidable q] :
    some (decide p) = some (decide q) ↔ (p ↔ q) := by
  rw [Option.some.injEq, decide_eq_decide]

/-- For two dates the comparison never panics, and this is when it is chronological. -/
theorem time_conditions_are_chronological_iff {std : Std} (hchrono : Chrono std) {s t : String}
    {a b : Int64} (hs : Denotes std s a) (ht : Denotes std t b) (overflow_checks : Bool) :
    (compare_time overflow_checks (.from_string std s) (from_string std t) "before" =
        some (decide (a.toInt < b.toInt)) ↔ BeforeKept a.toInt b.toInt) ∧
      (compare_time overflow_checks (.from_string std s) (from_string std t) "after" =
        some (decide (a.toInt > b.toInt)) ↔ AfterKept a.toInt b.toInt) ∧
      (compare_time overflow_checks (.from_string std s) (from_string std t) "on" =
        some (decide (a.toInt / 86400000 = b.toInt / 86400000)) ↔ DayKept a.toInt b.toInt) ∧
      ∀ op ∈ ["before", "after", "on"],
        compare_time overflow_checks (.from_string std s) (from_string std t) op ≠ none := by
  obtain ⟨hbefore, hafter, hon⟩ := compare_dates hchrono hs ht overflow_checks
  refine ⟨?_, ?_, ?_, ?_⟩
  · rw [hbefore, some_decide_eq_iff, before_kept_iff]
  · rw [hafter, some_decide_eq_iff, after_kept_iff]
  · rw [hon, some_decide_eq_iff, day_kept_iff]
  · intro op hop
    simp only [List.mem_cons, List.not_mem_nil, or_false] at hop
    rcases hop with rfl | rfl | rfl
    · rw [hbefore]
      simp
    · rw [hafter]
      simp
    · rw [hon]
      simp

/-- Two dates of our time, and the second and the third day after the epoch. -/
def four_dates : Std := calendar
  [("2023-01-01T12:00:00Z", 1672574400000), ("2023-01-02T00:00:00Z", 1672617600000),
    ("1970-01-02T00:00:00Z", 86400000), ("1970-01-03T00:00:00Z", 172800000)]

theorem four_dates_chrono : Chrono four_dates where
  rfc3339 := by
    intro s a h
    have hmem : (s, a) ∈ _ := statsig_rust.HashMap.mem_of_get h
    simp only [List.mem_cons, List.not_mem_nil, or_false, Prod.mk.injEq] at hmem
    unfold InRange
    rcases hmem with ⟨-, rfl⟩ | ⟨-, rfl⟩ | ⟨-, rfl⟩ | ⟨-, rfl⟩
    all_goals decide
  naive_datetime := by
    intro s a h
    cases h

theorem dates_of_our_time :
    compare_time true (.from_string four_dates "2023-01-01T12:00:00Z")
      (from_string four_dates "2023-01-02T00:00:00Z") "before" = some true := by
  have hs : Denotes four_dates "2023-01-01T12:00:00Z" 1672574400000 := by
    constructor <;> decide +kernel
  have ht : Denotes four_dates "2023-01-02T00:00:00Z" 1672617600000 := by
    constructor <;> decide +kernel
  exact (time_conditions_are_chronological_iff four_dates_chrono hs ht true).1.mpr
    (by unfold BeforeKept; decide +kernel)

/-- The second day after the epoch is taken for a day in 1972, which is after the third one. -/
theorem early_dates_are_out_of_order : ¬ ∀ (std : Std), Chrono std → ∀ (s t : String) (a b : Int64),
    Denotes std s a → Denotes std t b → ∀ overflow_checks,
      compare_time overflow_checks (.from_string std s) (from_string std t) "before" =
        some (decide (a.toInt < b.toInt)) := by
  intro h
  have hs : Denotes four_dates "1970-01-02T00:00:00Z" 86400000 := by
    constructor <;> decide +kernel
  have ht : Denotes four_dates "1970-01-03T00:00:00Z" 172800000 := by
    constructor <;> decide +kernel
  have hbefore := h four_dates four_dates_chrono _ _ _ _ hs ht true
  rw [(compare_dates four_dates_chrono hs ht true).1] at hbefore
  revert hbefore
  decide +kernel

end comparisons
