-- The order of versions. The loop of `compare_versions_impl` over two lists of parts decides the
-- lexicographic order of their numbers, the shorter list padded with zeros.
import StatsigCore.Comparisons.Operators
import StatsigCore.Library.PaddedLex

open statsig_rust (DynamicString)
open statsig_ffi

namespace comparisons

/-! ## The loop over the parts -/

/-- Each of the parts is a number. -/
def Parse (parts : List (List Char)) : Prop := ∀ part ∈ parts, (parse_i128 (trim part)).isSome

def numbers (parts : List (List Char)) : List Int :=
  parts.map fun part => (parse_i128 (trim part)).getD 0

/-- As long as one side has a part, there is one more turn. -/
theorem paired_parts_cons {left right : List (List Char)} (h : left ≠ [] ∨ right ≠ []) :
    paired_parts left right =
      (left.head?, right.head?) :: paired_parts left.tail right.tail := by
  have hrounds : max left.length right.length = max left.tail.length right.tail.length + 1 := by
    have hpos : 0 < max left.length right.length := by
      rcases h with h | h
      · exact Nat.lt_of_lt_of_le (List.length_pos_iff.mpr h) (Nat.le_max_left _ _)
      · exact Nat.lt_of_lt_of_le (List.length_pos_iff.mpr h) (Nat.le_max_right _ _)
    rw [List.length_tail, List.length_tail]
    omega
  simp only [paired_parts, hrounds, List.range_succ_eq_map, List.map_cons, List.map_map]
  congr 1
  · simp [List.head?_eq_getElem?]
  · apply List.map_congr_left
    intro i _
    simp

theorem next_num_head {parts : List (List Char)} (h : Parse parts) :
    ∃ num, next_num parts.head? = some num ∧ num.getD 0 = (numbers parts).headD 0 := by
  cases parts with
  | nil => exact ⟨none, rfl, rfl⟩
  | cons part parts =>
    obtain ⟨n, hn⟩ := Option.isSome_iff_exists.mp (h part List.mem_cons_self)
    refine ⟨some n, ?_, ?_⟩
    · simp [next_num, hn]
    · simp [numbers, hn]

theorem Parse.tail {parts : List (List Char)} (h : Parse parts) : Parse parts.tail :=
  fun part hpart => h part (List.mem_of_mem_tail hpart)

theorem numbers_tail (parts : List (List Char)) : numbers parts.tail = (numbers parts).tail := by
  rw [numbers, numbers, List.map_tail]

/-- The verdict of the loop is one of three, each with the order that it stands for. -/
theorem compare_parts_cases {left right : List (List Char)} (hleft : Parse left)
    (hright : Parse right) :
    compare_parts (paired_parts left right) = some (-1) ∧
        padded.sequence (numbers left) < padded.sequence (numbers right) ∨
      compare_parts (paired_parts left right) = some 0 ∧
        padded.sequence (numbers left) = padded.sequence (numbers right) ∨
      compare_parts (paired_parts left right) = some 1 ∧
        padded.sequence (numbers right) < padded.sequence (numbers left) := by
  induction hn : max left.length right.length generalizing left right with
  | zero =>
    have hlengths : left.length = 0 ∧ right.length = 0 := by omega
    rw [List.eq_nil_of_length_eq_zero hlengths.1, List.eq_nil_of_length_eq_zero hlengths.2]
    exact .inr (.inl ⟨rfl, rfl⟩)
  | succ n ih =>
    have hone : left ≠ [] ∨ right ≠ [] := by
      by_contra hnone
      rw [not_or, not_not, not_not] at hnone
      rw [hnone.1, hnone.2] at hn
      simp at hn
    have hmax : max left.tail.length right.tail.length = n := by
      rw [List.length_tail, List.length_tail]
      omega
    obtain ⟨left_num, hleft_num, hleft_head⟩ := next_num_head hleft
    obtain ⟨right_num, hright_num, hright_head⟩ := next_num_head hright
    have hturn : compare_parts (paired_parts left right) =
        if (numbers left).headD 0 < (numbers right).headD 0 then some (-1)
        else if (numbers left).headD 0 > (numbers right).headD 0 then some 1
        else compare_parts (paired_parts left.tail right.tail) := by
      rw [paired_parts_cons hone, compare_parts, hleft_num, hright_num, ← hleft_head,
        ← hright_head]
      rfl
    simp only [hturn, padded.sequence_lt_iff (numbers left), padded.sequence_lt_iff (numbers right),
      padded.sequence_eq_iff (numbers left), ← numbers_tail]
    rcases lt_trichotomy ((numbers left).headD 0) ((numbers right).headD 0) with hlt | heq | hgt
    · rw [if_pos hlt]
      exact .inl ⟨rfl, .inl hlt⟩
    · rw [if_neg (by omega), if_neg (by omega)]
      rcases ih hleft.tail hright.tail hmax with ⟨h, horder⟩ | ⟨h, horder⟩ | ⟨h, horder⟩
      · exact .inl ⟨h, .inr ⟨heq, horder⟩⟩
      · exact .inr (.inl ⟨h, heq, horder⟩)
      · exact .inr (.inr ⟨h, .inr ⟨heq.symm, horder⟩⟩)
    · rw [if_neg (by omega), if_pos hgt]
      exact .inr (.inr ⟨rfl, .inl hgt⟩)

/-! ## Versions -/

/-- A text whose parts before the first dash are all numbers. -/
structure Version where
  text : String
  parses : Parse (version_parts text)

namespace Version

/-- What the order of versions looks at. -/
def key (v : Version) : Lex (ℕ → Int) := padded.sequence (numbers (version_parts v.text))

theorem compare_cases (a b : Version) :
    compare_versions_impl a.text b.text = some (-1) ∧ a.key < b.key ∨
      compare_versions_impl a.text b.text = some 0 ∧ a.key = b.key ∨
      compare_versions_impl a.text b.text = some 1 ∧ b.key < a.key :=
  compare_parts_cases a.parses b.parses

/-- The text with `.0` some times after its numbers, and with another suffix, if any. -/
def trailed_text (v : Version) (zeros : ℕ) (suffix : Option String) : List Char :=
  v.text.toList.takeWhile (· ≠ '-') ++ (List.replicate zeros ".0".toList).flatten ++
    match suffix with
    | some suffix => '-' :: suffix.toList
    | none => []

theorem takeWhile_trailed (v : Version) (zeros : ℕ) (suffix : Option String) :
    (v.trailed_text zeros suffix).takeWhile (· ≠ '-') =
      v.text.toList.takeWhile (· ≠ '-') ++ (List.replicate zeros ".0".toList).flatten := by
  have hnumbers : ∀ c ∈ v.text.toList.takeWhile (· ≠ '-') ++
      (List.replicate zeros ".0".toList).flatten, decide (c ≠ '-') = true := by
    intro c hc
    rcases List.mem_append.mp hc with hc | hc
    · exact List.all_eq_true.mp List.all_takeWhile c hc
    · obtain ⟨part, hpart, hc⟩ := List.mem_flatten.mp hc
      rw [List.eq_of_mem_replicate hpart] at hc
      have hdigits : (".0".toList.all fun c => decide (c ≠ '-')) = true := by decide
      exact List.all_eq_true.mp hdigits c hc
  unfold trailed_text
  rw [List.takeWhile_append_of_pos hnumbers]
  cases suffix with
  | some suffix => simp
  | none => simp

theorem splitOn_zeros (core : List Char) (zeros : ℕ) :
    (core ++ (List.replicate zeros ".0".toList).flatten).splitOn '.' =
      core.splitOn '.' ++ List.replicate zeros ['0'] := by
  induction zeros generalizing core with
  | zero => simp
  | succ zeros ih =>
    have hzero : core ++ (List.replicate (zeros + 1) ".0".toList).flatten =
        core ++ '.' :: (['0'] ++ (List.replicate zeros ".0".toList).flatten) := by
      rw [List.replicate_succ, List.flatten_cons]
      rfl
    have hpart : ['0'].splitOn '.' = [['0']] := rfl
    rw [hzero, List.splitOn_append_cons_self, ih, hpart, List.replicate_succ]
    rfl

theorem parts_trailed (v : Version) (zeros : ℕ) (suffix : Option String) :
    version_parts (String.ofList (v.trailed_text zeros suffix)) =
      version_parts v.text ++ List.replicate zeros ['0'] := by
  unfold version_parts
  rw [String.toList_ofList, takeWhile_trailed, splitOn_zeros]

theorem parse_zero : parse_i128 (trim ['0']) = some 0 := by decide

def trailed (v : Version) (zeros : ℕ) (suffix : Option String) : Version where
  text := String.ofList (v.trailed_text zeros suffix)
  parses := by
    rw [parts_trailed]
    intro part hpart
    rcases List.mem_append.mp hpart with hpart | hpart
    · exact v.parses part hpart
    · rw [List.eq_of_mem_replicate hpart, parse_zero]
      rfl

theorem key_trailed (v : Version) (zeros : ℕ) (suffix : Option String) :
    (v.trailed zeros suffix).key = v.key := by
  have hparts : version_parts (v.trailed zeros suffix).text =
      version_parts v.text ++ List.replicate zeros ['0'] := parts_trailed v zeros suffix
  unfold key
  rw [hparts, numbers, List.map_append, List.map_replicate, parse_zero]
  exact padded.sequence_append_zeros _ zeros

end Version

/-! ## The operators -/

/-- A version as a user's value and as a target hold it. -/
structure HeldVersion extends Version where
  value : DynamicValue
  target : MemoizedEvaluatorValue
  value_text : value.string_value.map DynamicString.value = some text
  target_text : target.string_value.map DynamicString.value = some text

namespace HeldVersion

/-- What a condition with the operator says of a user with one version and a target with
another. -/
def asks (op : String) (a b : HeldVersion) : Bool := compare_versions a.value b.target op

/-- The verdict of the loop, read by an operator. -/
theorem asks_of_verdict (a b : HeldVersion) {verdict : Int}
    (h : compare_versions_impl a.text b.text = some verdict) :
    asks "version_lt" a b = decide (verdict < 0) ∧ asks "version_eq" a b = decide (verdict = 0) ∧
      asks "version_gt" a b = decide (verdict > 0) ∧
      asks "version_lte" a b = decide (verdict ≤ 0) ∧
      asks "version_neq" a b = decide (verdict ≠ 0) ∧
      asks "version_gte" a b = decide (verdict ≥ 0) := by
  obtain ⟨left, hleft, hleft_text⟩ := Option.map_eq_some_iff.mp a.value_text
  obtain ⟨right, hright, hright_text⟩ := Option.map_eq_some_iff.mp b.target_text
  simp [asks, compare_versions, hleft, hright, hleft_text, hright_text, h]

/-- The three verdicts are the three cases of the order. -/
theorem asks_iff (a b : HeldVersion) :
    (asks "version_lt" a b = true ↔ a.key < b.key) ∧
      (asks "version_eq" a b = true ↔ a.key = b.key) ∧
      (asks "version_gt" a b = true ↔ b.key < a.key) := by
  rcases Version.compare_cases a.toVersion b.toVersion with ⟨h, horder⟩ | ⟨h, horder⟩ | ⟨h, horder⟩
  · obtain ⟨hlt, heq, hgt, -⟩ := asks_of_verdict a b h
    have hne : a.key ≠ b.key := ne_of_lt horder
    have hnot : ¬ b.key < a.key := lt_asymm horder
    simp [hlt, heq, hgt, horder, hne, hnot]
  · obtain ⟨hlt, heq, hgt, -⟩ := asks_of_verdict a b h
    have hnot : ¬ b.key < b.key := lt_irrefl _
    simp [hlt, heq, hgt, horder, hnot]
  · obtain ⟨hlt, heq, hgt, -⟩ := asks_of_verdict a b h
    have hne : a.key ≠ b.key := ne_of_gt horder
    have hnot : ¬ a.key < b.key := lt_asymm horder
    simp [hlt, heq, hgt, horder, hne, hnot]

/-- The other three operators say the contrary of the first three. -/
theorem asks_not (a b : HeldVersion) :
    asks "version_gte" a b = !asks "version_lt" a b ∧
      asks "version_lte" a b = !asks "version_gt" a b ∧
      asks "version_neq" a b = !asks "version_eq" a b := by
  rcases Version.compare_cases a.toVersion b.toVersion with ⟨h, -⟩ | ⟨h, -⟩ | ⟨h, -⟩
  all_goals
    obtain ⟨hlt, heq, hgt, hlte, hneq, hgte⟩ := asks_of_verdict a b h
    simp [hlt, heq, hgt, hlte, hneq, hgte]

theorem verdict_congr {a a' b b' : HeldVersion} (ha : a'.key = a.key) (hb : b'.key = b.key) :
    compare_versions_impl a'.text b'.text = compare_versions_impl a.text b.text := by
  rcases Version.compare_cases a.toVersion b.toVersion with ⟨h, horder⟩ | ⟨h, horder⟩ | ⟨h, horder⟩
  all_goals
    rw [← ha, ← hb] at horder
    rw [h]
    rcases Version.compare_cases a'.toVersion b'.toVersion with ⟨h', horder'⟩ | ⟨h', horder'⟩ |
      ⟨h', horder'⟩
  · exact h'
  · exact absurd horder' (ne_of_lt horder)
  · exact absurd horder' (lt_asymm horder)
  · exact absurd horder (ne_of_lt horder')
  · exact h'
  · exact absurd horder (ne_of_gt horder')
  · exact absurd horder' (lt_asymm horder)
  · exact absurd horder' (ne_of_gt horder)
  · exact h'

/-- The operators ask for nothing but the numbers. -/
theorem asks_congr (op : String) {a a' b b' : HeldVersion} (ha : a'.key = a.key)
    (hb : b'.key = b.key) : asks op a' b' = asks op a b := by
  obtain ⟨left, hleft, hleft_text⟩ := Option.map_eq_some_iff.mp a.value_text
  obtain ⟨right, hright, hright_text⟩ := Option.map_eq_some_iff.mp b.target_text
  obtain ⟨left', hleft', hleft_text'⟩ := Option.map_eq_some_iff.mp a'.value_text
  obtain ⟨right', hright', hright_text'⟩ := Option.map_eq_some_iff.mp b'.target_text
  have hverdict := verdict_congr ha hb
  simp [asks, compare_versions, hleft, hright, hleft_text, hright_text, hleft', hright',
    hleft_text', hright_text', hverdict]

/-- Versions are in a total order: `compare_versions_impl` decides the lexicographic order of their
numbers, and the operators are that order. -/
theorem versions_are_totally_ordered (a b c : HeldVersion) :
    ((compare_versions_impl a.text b.text = some (-1) ∧ a.key < b.key ∨
        compare_versions_impl a.text b.text = some 0 ∧ a.key = b.key ∨
        compare_versions_impl a.text b.text = some 1 ∧ b.key < a.key) ∧
      [asks "version_lt" a b, asks "version_eq" a b, asks "version_gt" a b].count true = 1 ∧
      asks "version_lt" a b = asks "version_gt" b a) ∧
    ((asks "version_lt" a b = true → asks "version_lt" b c = true → asks "version_lt" a c = true) ∧
      (asks "version_eq" a b = true → asks "version_eq" b c = true →
        asks "version_eq" a c = true)) ∧
    (asks "version_gte" a b = !asks "version_lt" a b ∧
      asks "version_lte" a b = !asks "version_gt" a b ∧
      asks "version_neq" a b = !asks "version_eq" a b) ∧
    ∀ (zeros : ℕ) (suffix : Option String), a.toVersion = b.toVersion.trailed zeros suffix →
      ∀ op, asks op a c = asks op b c ∧ asks op c a = asks op c b := by
  obtain ⟨hlt, heq, hgt⟩ := asks_iff a b
  obtain ⟨hlt', heq', hgt'⟩ := asks_iff b a
  obtain ⟨hlt_bc, heq_bc, -⟩ := asks_iff b c
  obtain ⟨hlt_ac, heq_ac, -⟩ := asks_iff a c
  have hcases := Version.compare_cases a.toVersion b.toVersion
  refine ⟨⟨hcases, ?_, ?_⟩, ⟨?_, ?_⟩, asks_not a b, ?_⟩
  · rcases hcases with ⟨h, -⟩ | ⟨h, -⟩ | ⟨h, -⟩
    all_goals
      obtain ⟨hlt, heq, hgt, -⟩ := asks_of_verdict a b h
      simp [hlt, heq, hgt]
  · rw [Bool.eq_iff_iff, hlt, hgt']
  · intro hab hbc
    exact hlt_ac.mpr (lt_trans (hlt.mp hab) (hlt_bc.mp hbc))
  · intro hab hbc
    exact heq_ac.mpr ((heq.mp hab).trans (heq_bc.mp hbc))
  · intro zeros suffix htrailed op
    have hkey : a.key = b.key := by
      rw [htrailed, Version.key_trailed]
    exact ⟨asks_congr op hkey rfl, asks_congr op rfl hkey⟩

/-- A version as a plain text. -/
def of_text (text : String) (parses : Parse (version_parts text)) : HeldVersion where
  text := text
  parses := parses
  value := { string_value := some ⟨text, text⟩ }
  target := { value_type := .String, string_value := some ⟨text, text⟩ }
  value_text := rfl
  target_text := rfl

def two : HeldVersion := of_text "1.2" (by unfold Parse; decide)

def two_zero_beta : HeldVersion := of_text "1.2.0-beta" (by unfold Parse; decide)

def ten : HeldVersion := of_text "1.10" (by unfold Parse; decide)

theorem beta_is_in_the_order :
    asks "version_lt" two_zero_beta ten = asks "version_gt" ten two_zero_beta ∧
      ∀ op, asks op two_zero_beta ten = asks op two ten := by
  have htrailed : two_zero_beta.toVersion = two.toVersion.trailed 1 (some "beta") := by
    have htext : two_zero_beta.text = (two.toVersion.trailed 1 (some "beta")).text := by decide
    unfold two_zero_beta of_text at htext ⊢
    congr
  have hbelow := versions_are_totally_ordered two_zero_beta ten ten
  have hsame := versions_are_totally_ordered two_zero_beta two ten
  refine ⟨hbelow.1.2.2, ?_⟩
  intro op
  exact (hsame.2.2.2 1 (some "beta") htrailed op).1

end HeldVersion

end comparisons
