-- Base-128 varints: seven bits of the number in a byte, the lowest first, and the high bit
-- set on every byte but the last. The encoding of a number is its shortest varint, and a
-- reader takes any varint of at most `limit` bytes whose number fits in its word.
import Mathlib.Algebra.GroupWithZero.Nat
import Mathlib.Tactic.Common

namespace varint

/-- The shortest varint of a number. -/
def encode (n : Nat) : List UInt8 :=
  if n < 128 then [UInt8.ofNat n] else UInt8.ofNat (n % 128 + 128) :: encode (n / 128)
termination_by n
decreasing_by omega

/-- The number at the front of the bytes, and how many bytes it takes. A last byte that the
limit allows must be less than `top`. -/
def decode (top : Nat) : Nat → List UInt8 → Option (Nat × Nat)
  | 0, _ => none
  | _, [] => none
  | limit + 1, byte :: bytes =>
    if byte.toNat < 128 then
      if limit = 0 ∧ top ≤ byte.toNat then none else some (byte.toNat, 1)
    else (decode top limit bytes).map fun more =>
      (byte.toNat - 128 + 128 * more.1, more.2 + 1)

variable {top limit : Nat} {bytes : List UInt8}

theorem encode_small {n : Nat} (h : n < 128) : encode n = [UInt8.ofNat n] := by
  rw [encode, if_pos h]

theorem encode_ne_nil (n : Nat) : encode n ≠ [] := by
  unfold encode
  split
  · simp
  · simp

/-- A number takes a byte for each seven bits. -/
theorem encode_length_eq {n k : Nat} (hlow : k = 0 ∨ 128 ^ k ≤ n) (hhigh : n < 128 ^ (k + 1)) :
    (encode n).length = k + 1 := by
  induction k generalizing n with
  | zero => rw [encode_small (by simpa using hhigh), List.length_singleton]
  | succ k ih =>
    have hlow : 128 ^ k * 128 ≤ n := by
      rw [← Nat.pow_succ]
      exact hlow.resolve_left (Nat.succ_ne_zero k)
    have hpos : 1 ≤ 128 ^ k := Nat.one_le_pow _ _ (by decide)
    have hdiv : n / 128 < 128 ^ (k + 1) := by
      rw [Nat.div_lt_iff_lt_mul (by decide), ← Nat.pow_succ]
      exact hhigh
    rw [encode, if_neg (by omega), List.length_cons,
      ih (.inr ((Nat.le_div_iff_mul_le (by decide)).mpr hlow)) hdiv]

/-- Reading back what was written, whatever comes after it. -/
theorem decode_encode {n : Nat} (htop : top ≤ 128) (h : n < top * 128 ^ limit)
    (rest : List UInt8) :
    decode top (limit + 1) (encode n ++ rest) = some (n, (encode n).length) := by
  induction limit generalizing n with
  | zero =>
    have hsmall : n < 128 := by omega
    have hbyte : (UInt8.ofNat n).toNat = n :=
      UInt8.toNat_ofNat_of_lt' (Nat.lt_trans hsmall (by decide))
    unfold encode
    rw [if_pos hsmall]
    have hfits : ¬ top ≤ n := by omega
    simp [decode, hbyte, hsmall, hfits]
  | succ limit ih =>
    unfold encode
    split
    · rename_i hsmall
      have hbyte : (UInt8.ofNat n).toNat = n :=
        UInt8.toNat_ofNat_of_lt' (Nat.lt_trans hsmall (by decide))
      simp [decode, hbyte, hsmall]
    · have hbyte : (UInt8.ofNat (n % 128 + 128)).toNat = n % 128 + 128 :=
        UInt8.toNat_ofNat_of_lt' (by
          have hmod := Nat.mod_lt n (show 0 < 128 by decide)
          exact Nat.add_lt_add_right hmod 128)
      have hdiv : n / 128 < top * 128 ^ limit := by
        rw [Nat.div_lt_iff_lt_mul (by decide), Nat.mul_assoc, ← Nat.pow_succ]
        exact h
      have hlarge : ¬ n % 128 + 128 < 128 := by omega
      have hsum : n % 128 + 128 - 128 + 128 * (n / 128) = n := by omega
      rw [List.cons_append, decode, hbyte, if_neg hlarge, ih hdiv, Option.map_some, hsum,
        List.length_cons]

/-- Bytes that come after a varint do not change it. -/
theorem decode_append {x : Nat × Nat} (h : decode top limit bytes = some x)
    (more : List UInt8) : decode top limit (bytes ++ more) = some x := by
  induction limit generalizing bytes x with
  | zero => nomatch h
  | succ limit ih =>
    cases bytes with
    | nil => nomatch h
    | cons byte bytes =>
      rw [decode] at h
      rw [List.cons_append, decode]
      split
      · rename_i hlast
        rw [if_pos hlast] at h
        exact h
      · rename_i hlast
        rw [if_neg hlast] at h
        obtain ⟨y, hy, rfl⟩ := Option.map_eq_some_iff.mp h
        rw [ih hy]
        rfl

/-- A varint is read from its own bytes alone. -/
theorem decode_take {n count k : Nat} (h : decode top limit bytes = some (n, count))
    (hk : count ≤ k) : decode top limit (bytes.take k) = some (n, count) := by
  induction limit generalizing bytes n count k with
  | zero => nomatch h
  | succ limit ih =>
    cases bytes with
    | nil => nomatch h
    | cons byte bytes =>
      rw [decode] at h
      split at h
      · rename_i hlast
        split at h
        · nomatch h
        · rename_i hfits
          cases h
          obtain ⟨k, rfl⟩ : ∃ k', k = k' + 1 := ⟨k - 1, by omega⟩
          rw [List.take_succ_cons, decode, if_pos hlast, if_neg hfits]
      · rename_i hlast
        obtain ⟨⟨m, c⟩, hy, heq⟩ := Option.map_eq_some_iff.mp h
        cases heq
        obtain ⟨k, rfl⟩ : ∃ k', k = k' + 1 := ⟨k - 1, by omega⟩
        rw [List.take_succ_cons, decode, if_neg hlast, ih hy (by omega)]
        rfl

theorem decode_count {n count : Nat} (h : decode top limit bytes = some (n, count)) :
    0 < count ∧ count ≤ limit ∧ count ≤ bytes.length := by
  induction limit generalizing bytes n count with
  | zero => nomatch h
  | succ limit ih =>
    cases bytes with
    | nil => nomatch h
    | cons byte bytes =>
      rw [decode] at h
      split at h
      · split at h
        · nomatch h
        · cases h
          simp
      · obtain ⟨⟨m, c⟩, hy, heq⟩ := Option.map_eq_some_iff.mp h
        cases heq
        obtain ⟨hpos, hlimit, hlength⟩ := ih hy
        simp only [List.length_cons]
        omega

/-- The number fits in the word of the reader. -/
theorem decode_lt {n count : Nat} (hpos : 0 < top)
    (h : decode top (limit + 1) bytes = some (n, count)) : n < top * 128 ^ limit := by
  induction limit generalizing bytes n count with
  | zero =>
    cases bytes with
    | nil => nomatch h
    | cons byte bytes =>
      rw [decode] at h
      split at h
      · split at h
        · nomatch h
        · rename_i hfits
          cases h
          simp only [true_and, Nat.not_le] at hfits
          simpa using hfits
      · nomatch h
  | succ limit ih =>
    cases bytes with
    | nil => nomatch h
    | cons byte bytes =>
      rw [decode] at h
      split at h
      · rename_i hlast
        split at h
        · nomatch h
        · cases h
          have hpow : 1 ≤ 128 ^ limit := Nat.one_le_pow _ _ (by decide)
          have hle : 1 * (1 * 128) ≤ top * (128 ^ limit * 128) :=
            Nat.mul_le_mul hpos (Nat.mul_le_mul_right 128 hpow)
          rw [Nat.pow_succ]
          omega
      · obtain ⟨⟨m, c⟩, hy, heq⟩ := Option.map_eq_some_iff.mp h
        cases heq
        have hm := ih hy
        have hbyte : byte.toNat < 256 := byte.toNat_lt
        rw [Nat.pow_succ, ← Nat.mul_assoc]
        omega

/-! ## Readers -/

/-- A reader of varints of at most `limit` bytes, for numbers below `word`. -/
structure Reader (word limit : Nat) where
  decode : List UInt8 → Option (Nat × Nat)
  decode_encode : ∀ n, n < word → ∀ rest, decode (encode n ++ rest) = some (n, (encode n).length)
  decode_append : ∀ bytes x, decode bytes = some x → ∀ more, decode (bytes ++ more) = some x
  decode_take : ∀ bytes n count k, decode bytes = some (n, count) → count ≤ k →
    decode (bytes.take k) = some (n, count)
  decode_count : ∀ bytes n count, decode bytes = some (n, count) →
    0 < count ∧ count ≤ limit ∧ count ≤ bytes.length
  decode_lt : ∀ bytes n count, decode bytes = some (n, count) → n < word

/-- The reader that `decode` is. -/
def base128 (top limit word : Nat) (htop : top ≤ 128) (hpos : 0 < top)
    (hword : word = top * 128 ^ limit) : Reader word (limit + 1) where
  decode := decode top (limit + 1)
  decode_encode := fun _ hn rest => decode_encode htop (hword ▸ hn) rest
  decode_append := fun _ _ h more => decode_append h more
  decode_take := fun _ _ _ _ h hk => decode_take h hk
  decode_count := fun _ _ _ h => decode_count h
  decode_lt := fun _ _ _ h => hword ▸ decode_lt hpos h

namespace Reader

variable {word limit : Nat} (reader : Reader word limit) {bytes : List UInt8}

/-- A reader gives up on `limit` bytes that do not end a varint, whatever comes after
them. -/
theorem decode_eq_none_of_limit (h : reader.decode bytes = none)
    (hlength : limit ≤ bytes.length) (more : List UInt8) :
    reader.decode (bytes ++ more) = none := by
  rcases hmore : reader.decode (bytes ++ more) with _ | ⟨n, count⟩
  · rfl
  · obtain ⟨-, hcount, -⟩ := reader.decode_count _ _ _ hmore
    have htake := reader.decode_take _ _ _ _ hmore (Nat.le_refl count)
    have hwithin : (bytes ++ more).take count = bytes.take count :=
      List.take_append_of_le_length (by omega)
    rw [hwithin] at htake
    have hback := reader.decode_append _ _ htake (bytes.drop count)
    rw [List.take_append_drop, h] at hback
    nomatch hback

include reader in
theorem encode_length_le {n : Nat} (h : n < word) : (encode n).length ≤ limit := by
  obtain ⟨-, hlimit, -⟩ := reader.decode_count _ _ _ (reader.decode_encode n h [])
  exact hlimit

end Reader

end varint
