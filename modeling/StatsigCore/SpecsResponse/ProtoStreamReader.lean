-- The reader of length-delimited messages (`specs_response/proto_stream_reader.rs`). The
-- decompressor under it hands out bytes in chunks. The two functions of `prost` that it
-- calls are a parameter.
import StatsigCore.Library.Varint
import StatsigCore.SpecsResponse.SpecTypes

namespace statsig_rust.specs_response

abbrev Bytes := List UInt8

def BUFFER_SIZE : Nat := 4096

/-- `prost::decode_length_delimiter` and `prost::length_delimiter_len`, for a `usize` of 64
bits. `decode` also says how many bytes the varint takes. -/
structure Prost extends varint.Reader (2 ^ 64) 10 where
  error : Bytes → String
  length_delimiter_len : Nat → Nat
  length_delimiter_len_eq : ∀ n, n < 2 ^ 64 → length_delimiter_len n = (varint.encode n).length

/-- What `Decompressor::read` gives, one call after the other, and the end of the stream
when there is no more. No bytes mean the end of the stream too. -/
abbrev Source := List (Except String Bytes)

structure ProtoStreamReader where
  brotli_decompressor : Source
  buf : Bytes := []

inductive ReadResult where
  | ok (proto_msg_bytes : Bytes)
  | err (e : StatsigErr)
  | panic
deriving DecidableEq

section

variable (prost : Prost) (overflow_checks : Bool)

/-- `usize` addition. A build without overflow checks wraps. -/
def add_usize (a b : Nat) : Option Nat :=
  if a + b < 2 ^ 64 then some (a + b)
  else if overflow_checks then none
  else some ((a + b) % 2 ^ 64)

inductive DelimiterResult where
  | ok (required_len : Nat)
  | err (e : StatsigErr)
  | panic

def eof_in_delimiter : StatsigErr :=
  .ProtobufParseError "ReadLengthDelimiter" "unexpected EOF while reading length delimiter"

/-- `length_delimiter_len(data_len) + data_len`. -/
def delimiter_result (data_len : Nat) : DelimiterResult :=
  match add_usize overflow_checks (prost.length_delimiter_len data_len) data_len with
  | some required_len => .ok required_len
  | none => .panic

/-- What the loop of `read_length_delimiter` returns before it reads more bytes. -/
def try_delimiter (buf : Bytes) : Option DelimiterResult :=
  match prost.decode buf with
  | some (data_len, _) => some (delimiter_result prost overflow_checks data_len)
  | none =>
    if buf.length ≥ 10 then
      some (.err (.ProtobufParseError "DecodeLengthDelimiter" (prost.error buf)))
    else none

def read_length_delimiter (buf : Bytes) : Source → DelimiterResult × ProtoStreamReader
  | [] =>
    match try_delimiter prost overflow_checks buf with
    | some result => (result, ⟨[], buf⟩)
    | none => (.err eof_in_delimiter, ⟨[], buf⟩)
  | read :: reads =>
    match try_delimiter prost overflow_checks buf with
    | some result => (result, ⟨read :: reads, buf⟩)
    | none =>
      match read with
      | .error e => (.err (.ProtobufParseError "ReadLengthDelimiter" e), ⟨reads, buf⟩)
      | .ok [] => (.err eof_in_delimiter, ⟨reads, buf⟩)
      | .ok chunk => read_length_delimiter (buf ++ chunk) reads

/-- `BytesMut::split_to`: it panics past the end. -/
def split_to (required_len : Nat) (reader : ProtoStreamReader) :
    ReadResult × ProtoStreamReader :=
  if required_len ≤ reader.buf.length then
    (.ok (reader.buf.take required_len), { reader with buf := reader.buf.drop required_len })
  else (.panic, reader)

/-- The loop of `read_next_delimited_proto`. -/
def read_message (required_len : Nat) (buf : Bytes) : Source → ReadResult × ProtoStreamReader
  | [] => split_to required_len ⟨[], buf⟩
  | read :: reads =>
    if buf.length < required_len then
      match read with
      | .ok [] => split_to required_len ⟨reads, buf⟩
      | .ok chunk => read_message required_len (buf ++ chunk) reads
      | .error e => (.err (.ProtobufParseError "BrotliDecompressorRead" e), ⟨reads, buf⟩)
    else split_to required_len ⟨read :: reads, buf⟩

def read_next_delimited_proto (reader : ProtoStreamReader) : ReadResult × ProtoStreamReader :=
  match read_length_delimiter prost overflow_checks reader.buf reader.brotli_decompressor with
  | (.ok required_len, reader) =>
    read_message required_len reader.buf reader.brotli_decompressor
  | (.err e, reader) => (.err e, reader)
  | (.panic, reader) => (.panic, reader)

/-- Some calls, one after the other. -/
def read_frames : Nat → ProtoStreamReader → List ReadResult × ProtoStreamReader
  | 0, reader => ([], reader)
  | calls + 1, reader =>
    let first := read_next_delimited_proto prost overflow_checks reader
    let rest := read_frames calls first.2
    (first.1 :: rest.1, rest.2)

end

/-! ## The bytes that are still to come -/

/-- The bytes that a source hands out before its end. -/
def delivered : Source → Bytes
  | [] => []
  | .ok [] :: _ => []
  | .ok chunk :: reads => chunk ++ delivered reads
  | .error _ :: _ => []

/-- The source ends with an error. -/
def fails : Source → Bool
  | [] => false
  | .ok [] :: _ => false
  | .ok _ :: reads => fails reads
  | .error _ :: _ => true

/-- The bytes that the reader has and those that it will get. -/
def ProtoStreamReader.pending (reader : ProtoStreamReader) : Bytes :=
  reader.buf ++ delivered reader.brotli_decompressor

/-- The second reader comes from the first by reading chunks, and by taking bytes off the
front. -/
structure Later (before after : ProtoStreamReader) (taken : Nat) : Prop where
  pending : after.pending = before.pending.drop taken
  fails : fails after.brotli_decompressor = fails before.brotli_decompressor
  reads : after.brotli_decompressor <:+ before.brotli_decompressor

theorem Later.refl (reader : ProtoStreamReader) : Later reader reader 0 :=
  ⟨rfl, rfl, List.suffix_refl _⟩

/-- One more chunk in the buffer. -/
theorem Later.of_chunk {buf : Bytes} {byte : UInt8} {chunk : Bytes} {reads : Source}
    {after : ProtoStreamReader} {taken : Nat}
    (h : Later ⟨reads, buf ++ byte :: chunk⟩ after taken) :
    Later ⟨.ok (byte :: chunk) :: reads, buf⟩ after taken := by
  obtain ⟨hpending, hfails, hreads⟩ := h
  refine ⟨?_, hfails, hreads.trans (List.suffix_cons _ _)⟩
  rw [hpending]
  simp [ProtoStreamReader.pending, delivered]

theorem Later.trans {first second third : ProtoStreamReader} {taken more : Nat}
    (h : Later first second taken) (h' : Later second third more) :
    Later first third (taken + more) := by
  obtain ⟨hpending, hfails, hreads⟩ := h
  obtain ⟨hpending', hfails', hreads'⟩ := h'
  refine ⟨?_, hfails'.trans hfails, hreads'.trans hreads⟩
  rw [hpending', hpending, List.drop_drop]

section

variable (prost : Prost) (overflow_checks : Bool)

theorem try_delimiter_of_some {buf : Bytes} {data_len count : Nat}
    (h : prost.decode buf = some (data_len, count)) :
    try_delimiter prost overflow_checks buf =
      some (delimiter_result prost overflow_checks data_len) := by
  unfold try_delimiter
  rw [h]

theorem try_delimiter_of_none {buf : Bytes} (h : prost.decode buf = none) :
    (buf.length < 10 ∧ try_delimiter prost overflow_checks buf = none) ∨
      ∃ e, 10 ≤ buf.length ∧ try_delimiter prost overflow_checks buf = some (.err e) := by
  unfold try_delimiter
  rw [h]
  by_cases hlength : buf.length ≥ 10
  · exact .inr ⟨_, hlength, if_pos hlength⟩
  · exact .inl ⟨by omega, if_neg hlength⟩

/-- A beginning of bytes without a varint at the front has none either. -/
theorem decode_beginning {buf more : Bytes} (h : prost.decode (buf ++ more) = none) :
    prost.decode buf = none := by
  cases hbuf : prost.decode buf with
  | none => rfl
  | some x =>
    rw [prost.decode_append _ _ hbuf] at h
    nomatch h

/-- Without a varint at the front, the loop ends with an error. -/
theorem read_length_delimiter_err {buf : Bytes} {source : Source}
    (h : prost.decode (buf ++ delivered source) = none) :
    ∃ e after, read_length_delimiter prost overflow_checks buf source = (.err e, after) := by
  induction source generalizing buf with
  | nil =>
    unfold read_length_delimiter
    rcases try_delimiter_of_none prost overflow_checks (decode_beginning prost h) with
      ⟨-, hnone⟩ | ⟨e, -, herr⟩
    · rw [hnone]
      exact ⟨_, _, rfl⟩
    · rw [herr]
      exact ⟨_, _, rfl⟩
  | cons read reads ih =>
    unfold read_length_delimiter
    rcases try_delimiter_of_none prost overflow_checks (decode_beginning prost h) with
      ⟨-, hnone⟩ | ⟨e, -, herr⟩
    · rw [hnone]
      rcases read with e | _ | ⟨byte, chunk⟩
      · exact ⟨_, _, rfl⟩
      · exact ⟨_, _, rfl⟩
      · rw [delivered, ← List.append_assoc] at h
        · exact ih h
        · simp
    · rw [herr]
      exact ⟨_, _, rfl⟩

/-- A buffer that ends in the middle of a varint is not the whole, and is short. -/
theorem short_of_cut {buf more : Bytes} {x : Nat × Nat}
    (h : prost.decode (buf ++ more) = some x) (hnone : prost.decode buf = none) :
    more ≠ [] ∧ buf.length < 10 := by
  constructor
  · rintro rfl
    rw [List.append_nil, hnone] at h
    nomatch h
  · by_contra hlong
    rw [prost.decode_eq_none_of_limit hnone (by omega)] at h
    nomatch h

/-- With a varint at the front, the loop reads until it has it. -/
theorem read_length_delimiter_some {buf : Bytes} {source : Source} {data_len count : Nat}
    (h : prost.decode (buf ++ delivered source) = some (data_len, count)) :
    ∃ after, read_length_delimiter prost overflow_checks buf source =
        (delimiter_result prost overflow_checks data_len, after) ∧
      Later ⟨source, buf⟩ after 0 := by
  induction source generalizing buf with
  | nil =>
    unfold read_length_delimiter
    cases hbuf : prost.decode buf with
    | none => exact absurd rfl (short_of_cut prost h hbuf).1
    | some x =>
      rw [prost.decode_append _ _ hbuf] at h
      cases h
      rw [try_delimiter_of_some prost overflow_checks hbuf]
      exact ⟨_, rfl, .refl _⟩
  | cons read reads ih =>
    unfold read_length_delimiter
    cases hbuf : prost.decode buf with
    | some x =>
      rw [prost.decode_append _ _ hbuf] at h
      cases h
      rw [try_delimiter_of_some prost overflow_checks hbuf]
      exact ⟨_, rfl, .refl _⟩
    | none =>
      obtain ⟨hdelivered, hlength⟩ := short_of_cut prost h hbuf
      rcases try_delimiter_of_none prost overflow_checks hbuf with ⟨-, hnone⟩ | ⟨e, hlong, -⟩
      · rw [hnone]
        rcases read with e | _ | ⟨byte, chunk⟩
        · exact absurd rfl hdelivered
        · exact absurd rfl hdelivered
        · have hnext : prost.decode ((buf ++ byte :: chunk) ++ delivered reads) =
              some (data_len, count) := by
            rw [List.append_assoc]
            exact h
          obtain ⟨after, hread, hlater⟩ := ih hnext
          exact ⟨after, hread, hlater.of_chunk⟩
      · omega

end

theorem split_to_of_le {required_len : Nat} {reader : ProtoStreamReader}
    (h : required_len ≤ reader.buf.length) :
    ∃ after, split_to required_len reader = (.ok (reader.pending.take required_len), after) ∧
      Later reader after required_len := by
  unfold split_to
  rw [if_pos h]
  refine ⟨{ reader with buf := reader.buf.drop required_len }, ?_, ?_, rfl,
    List.suffix_refl _⟩
  · rw [ProtoStreamReader.pending, List.take_append_of_le_length h]
  · exact (List.drop_append_of_le_length h).symm

/-- With enough bytes to come, the message is the next ones. -/
theorem read_message_ok {required_len : Nat} {buf : Bytes} {source : Source}
    (h : required_len ≤ (buf ++ delivered source).length) :
    ∃ after, read_message required_len buf source =
        (.ok ((buf ++ delivered source).take required_len), after) ∧
      Later ⟨source, buf⟩ after required_len := by
  induction source generalizing buf with
  | nil =>
    rw [delivered, List.append_nil] at h
    exact split_to_of_le h
  | cons read reads ih =>
    unfold read_message
    by_cases hshort : buf.length < required_len
    · rw [if_pos hshort]
      rcases read with e | _ | ⟨byte, chunk⟩
      · rw [delivered, List.append_nil] at h
        omega
      · rw [delivered, List.append_nil] at h
        omega
      · have hwhole : (buf ++ byte :: chunk) ++ delivered reads =
            buf ++ delivered (.ok (byte :: chunk) :: reads) := List.append_assoc _ _ _
        rw [← hwhole] at h ⊢
        obtain ⟨after, hread, hlater⟩ := ih h
        exact ⟨after, hread, hlater.of_chunk⟩
    · rw [if_neg hshort]
      exact split_to_of_le (by simpa using hshort)

theorem split_to_of_lt {required_len : Nat} {reader : ProtoStreamReader}
    (h : reader.buf.length < required_len) :
    split_to required_len reader = (.panic, reader) := by
  unfold split_to
  rw [if_neg (by simpa using h)]

/-- With too few bytes to come, the call fails when the source does, and panics when the
source comes to its end. -/
theorem read_message_short {required_len : Nat} {buf : Bytes} {source : Source}
    (h : (buf ++ delivered source).length < required_len) :
    (fails source = true → ∃ e after, read_message required_len buf source = (.err e, after)) ∧
      (fails source = false → ∃ after, read_message required_len buf source =
        (.panic, after)) := by
  have hshort : buf.length < required_len := by
    rw [List.length_append] at h
    omega
  induction source generalizing buf with
  | nil =>
    constructor
    · intro hfails
      nomatch hfails
    · intro _
      exact ⟨_, split_to_of_lt hshort⟩
  | cons read reads ih =>
    unfold read_message
    rw [if_pos hshort]
    rcases read with e | _ | ⟨byte, chunk⟩
    · constructor
      · intro _
        exact ⟨_, _, rfl⟩
      · intro hfails
        nomatch hfails
    · constructor
      · intro hfails
        nomatch hfails
      · intro _
        exact ⟨_, split_to_of_lt hshort⟩
    · have hnext : ((buf ++ byte :: chunk) ++ delivered reads).length < required_len := by
        rw [List.append_assoc]
        exact h
      refine ih hnext ?_
      rw [List.length_append] at hnext
      omega

/-! ## One call -/

section

variable (prost : Prost) (overflow_checks : Bool) (reader : ProtoStreamReader)

theorem read_next_err (h : prost.decode reader.pending = none) :
    ∃ e after, read_next_delimited_proto prost overflow_checks reader = (.err e, after) := by
  obtain ⟨e, after, hread⟩ := read_length_delimiter_err prost overflow_checks h
  unfold read_next_delimited_proto
  rw [hread]
  exact ⟨_, _, rfl⟩

/-- A call that finds the number of bytes of the message and no overflow reads as many. -/
theorem read_next_of_required {data_len count required_len : Nat}
    (h : prost.decode reader.pending = some (data_len, count))
    (hrequired : add_usize overflow_checks (prost.length_delimiter_len data_len) data_len =
      some required_len) :
    ∃ middle, Later reader middle 0 ∧
      read_next_delimited_proto prost overflow_checks reader =
        read_message required_len middle.buf middle.brotli_decompressor := by
  obtain ⟨middle, hread, hlater⟩ := read_length_delimiter_some prost overflow_checks h
  refine ⟨middle, hlater, ?_⟩
  unfold read_next_delimited_proto
  rw [hread, delimiter_result, hrequired]

theorem length_delimiter_len_le {data_len : Nat} (h : data_len < 2 ^ 64) :
    prost.length_delimiter_len data_len ≤ 10 := by
  rw [prost.length_delimiter_len_eq data_len h]
  exact prost.encode_length_le h

/-- A call with the whole message to come gives the bytes of its prefix and its payload, as
the decoded number says. -/
theorem read_next_ok {data_len count : Nat}
    (h : prost.decode reader.pending = some (data_len, count))
    (hsum : prost.length_delimiter_len data_len + data_len < 2 ^ 64)
    (hlength : prost.length_delimiter_len data_len + data_len ≤ reader.pending.length) :
    ∃ after, read_next_delimited_proto prost overflow_checks reader =
        (.ok (reader.pending.take (prost.length_delimiter_len data_len + data_len)), after) ∧
      Later reader after (prost.length_delimiter_len data_len + data_len) := by
  obtain ⟨middle, hmiddle, hread⟩ := read_next_of_required prost overflow_checks reader h
    (if_pos hsum)
  have hpending : middle.pending = reader.pending := hmiddle.pending
  rw [← hpending] at hlength
  obtain ⟨after, hmessage, hafter⟩ := read_message_ok hlength
  refine ⟨after, ?_, ?_⟩
  · rw [hread, hmessage, ← hpending]
    rfl
  · simpa using hmiddle.trans hafter

/-! ## Malformed input -/

/-- The bytes are a length prefix and as many bytes as it says. -/
def IsFrame (proto_msg_bytes : Bytes) : Prop :=
  ∃ data_len count, prost.decode proto_msg_bytes = some (data_len, count) ∧
    proto_msg_bytes.length = count + data_len

/-- The call returns a frame or an error. -/
def Safe : Prop :=
  match (read_next_delimited_proto prost overflow_checks reader).1 with
  | .ok proto_msg_bytes => IsFrame prost proto_msg_bytes
  | .err _ => True
  | .panic => False

/-- When a length prefix comes next, it is the shortest one of its number, and the whole
message is there, or else the source fails before it has delivered what is asked for. -/
def WholeOrFailing : Prop :=
  ∀ data_len count, prost.decode reader.pending = some (data_len, count) →
    (count = prost.length_delimiter_len data_len ∧ count + data_len < 2 ^ 64 ∧
      count + data_len ≤ reader.pending.length) ∨
    (fails reader.brotli_decompressor = true ∧
      ∃ required_len, add_usize overflow_checks (prost.length_delimiter_len data_len) data_len =
        some required_len ∧ reader.pending.length < required_len)

/-- The reader is safe just when the next message is whole, or the source fails before the
end of it. A source that ends in a message makes it panic, and so does an addition that
overflows with the checks on. A prefix that is not the shortest gives a frame of the wrong
length. -/
theorem reader_is_safe_iff : Safe prost overflow_checks reader ↔
    WholeOrFailing prost overflow_checks reader := by
  constructor
  · intro hsafe data_len count h
    have hlt := prost.decode_lt _ _ _ h
    have hten := length_delimiter_len_le prost hlt
    unfold Safe at hsafe
    cases hadd : add_usize overflow_checks (prost.length_delimiter_len data_len) data_len with
    | none =>
      obtain ⟨middle, hread, -⟩ := read_length_delimiter_some prost overflow_checks h
      unfold read_next_delimited_proto at hsafe
      rw [hread, delimiter_result, hadd] at hsafe
      exact hsafe.elim
    | some required_len =>
      obtain ⟨middle, hmiddle, hread⟩ :=
        read_next_of_required prost overflow_checks reader h hadd
      have hpending : middle.pending = reader.pending := hmiddle.pending
      have hfails : fails middle.brotli_decompressor = fails reader.brotli_decompressor :=
        hmiddle.fails
      rw [hread] at hsafe
      by_cases hlength : required_len ≤ middle.pending.length
      · obtain ⟨after, hmessage, -⟩ := read_message_ok hlength
        rw [hmessage] at hsafe
        obtain ⟨data_len', count', hframe, hframe_length⟩ := hsafe
        have hwhole := prost.decode_append _ _ hframe (middle.pending.drop required_len)
        rw [ProtoStreamReader.pending, List.take_append_drop] at hwhole
        change prost.decode middle.pending = _ at hwhole
        rw [hpending, h] at hwhole
        cases hwhole
        have hrequired : required_len = count + data_len := by
          have htake := List.length_take_of_le hlength
          rw [← htake]
          exact hframe_length
        unfold add_usize at hadd
        split at hadd
        · cases hadd
          rw [hpending] at hlength
          exact .inl ⟨by omega, by omega, by omega⟩
        · split at hadd
          · nomatch hadd
          · cases hadd
            omega
      · obtain ⟨-, hpanic⟩ := read_message_short (Nat.not_le.mp hlength)
        cases hf : fails reader.brotli_decompressor with
        | true =>
          rw [hpending] at hlength
          exact .inr ⟨rfl, required_len, rfl, Nat.not_le.mp hlength⟩
        | false =>
          obtain ⟨after, hmessage⟩ := hpanic (hfails.trans hf)
          rw [hmessage] at hsafe
          exact hsafe.elim
  · intro hwhole
    unfold Safe
    rcases h : prost.decode reader.pending with _ | ⟨data_len, count⟩
    · obtain ⟨e, after, hread⟩ := read_next_err prost overflow_checks reader h
      rw [hread]
      trivial
    · rcases hwhole data_len count h with ⟨rfl, hsum, hlength⟩ | ⟨hfails, required_len, hadd, hshort⟩
      · obtain ⟨after, hread, -⟩ := read_next_ok prost overflow_checks reader h hsum hlength
        rw [hread]
        refine ⟨data_len, _, prost.decode_take _ _ _ _ h (Nat.le_add_right _ _), ?_⟩
        exact List.length_take_of_le hlength
      · obtain ⟨middle, hmiddle, hread⟩ :=
          read_next_of_required prost overflow_checks reader h hadd
        have hpending : middle.pending = reader.pending := hmiddle.pending
        rw [← hpending] at hshort
        obtain ⟨herr, -⟩ := read_message_short hshort
        obtain ⟨e, after, hmessage⟩ := herr (hmiddle.fails.trans hfails)
        rw [hread, hmessage]
        trivial

end

/-- `prost` as it is documented: a varint of at most ten bytes, for a word of 64 bits. -/
def prost_base128 : Prost where
  toReader := varint.base128 2 9 (2 ^ 64) (by decide) (by decide) (by decide)
  error := fun _ => "failed to decode Protobuf message: invalid varint"
  length_delimiter_len := fun n => (varint.encode n).length
  length_delimiter_len_eq := fun _ _ => rfl

/-- A prefix that promises five bytes, one of them, and the end of the stream. -/
theorem truncated_message_panics : ¬ ∀ prost overflow_checks reader,
    Safe prost overflow_checks reader := by
  intro hall
  have hsafe := hall prost_base128 true ⟨[.ok [5, 1]], []⟩
  have hlen : prost_base128.length_delimiter_len 5 = 1 :=
    congrArg List.length (varint.encode_small (by decide))
  have hempty : try_delimiter prost_base128 true [] = none := rfl
  have hdecode : prost_base128.decode [5, 1] = some (5, 1) := rfl
  have hprefix : try_delimiter prost_base128 true [5, 1] = some (.ok 6) := by
    rw [try_delimiter_of_some prost_base128 true hdecode, delimiter_result, hlen]
    rfl
  unfold Safe read_next_delimited_proto at hsafe
  simp only [read_length_delimiter, hempty, List.nil_append, hprefix] at hsafe
  exact hsafe

/-! ## Well-formed streams -/

/-- A message that fits in memory. -/
structure Message where
  bytes : Bytes
  fits : bytes.length < 2 ^ 63

/-- A message with its length in front. -/
def Message.delimited (message : Message) : Bytes :=
  varint.encode message.bytes.length ++ message.bytes

/-- What one read of the decompressor gives before the end of the stream. -/
structure Chunk where
  bytes : Bytes
  not_empty : bytes ≠ []
  fits : bytes.length ≤ BUFFER_SIZE

/-- The decompressor hands out the chunks and comes to its end. -/
def source_of (chunks : List Chunk) : Source := chunks.map fun chunk => .ok chunk.bytes

theorem delivered_source_of (chunks : List Chunk) :
    delivered (source_of chunks) = (chunks.map Chunk.bytes).flatten := by
  induction chunks with
  | nil => rfl
  | cons chunk chunks ih =>
    obtain ⟨bytes, hne, hfits⟩ := chunk
    cases bytes with
    | nil => exact absurd rfl hne
    | cons byte bytes => exact congrArg (byte :: bytes ++ ·) ih

/-- Chunks that hold no byte are none. -/
theorem source_empty {source : Source} {chunks : List Chunk}
    (hsuffix : source <:+ source_of chunks) (h : delivered source = []) : source = [] := by
  cases source with
  | nil => rfl
  | cons read reads =>
    obtain ⟨chunk, -, rfl⟩ := List.mem_map.mp (hsuffix.subset List.mem_cons_self)
    obtain ⟨bytes, hne, hfits⟩ := chunk
    cases bytes with
    | nil => exact absurd rfl hne
    | cons byte bytes => nomatch h

section

variable (prost : Prost) (overflow_checks : Bool)

/-- A call on a stream that goes on with a message returns it and goes to its end. -/
theorem read_next_message {reader : ProtoStreamReader} {message : Message} {rest : Bytes}
    (h : reader.pending = message.delimited ++ rest) :
    ∃ after, read_next_delimited_proto prost overflow_checks reader =
        (.ok message.delimited, after) ∧
      after.pending = rest ∧ after.brotli_decompressor <:+ reader.brotli_decompressor := by
  have hfits : message.bytes.length < 2 ^ 64 := Nat.lt_trans message.fits (by decide)
  have hdecode : prost.decode reader.pending =
      some (message.bytes.length, (varint.encode message.bytes.length).length) := by
    rw [h, Message.delimited, List.append_assoc]
    exact prost.decode_encode _ hfits _
  have hten := length_delimiter_len_le prost hfits
  have hlen : prost.length_delimiter_len message.bytes.length + message.bytes.length =
      message.delimited.length := by
    rw [prost.length_delimiter_len_eq _ hfits, Message.delimited, List.length_append]
  have hshort := message.fits
  obtain ⟨after, hread, hlater⟩ := read_next_ok prost overflow_checks reader hdecode
    (by omega) (by rw [hlen, h, List.length_append]; omega)
  refine ⟨after, ?_, ?_, hlater.reads⟩
  · rw [hread, hlen, h, List.take_left']
    rfl
  · rw [hlater.pending, hlen, h, List.drop_left']
    rfl

theorem read_frames_messages {messages : List Message} {reader : ProtoStreamReader} {rest : Bytes}
    (h : reader.pending = (messages.map Message.delimited).flatten ++ rest) :
    ∃ after, read_frames prost overflow_checks messages.length reader =
        (messages.map fun message => .ok message.delimited, after) ∧
      after.pending = rest ∧ after.brotli_decompressor <:+ reader.brotli_decompressor := by
  induction messages generalizing reader with
  | nil => exact ⟨reader, rfl, h, List.suffix_refl _⟩
  | cons message messages ih =>
    rw [List.map_cons, List.flatten_cons, List.append_assoc] at h
    obtain ⟨middle, hfirst, hpending, hreads⟩ := read_next_message prost overflow_checks h
    obtain ⟨after, hrest, hafter, hsuffix⟩ := ih hpending
    refine ⟨after, ?_, hafter, hsuffix.trans hreads⟩
    rw [List.length_cons, read_frames, hfirst, hrest]
    rfl

/-- Reading gives back what was written, whatever the chunks: one call for each message
returns its frame, no byte is left, and the next call fails. -/
theorem delimited_messages_are_read_back (messages : List Message) (chunks : List Chunk)
    (hstream : (chunks.map Chunk.bytes).flatten = (messages.map Message.delimited).flatten) :
    read_frames prost overflow_checks messages.length ⟨source_of chunks, []⟩ =
        (messages.map fun message => .ok message.delimited, ⟨[], []⟩) ∧
      ∃ e, read_next_delimited_proto prost overflow_checks ⟨[], []⟩ = (.err e, ⟨[], []⟩) := by
  constructor
  · have hstart : ProtoStreamReader.pending ⟨source_of chunks, []⟩ =
        (messages.map Message.delimited).flatten ++ [] := by
      rw [ProtoStreamReader.pending, delivered_source_of, hstream, List.append_nil]
      rfl
    obtain ⟨⟨source, buf⟩, hread, hpending, hsuffix⟩ :=
      read_frames_messages prost overflow_checks hstart
    obtain ⟨hbuf, hdelivered⟩ := List.append_eq_nil_iff.mp hpending
    rw [hread]
    have hsource := source_empty hsuffix hdelivered
    dsimp only at hbuf hsource
    rw [hbuf, hsource]
  · have hnone : prost.decode [] = none := by
      rcases h : prost.decode [] with _ | ⟨data_len, count⟩
      · rfl
      · obtain ⟨hpos, -, hlength⟩ := prost.decode_count _ _ _ h
        rw [List.length_nil] at hlength
        omega
    refine ⟨eof_in_delimiter, ?_⟩
    rcases try_delimiter_of_none prost overflow_checks hnone with ⟨-, htry⟩ | ⟨e, hlong, -⟩
    · unfold read_next_delimited_proto read_length_delimiter
      rw [htry]
    · nomatch hlong

end

/-- Two messages of two bytes each, in chunks that cut the first one and join the rest. -/
theorem two_messages_are_read_back :
    read_frames prost_base128 false 2
        ⟨source_of [⟨[2], by decide, by decide⟩, ⟨[7], by decide, by decide⟩,
          ⟨[8, 2, 9, 10], by decide, by decide⟩], []⟩ =
        ([.ok [2, 7, 8], .ok [2, 9, 10]], ⟨[], []⟩) ∧
      ∃ e, read_next_delimited_proto prost_base128 false ⟨[], []⟩ = (.err e, ⟨[], []⟩) := by
  have h := delimited_messages_are_read_back prost_base128 false
    [⟨[7, 8], by decide⟩, ⟨[9, 10], by decide⟩]
    [⟨[2], by decide, by decide⟩, ⟨[7], by decide, by decide⟩,
      ⟨[8, 2, 9, 10], by decide, by decide⟩]
    (by simp [Message.delimited, varint.encode_small])
  simpa [Message.delimited, varint.encode_small] using h

end statsig_rust.specs_response
