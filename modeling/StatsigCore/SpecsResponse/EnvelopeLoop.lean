-- Whether the loop of `deserialize_protobuf` ends. A turn takes as many bytes off the stream as
-- the reader asks for, and in a build without overflow checks it may ask for none.
import StatsigCore.Library.Loop
import StatsigCore.SpecsResponse.Rebuild

namespace statsig_rust.specs_response

section Turns

variable (decoders : Decoders) (current_specs : SpecsResponseFull)

/-- A turn of the loop that goes on, with the reader and the next specs that it leaves. -/
def turn (state : ProtoStreamReader × SpecsResponseFull) :
    Option (ProtoStreamReader × SpecsResponseFull) :=
  match read_next_delimited_proto decoders.prost decoders.overflow_checks state.1 with
  | (.ok proto_msg_bytes, reader) =>
    match decoders.envelope proto_msg_bytes with
    | .error _ => some (reader, state.2)
    | .ok env =>
      match handle_envelope decoders current_specs state.2 env with
      | .go_on next_specs => some (reader, next_specs)
      | .done => none
      | .fail _ => none
  | (.err _, _) => none
  | (.panic, _) => none

/-- What the loop has come to after some turns. It is not entered with specs in it. -/
def reached (next_specs : SpecsResponseFull) (data : Source) (turns : Nat) :
    Option (ProtoStreamReader × SpecsResponseFull) :=
  if next_specs.is_empty then
    loop.after (turn decoders current_specs) turns (⟨data, []⟩, next_specs)
  else none

theorem read_envelopes_running_iff (turns : Nat) (reader : ProtoStreamReader)
    (next_specs : SpecsResponseFull) :
    read_envelopes decoders current_specs turns reader next_specs = .running ↔
      loop.after (turn decoders current_specs) turns (reader, next_specs) ≠ none := by
  induction turns generalizing reader next_specs with
  | zero => simp [read_envelopes, loop.after]
  | succ turns ih =>
    rw [read_envelopes, loop.after, turn]
    rcases read_next_delimited_proto decoders.prost decoders.overflow_checks reader with
      ⟨bytes | e | _, later⟩
    · dsimp only
      cases decoders.envelope bytes with
      | error e => exact ih later next_specs
      | ok env =>
        dsimp only
        cases handle_envelope decoders current_specs next_specs env with
        | go_on next => exact ih later next
        | done => simp
        | fail e => simp
    · simp
    · simp

theorem deserialize_running_iff (turns : Nat) (next_specs : SpecsResponseFull) (data : Source) :
    deserialize_protobuf decoders turns current_specs next_specs data = .running ↔
      reached decoders current_specs next_specs data turns ≠ none := by
  unfold deserialize_protobuf reached
  by_cases hempty : next_specs.is_empty = true
  · rw [if_pos hempty, if_pos hempty]
    exact read_envelopes_running_iff decoders current_specs turns _ _
  · simp [hempty]

end Turns

/-! ## What a turn takes off the stream -/

theorem add_usize_lt {overflow_checks : Bool} {a b c : Nat}
    (h : add_usize overflow_checks a b = some c) (hab : a + b < 2 ^ 64 + 2 ^ 64) :
    c = a + b ∧ a + b < 2 ^ 64 ∨ overflow_checks = false ∧ c + 2 ^ 64 = a + b := by
  unfold add_usize at h
  split at h
  · rename_i hlt
    exact .inl ⟨(Option.some.inj h).symm, hlt⟩
  · rename_i hge
    cases overflow_checks with
    | true => cases h
    | false =>
      have hc := Option.some.inj h
      refine .inr ⟨rfl, ?_⟩
      omega

/-- The reader comes to a length prefix whose number and length add up to nothing. -/
def Stuck (decoders : Decoders) (reader : ProtoStreamReader) : Prop :=
  decoders.overflow_checks = false ∧
    ∃ count, decoders.prost.decode reader.pending = some (2 ^ 64 - 10, count)

section

variable {decoders : Decoders} {reader : ProtoStreamReader}

theorem longest_length (prost : Prost) : prost.length_delimiter_len (2 ^ 64 - 10) = 10 := by
  rw [prost.length_delimiter_len_eq _ (by decide)]
  exact varint.encode_length_eq (.inr (by decide)) (by decide)

theorem length_delimiter_len_pos (prost : Prost) {data_len : Nat} (h : data_len < 2 ^ 64) :
    0 < prost.length_delimiter_len data_len := by
  rw [prost.length_delimiter_len_eq _ h]
  exact List.length_pos_iff.mpr (varint.encode_ne_nil data_len)

/-- A call that gives a message has taken as many bytes off the stream as it has asked for. It has
asked for none just when it was stuck. -/
theorem read_next_taken {bytes : Bytes} {later : ProtoStreamReader}
    (h : read_next_delimited_proto decoders.prost decoders.overflow_checks reader =
      (.ok bytes, later)) :
    ∃ required_len, Later reader later required_len ∧ required_len ≤ reader.pending.length ∧
      bytes = reader.pending.take required_len ∧ (required_len = 0 ↔ Stuck decoders reader) := by
  rcases hdecode : decoders.prost.decode reader.pending with _ | ⟨data_len, count⟩
  · obtain ⟨e, after, hread⟩ := read_next_err _ decoders.overflow_checks reader hdecode
    rw [hread] at h
    cases h
  · have hlt := decoders.prost.decode_lt _ _ _ hdecode
    have hten := length_delimiter_len_le decoders.prost hlt
    have hpos := length_delimiter_len_pos decoders.prost hlt
    cases hadd : add_usize decoders.overflow_checks
        (decoders.prost.length_delimiter_len data_len) data_len with
    | none =>
      obtain ⟨middle, hread, -⟩ :=
        read_length_delimiter_some decoders.prost decoders.overflow_checks hdecode
      unfold read_next_delimited_proto at h
      rw [hread, delimiter_result, hadd] at h
      cases h
    | some required_len =>
      obtain ⟨middle, hmiddle, hread⟩ :=
        read_next_of_required decoders.prost decoders.overflow_checks reader hdecode hadd
      have hpending : middle.pending = reader.pending := hmiddle.pending
      rw [hread] at h
      by_cases hlength : required_len ≤ middle.pending.length
      · obtain ⟨after, hmessage, hlater⟩ := read_message_ok hlength
        rw [hmessage] at h
        cases h
        refine ⟨required_len, ?_, ?_, ?_, ?_⟩
        · simpa using hmiddle.trans hlater
        · rwa [hpending] at hlength
        · rw [← hpending]
          rfl
        · constructor
          · intro hzero
            rcases add_usize_lt hadd (by omega) with ⟨hsum, -⟩ | ⟨hchecks, hsum⟩
            · omega
            · refine ⟨hchecks, count, ?_⟩
              have hlen : decoders.prost.length_delimiter_len data_len = 10 := by
                rw [decoders.prost.length_delimiter_len_eq _ hlt]
                exact varint.encode_length_eq (.inr (by omega)) (by omega)
              rw [hdecode]
              congr 2
              omega
          · rintro ⟨hchecks, count', hstuck⟩
            rw [hdecode] at hstuck
            cases hstuck
            rw [longest_length, hchecks] at hadd
            exact (Option.some.inj hadd).symm
      · obtain ⟨herr, hpanic⟩ := read_message_short (Nat.not_le.mp hlength)
        cases hfails : fails middle.brotli_decompressor with
        | true =>
          obtain ⟨e, after, hmessage⟩ := herr hfails
          rw [hmessage] at h
          cases h
        | false =>
          obtain ⟨after, hmessage⟩ := hpanic hfails
          rw [hmessage] at h
          cases h

end

/-! ## What a turn leaves -/

section

variable {decoders : Decoders} {current_specs : SpecsResponseFull}
  {state state' : ProtoStreamReader × SpecsResponseFull}

/-- A turn that goes on has read a message, and leaves the reader of that call. -/
theorem turn_reads (h : turn decoders current_specs state = some state') :
    ∃ bytes, read_next_delimited_proto decoders.prost decoders.overflow_checks state.1 =
      (.ok bytes, state'.1) := by
  unfold turn at h
  rcases hread : read_next_delimited_proto decoders.prost decoders.overflow_checks state.1 with
    ⟨bytes | e | _, later⟩
  · rw [hread] at h
    dsimp only at h
    cases henvelope : decoders.envelope bytes with
    | error e =>
      rw [henvelope] at h
      cases h
      exact ⟨bytes, rfl⟩
    | ok env =>
      rw [henvelope] at h
      dsimp only at h
      cases hhandle : handle_envelope decoders current_specs state.2 env with
      | go_on next =>
        rw [hhandle] at h
        cases h
        exact ⟨bytes, rfl⟩
      | done =>
        rw [hhandle] at h
        cases h
      | fail e =>
        rw [hhandle] at h
        cases h
  · rw [hread] at h
    cases h
  · rw [hread] at h
    cases h

/-- A turn that goes on has taken a byte off the stream, or else it was stuck. -/
theorem turn_consumes (h : turn decoders current_specs state = some state') :
    state'.1.pending.length < state.1.pending.length ↔ ¬ Stuck decoders state.1 := by
  obtain ⟨bytes, hread⟩ := turn_reads h
  obtain ⟨required_len, hlater, hle, -, hzero⟩ := read_next_taken hread
  rw [hlater.pending, List.length_drop, ← hzero]
  omega

/-- A stuck turn reads the empty message. Nothing decodes it, and the next turn is stuck too. -/
theorem turn_stuck {e : String} (hempty : decoders.envelope [] = .error e)
    (h : Stuck decoders state.1) :
    ∃ state', turn decoders current_specs state = some state' ∧ Stuck decoders state'.1 := by
  obtain ⟨hchecks, count, hdecode⟩ := id h
  have hadd : add_usize decoders.overflow_checks
      (decoders.prost.length_delimiter_len (2 ^ 64 - 10)) (2 ^ 64 - 10) = some 0 := by
    rw [longest_length, hchecks]
    rfl
  obtain ⟨middle, hmiddle, hread⟩ :=
    read_next_of_required decoders.prost decoders.overflow_checks state.1 hdecode hadd
  obtain ⟨later, hmessage, hlater⟩ :=
    @read_message_ok 0 middle.buf middle.brotli_decompressor (Nat.zero_le _)
  refine ⟨(later, state.2), ?_, hchecks, count, ?_⟩
  · unfold turn
    rw [hread, hmessage, List.take_zero]
    dsimp only
    rw [hempty]
  · rw [hlater.pending, List.drop_zero, hmiddle.pending, List.drop_zero]
    exact hdecode

end

/-- Each turn that goes on takes a byte off the stream, and the call returns: just when the loop
does not come to a prefix that is stuck. -/
theorem envelope_loop_ends_iff (decoders : Decoders) (current_specs next_specs : SpecsResponseFull)
    (data : Source) (hempty : ∃ e, decoders.envelope [] = .error e) :
    ((∀ turns state state', reached decoders current_specs next_specs data turns = some state →
        turn decoders current_specs state = some state' →
          state'.1.pending.length < state.1.pending.length) ∧
      ∃ turns, ∀ more, deserialize_protobuf decoders (turns + more) current_specs next_specs data ≠
        .running) ↔
      ∀ turns state, reached decoders current_specs next_specs data turns = some state →
        ¬ Stuck decoders state.1 := by
  obtain ⟨e, hempty⟩ := hempty
  constructor
  · rintro ⟨-, turns, hends⟩ turns' state hreached hstuck
    refine hends 0 ((deserialize_running_iff _ _ _ _ _).mpr ?_)
    unfold reached at hreached ⊢
    split at hreached
    · rename_i hspecs
      rw [if_pos hspecs]
      exact @loop.never_ends _ (turn decoders current_specs) (fun state => Stuck decoders state.1)
        (fun _ => turn_stuck hempty) _ _ _ hreached hstuck turns
    · cases hreached
  · intro hnever
    constructor
    · intro turns state state' hreached hturn
      exact (turn_consumes hturn).mpr (hnever turns state hreached)
    · by_cases hspecs : next_specs.is_empty = true
      · obtain ⟨turns, hends⟩ := @loop.ends_of_rank _ (turn decoders current_specs)
          (fun state => state.1.pending.length) (⟨data, []⟩, next_specs) (by
            intro turns state state' hafter hturn
            apply (turn_consumes hturn).mpr
            apply hnever turns state
            rw [reached, if_pos hspecs]
            exact hafter)
        refine ⟨turns, ?_⟩
        intro more
        rw [Ne, deserialize_running_iff, reached, if_pos hspecs, loop.after_add, hends]
        simp
      · refine ⟨0, ?_⟩
        intro more
        rw [Ne, deserialize_running_iff, reached, if_neg hspecs]
        simp

/-- A body with the message `Done` alone. -/
theorem done_body_ends :
    ((∀ turns state state', reached few_decoders {} {} [.ok [2, 8, 1]] turns = some state →
        turn few_decoders {} state = some state' →
          state'.1.pending.length < state.1.pending.length) ∧
      ∃ turns, ∀ more, deserialize_protobuf few_decoders (turns + more) {} {} [.ok [2, 8, 1]] ≠
        .running) := by
  apply (envelope_loop_ends_iff few_decoders {} {} [.ok [2, 8, 1]] ⟨_, rfl⟩).mpr
  intro turns state hreached
  have hdecode : few_decoders.prost.decode (ProtoStreamReader.pending ⟨[.ok [2, 8, 1]], []⟩) =
      some (2, 1) := rfl
  have hlen : few_decoders.prost.length_delimiter_len 2 = 1 :=
    congrArg List.length (varint.encode_small (by decide))
  have hturn : turn few_decoders {} (⟨[.ok [2, 8, 1]], []⟩, {}) = none := by
    obtain ⟨after, hread, -⟩ := read_next_ok few_decoders.prost few_decoders.overflow_checks
      ⟨[.ok [2, 8, 1]], []⟩ hdecode (by rw [hlen]; decide) (by rw [hlen]; decide)
    rw [hlen] at hread
    unfold turn
    rw [hread]
    rfl
  cases turns with
  | zero =>
    cases hreached
    rintro ⟨-, count, hstuck⟩
    rw [hdecode] at hstuck
    cases hstuck
  | succ turns =>
    have hspecs : SpecsResponseFull.is_empty {} = true := rfl
    rw [reached, if_pos hspecs, loop.after, hturn] at hreached
    cases hreached

/-- The length prefix 2^64 - 10, and no more. -/
def wrapped_length : Source := [.ok [0xF6, 0xFF, 0xFF, 0xFF, 0xFF, 0xFF, 0xFF, 0xFF, 0xFF, 0x01]]

/-- The body of ten bytes keeps a build without overflow checks running. -/
theorem wrapped_length_never_returns :
    ¬ ∃ turns, deserialize_protobuf few_decoders turns {} {} wrapped_length ≠ .running := by
  rintro ⟨turns, hreturns⟩
  apply hreturns
  have hstuck : Stuck few_decoders ⟨wrapped_length, []⟩ := ⟨rfl, 10, rfl⟩
  have hspecs : SpecsResponseFull.is_empty {} = true := rfl
  rw [deserialize_running_iff, reached, if_pos hspecs]
  exact @loop.never_ends _ (turn few_decoders {}) (fun state => Stuck few_decoders state.1)
    (fun _ => turn_stuck rfl) _ _ 0 rfl hstuck turns

end statsig_rust.specs_response
