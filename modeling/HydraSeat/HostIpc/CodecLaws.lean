import HydraSeat.HostIpc.Codec

/-!
# The codecs of the host protocol are exact

Each reader has a law that says which values it takes and how they are
written.  The codec of a frame or a payload is then exact: the encoder
accepts the same values and the decoder asks for the same length.
-/

namespace HydraSeat.HostIpc

open Foundation AudioMutationStatus HardwareDeviceKind List MessageType

/-! ## Enumerations -/

@[grind =]
theorem ClientRole.ofValue?_eq_some_iff (value : UInt8) (role : ClientRole) :
    ClientRole.ofValue? value = some role ↔ value = role.value := by
  constructor
  · intro named
    unfold ClientRole.ofValue? at named
    grind [ClientRole.value]
  · intro named
    rw [named]
    cases role <;> rfl

@[grind =]
theorem HardwareDeviceKind.ofValue?_eq_some_iff (value : UInt8) (kind : HardwareDeviceKind) :
    ofValue? value = some kind ↔ value = kind.value := by
  constructor
  · intro named
    unfold ofValue? at named
    grind [value]
  · intro named
    rw [named]
    cases kind <;> rfl

@[grind =]
theorem AudioMutationStatus.ofValue?_eq_some_iff (value : UInt16) (status : AudioMutationStatus) :
    ofValue? value = some status ↔ value = status.value := by
  constructor
  · intro named
    unfold ofValue? at named
    grind [value]
  · intro named
    rw [named]
    cases status <;> rfl

@[grind =]
theorem ErrorCode.ofValue?_eq_some_iff (value : UInt16) (code : ErrorCode) :
    ErrorCode.ofValue? value = some code ↔ value = code.value := by
  constructor
  · intro named
    unfold ErrorCode.ofValue? at named
    grind [ErrorCode.value]
  · intro named
    rw [named]
    cases code <;> rfl

theorem MessageType.ofValue_value {type : MessageType} (valid : validMessageType type = true) :
    ofValue type.value = type := by
  cases type with
  | unnamed value => cases valid
  | _ => rfl

theorem MessageType.value_ite {condition : Prop} [Decidable condition] {named other : MessageType}
    {value : UInt16}
    (whenNamed : condition → named.value = value)
    (otherwise : other.value = value) :
    (if condition then named else other).value = value := by
  by_cases holds : condition
  · rw [if_pos holds]
    exact whenNamed holds
  · rw [if_neg holds]
    exact otherwise

theorem MessageType.value_ofValue (value : UInt16) : (ofValue value).value = value := by
  unfold ofValue
  iterate 33
    apply value_ite
    · intro same
      exact same.symm
  rfl

/-! ## Strings -/

variable {value : ByteString} {maximum : Nat}

theorem validUtf8_length {allowEmpty : Bool}
    (valid : validUtf8 value maximum allowEmpty = true) :
    value.length ≤ maximum := by
  unfold validUtf8 at valid
  by_contra long
  have tooLong : value.length > maximum := by omega
  simp [tooLong] at valid

@[simp]
theorem appendString_length (value : ByteString) :
    (appendString value).length = 4 + value.length := by
  simp [appendString]

theorem length_toUInt32_toNat (small : value.length < 2 ^ 32) :
    value.length.toUInt32.toNat = value.length :=
  UInt32.toNat_ofNat_of_lt' small

theorem readString_readsOnly (small : maximum < 2 ^ 32) (allowEmpty : Bool) :
    ReadsOnly (readString maximum allowEmpty)
      (fun value => validUtf8 value maximum allowEmpty = true)
      appendString := by
  intro bytes value rest
  unfold readString
  simp only [readU32_reads.bind_eq_some_iff, reader_check_eq_some_iff,
    reader_bind_eq_some_iff, readBytes_eq_some_iff,
    reader_pure_eq_some_iff, Bool.not_eq_true', Bool.not_eq_false,
    not_lt]
  constructor
  · rintro ⟨length, middle, split, bounded, found, after, ⟨sized, splitAfter⟩, valid, same,
      sameRest⟩
    rw [same] at valid sized splitAfter
    refine ⟨valid, ?_⟩
    rw [split, splitAfter, sameRest, appendString, sized,
      Nat.toUInt32_eq, UInt32.ofNat_toNat, append_assoc]
  · rintro ⟨valid, split⟩
    have bounded := validUtf8_length valid
    have length := length_toUInt32_toNat (Nat.lt_of_le_of_lt bounded small)
    refine ⟨value.length.toUInt32, value ++ rest, ?_, ?_, value, rest,
      ⟨length.symm, rfl⟩, valid, rfl, rfl⟩
    · rw [split, appendString, append_assoc]
    · rw [length]
      exact bounded

/-! ## Reserved bytes -/

theorem eq_zeros {reserved : ByteString} {count : Nat} (length : reserved.length = count)
    (zero : ¬ reserved.any (· != 0) = true) :
    reserved = replicate count 0 := by
  apply eq_replicate_iff.mpr
  refine ⟨length, ?_⟩
  intro byte member
  by_contra nonzero
  apply zero
  rw [any_eq_true]
  exact ⟨byte, member, bne_iff_ne.mpr nonzero⟩

theorem zeros_any (count : Nat) : ¬ (replicate count (0 : UInt8)).any (· != 0) = true := by
  simp

theorem readReserved_field {α : Type} {next : ByteString → Reader α} {accepts : α → Prop}
    {writes : α → ByteString} (count : Nat)
    (later :
      ∀ reserved, reserved.length = count →
        ReadsOnly (next reserved) (fun value => replicate count 0 = reserved ∧ accepts value)
          writes) :
    ReadsOnly (readBytes count >>= next) accepts
      (fun value => replicate count 0 ++ writes value) := by
  have read : ReadsOnly (readBytes count) (fun reserved => reserved.length = count) id :=
    readBytes_readsOnly count
  exact read.field (fun _ _ => length_replicate) later

theorem readReserved_readsOnly {α : Type} {reader : Reader α} {accepts : α → Prop}
    {writes : α → ByteString} (count : Nat) (later : ReadsOnly reader accepts writes) :
    ReadsOnly
      (do
        let reserved ← readBytes count
        if reserved.any (· != 0) = true then failure
        reader)
      accepts (fun value => replicate count 0 ++ writes value) := by
  refine readReserved_field count fun reserved length => ?_
  refine .checked (by grind [zeros_any]) fun zero => ?_
  obtain rfl := eq_zeros length zero
  simpa using later

/-! ## Frames -/

theorem readFrameHeader_reads : Reads readFrameHeader writeFrameHeader := by
  unfold writeFrameHeader
  simp only [append_assoc]
  apply ReadsOnly.reads
  refine .any readU32_reads fun magic => ?_
  refine .any readU16_reads fun version => ?_
  refine .any readU16_reads fun rawType => ?_
  refine .any readU64_reads fun correlationId => ?_
  refine .any readU32_reads fun payloadSize => ?_
  refine .last readU32_reads fun reserved => ?_
  exact .built fun value => by cases value; grind

@[simp]
theorem writeFrameHeader_length (header : FrameHeader) :
    (writeFrameHeader header).length = kHostProtocolHeaderBytes := by
  simp [writeFrameHeader, kHostProtocolHeaderBytes]

theorem decodeFrame_encodeFrame {frame : Frame} (valid : validMessageType frame.type = true)
    (correlated : frame.correlationId ≠ 0)
    (sized : frame.payload.length ≤ kHostProtocolMaxPayloadBytes) :
    decodeFrame (writeFrameHeader frame.header ++ frame.payload) = .ok frame := by
  have payloadSize : frame.header.payloadSize.toNat = frame.payload.length := by
    apply length_toUInt32_toNat
    unfold kHostProtocolMaxPayloadBytes at sized
    omega
  have type : ofValue frame.header.rawType = frame.type := ofValue_value valid
  have length :
      (writeFrameHeader frame.header ++ frame.payload).length =
        kHostProtocolHeaderBytes + frame.payload.length := by
    rw [length_append, writeFrameHeader_length]
  have magic : frame.header.magic = kHostProtocolMagic := rfl
  have version : frame.header.version = kHostProtocolVersion := rfl
  unfold decodeFrame
  rw [if_neg (by omega), readFrameHeader_reads.read_write]
  dsimp only
  rw [type, payloadSize, length, if_neg (not_not.mpr magic), if_neg (not_not.mpr version)]
  have metadata :
      ¬ (validMessageType frame.type = false ∨
        frame.header.correlationId = 0 ∨ frame.header.reserved ≠ 0) := by
    rw [valid]
    have same : frame.header.correlationId = frame.correlationId := rfl
    have zero : frame.header.reserved = 0 := rfl
    simp [same, zero, correlated]
  rw [if_neg metadata, if_neg (by omega)]
  rfl

theorem frame_exact : ExactCodec encodeFrame fun bytes => (decodeFrame bytes).toOption where
  decode_encode := by
    intro frame encoded
    unfold encodeFrame at encoded ⊢
    by_cases refused :
        validMessageType frame.type = false ∨ frame.correlationId = 0 ∨
          frame.payload.length > kHostProtocolMaxPayloadBytes
    · rw [if_pos refused] at encoded
      exact absurd rfl encoded
    · rw [if_neg refused]
      rw [not_or, not_or, Bool.not_eq_false, not_lt] at refused
      rw [decodeFrame_encodeFrame refused.1 refused.2.1 refused.2.2]
      rfl
  encode_decode := by
    intro bytes frame decoded
    unfold decodeFrame at decoded
    by_cases short : bytes.length < kHostProtocolHeaderBytes
    · rw [if_pos short] at decoded
      cases decoded
    rw [if_neg short] at decoded
    cases read : readFrameHeader bytes with
    | none =>
      rw [read] at decoded
      cases decoded
    | some result =>
      obtain ⟨header, payload⟩ := result
      rw [read] at decoded
      dsimp only at decoded
      have split := (readFrameHeader_reads _ _ _).mp read
      have length := congrArg length split
      rw [length_append, writeFrameHeader_length] at length
      by_cases magic : header.magic ≠ kHostProtocolMagic
      · rw [if_pos magic] at decoded
        cases decoded
      rw [if_neg magic] at decoded
      by_cases version : header.version ≠ kHostProtocolVersion
      · rw [if_pos version] at decoded
        cases decoded
      rw [if_neg version] at decoded
      split at decoded
      · cases decoded
      next metadata =>
        split at decoded
        · cases decoded
        next sized =>
          rw [not_or, not_or, Bool.not_eq_false, not_not] at metadata
          rw [not_or, not_lt, not_not] at sized
          have payloadSize : payload.length = header.payloadSize.toNat := by
            omega
          have sameFrame := Option.some.inj decoded
          subst sameFrame
          have sameHeader :
              Frame.header
                { type := MessageType.ofValue header.rawType
                  correlationId := header.correlationId, payload := payload } = header := by
            unfold Frame.header
            dsimp only
            rw [MessageType.value_ofValue, payloadSize, Nat.toUInt32_eq, UInt32.ofNat_toNat,
              ← not_not.mp magic, ← not_not.mp version,
              ← metadata.2.2]
          unfold encodeFrame
          rw [if_neg, sameHeader, split]
          rw [not_or, not_or, Bool.not_eq_false, not_lt]
          refine ⟨metadata.1, metadata.2.1, ?_⟩
          dsimp only
          omega

/-! ## Payloads of a fixed length -/

theorem hello_exact : ExactCodec encodeHello decodeHello where
  decode_encode := by
    intro value _
    cases value with
    | mk role => cases role <;> rfl
  encode_decode := by
    intro payload value decoded
    unfold decodeHello at decoded
    by_cases sized : payload.length ≠ 8
    · rw [if_pos sized] at decoded
      cases decoded
    rw [if_neg sized] at decoded
    cases payload with
    | nil => cases decoded
    | cons rawRole reserved =>
      dsimp only at decoded
      obtain ⟨zero, decoded⟩ := not_taken decoded nofun
      have length : reserved.length = 7 := Nat.succ.inj (not_not.mp sized)
      obtain ⟨role, named, same⟩ := Option.map_eq_some_iff.mp decoded
      have rawValue := (ClientRole.ofValue?_eq_some_iff rawRole role).mp named
      rw [← same, eq_zeros length zero, rawValue]
      cases role <;> rfl

theorem inputActivityRequest_exact :
    ExactCodec encodeInputActivityRequest decodeInputActivityRequest where
  decode_encode := by
    intro value encoded
    cases value with
    | mk kind =>
      cases kind with
      | display => exact absurd rfl encoded
      | keyboard | mouse => rfl
      | controller => exact absurd rfl encoded
  encode_decode := by
    intro payload value decoded
    unfold decodeInputActivityRequest at decoded
    by_cases sized : payload.length ≠ 4
    · rw [if_pos sized] at decoded
      cases decoded
    rw [if_neg sized] at decoded
    cases payload with
    | nil => cases decoded
    | cons rawKind reserved =>
      dsimp only at decoded
      obtain ⟨zero, decoded⟩ := not_taken decoded nofun
      have length : reserved.length = 3 := Nat.succ.inj (not_not.mp sized)
      rw [eq_zeros length zero]
      split at decoded
      next named =>
        have rawValue := (HardwareDeviceKind.ofValue?_eq_some_iff _ _).mp named
        rw [← Option.some.inj decoded, rawValue]
        rfl
      next named =>
        have rawValue := (HardwareDeviceKind.ofValue?_eq_some_iff _ _).mp named
        rw [← Option.some.inj decoded, rawValue]
        rfl
      · cases decoded

theorem fixed_exact {Value : Type} {reader : Reader Value}
    {accepts : Value → Prop} {writes : Value → ByteString}
    {encode : Value → ByteString} {decode : ByteString → Option Value}
    (length : Nat) (reads : ReadsOnly reader accepts writes)
    (written : ∀ value, accepts value → encode value = writes value)
    (refused : ∀ value, ¬ accepts value → encode value = [])
    (sized : ∀ value, (writes value).length = length)
    (decode_eq :
      ∀ payload, decode payload = if payload.length ≠ length then none
        else decodeAll reader payload) :
    ExactCodec encode decode := by
  apply reads.exactCodec (fun tested => ¬ tested ≠ length)
  · intro value accepted _
    exact written value accepted
  · intro value bad
    apply refused
    intro accepted
    exact bad ⟨accepted, not_not.mpr (sized value)⟩
  · intro payload value
    exact decodes_of_if (decode_eq payload)

theorem readHelloAck_readsOnly :
    ReadsOnly readHelloAck
      (fun value => value.protocolVersion = kHostProtocolVersion ∧ value.seatCount = kHostSeatCount)
      writeHelloAck := by
  unfold writeHelloAck
  simp only [append_assoc]
  refine .any readU8_reads fun rawRole => ?_
  refine .any readU8_reads fun seatCount => ?_
  refine .any readU16_reads fun version => ?_
  refine .last readU32_reads fun reserved => ?_
  refine .named HelloAck.role (by grind) fun role named => ?_
  refine .checked (by grind) fun passed => ?_
  exact .built fun value => by cases value; grind

theorem helloAck_exact : ExactCodec encodeHelloAck decodeHelloAck := by
  apply fixed_exact 8 readHelloAck_readsOnly
  · intro value accepted
    unfold encodeHelloAck
    rw [if_neg]
    rw [not_or, not_not, not_not]
    exact accepted
  · intro value bad
    unfold encodeHelloAck
    rw [if_pos]
    by_contra good
    rw [not_or, not_not, not_not] at good
    exact bad good
  · intro value
    simp [writeHelloAck]
  · intro payload
    rfl

theorem readSeatId_readsOnly :
    ReadsOnly readSeatId (fun seatId => validSeatId seatId = true)
      (fun seatId => writeU32 seatId ++ writeU32 0) := by
  refine .any readU32_reads fun seatId => ?_
  refine .last readU32_reads fun reserved => ?_
  refine .checked (by grind) fun passed => ?_
  exact .built (by grind)

theorem readSeatId_field {α : Type} {next : UInt32 → Reader α} {accepts : α → Prop}
    {writes : α → ByteString} {part : α → UInt32}
    (implied : ∀ value, accepts value → validSeatId (part value) = true)
    (later :
      ∀ seatId, validSeatId seatId = true →
        ReadsOnly (next seatId) (fun value => part value = seatId ∧ accepts value) writes) :
    ReadsOnly (readSeatId >>= next) accepts
      (fun value => writeU32 (part value) ++ (writeU32 0 ++ writes value)) := by
  simpa only [append_assoc] using readSeatId_readsOnly.field implied later

theorem readSeatRequest_readsOnly :
    ReadsOnly readSeatRequest (fun request => validSeatId request.seatId = true)
      writeSeatRequest := by
  unfold writeSeatRequest
  refine .lastField readSeatId_readsOnly (by grind) fun seatId valid => ?_
  exact .built fun value => by cases value; grind

theorem seatRequest_exact : ExactCodec encodeSeatRequest decodeSeatRequest := by
  apply fixed_exact 8 readSeatRequest_readsOnly
  · intro request valid
    simp [encodeSeatRequest, valid]
  · intro request bad
    simp [encodeSeatRequest, bad]
  · intro request
    simp [writeSeatRequest]
  · intro payload
    rfl

theorem readProcessRequest_readsOnly :
    ReadsOnly readProcessRequest
      (fun request => request.processId ≠ 0 ∧ request.creationIdentity ≠ 0)
      writeProcessRequest := by
  unfold writeProcessRequest
  refine .any readU32_reads fun processId => ?_
  refine .last readU64_reads fun creationIdentity => ?_
  refine .checked (by grind) fun valid => ?_
  exact .built fun value => by cases value; grind

theorem processRequest_exact : ExactCodec encodeProcessRequest decodeProcessRequest := by
  apply fixed_exact 12 readProcessRequest_readsOnly
  · intro request valid
    unfold encodeProcessRequest
    rw [if_neg (not_or.mpr valid)]
  · intro request bad
    unfold encodeProcessRequest
    rw [if_pos]
    by_contra good
    exact bad (not_or.mp good)
  · intro request
    simp [writeProcessRequest]
  · intro payload
    rfl

theorem readAudioMutationResult_readsOnly :
    ReadsOnly readAudioMutationResult (fun _ => True) encodeAudioMutationResult := by
  unfold encodeAudioMutationResult
  simp only [append_assoc]
  refine .any readU16_reads fun rawStatus => ?_
  refine .any readU16_reads fun reserved16 => ?_
  refine .last readU32_reads fun reserved32 => ?_
  refine .checked (by grind) fun zero => ?_
  refine .named AudioMutationResult.status (by grind) fun status named => ?_
  exact .built fun value => by cases value; grind

theorem audioMutationResult_exact :
    ExactCodec encodeAudioMutationResult decodeAudioMutationResult := by
  apply fixed_exact 8 readAudioMutationResult_readsOnly
  · intro result _
    rfl
  · intro result bad
    exact absurd trivial bad
  · intro result
    simp [encodeAudioMutationResult]
  · intro payload
    rfl

theorem readPing_readsOnly : ReadsOnly readPing (fun nonce => nonce ≠ 0) writeU64 := by
  refine .last readU64_reads fun nonce => ?_
  refine .checked (by grind) fun nonzero => ?_
  exact .built (by grind)

theorem ping_exact : ExactCodec encodePing decodePing := by
  apply fixed_exact 8 readPing_readsOnly
  · intro nonce nonzero
    exact if_neg nonzero
  · intro nonce bad
    exact if_pos (not_not.mp bad)
  · intro nonce
    exact writeU64_length nonce
  · intro payload
    rfl

/-! ## Snapshots -/

theorem flags_toNat_lt {flags : UInt32} (known : flags &&& ~~~kSeatFlagMask = 0) :
    flags.toNat < 64 := by
  have bits : flags.toBitVec &&& ~~~63#32 = 0#32 := congrArg UInt32.toBitVec known
  apply Nat.lt_pow_two_of_testBit (n := 6)
  intro index large
  by_cases inside : index < 32
  · have bit : (flags.toBitVec &&& ~~~63#32).getLsbD index = false := by
      rw [bits]
      exact BitVec.getLsbD_zero
    have small : (63#32).getLsbD index = false := by
      apply Nat.testBit_lt_two_pow
      calc
        63 < 2 ^ 6 := by decide
        _ ≤ 2 ^ index := Nat.pow_le_pow_right (by decide) large
    rw [BitVec.getLsbD_and, BitVec.getLsbD_not, small,
      decide_eq_true inside, Bool.not_false, Bool.and_true,
      Bool.and_true] at bit
    exact bit
  · apply Nat.testBit_lt_two_pow
    calc
      flags.toNat < 2 ^ 32 := flags.toNat_lt
      _ ≤ 2 ^ index := Nat.pow_le_pow_right (by decide) (by omega)

theorem seatFlags_withFlags {flags : UInt32} (known : flags &&& ~~~kSeatFlagMask = 0)
    (seat : SeatSnapshot) :
    seatFlags (seat.withFlags flags) = flags := by
  have all :
      ∀ number : Fin 64,
        seatFlags (SeatSnapshot.withFlags {} (UInt32.ofNat number.val)) =
          UInt32.ofNat number.val := by
    decide
  have one := all ⟨flags.toNat, flags_toNat_lt known⟩
  rw [UInt32.ofNat_toNat] at one
  exact one

theorem withFlags_seatFlags (seat : SeatSnapshot) : seat.withFlags (seatFlags seat) = seat := by
  obtain ⟨seatId, generation, active, uiLeaseActive, gameLeaseActive,
    processOwned, windowOwned, controllerBound, _, _, _⟩ := seat
  revert active uiLeaseActive gameLeaseActive processOwned windowOwned controllerBound
  simp only [SeatSnapshot.withFlags, SeatSnapshot.mk.injEq, true_and, and_true]
  unfold seatFlags
  dsimp only
  decide

theorem seatFlags_known (seat : SeatSnapshot) : seatFlags seat &&& ~~~kSeatFlagMask = 0 := by
  unfold seatFlags
  dsimp only
  generalize seat.active = active
  generalize seat.uiLeaseActive = uiLeaseActive
  generalize seat.gameLeaseActive = gameLeaseActive
  generalize seat.processOwned = processOwned
  generalize seat.windowOwned = windowOwned
  generalize seat.controllerBound = controllerBound
  revert active uiLeaseActive gameLeaseActive processOwned windowOwned controllerBound
  decide

theorem readSeatSnapshot_readsOnly (expectedSeatId : UInt32) :
    ReadsOnly (readSeatSnapshot expectedSeatId)
      (fun seat => validSeatSnapshot seat expectedSeatId = true)
      encodeSeatSnapshot := by
  intro bytes value rest
  unfold readSeatSnapshot encodeSeatSnapshot
  simp only [reader_bind_eq_some_iff, readU32_reads _ _ _,
    readU64_reads _ _ _, reader_check_eq_some_iff,
    reader_pure_eq_some_iff, not_or, not_not, Bool.not_eq_false]
  constructor
  · rintro ⟨seatId, _, split, reservedBefore, _, split1, generation, _,
      split2, flags, _, split3, reservedAfter, _, split4, processId, _,
      split5, reservedProcess, _, split6, creation, _, split7, hwnd, _,
      split8, ⟨zero, zeroAfter, zeroProcess, known⟩, valid, same,
      sameRest⟩
    subst same
    rw [seatFlags_withFlags known]
    subst_vars
    exact ⟨valid, by simp only [SeatSnapshot.withFlags, append_assoc]⟩
  · rintro ⟨valid, split⟩
    subst split
    have whole := withFlags_seatFlags value
    refine ⟨value.seatId, _, by simp only [append_assoc], 0, _,
      rfl, value.generation, _, rfl, seatFlags value, _, rfl, 0, _, rfl,
      value.processId, _, rfl, 0, _, rfl, value.processCreationIdentity,
      _, rfl, value.targetHwnd, rest, rfl,
      ⟨rfl, rfl, rfl, seatFlags_known value⟩, ?_, ?_, rfl⟩
    · rw [← whole] at valid
      exact valid
    · exact whole

theorem readSnapshot_readsOnly :
    ReadsOnly readSnapshot
      (fun snapshot =>
        snapshot.authorityRevision ≠ 0 ∧ validSeatSnapshot snapshot.seat1 1 = true ∧
          validSeatSnapshot snapshot.seat2 2 = true)
      writeSnapshot := by
  unfold writeSnapshot
  simp only [append_assoc]
  refine .any readU64_reads fun revision => ?_
  refine .checked (by grind) fun nonzero => ?_
  refine .field (readSeatSnapshot_readsOnly 1) (by grind) fun seat1 valid1 => ?_
  refine .lastField (readSeatSnapshot_readsOnly 2) (by grind) fun seat2 valid2 => ?_
  exact .built fun value => by cases value; grind

@[simp]
theorem encodeSeatSnapshot_length (seat : SeatSnapshot) :
    (encodeSeatSnapshot seat).length = 48 := by
  simp [encodeSeatSnapshot]

theorem snapshot_exact : ExactCodec encodeSnapshot decodeSnapshot := by
  apply fixed_exact 104 readSnapshot_readsOnly
  · intro snapshot ⟨nonzero, valid1, valid2⟩
    simp [encodeSnapshot, nonzero, valid1, valid2]
  · intro snapshot bad
    unfold encodeSnapshot
    rw [if_pos]
    by_contra good
    apply bad
    simpa [and_assoc] using good
  · intro snapshot
    simp [writeSnapshot]
  · intro payload
    rfl

/-! ## Payloads of a varying length -/

theorem bounded_exact {Value : Type} {reader : Reader Value}
    {accepts : Value → Prop} {writes : Value → ByteString}
    {encode : Value → ByteString} {decode : ByteString → Option Value}
    (low high : Nat) (reads : ReadsOnly reader accepts writes)
    (large : ∀ value, accepts value → low ≤ (writes value).length)
    (written : ∀ value, accepts value → (writes value).length ≤ high → encode value = writes value)
    (refused : ∀ value, ¬ (accepts value ∧ (writes value).length ≤ high) → encode value = [])
    (decode_eq :
      ∀ payload, decode payload = if payload.length < low ∨ payload.length > high then none
        else decodeAll reader payload) :
    ExactCodec encode decode := by
  apply reads.exactCodec fun tested => ¬ (tested < low ∨ tested > high)
  · intro value accepted fits
    apply written value accepted
    omega
  · intro value bad
    apply refused
    intro ⟨accepted, short⟩
    apply bad
    refine ⟨accepted, ?_⟩
    have long := large value accepted
    omega
  · intro payload value
    exact decodes_of_if (decode_eq payload)

theorem validUtf8_nonempty (value : ByteString) (maximum : Nat) :
    validUtf8 value maximum false = true ↔ value ≠ [] ∧ validUtf8 value maximum true = true := by
  cases value with
  | nil | cons byte bytes => simp [validUtf8]

theorem printableId_length
    (printable : printableId maximum value = true) :
    0 < value.length ∧ value.length ≤ maximum := by
  unfold printableId at printable
  rw [Bool.and_eq_true, Bool.and_eq_true, Bool.not_eq_true', decide_eq_true_iff] at printable
  obtain ⟨⟨nonempty, bounded⟩, _⟩ := printable
  refine ⟨?_, bounded⟩
  apply length_pos_iff.mpr
  intro empty
  rw [empty] at nonempty
  cases nonempty

theorem readPrintableId_readsOnly (small : maximum < 2 ^ 32) :
    ReadsOnly (readPrintableId maximum)
      (fun value => printableId maximum value = true) appendString := by
  intro bytes value rest
  unfold readPrintableId
  simp only [readU32_reads.bind_eq_some_iff, reader_check_eq_some_iff,
    reader_bind_eq_some_iff, readBytes_eq_some_iff,
    reader_pure_eq_some_iff, Bool.not_eq_false]
  constructor
  · rintro ⟨length, middle, split, bounded, found, after,
      ⟨sized, splitAfter⟩, printable, same, sameRest⟩
    rw [same] at printable sized splitAfter
    refine ⟨printable, ?_⟩
    rw [split, splitAfter, sameRest, appendString, sized,
      Nat.toUInt32_eq, UInt32.ofNat_toNat, append_assoc]
  · rintro ⟨printable, split⟩
    have bounds := printableId_length printable
    have length := length_toUInt32_toNat (Nat.lt_of_le_of_lt bounds.2 small)
    refine ⟨value.length.toUInt32, value ++ rest, ?_, ?_, value, rest,
      ⟨length.symm, rfl⟩, printable, rfl, rfl⟩
    · rw [split, appendString, append_assoc]
    intro bad
    cases bad with
    | inl zero =>
      rw [zero] at length
      have positive := bounds.1
      rw [← length] at positive
      exact absurd positive (Nat.lt_irrefl 0)
    | inr long =>
      rw [length] at long
      have bounded := bounds.2
      omega

theorem readCount_readsOnly (small : maximum < 2 ^ 32) :
    ReadsOnly (readCount maximum) (fun count => count ≤ maximum)
      (fun count => writeU32 count.toUInt32 ++ writeU32 0) := by
  intro bytes value rest
  unfold readCount
  simp only [reader_bind_eq_some_iff, readU32_reads _ _ _,
    reader_check_eq_some_iff, reader_pure_eq_some_iff, not_or, not_not,
    not_lt]
  constructor
  · rintro ⟨count, _, split, reserved, _, split1, ⟨zero, bounded⟩, same, sameRest⟩
    subst_vars
    refine ⟨bounded, ?_⟩
    rw [Nat.toUInt32_eq, UInt32.ofNat_toNat, append_assoc]
  rintro ⟨bounded, split⟩
  have length : value.toUInt32.toNat = value :=
    UInt32.toNat_ofNat_of_lt' (Nat.lt_of_le_of_lt bounded small)
  refine ⟨value.toUInt32, writeU32 0 ++ rest, ?_, 0, rest, rfl, ⟨rfl, ?_⟩, length, rfl⟩
  · rw [split, append_assoc]
  · rw [length]
    exact bounded

theorem appendRecords_eq {Record : Type} (valid : Record → Bool) (writes : Record → ByteString)
    (out : ByteString) (records : List Record)
    (fits : out.length ≤ kHostProtocolMaxPayloadBytes) :
    appendRecords valid writes out records =
      if (∀ record ∈ records, valid record = true) ∧
          (out ++ writeMany writes records).length ≤ kHostProtocolMaxPayloadBytes then
        out ++ writeMany writes records
      else [] := by
  induction records generalizing out with
  | nil => simp [appendRecords, writeMany, fits]
  | cons record records ih =>
    have whole :
        out ++ writeMany writes (record :: records) =
          out ++ writes record ++ writeMany writes records := by
      simp [writeMany]
    rw [appendRecords, whole]
    by_cases good : valid record = true
    · rw [good, Bool.not_true, if_neg Bool.false_ne_true]
      by_cases long : (out ++ writes record).length > kHostProtocolMaxPayloadBytes
      · rw [if_pos long, if_neg]
        rintro ⟨_, short⟩
        have total :
            (out ++ writes record ++ writeMany writes records).length =
              (out ++ writes record).length + (writeMany writes records).length :=
          length_append
        omega
      · rw [if_neg long, ih _ (not_lt.mp long)]
        simp [good]
    · rw [if_pos (by simp [good]), if_neg]
      rintro ⟨all, _⟩
      exact good (all record mem_cons_self)

def writeRecords {Record : Type} (writes : Record → ByteString)
    (records : List Record) : ByteString :=
  writeU32 records.length.toUInt32 ++ writeU32 0 ++ writeMany writes records

theorem records_exact {Record Value : Type} {reader : Reader Record}
    {valid : Record → Bool} {writes : Record → ByteString}
    {encode : Value → ByteString} {decode : ByteString → Option Value}
    (build : List Record → Value) (records : Value → List Record)
    (maximum : Nat) (small : maximum < 2 ^ 32)
    (reads : ReadsOnly reader (fun record => valid record = true) writes)
    (build_records : ∀ value, build (records value) = value)
    (records_build : ∀ list, records (build list) = list)
    (encode_eq :
      ∀ value, encode value = if (records value).length > maximum then []
        else
          appendRecords valid writes (writeU32 (records value).length.toUInt32 ++ writeU32 0)
            (records value))
    (decode_eq :
      ∀ payload, decode payload =
        if payload.length < 8 ∨ payload.length > kHostProtocolMaxPayloadBytes then none
        else
          decodeAll
            (do
              let count ← readCount maximum
              let list ← readMany reader count
              return build list)
            payload) :
    ExactCodec encode decode := by
  have readsList :
      ReadsOnly
        (do
          let count ← readCount maximum
          let list ← readMany reader count
          return build list)
        (fun value =>
          (records value).length ≤ maximum ∧ ∀ record ∈ records value, valid record = true)
        (fun value => writeRecords writes (records value)) := by
    intro bytes value rest
    simp only [(readCount_readsOnly small).bind_eq_some_iff,
      reader_bind_eq_some_iff, readMany_readsOnly reads,
      reader_pure_eq_some_iff, writeRecords]
    constructor
    · rintro ⟨count, _, ⟨bounded, split⟩, list, _, ⟨⟨length, allValid⟩, splitList⟩, same, sameRest⟩
      rw [← same, records_build, length, split, splitList, sameRest,
        append_assoc, append_assoc]
      exact ⟨⟨bounded, allValid⟩, by simp only [append_assoc]⟩
    rintro ⟨⟨bounded, allValid⟩, split⟩
    refine ⟨(records value).length, writeMany writes (records value) ++
      rest, ⟨bounded, ?_⟩, records value, rest,
      ⟨⟨rfl, allValid⟩, rfl⟩, build_records value, rfl⟩
    rw [split]
    simp only [append_assoc]
  have fits (value : Value) :
      (writeU32 (records value).length.toUInt32 ++ writeU32 0).length ≤
        kHostProtocolMaxPayloadBytes := by
    simp [kHostProtocolMaxPayloadBytes]
  apply bounded_exact 8 kHostProtocolMaxPayloadBytes readsList
  · intro value _
    simp [writeRecords]
    omega
  · rintro value ⟨bounded, allValid⟩ short
    rw [encode_eq, if_neg (not_lt.mpr bounded),
      appendRecords_eq _ _ _ _ (fits value), if_pos ⟨allValid, short⟩]
    rfl
  · intro value bad
    rw [encode_eq]
    by_cases long : (records value).length > maximum
    · rw [if_pos long]
    · rw [if_neg long, appendRecords_eq _ _ _ _ (fits value), if_neg]
      rintro ⟨allValid, short⟩
      exact bad ⟨⟨not_lt.mp long, allValid⟩, short⟩
  · exact decode_eq

theorem readHardwareDevice_readsOnly :
    ReadsOnly readHardwareDevice (fun device => validHardwareDeviceRecord device = true)
      writeHardwareDevice := by
  unfold writeHardwareDevice validHardwareDeviceRecord
  simp only [append_assoc]
  refine .any readU8_reads fun rawKind => ?_
  refine readReserved_readsOnly 3 ?_
  refine .named HardwareDeviceRecord.kind (by grind) fun kind named => ?_
  refine .field (readString_readsOnly (by decide) _) (by grind) fun stableId _ => ?_
  refine .lastField (readString_readsOnly (by decide) _) (by grind) fun displayName _ => ?_
  exact .built fun value => by cases value; grind

theorem hardwareInventory_exact : ExactCodec encodeHardwareInventory decodeHardwareInventory := by
  apply records_exact HardwareInventory.mk HardwareInventory.devices
    kHostProtocolMaxHardwareDevices (by decide)
    readHardwareDevice_readsOnly
  · intro inventory
    rfl
  · intro devices
    rfl
  · intro inventory
    rfl
  · intro payload
    rfl

theorem readGameCatalogEntry_readsOnly :
    ReadsOnly readGameCatalogEntry (fun game => validGameCatalogEntry game = true)
      writeGameCatalogEntry := by
  unfold writeGameCatalogEntry validGameCatalogEntry
  simp only [append_assoc]
  refine .field (readString_readsOnly (by decide) _) (by grind) fun providerId _ => ?_
  refine .field (readString_readsOnly (by decide) _) (by grind) fun providerAppId _ => ?_
  refine .field (readString_readsOnly (by decide) _) (by grind) fun title _ => ?_
  refine .field (readString_readsOnly (by decide) _) (by grind) fun executablePath _ => ?_
  refine .lastField (readString_readsOnly (by decide) _) (by grind) fun workingDirectory _ => ?_
  exact .built fun value => by cases value; grind

theorem gameCatalog_exact : ExactCodec encodeGameCatalog decodeGameCatalog := by
  apply records_exact GameCatalog.mk GameCatalog.games
    kHostProtocolMaxGameCatalogEntries (by decide)
    readGameCatalogEntry_readsOnly
  · intro catalog
    rfl
  · intro games
    rfl
  · intro catalog
    rfl
  · intro payload
    rfl

theorem readSeatHardwareAssignment_readsOnly :
    ReadsOnly readSeatHardwareAssignment
      (fun assignment => validSeatHardwareAssignment assignment = true)
      writeSeatHardwareAssignment := by
  unfold writeSeatHardwareAssignment validSeatHardwareAssignment
  simp only [append_assoc]
  refine readSeatId_field (by grind) fun seatId _ => ?_
  refine .field (readString_readsOnly (by decide) _) (by grind) fun displayId _ => ?_
  refine .field (readString_readsOnly (by decide) _) (by grind) fun keyboardId _ => ?_
  refine .field (readString_readsOnly (by decide) _) (by grind) fun mouseId _ => ?_
  refine .lastField (readString_readsOnly (by decide) _) (by grind) fun controllerId _ => ?_
  exact .built fun value => by cases value; grind

theorem seatHardwareAssignment_exact :
    ExactCodec encodeSeatHardwareAssignment decodeSeatHardwareAssignment := by
  apply bounded_exact 20 kHostProtocolMaxPayloadBytes readSeatHardwareAssignment_readsOnly
  · intro assignment _
    simp [writeSeatHardwareAssignment]
    omega
  · intro assignment valid short
    simp [encodeSeatHardwareAssignment, valid, short]
  · intro assignment bad
    unfold encodeSeatHardwareAssignment
    by_cases valid : validSeatHardwareAssignment assignment = true
    · have long :
          (writeSeatHardwareAssignment assignment).length > kHostProtocolMaxPayloadBytes := by
        by_contra short
        exact bad ⟨valid, not_lt.mp short⟩
      simp [valid, long]
    · simp [valid]
  · intro payload
    rfl

theorem readControllerPairRequest_readsOnly :
    ReadsOnly readControllerPairRequest (fun request => validControllerPairRequest request = true)
      writeControllerPairRequest := by
  unfold writeControllerPairRequest validControllerPairRequest validControllerId
  simp only [append_assoc]
  refine .any readU32_reads fun seatId => ?_
  refine .any readU8_reads fun runtimeXInputSlot => ?_
  refine readReserved_field 3 fun reserved length => ?_
  refine .checked (by grind [zeros_any]) fun passed => ?_
  obtain rfl := eq_zeros length (by grind)
  refine .lastField (readPrintableId_readsOnly (by decide)) (by grind) fun controllerId _ => ?_
  exact .built fun value => by cases value; grind

theorem controllerPairRequest_exact :
    ExactCodec encodeControllerPairRequest decodeControllerPairRequest := by
  apply bounded_exact 12 (12 + kHostProtocolMaxControllerIdBytes)
    readControllerPairRequest_readsOnly
  · intro request _
    simp [writeControllerPairRequest]
    omega
  · intro request valid _
    simp [encodeControllerPairRequest, valid]
  · intro request bad
    unfold encodeControllerPairRequest
    rw [if_pos]
    by_contra good
    have valid : validControllerPairRequest request = true := by
      simpa using good
    apply bad
    refine ⟨valid, ?_⟩
    unfold validControllerPairRequest at valid
    rw [Bool.and_eq_true] at valid
    have bounds := printableId_length valid.2
    simp [writeControllerPairRequest]
    omega
  · intro payload
    rfl

/-- A title and a provider, or neither. -/
def ValidSeatRuntimeInfo (info : SeatRuntimeInfo) : Prop :=
  validSeatId info.seatId = true ∧
    validUtf8 info.titleUtf8 kHostProtocolMaxLaunchTitleBytes true = true ∧
    validUtf8 info.providerIdUtf8 kHostProtocolMaxProviderIdBytes true = true ∧
    info.titleUtf8.isEmpty = info.providerIdUtf8.isEmpty

theorem readSeatRuntimeInfo_readsOnly :
    ReadsOnly readSeatRuntimeInfo ValidSeatRuntimeInfo writeSeatRuntimeInfo := by
  unfold writeSeatRuntimeInfo ValidSeatRuntimeInfo
  simp only [append_assoc]
  refine readSeatId_field (by grind) fun seatId _ => ?_
  refine .field (readString_readsOnly (by decide) _) (by grind) fun title _ => ?_
  refine .lastField (readString_readsOnly (by decide) _) (by grind) fun providerId _ => ?_
  refine .checked (by grind) fun together => ?_
  exact .built fun value => by cases value; grind

theorem encodeSeatRuntimeInfo_eq (info : SeatRuntimeInfo) :
    ValidSeatRuntimeInfo info ↔
      ¬ (!validSeatId info.seatId ||
        ((!info.titleUtf8.isEmpty || !info.providerIdUtf8.isEmpty) &&
          (!validUtf8 info.titleUtf8 kHostProtocolMaxLaunchTitleBytes false ||
            !validUtf8 info.providerIdUtf8 kHostProtocolMaxProviderIdBytes false))) = true := by
  obtain ⟨seatId, title, providerId⟩ := info
  have empty (maximum : Nat) : validUtf8 [] maximum true = true := rfl
  have titleLaw := validUtf8_nonempty title kHostProtocolMaxLaunchTitleBytes
  have providerLaw := validUtf8_nonempty providerId kHostProtocolMaxProviderIdBytes
  unfold ValidSeatRuntimeInfo
  cases title with
  | nil =>
    cases providerId with
    | nil => simp [empty]
    | cons byte bytes => simp [titleLaw]
  | cons first tail =>
    cases providerId with
    | nil => simp [providerLaw]
    | cons byte bytes => simp [titleLaw, providerLaw]

theorem seatRuntimeInfo_exact : ExactCodec encodeSeatRuntimeInfo decodeSeatRuntimeInfo := by
  apply bounded_exact 16 kHostProtocolMaxPayloadBytes readSeatRuntimeInfo_readsOnly
  · intro info _
    simp [writeSeatRuntimeInfo]
    omega
  · intro info valid short
    unfold encodeSeatRuntimeInfo
    rw [if_neg ((encodeSeatRuntimeInfo_eq info).mp valid)]
    exact if_pos short
  · intro info bad
    unfold encodeSeatRuntimeInfo
    by_cases valid : ValidSeatRuntimeInfo info
    · rw [if_neg ((encodeSeatRuntimeInfo_eq info).mp valid)]
      apply if_neg
      intro short
      exact bad ⟨valid, short⟩
    · rw [if_pos]
      by_contra good
      exact valid ((encodeSeatRuntimeInfo_eq info).mpr good)
  · intro payload
    rfl

theorem readLaunchGameRequest_readsOnly :
    ReadsOnly readLaunchGameRequest (fun request => validLaunchGameRequest request = true)
      writeLaunchGameRequest := by
  unfold writeLaunchGameRequest validLaunchGameRequest
  simp only [append_assoc]
  refine readSeatId_field (by grind) fun seatId _ => ?_
  refine .field (readString_readsOnly (by decide) _) (by grind) fun title _ => ?_
  refine .field (readString_readsOnly (by decide) _) (by grind) fun executablePath _ => ?_
  refine .field (readString_readsOnly (by decide) _) (by grind) fun launchArguments _ => ?_
  refine .lastField (readString_readsOnly (by decide) _) (by grind) fun workingDirectory _ => ?_
  exact .built fun value => by cases value; grind

theorem launchGameRequest_exact : ExactCodec encodeLaunchGameRequest decodeLaunchGameRequest := by
  apply bounded_exact 24 kHostProtocolMaxPayloadBytes readLaunchGameRequest_readsOnly
  · intro request _
    simp [writeLaunchGameRequest]
    omega
  · intro request valid short
    simp [encodeLaunchGameRequest, valid, short]
  · intro request bad
    unfold encodeLaunchGameRequest
    by_cases valid : validLaunchGameRequest request = true
    · have long : (writeLaunchGameRequest request).length > kHostProtocolMaxPayloadBytes := by
        by_contra short
        exact bad ⟨valid, not_lt.mp short⟩
      simp [valid, long]
    · simp [valid]
  · intro payload
    rfl

/-- A device that was active, or no device and no activity yet. -/
def ValidInputActivity (snapshot : InputActivitySnapshot) : Prop :=
  (snapshot.kind = .keyboard ∨ snapshot.kind = .mouse) ∧
    validUtf8 snapshot.stableIdUtf8 kHostProtocolMaxHardwareDeviceIdBytes
        (snapshot.sequence == 0) = true ∧
    (snapshot.sequence == 0) = snapshot.stableIdUtf8.isEmpty

theorem readInputActivitySnapshot_readsOnly :
    ReadsOnly readInputActivitySnapshot ValidInputActivity writeInputActivitySnapshot := by
  unfold writeInputActivitySnapshot ValidInputActivity
  simp only [append_assoc]
  refine .any readU8_reads fun rawKind => ?_
  refine readReserved_readsOnly 3 ?_
  refine .any readU64_reads fun sequence => ?_
  refine .named InputActivitySnapshot.kind (by grind) fun kind _ => ?_
  refine .checked (by grind) fun kinds => ?_
  refine .lastField (readString_readsOnly (by decide) _) (by grind) fun stableId _ => ?_
  refine .checked (by grind) fun together => ?_
  exact .built fun value => by cases value; grind

theorem encodeInputActivitySnapshot_eq (snapshot : InputActivitySnapshot) :
    encodeInputActivitySnapshot snapshot ≠ [] ↔ ValidInputActivity snapshot := by
  unfold encodeInputActivitySnapshot ValidInputActivity
  obtain ⟨kind, sequence, stableId⟩ := snapshot
  have written : writeInputActivitySnapshot ⟨kind, sequence, stableId⟩ ≠ [] := by
    simp [writeInputActivitySnapshot, writeU8]
  cases kind <;> simp [written]

theorem inputActivitySnapshot_exact :
    ExactCodec encodeInputActivitySnapshot decodeInputActivitySnapshot := by
  have either (snapshot : InputActivitySnapshot) :
      encodeInputActivitySnapshot snapshot = [] ∨
        encodeInputActivitySnapshot snapshot = writeInputActivitySnapshot snapshot := by
    unfold encodeInputActivitySnapshot
    split
    · exact Or.inl rfl
    · exact Or.inr rfl
  apply bounded_exact 16 kHostProtocolMaxPayloadBytes readInputActivitySnapshot_readsOnly
  · intro snapshot _
    simp [writeInputActivitySnapshot]
    omega
  · intro snapshot valid _
    have encoded := (encodeInputActivitySnapshot_eq snapshot).mpr valid
    exact (either snapshot).resolve_left encoded
  · intro snapshot bad
    by_contra encoded
    have valid := (encodeInputActivitySnapshot_eq snapshot).mp encoded
    have short := validUtf8_length valid.2.1
    apply bad
    refine ⟨valid, ?_⟩
    simp only [writeInputActivitySnapshot, length_append,
      writeU8_length, writeU64_length, appendString_length,
      length_cons, length_nil, kHostProtocolMaxPayloadBytes]
    unfold kHostProtocolMaxHardwareDeviceIdBytes at short
    omega
  · intro payload
    rfl

theorem readAudioRouteRequest_readsOnly :
    ReadsOnly readAudioRouteRequest
      (fun request =>
        (request.process.processId ≠ 0 ∧ request.process.creationIdentity ≠ 0) ∧
          validAudioEndpointId request.endpointId = true)
      writeAudioRouteRequest := by
  unfold writeAudioRouteRequest validAudioEndpointId
  refine .field readProcessRequest_readsOnly (by grind) fun process _ => ?_
  refine .lastField (readPrintableId_readsOnly (by decide)) (by grind) fun endpointId _ => ?_
  exact .built fun value => by cases value; grind

theorem audioRouteRequest_exact : ExactCodec encodeAudioRouteRequest decodeAudioRouteRequest := by
  have length (request : AudioRouteRequest) :
      (writeAudioRouteRequest request).length = 16 + request.endpointId.length := by
    simp [writeAudioRouteRequest, writeProcessRequest]
    omega
  apply bounded_exact 17 (16 + kHostProtocolMaxAudioEndpointIdBytes) readAudioRouteRequest_readsOnly
  · intro request ⟨_, printable⟩
    have bounds := printableId_length printable
    rw [length]
    omega
  · intro request ⟨⟨process, creation⟩, printable⟩ _
    simp [encodeAudioRouteRequest, process, creation, printable]
  · intro request bad
    unfold encodeAudioRouteRequest
    rw [if_pos]
    by_contra good
    rw [not_or, not_or, Bool.not_eq_false] at good
    have bounds := printableId_length good.2.2
    apply bad
    refine ⟨⟨⟨good.1, good.2.1⟩, good.2.2⟩, ?_⟩
    rw [length]
    omega
  · intro payload
    rfl

theorem readError_readsOnly :
    ReadsOnly readError
      (fun error => error.code ≠ .none ∧ error.diagnostic.length ≤ kHostProtocolMaxDiagnosticBytes)
      writeError := by
  unfold writeError appendString
  simp only [append_assoc]
  refine .any readU16_reads fun rawCode => ?_
  refine .any readU16_reads fun reserved => ?_
  refine .any readU32_reads fun length => ?_
  refine .checked (by grind [length_toUInt32_toNat, kHostProtocolMaxDiagnosticBytes])
    fun bounded => ?_
  refine .named ErrorPayload.code (by grind) fun code _ => ?_
  refine .checked (by grind) fun nonzero => ?_
  refine .lastField (readBytes_readsOnly length.toNat)
    (by grind [length_toUInt32_toNat, kHostProtocolMaxDiagnosticBytes]) fun diagnostic sized => ?_
  have size : diagnostic.length.toUInt32 = length := by
    rw [sized, Nat.toUInt32_eq, UInt32.ofNat_toNat]
  exact .built fun value => by cases value; grind

theorem error_exact : ExactCodec encodeError decodeError := by
  have length (error : ErrorPayload) : (writeError error).length = 8 + error.diagnostic.length := by
    simp [writeError]
    omega
  apply bounded_exact 8 (8 + kHostProtocolMaxDiagnosticBytes) readError_readsOnly
  · intro error _
    rw [length]
    omega
  · intro error ⟨nonzero, bounded⟩ _
    unfold encodeError
    rw [if_neg]
    rw [not_or, not_lt]
    exact ⟨nonzero, bounded⟩
  · intro error bad
    unfold encodeError
    rw [if_pos]
    by_contra good
    rw [not_or, not_lt] at good
    apply bad
    refine ⟨good, ?_⟩
    rw [length]
    omega
  · intro payload
    rfl

/-! ## The whole protocol -/

/-- The frame codec and the seventeen payload codecs. -/
structure HostProtocolExact : Prop where
  frame : ExactCodec encodeFrame fun bytes => (decodeFrame bytes).toOption
  hello : ExactCodec encodeHello decodeHello
  helloAck : ExactCodec encodeHelloAck decodeHelloAck
  snapshot : ExactCodec encodeSnapshot decodeSnapshot
  seatRequest : ExactCodec encodeSeatRequest decodeSeatRequest
  hardwareInventory : ExactCodec encodeHardwareInventory decodeHardwareInventory
  seatHardwareAssignment : ExactCodec encodeSeatHardwareAssignment decodeSeatHardwareAssignment
  controllerPairRequest : ExactCodec encodeControllerPairRequest decodeControllerPairRequest
  gameCatalog : ExactCodec encodeGameCatalog decodeGameCatalog
  seatRuntimeInfo : ExactCodec encodeSeatRuntimeInfo decodeSeatRuntimeInfo
  launchGameRequest : ExactCodec encodeLaunchGameRequest decodeLaunchGameRequest
  inputActivityRequest : ExactCodec encodeInputActivityRequest decodeInputActivityRequest
  inputActivitySnapshot : ExactCodec encodeInputActivitySnapshot decodeInputActivitySnapshot
  processRequest : ExactCodec encodeProcessRequest decodeProcessRequest
  audioRouteRequest : ExactCodec encodeAudioRouteRequest decodeAudioRouteRequest
  audioMutationResult : ExactCodec encodeAudioMutationResult decodeAudioMutationResult
  ping : ExactCodec encodePing decodePing
  error : ExactCodec encodeError decodeError

theorem hostProtocol_exact : HostProtocolExact where
  frame := frame_exact
  hello := hello_exact
  helloAck := helloAck_exact
  snapshot := snapshot_exact
  seatRequest := seatRequest_exact
  hardwareInventory := hardwareInventory_exact
  seatHardwareAssignment := seatHardwareAssignment_exact
  controllerPairRequest := controllerPairRequest_exact
  gameCatalog := gameCatalog_exact
  seatRuntimeInfo := seatRuntimeInfo_exact
  launchGameRequest := launchGameRequest_exact
  inputActivityRequest := inputActivityRequest_exact
  inputActivitySnapshot := inputActivitySnapshot_exact
  processRequest := processRequest_exact
  audioRouteRequest := audioRouteRequest_exact
  audioMutationResult := audioMutationResult_exact
  ping := ping_exact
  error := error_exact

end HydraSeat.HostIpc
