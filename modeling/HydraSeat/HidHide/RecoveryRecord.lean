import HydraSeat.Foundation.Codec
import HydraSeat.HidHide.SessionBackend

/-!
# Recovery records of a HidHide session

A record is one file: a header with a checksum, and a payload that spells the
identity of a plan and the two states of it.
-/

namespace HydraSeat.HidHide

open Foundation List

variable (record : HidHideSessionRecoveryRecord) (snapshot : HidHideSessionSnapshot)

def kHidHideSnapshotMagic : UInt32 := 0x31534848

def kHidHideSnapshotVersion : UInt16 := 1

def kHidHideSnapshotMaxFileBytes : Nat := 256 * 1024

def kHidHideSessionMaxDevices : Nat := 64

def kHidHideSessionMaxApplications : Nat := 64

def kHeaderBytes : Nat := 24

def kFnvOffset : UInt64 := 14695981039346656037

def kFnvPrime : UInt64 := 1099511628211

def hashByte (value : UInt64) (byte : UInt8) : UInt64 := (value ^^^ byte.toUInt64) * kFnvPrime

def hashBytes (bytes : List UInt8) : UInt64 := bytes.foldl hashByte kFnvOffset

structure HidHideSessionRecoveryRecord where
  (resourceId generation : UInt64)
  (before applied : HidHideSessionSnapshot)
  deriving DecidableEq

def validText (value : WideString) : Bool :=
  !value.isEmpty && value.length ≤ kHidHideSessionMaxIdentifierChars && !value.contains 0

def validSnapshot : Bool :=
  if kHidHideSessionMaxDevices < snapshot.blockedDeviceInstanceIds.length ∨
      kHidHideSessionMaxApplications < snapshot.allowedApplications.length then
    false
  else snapshot.blockedDeviceInstanceIds.all validText && snapshot.allowedApplications.all validText

def uniqueStrings (values : List WideString) : Bool := decide values.Nodup

def validateHidHideSessionRecoveryRecord : Except String Unit :=
  if record.resourceId = 0 ∨ record.generation = 0 then
    .error "HidHide snapshot resource and generation must be nonzero"
  else if !validSnapshot record.before || !validSnapshot record.applied ||
      !uniqueStrings record.before.blockedDeviceInstanceIds ||
      !uniqueStrings record.before.allowedApplications ||
      !uniqueStrings record.applied.blockedDeviceInstanceIds ||
      !uniqueStrings record.applied.allowedApplications then
    .error "HidHide snapshot contains invalid or duplicate bounded identities"
  else if record.before.inverseWhitelist ||
      record.applied.inverseWhitelist || !record.applied.active then
    .error "HidHide guarded snapshot mode is unsupported or inactive"
  else if record.before.blockedDeviceInstanceIds ≠ record.applied.blockedDeviceInstanceIds then
    .error "HydraSeat session devices must never mutate the persistent HidHide blacklist"
  else .ok ()

def HidHideSessionRecoveryRecord.Valid : Prop :=
  validateHidHideSessionRecoveryRecord record = .ok ()

def writeCodeUnit (character : UInt16) : List UInt8 := writeU32 character.toUInt32

def writeString (value : WideString) : List UInt8 :=
  writeU32 (UInt32.ofNat value.length) ++ writeMany writeCodeUnit value

def writeFlag (value : Bool) : List UInt8 := writeU8 (if value then 1 else 0)

def writeSnapshot : List UInt8 :=
  writeFlag snapshot.active ++ writeFlag snapshot.inverseWhitelist ++
    writeU16 (UInt16.ofNat snapshot.blockedDeviceInstanceIds.length) ++
    writeU16 (UInt16.ofNat snapshot.allowedApplications.length) ++
    writeU16 0 ++
    writeMany writeString snapshot.blockedDeviceInstanceIds ++
    writeMany writeString snapshot.allowedApplications

def recordPayload : List UInt8 :=
  writeU64 record.resourceId ++ writeU64 record.generation ++
    writeSnapshot record.before ++ writeSnapshot record.applied

structure RecordHeader where
  magic : UInt32
  (version reserved16 : UInt16)
  (payloadSize reserved32 : UInt32)
  checksum : UInt64

def writeRecordHeader (header : RecordHeader) : List UInt8 :=
  writeU32 header.magic ++ writeU16 header.version ++
    writeU16 header.reserved16 ++ writeU32 header.payloadSize ++
    writeU32 header.reserved32 ++ writeU64 header.checksum

def recordHeader (payload : List UInt8) : RecordHeader where
  magic := kHidHideSnapshotMagic
  version := kHidHideSnapshotVersion
  reserved16 := 0
  payloadSize := UInt32.ofNat payload.length
  reserved32 := 0
  checksum := hashBytes payload

def encodeHidHideSessionRecoveryRecord : List UInt8 :=
  match validateHidHideSessionRecoveryRecord record with
  | .error _ => []
  | .ok () =>
    let payload := recordPayload record
    if kHidHideSnapshotMaxFileBytes < payload.length + kHeaderBytes ∨
        0xFFFFFFFF < payload.length then
      []
    else writeRecordHeader (recordHeader payload) ++ payload

/-- One code unit: not zero and at most `wchar_t` can hold. -/
def readCodeUnit : Reader UInt16 := do
  let codeUnit ← readU32
  if codeUnit = 0 ∨ 0xFFFF < codeUnit then failure
  else
    return codeUnit.toUInt16

def remaining : Reader Nat := fun bytes => some (bytes.length, bytes)

def readString : Reader WideString := do
  let length ← readU32
  let left ← remaining
  if length = 0 ∨ kHidHideSessionMaxIdentifierChars < length.toNat ∨ left < length.toNat * 4 then
    failure
  else readMany readCodeUnit length.toNat

def readSnapshot : Reader HidHideSessionSnapshot := do
  let active ← readU8
  let inverse ← readU8
  let deviceCount ← readU16
  let appCount ← readU16
  let reserved ← readU16
  if 1 < active ∨ 1 < inverse ∨ reserved ≠ 0 ∨ kHidHideSessionMaxDevices < deviceCount.toNat ∨
      kHidHideSessionMaxApplications < appCount.toNat then
    failure
  else
    let blockedDeviceInstanceIds ← readMany readString deviceCount.toNat
    let allowedApplications ← readMany readString appCount.toNat
    return ⟨active ≠ 0, inverse ≠ 0, blockedDeviceInstanceIds, allowedApplications⟩

def readRecordHeader : Reader RecordHeader := do
  let magic ← readU32
  let version ← readU16
  let reserved16 ← readU16
  let payloadSize ← readU32
  let reserved32 ← readU32
  let checksum ← readU64
  return ⟨magic, version, reserved16, payloadSize, reserved32, checksum⟩

def readRecord : Reader HidHideSessionRecoveryRecord := do
  let resourceId ← readU64
  let generation ← readU64
  let before ← readSnapshot
  let applied ← readSnapshot
  return ⟨resourceId, generation, before, applied⟩

def decodeHidHideSessionRecoveryRecord (bytes : List UInt8) :
    Except String HidHideSessionRecoveryRecord :=
  if bytes.length < kHeaderBytes ∨ kHidHideSnapshotMaxFileBytes < bytes.length then
    .error "HidHide snapshot file size is invalid"
  else
    match readRecordHeader bytes with
    | none => .error "HidHide snapshot header is malformed or unsupported"
    | some (header, payload) =>
      if header.magic ≠ kHidHideSnapshotMagic ∨ header.version ≠ kHidHideSnapshotVersion ∨
          header.reserved16 ≠ 0 ∨ header.reserved32 ≠ 0 ∨
          header.payloadSize.toNat ≠ bytes.length - kHeaderBytes then
        .error "HidHide snapshot header is malformed or unsupported"
      else if header.checksum = 0 ∨ hashBytes payload ≠ header.checksum then
        .error "HidHide snapshot checksum mismatch"
      else
        match decodeAll readRecord payload with
        | none => .error "HidHide snapshot payload is malformed"
        | some record =>
          match validateHidHideSessionRecoveryRecord record with
          | .error text => .error text
          | .ok () => .ok record

def makeHidHideSessionRecoveryRecord (plan : HidHideSessionPlan) (resourceId : UInt64) :
    HidHideSessionRecoveryRecord where
  resourceId
  generation := plan.request.generation
  before := plan.before
  applied := plan.applied

theorem readCodeUnit_readsOnly :
    ReadsOnly readCodeUnit (fun character => character ≠ 0) writeCodeUnit := by
  intro bytes value rest
  unfold readCodeUnit
  rw [readU32_reads.bind_eq_some_iff]
  constructor
  · rintro ⟨codeUnit, middle, rfl, read⟩
    split at read
    · cases read
    next accepted =>
      rw [not_or, UInt32.not_lt] at accepted
      obtain ⟨notZero, small⟩ := accepted
      rw [reader_pure_eq_some_iff] at read
      obtain ⟨rfl, rfl⟩ := read
      have bounded : codeUnit.toNat < 65536 := by
        rw [UInt32.le_iff_toNat_le] at small
        exact Nat.lt_succ_of_le small
      have kept : codeUnit.toUInt16.toUInt32 = codeUnit := by
        rw [← UInt32.toNat_inj]
        simpa using bounded
      refine ⟨?_, by rw [writeCodeUnit, kept]⟩
      intro none
      rw [none] at kept
      exact notZero kept.symm
  · rintro ⟨notZero, rfl⟩
    refine ⟨value.toUInt32, rest, rfl, ?_⟩
    rw [if_neg, reader_pure_eq_some_iff]
    · exact ⟨by simp, rfl⟩
    rintro (none | large)
    · apply notZero
      rw [← UInt32.toNat_inj] at none
      rw [← UInt16.toNat_inj]
      simpa using none
    · rw [UInt32.lt_iff_toNat_lt, UInt16.toNat_toUInt32] at large
      have bounded := value.toNat_lt
      change 65535 < value.toNat at large
      omega

theorem writeCodeUnit_length (character : UInt16) : (writeCodeUnit character).length = 4 :=
  writeU32_length character.toUInt32

theorem validText_iff (value : WideString) :
    validText value = true ↔
      value ≠ [] ∧ value.length ≤ kHidHideSessionMaxIdentifierChars ∧
        ∀ character ∈ value, character ≠ 0 := by
  unfold validText
  simp only [Bool.and_eq_true, Bool.not_eq_true', isEmpty_eq_false_iff,
    decide_eq_true_eq, contains_eq_mem, decide_eq_false_iff_not,
    and_assoc]
  refine and_congr_right fun _ => and_congr_right fun _ => ?_
  constructor
  · rintro absent character member rfl
    exact absent member
  · intro nonzero member
    exact nonzero 0 member rfl

theorem readString_readsOnly :
    ReadsOnly readString (fun value => validText value = true) writeString := by
  intro bytes value rest
  unfold readString
  rw [readU32_reads.bind_eq_some_iff]
  constructor
  · rintro ⟨length, middle, rfl, read⟩
    change
      (if length = 0 ∨ kHidHideSessionMaxIdentifierChars < length.toNat ∨
            middle.length < length.toNat * 4 then
          failure
        else readMany readCodeUnit length.toNat) middle =
        some (value, rest) at read
    split at read
    · cases read
    next accepted =>
      rw [not_or, not_or, not_lt] at accepted
      obtain ⟨notZero, bounded, _⟩ := accepted
      rw [readMany_readsOnly readCodeUnit_readsOnly] at read
      obtain ⟨⟨sized, nonzero⟩, rfl⟩ := read
      refine ⟨(validText_iff value).mpr ⟨?_, sized ▸ bounded, nonzero⟩, ?_⟩
      · rintro rfl
        apply notZero
        rw [← UInt32.toNat_inj, ← sized]
        rfl
      · unfold writeString
        rw [sized, UInt32.ofNat_toNat, append_assoc]
  · rintro ⟨valid, rfl⟩
    obtain ⟨notEmpty, bounded, nonzero⟩ := (validText_iff value).mp valid
    have fits : value.length < 2 ^ 32 := lt_of_le_of_lt bounded (by decide)
    have sized : (UInt32.ofNat value.length).toNat = value.length := UInt32.toNat_ofNat_of_lt' fits
    refine ⟨UInt32.ofNat value.length,
      writeMany writeCodeUnit value ++ rest, by rw [writeString, append_assoc], ?_⟩
    change
      (if UInt32.ofNat value.length = 0 ∨
            kHidHideSessionMaxIdentifierChars < (UInt32.ofNat value.length).toNat ∨
            (writeMany writeCodeUnit value ++ rest).length <
              (UInt32.ofNat value.length).toNat * 4 then
          failure
        else readMany readCodeUnit (UInt32.ofNat value.length).toNat)
        (writeMany writeCodeUnit value ++ rest) =
        some (value, rest)
    rw [sized, if_neg]
    · rw [readMany_readsOnly readCodeUnit_readsOnly]
      exact ⟨⟨rfl, nonzero⟩, rfl⟩
    rintro (none | long | short)
    · rw [← UInt32.toNat_inj, sized] at none
      exact notEmpty (length_eq_zero_iff.mp none)
    · omega
    · rw [length_append, writeMany_length writeCodeUnit_length] at short
      omega

theorem writeFlag_eq (value : UInt8) (small : ¬ 1 < value) :
    writeFlag (decide (value ≠ 0)) = writeU8 value := by
  rw [UInt8.not_lt, UInt8.le_iff_toNat_le] at small
  have cases : value = 0 ∨ value = 1 := by
    rw [← UInt8.toNat_inj, ← UInt8.toNat_inj]
    change value.toNat ≤ 1 at small
    change value.toNat = 0 ∨ value.toNat = 1
    omega
  rcases cases with rfl | rfl
  · rfl
  · rfl

theorem validSnapshot_iff :
    validSnapshot snapshot = true ↔
      (snapshot.blockedDeviceInstanceIds.length ≤ kHidHideSessionMaxDevices ∧
        snapshot.allowedApplications.length ≤ kHidHideSessionMaxApplications) ∧
        (∀ value ∈ snapshot.blockedDeviceInstanceIds, validText value = true) ∧
        ∀ value ∈ snapshot.allowedApplications, validText value = true := by
  unfold validSnapshot
  split
  next long =>
    refine iff_of_false Bool.false_ne_true ?_
    rintro ⟨⟨devices, applications⟩, _⟩
    omega
  next within =>
    rw [not_or, not_lt, not_lt] at within
    simp [within]

theorem readSnapshot_readsOnly :
    ReadsOnly readSnapshot (fun snapshot => validSnapshot snapshot = true) writeSnapshot := by
  intro bytes value rest
  unfold readSnapshot
  simp only [readU8_reads.bind_eq_some_iff, readU16_reads.bind_eq_some_iff]
  constructor
  · rintro ⟨active, _, rfl, inverse, _, rfl, deviceCount, _, rfl,
      appCount, _, rfl, reserved, middle, rfl, read⟩
    split at read
    · cases read
    next accepted =>
      simp only [not_or, not_not] at accepted
      obtain ⟨activeSmall, inverseSmall, noReserve, devices, apps⟩ := accepted
      simp only [reader_bind_eq_some_iff,
        readMany_readsOnly readString_readsOnly, reader_pure_eq_some_iff]
        at read
      obtain ⟨blocked, _, ⟨⟨blockedSized, blockedValid⟩, rfl⟩, allowed, _,
        ⟨⟨allowedSized, allowedValid⟩, rfl⟩, rfl, rfl⟩ := read
      rw [validSnapshot_iff]
      refine ⟨⟨⟨?_, ?_⟩, blockedValid, allowedValid⟩, ?_⟩
      · rw [blockedSized]
        exact Nat.not_lt.mp devices
      · rw [allowedSized]
        exact Nat.not_lt.mp apps
      unfold writeSnapshot
      rw [writeFlag_eq active activeSmall,
        writeFlag_eq inverse inverseSmall, blockedSized, allowedSized,
        UInt16.ofNat_toNat, UInt16.ofNat_toNat, noReserve]
      simp only [append_assoc]
  · rintro ⟨valid, rfl⟩
    obtain ⟨⟨devices, apps⟩, blockedValid, allowedValid⟩ := (validSnapshot_iff value).mp valid
    have deviceCount :
        (UInt16.ofNat value.blockedDeviceInstanceIds.length).toNat =
          value.blockedDeviceInstanceIds.length :=
      UInt16.toNat_ofNat_of_lt' (lt_of_le_of_lt devices (by decide))
    have appCount :
        (UInt16.ofNat value.allowedApplications.length).toNat = value.allowedApplications.length :=
      UInt16.toNat_ofNat_of_lt' (lt_of_le_of_lt apps (by decide))
    refine ⟨if value.active then 1 else 0, _, ?_, if value.inverseWhitelist then 1 else 0, _, rfl,
      UInt16.ofNat value.blockedDeviceInstanceIds.length, _, rfl,
      UInt16.ofNat value.allowedApplications.length, _, rfl, 0,
      writeMany writeString value.blockedDeviceInstanceIds ++
        (writeMany writeString value.allowedApplications ++ rest), rfl, ?_⟩
    · unfold writeSnapshot writeFlag
      simp only [append_assoc]
    · rw [if_neg]
      · simp only [reader_bind_eq_some_iff,
          readMany_readsOnly readString_readsOnly, reader_pure_eq_some_iff]
        refine ⟨_, _, ⟨⟨deviceCount.symm, blockedValid⟩, rfl⟩, _, _,
          ⟨⟨appCount.symm, allowedValid⟩, rfl⟩, ?_, rfl⟩
        obtain ⟨active, inverse, blocked, allowed⟩ := value
        cases active <;> cases inverse <;> rfl
      · rw [deviceCount, appCount]
        obtain ⟨active, inverse, blocked, allowed⟩ := value
        cases active <;> cases inverse <;>
          simp_all

theorem HidHideSessionRecoveryRecord.Valid.snapshots
    {record : HidHideSessionRecoveryRecord} (valid : record.Valid) :
    validSnapshot record.before = true ∧ validSnapshot record.applied = true := by
  unfold Valid validateHidHideSessionRecoveryRecord at valid
  simp only [except_check_eq_ok_iff, Bool.or_eq_true, not_or,
    Bool.not_eq_true', Bool.not_eq_false] at valid
  exact ⟨valid.2.1.1.1.1.1.1, valid.2.1.1.1.1.1.2⟩

theorem readRecord_readsOnly :
    ReadsOnly readRecord
      (fun record => validSnapshot record.before = true ∧ validSnapshot record.applied = true)
      recordPayload := by
  unfold recordPayload
  simp only [append_assoc]
  refine .any readU64_reads fun resourceId => ?_
  refine .any readU64_reads fun generation => ?_
  refine .field readSnapshot_readsOnly (by grind) fun before _ => ?_
  refine .lastField readSnapshot_readsOnly (by grind) fun applied _ => ?_
  exact .built fun value => by cases value; grind

theorem readRecordHeader_reads : Reads readRecordHeader writeRecordHeader := by
  unfold writeRecordHeader
  simp only [append_assoc]
  apply ReadsOnly.reads
  refine .any readU32_reads fun magic => ?_
  refine .any readU16_reads fun version => ?_
  refine .any readU16_reads fun reserved16 => ?_
  refine .any readU32_reads fun payloadSize => ?_
  refine .any readU32_reads fun reserved32 => ?_
  refine .last readU64_reads fun checksum => ?_
  exact .built fun value => by cases value; grind

theorem writeRecordHeader_length (header : RecordHeader) :
    (writeRecordHeader header).length = kHeaderBytes := by
  unfold writeRecordHeader
  simp only [length_append, writeU16_length, writeU32_length, writeU64_length]
  rfl

def recordFile (payload : List UInt8) : List UInt8 :=
  writeRecordHeader (recordHeader payload) ++ payload

theorem encode_eq_iff {bytes : List UInt8} (notEmpty : bytes ≠ []) :
    encodeHidHideSessionRecoveryRecord record = bytes ↔
      record.Valid ∧ (recordPayload record).length + kHeaderBytes ≤ kHidHideSnapshotMaxFileBytes ∧
        recordFile (recordPayload record) = bytes := by
  unfold encodeHidHideSessionRecoveryRecord HidHideSessionRecoveryRecord.Valid
  split
  next validated =>
    rw [validated]
    refine iff_of_false notEmpty.symm ?_
    rintro ⟨valid, _⟩
    cases valid
  next validated =>
    dsimp only
    split
    next long =>
      refine iff_of_false notEmpty.symm ?_
      rintro ⟨_, short, _⟩
      unfold kHidHideSnapshotMaxFileBytes at long short
      omega
    next short =>
      rw [not_or, Nat.not_lt] at short
      exact ⟨fun same => ⟨validated, short.1, same⟩, fun same => same.2.2⟩

theorem recordFile_length (payload : List UInt8) :
    (recordFile payload).length = payload.length + kHeaderBytes := by
  unfold recordFile
  rw [length_append, writeRecordHeader_length, Nat.add_comm]

/-- What decodes to a record is its encoding, and the encoding of a record
decodes to it unless its checksum is zero. -/
theorem decode_eq_ok_iff (bytes : List UInt8) (record : HidHideSessionRecoveryRecord) :
    decodeHidHideSessionRecoveryRecord bytes = .ok record ↔
      bytes ≠ [] ∧ encodeHidHideSessionRecoveryRecord record = bytes ∧
        hashBytes (recordPayload record) ≠ 0 := by
  unfold decodeHidHideSessionRecoveryRecord
  rw [except_check_eq_ok_iff, not_or, Nat.not_lt, Nat.not_lt]
  constructor
  · rintro ⟨⟨long, short⟩, decoded⟩
    have notEmpty : bytes ≠ [] := by
      rintro rfl
      cases long
    refine ⟨notEmpty, ?_⟩
    rw [encode_eq_iff record notEmpty]
    split at decoded
    · cases decoded
    next header payload read =>
      have file := (readRecordHeader_reads _ _ _).mp read
      rw [except_check_eq_ok_iff, except_check_eq_ok_iff] at decoded
      obtain ⟨fields, checks, decoded⟩ := decoded
      simp only [not_or, not_not] at fields checks
      obtain ⟨magic, version, reserved16, reserved32, sized⟩ := fields
      obtain ⟨nonzero, hashed⟩ := checks
      split at decoded
      · cases decoded
      next found taken =>
        obtain ⟨_, rfl⟩ := (readRecord_readsOnly.decodeAll_eq_some_iff _ _).mp taken
        split at decoded
        · cases decoded
        next validated =>
          cases decoded
          rw [file, length_append, writeRecordHeader_length] at short
          have headed : header = recordHeader (recordPayload record) := by
            have size : header.payloadSize = UInt32.ofNat (recordPayload record).length := by
              rw [file, length_append, writeRecordHeader_length,
                Nat.add_sub_cancel_left] at sized
              rw [← sized, UInt32.ofNat_toNat]
            unfold recordHeader
            rw [← magic, ← version, ← size, hashed]
            cases header
            cases reserved16
            cases reserved32
            rfl
          refine ⟨⟨validated, by omega, ?_⟩, ?_⟩
          · rw [file, headed]
            rfl
          · rw [hashed]
            exact nonzero
  · rintro ⟨notEmpty, encoded, nonzero⟩
    rw [encode_eq_iff record notEmpty] at encoded
    obtain ⟨valid, short, rfl⟩ := encoded
    have read :
        readRecordHeader (recordFile (recordPayload record)) =
          some (recordHeader (recordPayload record), recordPayload record) :=
      readRecordHeader_reads.read_write _ _
    have size :
        (UInt32.ofNat (recordPayload record).length).toNat = (recordPayload record).length := by
      apply UInt32.toNat_ofNat_of_lt'
      unfold kHidHideSnapshotMaxFileBytes at short
      change (recordPayload record).length < 4294967296
      omega
    rw [read]
    dsimp only
    rw [except_check_eq_ok_iff, except_check_eq_ok_iff, recordFile_length]
    refine ⟨⟨Nat.le_add_left _ _, short⟩, ?_, ?_, ?_⟩
    · simp [recordHeader, size]
    · simp [recordHeader, nonzero]
    have taken : decodeAll readRecord (recordPayload record) = some record := by
      rw [readRecord_readsOnly.decodeAll_eq_some_iff]
      exact ⟨valid.snapshots, rfl⟩
    rw [taken]
    dsimp only
    rw [valid]

end HydraSeat.HidHide
