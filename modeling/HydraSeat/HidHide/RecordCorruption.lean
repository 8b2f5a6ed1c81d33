import HydraSeat.Foundation.Checksum
import HydraSeat.HidHide.RecoveryRecord

/-!
# What the codec of recovery records guarantees

A record comes back from its file, a file is the only one of its record, and
no byte of a file can change unnoticed.  A checksum of zero is the one
exception: the writer stores it, and the reader refuses it.
-/

namespace HydraSeat.HidHide

open Foundation

theorem hashByte_keeps (byte : UInt8) : Function.Injective fun value => hashByte value byte :=
  (mul_injective (by decide : kFnvPrime * 14886173955864302971 = 1)).comp
    (xor_right_injective byte.toUInt64)

theorem hashByte_tells (value : UInt64) : Function.Injective (hashByte value) := by
  intro first second same
  unfold hashByte at same
  rw [UInt64.xor_comm value, UInt64.xor_comm value] at same
  exact UInt8.toUInt64_inj.mp
    (xor_right_injective value
      (mul_injective (by decide : kFnvPrime * 14886173955864302971 = 1) same))

theorem hashBytes_notices (payload : List UInt8) (index : Nat) (byte : UInt8)
    (inside : index < payload.length) (changed : payload[index] ≠ byte) :
    hashBytes (payload.set index byte) ≠ hashBytes payload :=
  foldl_set_ne hashByte_keeps hashByte_tells payload kFnvOffset inside changed

theorem recordHeader_injective {payload other : List UInt8}
    (same : writeRecordHeader (recordHeader payload) = writeRecordHeader (recordHeader other)) :
    hashBytes payload = hashBytes other := by
  have read := readRecordHeader_reads.read_write (recordHeader payload) []
  rw [same, readRecordHeader_reads.read_write] at read
  exact (congrArg (fun found => found.1.checksum) (Option.some.inj read)).symm

structure HidHideSessionRecoveryRecord.Kept (record : HidHideSessionRecoveryRecord) : Prop where
  roundTrip :
    decodeHidHideSessionRecoveryRecord (encodeHidHideSessionRecoveryRecord record) = .ok record
  canonical :
    ∀ bytes found, decodeHidHideSessionRecoveryRecord bytes = .ok found →
      encodeHidHideSessionRecoveryRecord found = bytes
  guarded :
    ∀ (index : Nat) byte (inside : index < (encodeHidHideSessionRecoveryRecord record).length),
      (encodeHidHideSessionRecoveryRecord record)[index] ≠ byte → ∀ found,
        decodeHidHideSessionRecoveryRecord
          ((encodeHidHideSessionRecoveryRecord record).set index byte) ≠ .ok found

/-- The codec keeps a record exactly when the checksum of its payload is not zero. -/
theorem kept_iff (record : HidHideSessionRecoveryRecord)
    (accepted : encodeHidHideSessionRecoveryRecord record ≠ []) :
    record.Kept ↔ hashBytes (recordPayload record) ≠ 0 := by
  constructor
  · intro kept
    exact ((decode_eq_ok_iff _ _).mp kept.roundTrip).2.2
  intro nonzero
  refine ⟨(decode_eq_ok_iff _ _).mpr ⟨accepted, rfl, nonzero⟩, ?_, ?_⟩
  · intro bytes found decoded
    exact ((decode_eq_ok_iff _ _).mp decoded).2.1
  obtain ⟨_, _, file⟩ := (encode_eq_iff record accepted).mp rfl
  rw [← file]
  intro index byte inside changed found decoded
  obtain ⟨notEmpty, encoded, _⟩ := (decode_eq_ok_iff _ _).mp decoded
  obtain ⟨_, _, other⟩ := (encode_eq_iff found notEmpty).mp encoded
  exact framed_set_ne (fun payload => writeRecordHeader_length (recordHeader payload))
    (fun _ _ => recordHeader_injective) hashBytes_notices inside changed other.symm

/-- A record with two empty states, whose payload has the checksum zero. -/
def uncheckedRecord : HidHideSessionRecoveryRecord where
  resourceId := 17442494240930602045
  generation := 2537271533316341776
  before := ⟨false, false, [], []⟩
  applied := ⟨true, false, [], []⟩

theorem uncheckedRecord_not_kept : ¬ uncheckedRecord.Kept :=
  fun kept => (kept_iff uncheckedRecord (by decide)).mp kept (by decide)

/-- What the writer stores is not always read back. -/
theorem uncheckedRecord_lost :
    ¬ ∀ record, encodeHidHideSessionRecoveryRecord record ≠ [] →
      decodeHidHideSessionRecoveryRecord (encodeHidHideSessionRecoveryRecord record) =
        .ok record := by
  intro always
  exact ((decode_eq_ok_iff _ _).mp (always uncheckedRecord (by decide))).2.2 (by decide)

end HydraSeat.HidHide
