import HydraSeat.Foundation.Scanner

/-!
# The fields of Gate C payloads

Two readers share these fields.  They differ in what they say about bytes
that are missing.
-/

namespace HydraSeat.GateC

open Foundation

def writeBool (value : Bool) : List UInt8 := writeU8 (if value then 1 else 0)

def writeI16 (value : Int16) : List UInt8 := writeU16 value.toUInt16

def writeI32 (value : Int32) : List UInt8 := writeU32 value.toUInt32

def writeI64 (value : Int64) : List UInt8 := writeU64 value.toUInt64

def writePadding (bytes : Nat) : List UInt8 := List.replicate bytes 0

@[simp]
theorem writeBool_length (value : Bool) : (writeBool value).length = 1 := writeU8_length _

@[simp]
theorem writeI16_length (value : Int16) : (writeI16 value).length = 2 := writeU16_length _

@[simp]
theorem writeI32_length (value : Int32) : (writeI32 value).length = 4 := writeU32_length _

@[simp]
theorem writeI64_length (value : Int64) : (writeI64 value).length = 8 := writeU64_length _

@[simp]
theorem writePadding_length (bytes : Nat) : (writePadding bytes).length = bytes :=
  List.length_replicate

section Readers

variable (truncated : String)

def scanU8 : Scanner UInt8 := require truncated readU8

def scanU16 : Scanner UInt16 := require truncated readU16

def scanU32 : Scanner UInt32 := require truncated readU32

def scanU64 : Scanner UInt64 := require truncated readU64

def scanBool : Scanner Bool := do
  let raw ← scanU8 truncated
  conclude
    (if raw > 1 then .error "boolean field is not 0 or 1"
    else .ok (raw != 0))

def scanI16 : Scanner Int16 := do
  let raw ← scanU16 truncated
  return raw.toInt16

def scanI32 : Scanner Int32 := do
  let raw ← scanU32 truncated
  return raw.toInt32

def scanI64 : Scanner Int64 := do
  let raw ← scanU64 truncated
  return raw.toInt64

def scanArray (size : Nat) : Scanner (Vector UInt8 size) := require truncated (readArray size)

def scanPadding (bytes : Nat) : Scanner Unit := do
  let padding ← require truncated (readBytes bytes)
  conclude
    (if padding.any (· != 0) then .error "reserved field is not zero"
    else .ok ())

end Readers

section Laws

variable {truncated : String}

theorem scanU8_scans : Scans (scanU8 truncated) (fun _ => True) writeU8 :=
  .require readU8_reads.readsOnly _

theorem scanU16_scans : Scans (scanU16 truncated) (fun _ => True) writeU16 :=
  .require readU16_reads.readsOnly _

theorem scanU32_scans : Scans (scanU32 truncated) (fun _ => True) writeU32 :=
  .require readU32_reads.readsOnly _

theorem scanU64_scans : Scans (scanU64 truncated) (fun _ => True) writeU64 :=
  .require readU64_reads.readsOnly _

theorem scanArray_scans (size : Nat) :
    Scans (scanArray truncated size) (fun _ => True) writeArray :=
  .require (readArray_reads size).readsOnly _

theorem boolean_eq_ok_iff (raw : UInt8) (value : Bool) (text : String) :
    (if raw > 1 then Except.error text else .ok (raw != 0)) = .ok value ↔
      (if value then 1 else 0) = raw ∧ True := by
  rw [except_check_eq_ok_iff]
  cases value with
  | false | true =>
    simp only [Except.ok.injEq]
    grind

theorem scanBool_scans : Scans (scanBool truncated) (fun _ => True) writeBool := by
  refine .last scanU8_scans fun raw => ?_
  exact .concluded fun value => boolean_eq_ok_iff raw value _

theorem scanI16_scans : Scans (scanI16 truncated) (fun _ => True) writeI16 :=
  .cast scanU16_scans UInt16.toUInt16_toInt16 Int16.toInt16_toUInt16

theorem scanI32_scans : Scans (scanI32 truncated) (fun _ => True) writeI32 :=
  .cast scanU32_scans UInt32.toUInt32_toInt32 Int32.toInt32_toUInt32

theorem scanI64_scans : Scans (scanI64 truncated) (fun _ => True) writeI64 :=
  .cast scanU64_scans UInt64.toUInt64_toInt64 Int64.toInt64_toUInt64

theorem zeros_eq_ok_iff {bytes : Nat} {padding : List UInt8}
    (length : padding.length = bytes) (text : String) (value : Unit) :
    (if padding.any (· != 0) then Except.error text else .ok ()) = .ok value ↔
      writePadding bytes = padding ∧ True := by
  have zeros : padding.any (· != 0) = false ↔ writePadding bytes = padding := by
    rw [List.any_eq_false]
    constructor
    · intro zero
      refine (List.eq_replicate_iff.mpr ⟨length, ?_⟩).symm
      simpa using zero
    · intro same
      rw [← same]
      simp [writePadding]
  rw [except_check_eq_ok_iff, Bool.not_eq_true, zeros]
  simp

theorem scanPadding_scans (bytes : Nat) :
    Scans (scanPadding truncated bytes) (fun _ => True) (fun _ => writePadding bytes) := by
  have taken : Scans (require truncated (readBytes bytes)) (fun value => value.length = bytes) id :=
    .require (readBytes_readsOnly bytes) _
  have law : Scans (scanPadding truncated bytes) (fun _ => True)
      (fun _ => id (writePadding bytes) ++ []) := by
    refine .field taken ?_ fun padding length => ?_
    · intro value _
      exact List.length_replicate
    · exact .concluded fun value => zeros_eq_ok_iff length _ value
  simpa using law

end Laws

end HydraSeat.GateC
