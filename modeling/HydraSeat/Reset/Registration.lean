import HydraSeat.Recovery.JournalStore
import HydraSeat.Watchdog.RollbackRegistry

/-!
# The reset registration

The registration names the owner process, the rollback plan that the watchdog
has armed and, in version 2, the exact recovery attachment.  Version 1 is
read only.
-/

namespace HydraSeat.Reset

open Foundation
open Watchdog
open Recovery

variable {registration : RuntimeResetRegistration} {bytes : List UInt8}

def kRuntimeResetRegistrationMagic : UInt32 := 0x31525248

def kRuntimeResetRegistrationLegacyVersion : UInt16 := 1

def kRuntimeResetRegistrationVersion : UInt16 := 2

def kRuntimeResetRegistrationLegacyHeaderBytes : Nat := 64

def kRuntimeResetRegistrationHeaderBytes : Nat := 68

def kRuntimeResetRegistrationMaxBytes : Nat :=
  kRuntimeResetRegistrationHeaderBytes +
    kRecoveryProcessAttachmentIdentityBytes + kWatchdogMaxFrameBytes

def kResetOwnerActionId : UInt32 := 0xfffffff0

def kResetOwnerTimeoutMs : UInt32 := 2000

structure RuntimeResetRegistration where
  ownerProcess : ProcessIdentity := {}
  manifest : RollbackPlanManifest := {}
  attachment : Option RecoveryProcessAttachmentIdentity := none
  deriving DecidableEq

/-- The loop over the actions of the manifest. -/
def validateResetActions (ownerProcess : ProcessIdentity) :
    List RollbackActionDescriptor → Except String Unit
  | [] => .ok ()
  | action :: actions =>
    if action.actionId = kResetOwnerActionId then
      .error "runtime reset manifest uses the reserved owner action id"
    else if action.kind = .terminateOwnedProcess ∧ action.process = ownerProcess then
      .error "runtime reset owner must not duplicate a rollback target"
    else validateResetActions ownerProcess actions

def validateRuntimeResetRegistrationShape (registration : RuntimeResetRegistration)
    (requireExactAttachment : Bool) : Except String Unit :=
  if registration.ownerProcess.processId = 0 ∨ registration.ownerProcess.creationTime100ns = 0 then
    .error "runtime reset registration owner identity is incomplete"
  else
    match validateRollbackPlan registration.manifest with
    | .error text => .error text
    | .ok () =>
      match validateResetActions registration.ownerProcess registration.manifest.actions with
      | .error text => .error text
      | .ok () =>
        match registration.attachment with
        | none =>
          if requireExactAttachment then
            .error "runtime reset v2 registration requires exact recovery attachment authority"
          else .ok ()
        | some attachment =>
          validateRecoveryProcessAttachmentRegistration
            { identity := attachment, manifest := registration.manifest }

def validateRuntimeResetRegistration
    (registration : RuntimeResetRegistration) : Except String Unit :=
  validateRuntimeResetRegistrationShape registration true

def hashRuntimeResetRegistrationLegacy (ownerProcess : ProcessIdentity)
    (canonicalManifestFrame : List UInt8) : Hash256 :=
  hashCrashJournalBytes
    (writeU32 ownerProcess.processId ++
      writeU64 ownerProcess.creationTime100ns ++ canonicalManifestFrame)

def hashRuntimeResetRegistrationV2 (ownerProcess : ProcessIdentity)
    (attachmentBytes canonicalManifestFrame : List UInt8) : Hash256 :=
  hashCrashJournalBytes
    (writeU32 ownerProcess.processId ++ writeU64 ownerProcess.creationTime100ns ++
      writeU32 (UInt32.ofNat attachmentBytes.length) ++
      attachmentBytes ++ canonicalManifestFrame)

structure RegistrationStart where
  magic : UInt32
  (version headerBytes : UInt16)

def writeRegistrationStart (start : RegistrationStart) : List UInt8 :=
  writeU32 start.magic ++ writeU16 start.version ++ writeU16 start.headerBytes

def readRegistrationStart : Reader RegistrationStart := do
  let magic ← readU32
  let version ← readU16
  let headerBytes ← readU16
  return ⟨magic, version, headerBytes⟩

structure RegistrationOwner where
  totalBytes : UInt32
  ownerProcess : ProcessIdentity
  storedHash : Hash256

def writeRegistrationOwner (owner : RegistrationOwner) : List UInt8 :=
  writeU32 owner.totalBytes ++ writeU32 owner.ownerProcess.processId ++
    writeU64 owner.ownerProcess.creationTime100ns ++
    writeArray owner.storedHash

def readRegistrationOwner : Reader RegistrationOwner := do
  let totalBytes ← readU32
  let processId ← readU32
  let creationTime100ns ← readU64
  let storedHash ← readArray 32
  return ⟨totalBytes, ⟨processId, creationTime100ns⟩, storedHash⟩

/-- An empty result is the encoder's refusal. -/
def encodeRuntimeResetRegistration (registration : RuntimeResetRegistration) : List UInt8 :=
  if validateRuntimeResetRegistration registration ≠ .ok () then []
  else
    let frame := encodeRegisterPlan 1 registration.manifest
    if frame = [] ∨ frame.length > kWatchdogMaxFrameBytes then []
    else
      match registration.attachment with
      | none => []
      | some attachment =>
        let attachmentBytes := encodeRecoveryProcessAttachmentIdentity attachment
        let totalBytes := kRuntimeResetRegistrationHeaderBytes +
          attachmentBytes.length + frame.length
        if attachmentBytes.length ≠ kRecoveryProcessAttachmentIdentityBytes then []
        else if totalBytes > kRuntimeResetRegistrationMaxBytes then []
        else
          writeRegistrationStart
              { magic := kRuntimeResetRegistrationMagic
                version := kRuntimeResetRegistrationVersion
                headerBytes := UInt16.ofNat kRuntimeResetRegistrationHeaderBytes } ++
            writeRegistrationOwner
              { totalBytes := UInt32.ofNat totalBytes, ownerProcess := registration.ownerProcess
                storedHash := hashRuntimeResetRegistrationV2
                  registration.ownerProcess attachmentBytes frame } ++
            writeU32 (UInt32.ofNat attachmentBytes.length) ++
            writeU32 (UInt32.ofNat frame.length) ++ writeU32 0 ++
            attachmentBytes ++ frame

/-- The attachment length, which version 1 does not have. -/
def readAttachmentLength (version : UInt16) (bytes : List UInt8) :
    Except String (UInt32 × List UInt8) :=
  if version = kRuntimeResetRegistrationVersion then
    match readU32 bytes with
    | none => .error "runtime reset attachment length is truncated"
    | some (attachmentBytes, rest) =>
      if attachmentBytes = 0 then
        .error "runtime reset v2 registration is missing exact recovery attachment authority"
      else .ok (attachmentBytes, rest)
  else .ok (0, bytes)

def readFrameLength : Reader (UInt32 × UInt32) := do
  let frameBytes ← readU32
  let reserved ← readU32
  return (frameBytes, reserved)

def decodeAttachmentBytes (attachmentBytes : List UInt8) :
    Except String (Option RecoveryProcessAttachmentIdentity) :=
  if attachmentBytes = [] then .ok none
  else (decodeRecoveryProcessAttachmentIdentity attachmentBytes).map some

def decodeManifestFrame (frameBytes : List UInt8) : Except String RollbackPlanManifest :=
  match decodeWatchdogFrame frameBytes with
  | .error _ => .error "runtime reset registration manifest is invalid"
  | .ok frame =>
    if frame.type ≠ .registerPlan ∨ frame.sequence ≠ 1 then
      .error "runtime reset registration manifest is invalid"
    else decodeRegisterPlan frame

def registrationHash (version : UInt16) (ownerProcess : ProcessIdentity)
    (attachmentBytes frameBytes : List UInt8) : Hash256 :=
  if version = kRuntimeResetRegistrationLegacyVersion then
    hashRuntimeResetRegistrationLegacy ownerProcess frameBytes
  else hashRuntimeResetRegistrationV2 ownerProcess attachmentBytes frameBytes

/-- The payload behind the header, and the checks on the whole. -/
def decodeRegistrationPayload (version : UInt16) (owner : RegistrationOwner)
    (attachmentBytes frameBytes : List UInt8) :
    Except String RuntimeResetRegistration := do
  let attachment ← decodeAttachmentBytes attachmentBytes
  let manifest ← decodeManifestFrame frameBytes
  if registrationHash version owner.ownerProcess attachmentBytes frameBytes ≠ owner.storedHash then
    .error "runtime reset registration integrity hash is invalid"
  else
    let result : RuntimeResetRegistration :=
      { ownerProcess := owner.ownerProcess, manifest := manifest, attachment := attachment }
    validateRuntimeResetRegistrationShape result (version == kRuntimeResetRegistrationVersion)
    return result

def registrationHeaderBytes (version : UInt16) : Nat :=
  if version = kRuntimeResetRegistrationLegacyVersion then
    kRuntimeResetRegistrationLegacyHeaderBytes
  else kRuntimeResetRegistrationHeaderBytes

/-- The fields after the version. -/
def decodeRegistrationFields (totalLength : Nat) (version : UInt16) (bytes : List UInt8) :
    Except String RuntimeResetRegistration :=
  match readRegistrationOwner bytes with
  | none => .error "runtime reset registration header is truncated"
  | some (owner, afterOwner) =>
    match readAttachmentLength version afterOwner with
    | .error text => .error text
    | .ok (attachmentBytes, afterLength) =>
      match readFrameLength afterLength with
      | none => .error "runtime reset registration payload lengths are truncated"
      | some ((frameBytes, reserved), payload) =>
        if reserved ≠ 0 ∨ owner.totalBytes.toNat ≠ totalLength ∨
            frameBytes.toNat > kWatchdogMaxFrameBytes ∨
            (attachmentBytes ≠ 0 ∧ attachmentBytes.toNat ≠
              kRecoveryProcessAttachmentIdentityBytes) ∨
            attachmentBytes.toNat + frameBytes.toNat ≠ payload.length then
          .error "runtime reset registration header is invalid"
        else
          decodeRegistrationPayload version owner (payload.take attachmentBytes.toNat)
            (payload.drop attachmentBytes.toNat)

def decodeRuntimeResetRegistration (bytes : List UInt8) : Except String RuntimeResetRegistration :=
  if bytes.length < kRuntimeResetRegistrationLegacyHeaderBytes ∨
      bytes.length > kRuntimeResetRegistrationMaxBytes then
    .error "runtime reset registration size is out of bounds"
  else
    match readRegistrationStart bytes with
    | none => .error "runtime reset registration header is truncated"
    | some (start, rest) =>
      if start.magic ≠ kRuntimeResetRegistrationMagic ∨
          (start.version ≠ kRuntimeResetRegistrationLegacyVersion ∧
            start.version ≠ kRuntimeResetRegistrationVersion) then
        .error "runtime reset registration magic/version is unsupported"
      else if start.headerBytes.toNat ≠ registrationHeaderBytes start.version then
        .error "runtime reset registration header size is invalid"
      else decodeRegistrationFields bytes.length start.version rest

theorem decodeRegistrationPayload_shape {version : UInt16} {owner : RegistrationOwner}
    {attachmentBytes frameBytes : List UInt8}
    (decoded :
      decodeRegistrationPayload version owner attachmentBytes frameBytes = .ok registration) :
    validateRuntimeResetRegistrationShape registration
        (version == kRuntimeResetRegistrationVersion) =
      .ok () := by
  obtain ⟨attachment, _, rest⟩ := except_bind_eq_ok decoded
  obtain ⟨manifest, _, hashed⟩ := except_bind_eq_ok rest
  obtain ⟨_, hashed⟩ := not_taken hashed nofun
  obtain ⟨_, shaped, returned⟩ := except_bind_eq_ok hashed
  rw [← Except.ok.inj returned]
  exact shaped

theorem decodeRuntimeResetRegistration_shape
    (decoded : decodeRuntimeResetRegistration bytes = .ok registration) :
    ∃ exact, validateRuntimeResetRegistrationShape registration exact = .ok () := by
  unfold decodeRuntimeResetRegistration at decoded
  obtain ⟨_, decoded⟩ := not_taken decoded nofun
  split at decoded
  · cases decoded
  split at decoded
  · cases decoded
  split at decoded
  · cases decoded
  unfold decodeRegistrationFields at decoded
  split at decoded
  · cases decoded
  split at decoded
  · cases decoded
  split at decoded
  · cases decoded
  · split at decoded
    · cases decoded
    · exact ⟨_, decodeRegistrationPayload_shape decoded⟩

theorem decodeRuntimeResetRegistration_plan
    (decoded : decodeRuntimeResetRegistration bytes = .ok registration) :
    validateRollbackPlan registration.manifest = .ok () := by
  obtain ⟨exact, shaped⟩ := decodeRuntimeResetRegistration_shape decoded
  unfold validateRuntimeResetRegistrationShape at shaped
  obtain ⟨_, shaped⟩ := not_taken shaped nofun
  split at shaped
  · cases shaped
  next valid => exact valid

end HydraSeat.Reset
