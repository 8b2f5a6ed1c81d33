import HydraSeat.Watchdog.Protocol
import HydraSeat.Foundation.Transition
import Mathlib.Data.List.Sort

/-!
# Recovery attachments

The authority arms at most one watchdog manifest for each Seat and remembers
the last one it disarmed on each Seat.
-/

namespace HydraSeat.Recovery

open Foundation
open Watchdog

def kRecoveryProcessAttachmentMagic : UInt32 := 0x31415052

def kRecoveryProcessAttachmentVersion : UInt16 := 1

def kRecoveryProcessAttachmentIdentityBytes : Nat := 68

def kMaximumRecoveryProcessAttachments : Nat := 2

structure RecoveryProcessAttachmentIdentity where
  schemaVersion : UInt16 := kRecoveryProcessAttachmentVersion
  seatId : UInt32 := 0
  hostSessionId : SessionId := Vector.replicate 16 0
  (sessionGeneration seatGameGeneration : UInt64 := 0)
  process : ProcessIdentity := {}
  recoveryEpoch : UInt64 := 0
  deriving DecidableEq

structure RecoveryProcessAttachmentRegistration where
  identity : RecoveryProcessAttachmentIdentity := {}
  manifest : RollbackPlanManifest := {}
  deriving DecidableEq

inductive RecoveryAttachmentCode where
  | ok | alreadySatisfied | invalidIdentity | invalidPlan | seatLimitExceeded | seatMismatch
  | sessionMismatch | staleSessionGeneration | sessionGenerationMismatch | staleSeatGameGeneration
  | seatGameGenerationMismatch | processIdentityMismatch | leaseMismatch | conflictingRegistration
  | replayRejected | notArmed
  deriving DecidableEq

structure RecoveryAttachmentResult where
  code : RecoveryAttachmentCode := .invalidIdentity
  current : Option RecoveryProcessAttachmentRegistration := none
  diagnostic : String := ""

def RecoveryAttachmentResult.succeeded (result : RecoveryAttachmentResult) : Bool :=
  result.code == .ok || result.code == .alreadySatisfied

def sameWatchdogLeaseIdentity (left right : WatchdogLease) : Bool :=
  left.sessionId == right.sessionId && left.generation == right.generation

def validateRecoveryProcessAttachmentIdentity (identity : RecoveryProcessAttachmentIdentity) :
    Except String Unit :=
  if identity.schemaVersion ≠ kRecoveryProcessAttachmentVersion then
    .error "recovery attachment schema version is unsupported"
  else if identity.seatId = 0 ∨ identity.seatId.toNat > kMaximumRecoveryProcessAttachments then
    .error "recovery attachment Seat is outside the v1 two-Seat bound"
  else if isZeroSessionId identity.hostSessionId then
    .error "recovery attachment host session is zero"
  else if identity.sessionGeneration = 0 ∨
      identity.seatGameGeneration = 0 ∨ identity.recoveryEpoch = 0 then
    .error "recovery attachment generation fields must be nonzero"
  else if identity.process.processId = 0 ∨ identity.process.creationTime100ns = 0 then
    .error "recovery attachment requires exact PID plus creation time"
  else .ok ()

/-- The loop over the manifest's actions, which counts the actions that
terminate the attached process. -/
def countAttachedProcessActions (identity : RecoveryProcessAttachmentIdentity) (count : Nat) :
    List RollbackActionDescriptor → Except String Nat
  | [] => .ok count
  | action :: actions =>
    if action.generation ≠ identity.recoveryEpoch then
      .error "recovery attachment action generation does not match its epoch"
    else if action.kind ≠ .terminateOwnedProcess then
      countAttachedProcessActions identity count actions
    else if action.process ≠ identity.process then
      .error "recovery attachment manifest targets a different process identity"
    else countAttachedProcessActions identity (count + 1) actions

def validateRecoveryProcessAttachmentRegistration
    (registration : RecoveryProcessAttachmentRegistration) :
    Except String Unit := do
  validateRecoveryProcessAttachmentIdentity registration.identity
  validateRollbackPlan registration.manifest
  if registration.manifest.lease.generation ≠ registration.identity.recoveryEpoch then
    .error "recovery attachment epoch does not match watchdog lease generation"
  else
    let attachedProcessActions ← countAttachedProcessActions registration.identity 0
      registration.manifest.actions
    if attachedProcessActions ≠ 1 then
      .error "recovery attachment manifest must contain exactly one exact-process action"
    else .ok ()

structure WireIdentity where
  magic : UInt32
  (version reserved16 : UInt16)
  seatId : UInt32
  hostSessionId : SessionId
  (sessionGeneration seatGameGeneration : UInt64)
  (processId reserved32 : UInt32)
  (creationTime100ns recoveryEpoch : UInt64)

def writeWireIdentity (wire : WireIdentity) : List UInt8 :=
  writeU32 wire.magic ++ writeU16 wire.version ++
    writeU16 wire.reserved16 ++ writeU32 wire.seatId ++
    writeArray wire.hostSessionId ++ writeU64 wire.sessionGeneration ++
    writeU64 wire.seatGameGeneration ++ writeU32 wire.processId ++
    writeU32 wire.reserved32 ++ writeU64 wire.creationTime100ns ++
    writeU64 wire.recoveryEpoch

def readWireIdentity : Reader WireIdentity := do
  let magic ← readU32
  let version ← readU16
  let reserved16 ← readU16
  let seatId ← readU32
  let hostSessionId ← readArray 16
  let sessionGeneration ← readU64
  let seatGameGeneration ← readU64
  let processId ← readU32
  let reserved32 ← readU32
  let creationTime100ns ← readU64
  let recoveryEpoch ← readU64
  return ⟨magic, version, reserved16, seatId, hostSessionId,
    sessionGeneration, seatGameGeneration, processId, reserved32,
    creationTime100ns, recoveryEpoch⟩

def encodeRecoveryProcessAttachmentIdentity
    (identity : RecoveryProcessAttachmentIdentity) : List UInt8 :=
  match validateRecoveryProcessAttachmentIdentity identity with
  | .error _ => []
  | .ok () =>
    writeWireIdentity
      { magic := kRecoveryProcessAttachmentMagic, version := identity.schemaVersion
        reserved16 := 0, seatId := identity.seatId, hostSessionId := identity.hostSessionId
        sessionGeneration := identity.sessionGeneration
        seatGameGeneration := identity.seatGameGeneration, processId := identity.process.processId
        reserved32 := 0, creationTime100ns := identity.process.creationTime100ns
        recoveryEpoch := identity.recoveryEpoch }

def decodeRecoveryProcessAttachmentIdentity (bytes : List UInt8) :
    Except String RecoveryProcessAttachmentIdentity :=
  if bytes.length ≠ kRecoveryProcessAttachmentIdentityBytes then
    .error "recovery attachment identity size is invalid"
  else
    match readWireIdentity bytes with
    | some (wire, []) =>
      if wire.magic ≠ kRecoveryProcessAttachmentMagic ∨
          wire.version ≠ kRecoveryProcessAttachmentVersion ∨
          wire.reserved16 ≠ 0 ∨ wire.reserved32 ≠ 0 then
        .error "recovery attachment magic/version/reserved field is invalid"
      else
        let identity : RecoveryProcessAttachmentIdentity :=
          { schemaVersion := wire.version, seatId := wire.seatId
            hostSessionId := wire.hostSessionId, sessionGeneration := wire.sessionGeneration
            seatGameGeneration := wire.seatGameGeneration
            process := ⟨wire.processId, wire.creationTime100ns⟩
            recoveryEpoch := wire.recoveryEpoch }
        match validateRecoveryProcessAttachmentIdentity identity with
        | .error text => .error text
        | .ok () => .ok identity
    | _ => .error "recovery attachment identity payload is truncated"

abbrev Registration := RecoveryProcessAttachmentRegistration

structure RecoveryProcessAttachmentAuthority where
  (active lastDisarmed : List Registration := [])

def onSeat (seatId : UInt32) (registration : Registration) : Bool :=
  registration.identity.seatId == seatId

def compareAgainstCurrent (current : Registration) (identity : RecoveryProcessAttachmentIdentity)
    (lease : WatchdogLease) : RecoveryAttachmentResult :=
  if identity.seatId ≠ current.identity.seatId then
    ⟨.seatMismatch, some current, "recovery attachment belongs to a different Seat"⟩
  else if identity.hostSessionId ≠ current.identity.hostSessionId then
    ⟨.sessionMismatch, some current, "recovery attachment belongs to a different host session"⟩
  else if identity.sessionGeneration < current.identity.sessionGeneration then
    ⟨.staleSessionGeneration, some current, "recovery attachment session generation is stale"⟩
  else if identity.sessionGeneration ≠ current.identity.sessionGeneration then
    ⟨.sessionGenerationMismatch, some current,
      "recovery attachment session generation does not match"⟩
  else if identity.seatGameGeneration < current.identity.seatGameGeneration then
    ⟨.staleSeatGameGeneration, some current, "recovery attachment Seat-game generation is stale"⟩
  else if identity.seatGameGeneration ≠ current.identity.seatGameGeneration then
    ⟨.seatGameGenerationMismatch, some current,
      "recovery attachment Seat-game generation does not match"⟩
  else if identity.process ≠ current.identity.process then
    ⟨.processIdentityMismatch, some current,
      "recovery attachment PID/creation identity does not match"⟩
  else if identity.recoveryEpoch ≠ current.identity.recoveryEpoch ∨
      lease ≠ current.manifest.lease then
    ⟨.leaseMismatch, some current, "recovery attachment lease/epoch does not match"⟩
  else if identity ≠ current.identity then
    ⟨.conflictingRegistration, some current,
      "recovery attachment identity conflicts with the armed registration"⟩
  else ⟨.ok, some current, "exact recovery attachment is armed"⟩

/-- The loop of `registerAttachment` over the active attachments. -/
def clashWithActive (registration : Registration) :
    List Registration → Option RecoveryAttachmentResult
  | [] => none
  | current :: rest =>
    if current.identity.process = registration.identity.process then
      some ⟨.seatMismatch, some current,
        "exact process identity is already attached to another Seat"⟩
    else if current.identity.process.processId = registration.identity.process.processId then
      some ⟨.processIdentityMismatch, some current,
        "an active attachment already owns this PID with another creation time"⟩
    else if sameWatchdogLeaseIdentity current.manifest.lease registration.manifest.lease then
      some ⟨.leaseMismatch, some current,
        "watchdog lease identity is already bound to another Seat attachment"⟩
    else clashWithActive registration rest

/-- The comparison of `registerAttachment` with the attachment last disarmed
on its Seat. -/
def refusedByPrior (registration prior : Registration) : Option RecoveryAttachmentResult :=
  if prior = registration then
    some ⟨.replayRejected, some prior, "a completed exact recovery attachment cannot be replayed"⟩
  else if prior.identity.hostSessionId = registration.identity.hostSessionId then
    if registration.identity.sessionGeneration < prior.identity.sessionGeneration then
      some ⟨.staleSessionGeneration, some prior,
        "recovery attachment session generation predates the last completed epoch"⟩
    else if registration.identity.sessionGeneration = prior.identity.sessionGeneration then
      if registration.identity.seatGameGeneration < prior.identity.seatGameGeneration then
        some ⟨.staleSeatGameGeneration, some prior,
          "recovery attachment Seat-game generation predates the last completed epoch"⟩
      else if registration.identity.recoveryEpoch ≤ prior.identity.recoveryEpoch then
        some ⟨.replayRejected, some prior,
          "recovery attachment epoch did not advance past the last completed epoch"⟩
      else none
    else none
  else none

namespace RecoveryProcessAttachmentAuthority

variable (self : RecoveryProcessAttachmentAuthority)

def bySeat (left right : Registration) : Prop := left.identity.seatId ≤ right.identity.seatId

instance : DecidableRel bySeat := fun left right =>
  inferInstanceAs (Decidable (left.identity.seatId ≤ right.identity.seatId))

def insert (registration : Registration) : RecoveryProcessAttachmentAuthority :=
  { self with active := (self.active ++ [registration]).insertionSort bySeat }

def registerAttachment (registration : Registration) :
    RecoveryAttachmentResult × RecoveryProcessAttachmentAuthority :=
  match validateRecoveryProcessAttachmentIdentity registration.identity with
  | .error text => (⟨.invalidIdentity, none, text⟩, self)
  | .ok () =>
  match validateRecoveryProcessAttachmentRegistration registration with
  | .error text => (⟨.invalidPlan, none, text⟩, self)
  | .ok () =>
  match self.active.find? (onSeat registration.identity.seatId) with
  | some activeSeat =>
    if activeSeat = registration then
      (⟨.alreadySatisfied, some activeSeat,
        "exact recovery attachment is already registered"⟩, self)
    else
      let mismatch := compareAgainstCurrent activeSeat
        registration.identity registration.manifest.lease
      if mismatch.code = .ok then
        ({ mismatch with
            code := .conflictingRegistration
            diagnostic :=
              "same exact attachment identity cannot replace a different armed manifest" },
          self)
      else (mismatch, self)
  | none =>
  match clashWithActive registration self.active with
  | some clash => (clash, self)
  | none =>
  match self.lastDisarmed.find? fun completed =>
      sameWatchdogLeaseIdentity completed.manifest.lease registration.manifest.lease with
  | some completed =>
    (⟨.replayRejected, some completed,
      "a completed watchdog lease identity cannot authorize a new attachment"⟩,
      self)
  | none =>
  match (self.lastDisarmed.find?
      (onSeat registration.identity.seatId)).bind (refusedByPrior registration) with
  | some refusal => (refusal, self)
  | none =>
  if self.active.length ≥ kMaximumRecoveryProcessAttachments then
    (⟨.seatLimitExceeded, none, "v1 recovery attachment authority already owns two Seats"⟩, self)
  else
    let updated := self.insert registration
    (⟨.ok, updated.active.find? (·.identity == registration.identity),
      "exact recovery attachment registered"⟩, updated)

def verifyArmed (identity : RecoveryProcessAttachmentIdentity)
    (lease : WatchdogLease) : RecoveryAttachmentResult :=
  match validateRecoveryProcessAttachmentIdentity identity with
  | .error text => ⟨.invalidIdentity, none, text⟩
  | .ok () =>
    match self.active.find? (onSeat identity.seatId) with
    | some current => compareAgainstCurrent current identity lease
    | none =>
      match self.active.find? fun value => value.identity.process == identity.process with
      | some otherSeat =>
        ⟨.seatMismatch, some otherSeat, "exact process attachment is armed for another Seat"⟩
      | none => ⟨.notArmed, none, "recovery attachment is not armed"⟩

/-- Overwrite the entry of the same Seat, or add one. -/
def remember (completed : Registration) : List Registration → List Registration
  | [] => [completed]
  | prior :: rest =>
    if prior.identity.seatId = completed.identity.seatId then completed :: rest
    else prior :: remember completed rest

def disarm (identity : RecoveryProcessAttachmentIdentity) (lease : WatchdogLease) :
    RecoveryAttachmentResult × RecoveryProcessAttachmentAuthority :=
  match self.active.find? (onSeat identity.seatId) with
  | none =>
    match self.lastDisarmed.find? fun value =>
        value.identity == identity && value.manifest.lease == lease with
    | some prior =>
      (⟨.alreadySatisfied, some prior, "exact recovery attachment was already disarmed"⟩, self)
    | none => (self.verifyArmed identity lease, self)
  | some current =>
    let matched := compareAgainstCurrent current identity lease
    if !matched.succeeded then (matched, self)
    else
      (⟨.ok, some current, "exact recovery attachment disarmed"⟩,
        { active := self.active.eraseP (onSeat identity.seatId)
          lastDisarmed := remember current self.lastDisarmed })

inductive Call where
  | registerAttachment (registration : Registration)
  | disarm (identity : RecoveryProcessAttachmentIdentity) (lease : WatchdogLease)

def perform : Call → RecoveryAttachmentResult × RecoveryProcessAttachmentAuthority
  | .registerAttachment registration => self.registerAttachment registration
  | .disarm identity lease => self.disarm identity lease

def step (call : Call) : RecoveryProcessAttachmentAuthority := (self.perform call).2

end RecoveryProcessAttachmentAuthority

end HydraSeat.Recovery
