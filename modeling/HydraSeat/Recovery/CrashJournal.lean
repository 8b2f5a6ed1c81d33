import HydraSeat.Recovery.ProcessAttachment

/-!
# The crash journal

A journal is a list of records that replays to a phase and a result.  A
state is valid when its stored phase and result are the replayed ones and
its identity fields are complete.
-/

namespace HydraSeat.Recovery

open Foundation
open Watchdog

abbrev Hash256 := Vector UInt8 32

def kCrashJournalMaxRecords : Nat := 160

def kCrashJournalMaxSnapshots : Nat := 16

/-- "RPATTACH" reserved identity binding. -/
def kRecoveryProcessAttachmentSnapshotId : UInt64 := 0x5250415454414348

def isZeroHash (hash : Hash256) : Bool := hash.toList.all (· == 0)

inductive CrashJournalPhase where
  | preparing | applying | active | rollingBack | clean | recoveryRequired
  | unknown (value : UInt16)
  deriving DecidableEq

namespace CrashJournalPhase

def ofValue (value : UInt16) : CrashJournalPhase :=
  if value = 1 then .preparing
  else if value = 2 then .applying
  else if value = 3 then .active
  else if value = 4 then .rollingBack
  else if value = 5 then .clean
  else if value = 6 then .recoveryRequired
  else .unknown value

def value : CrashJournalPhase → UInt16
  | .preparing => 1
  | .applying => 2
  | .active => 3
  | .rollingBack => 4
  | .clean => 5
  | .recoveryRequired => 6
  | .unknown value => value

end CrashJournalPhase

def knownPhase : CrashJournalPhase → Bool
  | .unknown _ => false
  | _ => true

inductive CrashJournalFinalResult where
  | none | clean | failed | recoveryRequired
  | unknown (value : UInt16)
  deriving DecidableEq

namespace CrashJournalFinalResult

def ofValue (value : UInt16) : CrashJournalFinalResult :=
  if value = 0 then .none
  else if value = 1 then .clean
  else if value = 2 then .failed
  else if value = 3 then .recoveryRequired
  else .unknown value

def value : CrashJournalFinalResult → UInt16
  | .none => 0
  | .clean => 1
  | .failed => 2
  | .recoveryRequired => 3
  | .unknown value => value

end CrashJournalFinalResult

def knownFinalResult : CrashJournalFinalResult → Bool
  | .unknown _ => false
  | _ => true

inductive CrashJournalRecordKind where
  | activationStarted | actionPrepared | actionApplied | actionVerified | activationCommitted
  | rollbackStarted | actionRolledBack | rollbackVerified | cleanStop | failureRecorded
  | recoveryRequired
  | unknown (value : UInt16)
  deriving DecidableEq

namespace CrashJournalRecordKind

def ofValue (value : UInt16) : CrashJournalRecordKind :=
  if value = 1 then .activationStarted
  else if value = 2 then .actionPrepared
  else if value = 3 then .actionApplied
  else if value = 4 then .actionVerified
  else if value = 5 then .activationCommitted
  else if value = 6 then .rollbackStarted
  else if value = 7 then .actionRolledBack
  else if value = 8 then .rollbackVerified
  else if value = 9 then .cleanStop
  else if value = 10 then .failureRecorded
  else if value = 11 then .recoveryRequired
  else .unknown value

def value : CrashJournalRecordKind → UInt16
  | .activationStarted => 1
  | .actionPrepared => 2
  | .actionApplied => 3
  | .actionVerified => 4
  | .activationCommitted => 5
  | .rollbackStarted => 6
  | .actionRolledBack => 7
  | .rollbackVerified => 8
  | .cleanStop => 9
  | .failureRecorded => 10
  | .recoveryRequired => 11
  | .unknown value => value

end CrashJournalRecordKind

def knownRecordKind : CrashJournalRecordKind → Bool
  | .unknown _ => false
  | _ => true

def actionRecord : CrashJournalRecordKind → Bool
  | .actionPrepared => true
  | .actionApplied => true
  | .actionVerified => true
  | .actionRolledBack => true
  | _ => false

structure CrashJournalRecord where
  sequence : UInt64 := 0
  kind : CrashJournalRecordKind := .activationStarted
  actionId : UInt32 := 0
  generation : UInt64 := 0
  deriving DecidableEq

structure SnapshotReference where
  snapshotId : UInt64 := 0
  sha256 : Hash256 := Vector.replicate 32 0
  generation : UInt64 := 0
  deriving DecidableEq

structure CrashJournalState where
  sessionId : SessionId := Vector.replicate 16 0
  planHash : Hash256 := Vector.replicate 32 0
  runtimeGeneration : UInt64 := 0
  lease : WatchdogLease := {}
  phase : CrashJournalPhase := .preparing
  finalResult : CrashJournalFinalResult := .none
  records : List CrashJournalRecord := []
  snapshots : List SnapshotReference := []
  deriving DecidableEq

inductive ActionProgress where
  | prepared | applied | verified | rolledBack
  deriving DecidableEq

/-- `DerivedState` with the two locals of the replay loop.  `actions` has
one entry for each prepared action. -/
structure Replay where
  phase : CrashJournalPhase := .preparing
  finalResult : CrashJournalFinalResult := .none
  actions : List (UInt32 × ActionProgress) := []
  rollbackVerified : Bool := false

namespace Replay

def progress? (self : Replay) (actionId : UInt32) : Option ActionProgress :=
  self.actions.lookup actionId

def setProgress (self : Replay) (actionId : UInt32) (progress : ActionProgress) : Replay :=
  { self with
    actions :=
      self.actions.map fun entry =>
        if entry.1 = actionId then (actionId, progress) else entry }

def allActions (self : Replay) (progress : ActionProgress) : Bool :=
  self.actions.all (·.2 == progress)

def activating (self : Replay) : Bool := self.phase == .preparing || self.phase == .applying

def terminal (self : Replay) : Bool := self.phase == .clean || self.phase == .recoveryRequired

/-- The `switch` of the replay loop. -/
def apply (self : Replay) (index : Nat) (record : CrashJournalRecord) : Except String Replay :=
  match record.kind with
  | .activationStarted =>
    if index ≠ 0 ∨ record.actionId ≠ 0 then .error "activation-started must be the first record"
    else .ok { self with phase := .preparing }
  | .actionPrepared =>
    if !self.activating then .error "action-prepared is outside activation"
    else if (self.progress? record.actionId).isSome then .error "action-prepared is duplicated"
    else .ok { self with actions := (record.actionId, .prepared) :: self.actions }
  | .actionApplied =>
    if !self.activating then .error "action-applied is outside activation"
    else if self.progress? record.actionId ≠ some .prepared then
      .error "action-applied requires exactly one prepare marker"
    else .ok { self.setProgress record.actionId .applied with phase := .applying }
  | .actionVerified =>
    if self.phase ≠ .applying then .error "action-verified is outside applying state"
    else if self.progress? record.actionId ≠ some .applied then
      .error "action-verified requires an applied action"
    else .ok (self.setProgress record.actionId .verified)
  | .activationCommitted =>
    if !self.activating then .error "activation-committed is outside activation"
    else if !self.allActions .verified then
      .error "activation commit requires all prepared actions verified"
    else .ok { self with phase := .active }
  | .rollbackStarted =>
    if !self.activating && self.phase != .active then
      .error "rollback-started is outside a recoverable state"
    else .ok { self with phase := .rollingBack, rollbackVerified := false }
  | .actionRolledBack =>
    if self.phase ≠ .rollingBack then .error "action-rolled-back is outside rollback"
    else if self.progress? record.actionId = none ∨
        self.progress? record.actionId = some .rolledBack then
      .error "action-rolled-back requires an outstanding prepared action"
    else .ok (self.setProgress record.actionId .rolledBack)
  | .rollbackVerified =>
    if self.phase ≠ .rollingBack then .error "rollback-verified is outside rollback"
    else if !self.allActions .rolledBack then
      .error "rollback verification requires every prepared action restored"
    else .ok { self with rollbackVerified := true }
  | .cleanStop =>
    if self.phase ≠ .rollingBack ∨ self.rollbackVerified = false then
      .error "clean-stop requires verified rollback"
    else .ok { self with phase := .clean, finalResult := .clean }
  | .failureRecorded => .ok { self with phase := .recoveryRequired, finalResult := .failed }
  | .recoveryRequired =>
    .ok { self with phase := .recoveryRequired, finalResult := .recoveryRequired }
  | .unknown _ => .ok self

/-- One round of the replay loop. -/
def step (self : Replay) (index : Nat) (record : CrashJournalRecord) : Except String Replay :=
  if record.sequence ≠ UInt64.ofNat (index + 1) ∨
      record.generation = 0 ∨ knownRecordKind record.kind = false then
    .error "crash journal record identity is invalid"
  else if actionRecord record.kind ≠ (record.actionId != 0) then
    .error "crash journal action marker shape is invalid"
  else if self.terminal then .error "crash journal contains records after terminal state"
  else self.apply index record

def run (self : Replay) (index : Nat) : List CrashJournalRecord → Except String Replay
  | [] => .ok self
  | record :: records =>
    match self.step index record with
    | .error text => .error text
    | .ok next => next.run (index + 1) records

end Replay

def deriveStateFromRecords (records : List CrashJournalRecord) : Except String Replay :=
  if records = [] ∨ records.length > kCrashJournalMaxRecords then
    .error "crash journal record count is out of range"
  else Replay.run {} 0 records

def validSnapshot (snapshot : SnapshotReference) : Bool :=
  snapshot.snapshotId != 0 && snapshot.generation != 0 && !isZeroHash snapshot.sha256

/-- The loop over the snapshots, with the identifiers seen so far. -/
def validateSnapshots (snapshotIds : List UInt64) : List SnapshotReference → Except String Unit
  | [] => .ok ()
  | snapshot :: snapshots =>
    if !validSnapshot snapshot ∨ snapshot.snapshotId ∈ snapshotIds then
      .error "crash journal snapshot identity is invalid or duplicated"
    else validateSnapshots (snapshot.snapshotId :: snapshotIds) snapshots

def validateCrashJournalState (state : CrashJournalState) : Except String Unit :=
  if isZeroSessionId state.sessionId ∨ isZeroHash state.planHash ∨ state.runtimeGeneration = 0 then
    .error "crash journal top-level identity is invalid"
  else if state.lease.sessionId ≠ state.sessionId ∨ state.lease.generation = 0 ∨
      state.lease.timeoutMilliseconds < kWatchdogMinLeaseTimeoutMs ∨
      state.lease.timeoutMilliseconds > kWatchdogMaxLeaseTimeoutMs then
    .error "crash journal lease identity is invalid"
  else if !knownPhase state.phase ∨ !knownFinalResult state.finalResult ∨
      state.snapshots.length > kCrashJournalMaxSnapshots then
    .error "crash journal phase/result/snapshot count is invalid"
  else
    match validateSnapshots [] state.snapshots with
    | .error text => .error text
    | .ok () =>
      match deriveStateFromRecords state.records with
      | .error text => .error text
      | .ok derived =>
        if derived.phase ≠ state.phase ∨ derived.finalResult ≠ state.finalResult then
          .error "crash journal stored state does not match record replay"
        else .ok ()

/-- The journal's session ended clean. -/
def CrashJournalState.isClean (state : CrashJournalState) : Bool :=
  state.phase == .clean && state.finalResult == .clean

/-- One word of the digest takes one byte in. -/
def mixWord (index : Nat) (byte : UInt8) (word : UInt64) : UInt64 :=
  let mixed := (word ^^^ (byte.toUInt64 + UInt64.ofNat (index * 17))) * 0x100000001b3
  mixed ^^^ (mixed >>> 32)

structure DigestWords where
  first : UInt64 := 0xcbf29ce484222325
  second : UInt64 := 0x84222325cbf29ce4
  third : UInt64 := 0x9e3779b185ebca87
  fourth : UInt64 := 0x517cc1b727220a95

def DigestWords.mix (words : DigestWords) (byte : UInt8) : DigestWords where
  first := mixWord 0 byte words.first
  second := mixWord 1 byte words.second
  third := mixWord 2 byte words.third
  fourth := mixWord 3 byte words.fourth

def DigestWords.bytes (words : DigestWords) : List UInt8 :=
  writeU64 words.first ++ writeU64 words.second ++ writeU64 words.third ++ writeU64 words.fourth

theorem DigestWords.bytes_length (words : DigestWords) : words.bytes.length = 32 := by
  simp [DigestWords.bytes]

def hashCrashJournalBytes (bytes : List UInt8) : Hash256 :=
  let words := bytes.foldl DigestWords.mix {}
  ⟨words.bytes.toArray, by simp [words.bytes_length]⟩

/-- A plan that does not encode hashes to zero. -/
def hashRollbackPlanManifest (manifest : RollbackPlanManifest) : Hash256 :=
  let canonical := encodeRegisterPlan 1 manifest
  if canonical = [] then Vector.replicate 32 0
  else hashCrashJournalBytes canonical

def makeRecoveryProcessAttachmentSnapshot (identity : RecoveryProcessAttachmentIdentity) :
    Except String SnapshotReference :=
  let canonical := encodeRecoveryProcessAttachmentIdentity identity
  if canonical.length ≠ kRecoveryProcessAttachmentIdentityBytes then
    .error "recovery attachment identity cannot be encoded for journal binding"
  else
    let digest := hashCrashJournalBytes canonical
    if isZeroHash digest then .error "recovery attachment journal binding hash is zero"
    else
      .ok
        { snapshotId := kRecoveryProcessAttachmentSnapshotId, sha256 := digest
          generation := identity.recoveryEpoch }

def findAction (manifest : RollbackPlanManifest) (actionId : UInt32) :
    Option RollbackActionDescriptor :=
  manifest.actions.find? (·.actionId == actionId)

/-- The loop over the records against a plan, with the ordinal of the last
action that was rolled back. -/
def validateRecordsAgainstPlan (manifest : RollbackPlanManifest)
    (previousRollbackOrdinal : Option UInt32) :
    List CrashJournalRecord → Except String Unit
  | [] => .ok ()
  | record :: records =>
    if !actionRecord record.kind then
      validateRecordsAgainstPlan manifest previousRollbackOrdinal records
    else
      match findAction manifest record.actionId with
      | none => .error "crash journal action marker is not present in rollback plan"
      | some action =>
        if action.generation ≠ record.generation then
          .error "crash journal action marker is not present in rollback plan"
        else if record.kind = .actionRolledBack then
          if previousRollbackOrdinal.any (action.activationOrdinal ≥ ·) then
            .error "crash journal rollback markers are not in reverse activation order"
          else validateRecordsAgainstPlan manifest (some action.activationOrdinal) records
        else validateRecordsAgainstPlan manifest previousRollbackOrdinal records

def validateCrashJournalAgainstPlan (state : CrashJournalState) (manifest : RollbackPlanManifest) :
    Except String Unit := do
  validateCrashJournalState state
  validateRollbackPlan manifest
  let expectedPlanHash := hashRollbackPlanManifest manifest
  if isZeroHash expectedPlanHash ∨ state.planHash ≠ expectedPlanHash then
    .error "crash journal plan hash does not match rollback manifest"
  else if state.sessionId ≠ manifest.lease.sessionId ∨ state.lease ≠ manifest.lease then
    .error "crash journal lease/session does not match rollback plan"
  else validateRecordsAgainstPlan manifest none state.records

def validateRecoveryProcessAttachmentJournalBinding (state : CrashJournalState)
    (identity : RecoveryProcessAttachmentIdentity) :
    Except String Unit := do
  validateCrashJournalState state
  let expected ← makeRecoveryProcessAttachmentSnapshot identity
  match state.snapshots.find? (·.snapshotId == kRecoveryProcessAttachmentSnapshotId) with
  | none => .error "crash journal has no exact recovery-process attachment binding"
  | some found =>
    if found ≠ expected then
      .error "crash journal recovery-process attachment binding does not match the exact epoch"
    else .ok ()

def makeInitialCrashJournal (manifest : RollbackPlanManifest) (runtimeGeneration : UInt64)
    (snapshots : List SnapshotReference) :
    Except String CrashJournalState :=
  if validateRollbackPlan manifest ≠ .ok () ∨ runtimeGeneration = 0 ∨
      snapshots.length > kCrashJournalMaxSnapshots then
    .error "initial crash journal arguments are invalid"
  else
    let planHash := hashRollbackPlanManifest manifest
    if isZeroHash planHash then .error "rollback plan hash cannot be computed"
    else
      let state : CrashJournalState :=
        { sessionId := manifest.lease.sessionId, planHash := planHash
          runtimeGeneration := runtimeGeneration, lease := manifest.lease, phase := .preparing
          finalResult := .none, records := [⟨1, .activationStarted, 0, runtimeGeneration⟩]
          snapshots := snapshots }
      match validateCrashJournalAgainstPlan state manifest with
      | .error text => .error text
      | .ok () => .ok state

/-- The checks of an append that look at the new record alone. -/
def validateAppend (state : CrashJournalState) (manifest : RollbackPlanManifest)
    (kind : CrashJournalRecordKind) (actionId : UInt32)
    (generation : UInt64) : Except String Unit :=
  if !knownRecordKind kind ∨ generation = 0 ∨ state.records.length ≥ kCrashJournalMaxRecords then
    .error "crash journal append arguments are invalid"
  else if actionRecord kind then
    if (findAction manifest actionId).map (·.generation) ≠ some generation then
      .error "crash journal action marker does not match rollback plan"
    else .ok ()
  else if actionId ≠ 0 ∨ generation ≠ state.runtimeGeneration then
    .error "crash journal session marker identity is invalid"
  else .ok ()

def appendCrashJournalRecord (state : CrashJournalState) (manifest : RollbackPlanManifest)
    (kind : CrashJournalRecordKind) (actionId : UInt32)
    (generation : UInt64) : Except String CrashJournalState := do
  validateAppend state manifest kind actionId generation
  let records :=
    state.records ++ [⟨UInt64.ofNat (state.records.length + 1), kind, actionId, generation⟩]
  let derived ← deriveStateFromRecords records
  let candidate :=
    { state with records := records, phase := derived.phase, finalResult := derived.finalResult }
  validateCrashJournalAgainstPlan candidate manifest
  return candidate

end HydraSeat.Recovery
