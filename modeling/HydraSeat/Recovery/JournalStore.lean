import HydraSeat.Recovery.JournalCodec
import HydraSeat.Foundation.Command

/-!
# The crash-journal store

The store keeps no state of its own: every operation reads and replaces the
files of one recovery directory through four storage calls.  `diskStorage`
is what the native storage promises: a read fails or is exact, a failed write
leaves the written slot in any state, and a replacement is all or nothing.
-/

namespace HydraSeat.Recovery

open Foundation
open Foundation.Command
open Watchdog

inductive JournalStorageSlot where
  | current | currentTemp | history0 | history1 | history2 | history3 | safeMode | safeModeTemp
  deriving DecidableEq

def historySlot : Nat → JournalStorageSlot
  | 0 => .history0
  | 1 => .history1
  | 2 => .history2
  | _ => .history3

inductive JournalReadResult where
  | success (bytes : List UInt8)
  | missing
  | tooLarge
  | failed (systemError : UInt32)

inductive StorageCall where
  | read (slot : JournalStorageSlot) (maxBytes : Nat)
  | durableWrite (slot : JournalStorageSlot) (bytes : List UInt8)
  | atomicReplace (source destination : JournalStorageSlot)
  | remove (slot : JournalStorageSlot)

/-- An error carries the system error. -/
def storageInterface : Interface where
  Call := StorageCall
  Answer := fun
    | .read _ _ => JournalReadResult
    | .durableWrite _ _ => Except UInt32 Unit
    | .atomicReplace _ _ => Except UInt32 Unit
    | .remove _ => Except UInt32 Unit

abbrev StorageProgram := Command storageInterface

namespace Storage

def read (slot : JournalStorageSlot) (maxBytes : Nat) : StorageProgram JournalReadResult :=
  @ask storageInterface (.read slot maxBytes)

def durableWrite (slot : JournalStorageSlot) (bytes : List UInt8) :
    StorageProgram (Except UInt32 Unit) :=
  @ask storageInterface (.durableWrite slot bytes)

def atomicReplace (source destination : JournalStorageSlot) : StorageProgram (Except UInt32 Unit) :=
  @ask storageInterface (.atomicReplace source destination)

def remove (slot : JournalStorageSlot) : StorageProgram (Except UInt32 Unit) :=
  @ask storageInterface (.remove slot)

end Storage

def readContent (content : Option (List UInt8)) (maxBytes : Nat) : JournalReadResult :=
  match content with
  | none => .missing
  | some bytes =>
    if bytes.length > maxBytes then .tooLarge else .success bytes

/-- The files of the recovery directory. -/
abbrev Disk := JournalStorageSlot → Option (List UInt8)

namespace Disk

def put (self : Disk) (slot : JournalStorageSlot) (content : Option (List UInt8)) : Disk :=
  Function.update self slot content

def readSlot (self : Disk) (slot : JournalStorageSlot) (maxBytes : Nat) : JournalReadResult :=
  readContent (self slot) maxBytes

/-- The source file takes the place of the destination. -/
def move (self : Disk) (source destination : JournalStorageSlot) : Disk :=
  (self.put destination (self source)).put source none

end Disk

/-- The answers and effects that a storage call may have.  A process that is
killed during a call is one that is stopped after a failed call. -/
def diskStorage : Environment storageInterface Disk
  | before, .read slot maxBytes, result, after =>
    after = before ∧
      (result = before.readSlot slot maxBytes ∨ ∃ systemError, result = .failed systemError)
  | before, .durableWrite slot bytes, .ok _, after => after = before.put slot (some bytes)
  | before, .durableWrite slot _, .error _, after => ∃ left, after = before.put slot left
  | before, .atomicReplace source destination, .ok _, after =>
    (before source).isSome ∧ after = before.move source destination
  | before, .atomicReplace source destination, .error _, after =>
    after = before ∨ (before source).isSome ∧ after = before.move source destination
  | before, .remove slot, .ok _, after => after = before.put slot none
  | before, .remove slot, .error _, after => after = before ∨ after = before.put slot none

/-- A storage on which no call fails, save that a missing file cannot be
moved. -/
def workingDisk : Environment storageInterface Disk
  | before, .read slot maxBytes, result, after =>
    after = before ∧ result = before.readSlot slot maxBytes
  | before, .durableWrite slot bytes, written, after =>
    written = .ok () ∧ after = before.put slot (some bytes)
  | before, .atomicReplace source destination, .ok _, after =>
    (before source).isSome ∧ after = before.move source destination
  | before, .atomicReplace source _, .error _, after => before source = none ∧ after = before
  | before, .remove slot, removed, after => removed = .ok () ∧ after = before.put slot none

/-- The calls of a working storage as a function. -/
def workingStorage (disk : Disk) (call : StorageCall) : storageInterface.Answer call × Disk :=
  match call with
  | .read slot maxBytes => (disk.readSlot slot maxBytes, disk)
  | .durableWrite slot bytes => (.ok (), disk.put slot (some bytes))
  | .atomicReplace source destination =>
    if (disk source).isSome then (.ok (), disk.move source destination)
    else (.error 2, disk)
  | .remove slot => (.ok (), disk.put slot none)

namespace CrashJournalStore

variable (initial : CrashJournalState) (expectedSession : SessionId)
variable (expectedRuntimeGeneration : UInt64)

/-- The loop of the archive: history file `index - 1` becomes file
`index`. -/
def shiftHistory : Nat → StorageProgram Unit
  | 0 => return ()
  | index + 1 => do
      let previous ← Storage.read (historySlot index) kCrashJournalMaxFileBytes
      match previous with
      | .success bytes => do
          let _ ← Storage.durableWrite (historySlot (index + 1)) bytes
          shiftHistory index
      | _ => shiftHistory index

def archiveCurrentBestEffort (currentBytes : List UInt8) : StorageProgram Bool := do
  shiftHistory (kCrashJournalHistoryDepth - 1)
  let written ← Storage.durableWrite .history0 currentBytes
  return written.isOk

def writeThenReplace (temporary slot : JournalStorageSlot) (bytes : List UInt8) :
    StorageProgram (Except UInt32 Unit) := do
  let written ← Storage.durableWrite temporary bytes
  match written with
  | .error systemError => do
      let _ ← Storage.remove temporary
      return .error systemError
  | .ok () => do
      let replaced ← Storage.atomicReplace temporary slot
      match replaced with
      | .error systemError => do
          let _ ← Storage.remove temporary
          return .error systemError
      | .ok () => return .ok ()

/-- The bytes of the journal that is about to be replaced, if they are to be
archived and can be read. -/
def readForArchive (archiveCurrent : Bool) : StorageProgram (List UInt8) :=
  if archiveCurrent then do
    let current ← Storage.read .current kCrashJournalMaxFileBytes
    match current with
    | .success bytes => return bytes
    | _ => return []
  else
    return []

def persistStateInternal (state : CrashJournalState) (archiveCurrent : Bool) :
    StorageProgram (Except String Unit) :=
  let bytes := encodeCrashJournal state
  if bytes = [] then
    return .error "crash journal state cannot be encoded"
  else do
    let currentBytes ← readForArchive archiveCurrent
    let replaced ← writeThenReplace .currentTemp .current bytes
    match replaced with
    | .error systemError =>
      return .error ("durable crash journal write/replace failed: " ++ toString systemError.toNat)
    | .ok () =>
      if currentBytes = [] then
        return .ok ()
      else do
        let _ ← archiveCurrentBestEffort currentBytes
        return .ok ()

def writeSafeMode (marker : SafeModeMarker) : StorageProgram (Except String Unit) :=
  let bytes := encodeSafeModeMarker marker
  if bytes = [] then
    return .error "safe-mode marker cannot be encoded"
  else do
    let replaced ← writeThenReplace .safeModeTemp .safeMode bytes
    match replaced with
    | .error systemError =>
      return .error ("safe-mode marker write/replace failed: " ++ toString systemError.toNat)
    | .ok () => return .ok ()

/-- The digest of a state's own encoding, zero when it does not encode. -/
def hashOfState (state : CrashJournalState) : Hash256 :=
  let encoded := encodeCrashJournal state
  if encoded = [] then Vector.replicate 32 0
  else hashCrashJournalBytes encoded

def failureMarker (reason : SafeModeReason) (state : Option CrashJournalState)
    (diagnosticCode : UInt32) : SafeModeMarker :=
  match state with
  | none => { reason := reason, diagnosticCode := diagnosticCode }
  | some state =>
    { sessionId := state.sessionId, runtimeGeneration := state.runtimeGeneration, reason := reason
      diagnosticCode := diagnosticCode, journalHash := hashOfState state }

def writeSafeModeForFailure (reason : SafeModeReason) (state : Option CrashJournalState)
    (diagnosticCode : UInt32) : StorageProgram Bool := do
  let written ← writeSafeMode (failureMarker reason state diagnosticCode)
  return written.isOk

/-- What reading a file of one kind comes to. -/
def loadedFile {α : Type} (subject : String) (decode : List UInt8 → Except String α) :
    JournalReadResult → Except String (Option α)
  | .missing => .ok none
  | .tooLarge => .error (subject ++ " file is too large")
  | .failed _ => .error (subject ++ " read failed")
  | .success bytes => (decode bytes).map some

def journalOfRead : JournalReadResult → Except String (Option CrashJournalState) :=
  loadedFile "crash journal" decodeCrashJournal

def markerOfRead : JournalReadResult → Except String (Option SafeModeMarker) :=
  loadedFile "safe-mode marker" decodeSafeModeMarker

def loadCurrent : StorageProgram (Except String (Option CrashJournalState)) := do
  let result ← Storage.read .current kCrashJournalMaxFileBytes
  return journalOfRead result

def loadSafeMode : StorageProgram (Except String (Option SafeModeMarker)) := do
  let result ← Storage.read .safeMode kSafeModeMarkerFileBytes
  return markerOfRead result

def canonicalInitial : Bool :=
  validateCrashJournalState initial == .ok () &&
    initial.phase == .preparing && initial.finalResult == .none &&
    (match initial.records with
      | [record] => record.kind == .activationStarted
      | _ => false)

/-- The end of `beginActivation`. -/
def persistInitial (archiveCurrent : Bool) : StorageProgram (Except String Unit) := do
  let persisted ← persistStateInternal initial archiveCurrent
  match persisted with
  | .error text => do
      let _ ← writeSafeModeForFailure .journalWriteFailure (some initial) 4
      return .error text
  | .ok () => return .ok ()

/-- `beginActivation` after the safe-mode marker was found missing. -/
def beginWithoutMarker : StorageProgram (Except String Unit) := do
  let current ← Storage.read .current kCrashJournalMaxFileBytes
  match current with
  | .missing => persistInitial initial false
  | .success bytes =>
    match decodeCrashJournal bytes with
    | .error _ => do
        let _ ← writeSafeModeForFailure .corruptJournal none 1
        return .error "existing crash journal is corrupt; activation blocked"
    | .ok prior =>
      if !prior.isClean ∨ initial.runtimeGeneration ≤ prior.runtimeGeneration then do
        let _ ← writeSafeModeForFailure .incompleteSession (some prior) 2
        return .error "previous session is not clean or generation did not advance"
      else persistInitial initial true
  | _ => do
      let _ ← writeSafeModeForFailure .corruptJournal none 3
      return .error "existing crash journal cannot be safely inspected"

def beginActivation : StorageProgram (Except String Unit) :=
  if !canonicalInitial initial then
    return .error "begin-activation requires a canonical initial journal"
  else do
    let marker ← Storage.read .safeMode kSafeModeMarkerFileBytes
    match marker with
    | .success _ =>
      return .error "safe mode is active; risky activation is blocked"
    | .missing => beginWithoutMarker initial
    | _ =>
      return .error "safe-mode marker cannot be safely inspected"

def stateExtendsCurrent (current next : CrashJournalState) : Except String Unit :=
  if current.sessionId ≠ next.sessionId ∨ current.planHash ≠ next.planHash ∨
      current.runtimeGeneration ≠ next.runtimeGeneration ∨
      current.lease ≠ next.lease ∨
      current.snapshots ≠ next.snapshots then
    .error "crash journal transition changed immutable session identity"
  else if next.records.length < current.records.length then
    .error "crash journal transition attempted to truncate history"
  else if next.records.length > current.records.length + 1 then
    .error "crash journal transition skipped a durable record boundary"
  else if next.records.take current.records.length ≠ current.records then
    .error "crash journal transition rewrote existing records"
  else if next.records.length = current.records.length ∧
      next ≠ current then
    .error "crash journal transition changed state without a new record"
  else .ok ()

/-- The end of `persistTransition`. -/
def persistNext (current next : CrashJournalState) : StorageProgram (Except String Unit) :=
  if next = current then
    return .ok ()
  else do
    let persisted ← persistStateInternal next true
    match persisted with
    | .error text => do
        let _ ← writeSafeModeForFailure .journalWriteFailure (some next) 7
        return .error text
    | .ok () => return .ok ()

def persistTransition (state : CrashJournalState) : StorageProgram (Except String Unit) :=
  match validateCrashJournalState state with
  | .error text => return .error text
  | .ok () => do
      let current ← Storage.read .current kCrashJournalMaxFileBytes
      match current with
      | .success bytes =>
        match decodeCrashJournal bytes with
        | .error _ => do
            let _ ← writeSafeModeForFailure .recoveryRequired (some state) 6
            return .error "current crash journal became corrupt"
        | .ok current =>
          match stateExtendsCurrent current state with
          | .error text => do
              let _ ← writeSafeModeForFailure .recoveryRequired (some current) 6
              return .error text
          | .ok () => persistNext current state
      | _ => do
          let _ ← writeSafeModeForFailure .corruptJournal (some state) 5
          return .error "current crash journal is missing/unreadable during transition"

inductive StartupRecoveryState where
  | clean | recoverableIncomplete | recoveryRequired
  deriving DecidableEq

structure StartupAssessment where
  state : StartupRecoveryState := .recoveryRequired
  journal : Option CrashJournalState := none
  safeMode : Option SafeModeMarker := none
  safeModeWriteFailed : Bool := false
  diagnostic : String := ""
  deriving DecidableEq

/-- Write a marker and note in the assessment how it went. -/
def assessWithMarker (assessment : StartupAssessment) (marker : SafeModeMarker) :
    StorageProgram StartupAssessment := do
  let written ← writeSafeMode marker
  match written with
  | .error _ => return { assessment with safeModeWriteFailed := true }
  | .ok () => return { assessment with safeMode := some marker }

def hardFailure (state : CrashJournalState) : Bool :=
  state.phase == .recoveryRequired || state.finalResult == .failed ||
    state.finalResult == .recoveryRequired

def startupMarker (state : CrashJournalState) (bytes : List UInt8) : SafeModeMarker where
  sessionId := state.sessionId
  runtimeGeneration := state.runtimeGeneration
  reason :=
    if hardFailure state then .recoveryRequired else .incompleteSession
  diagnosticCode := if hardFailure state then 10 else 11
  journalHash := hashCrashJournalBytes bytes

/-- The assessment of a journal that could be read. -/
def assessJournal (bytes : List UInt8) : StorageProgram StartupAssessment :=
  match decodeCrashJournal bytes with
  | .error text =>
    assessWithMarker
      { state := .recoveryRequired, diagnostic := "crash journal is corrupt: " ++ text }
      { reason := .corruptJournal, diagnosticCode := 9
        journalHash := hashCrashJournalBytes bytes }
  | .ok state =>
    if state.isClean then
      pure
        { state := .clean, journal := some state
          diagnostic := "previous runtime session is clean" }
    else
      assessWithMarker
        { state :=
            if hardFailure state then .recoveryRequired
            else .recoverableIncomplete
          journal := some state
          diagnostic :=
            if hardFailure state then "previous runtime session requires recovery"
            else "previous runtime session is incomplete" }
        (startupMarker state bytes)

/-- The assessment after the safe-mode marker was found missing. -/
def assessWithoutMarker : StorageProgram StartupAssessment := do
  let current ← Storage.read .current kCrashJournalMaxFileBytes
  match current with
  | .missing => pure { state := .clean, diagnostic := "no crash journal exists" }
  | .success bytes => assessJournal bytes
  | _ => do
      let written ← writeSafeModeForFailure .corruptJournal none 8
      pure
        { state := .recoveryRequired, safeModeWriteFailed := !written
          diagnostic := "crash journal cannot be read safely" }

def assessStartupAndEnterSafeMode : StorageProgram StartupAssessment := do
  let markerRead ← Storage.read .safeMode kSafeModeMarkerFileBytes
  match markerRead with
  | .missing => assessWithoutMarker
  | .success bytes =>
    match decodeSafeModeMarker bytes with
    | .ok marker =>
      pure
        { state := .recoveryRequired, safeMode := some marker
          diagnostic := "safe-mode marker is active" }
    | .error text =>
      pure { state := .recoveryRequired, diagnostic := "safe-mode marker is corrupt: " ++ text }
  | _ => pure { state := .recoveryRequired, diagnostic := "safe-mode marker cannot be read safely" }

def replaceWithVerifiedCleanState (cleanState : CrashJournalState) (resetVerified : Bool) :
    StorageProgram (Except String Unit) :=
  if !resetVerified ∨ validateCrashJournalState cleanState ≠ .ok () ∨ !cleanState.isClean then
    return .error "verified reset is required before replacing journal with clean state"
  else persistStateInternal cleanState true

def markerMatchesReset (marker : SafeModeMarker) (expectedSession : SessionId)
    (expectedRuntimeGeneration : UInt64) : Bool :=
  isZeroSessionId marker.sessionId ||
    (marker.sessionId == expectedSession && marker.runtimeGeneration == expectedRuntimeGeneration)

/-- The journal has to be clean and of the expected session. -/
def journalMatchesReset : Except String (Option CrashJournalState) → Bool
  | .ok (some current) =>
    current.isClean && current.sessionId == expectedSession &&
      current.runtimeGeneration == expectedRuntimeGeneration
  | _ => false

/-- The end of `clearSafeModeAfterVerifiedReset`. -/
def clearMarker : StorageProgram (Except String Unit) := do
  let current ← loadCurrent
  if !journalMatchesReset expectedSession expectedRuntimeGeneration current then
    return .error "clean verified journal state is required before clearing safe mode"
  else
    let removed ← Storage.remove .safeMode
    match removed with
    | .error systemError =>
      return .error ("safe-mode marker removal failed: " ++ toString systemError.toNat)
    | .ok () => return .ok ()

def clearSafeModeAfterVerifiedReset (resetVerified : Bool) : StorageProgram (Except String Unit) :=
  if !resetVerified ∨ isZeroSessionId expectedSession ∨ expectedRuntimeGeneration = 0 then
    return .error "verified reset identity is required to clear safe mode"
  else do
    let markerRead ← Storage.read .safeMode kSafeModeMarkerFileBytes
    match markerRead with
    | .success bytes =>
      match decodeSafeModeMarker bytes with
      | .error _ =>
        return .error "safe-mode marker is corrupt and cannot be cleared automatically"
      | .ok marker =>
        if !markerMatchesReset marker expectedSession expectedRuntimeGeneration then
          return .error "safe-mode marker identity does not match verified reset"
        else clearMarker expectedSession expectedRuntimeGeneration
    | _ =>
      return .error "safe-mode marker is missing or unreadable"

end CrashJournalStore

end HydraSeat.Recovery
