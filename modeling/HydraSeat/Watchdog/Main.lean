import HydraSeat.Watchdog.RollbackRegistry

/-!
# The watchdog program

`runWatchdog` of the Windows build: the startup that registers a plan, and
the loop that watches the host, the lease and the control pipe.  The loops
carry fuel, and `none` means that it ran out before the program returned.
Time points are in nanoseconds.
-/

namespace HydraSeat.Watchdog

open Foundation
open Foundation.Command

variable (lease : WatchdogLease) (manifest : RollbackPlanManifest)

def kStartupTimeoutMilliseconds : UInt32 := 5000

def kPollMilliseconds : UInt32 := 10

inductive ExitCode where
  | cleanDisarm | invalidArguments | startupFailure | rollbackComplete | recoveryRequired
  deriving DecidableEq

def ExitCode.value : ExitCode → Int
  | .cleanDisarm => 0
  | .invalidArguments => 2
  | .startupFailure => 3
  | .rollbackComplete => 10
  | .recoveryRequired => 11

def waitObject0 : UInt32 := 0

def waitFailed : UInt32 := 0xFFFFFFFF

def errorBrokenPipe : UInt32 := 109

def errorPipeNotConnected : UInt32 := 233

structure Options where
  host : ProcessIdentity := {}
  sessionId : SessionId := Vector.replicate 16 0

/-- The calls that leave the program.  `executeAction` stands for the six
methods of the executor and `writeAll` for the status pipe. -/
inductive WatchdogCall where
  | handlesArePipes
  | queryProcessIdentity (processId : UInt32)
  | openProcess (processId : UInt32)
  | getCurrentProcessId
  | waitForHost
  | steadyClockNow
  | peekNamedPipe
  | readFile (count : Nat)
  | sleepFor (milliseconds : UInt32)
  | executeAction (action : RollbackActionDescriptor) (timeoutMilliseconds : UInt32)
  | writeAll (bytes : List UInt8)
  | printStatus (status : WatchdogStatus)

/-- A peek answers with up to four bytes and the number available, or with
the system error. -/
def watchdogInterface : Interface where
  Call := WatchdogCall
  Answer := fun
    | .handlesArePipes => Bool
    | .queryProcessIdentity _ => Option ProcessIdentity
    | .openProcess _ => Bool
    | .getCurrentProcessId => UInt32
    | .waitForHost => UInt32
    | .steadyClockNow => Int
    | .peekNamedPipe => Except UInt32 (List UInt8 × UInt32)
    | .readFile _ => Except UInt32 (List UInt8)
    | .sleepFor _ => Unit
    | .executeAction _ _ => RollbackActionOutcome
    | .writeAll _ => Bool
    | .printStatus _ => Unit

abbrev Program := Command watchdogInterface

abbrev WatchdogEvent := Event watchdogInterface

def request (call : WatchdogCall) : Program (watchdogInterface.Answer call) :=
  @ask watchdogInterface call

def handlesArePipes : Program Bool := request .handlesArePipes

def queryProcessIdentity (processId : UInt32) : Program (Option ProcessIdentity) :=
  request (.queryProcessIdentity processId)

def openProcess (processId : UInt32) : Program Bool := request (.openProcess processId)

def getCurrentProcessId : Program UInt32 := request .getCurrentProcessId

def waitForHost : Program UInt32 := request .waitForHost

def steadyClockNow : Program Int := request .steadyClockNow

def peekNamedPipe : Program (Except UInt32 (List UInt8 × UInt32)) := request .peekNamedPipe

def readFile (count : Nat) : Program (Except UInt32 (List UInt8)) := request (.readFile count)

def sleepFor (milliseconds : UInt32) : Program Unit := request (.sleepFor milliseconds)

def performAction (action : RollbackActionDescriptor) (timeoutMilliseconds : UInt32) :
    Program RollbackActionOutcome :=
  request (.executeAction action timeoutMilliseconds)

def writeAll (bytes : List UInt8) : Program Bool := request (.writeAll bytes)

def printStatus (status : WatchdogStatus) : Program Unit := request (.printStatus status)

inductive PipeRead where
  | noFrame
  | frame (bytes : List UInt8)
  | closed
  | error
  | protocolError

def decodeLengthPrefix (lengthPrefix : List UInt8) : Nat := spelled (lengthPrefix.take 4)

def readWholeFrame (totalBytes : Nat) : Program PipeRead := do
  match ← readFile totalBytes with
  | .error _ => return .error
  | .ok combined =>
    if combined.length ≠ totalBytes then
      return .error
    else
      return .frame (combined.drop 4)

def tryReadFrame : Program PipeRead := do
  match ← peekNamedPipe with
  | .error code =>
    if code = errorBrokenPipe ∨ code = errorPipeNotConnected then
      return .closed
    else
      return .error
  | .ok (lengthPrefix, available) =>
    if available = 0 then
      return .noFrame
    else if available < 4 ∨ lengthPrefix.length < 4 then
      return .noFrame
    else
      let frameBytes := decodeLengthPrefix lengthPrefix
      if frameBytes < kWatchdogFrameHeaderBytes ∨ frameBytes > kWatchdogMaxFrameBytes then
        return .protocolError
      else if available.toNat < 4 + frameBytes then
        return .noFrame
      else readWholeFrame (4 + frameBytes)

def writeStatusFrame (sequence : UInt64) (status : WatchdogStatus) : Program Bool :=
  let frame := encodeWatchdogStatus sequence status
  if frame = [] then
    return false
  else do
    let prefixWritten ← writeAll (writeU32 (UInt32.ofNat frame.length))
    if prefixWritten then writeAll frame
    else
      return false

def report (sequence : UInt64) (status : WatchdogStatus) (code : ExitCode) : Program ExitCode := do
  let _ ← writeStatusFrame sequence status
  printStatus status
  return code

/-- The fields of a status that summarise an execution. -/
def summaryStatus (summary : RollbackExecutionSummary)
    (state : WatchdogRunState) (reason : WatchdogTriggerReason) :
    WatchdogStatus where
  sessionId := manifest.lease.sessionId
  generation := manifest.lease.generation
  state := state
  reason := reason
  completedActions := UInt16.ofNat (summary.outcomes.countP fun outcome => satisfied outcome.result)
  totalActions := UInt16.ofNat manifest.actions.length
  failedActionId := summary.firstFailedActionId
  systemError := summary.firstSystemError

def executeRegisteredRollback (registry : RollbackRegistry) :
    Program (RollbackExecutionSummary × RollbackRegistry) :=
  registry.execute steadyClockNow performAction

def executeRollback (registry : RollbackRegistry) (statusSequence : UInt64)
    (triggerReason : WatchdogTriggerReason) : Program ExitCode := do
  let (summary, after) ← executeRegisteredRollback registry
  match after.manifest with
  | none => return .startupFailure
  | some manifest =>
    if summary.recoveryRequired then
      report statusSequence (summaryStatus manifest summary .recoveryRequired triggerReason)
        .recoveryRequired
    else
      report statusSequence (summaryStatus manifest summary .rollbackComplete triggerReason)
        .rollbackComplete

/-- The end of the `Disarm` branch: the plan runs once more before the
watchdog releases its lease. -/
def disarmAfterRollback (registry : RollbackRegistry) (manifest : RollbackPlanManifest)
    (statusSequence : UInt64) : Program ExitCode := do
  let (summary, _) ← executeRegisteredRollback registry
  if summary.recoveryRequired then
    report statusSequence (summaryStatus manifest summary .recoveryRequired .rollbackFailure)
      .recoveryRequired
  else report statusSequence (summaryStatus manifest summary .disarmed .cleanDisarm) .cleanDisarm

/-- How one round of the armed loop ends. -/
inductive Decision where
  | poll
  | renewed (sequence : UInt64) (lastRenewal : Int)
  | rollback (statusSequence : UInt64) (reason : WatchdogTriggerReason)
  | disarm (sequence : UInt64)

def leaseExpired (lastRenewal now : Int) : Bool :=
  now - lastRenewal ≥ lease.timeoutMilliseconds.toNat * 1000000

def decideFrame (frame : DecodedWatchdogFrame) : Program Decision :=
  match frame.type with
  | .renewLease =>
    match decodeLeaseRenewal frame with
    | .ok renewed =>
      if renewed ≠ lease then
        return .rollback (frame.sequence + 1) .protocolViolation
      else do
        let lastRenewal ← steadyClockNow
        return .renewed frame.sequence lastRenewal
    | .error _ =>
      return .rollback (frame.sequence + 1) .protocolViolation
  | .disarm =>
    match decodeDisarm frame with
    | .ok disarmed =>
      if disarmed ≠ lease then
        return .rollback (frame.sequence + 1) .protocolViolation
      else
        return .disarm frame.sequence
    | .error _ =>
      return .rollback (frame.sequence + 1) .protocolViolation
  | .registerPlan =>
    return .rollback (frame.sequence + 1) .protocolViolation
  | .status =>
    return .rollback (frame.sequence + 1) .protocolViolation

def decideRead (lastSequence : UInt64) : PipeRead → Program Decision
  | .noFrame => return .poll
  | .closed => return .rollback (lastSequence + 1) .controlChannelClosed
  | .error => return .rollback (lastSequence + 1) .protocolViolation
  | .protocolError =>
    return .rollback (lastSequence + 1) .protocolViolation
  | .frame bytes =>
    match decodeWatchdogFrame bytes with
    | .error _ =>
      return .rollback (lastSequence + 1) .protocolViolation
    | .ok frame =>
      if frame.sequence ≤ lastSequence then
        return .rollback (lastSequence + 1) .protocolViolation
      else decideFrame lease frame

def watchRound (lastSequence : UInt64) (lastRenewal : Int) : Program Decision := do
  let hostState ← waitForHost
  if hostState = waitObject0 then
    return .rollback (lastSequence + 1) .hostExited
  else if hostState = waitFailed then
    return .rollback (lastSequence + 1) .protocolViolation
  else
    let now ← steadyClockNow
    if leaseExpired lease lastRenewal now then
      return .rollback (lastSequence + 1) .leaseExpired
    else
      let read ← tryReadFrame
      decideRead lease lastSequence read

def watchLoop (registry : RollbackRegistry) (manifest : RollbackPlanManifest) :
    Nat → UInt64 → Int → Program (Option ExitCode)
  | 0, _, _ => return none
  | fuel + 1, lastSequence, lastRenewal => do
      let decision ← watchRound manifest.lease lastSequence lastRenewal
      match decision with
      | .poll => do
          sleepFor kPollMilliseconds
          watchLoop registry manifest fuel lastSequence lastRenewal
      | .renewed sequence renewal => watchLoop registry manifest fuel sequence renewal
      | .rollback statusSequence reason => do
          let code ← executeRollback registry statusSequence reason
          return some code
      | .disarm sequence => do
          let code ← disarmAfterRollback registry manifest (sequence + 1)
          return some code

structure Registered where
  registry : RollbackRegistry
  manifest : RollbackPlanManifest
  lastSequence : UInt64
  lastRenewal : Int

def targetsHostOrSelf (host self : UInt32) : Bool :=
  manifest.actions.any fun action =>
    action.kind == .terminateOwnedProcess &&
      (action.process.processId == host || action.process.processId == self)

/-- The plan that the first frame registers. -/
def acceptPlan (options : Options) (bytes : List UInt8) : Program (Option Registered) :=
  match decodeWatchdogFrame bytes with
  | .error _ => return none
  | .ok frame =>
    if frame.type ≠ .registerPlan then
      return none
    else
      match decodeRegisterPlan frame with
      | .error _ => return none
      | .ok manifest =>
        if manifest.lease.sessionId ≠ options.sessionId then
          return none
        else do
          let self ← getCurrentProcessId
          if targetsHostOrSelf manifest options.host.processId self then
            return none
          else
            match RollbackRegistry.registerPlan {} manifest with
            | .error _ => return none
            | .ok registry => do
                let lastRenewal ← steadyClockNow
                return some ⟨registry, manifest, frame.sequence, lastRenewal⟩

/-- `some none` is a startup failure. -/
def awaitPlan (options : Options) (startupDeadline : Int) :
    Nat → Program (Option (Option Registered))
  | 0 => return none
  | fuel + 1 => do
      let hostState ← waitForHost
      if hostState = waitObject0 then
        return some none
      else
        let now ← steadyClockNow
        if now ≥ startupDeadline then
          return some none
        else
          let read ← tryReadFrame
          match read with
          | .noFrame => do
              sleepFor kPollMilliseconds
              awaitPlan options startupDeadline fuel
          | .frame bytes => do
              let registered ← acceptPlan options bytes
              return some registered
          | _ => return some none

/-- `runWatchdog` up to the armed registry, or to the code it ends with. -/
def startUp (fuel : Nat) (options : Options) : Program (Option (Except ExitCode Registered)) := do
  let pipes ← handlesArePipes
  if !pipes then
    return some (.error .invalidArguments)
  else
    let observedHost ← queryProcessIdentity options.host.processId
    if observedHost ≠ some options.host then
      return some (.error .startupFailure)
    else
      let opened ← openProcess options.host.processId
      if !opened then
        return some (.error .startupFailure)
      else
        let started ← steadyClockNow
        let startup ← awaitPlan options (started + kStartupTimeoutMilliseconds.toNat * 1000000) fuel
        match startup with
        | none => return none
        | some none => return some (.error .startupFailure)
        | some (some registered) => return some (.ok registered)

def armedStatus : WatchdogStatus where
  sessionId := manifest.lease.sessionId
  generation := manifest.lease.generation
  state := .armed
  reason := .none
  totalActions := UInt16.ofNat manifest.actions.length

def runArmed (fuel : Nat) (registered : Registered) : Program (Option ExitCode) := do
  let _ ← writeStatusFrame (registered.lastSequence + 1) (armedStatus registered.manifest)
  watchLoop registered.registry registered.manifest fuel
    registered.lastSequence registered.lastRenewal

def runWatchdog (fuel : Nat) (options : Options) : Program (Option ExitCode) := do
  let started ← startUp fuel options
  match started with
  | none => return none
  | some (.error code) => return some code
  | some (.ok registered) => runArmed fuel registered

end HydraSeat.Watchdog
