import HydraSeat.Foundation.Objects
import HydraSeat.Strings
import Mathlib.Data.List.Sort

/-!
# The game lifecycle of the Seats

The coordinator of one game instance for each Seat.  The factory, the
instances and the lock are calls; every operation holds the lock to its end,
so no other operation sees a phase in between.
-/

namespace HydraSeat.Launch

open Foundation
open Foundation.Command

def kV1MaximumActiveSeats : Nat := 2

def kSeatGameIdentifierMaxBytes : Nat := 256

def kMaximumDiagnosticBytes : Nat := 2048

def kRememberedCorrelations : Nat := 128

inductive SeatGamePhase where
  | idle | planning | starting | playing | stopping | degraded | recoveryRequired
  deriving DecidableEq

inductive SeatGameResultCode where
  | ok | alreadySatisfied | busy | invalidSeat | invalidState | invalidBinding
  | duplicateCorrelation | backendFailure | recoveryRequired | v1SeatLimitExceeded

structure SeatGameBinding where
  (playerId gameId : ByteString)
  deriving DecidableEq

structure SeatGameState where
  seatId : UInt32 := 0
  phase : SeatGamePhase := .idle
  binding : Option SeatGameBinding := none
  generation : UInt64 := 0
  diagnostic : ByteString := []

structure SeatGameCommandResult where
  code : SeatGameResultCode := .ok
  seats : List SeatGameState := []
  wholeMachineReturnRequested : Bool := false
  diagnostic : ByteString := []

abbrev SeatGameInstance := Nat

inductive Attempt (α : Type) where
  | returned (value : α) (error : ByteString)
  | threw (what : ByteString)
  | threwUnknown

inductive LifecycleCall where
  | tryLock
  | createForBinding (seatId : UInt32) (binding : SeatGameBinding) (expectedGeneration : UInt64)
  | start (game : SeatGameInstance) (binding : SeatGameBinding) (error : ByteString)
  | stop (game : SeatGameInstance) (error : ByteString)
  | verifyStopped (game : SeatGameInstance) (error : ByteString)
  | running (game : SeatGameInstance)

abbrev LifecycleCall.Answer : LifecycleCall → Type
  | .tryLock => Bool
  | .createForBinding _ _ _ => Attempt (Option SeatGameInstance)
  | .start _ _ _ => Attempt Bool
  | .stop _ _ => Bool × ByteString
  | .verifyStopped _ _ => Bool × ByteString
  | .running _ => Bool

abbrev lifecycleInterface : Interface where
  Call := LifecycleCall
  Answer := LifecycleCall.Answer

abbrev LifecycleProgram := Command lifecycleInterface

def callLifecycle (request : LifecycleCall) : LifecycleProgram request.Answer :=
  @ask lifecycleInterface request

/-- `stop`, and `verifyStopped` if that succeeds. -/
def stopVerified (game : SeatGameInstance) (error : ByteString) :
    LifecycleProgram (Bool × ByteString) := do
  let (stopped, error) ← callLifecycle (.stop game error)
  if !stopped then
    return (false, error)
  else callLifecycle (.verifyStopped game error)

structure SeatGameLifecycle.Entry where
  state : SeatGameState
  game : Option SeatGameInstance := none

structure SeatGameLifecycle where
  entries : List SeatGameLifecycle.Entry := []
  factory : Bool := true
  correlations : List UInt64 := []
  configurationValid : Bool := true
  configurationErrorCode : SeatGameResultCode := .ok
  configurationError : ByteString := []
  wholeMachineReturnRequested : Bool := false

abbrev LifecycleOutcome := SeatGameCommandResult × SeatGameLifecycle

def boundedDiagnostic (value : ByteString) : ByteString := value.take kMaximumDiagnosticBytes

def boundedIdentifier (value : ByteString) : Bool :=
  !value.isEmpty && value.length ≤ kSeatGameIdentifierMaxBytes && !value.contains 0

def validBinding (binding : SeatGameBinding) : Bool :=
  boundedIdentifier binding.playerId && boundedIdentifier binding.gameId

/-- The entries of the active Seats, in the order of their identifiers. -/
def addSeats : List UInt32 → List SeatGameLifecycle.Entry → Option (List SeatGameLifecycle.Entry)
  | [], entries => some entries
  | seatId :: activeSeats, entries =>
    if seatId = 0 ∨ seatId ∈ entries.map (·.state.seatId) then none
    else
      addSeats activeSeats
        (entries.orderedInsert (·.state.seatId ≤ ·.state.seatId) { state := { seatId } })

namespace SeatGameLifecycle

variable (self : SeatGameLifecycle) (entry : Entry) (game : SeatGameInstance) (seatId : UInt32)
variable (correlationId : UInt64) (binding : SeatGameBinding)

def invalid (factory : Bool) (code : SeatGameResultCode) (error : String) : SeatGameLifecycle where
  factory
  configurationValid := false
  configurationErrorCode := code
  configurationError := bytesOf error

def create (activeSeats : List UInt32) (factory : Bool) : SeatGameLifecycle :=
  if activeSeats.isEmpty then invalid factory .invalidSeat "at least one active Seat is required"
  else if kV1MaximumActiveSeats < activeSeats.length then
    invalid factory .v1SeatLimitExceeded "HydraSeat v1 rejects more than two active Seats"
  else
    match addSeats activeSeats [] with
    | none => invalid factory .invalidSeat "active Seat identifiers must be nonzero and unique"
    | some entries =>
      if !factory then
        { invalid factory .backendFailure "Seat game instance factory is required" with entries }
      else
        { entries, factory }

/-- `rejectLocked` and `finishLocked`: the result over the present state. -/
def finish (code : SeatGameResultCode) (diagnostic : ByteString) : LifecycleOutcome :=
  ({ code
     seats := self.entries.map (·.state)
     wholeMachineReturnRequested := self.wholeMachineReturnRequested
     diagnostic := boundedDiagnostic diagnostic }, self)

def reject (code : SeatGameResultCode) (diagnostic : String) : LifecycleOutcome :=
  self.finish code (bytesOf diagnostic)

def find : Option Entry := self.entries.find? fun entry => entry.state.seatId == seatId

/-- The entry in the place of the one for its Seat. -/
def replace : SeatGameLifecycle :=
  { self with
    entries := self.entries.map fun other =>
      if other.state.seatId = entry.state.seatId then entry else other }

def rememberCorrelation : Option SeatGameLifecycle :=
  if correlationId = 0 ∨ correlationId ∈ self.correlations then none
  else
    let correlations := self.correlations ++ [correlationId]
    some { self with
      correlations :=
        if kRememberedCorrelations < correlations.length then correlations.tail
        else correlations }

def updateReturnPolicy : SeatGameLifecycle :=
  { self with
    wholeMachineReturnRequested := self.entries.all fun entry => entry.state.phase == .idle }

/-- The entry in its place, and the return policy behind it. -/
def settle (code : SeatGameResultCode) : LifecycleOutcome :=
  (self.replace entry).updateReturnPolicy.finish code entry.state.diagnostic

/-- What every external operation asks first. -/
def command (body : SeatGameLifecycle → LifecycleProgram LifecycleOutcome) :
    LifecycleProgram LifecycleOutcome := do
  if !(← callLifecycle .tryLock) then
    return ({ code := .busy
              diagnostic := "another Seat lifecycle mutation is in progress" },
      self)
  else if !self.configurationValid then
    return self.finish self.configurationErrorCode self.configurationError
  else
    match self.rememberCorrelation correlationId with
    | none =>
      return self.reject .duplicateCorrelation "duplicate or zero correlation identifier rejected"
    | some self => body self

/-- What every operation on one Seat asks first. -/
def seatCommand (body : SeatGameLifecycle → Entry → LifecycleProgram LifecycleOutcome) :
    LifecycleProgram LifecycleOutcome :=
  self.command correlationId fun self =>
    match self.find seatId with
    | none =>
      return self.reject .invalidSeat "Seat is not configured for this v1 runtime"
    | some entry => body self entry

def released (phase : SeatGamePhase) (diagnostic : ByteString) : Entry where
  state := { entry.state with phase, binding := none, diagnostic }

/-- An entry whose cleanup failed: it keeps its instance. -/
def stranded (diagnostic : ByteString) : Entry :=
  { entry with state := { entry.state with phase := .recoveryRequired, diagnostic } }

def assignBody : LifecycleProgram LifecycleOutcome :=
  if entry.state.phase ≠ .idle then
    return self.reject .invalidState "Player/Game binding may change only while the Seat is Idle"
  else if !validBinding binding then
    return self.reject .invalidBinding "Player and Game identifiers must be nonempty and bounded"
  else
    let entry :=
      { entry with
        state := { entry.state with
          binding := some binding
          phase := .planning
          diagnostic := "temporary Player/Game binding planned" } }
    return { self.replace entry with
      wholeMachineReturnRequested := false }.finish .ok entry.state.diagnostic

def assign (correlationId : UInt64) : LifecycleProgram LifecycleOutcome :=
  self.seatCommand seatId correlationId fun self entry => self.assignBody entry binding

def creationFailed (error : ByteString) : LifecycleOutcome :=
  let diagnostic := boundedDiagnostic ("Seat instance creation failed: " ++ error)
  self.settle
    { entry with
      state := { entry.state with
        phase := .idle
        binding := none
        diagnostic } }
    .backendFailure

def startFailed (error : ByteString) (cleaned : Bool) (cleanupError : ByteString) :
    LifecycleOutcome :=
  let diagnostic := boundedDiagnostic
    (bytesOf "Seat game start failed: " ++ error ++
      (if cleanupError.isEmpty then []
        else bytesOf "; cleanup: " ++ cleanupError) ++
      (if cleaned then []
        else bytesOf "; exact Seat instance retained for cleanup retry"))
  let entry := { entry with game := if cleaned then none else some game }
  self.settle
    { entry with
      state := { entry.state with
        binding := none
        phase := if cleaned then .idle else .recoveryRequired
        diagnostic } }
    (if cleaned then .backendFailure else .recoveryRequired)

def abandon (error : ByteString) : LifecycleProgram LifecycleOutcome := do
  let (cleaned, cleanupError) ← stopVerified game []
  return self.startFailed entry game error cleaned cleanupError

def playing : Entry where
  game := some game
  state := { entry.state with
    generation := entry.state.generation + 1, phase := .playing
    diagnostic := "Seat game process ownership verified" }

def started : LifecycleOutcome :=
  { self.replace (playing entry game) with
    wholeMachineReturnRequested := false }.finish .ok (playing entry game).state.diagnostic

/-- `start` behind the creation of the instance. -/
def startCreated (game : SeatGameInstance) (error : ByteString) :
    LifecycleProgram LifecycleOutcome := do
  match ← callLifecycle (.start game binding error) with
  | .returned true error =>
    if ← callLifecycle (.running game) then
      return self.started entry game
    else self.abandon entry game error
  | .returned false error => self.abandon entry game error
  | .threw what => self.abandon entry game (bytesOf "start exception: " ++ what)
  | .threwUnknown => self.abandon entry game (bytesOf "start raised an unknown exception")

/-- `start` of a planned binding. -/
def startPlanned : LifecycleProgram LifecycleOutcome := do
  match
    ← callLifecycle
      (.createForBinding entry.state.seatId binding (entry.state.generation + 1)) with
  | .returned (some game) error => self.startCreated entry binding game error
  | .returned none error => return self.creationFailed entry error
  | .threw what =>
    return self.creationFailed entry ("factory exception: " ++ what)
  | .threwUnknown =>
    return self.creationFailed entry "factory raised an unknown exception"

/-- The instance of a playing Seat runs. -/
def playingRuns : LifecycleProgram Bool :=
  match entry.state.phase, entry.game with
  | .playing, some game => callLifecycle (.running game)
  | _, _ => return false

def startBody : LifecycleProgram LifecycleOutcome := do
  if ← playingRuns entry then
    return self.finish .alreadySatisfied "Seat game is already playing"
  else
    match entry.state.phase, entry.state.binding with
    | .planning, some binding => self.startPlanned entry binding
    | _, _ =>
      return self.reject .invalidState "Seat start requires a planned temporary binding"

def start : LifecycleProgram LifecycleOutcome := self.seatCommand seatId correlationId startBody

/-- The cleanup of an instance that has stopped or has to, and what it leaves
of the entry. -/
def cleanUp (strandedText : String) (phase : SeatGamePhase)
    (releasedText : ByteString) (releasedCode : SeatGameResultCode) :
    LifecycleProgram LifecycleOutcome := do
  let (stopped, error) ← stopVerified game []
  if !stopped then
    let entry := stranded entry (boundedDiagnostic (bytesOf strandedText ++ error))
    return (self.replace entry).finish .recoveryRequired entry.state.diagnostic
  else
    return self.settle (released entry phase releasedText) releasedCode

def stopBody : LifecycleProgram LifecycleOutcome :=
  if entry.state.phase = .idle then
    return self.updateReturnPolicy.finish .alreadySatisfied "Seat game is already stopped"
  else if entry.state.phase = .planning then
    return self.settle
      { entry with
        state := { entry.state with
          binding := none
          phase := .idle
          diagnostic := "planned Seat game cancelled" } }
      .ok
  else
    match entry.game with
    | none =>
      if entry.state.phase = .degraded then
        return self.settle (released entry .idle "verified exited Seat fault acknowledged") .ok
      else
        let entry := stranded entry "active Seat lost exact game instance ownership"
        return (self.replace entry).finish .recoveryRequired entry.state.diagnostic
    | some game =>
      self.cleanUp entry game "Seat-local cleanup failed: " .idle
        "Seat-local game ownership cleaned" .ok

def stop : LifecycleProgram LifecycleOutcome := self.seatCommand seatId correlationId stopBody

/-- What a target exit leaves as its diagnostic. -/
def exitDiagnostic (cleanExit : Bool) (diagnostic : ByteString) : ByteString :=
  boundedDiagnostic
    (if diagnostic.isEmpty then
      bytesOf
        (if cleanExit then "target exited normally"
          else "target exited unexpectedly")
    else diagnostic)

def observeBody (expectedGeneration : UInt64) (cleanExit : Bool)
    (diagnostic : ByteString) : LifecycleProgram LifecycleOutcome :=
  if expectedGeneration ≠ 0 ∧ entry.state.generation ≠ expectedGeneration then
    return self.reject .invalidState "stale target-exit generation rejected"
  else
    match entry.state.phase, entry.game with
    | .playing, some game => do
        if ← callLifecycle (.running game) then
          return self.reject .invalidState
            "target exit was reported while exact process ownership is still live"
        else
          self.cleanUp entry game "target exited but Seat-local cleanup is unverified: "
            (if cleanExit then .idle else .degraded)
            (exitDiagnostic cleanExit diagnostic)
            (if cleanExit then .ok else .backendFailure)
    | _, _ =>
      return self.reject .invalidState "target exit observation requires a Playing Seat"

def observeTargetExit (expectedGeneration : UInt64) (cleanExit : Bool)
    (diagnostic : ByteString) (correlationId : UInt64) :
    LifecycleProgram LifecycleOutcome :=
  self.seatCommand seatId correlationId fun self entry =>
    self.observeBody entry expectedGeneration cleanExit diagnostic

/-- A loop over the entries, in their order. -/
def forEntries {σ : Type} (body : σ → Entry → LifecycleProgram (σ × Entry)) :
    σ → List Entry → LifecycleProgram (σ × List Entry)
  | state, [] => return (state, [])
  | state, entry :: entries => do
      let (state, entry) ← body state entry
      let (state, entries) ← forEntries body state entries
      return (state, entry :: entries)

def reconcileEntry (changed : Bool) (entry : Entry) : LifecycleProgram (Bool × Entry) := do
  match entry.state.phase, entry.game with
  | .playing, some game =>
    if ← callLifecycle (.running game) then
      return (changed, entry)
    else
      let (stopped, error) ← stopVerified game []
      if !stopped then
        return (true,
          stranded entry
            (boundedDiagnostic ("automatic Seat-local exit cleanup unverified: " ++ error)))
      else
        return (true, released entry .idle "normal target exit reconciled with Seat-local rollback")
  | _, _ => return (changed, entry)

def reconcile : LifecycleProgram LifecycleOutcome :=
  self.command correlationId fun self => do
    let (changed, entries) ← forEntries reconcileEntry false self.entries
    return { self with entries }.updateReturnPolicy.finish
      (if changed then .ok else .alreadySatisfied)
      (bytesOf
        (if changed then "Seat target exits reconciled"
          else "Seat states already current"))

structure EmergencyProgress where
  safe : Bool := true
  diagnostic : ByteString := []

def emergencySafe : Entry := released entry .idle "Seat-local emergency cleanup verified"

def emergencyEntry (progress : EmergencyProgress) (entry : Entry) :
    LifecycleProgram (EmergencyProgress × Entry) := do
  match entry.game with
  | none => return (progress, emergencySafe entry)
  | some game =>
    let (stopped, error) ← stopVerified game []
    if !stopped then
      return ({
          safe := false
          diagnostic :=
            (if progress.diagnostic.isEmpty then []
              else progress.diagnostic ++ bytesOf "; ") ++ error },
        stranded entry "Seat-local emergency cleanup is unverified")
    else
      return (progress, emergencySafe entry)

def emergencyStopAllLocked : LifecycleProgram LifecycleOutcome := do
  let (progress, entries) ← forEntries emergencyEntry {} self.entries
  return { self with entries, wholeMachineReturnRequested := progress.safe }.finish
      (if progress.safe then .ok else .recoveryRequired)
      (if progress.safe then "all Seat-local ownership cleaned for explicit return"
      else boundedDiagnostic ("emergency Seat cleanup failed: " ++ progress.diagnostic))

def emergencyStopAll : LifecycleProgram LifecycleOutcome :=
  self.command correlationId emergencyStopAllLocked

def shutdown : LifecycleProgram LifecycleOutcome := self.emergencyStopAllLocked

end SeatGameLifecycle

inductive LifecycleOperation where
  | assign (seatId : UInt32) (binding : SeatGameBinding) (correlationId : UInt64)
  | start (seatId : UInt32) (correlationId : UInt64)
  | stop (seatId : UInt32) (correlationId : UInt64)
  | observeTargetExit (seatId : UInt32) (expectedGeneration : UInt64)
      (cleanExit : Bool) (diagnostic : ByteString) (correlationId : UInt64)
  | reconcile (correlationId : UInt64)
  | emergencyStopAll (correlationId : UInt64)
  | shutdown

def SeatGameLifecycle.perform (self : SeatGameLifecycle) :
    LifecycleOperation → LifecycleProgram LifecycleOutcome
  | .assign seatId binding correlationId => self.assign seatId binding correlationId
  | .start seatId correlationId => self.start seatId correlationId
  | .stop seatId correlationId => self.stop seatId correlationId
  | .observeTargetExit seatId expectedGeneration cleanExit diagnostic correlationId =>
    self.observeTargetExit seatId expectedGeneration cleanExit diagnostic correlationId
  | .reconcile correlationId => self.reconcile correlationId
  | .emergencyStopAll correlationId => self.emergencyStopAll correlationId
  | .shutdown => self.shutdown

end HydraSeat.Launch
