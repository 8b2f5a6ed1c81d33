import HydraSeat.Launch.SeatGameLifecycle

/-!
# The planned game instance

An instance prepares the resources of its plan, activates them in order and
rolls them back in reverse.  The resources, their factory and the lifecycle
hook are calls.  What a resource throws leaves `start`; what the hook throws
does not.
-/

namespace HydraSeat.Launch

open Foundation
open Foundation.Command

inductive ResourceKind where
  | recovery | process | window | display | input | controller | audio
  deriving DecidableEq

def resourceKindName : ResourceKind → String
  | .recovery => "recovery"
  | .process => "process"
  | .window => "window"
  | .display => "display"
  | .input => "input"
  | .controller => "controller"
  | .audio => "audio"

structure Requirements where
  display : Bool := true
  (keyboard mouse controller audioOutput : Bool := false)
  (windowOwnership recovery : Bool := true)

structure TargetSpec where
  gameId : ByteString
  requirements : Requirements := {}

structure SeatActivationPlan where
  seatId : UInt32
  target : TargetSpec
  resources : List ResourceKind
  fingerprint : UInt64

/-- The resources that a compiled plan has. -/
def requiredResources (target : TargetSpec) : List ResourceKind :=
  (if target.requirements.recovery then [.recovery] else []) ++ [.process] ++
    (if target.requirements.windowOwnership then [.window] else []) ++
    (if target.requirements.display then [.display] else []) ++
    (if target.requirements.keyboard || target.requirements.mouse then [.input] else []) ++
    (if target.requirements.controller then [.controller] else []) ++
    (if target.requirements.audioOutput then [.audio] else [])

/-- A resource, as its owner knows it, and the kind that it reports. -/
structure ActivationResource where
  handle : Nat
  kind : ResourceKind
  deriving DecidableEq

inductive LaunchCall where
  | hookPrepare (plan : SeatActivationPlan) (binding : SeatGameBinding)
  | preSpawn
  | startup
  | postWindow
  | runtime
  | hookRollback
  | hookVerifySafe
  | hookRecoveryRequired
  | create (kind : ResourceKind) (plan : SeatActivationPlan)
  | prepare (resource : ActivationResource) (plan : SeatActivationPlan) (binding : SeatGameBinding)
  | activate (resource : ActivationResource)
  | verifyActive (resource : ActivationResource)
  | rollback (resource : ActivationResource)
  | verifySafe (resource : ActivationResource)
  | active (resource : ActivationResource)

abbrev LaunchCall.Answer : LaunchCall → Type
  | .hookPrepare _ _ => Attempt Bool
  | .preSpawn => Attempt Bool
  | .startup => Attempt Bool
  | .postWindow => Attempt Bool
  | .runtime => Attempt Bool
  | .hookRollback => Bool × ByteString
  | .hookVerifySafe => Bool × ByteString
  | .hookRecoveryRequired => Bool
  | .create _ _ => Attempt (Option ActivationResource)
  | .prepare _ _ _ => Attempt Bool
  | .activate _ => Attempt Bool
  | .verifyActive _ => Attempt Bool
  | .rollback _ => Bool × ByteString
  | .verifySafe _ => Bool × ByteString
  | .active _ => Bool

abbrev launchInterface : Interface where
  Call := LaunchCall
  Answer := LaunchCall.Answer

abbrev LaunchProgram := Command launchInterface

def callLaunch (request : LaunchCall) : LaunchProgram request.Answer := @ask launchInterface request

/-- A part of an error text that is there only if it says something. -/
def clause (separator : String) (error : ByteString) : ByteString :=
  if error.isEmpty then [] else bytesOf separator ++ error

/-- What ends a start before its time. -/
inductive Halt where
  | failed (error : ByteString)
  | threw (what : ByteString)
  | threwUnknown

structure PlannedSeatGameInstance where
  plan : SeatActivationPlan
  factory : Bool := true
  lifecycleHook : Bool := false
  resources : List ActivationResource := []
  (started recoveryRequired : Bool := false)

namespace PlannedSeatGameInstance

variable (resource : ActivationResource)

/-- What a pass over the resources has found so far. -/
structure Progress where
  success : Bool := true
  firstError : ByteString := []
  lifecycleRolledBack : Bool := false

def Progress.fail (progress : Progress) (error : ByteString) : Progress :=
  { progress with
    success := false
    firstError :=
      if progress.firstError.isEmpty then error else progress.firstError }

/-- Whether a pass succeeded, and the text that it leaves otherwise. -/
def Progress.outcome (progress : Progress) : Bool × ByteString :=
  (progress.success, if progress.success then [] else progress.firstError)

def rollbackLifecycle (self : PlannedSeatGameInstance) (progress : Progress) :
    LaunchProgram Progress := do
  if progress.lifecycleRolledBack || !self.lifecycleHook then
    return progress
  else
    let (rolledBack, localError) ← callLaunch .hookRollback
    let failed ←
      if rolledBack then callLaunch .hookRecoveryRequired else pure true
    return { (if failed then
        progress.fail ("compatibility lifecycle rollback failed" ++ clause ": " localError)
      else progress) with
      lifecycleRolledBack := true }

/-- The loop of `rollbackActivation`, over the reversed resources. -/
def rollbackResources (self : PlannedSeatGameInstance) :
    Progress → List ActivationResource → LaunchProgram Progress
  | progress, [] => return progress
  | progress, resource :: resources => do
      let progress ←
        if resource.kind = .recovery then self.rollbackLifecycle progress
        else pure progress
      let (rolledBack, localError) ← callLaunch (.rollback resource)
      self.rollbackResources
        (if rolledBack then progress
          else
            progress.fail
              (bytesOf (resourceKindName resource.kind) ++
                " rollback failed" ++ clause ": " localError))
        resources

def rollbackActivation (self : PlannedSeatGameInstance) : LaunchProgram (Bool × ByteString) := do
  let progress ← self.rollbackResources { lifecycleRolledBack := !self.lifecycleHook }
    self.resources.reverse
  let progress ← self.rollbackLifecycle progress
  return progress.outcome

def resourceSafe : LaunchProgram (Bool × ByteString) := do
  let (verified, localError) ← callLaunch (.verifySafe resource)
  if verified then
    let active ← callLaunch (.active resource)
    return (!active, localError)
  else
    return (false, localError)

def hookSafe : LaunchProgram (Bool × ByteString) := do
  let (verified, localError) ← callLaunch .hookVerifySafe
  if verified then
    let recoveryRequired ← callLaunch .hookRecoveryRequired
    return (!recoveryRequired, localError)
  else
    return (false, localError)

def verifySafeResources : Progress → List ActivationResource → LaunchProgram Progress
  | progress, [] => return progress
  | progress, resource :: resources => do
      let (safe, localError) ← resourceSafe resource
      verifySafeResources
        (if safe then progress
          else
            progress.fail
              (bytesOf (resourceKindName resource.kind) ++ " safe-state verification failed" ++
                clause ": " localError))
        resources

def verifySafeActivation (self : PlannedSeatGameInstance) : LaunchProgram (Bool × ByteString) := do
  let progress ← verifySafeResources {} self.resources
  if self.lifecycleHook then
    let (safe, localError) ← hookSafe
    return (if safe then progress
      else
        progress.fail
          ("compatibility lifecycle safe-state verification failed" ++
            clause ": " localError)).outcome
  else
    return progress.outcome

/-- A step of the hook: whether it succeeded, and its text. -/
def hookStep : Attempt Bool → Bool × ByteString
  | .returned succeeded error => (succeeded, error)
  | .threw what => (false, "exception: " ++ what)
  | .threwUnknown => (false, "unknown exception")

def boundaryError (boundary : String) (attempt : Attempt Bool) : Option ByteString :=
  let (succeeded, localError) := hookStep attempt
  if succeeded then none
  else
    some
      ("Seat compatibility lifecycle " ++ bytesOf boundary ++ " failed" ++ clause ": " localError)

/-- `invokeLifecycleBoundary` with `preSpawn`. -/
def invokePreSpawn (self : PlannedSeatGameInstance) : LaunchProgram (Option ByteString) := do
  if !self.lifecycleHook then return none
  else return boundaryError "PreSpawn" (← callLaunch .preSpawn)

/-- `invokeLifecycleBoundary` with `startup`. -/
def invokeStartup (self : PlannedSeatGameInstance) : LaunchProgram (Option ByteString) := do
  if !self.lifecycleHook then return none
  else return boundaryError "Startup" (← callLaunch .startup)

/-- `invokeLifecycleBoundary` with `postWindow`. -/
def invokePostWindow (self : PlannedSeatGameInstance) : LaunchProgram (Option ByteString) := do
  if !self.lifecycleHook then return none
  else return boundaryError "PostWindow" (← callLaunch .postWindow)

/-- `invokeLifecycleBoundary` with `runtime`. -/
def invokeRuntime (self : PlannedSeatGameInstance) : LaunchProgram (Option ByteString) := do
  if !self.lifecycleHook then return none
  else return boundaryError "Runtime" (← callLaunch .runtime)

abbrev LaunchOutcome := Attempt Bool × PlannedSeatGameInstance

def failAndRollback (self : PlannedSeatGameInstance) (primaryError : ByteString) :
    LaunchProgram LaunchOutcome := do
  let (rolledBack, rollbackError) ← self.rollbackActivation
  let (verifiedSafe, verifySafeError) ← self.verifySafeActivation
  let safe := rolledBack && verifiedSafe
  return (
    .returned false
      (if safe then primaryError
        else
          primaryError ++ clause "; rollback: " rollbackError ++
            clause "; verify-safe: " verifySafeError),
    { self with recoveryRequired := !safe, resources := if safe then [] else self.resources })

def creationFailure (kind : ResourceKind) (createError : ByteString) : ByteString :=
  "Seat activation resource creation failed for " ++
    bytesOf (resourceKindName kind) ++ clause ": " createError

/-- The first loop of `start`: the resources are made and prepared. -/
def prepareResources (binding : SeatGameBinding) :
    PlannedSeatGameInstance → List ResourceKind →
      LaunchProgram (Option Halt × PlannedSeatGameInstance)
  | self, [] => return (none, self)
  | self, kind :: kinds => do
      match ← callLaunch (.create kind self.plan) with
      | .threw what => return (some (.threw what), self)
      | .threwUnknown => return (some .threwUnknown, self)
      | .returned none createError =>
        return (some (.failed (creationFailure kind createError)), self)
      | .returned (some resource) createError =>
        if resource.kind ≠ kind then
          return (some (.failed (creationFailure kind createError)), self)
        else
          let self :=
            { self with resources := self.resources ++ [resource] }
          match ← callLaunch (.prepare resource self.plan binding) with
          | .threw what => return (some (.threw what), self)
          | .threwUnknown => return (some .threwUnknown, self)
          | .returned false prepareError =>
            return (
              some
                (.failed
                  ("Seat activation prepare failed for " ++ bytesOf (resourceKindName kind) ++
                    clause ": " prepareError)), self)
          | .returned true _ => prepareResources binding self kinds

def activationFailure (activationError verificationError : ByteString) : Halt :=
  .failed
    ("Seat activation failed for " ++ bytesOf (resourceKindName resource.kind) ++
      clause ": " activationError ++ clause "; verify: " verificationError)

/-- `activate` and `verifyActive` of a resource. -/
def activateVerified : LaunchProgram (Option Halt) := do
  match ← callLaunch (.activate resource) with
  | .threw what => return some (.threw what)
  | .threwUnknown => return some .threwUnknown
  | .returned false activationError =>
    return some (activationFailure resource activationError [])
  | .returned true activationError =>
    match ← callLaunch (.verifyActive resource) with
    | .threw what => return some (.threw what)
    | .threwUnknown => return some .threwUnknown
    | .returned false verificationError =>
      return some (activationFailure resource activationError verificationError)
    | .returned true _ => return none

/-- What the hook does behind the activation of a resource. -/
def invokeActivated (self : PlannedSeatGameInstance) (resource : ActivationResource) :
    LaunchProgram (Option ByteString) :=
  if resource.kind = .process then self.invokeStartup
  else if resource.kind = .window then self.invokePostWindow
  else
    return none

/-- A round of the second loop of `start` behind its first boundary. -/
def activateAdmitted (self : PlannedSeatGameInstance) (resource : ActivationResource) :
    LaunchProgram (Option Halt) := do
  match ← activateVerified resource with
  | some halt => return some halt
  | none => return (← self.invokeActivated resource).map .failed

/-- A round of the second loop of `start`. -/
def activateResource (self : PlannedSeatGameInstance) (resource : ActivationResource) :
    LaunchProgram (Option Halt) := do
  if resource.kind = .process then
    match ← self.invokePreSpawn with
    | some error => return some (.failed error)
    | none => self.activateAdmitted resource
  else self.activateAdmitted resource

/-- The second loop of `start`. -/
def activateResources (self : PlannedSeatGameInstance) :
    List ActivationResource → LaunchProgram (Option Halt)
  | [] => return none
  | resource :: resources => do
      match ← self.activateResource resource with
      | some halt => return some halt
      | none => self.activateResources resources

/-- How `start` ends when something halts it. -/
def halted (self : PlannedSeatGameInstance) : Halt → LaunchProgram LaunchOutcome
  | .failed error => self.failAndRollback error
  | .threw what => return (.threw what, self)
  | .threwUnknown => return (.threwUnknown, self)

/-- `start` behind the preparation of its resources. -/
def activatePrepared (self : PlannedSeatGameInstance) : LaunchProgram LaunchOutcome := do
  match ← self.activateResources self.resources with
  | some halt => self.halted halt
  | none =>
    match ← self.invokeRuntime with
    | some error => self.failAndRollback error
    | none =>
      return (.returned true [], { self with started := true, recoveryRequired := false })

/-- `start` behind the preparation of its hook. -/
def startResources (self : PlannedSeatGameInstance) (binding : SeatGameBinding) :
    LaunchProgram LaunchOutcome := do
  let (halt, self) ← prepareResources binding { self with resources := [] } self.plan.resources
  match halt with
  | some halt => self.halted halt
  | none => self.activatePrepared

/-- What a start leaves when its hook is not prepared. -/
def prepareRefused (self : PlannedSeatGameInstance) (prepareError : ByteString) :
    LaunchProgram LaunchOutcome := do
  let (safe, verifyError) ← hookSafe
  return (
    .returned false
      ("Seat activation lifecycle prepare failed" ++ clause ": " prepareError ++
        (if safe then [] else clause "; verify-safe: " verifyError)),
    { self with recoveryRequired := !safe })

def start (self : PlannedSeatGameInstance) (binding : SeatGameBinding) :
    LaunchProgram LaunchOutcome := do
  if binding.gameId ≠ self.plan.target.gameId then
    return ( .returned false "Seat binding game ID does not match the immutable launch plan", self)
  else if self.started then
    return (.returned true [], self)
  else if self.recoveryRequired then
    return ( .returned false "Seat activation is blocked until retained recovery state is cleaned",
      self)
  else if !self.factory || self.plan.seatId == 0 || self.plan.fingerprint == 0 then
    return ( .returned false "Seat binding does not match the immutable launch plan", self)
  else if self.lifecycleHook then
    let (prepared, prepareError) := hookStep (← callLaunch (.hookPrepare self.plan binding))
    if !prepared then self.prepareRefused prepareError
    else self.startResources binding
  else self.startResources binding

def released (self : PlannedSeatGameInstance) : PlannedSeatGameInstance :=
  { self with resources := [], lifecycleHook := false, started := false, recoveryRequired := false }

def stop (self : PlannedSeatGameInstance) :
    LaunchProgram ((Bool × ByteString) × PlannedSeatGameInstance) := do
  if self.resources.isEmpty && !self.lifecycleHook then
    return ((true, []), self.released)
  else
    let (rolledBack, error) ← self.rollbackActivation
    let (safe, verifyError) ← self.verifySafeActivation
    let error := if !safe && error.isEmpty then verifyError else error
    if rolledBack && safe then
      return ((true, error), self.released)
    else
      return ((false, error), { self with started := false, recoveryRequired := true })

def verifyStopped (self : PlannedSeatGameInstance) :
    LaunchProgram ((Bool × ByteString) × PlannedSeatGameInstance) := do
  if self.resources.isEmpty && !self.lifecycleHook then
    return ((!self.started && !self.recoveryRequired, []), self)
  else
    let (safe, error) ← self.verifySafeActivation
    if safe then
      return ((true, error), self.released)
    else
      return ((false, error), { self with recoveryRequired := true })

def running (self : PlannedSeatGameInstance) : LaunchProgram Bool :=
  if !self.started then
    return false
  else
    match self.resources.find? (·.kind == .process) with
    | none => return false
    | some resource => callLaunch (.active resource)

end PlannedSeatGameInstance

inductive InstanceOperation where
  | start (binding : SeatGameBinding)
  | stop
  | verifyStopped
  | running
  deriving DecidableEq

inductive InstanceReply where
  | started (attempt : Attempt Bool)
  | stopped (outcome : Bool × ByteString)
  | running (answer : Bool)

def PlannedSeatGameInstance.perform (self : PlannedSeatGameInstance) :
    InstanceOperation → LaunchProgram (InstanceReply × PlannedSeatGameInstance)
  | .start binding => do
      let (attempt, self) ← self.start binding
      return (.started attempt, self)
  | .stop => do
      let (outcome, self) ← self.stop
      return (.stopped outcome, self)
  | .verifyStopped => do
      let (outcome, self) ← self.verifyStopped
      return (.stopped outcome, self)
  | .running => do
      let answer ← self.running
      return (.running answer, self)

end HydraSeat.Launch
