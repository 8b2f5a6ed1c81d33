import HydraSeat.Reset.Actions
import HydraSeat.Recovery.CrashSafety

/-!
# The world of a reset

A reset sees the journal directory, the registration file and the executor.
`resetEnvironment` lets every call fail and the executor answer anything;
under `workingEnvironment` no file fails.  Both keep the list of what the
executor was asked.
-/

namespace HydraSeat.Reset

open Foundation
open Foundation.Command
open Watchdog
open Recovery CrashJournalStore

/-- A call of the executor and its outcome. -/
inductive ExecutorEvent where
  | prepared (actions : List RollbackActionDescriptor) (result : Except String Unit)
  | released
  | performed (action : RollbackActionDescriptor) (timeoutMilliseconds : UInt32)
      (outcome : RollbackActionOutcome)

structure World where
  disk : Disk := fun _ => none
  registration : Option (List UInt8) := none
  executed : List ExecutorEvent := []

namespace World

def record (self : World) (event : ExecutorEvent) : World :=
  { self with executed := self.executed ++ [event] }

/-- The world after a call that touches no file. -/
def after (self : World) : (request : ResetCall) → resetInterface.Answer request → World
  | .prepareOwnedProcesses actions, result => self.record (.prepared actions result)
  | .clearPreparedOwnedProcesses, _ => self.record .released
  | .executeAction action timeoutMilliseconds, outcome =>
    self.record (.performed action timeoutMilliseconds outcome)
  | _, _ => self

end World

def registrationContent (content : Option (List UInt8)) (maxBytes : Nat) : RegistrationFile :=
  match content with
  | none => .missing
  | some bytes =>
    if bytes.length > maxBytes then .tooLarge else .success bytes

/-- What reading the registration file may answer. -/
def RegistrationReads (content : Option (List UInt8)) (maxBytes : Nat)
    (file : RegistrationFile) : Prop :=
  file = registrationContent content maxBytes ∨ ∃ step systemError, file = .failed step systemError

def resetEnvironment : Environment resetInterface World
  | before, .journal storageCall, answer, after =>
    ∃ disk, diskStorage before.disk storageCall answer disk ∧ after = { before with disk := disk }
  | before, .readRegistration maxBytes, file, after =>
    after = before ∧ RegistrationReads before.registration maxBytes file
  | before, .removeRegistration, .ok _, after => after = { before with registration := none }
  | before, .removeRegistration, .error _, after =>
    after = before ∨ after = { before with registration := none }
  | before, request, answer, after => after = before.after request answer

/-- The answers that do not come from a file are restricted by `answers`. -/
def workingEnvironment (answers : (request : ResetCall) → resetInterface.Answer request → Prop) :
    Environment resetInterface World
  | before, .journal storageCall, answer, after =>
    ∃ disk, workingDisk before.disk storageCall answer disk ∧ after = { before with disk := disk }
  | before, .readRegistration maxBytes, file, after =>
    file = registrationContent before.registration maxBytes ∧ after = before
  | before, .removeRegistration, removed, after =>
    removed = .ok () ∧ after = { before with registration := none }
  | before, request, answer, after => answers request answer ∧ after = before.after request answer

/-- A working environment whose executor is satisfied at once. -/
def workingHandler (world : World) (request : ResetCall) : resetInterface.Answer request × World :=
  match request with
  | .journal storageCall =>
    ((workingStorage world.disk storageCall).1,
      { world with disk := (workingStorage world.disk storageCall).2 })
  | .readRegistration maxBytes => (registrationContent world.registration maxBytes, world)
  | .removeRegistration => (.ok (), { world with registration := none })
  | .removeTemporaryRegistration => ((), world)
  | .queryCurrentProcess => (none, world)
  | .prepareOwnedProcesses actions => (.ok (), world.record (.prepared actions (.ok ())))
  | .clearPreparedOwnedProcesses => ((), world.record .released)
  | .executeAction action timeoutMilliseconds =>
    (makeOutcome action .success,
      world.record (.performed action timeoutMilliseconds (makeOutcome action .success)))
  | .steadyClockNow => ((0 : Int), world)

theorem workingHandler_allowed (world : World) (request : ResetCall) :
    resetEnvironment world request (workingHandler world request).1
      (workingHandler world request).2 := by
  cases request with
  | journal storageCall => exact ⟨_, workingStorage_allowed world.disk storageCall, rfl⟩
  | readRegistration maxBytes => exact ⟨rfl, Or.inl rfl⟩
  | _ => exact rfl

theorem workingHandler_works (world : World) (request : ResetCall) :
    workingEnvironment (fun _ _ => True) world request (workingHandler world request).1
      (workingHandler world request).2 := by
  cases request with
  | journal storageCall => exact ⟨_, workingStorage_works world.disk storageCall, rfl⟩
  | readRegistration maxBytes | removeRegistration => exact ⟨rfl, rfl⟩
  | _ => exact ⟨trivial, rfl⟩

structure Evidence where
  files : Files := {}
  registration : Option (List UInt8) := none

/-- The files that matter, and the calls of the executor. -/
structure Scene extends Evidence where
  executed : List ExecutorEvent := []

def World.scene (world : World) : Scene where
  files := world.disk.files
  registration := world.registration
  executed := world.executed

def inspectRead (journal marker : JournalReadResult)
    (registration : RegistrationFile) : ResetInspection :=
  match journalOfRead journal with
  | .error text =>
    { state := .recoveryRequired, diagnostic := "crash journal cannot be inspected: " ++ text }
  | .ok journal =>
    match markerOfRead marker with
    | .error text =>
      { state := .recoveryRequired, journal := journal
        diagnostic := "safe-mode marker cannot be inspected: " ++ text }
    | .ok safeMode => inspectLoaded journal safeMode (registrationOfFile registration)

/-- The inspection when every file is read as it is. -/
def inspection (evidence : Evidence) : ResetInspection :=
  inspectRead (readContent evidence.files.current kCrashJournalMaxFileBytes)
    (readContent evidence.files.safeMode kSafeModeMarkerFileBytes)
    (registrationContent evidence.registration kRuntimeResetRegistrationMaxBytes)

/-- The registration file holds an encoded registration. -/
def HoldsRegistration (content : Option (List UInt8))
    (registration : RuntimeResetRegistration) : Prop :=
  ∃ bytes, content = some bytes ∧ decodeRuntimeResetRegistration bytes = .ok registration

end HydraSeat.Reset
