import HydraSeat.Strings
import Mathlib.Data.List.MinMax
import Mathlib.Data.List.Lex
import Mathlib.Data.List.Sort
import Mathlib.Data.Prod.Lex

/-!
# The isolation planner

A planner picks backends for the capabilities that a game profile requires,
and then low-risk backends for those that it would like.  A set of
capabilities is a word of sixty-four bits, of which thirty are declared.
-/

namespace HydraSeat.Isolation

open List

inductive Capability where
  | rawInputObservation | stablePhysicalDeviceIdentity | seatOwnershipResolution
  | targetWindowMessageRouting | inputDiagnostics | rawInputRegistrationInterposition
  | rawInputDataVirtualization | windowMessageFiltering | keyboardAsyncStateVirtualization
  | keyboardStateArrayVirtualization | mouseButtonStateVirtualization | cursorPositionVirtualization
  | cursorClipVirtualization | cursorVisibilityVirtualization | captureVirtualization
  | foregroundQueryVirtualization | focusMutationVirtualization | focusMessageSynthesis
  | windowPlacementControl | windowStyleControl | xInputSlotRemapping | directInputVisibility
  | directInputOrdering | rawHidControllerRouting | physicalDeviceCloaking
  | physicalInputSuppression | virtualInputInjection | namedObjectIsolation
  | processLifecycleTracking | childProcessTracking

/-- `kCapabilities`: the declared capabilities, in the order of their bits. -/
def kCapabilities : List Capability :=
  [.rawInputObservation, .stablePhysicalDeviceIdentity,
    .seatOwnershipResolution, .targetWindowMessageRouting,
    .inputDiagnostics, .rawInputRegistrationInterposition,
    .rawInputDataVirtualization, .windowMessageFiltering,
    .keyboardAsyncStateVirtualization, .keyboardStateArrayVirtualization,
    .mouseButtonStateVirtualization, .cursorPositionVirtualization,
    .cursorClipVirtualization, .cursorVisibilityVirtualization,
    .captureVirtualization, .foregroundQueryVirtualization,
    .focusMutationVirtualization, .focusMessageSynthesis,
    .windowPlacementControl, .windowStyleControl, .xInputSlotRemapping,
    .directInputVisibility, .directInputOrdering,
    .rawHidControllerRouting, .physicalDeviceCloaking,
    .physicalInputSuppression, .virtualInputInjection,
    .namedObjectIsolation, .processLifecycleTracking,
    .childProcessTracking]

def Capability.bit : Capability → Nat
  | .rawInputObservation => 0
  | .stablePhysicalDeviceIdentity => 1
  | .seatOwnershipResolution => 2
  | .targetWindowMessageRouting => 3
  | .inputDiagnostics => 4
  | .rawInputRegistrationInterposition => 5
  | .rawInputDataVirtualization => 6
  | .windowMessageFiltering => 7
  | .keyboardAsyncStateVirtualization => 8
  | .keyboardStateArrayVirtualization => 9
  | .mouseButtonStateVirtualization => 10
  | .cursorPositionVirtualization => 11
  | .cursorClipVirtualization => 12
  | .cursorVisibilityVirtualization => 13
  | .captureVirtualization => 14
  | .foregroundQueryVirtualization => 15
  | .focusMutationVirtualization => 16
  | .focusMessageSynthesis => 17
  | .windowPlacementControl => 18
  | .windowStyleControl => 19
  | .xInputSlotRemapping => 20
  | .directInputVisibility => 21
  | .directInputOrdering => 22
  | .rawHidControllerRouting => 23
  | .physicalDeviceCloaking => 24
  | .physicalInputSuppression => 25
  | .virtualInputInjection => 26
  | .namedObjectIsolation => 27
  | .processLifecycleTracking => 28
  | .childProcessTracking => 29

def capabilityName : Capability → String
  | .rawInputObservation => "Raw Input observation"
  | .stablePhysicalDeviceIdentity => "Stable physical device identity"
  | .seatOwnershipResolution => "Seat ownership resolution"
  | .targetWindowMessageRouting => "Target-window message routing"
  | .inputDiagnostics => "Input diagnostics"
  | .rawInputRegistrationInterposition => "Raw Input registration interposition"
  | .rawInputDataVirtualization => "Raw Input data virtualization"
  | .windowMessageFiltering => "Window-message filtering"
  | .keyboardAsyncStateVirtualization => "Keyboard async-state virtualization"
  | .keyboardStateArrayVirtualization => "Keyboard state-array virtualization"
  | .mouseButtonStateVirtualization => "Mouse button-state virtualization"
  | .cursorPositionVirtualization => "Cursor position virtualization"
  | .cursorClipVirtualization => "Cursor clip virtualization"
  | .cursorVisibilityVirtualization => "Cursor visibility virtualization"
  | .captureVirtualization => "Capture virtualization"
  | .foregroundQueryVirtualization => "Foreground-query virtualization"
  | .focusMutationVirtualization => "Focus-mutation virtualization"
  | .focusMessageSynthesis => "Focus-message synthesis"
  | .windowPlacementControl => "Window placement control"
  | .windowStyleControl => "Window style control"
  | .xInputSlotRemapping => "XInput slot remapping"
  | .directInputVisibility => "DirectInput visibility"
  | .directInputOrdering => "DirectInput ordering"
  | .rawHidControllerRouting => "Raw HID controller routing"
  | .physicalDeviceCloaking => "Physical device cloaking"
  | .physicalInputSuppression => "Physical input suppression"
  | .virtualInputInjection => "Virtual input injection"
  | .namedObjectIsolation => "Named-object isolation"
  | .processLifecycleTracking => "Process lifecycle tracking"
  | .childProcessTracking => "Child-process tracking"

/-- `InputIsolationCapability`: a set of capabilities. -/
abbrev CapabilitySet := BitVec 64

def Capability.only (capability : Capability) : CapabilitySet := BitVec.twoPow 64 capability.bit

def allInputIsolationCapabilities : CapabilitySet := (1 <<< 30) - 1

/-- `operator~`. -/
def complement (value : CapabilitySet) : CapabilitySet := allInputIsolationCapabilities &&& ~~~value

def capabilityDifference (left right : CapabilitySet) : CapabilitySet := left &&& complement right

def hasCapability (available required : CapabilitySet) : Bool := available &&& required == required

def hasAnyCapability (available requested : CapabilitySet) : Bool := available &&& requested != 0

def hasNoCapabilities (value : CapabilitySet) : Bool := value == 0

def capabilityCount (value : CapabilitySet) : Nat := (range 64).countP value.getLsbD

def kObservationCapabilities : CapabilitySet :=
  Capability.rawInputObservation.only ||| Capability.stablePhysicalDeviceIdentity.only |||
    Capability.seatOwnershipResolution.only |||
    Capability.inputDiagnostics.only

def kPhysicalControlCapabilities : CapabilitySet :=
  Capability.physicalDeviceCloaking.only ||| Capability.physicalInputSuppression.only

def enumerateCapabilities (capabilities : CapabilitySet) : List Capability :=
  kCapabilities.filter fun capability => hasCapability capabilities capability.only

def isObservationOnlyRequirement (required : CapabilitySet) : Bool :=
  hasNoCapabilities (capabilityDifference required kObservationCapabilities)

inductive BackendAvailability where
  | unavailable | available
  deriving DecidableEq

inductive BackendRisk where
  | low | medium | high
  deriving DecidableEq

def BackendRisk.code : BackendRisk → Nat
  | .low => 0
  | .medium => 1
  | .high => 2

inductive InjectionPolicy where
  | forbidden | userApproved | required
  deriving DecidableEq

inductive DriverPolicy where
  | forbidden | installedOnly | userApprovedInstallation
  deriving DecidableEq

inductive AntiCheatPolicy where
  | denyInvasiveBackends | observationOnly | explicitExperimentalOverride
  deriving DecidableEq

inductive RecoveryPolicy where
  | required | recommended | notApplicable
  deriving DecidableEq

inductive PlanStatus where
  | supported | supportedWithWarnings | observationOnly | unsupported
  deriving DecidableEq

inductive IsolationDiagnosticSeverity where
  | warning | error

/-- The codes that a planner gives, in the order of their values. -/
inductive IsolationDiagnosticCode where
  | backendUnavailable | capabilityMissing | injectionForbidden | injectionConsentRequired
  | antiCheatConflict | driverForbidden | driverConsentRequired | administratorRequired
  | persistentStateForbidden | globalSuppressionForbidden | recoveryGuardMissing
  | elevatedRiskBackend | experimentalOverride

def IsolationDiagnosticCode.code : IsolationDiagnosticCode → Nat
  | .backendUnavailable => 0
  | .capabilityMissing => 1
  | .injectionForbidden => 2
  | .injectionConsentRequired => 3
  | .antiCheatConflict => 4
  | .driverForbidden => 5
  | .driverConsentRequired => 6
  | .administratorRequired => 7
  | .persistentStateForbidden => 8
  | .globalSuppressionForbidden => 9
  | .recoveryGuardMissing => 10
  | .elevatedRiskBackend => 11
  | .experimentalOverride => 12

structure IsolationDiagnostic where
  code : IsolationDiagnosticCode
  severity : IsolationDiagnosticSeverity
  (profileId backendId : ByteString)
  capability : CapabilitySet
  (message remediation : String)

structure BackendDescriptor where
  id : ByteString
  displayName : WideString := []
  capabilities : CapabilitySet := 0
  availability : BackendAvailability := .unavailable
  risk : BackendRisk := .high
  (requiresProcessInjection requiresAdministrator usesKernelDriver : Bool := false)
  (modifiesPersistentSystemState antiCheatSensitive reversible : Bool := false)
  requiresRecoveryGuard : Bool := false
  priority : Int := 0

structure BackendEnvironment where
  (processInjectionApproved driverInstallationApproved administratorAvailable : Bool := false)
  (persistentSystemStateChangesAllowed recoveryGuardReady : Bool := false)

structure GameCompatibilityProfile where
  id : ByteString
  (requiredCapabilities optionalCapabilities : CapabilitySet := 0)
  injectionPolicy : InjectionPolicy := .forbidden
  driverPolicy : DriverPolicy := .forbidden
  antiCheatPolicy : AntiCheatPolicy := .denyInvasiveBackends
  recoveryPolicy : RecoveryPolicy := .notApplicable
  (antiCheatDetected allowGlobalInputSuppression requireZeroBleed : Bool := false)
  preferredBackends : List ByteString := []

structure PlannedBackendStep where
  backendId : ByteString
  displayName : WideString
  assignedCapabilities : CapabilitySet
  risk : BackendRisk
  (reversible requiresProcessInjection requiresAdministrator usesKernelDriver : Bool)
  deriving DecidableEq

structure IsolationPlan where
  status : PlanStatus
  profileId : ByteString
  selectedBackends : List PlannedBackendStep
  (coveredCapabilities missingCapabilities : CapabilitySet)
  (rejections warnings : List IsolationDiagnostic)

def makeDiagnostic (profile : GameCompatibilityProfile) (code : IsolationDiagnosticCode)
    (severity : IsolationDiagnosticSeverity) (backendId : ByteString)
    (capability : CapabilitySet) (message remediation : String) :
    IsolationDiagnostic where
  code
  severity
  profileId := profile.id
  backendId
  capability
  message
  remediation

def rejectBackend (profile : GameCompatibilityProfile) (backend : BackendDescriptor)
    (environment : BackendEnvironment) : Option IsolationDiagnostic :=
  let reject (code : IsolationDiagnosticCode) (capability : CapabilitySet)
      (message remediation : String) : Option IsolationDiagnostic :=
    some (makeDiagnostic profile code .error backend.id capability message remediation)
  let invasive := backend.antiCheatSensitive || backend.requiresProcessInjection ||
    backend.usesKernelDriver
  if backend.availability ≠ .available then
    reject .backendUnavailable backend.capabilities
      "Backend is not available in the current environment."
      ("Install or configure the optional component separately, then probe " ++
        "availability again.")
  else if backend.requiresProcessInjection && profile.injectionPolicy == .forbidden then
    reject .injectionForbidden backend.capabilities "Profile policy forbids process injection."
      ("Use a non-injecting backend or a profile that explicitly permits " ++ "injection.")
  else if backend.requiresProcessInjection && !environment.processInjectionApproved then
    reject .injectionConsentRequired backend.capabilities
      ("Process injection was not explicitly approved for this planning " ++ "session.")
      "Review the target and backend, then provide explicit approval."
  else if backend.usesKernelDriver && profile.driverPolicy == .forbidden then
    reject .driverForbidden backend.capabilities "Profile policy forbids driver-backed operation."
      "Use a user-mode backend or select a reviewed installed-driver policy."
  else if backend.usesKernelDriver && profile.driverPolicy == .userApprovedInstallation &&
      !environment.driverInstallationApproved then
    reject .driverConsentRequired backend.capabilities
      ("Driver-backed operation was not explicitly approved for this " ++ "planning session.")
      ("Review the installed driver and recovery path, then provide explicit " ++ "approval.")
  else if backend.requiresAdministrator && !environment.administratorAvailable then
    reject .administratorRequired backend.capabilities
      "Backend requires administrator access that is unavailable."
      ("Provide the required access only after reviewing recovery and " ++ "deployment risks.")
  else if profile.antiCheatDetected && profile.antiCheatPolicy != .explicitExperimentalOverride &&
      invasive then
    reject .antiCheatConflict backend.capabilities
      "Protected-process policy rejects this invasive backend."
      ("Use observation-only diagnostics; HydraSeat does not bypass " ++
        "anti-cheat or process protection.")
  else if profile.antiCheatPolicy == .observationOnly &&
      !hasNoCapabilities (capabilityDifference backend.capabilities kObservationCapabilities) then
    reject .antiCheatConflict backend.capabilities
      "Observation-only policy rejects behavior-changing capabilities."
      "Use only the host observation backend."
  else if backend.modifiesPersistentSystemState &&
      !environment.persistentSystemStateChangesAllowed then
    reject .persistentStateForbidden backend.capabilities
      "Persistent system mutation was not approved."
      ("Use a session-scoped backend or explicitly approve the persistent " ++ "change.")
  else if (backend.requiresRecoveryGuard ||
        hasAnyCapability backend.capabilities kPhysicalControlCapabilities) &&
      !environment.recoveryGuardReady then
    reject .recoveryGuardMissing (backend.capabilities &&& kPhysicalControlCapabilities)
      "Physical cloaking or suppression requires a ready recovery guard."
      ("Configure the watchdog, rollback path and independent emergency " ++ "input first.")
  else if hasAnyCapability backend.capabilities kPhysicalControlCapabilities &&
      !profile.allowGlobalInputSuppression then
    reject .globalSuppressionForbidden (backend.capabilities &&& kPhysicalControlCapabilities)
      "Profile does not permit physical input cloaking or suppression."
      ("Use suppression only in a reviewed zero-bleed profile with recovery " ++ "enabled.")
  else none

/-- The index of a backend among the preferred ones, or the largest size. -/
def preferenceIndex (profile : GameCompatibilityProfile) (backendId : ByteString) : Nat :=
  if profile.preferredBackends.contains backendId then profile.preferredBackends.idxOf backendId
  else 2 ^ 64 - 1

/-- A byte string as `std::string` orders it. -/
abbrev orderedBytes (value : ByteString) : List Nat := value.map UInt8.toNat

def Rank := Bool ×ₗ Nat ×ₗ Int ×ₗ Nat ×ₗ Bool ×ₗ Int ×ₗ List Nat

instance : LinearOrder Rank :=
  letI := Int.instLinearOrder
  inferInstanceAs (LinearOrder (Bool ×ₗ Nat ×ₗ Int ×ₗ Nat ×ₗ Bool ×ₗ Int ×ₗ List Nat))

/-- `rank`: the smallest one is selected. -/
def rank (profile : GameCompatibilityProfile) (uncovered : CapabilitySet)
    (backend : BackendDescriptor) : Rank :=
  let preferred := preferenceIndex profile backend.id
  toLex (preferred == 2 ^ 64 - 1,
    toLex (preferred,
      toLex (-(capabilityCount (backend.capabilities &&& uncovered) : Int),
        toLex (backend.risk.code,
          toLex (!backend.reversible, toLex (-backend.priority, orderedBytes backend.id))))))

structure Selection where
  selectedBackends : List PlannedBackendStep := []
  selectedIds : List ByteString := []
  selectedInjectionBackend : Bool := false
  coveredCapabilities : CapabilitySet := 0

/-- A candidate that the loop of `selectFor` does not pass over. -/
def eligible (selection : Selection) (uncovered : CapabilitySet) (optional : Bool)
    (candidate : BackendDescriptor) : Bool :=
  !selection.selectedIds.contains candidate.id &&
    !hasNoCapabilities (candidate.capabilities &&& uncovered) &&
    !(optional && candidate.risk != .low)

/-- The first of the candidates with the smallest rank. -/
def bestCandidate (profile : GameCompatibilityProfile)
    (candidates : List BackendDescriptor) (selection : Selection)
    (uncovered : CapabilitySet) (optional : Bool) :
    Option BackendDescriptor :=
  (candidates.filter (eligible selection uncovered optional)).argmin (rank profile uncovered)

def plannedStep (backend : BackendDescriptor) (assigned : CapabilitySet) : PlannedBackendStep where
  backendId := backend.id
  displayName := backend.displayName
  assignedCapabilities := assigned
  risk := backend.risk
  reversible := backend.reversible
  requiresProcessInjection := backend.requiresProcessInjection
  requiresAdministrator := backend.requiresAdministrator
  usesKernelDriver := backend.usesKernelDriver

/-- A round of the loop that selects a backend. -/
def Selection.select (selection : Selection) (requested : CapabilitySet)
    (best : BackendDescriptor) : Selection where
  selectedBackends :=
    selection.selectedBackends ++
      [plannedStep best
        (best.capabilities &&& capabilityDifference requested selection.coveredCapabilities)]
  selectedIds := best.id :: selection.selectedIds
  selectedInjectionBackend := selection.selectedInjectionBackend || best.requiresProcessInjection
  coveredCapabilities := selection.coveredCapabilities ||| (best.capabilities &&& requested)

/-- The loop of `selectFor`.  Every round selects another candidate, so it
ends within as many rounds as there are candidates. -/
def selectRounds (profile : GameCompatibilityProfile) (candidates : List BackendDescriptor)
    (requested wanted : CapabilitySet) (optional : Bool) :
    Nat → Selection → Selection
  | 0, selection => selection
  | rounds + 1, selection =>
    let uncovered := capabilityDifference wanted selection.coveredCapabilities
    if hasAnyCapability uncovered allInputIsolationCapabilities then
      match
        bestCandidate profile candidates selection uncovered optional
      with
      | none => selection
      | some best =>
        selectRounds profile candidates requested wanted optional rounds
          (selection.select requested best)
    else selection

def selectFor (profile : GameCompatibilityProfile) (candidates : List BackendDescriptor)
    (requested wanted : CapabilitySet) (optional : Bool)
    (selection : Selection) : Selection :=
  selectRounds profile candidates requested wanted optional candidates.length selection

abbrev diagnosticKey (diagnostic : IsolationDiagnostic) : List Nat ×ₗ Nat ×ₗ Nat ×ₗ List Nat :=
  toLex (orderedBytes diagnostic.backendId,
    toLex (diagnostic.code.code,
      toLex (diagnostic.capability.toNat, orderedBytes (bytesOf diagnostic.message))))

def sortDiagnostics (diagnostics : List IsolationDiagnostic) : List IsolationDiagnostic :=
  diagnostics.insertionSort fun left right => diagnosticKey left ≤ diagnosticKey right

/-- The backends come in the order of their ids, and no id comes twice. -/
abbrev Registered (backends : List BackendDescriptor) : Prop :=
  backends.Pairwise fun left right => orderedBytes left.id < orderedBytes right.id

structure IsolationPlanner where
  backends : List BackendDescriptor
  registered : Registered backends

namespace IsolationPlanner

variable (self : IsolationPlanner) (backends : List BackendDescriptor)

def sortBackends : List BackendDescriptor :=
  backends.insertionSort fun left right => orderedBytes left.id ≤ orderedBytes right.id

/-- The first backend that has the id of the next one. -/
def adjacentDuplicate : List BackendDescriptor → Option BackendDescriptor
  | first :: second :: rest =>
    if first.id = second.id then some first
    else adjacentDuplicate (second :: rest)
  | _ => none

theorem orderedBytes_injective : Function.Injective orderedBytes :=
  map_injective_iff.mpr fun _ _ => UInt8.toNat_inj.mp

theorem registered_of_no_duplicate {backends : List BackendDescriptor}
    (sorted : backends.Pairwise fun left right => orderedBytes left.id ≤ orderedBytes right.id)
    (distinct : adjacentDuplicate backends = none) :
    Registered backends := by
  induction sorted with
  | nil => exact .nil
  | @cons first rest before sorted ih =>
    cases rest with
    | nil => exact pairwise_singleton _ _
    | cons second rest =>
      unfold adjacentDuplicate at distinct
      obtain ⟨differs, distinct⟩ := Foundation.not_taken distinct nofun
      refine .cons ?_ (ih distinct)
      have step : orderedBytes first.id < orderedBytes second.id :=
        lt_of_le_of_ne (before second mem_cons_self)
          fun same => differs (orderedBytes_injective same)
      intro other member
      rcases mem_cons.mp member with rfl | later
      · exact step
      · exact lt_of_lt_of_le step (rel_of_pairwise_cons sorted later)

theorem sortBackends_sorted :
    (sortBackends backends).Pairwise fun left right =>
      orderedBytes left.id ≤ orderedBytes right.id :=
  pairwise_insertionSort _ _

/-- The constructor; the error is what it throws. -/
def create : Except ByteString IsolationPlanner :=
  match distinct : adjacentDuplicate (sortBackends backends) with
  | some duplicate => .error ("duplicate isolation backend id: " ++ duplicate.id)
  | none =>
    .ok ⟨sortBackends backends, registered_of_no_duplicate (sortBackends_sorted backends) distinct⟩

def effectiveRequired (profile : GameCompatibilityProfile) : CapabilitySet :=
  if profile.requireZeroBleed then
    profile.requiredCapabilities ||| Capability.physicalInputSuppression.only
  else profile.requiredCapabilities

def requested (profile : GameCompatibilityProfile) : CapabilitySet :=
  effectiveRequired profile ||| profile.optionalCapabilities

def relevant (profile : GameCompatibilityProfile) : List BackendDescriptor :=
  self.backends.filter fun backend => hasAnyCapability backend.capabilities (requested profile)

def candidates (profile : GameCompatibilityProfile)
    (environment : BackendEnvironment) : List BackendDescriptor :=
  (self.relevant profile).filter fun backend => (rejectBackend profile backend environment).isNone

/-- What both calls of `selectFor` select. -/
def selection (profile : GameCompatibilityProfile) (environment : BackendEnvironment) : Selection :=
  let candidates := self.candidates profile environment
  let required := selectFor profile candidates (requested profile)
    (effectiveRequired profile) false {}
  selectFor profile candidates (requested profile) profile.optionalCapabilities true required

/-- The profile asks for injection, and no selected backend injects. -/
def injectionFailure (profile : GameCompatibilityProfile) (selection : Selection) : Bool :=
  profile.injectionPolicy == .required && !selection.selectedInjectionBackend

/-- The recovery guard is missing for more than observation. -/
def guardMissing (profile : GameCompatibilityProfile) (environment : BackendEnvironment) : Bool :=
  !environment.recoveryGuardReady && !isObservationOnlyRequirement (effectiveRequired profile)

def recoveryFailure (profile : GameCompatibilityProfile)
    (environment : BackendEnvironment) : Bool :=
  profile.recoveryPolicy == .required && guardMissing profile environment

def rejections (profile : GameCompatibilityProfile)
    (environment : BackendEnvironment) (selection : Selection)
    (missing : CapabilitySet) : List IsolationDiagnostic :=
  sortDiagnostics
      ((self.relevant profile).filterMap fun backend =>
        rejectBackend profile backend environment) ++
    (if injectionFailure profile selection then
      [makeDiagnostic profile .injectionConsentRequired .error [] 0
        "Profile requires a process-injection backend, but none was selected."
        ("Make an approved compatible backend available or change the " ++ "profile policy.")]
    else []) ++
    (if recoveryFailure profile environment then
      [makeDiagnostic profile .recoveryGuardMissing .error [] kPhysicalControlCapabilities
        ("Profile requires a recovery guard before behavior-changing " ++
          "isolation can be activated.")
        ("Configure the watchdog, rollback path and independent emergency " ++ "input first.")]
    else []) ++
    (enumerateCapabilities missing).map fun capability =>
      makeDiagnostic profile .capabilityMissing .error [] capability.only
        ("Required capability is missing: " ++ capabilityName capability)
        ("Make a suitable backend available without weakening the profile's " ++ "safety policy.")

/-- The step needs a review or consent. -/
def elevated (step : PlannedBackendStep) : Bool :=
  step.risk != .low || step.requiresProcessInjection ||
    step.usesKernelDriver || step.requiresAdministrator

def warnings (profile : GameCompatibilityProfile)
    (environment : BackendEnvironment) (selection : Selection) :
    List IsolationDiagnostic :=
  sortDiagnostics
    ((if profile.recoveryPolicy == .recommended && guardMissing profile environment then
        [makeDiagnostic profile .recoveryGuardMissing .warning [] 0
          ("A recovery guard is recommended for this behavior-changing " ++ "profile.")
          "Configure a watchdog and rollback path before production use."]
      else []) ++
      ((selection.selectedBackends.filter elevated).map fun step =>
        makeDiagnostic profile .elevatedRiskBackend .warning step.backendId
          step.assignedCapabilities
          ("Selected backend requires elevated-risk review or explicit " ++ "consent.")
          ("Review version, architecture, recovery and target-process policy " ++
            "before activation.")) ++
      (if profile.antiCheatDetected && profile.antiCheatPolicy == .explicitExperimentalOverride then
        [makeDiagnostic profile .experimentalOverride .warning [] 0
          "An explicit experimental anti-cheat override is active."
          ("HydraSeat does not claim anti-cheat compatibility or provide " ++ "bypass support.")]
      else []))

def status (profile : GameCompatibilityProfile)
    (environment : BackendEnvironment) (selection : Selection)
    (missing : CapabilitySet) (warnings : List IsolationDiagnostic) :
    PlanStatus :=
  if injectionFailure profile selection || recoveryFailure profile environment ||
      hasAnyCapability missing allInputIsolationCapabilities then
    .unsupported
  else if profile.antiCheatPolicy == .observationOnly ||
      isObservationOnlyRequirement (effectiveRequired profile) then
    .observationOnly
  else if !warnings.isEmpty then .supportedWithWarnings
  else .supported

def plan (profile : GameCompatibilityProfile) (environment : BackendEnvironment) : IsolationPlan :=
  let selection := self.selection profile environment
  let missing := capabilityDifference (effectiveRequired profile) selection.coveredCapabilities
  let warnings := warnings profile environment selection
  { status := status profile environment selection missing warnings, profileId := profile.id
    selectedBackends := selection.selectedBackends
    coveredCapabilities := selection.coveredCapabilities, missingCapabilities := missing
    rejections := self.rejections profile environment selection missing, warnings }

end IsolationPlanner

end HydraSeat.Isolation
