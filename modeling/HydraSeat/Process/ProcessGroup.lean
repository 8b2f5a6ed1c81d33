import HydraSeat.Foundation.Climb
import HydraSeat.Foundation.Transition
import HydraSeat.Strings

/-!
# The processes of a Seat

A group holds the processes that were seen in the job of a launched root.
The authority is the process that speaks for the group.  It starts as the root
and is handed on when it has exited.

What Windows answers is an argument: which held handles are signaled, how
many processes are alive in the job, and what the steady clock says.
-/

namespace HydraSeat.Process

inductive ChildTrackingCapability where
  | fullJobObject | jobObjectBreakawayAllowed | rootOnly
  deriving DecidableEq

def kMaximumTrackedSeatProcesses : Nat := 256

def kMaximumTrustedHandoffExecutables : Nat := 32

structure ProcessIdentity where
  processId : UInt32 := 0
  creationTime100ns : UInt64 := 0
  executablePath : WideString := []
  deriving DecidableEq

namespace ProcessIdentity

def valid (identity : ProcessIdentity) : Bool :=
  identity.processId != 0 && identity.creationTime100ns != 0 && !identity.executablePath.isEmpty

def sameInstance (identity other : ProcessIdentity) : Bool :=
  identity.processId == other.processId && identity.creationTime100ns == other.creationTime100ns &&
    identity.processId != 0

end ProcessIdentity

structure ProcessRecord where
  identity : ProcessIdentity := {}
  parentProcessId : UInt32 := 0
  parentIdentity : ProcessIdentity := {}
  (parentIdentityVerified root exited : Bool := false)
  exitCode : UInt32 := 0
  exitTime100ns : UInt64 := 0
  deriving DecidableEq

/-- A record and whether its handle is still held. -/
structure Entry where
  record : ProcessRecord
  handle : Bool
  deriving DecidableEq

inductive ProcessHandoffState where
  | rootActive | descendantActive | handoffPending | treeExited | unverifiable
  | unsupportedContainment
  deriving DecidableEq

/-- `SeatProcessGroup::Impl`. -/
structure Group where
  tracking : ChildTrackingCapability := .rootOnly
  (root authority : ProcessIdentity := {})
  trustedHandoffExecutables : List WideString := []
  entries : List Entry := []
  (sequence handoffGeneration : UInt64 := 0)
  handoffState : ProcessHandoffState := .unverifiable
  handoffPendingSince : Nat := 0
  handoffPending : Bool := false
  trackingComplete : Bool := true

/-- What a signaled handle says: the exit code and the exit time, if they can
be read. -/
structure Exit where
  exitCode : Option UInt32
  exitTime : Option UInt64

/-- What `refreshAuthorityLocked` asks Windows: the processes that are alive
in the job, if they can be counted, and the time in nanoseconds. -/
structure Readings where
  activeProcesses : Option UInt32
  now : Nat

/-- `kTrustedHandoffWindow` in nanoseconds. -/
def kTrustedHandoffWindow : Nat := 10000000000

def stillActive : UInt32 := 259

section Paths

variable (compareStringOrdinal : WideString → WideString → Bool)

def normalizedWindowsPath (value : WideString) : WideString :=
  value.map fun unit => if unit = 47 then 92 else unit

/-- The units in front of the first null. -/
def cString (value : WideString) : WideString := value.takeWhile (· != 0)

/-- `compareStringOrdinal` says whether the function of Windows finds two
strings equal, whatever their case. -/
def sameWindowsPath (left right : WideString) : Bool :=
  compareStringOrdinal (cString (normalizedWindowsPath left))
    (cString (normalizedWindowsPath right))

end Paths

namespace Group

variable (entries : List Entry)

def markTrackingUncertain (group : Group) : Group :=
  if group.trackingComplete then
    { group with
      trackingComplete := false, handoffState := .unverifiable, sequence := group.sequence + 1 }
  else group

/-- `captureExitLocked` on a record that has not exited. -/
def captureExit (entry : Entry) (exit : Exit) : Entry where
  record :=
    { entry.record with
      exitCode :=
        if entry.handle then
          match exit.exitCode with
          | none => entry.record.exitCode
          | some code =>
            if code = stillActive then entry.record.exitCode else code
        else entry.record.exitCode
      exitTime100ns :=
        if entry.handle then exit.exitTime.getD entry.record.exitTime100ns
        else entry.record.exitTime100ns
      exited := true }
  handle := false

def parentLifetimeContains (parent : Entry) (childCreation : UInt64) : Bool :=
  if parent.record.identity.creationTime100ns = 0 ∨
      parent.record.identity.creationTime100ns ≥ childCreation then
    false
  else if !parent.record.exited then true
  else parent.record.exitTime100ns != 0 && parent.record.exitTime100ns ≥ childCreation

/-- The parent of a child is still looked for. -/
def unresolved (child : ProcessRecord) : Bool :=
  !(child.root || child.parentIdentityVerified || child.parentProcessId == 0)

def mayBeParent (child : ProcessRecord) (parent : Entry) : Bool :=
  parent.record.identity.processId == child.parentProcessId &&
    parentLifetimeContains parent child.identity.creationTime100ns

/-- The only entry that may be the parent of the child. -/
def uniqueParent (child : ProcessRecord) : Option Entry :=
  match entries.filter (mayBeParent child) with
  | [candidate] => some candidate
  | _ => none

def resolveParent (child : Entry) : Entry :=
  if unresolved child.record then
    match uniqueParent entries child.record with
    | some candidate =>
      { child with
        record :=
          { child.record with
            parentIdentity := candidate.record.identity
            parentIdentityVerified := true } }
    | none => child
  else child

def resolvesAny : Bool :=
  entries.any fun child => unresolved child.record && (uniqueParent entries child.record).isSome

def resolveParentIdentities (group : Group) : Group :=
  { group with
    entries := group.entries.map (resolveParent group.entries)
    sequence :=
      if resolvesAny group.entries then group.sequence + 1
      else group.sequence }

def findEntry (identity : ProcessIdentity) : Option Entry :=
  entries.find? fun entry => entry.record.identity.sameInstance identity

def parentOf (identity : ProcessIdentity) : Option ProcessIdentity :=
  match findEntry entries identity with
  | none => none
  | some entry =>
    if entry.record.parentIdentityVerified then some entry.record.parentIdentity
    else none

def isExactDescendant (candidate ancestor : ProcessIdentity) : Bool :=
  candidate.valid && ancestor.valid && !candidate.sameInstance ancestor &&
    Foundation.climb (parentOf entries) (·.sameInstance ancestor) (entries.length + 1) candidate

section Trust

variable (compareStringOrdinal : WideString → WideString → Bool) (group : Group)
variable (exits : ProcessIdentity → Option Exit)

def trustedExecutable (identity : ProcessIdentity) : Bool :=
  group.trustedHandoffExecutables.any
    (sameWindowsPath compareStringOrdinal identity.executablePath ·)

def setHandoffState (state : ProcessHandoffState) : Group :=
  if group.handoffState = state then group
  else
    { group with handoffState := state, sequence := group.sequence + 1 }

/-- Every answer but a pending handoff forgets the pending one. -/
def conclude (state : ProcessHandoffState) : Group :=
  setHandoffState { group with handoffPending := false } state

def trustedRunning : List Entry :=
  group.entries.filter fun candidate =>
    !candidate.record.exited &&
      trustedExecutable compareStringOrdinal group candidate.record.identity &&
      isExactDescendant group.entries candidate.record.identity group.authority

/-- The trusted entries without a trusted ancestor.  Entries are told apart
by their identities, of which no two are the same instance. -/
def trustedFrontier : List Entry :=
  (trustedRunning compareStringOrdinal group).filter fun candidate =>
    !(trustedRunning compareStringOrdinal group).any fun other =>
      !other.record.identity.sameInstance candidate.record.identity &&
        isExactDescendant group.entries candidate.record.identity other.record.identity

def promote (candidate : Entry) : Group :=
  { group with
    authority := candidate.record.identity, handoffGeneration := group.handoffGeneration + 1
    sequence := group.sequence + 1, handoffPending := false }

def awaitDescendant (readings : Readings) : Group :=
  match readings.activeProcesses with
  | none => conclude group .unverifiable
  | some activeProcesses =>
    if activeProcesses = 0 then conclude group .treeExited
    else if !group.handoffPending then
      setHandoffState { group with handoffPending := true, handoffPendingSince := readings.now }
        .handoffPending
    else if readings.now - group.handoffPendingSince ≤ kTrustedHandoffWindow then
      setHandoffState group .handoffPending
    else conclude group .unverifiable

/-- The loop of `refreshAuthorityLocked`. -/
def refreshAuthorityLoop (readings : Readings) : Nat → Group → Group
  | 0, group => conclude group .unverifiable
  | steps + 1, group =>
    match findEntry group.entries group.authority with
    | none => conclude group .unverifiable
    | some current =>
      if !current.record.exited then
        conclude group
          (if group.handoffGeneration = 0 then .rootActive
          else .descendantActive)
      else if group.tracking ≠ .fullJobObject then conclude group .unsupportedContainment
      else if group.trustedHandoffExecutables.isEmpty then conclude group .unverifiable
      else
        match trustedFrontier compareStringOrdinal group with
        | [] => awaitDescendant group readings
        | [candidate] => refreshAuthorityLoop readings steps (promote group candidate)
        | _ :: _ :: _ => conclude group .unverifiable

def refreshAuthority (readings : Readings) : Group :=
  if !group.root.valid || !group.authority.valid || !group.trackingComplete then
    conclude group .unverifiable
  else refreshAuthorityLoop compareStringOrdinal readings (group.entries.length + 1) group

/-- What follows every change of the entries. -/
def settle (readings : Readings) : Group :=
  refreshAuthority compareStringOrdinal (resolveParentIdentities group) readings

/-- The exit of an entry whose handle is held and signaled. -/
def signaledExit (entry : Entry) : Option Exit :=
  if entry.record.exited || !entry.handle then none
  else exits entry.record.identity

def refreshEntry (entry : Entry) : Entry :=
  match signaledExit exits entry with
  | none => entry
  | some exit => captureExit entry exit

def refreshExited (readings : Readings) : Group :=
  let signaled := group.entries.countP fun entry => (signaledExit exits entry).isSome
  if signaled = 0 then group
  else
    settle compareStringOrdinal
      { group with
        entries := group.entries.map (refreshEntry exits)
        sequence := group.sequence + UInt64.ofNat signaled }
      readings

/-- `addOwnedHandle` for a child; the identity is what the handle says. -/
def addOwnedHandle (identity : ProcessIdentity) (parentProcessId : UInt32)
    (readings : Readings) : Group :=
  if !identity.valid then markTrackingUncertain group
  else if group.entries.any fun entry =>
      entry.record.identity.sameInstance identity then
    group
  else if group.entries.length ≥ kMaximumTrackedSeatProcesses then markTrackingUncertain group
  else
    settle compareStringOrdinal
      { group with
        entries := group.entries ++ [{ record := { identity, parentProcessId }, handle := true }]
        sequence := group.sequence + 1 }
      readings

/-- What waiting for the handle of an exited process gives. -/
inductive Wait where
  | timeout | failed
  | signaled (exit : Exit)

def mayHaveExited (processId : UInt32) (entry : Entry) : Bool :=
  entry.record.identity.processId == processId && !entry.record.exited && entry.handle

/-- The first of the entries that may have exited is changed. -/
def captureFirst (processId : UInt32) (exit : Exit) : List Entry → List Entry
  | [] => []
  | entry :: rest =>
    if mayHaveExited processId entry then captureExit entry exit :: rest
    else entry :: captureFirst processId exit rest

def markExited (processId : UInt32) (wait : Wait) (readings : Readings) : Group :=
  if group.entries.any (mayHaveExited processId) then
    match wait with
    | .timeout => group
    | .failed => markTrackingUncertain group
    | .signaled exit =>
      settle compareStringOrdinal
        { group with
          entries := captureFirst processId exit group.entries, sequence := group.sequence + 1 }
        readings
  else group

/-- The part of `handoffSnapshot` that changes the group. -/
def refreshSnapshot (first second : Readings) : Group :=
  settle compareStringOrdinal (refreshExited compareStringOrdinal group exits first) second

/-- The paths without those that are the same as an earlier one. -/
def uniquePaths (paths : List WideString) : List WideString :=
  paths.foldl
    (fun unique path =>
      if unique.any (sameWindowsPath compareStringOrdinal · path) then unique
      else unique ++ [path])
    []

def configureTrustedHandoffExecutables (executablePaths : List WideString)
    (exits : ProcessIdentity → Option Exit) (first second : Readings) :
    Bool × Group :=
  if executablePaths.isEmpty ||
      decide (executablePaths.length > kMaximumTrustedHandoffExecutables) ||
      executablePaths.any (·.isEmpty) then
    (false, group)
  else
    let unique := uniquePaths compareStringOrdinal executablePaths
    if !group.root.valid ||
        !unique.any (sameWindowsPath compareStringOrdinal group.root.executablePath ·) then
      (false, group)
    else
      (true,
        refreshSnapshot compareStringOrdinal
          { group with trustedHandoffExecutables := unique, handoffPending := false }
          exits first second)

/-- `adoptLaunchedProcess` once Windows has set up the containment. -/
def adoptLaunchedProcess (tracking : ChildTrackingCapability) (identity : ProcessIdentity)
    (readings : Readings) : Option Group :=
  if identity.valid then
    some
      (settle compareStringOrdinal
        { tracking
          root := identity
          authority := identity
          handoffState := .rootActive
          entries := [{ record := { identity, root := true }, handle := true }]
          sequence := 1 }
        readings)
  else none

/-- What happens to a group under its lock, one operation at a time. -/
inductive Event where
  | uncertain
  | owned (identity : ProcessIdentity) (parentProcessId : UInt32) (readings : Readings)
  | exitPacket (processId : UInt32) (wait : Wait) (readings : Readings)
  | polled (exits : ProcessIdentity → Option Exit) (readings : Readings)
  | snapshot (exits : ProcessIdentity → Option Exit) (first second : Readings)
  | configured (executablePaths : List WideString)
      (exits : ProcessIdentity → Option Exit) (first second : Readings)

def step : Event → Group
  | .uncertain => markTrackingUncertain group
  | .owned identity parentProcessId readings =>
    addOwnedHandle compareStringOrdinal group identity parentProcessId readings
  | .exitPacket processId wait readings =>
    markExited compareStringOrdinal group processId wait readings
  | .polled exits readings => refreshExited compareStringOrdinal group exits readings
  | .snapshot exits first second => refreshSnapshot compareStringOrdinal group exits first second
  | .configured executablePaths exits first second =>
    (configureTrustedHandoffExecutables compareStringOrdinal group
      executablePaths exits first second).2

end Trust

end Group

end HydraSeat.Process
