import HydraSeat.Foundation.Stateful
import HydraSeat.Runtime.HostOperation

/-!
# The game launcher

The launcher runs at most one game for each Seat.  It acts on the host only
through the game activation that it opened for that game, so none of its
operations touches a UI lease.  What Windows answers to it (processes, Job
Objects, windows, the input bridge) is an argument of each operation.
-/

namespace HydraSeat.Runtime

open Controller
open Foundation

/-- A token as `beginSeatActivation` returns it. -/
abbrev GameToken :=
  { token : ActivationToken // token.leaseClass = .gameProcess }

/-- `windowRuntime` is the bound window of the window tracker, zero for
none, while a tracker exists. -/
structure SeatProcess where
  token : GameToken
  identity : ProcessIdentity := {}
  windowRuntime : Option UInt64 := none

structure GameLauncher where
  seatProcesses : PerSeat (Option SeatProcess) := ⟨none, none⟩
  lastError : ByteString := []

/-- What one `HostPipeServer` shares among its connections. -/
structure HostServices where
  host : RuntimeHost := {}
  launcher : GameLauncher := {}

structure GameProfile where
  (title executablePath launchArguments workingDirectory : WideString := [])

/-- `GetLastError` of a call that failed; absent when it succeeded. -/
abbrev Win32Result := Option UInt32

/-- What Windows answers while a game is stopped. -/
structure StopAnswers where
  activeProcesses : Option UInt32 := some 1
  (terminated jobEmptied processExited : Bool := true)

/-- What Windows answers while exited games are reaped.  `lockFree` is false
when another operation holds the launcher mutex. -/
structure ReapAnswers where
  lockFree : Bool := true
  activeProcesses : Seat → Option UInt32 := fun _ => some 1

/-- What Windows answers while a game is launched. -/
structure LaunchAnswers where
  displaySettings : Except ByteString Unit := .ok ()
  environmentBlock : Bool := true
  (createProcess createJob assignToJob : Win32Result := none)
  processIdentity : ProcessIdentity := {}
  /-- The start of the window tracker and the target it has at once. -/
  windowTracker : Except ByteString (Option UInt64) := .ok none
  (executableDirectory inputBridge : Except ByteString Unit := .ok ())
  resumeThread : Win32Result := none
  /-- The window that initial placement waits for. -/
  authoritativeWindow : Except ByteString UInt64 := .ok 0
  placement : Except ByteString Unit := .ok ()
  /-- For the rollback of a launch that fails late. -/
  stop : StopAnswers := {}

namespace HostServices

variable (self : HostServices)

def setProcess (seat : Seat) (process : Option SeatProcess) : HostServices :=
  { self with
    launcher :=
      { self.launcher with
        seatProcesses := self.launcher.seatProcesses.set seat process } }

def setLastError (text : ByteString) : HostServices :=
  { self with launcher := { self.launcher with lastError := text } }

/-- Give up the window that the tracker has bound, if there is one. -/
def unbindWindow (process : SeatProcess) (bound : UInt64) : HostServices :=
  if bound = 0 then self
  else
    { self with host := (self.host.clearTargetWindow process.token.val process.identity bound).2 }

/-- `target` is the window of a bound target that belongs to the exact
process. -/
def onWindowTargetChanged (seat : Seat) (target : Option UInt64) : HostServices :=
  match self.launcher.seatProcesses.get seat with
  | none => self
  | some process =>
    match process.windowRuntime, target with
    | none, _ => self
    | some bound, none =>
      (self.unbindWindow process bound).setProcess seat
        (some { process with windowRuntime := some 0 })
    | some bound, some hwnd =>
      if bound = hwnd then self
      else
        let self := self.unbindWindow process bound
        let (accepted, host) := self.host.bindTargetWindow process.token.val process.identity hwnd
        ({ self with host := host } : HostServices).setProcess seat
          (some { process with windowRuntime := some (if accepted then hwnd else 0) })

/-- `SeatWindowRuntime::shutdown`. -/
def closeWindowRuntime (seat : Seat) (process : SeatProcess) : HostServices :=
  (self.unbindWindow process (process.windowRuntime.getD 0)).setProcess
    seat (some { process with windowRuntime := none })

/-- Tear down the helpers of a game and close its activation. -/
def endGame (seat : Seat) (process : SeatProcess) : Bool × HostServices :=
  let self := self.closeWindowRuntime seat process
  let (ended, host) := self.host.endSeatActivation process.token.val
  let self : HostServices := { self with host := host }
  (ended, if ended then self.setProcess seat none else self)

def stopWorkspaceGame (workspaceId : UInt32) (answers : StopAnswers) : Bool × HostServices :=
  match Seat.ofId? workspaceId with
  | none => (false, self)
  | some seat =>
    match self.launcher.seatProcesses.get seat with
    | none => (false, self)
    | some process =>
      match answers.activeProcesses with
      | none => (false, self)
      | some activeProcesses =>
        if activeProcesses ≠ 0 ∧ answers.terminated = false then (false, self)
        else if !answers.jobEmptied || !answers.processExited then (false, self)
        else self.endGame seat process

/-- One pass of the loop of `reapExitedGames`. -/
def reapSeat (answers : ReapAnswers) (self : HostServices) (seat : Seat) : HostServices :=
  match self.launcher.seatProcesses.get seat with
  | none => self
  | some process =>
    if answers.activeProcesses seat = some 0 then
      let (ended, self) := self.endGame seat process
      if ended then self
      else
        self.setLastError (bytesOf
          ("a naturally exited Seat process tree could not release " ++ "runtime authority"))
    else self

def reapExitedGames (answers : ReapAnswers) : HostServices :=
  if answers.lockFree then reapSeat answers (reapSeat answers self .first) .second
  else self

end HostServices

abbrev Launching := Stateful HostServices ByteString

structure SeatInputDevices where
  (keyboardHandles mouseHandles : List UInt64 := [])

def SeatInputDevices.configured (devices : SeatInputDevices) : Bool :=
  !devices.keyboardHandles.isEmpty || !devices.mouseHandles.isEmpty

/-- The live Raw Input collections of an assigned device. -/
def resolveDevice (inventory : List DeviceInfo) (type : DeviceType)
    (persistentId : WideString) (label : String) :
    Except ByteString (List UInt64) :=
  if persistentId.isEmpty then .ok []
  else
    match inventory.find? fun device =>
      device.type == type && device.id == persistentId &&
        (device.nativeHandle != 0 || !device.nativeHandles.isEmpty) with
    | none =>
      .error ("assigned " ++ bytesOf label ++ bytesOf
        (" is disconnected or no longer resolves to a live Raw Input " ++ "device"))
    | some found =>
      let handles :=
        if found.nativeHandles.isEmpty then [found.nativeHandle]
        else found.nativeHandles
      let live := ((handles.filter (· != 0)).mergeSort (· ≤ ·)).dedup
      if live.isEmpty then
        .error ("assigned " ++ bytesOf label ++ bytesOf " has no live Raw Input collections")
      else .ok live

def resolveSeatInputDevices (host : RuntimeHost) (detected : DetectedHardware) (seat : Seat) :
    Except ByteString SeatInputDevices :=
  let configuration := host.hardwareConfigurations.get seat
  if configuration.keyboardId.isEmpty && configuration.mouseId.isEmpty then .ok {}
  else
    let inventory := host.hardwareInventory detected
    match resolveDevice inventory .keyboard configuration.keyboardId "keyboard" with
    | .error text => .error text
    | .ok keyboardHandles =>
      match resolveDevice inventory .mouse configuration.mouseId "mouse" with
      | .error text => .error text
      | .ok mouseHandles => .ok ⟨keyboardHandles, mouseHandles⟩

/-- Whether the Seat has an assigned display.  `displaySettings` is the
outcome of reading its desktop bounds. -/
def resolveSeatDisplayGroup (host : RuntimeHost) (detected : DetectedHardware)
    (displaySettings : Except ByteString Unit) (seat : Seat) :
    Except ByteString Bool :=
  let configuration := host.hardwareConfigurations.get seat
  if configuration.displayId.isEmpty then .ok false
  else
    match (host.hardwareInventory detected).find? fun device =>
      device.type == .display && device.id == configuration.displayId with
    | none => .error "assigned display is no longer connected"
    | some found =>
      if found.devicePath.isEmpty then .error "assigned display has no live GDI device name"
      else
        match displaySettings with
        | .error text => .error text
        | .ok () => .ok true

/-- The controller that a launch redirects, with the inventory it was
checked against. -/
structure LaunchController where
  binding : SeatBinding
  inventory : InventorySnapshot

/-- What a launch has resolved before it opens an activation. -/
structure LaunchPlan where
  seat : Seat
  inputDevices : SeatInputDevices
  displayGroup : Bool
  controller : Option LaunchController

def containsNul (value : WideString) : Bool := value.contains 0

namespace Launching

def read {α : Type} (reads : HostServices → α) : Launching α :=
  Stateful.perform fun self => (reads self, self)

def update (operation : HostServices → HostServices) : Launching Unit :=
  Stateful.perform fun self => ((), operation self)

def onHost {α : Type} (operation : RuntimeHost → α × RuntimeHost) : Launching α :=
  Stateful.perform fun self =>
    let (value, host) := operation self.host
    (value, { self with host := host })

def demand (condition : Bool) (text : String) : Launching Unit :=
  Stateful.demand condition (bytesOf text)

def win32 (result : Win32Result) (text : String) : Launching Unit :=
  match result with
  | none => pure ()
  | some code => Stateful.fail (bytesOf text ++ " (win32=" ++ bytesOf (toString code.toNat) ++ ")")

/-- The checks of `launchGameForWorkspaceImpl` before it changes
anything. -/
def plan (game : GameProfile) (workspaceId : UInt32)
    (controller : Option LaunchController) (detected : DetectedHardware)
    (answers : LaunchAnswers) : Launching LaunchPlan :=
  match Seat.ofId? workspaceId with
  | none => Stateful.fail "only Seat 1 and Seat 2 are supported"
  | some seat => do
      demand
        (!game.executablePath.isEmpty && !containsNul game.executablePath &&
          !containsNul game.launchArguments &&
          !containsNul game.workingDirectory)
        ("launch target contains an invalid executable path or command " ++ "line")
      let running ← read fun self => (self.launcher.seatProcesses.get seat).isSome
      demand (!running) "this Seat already owns a running game process tree"
      let host ← read (·.host)
      let inputDevices ← Stateful.ofExcept (resolveSeatInputDevices host detected seat)
      let displayGroup ← Stateful.ofExcept
        (resolveSeatDisplayGroup host detected answers.displaySettings seat)
      demand
        (controller.all fun used =>
          used.binding.seatId == workspaceId && used.binding.api == .xInput &&
            used.binding.sourceGeneration != 0)
        "controller launch configuration is incomplete or stale"
      pure
        { seat := seat, inputDevices := inputDevices, displayGroup := displayGroup
          controller := controller }

end Launching

theorem acquireLease_leaseClass {seatId : UInt32} (self : SeatRuntime seatId) :
    (self.acquireLease .gameProcess).1.leaseClass = .gameProcess := by
  rcases self.acquireLease_cases .gameProcess with
    refused | ⟨_, _, _, _, opened⟩ | ⟨_, _, _, _, joined⟩
  · rw [refused]
  · rw [opened]
  · rw [joined]

theorem beginSeatActivation_leaseClass (self : RuntimeHost) (seatId : UInt32) :
    (self.beginSeatActivation seatId).1.leaseClass = .gameProcess := by
  change (self.controller.acquireSeatLease seatId .gameProcess).1.leaseClass = .gameProcess
  unfold SessionController.acquireSeatLease
  cases Seat.ofId? seatId with
  | none => rfl
  | some seat => exact acquireLease_leaseClass (self.controller.runtime seat)

namespace Launching

def beginSeatActivation (seat : Seat) : Launching GameToken := do
  let token ← onHost fun host =>
    let result := host.beginSeatActivation seat.id
    ((⟨result.1, beginSeatActivation_leaseClass host seat.id⟩ : GameToken), result.2)
  demand token.val.valid "Seat runtime authority could not begin a new game activation"
  pure token

/-- The `endActivation` of a launch that fails before its process is
registered. -/
def endActivation (token : GameToken) (self : HostServices) : HostServices :=
  { self with host := (self.host.endSeatActivation token.val).2 }

def bindLaunchController (token : GameToken) (answers : LaunchAnswers)
    (used : LaunchController) : Launching Unit := do
  let bound ← onHost fun host => host.bindController token.val used.binding used.inventory
  demand bound "the selected controller binding is no longer valid"
  let mapping ← read fun self => self.host.virtualXInputMapping token.val
  demand mapping.isSome "virtual XInput mapping could not be created for this Seat"
  demand
    (answers.environmentBlock && mapping.all fun virtual => virtual.source.sourceGeneration != 0)
    "virtual XInput environment could not be constructed safely"

/-- Bind the controller and create the suspended process in its Job
Object. -/
def createProcess (plan : LaunchPlan) (token : GameToken)
    (answers : LaunchAnswers) : Launching Unit := do
  match plan.controller with
  | none => pure ()
  | some used => bindLaunchController token answers used
  win32 answers.createProcess "CreateProcessW failed for the selected executable"
  win32 answers.createJob "strict Seat Job Object creation failed"
  win32 answers.assignToJob "game process could not be assigned to the strict Seat Job Object"

def publishIdentity (plan : LaunchPlan) (token : GameToken)
    (answers : LaunchAnswers) : Launching Unit := do
  let identity := answers.processIdentity
  demand identity.valid "the launched process identity could not be verified"
  update fun self => self.setProcess plan.seat (some { token := token, identity := identity })
  let published ← onHost fun host => host.publishProcess token.val identity
  demand published "canonical Seat authority rejected the launched process identity"

def trackWindow (plan : LaunchPlan) (token : GameToken)
    (answers : LaunchAnswers) : Launching Unit :=
  if plan.displayGroup then do
    let target ← Stateful.ofExcept answers.windowTracker
    update fun self =>
      (self.setProcess plan.seat
        (some
          { token := token, identity := answers.processIdentity
            windowRuntime := some 0 })).onWindowTargetChanged plan.seat target
  else pure ()

/-- The keyboard, mouse and XInput boundary of the suspended process. -/
def isolateInput (plan : LaunchPlan) (answers : LaunchAnswers) : Launching Unit :=
  if plan.inputDevices.configured || plan.controller.isSome then do
    Stateful.ofExcept answers.executableDirectory
    Stateful.ofExcept answers.inputBridge
  else pure ()

def boundWindow (seat : Seat) (self : HostServices) : Option UInt64 :=
  (self.launcher.seatProcesses.get seat).bind (·.windowRuntime)

def placeInitial (plan : LaunchPlan) (answers : LaunchAnswers) : Launching Unit :=
  if plan.displayGroup then do
    let hwnd ← Stateful.ofExcept answers.authoritativeWindow
    update (·.onWindowTargetChanged plan.seat (some hwnd))
    let bound ← read (boundWindow plan.seat)
    demand (bound == some hwnd) "failed to publish the exact owned target window to host authority"
    Stateful.ofExcept answers.placement
  else pure ()

/-- What follows the registration of the created process. -/
def bringUp (plan : LaunchPlan) (token : GameToken) (answers : LaunchAnswers) : Launching Unit := do
  publishIdentity plan token answers
  trackWindow plan token answers
  isolateInput plan answers
  win32 answers.resumeThread "the launched process could not be resumed safely"
  placeInitial plan answers

def launchGameForWorkspaceImpl (game : GameProfile)
    (workspaceId : UInt32) (controller : Option LaunchController)
    (detected : DetectedHardware) (answers : LaunchAnswers) :
    Launching Unit := do
  let plan ← plan game workspaceId controller detected answers
  let token ← beginSeatActivation plan.seat
  Stateful.onFailure (endActivation token) (createProcess plan token answers)
  update fun self => self.setProcess plan.seat (some { token := token })
  Stateful.onFailure (fun self => (self.stopWorkspaceGame workspaceId answers.stop).2)
    (bringUp plan token answers)

/-- The controller a Seat launches with: none is assigned, or the assigned
one is paired and still matches a fresh scan. -/
def launchController (workspaceId : UInt32) (scanned : ScannedControllers) :
    Launching (Option LaunchController) := do
  let host ← read (·.host)
  match host.seatHardwareConfiguration workspaceId with
  | none => pure none
  | some hardware =>
    if hardware.controllerId.isEmpty then pure none
    else
      let stored := (host.seatSnapshot workspaceId).bind (·.controllerBinding)
      match stored with
      | none =>
        Stateful.fail (bytesOf
          ("the assigned controller is not paired to a current XInput " ++
            "source; pair it in Seats and try again"))
      | some binding => do
          demand (binding.persistentControllerId == some hardware.controllerId)
            ("the assigned controller is not paired to a current XInput " ++
              "source; pair it in Seats and try again")
          let inventory ← onHost (·.controllerInventorySnapshot scanned)
          demand inventory.authoritative
            ("controller inventory is unavailable; reconnect the " ++ "controller and try again")
          demand (bindingMatchesInventory binding inventory)
            ("the paired controller disconnected or its XInput slot " ++ "changed; pair it again")
          pure (some ⟨binding, inventory⟩)

end Launching

namespace HostServices

def launchGameForWorkspace (self : HostServices) (game : GameProfile)
    (workspaceId : UInt32) (detected : DetectedHardware)
    (scanned : ScannedControllers) (answers : LaunchAnswers) :
    Bool × HostServices :=
  let program : Launching Unit := do
    let controller ← Launching.launchController workspaceId scanned
    Launching.launchGameForWorkspaceImpl game workspaceId controller detected answers
  match program.runOn (self.setLastError []) with
  | (.ok (), after) => (true, after)
  | (.error text, after) => (false, after.setLastError text)

end HostServices

namespace HostServices

/-- Between the two states the host answered calls of the backend only. -/
def BackendRun (before after : HostServices) : Prop := RuntimeHost.BackendRun before.host after.host

/-- Between the two states the host answered no request about a UI
lease. -/
def KeepsUiLeases (before after : HostServices) : Prop :=
  RuntimeHost.KeepsUiLeases before.host after.host

theorem BackendRun.refl (self : HostServices) : BackendRun self self :=
  RuntimeHost.BackendRun.refl self.host

theorem BackendRun.trans {first second third : HostServices} (earlier : BackendRun first second)
    (later : BackendRun second third) :
    BackendRun first third :=
  RuntimeHost.BackendRun.trans earlier later

theorem BackendRun.keeps {before after : HostServices}
    (run : BackendRun before after) : KeepsUiLeases before after :=
  RuntimeHost.BackendRun.keeps run

variable (self : HostServices)

theorem setProcess_run (seat : Seat) (process : Option SeatProcess) :
    BackendRun self (self.setProcess seat process) :=
  RuntimeHost.BackendRun.refl self.host

theorem setLastError_run (text : ByteString) : BackendRun self (self.setLastError text) :=
  RuntimeHost.BackendRun.refl self.host

theorem unbindWindow_run (process : SeatProcess) (bound : UInt64) :
    BackendRun self (self.unbindWindow process bound) := by
  unfold unbindWindow
  split
  · exact .refl self
  · exact RuntimeHost.clearTargetWindow_run self.host process.token.val process.identity bound

theorem onWindowTargetChanged_run (seat : Seat) (target : Option UInt64) :
    BackendRun self (self.onWindowTargetChanged seat target) := by
  unfold onWindowTargetChanged
  split
  · exact .refl self
  next process owned =>
    split
    · exact .refl self
    next bound stored =>
      have unbound := self.unbindWindow_run process bound
      exact unbound.trans (setProcess_run _ seat _)
    next bound hwnd stored =>
      split
      · exact .refl self
      · have unbound := self.unbindWindow_run process bound
        have rebound := (self.unbindWindow process bound).host.bindTargetWindow_run
          process.token.val process.identity hwnd
        exact RuntimeHost.BackendRun.trans unbound rebound

theorem closeWindowRuntime_run (seat : Seat) (process : SeatProcess) :
    BackendRun self (self.closeWindowRuntime seat process) := by
  have unbound := self.unbindWindow_run process (process.windowRuntime.getD 0)
  exact unbound.trans (setProcess_run _ seat _)

theorem endGame_run (seat : Seat) (process : SeatProcess) :
    BackendRun self (self.endGame seat process).2 := by
  have closed := self.closeWindowRuntime_run seat process
  have ended := (self.closeWindowRuntime seat process).host.endSeatActivation_run
    process.token.val process.token.property
  have both := RuntimeHost.BackendRun.trans closed ended
  unfold endGame
  dsimp only
  split <;> exact both

theorem stopWorkspaceGame_run (workspaceId : UInt32) (answers : StopAnswers) :
    BackendRun self (self.stopWorkspaceGame workspaceId answers).2 := by
  unfold stopWorkspaceGame
  split
  · exact .refl self
  next seat named =>
    split
    · exact .refl self
    next process owned =>
      split
      · exact .refl self
      split
      · exact .refl self
      · split
        · exact .refl self
        · exact self.endGame_run seat process

theorem reapSeat_run (answers : ReapAnswers) (seat : Seat) :
    BackendRun self (reapSeat answers self seat) := by
  unfold reapSeat
  split
  · exact .refl self
  next process owned =>
    split
    · have ended := self.endGame_run seat process
      dsimp only
      split
      · exact ended
      · exact ended.trans (setLastError_run _ _)
    · exact .refl self

theorem reapExitedGames_run (answers : ReapAnswers) :
    BackendRun self (self.reapExitedGames answers) := by
  unfold reapExitedGames
  split
  · exact (self.reapSeat_run answers .first).trans (reapSeat_run _ answers .second)
  · exact .refl self

theorem endGame_hardwareConfigurations (seat : Seat) (process : SeatProcess) :
    (self.endGame seat process).2.host.hardwareConfigurations =
      self.host.hardwareConfigurations := by
  have unbound :
      (self.closeWindowRuntime seat process).host.hardwareConfigurations =
        self.host.hardwareConfigurations := by
    unfold closeWindowRuntime unbindWindow setProcess
    dsimp only
    split
    · rfl
    · exact RuntimeHost.noteMutation_hardwareConfigurations _ _
  have ended :=
    (self.closeWindowRuntime seat
      process).host.endSeatActivation_hardwareConfigurations process.token.val
  unfold endGame
  dsimp only
  split <;> exact ended.trans unbound

theorem reapSeat_hardwareConfigurations (answers : ReapAnswers) (seat : Seat) :
    (reapSeat answers self seat).host.hardwareConfigurations =
      self.host.hardwareConfigurations := by
  unfold reapSeat
  split
  · rfl
  next process owned =>
    have ended := self.endGame_hardwareConfigurations seat process
    split
    · dsimp only
      split <;> exact ended
    · rfl

theorem reapExitedGames_hardwareConfigurations (answers : ReapAnswers) :
    (self.reapExitedGames answers).host.hardwareConfigurations =
      self.host.hardwareConfigurations := by
  have second := (reapSeat answers self .first).reapSeat_hardwareConfigurations answers .second
  have first := self.reapSeat_hardwareConfigurations answers .first
  unfold reapExitedGames
  split
  · exact second.trans first
  · rfl

/-- A Seat without a game, or whose Job Object is not empty, is left
alone. -/
theorem reapSeat_of_running {answers : ReapAnswers} {seat : Seat}
    (running :
      self.launcher.seatProcesses.get seat = none ∨ answers.activeProcesses seat ≠ some 0) :
    reapSeat answers self seat = self := by
  unfold reapSeat
  cases owned : self.launcher.seatProcesses.get seat with
  | none => rfl
  | some process =>
    rw [owned] at running
    have notEmpty := running.resolve_left (Option.some_ne_none process)
    dsimp only
    rw [if_neg notEmpty]

theorem reapExitedGames_of_running {answers : ReapAnswers}
    (running :
      ∀ seat, self.launcher.seatProcesses.get seat = none ∨ answers.activeProcesses seat ≠ some 0) :
    self.reapExitedGames answers = self := by
  unfold reapExitedGames
  split
  · rw [self.reapSeat_of_running (running .first), self.reapSeat_of_running (running .second)]
  · rfl

end HostServices

namespace Launching

open HostServices
open Stateful

def Runs {α : Type} (program : Launching α) : Prop := Respects HostServices.BackendRun program

variable {α β : Type}

theorem runs_pure (value : α) : Runs (pure value) := respects_pure BackendRun.refl value

theorem runs_fail (text : ByteString) : Runs (fail text : Launching α) :=
  respects_fail BackendRun.refl text

theorem runs_bind {program : Launching α} {next : α → Launching β}
    (first : Runs program) (rest : ∀ value, Runs (next value)) :
    Runs (program >>= next) :=
  respects_bind @BackendRun.trans first rest

theorem runs_read {reads : HostServices → α} : Runs (read reads) := respects_perform BackendRun.refl

theorem runs_demand {condition : Bool} {text : String} : Runs (demand condition text) :=
  respects_demand BackendRun.refl condition (bytesOf text)

theorem runs_ofExcept {result : Except ByteString α} : Runs (Stateful.ofExcept result) :=
  respects_ofExcept BackendRun.refl result

theorem runs_update {operation : HostServices → HostServices}
    (runs : ∀ self, HostServices.BackendRun self (operation self)) :
    Runs (update operation) :=
  respects_perform runs

theorem runs_onHost {operation : RuntimeHost → α × RuntimeHost}
    (runs : ∀ host, RuntimeHost.BackendRun host (operation host).2) :
    Runs (onHost operation) :=
  respects_perform fun self => runs self.host

theorem runs_win32 {result : Win32Result} {text : String} : Runs (win32 result text) := by
  cases result with
  | none => exact runs_pure ()
  | some code => exact runs_fail _

theorem plan_run (game : GameProfile) (workspaceId : UInt32)
    (controller : Option LaunchController) (detected : DetectedHardware)
    (answers : LaunchAnswers) :
    Runs (plan game workspaceId controller detected answers) := by
  unfold plan
  cases Seat.ofId? workspaceId with
  | none => exact runs_fail _
  | some seat =>
    refine runs_bind runs_demand fun _ => ?_
    refine runs_bind runs_read fun running => ?_
    refine runs_bind runs_demand fun _ => ?_
    refine runs_bind runs_read fun host => ?_
    refine runs_bind runs_ofExcept fun inputDevices => ?_
    refine runs_bind runs_ofExcept fun displayGroup => ?_
    refine runs_bind runs_demand fun _ => ?_
    exact runs_pure _

theorem beginSeatActivation_run (seat : Seat) : Runs (beginSeatActivation seat) := by
  have begun (host : RuntimeHost) := host.beginSeatActivation_run seat.id
  refine runs_bind (runs_onHost begun) fun token => ?_
  refine runs_bind runs_demand fun _ => ?_
  exact runs_pure token

theorem endActivation_run (token : GameToken) (self : HostServices) :
    HostServices.BackendRun self (endActivation token self) :=
  self.host.endSeatActivation_run token.val token.property

theorem bindLaunchController_run (token : GameToken)
    (answers : LaunchAnswers) (used : LaunchController) :
    Runs (bindLaunchController token answers used) := by
  have bound (host : RuntimeHost) := host.bindController_run token.val used.binding used.inventory
  refine runs_bind (runs_onHost bound) fun _ => ?_
  refine runs_bind runs_demand fun _ => ?_
  refine runs_bind runs_read fun mapping => ?_
  refine runs_bind runs_demand fun _ => ?_
  exact runs_demand

section

variable (plan : LaunchPlan)
include plan

theorem createProcess_run (token : GameToken) (answers : LaunchAnswers) :
    Runs (createProcess plan token answers) := by
  unfold createProcess
  cases plan.controller with
  | none =>
    refine runs_bind runs_win32 fun _ => ?_
    refine runs_bind runs_win32 fun _ => ?_
    exact runs_win32
  | some used =>
    refine runs_bind (bindLaunchController_run token answers used) fun _ => ?_
    refine runs_bind runs_win32 fun _ => ?_
    refine runs_bind runs_win32 fun _ => ?_
    exact runs_win32

theorem publishIdentity_run (token : GameToken) (answers : LaunchAnswers) :
    Runs (publishIdentity plan token answers) := by
  have published (host : RuntimeHost) := host.publishProcess_run token.val answers.processIdentity
  refine runs_bind runs_demand fun _ => ?_
  refine runs_bind (runs_update fun self => self.setProcess_run _ _) fun _ => ?_
  refine runs_bind (runs_onHost published) fun _ => ?_
  exact runs_demand

theorem trackWindow_run (token : GameToken) (answers : LaunchAnswers) :
    Runs (trackWindow plan token answers) := by
  unfold trackWindow
  split
  · refine runs_bind runs_ofExcept fun target => ?_
    apply runs_update
    intro self
    exact (self.setProcess_run plan.seat _).trans (onWindowTargetChanged_run _ plan.seat target)
  · exact runs_pure ()

theorem isolateInput_run (answers : LaunchAnswers) : Runs (isolateInput plan answers) := by
  unfold isolateInput
  split
  · exact runs_bind runs_ofExcept fun _ => runs_ofExcept
  · exact runs_pure ()

theorem placeInitial_run (answers : LaunchAnswers) : Runs (placeInitial plan answers) := by
  unfold placeInitial
  split
  · refine runs_bind runs_ofExcept fun hwnd => ?_
    refine runs_bind (runs_update fun self => self.onWindowTargetChanged_run plan.seat (some hwnd))
      fun _ => ?_
    refine runs_bind runs_read fun bound => ?_
    refine runs_bind runs_demand fun _ => ?_
    exact runs_ofExcept
  · exact runs_pure ()

theorem bringUp_run (token : GameToken) (answers : LaunchAnswers) :
    Runs (bringUp plan token answers) := by
  refine runs_bind (publishIdentity_run plan token answers) fun _ => ?_
  refine runs_bind (trackWindow_run plan token answers) fun _ => ?_
  refine runs_bind (isolateInput_run plan answers) fun _ => ?_
  refine runs_bind runs_win32 fun _ => ?_
  exact placeInitial_run plan answers

end

theorem launchGameForWorkspaceImpl_run (game : GameProfile)
    (workspaceId : UInt32) (controller : Option LaunchController)
    (detected : DetectedHardware) (answers : LaunchAnswers) :
    Runs (launchGameForWorkspaceImpl game workspaceId controller detected answers) := by
  refine runs_bind (plan_run game workspaceId controller detected answers) fun plan => ?_
  refine runs_bind (beginSeatActivation_run plan.seat) fun token => ?_
  refine runs_bind
    (respects_onFailure @BackendRun.trans (endActivation_run token)
      (createProcess_run plan token answers)) fun _ => ?_
  refine runs_bind (runs_update fun self => self.setProcess_run _ _) fun _ => ?_
  exact respects_onFailure @BackendRun.trans
    (fun self => self.stopWorkspaceGame_run workspaceId answers.stop)
    (bringUp_run plan token answers)

theorem launchController_run (workspaceId : UInt32) (scanned : ScannedControllers) :
    Runs (launchController workspaceId scanned) := by
  refine runs_bind runs_read fun host => ?_
  split
  · exact runs_pure none
  split
  · exact runs_pure none
  dsimp only
  split
  · exact runs_fail _
  have scan (host : RuntimeHost) := host.controllerInventorySnapshot_run scanned
  refine runs_bind runs_demand fun _ => ?_
  refine runs_bind (runs_onHost scan) fun inventory => ?_
  refine runs_bind runs_demand fun _ => ?_
  refine runs_bind runs_demand fun _ => ?_
  exact runs_pure _

end Launching

theorem HostServices.launchGameForWorkspace_run
    (self : HostServices) (game : GameProfile) (workspaceId : UInt32)
    (detected : DetectedHardware) (scanned : ScannedControllers)
    (answers : LaunchAnswers) :
    BackendRun self (self.launchGameForWorkspace game workspaceId detected scanned answers).2 := by
  have program := Launching.runs_bind (Launching.launchController_run workspaceId scanned)
    fun controller =>
      Launching.launchGameForWorkspaceImpl_run game workspaceId controller detected answers
  have cleared := self.setLastError_run []
  have launched := cleared.trans (program (self.setLastError []))
  unfold launchGameForWorkspace
  dsimp only
  split
  next ran =>
    rw [ran] at launched
    exact launched
  next ran =>
    rw [ran] at launched
    exact launched.trans (setLastError_run _ _)

namespace HostServices

variable (self : HostServices)

theorem onWindowTargetChanged_keeps (seat : Seat) (target : Option UInt64) :
    KeepsUiLeases self (self.onWindowTargetChanged seat target) :=
  (self.onWindowTargetChanged_run seat target).keeps

theorem stopWorkspaceGame_keeps (workspaceId : UInt32) (answers : StopAnswers) :
    KeepsUiLeases self (self.stopWorkspaceGame workspaceId answers).2 :=
  (self.stopWorkspaceGame_run workspaceId answers).keeps

theorem reapExitedGames_keeps (answers : ReapAnswers) :
    KeepsUiLeases self (self.reapExitedGames answers) :=
  (self.reapExitedGames_run answers).keeps

theorem launchGameForWorkspace_keeps (game : GameProfile) (workspaceId : UInt32)
    (detected : DetectedHardware) (scanned : ScannedControllers)
    (answers : LaunchAnswers) :
    KeepsUiLeases self (self.launchGameForWorkspace game workspaceId detected scanned answers).2 :=
  (self.launchGameForWorkspace_run game workspaceId detected scanned answers).keeps

end HostServices

end HydraSeat.Runtime
