import HydraSeat.Foundation.Holders
import HydraSeat.HostIpc.Session
import HydraSeat.HostIpc.SessionLeases

/-!
# UI leases belong to connections

Whatever happens next moves the table of holders once at most, and the
table goes on to represent the sessions and the host.
-/

namespace HydraSeat.HostIpc

section

open HydraSeat.Runtime
open Foundation

abbrev ConnectionId := Nat

structure HostSystem where
  services : HostServices := {}
  sessions : ConnectionId → Option HostConnectionSession := fun _ => none

/-- A call that the backend makes outside any request. -/
abbrev BackendCall :=
  { operation : HostOperation //
    RuntimeHost.backendCall operation = true }

/-- What may happen next.  The last three happen outside any request: a
call of the host, a window event of the launcher, and the stop of a game
whose input could not be delivered. -/
inductive HostEvent where
  | connected (connection : ConnectionId) (audioRouter gameLauncher : Bool)
  | requested (connection : ConnectionId) (surroundings : Surroundings) (request : Frame)
  | disconnected (connection : ConnectionId)
  | backend (call : BackendCall)
  | windowTargetChanged (seat : Seat) (target : Option UInt64)
  | inputUndelivered (seat : Seat) (answers : StopAnswers)

namespace HostSystem

variable (self : HostSystem)

def setSession (connection : ConnectionId) (session : Option HostConnectionSession) : HostSystem :=
  { self with sessions := Function.update self.sessions connection session }

/-- A request that reaches a live session. -/
def serve (connection : ConnectionId) (surroundings : Surroundings) (request : Frame)
    (session : HostConnectionSession) : HostSystem :=
  let served := session.handle self.services surroundings request
  ({ self with services := served.services } : HostSystem).setSession
    connection (some served.session)

def step : HostEvent → HostSystem
  | .connected connection audioRouter gameLauncher =>
    match self.sessions connection with
    | some _ => self
    | none =>
      self.setSession connection (some { audioRouter := audioRouter, gameLauncher := gameLauncher })
  | .requested connection surroundings request =>
    match self.sessions connection with
    | none => self
    | some session => self.serve connection surroundings request session
  | .disconnected connection =>
    match self.sessions connection with
    | none => self
    | some session =>
      ({ self with
        services := session.destroy self.services } : HostSystem).setSession connection none
  | .backend call =>
    { self with
      services :=
        { self.services with
          host := self.services.host.step call.val } }
  | .windowTargetChanged seat target =>
    { self with services := self.services.onWindowTargetChanged seat target }
  | .inputUndelivered seat answers =>
    { self with services := (self.services.stopWorkspaceGame seat.id answers).2 }

def Fresh : Prop :=
  self.services.host.controller = {} ∧ ∀ connection, self.sessions connection = none

/-- The token that a connection stores for a Seat. -/
def stored (seat : Seat) (connection : ConnectionId) : Option ActivationToken :=
  (self.sessions connection).bind (·.uiLeases.get seat)

def heldUiLease (seat : Seat) : Option ActivationToken := self.services.host.heldUiLease seat

/-- The UI token that is good for the Seat, if its lease is active. -/
def currentUiToken (seat : Seat) : ActivationToken :=
  { seatId := seat.id, generation := (self.services.host.controller.runtime seat).generation
    leaseClass := .uiConfiguration }

def uiLeaseActive (seat : Seat) : Bool := (self.services.host.controller.runtime seat).uiLeaseActive

/-- The table of holders says what the sessions store and which leases the
host has open. -/
structure Represents (holders : Holders Seat ConnectionId) (system : HostSystem) : Prop where
  numbered : system.services.host.controller.Numbered
  open_ : ∀ seat, (holders seat).isSome = (system.heldUiLease seat).isSome
  stored :
    ∀ seat connection, system.stored seat connection =
      if holders seat = some connection then system.heldUiLease seat
      else none

end HostSystem

end

open HydraSeat.Runtime
open Foundation Holders HostConnectionSession PerSeat

/-- Nothing happened but the reconciliation of exited games, which keeps
the UI leases and the configuration and does nothing while the Job Object of
every launched game has a process. -/
structure ReconcilesOnly (before : HostServices) (answers : ReapAnswers)
    (after : HostServices) : Prop where
  outcome : after = before ∨ after = before.reapExitedGames answers
  uiLeases : ∀ seat, after.host.heldUiLease seat = before.host.heldUiLease seat
  configuration : after.host.hardwareConfigurations = before.host.hardwareConfigurations
  running :
    (∀ seat, before.launcher.seatProcesses.get seat = none ∨
      answers.activeProcesses seat ≠ some 0) →
    after = before

theorem reconcilesOnly_of_outcome {before after : HostServices} {answers : ReapAnswers}
    (outcome : after = before ∨ after = before.reapExitedGames answers) :
    ReconcilesOnly before answers after where
  outcome := outcome
  uiLeases := by
    intro seat
    cases outcome with
    | inl same => rw [same]
    | inr reaped =>
      have keeps := before.reapExitedGames_keeps answers
      rw [reaped]
      exact keeps.heldUiLease_eq seat
  configuration := by
    cases outcome with
    | inl same => rw [same]
    | inr reaped =>
      rw [reaped]
      exact before.reapExitedGames_hardwareConfigurations answers
  running := by
    intro allRunning
    cases outcome with
    | inl same => exact same
    | inr reaped =>
      rw [reaped]
      exact before.reapExitedGames_of_running allRunning

namespace HostSystem

theorem heldUiLease_eq (self : HostSystem) (seat : Seat) :
    self.heldUiLease seat = if self.uiLeaseActive seat = true then some (self.currentUiToken seat)
      else none :=
  rfl

theorem stored_setSession (self : HostSystem) (connection tested : ConnectionId)
    (session : Option HostConnectionSession) (seat : Seat) :
    (self.setSession connection session).stored seat tested =
      if tested = connection then session.bind (·.uiLeases.get seat)
      else self.stored seat tested := by
  unfold stored setSession
  dsimp only
  rw [Function.update_apply]
  by_cases same : tested = connection
  · rw [if_pos same, if_pos same]
  · rw [if_neg same, if_neg same]

theorem stored_of_live {self : HostSystem} {connection : ConnectionId}
    {session : HostConnectionSession}
    (live : self.sessions connection = some session) (seat : Seat) :
    self.stored seat connection = session.uiLeases.get seat := by
  unfold stored
  rw [live]
  rfl

namespace Represents

variable {holders : Holders Seat ConnectionId} {self : HostSystem}
variable {connection : ConnectionId} {session : HostConnectionSession} {services : HostServices}

theorem free_iff (represents : Represents holders self) (seat : Seat) :
    holders seat = none ↔ self.heldUiLease seat = none := by
  have both := represents.open_ seat
  constructor
  · intro free
    rw [free] at both
    exact Option.isNone_iff_eq_none.mp (Option.isSome_eq_false_iff.mp both.symm)
  · intro free
    rw [free] at both
    exact Option.isNone_iff_eq_none.mp (Option.isSome_eq_false_iff.mp both)

/-- A session stores a token exactly while its connection is the holder. -/
theorem stored_eq_some_iff (represents : Represents holders self)
    (seat : Seat) (connection : ConnectionId) :
    (∃ token, self.stored seat connection = some token) ↔ holders seat = some connection := by
  have stored := represents.stored seat connection
  constructor
  · intro ⟨token, storedToken⟩
    by_contra other
    rw [if_neg other, storedToken] at stored
    cases stored
  intro holder
  have open_ := represents.open_ seat
  rw [holder, Option.isSome_some, eq_comm, Option.isSome_iff_exists] at open_
  obtain ⟨token, held⟩ := open_
  refine ⟨token, ?_⟩
  rw [stored, if_pos holder, held]

theorem current (represents : Represents holders self)
    (live : self.sessions connection = some session) :
    Current session self.services.host where
  numbered := represents.numbered
  held := by
    intro seat token owned
    rw [← stored_of_live live] at owned
    have holder := (represents.stored_eq_some_iff seat connection).mp ⟨token, owned⟩
    have stored := represents.stored seat connection
    rw [if_pos holder, owned] at stored
    exact stored.symm

theorem of_fresh (fresh : self.Fresh) : Represents (fun _ => none) self where
  numbered := by
    intro seat active
    rw [fresh.1] at active
    cases seat <;> exact absurd active Bool.false_ne_true
  open_ := by
    intro seat
    unfold HostSystem.heldUiLease RuntimeHost.heldUiLease
    rw [fresh.1]
    cases seat <;> rfl
  stored := by
    intro seat connection
    unfold HostSystem.stored
    rw [fresh.2 connection]
    rfl

section

variable (represents : Represents holders self)
include represents

theorem of_keeps (keeps : HostServices.KeepsUiLeases self.services services) :
    Represents holders { self with services := services } where
  numbered := keeps.numbered represents.numbered
  open_ := by
    intro seat
    rw [represents.open_ seat]
    exact congrArg Option.isSome (keeps.heldUiLease_eq seat).symm
  stored := by
    intro seat connection
    have held := keeps.heldUiLease_eq seat
    have stored := represents.stored seat connection
    unfold HostSystem.heldUiLease at stored ⊢
    rw [held]
    exact stored

theorem of_leaseChange {sessionAfter : HostConnectionSession}
    (live : self.sessions connection = some session)
    (numbered : services.host.controller.Numbered)
    (change : LeaseChange session self.services.host sessionAfter services.host) :
    ∃ after, Move holders after ∧
      Represents after
        (({ self with services := services } : HostSystem).setSession
          connection (some sessionAfter)) := by
  have current := represents.current live
  have owns (seat : Seat) (tested : ConnectionId) :
      (({ self with services := services } : HostSystem).setSession
        connection (some sessionAfter)).stored seat tested =
          if tested = connection then sessionAfter.uiLeases.get seat
          else self.stored seat tested :=
    stored_setSession _ connection tested (some sessionAfter) seat
  cases change with
  | kept stored held =>
    refine ⟨holders, .kept, numbered, ?_, ?_⟩
    · intro seat
      rw [represents.open_ seat]
      exact congrArg Option.isSome (held seat).symm
    intro seat tested
    rw [owns, stored, ← stored_of_live live]
    have same :
        (if tested = connection then self.stored seat connection
          else self.stored seat tested) = self.stored seat tested := by
      by_cases at_ : tested = connection
      · rw [if_pos at_, at_]
      · rw [if_neg at_]
    rw [same, represents.stored]
    exact congrArg (ite _ · none) (held seat).symm
  | acquired seat token free stored held =>
    have unheld := (represents.free_iff seat).mpr free
    refine ⟨holders.grant seat connection, .granted seat connection unheld, numbered, ?_, ?_⟩
    · intro tested
      change _ = (services.host.heldUiLease tested).isSome
      rw [grant_apply, held]
      by_cases same : tested = seat
      · rw [if_pos same, if_pos same]
        rfl
      · rw [if_neg same, if_neg same]
        exact represents.open_ tested
    · intro tested other
      change _ = if _ then services.host.heldUiLease tested else none
      rw [owns, stored, grant_apply, held]
      by_cases same : tested = seat
      · rw [if_pos same, if_pos same, same, get_set_same]
        by_cases at_ : other = connection
        · rw [if_pos at_, if_pos (congrArg some at_.symm)]
        · have notGranted : some connection ≠ some other :=
            fun equal => at_ (Option.some.inj equal).symm
          rw [if_neg at_, if_neg notGranted, represents.stored,
            unheld, if_neg (Option.some_ne_none other).symm]
      · rw [if_neg same, if_neg same, get_set_of_ne _ _ same, ← stored_of_live live]
        by_cases at_ : other = connection
        · rw [if_pos at_, at_]
          exact represents.stored tested connection
        · rw [if_neg at_]
          exact represents.stored tested other
  | released seat token owned stored held =>
    have holder : holders seat = some connection := by
      apply (represents.stored_eq_some_iff seat connection).mp
      exact ⟨token, (stored_of_live live seat).trans owned⟩
    refine ⟨holders.giveBack seat, .givenBack seat connection holder, numbered, ?_, ?_⟩
    · intro tested
      change _ = (services.host.heldUiLease tested).isSome
      rw [giveBack_apply, held]
      by_cases same : tested = seat
      · rw [if_pos same, if_pos same]
        rfl
      · rw [if_neg same, if_neg same]
        exact represents.open_ tested
    · intro tested other
      change _ = if _ then services.host.heldUiLease tested else none
      rw [owns, stored, giveBack_apply, held]
      by_cases same : tested = seat
      · rw [if_pos same, same, get_set_same, if_neg (Option.some_ne_none other).symm]
        by_cases at_ : other = connection
        · rw [if_pos at_]
        · have notHolder : holders seat ≠ some other := by
            rw [holder]
            exact fun equal => at_ (Option.some.inj equal).symm
          rw [if_neg at_, represents.stored, if_neg notHolder]
      · rw [if_neg same, if_neg same, get_set_of_ne _ _ same, ← stored_of_live live]
        by_cases at_ : other = connection
        · rw [if_pos at_, at_]
          exact represents.stored tested connection
        · rw [if_neg at_]
          exact represents.stored tested other

theorem of_connected (fresh : self.sessions connection = none) (audioRouter gameLauncher : Bool) :
    Represents holders
      (self.setSession connection
        (some { audioRouter := audioRouter, gameLauncher := gameLauncher })) where
  numbered := represents.numbered
  open_ := represents.open_
  stored := by
    intro seat tested
    have empty : self.stored seat connection = none := by
      unfold HostSystem.stored
      rw [fresh]
      rfl
    have stored := represents.stored seat tested
    rw [stored_setSession]
    by_cases at_ : tested = connection
    · rw [at_, empty] at stored
      rw [if_pos at_, at_]
      refine Eq.trans ?_ stored
      cases seat <;> rfl
    · rw [if_neg at_]
      exact stored

theorem of_disconnected (live : self.sessions connection = some session) :
    Represents (holders.dismiss connection)
      (({ self with
        services := session.destroy self.services } : HostSystem).setSession connection none) := by
  have current := represents.current live
  obtain ⟨numbered, held⟩ := destroy_held current
  have storedIff (seat : Seat) :
      (session.uiLeases.get seat).isSome = true ↔ holders seat = some connection := by
    rw [Option.isSome_iff_exists, ← stored_of_live live]
    exact represents.stored_eq_some_iff seat connection
  have heldAfter (seat : Seat) :
      (session.destroy self.services).host.heldUiLease seat =
        if holders seat = some connection then none
        else self.heldUiLease seat := by
    rw [held seat]
    by_cases holder : holders seat = some connection
    · rw [if_pos holder, if_pos ((storedIff seat).mpr holder)]
    · rw [if_neg holder, if_neg (mt (storedIff seat).mp holder)]
      rfl
  refine ⟨numbered, ?_, ?_⟩
  · intro seat
    change _ = ((session.destroy self.services).host.heldUiLease seat).isSome
    rw [heldAfter]
    unfold dismiss
    by_cases holder : holders seat = some connection
    · rw [if_pos holder, if_pos holder]
      rfl
    · rw [if_neg holder, if_neg holder]
      exact represents.open_ seat
  · intro seat tested
    change _ = if _ then (session.destroy self.services).host.heldUiLease seat else none
    rw [stored_setSession, heldAfter]
    unfold dismiss
    by_cases holder : holders seat = some connection
    · rw [if_pos holder, if_neg (Option.some_ne_none tested).symm]
      by_cases at_ : tested = connection
      · rw [if_pos at_]
        rfl
      have notHolder : holders seat ≠ some tested := by
        rw [holder]
        exact fun equal => at_ (Option.some.inj equal).symm
      rw [if_neg at_]
      exact (represents.stored seat tested).trans (if_neg notHolder)
    · rw [if_neg holder]
      by_cases at_ : tested = connection
      · rw [if_pos at_, at_, if_neg holder]
        rfl
      · rw [if_neg at_, if_neg holder]
        exact represents.stored seat tested

end

end Represents

theorem step_represents {holders : Holders Seat ConnectionId}
    {self : HostSystem} (represents : Represents holders self)
    (event : HostEvent) :
    ∃ after, Move holders after ∧ Represents after (self.step event) := by
  cases event with
  | connected connection audioRouter gameLauncher =>
    refine ⟨holders, .kept, ?_⟩
    unfold step
    dsimp only
    cases live : self.sessions connection with
    | some session => exact represents
    | none => exact represents.of_connected live audioRouter gameLauncher
  | requested connection surroundings request =>
    unfold step
    dsimp only
    cases live : self.sessions connection with
    | none => exact ⟨holders, .kept, represents⟩
    | some session =>
      have effect := handle_leaseEffect surroundings request (represents.current live)
      exact represents.of_leaseChange live effect.numbered effect.change
  | disconnected connection =>
    unfold step
    dsimp only
    cases live : self.sessions connection with
    | none => exact ⟨holders, .kept, represents⟩
    | some session =>
      exact ⟨holders.dismiss connection, .dismissed connection, represents.of_disconnected live⟩
  | backend call =>
    have keeps : RuntimeHost.KeepsUiLeases self.services.host (self.services.host.step call.val) :=
      self.services.host.backendCall_keeps call.property
    exact ⟨holders, .kept, represents.of_keeps keeps⟩
  | windowTargetChanged seat target =>
    exact ⟨holders, .kept, represents.of_keeps
      (self.services.onWindowTargetChanged_keeps seat target)⟩
  | inputUndelivered seat answers =>
    exact ⟨holders, .kept, represents.of_keeps
      (self.services.stopWorkspaceGame_keeps seat.id answers)⟩

theorem runFrom_represents {start : HostSystem} (fresh : start.Fresh) (events : List HostEvent) :
    ∃ holders, Represents holders (runFrom step start events) := by
  have preserved :
      ∀ (self : HostSystem) (event : HostEvent),
        (∃ holders, Represents holders self) → ∃ holders, Represents holders (self.step event) := by
    intro self event ⟨holders, represents⟩
    obtain ⟨after, _, representsAfter⟩ := step_represents represents event
    exact ⟨after, representsAfter⟩
  exact runFrom_preserves preserved events ⟨fun _ => none, Represents.of_fresh fresh⟩

structure ConnectionScoped (system : HostSystem) : Prop where
  active_iff :
    ∀ seat, system.uiLeaseActive seat = true ↔
      ∃! connection, system.stored seat connection = some (system.currentUiToken seat)
  changed_by_holder :
    ∀ connection session surroundings request, system.sessions connection = some session →
      changesSeat request.type = true →
      (session.handle system.services surroundings request).response.type ≠ .error →
      session.helloComplete = true ∧ session.role = .control ∧
        ∃ seat,
          requestedSeat (session.reconciled system.services surroundings).host request = some seat ∧
          system.stored seat connection = some (system.currentUiToken seat)
  disconnected :
    ∀ connection, (system.step (.disconnected connection)).sessions connection = none ∧
      ∀ seat, (system.stored seat connection).isSome = true →
        (system.step (.disconnected connection)).uiLeaseActive seat = false
  before_hello :
    ∀ connection session surroundings request, system.sessions connection = some session →
      session.helloComplete = false →
      (session.handle system.services surroundings request).services = system.services
  read_only :
    ∀ connection session surroundings request, system.sessions connection = some session →
      session.helloComplete = true →
      session.role ≠ .control →
      ReconcilesOnly system.services surroundings.reap
        (session.handle system.services surroundings request).services
theorem isSome_heldUiLease (self : HostSystem) (seat : Seat) :
    (self.heldUiLease seat).isSome = self.uiLeaseActive seat := by
  rw [heldUiLease_eq]
  cases self.uiLeaseActive seat <;> rfl

namespace Represents

variable {holders : Holders Seat ConnectionId} {self : HostSystem}

theorem stored_current_iff (represents : Represents holders self)
    (seat : Seat) (connection : ConnectionId) :
    self.stored seat connection = some (self.currentUiToken seat) ↔
      holders seat = some connection := by
  constructor
  · intro stored
    exact (represents.stored_eq_some_iff seat connection).mp ⟨_, stored⟩
  intro holder
  obtain ⟨token, stored⟩ := (represents.stored_eq_some_iff seat connection).mpr holder
  have held := represents.stored seat connection
  rw [if_pos holder, stored, heldUiLease_eq] at held
  by_cases active : self.uiLeaseActive seat = true
  · rw [if_pos active] at held
    rw [stored, held]
  · rw [if_neg active] at held
    cases held

theorem connectionScoped (represents : Represents holders self) : ConnectionScoped self where
  active_iff := by
    intro seat
    have holder := isSome_iff_existsUnique holders seat
    rw [represents.open_ seat, isSome_heldUiLease] at holder
    rw [holder]
    exact existsUnique_congr fun connection => (represents.stored_current_iff seat connection).symm
  changed_by_holder := by
    intro connection session surroundings request live changes accepted
    obtain ⟨complete, control, seat, token, asked, owned⟩ :=
      handle_authorized surroundings request changes accepted
    refine ⟨complete, control, seat, asked, ?_⟩
    apply (represents.stored_current_iff seat connection).mpr
    apply (represents.stored_eq_some_iff seat connection).mp
    exact ⟨token, (stored_of_live live seat).trans owned⟩
  disconnected := by
    intro connection
    cases live : self.sessions connection with
    | none =>
      have same : self.step (.disconnected connection) = self := by
        simp only [step, live]
      rw [same]
      refine ⟨live, ?_⟩
      intro seat stored
      unfold HostSystem.stored at stored
      rw [live] at stored
      cases stored
    | some session =>
      have after := represents.of_disconnected live
      have stepped :
          self.step (.disconnected connection) =
            ({ self with services := session.destroy self.services } :
                HostSystem).setSession connection none := by
        simp only [step, live]
      rw [← stepped] at after
      refine ⟨?_, ?_⟩
      · rw [stepped]
        exact Function.update_self connection none self.sessions
      intro seat stored
      have holder := (represents.stored_eq_some_iff seat connection).mp
        (Option.isSome_iff_exists.mp stored)
      have free : holders.dismiss connection seat = none := if_pos holder
      rw [← isSome_heldUiLease, ← after.open_ seat, free]
      rfl
  before_hello := by
    intro connection session surroundings request _ before
    exact handle_beforeHello surroundings request before
  read_only := by
    intro connection session surroundings request _ complete readOnly
    apply reconcilesOnly_of_outcome
    have outcome :
        (session.handle self.services surroundings request).services = self.services ∨
          (session.handle self.services surroundings request).services =
            session.reconciled self.services surroundings :=
      handle_readOnly surroundings request complete readOnly
    unfold reconciled at outcome
    by_cases launcher : session.gameLauncher = true
    · rw [if_pos launcher] at outcome
      exact outcome
    · rw [if_neg launcher, or_self] at outcome
      exact Or.inl outcome

end Represents

/-- In every run the UI leases are connection-scoped. -/
theorem runFrom_connectionScoped {start : HostSystem}
    (fresh : start.Fresh) (events : List HostEvent) :
    ConnectionScoped (runFrom step start events) := by
  obtain ⟨holders, represents⟩ := runFrom_represents fresh events
  exact represents.connectionScoped

def helloFrame (role : ClientRole) : Frame where
  type := .hello
  correlationId := 1
  payload := encodeHello { role := role }

/-- One client launches a game on the first Seat, then another one connects
to watch. -/
def watchedLaunch : List HostEvent :=
  [.connected 0 false true, .requested 0 {} (helloFrame .control),
    .requested 0 {}
      { type := .acquireUiLease, correlationId := 2, payload := encodeSeatRequest { seatId := 1 } },
    .requested 0 { launch := { processIdentity := ⟨4, 5⟩ } }
      { type := .launchGame, correlationId := 3
        payload := encodeLaunchGameRequest
          { seatId := 1
            executablePathUtf8 := "game.exe" } },
    .connected 1 false true,
    .requested 1 {} (helloFrame .readOnly)]

theorem fresh_empty : ({} : HostSystem).Fresh := ⟨rfl, fun _ => rfl⟩

theorem runFrom_connectionScoped_watchedLaunch : ConnectionScoped (runFrom step {} watchedLaunch) :=
  runFrom_connectionScoped fresh_empty watchedLaunch

def gameLeaseActive (self : HostSystem) (seat : Seat) : Bool :=
  (self.services.host.controller.runtime seat).gameLeaseActive

/-- The snapshot that the watching client asks for ends the game lease of a
game that has exited. -/
theorem readOnly_ends_gameLease :
    ¬ ∀ (start : HostSystem), start.Fresh →
      ∀ (events : List HostEvent) (connection : ConnectionId)
        (session : HostConnectionSession) (surroundings : Surroundings)
        (request : Frame),
        (runFrom step start events).sessions connection = some session →
        session.helloComplete = true →
        session.role = .readOnly →
        ∀ seat,
          ((runFrom step start events).step
            (.requested connection surroundings request)).gameLeaseActive seat =
            (runFrom step start events).gameLeaseActive seat := by
  intro unchanged
  have live :
      (runFrom step {} watchedLaunch).sessions 1 =
        some { gameLauncher := true, helloComplete := true, role := .readOnly } := by
    decide
  have same := unchanged {} fresh_empty watchedLaunch 1 _
    { reap := { activeProcesses := fun _ => some 0 } }
    { type := .getSnapshot, correlationId := 2 } live rfl rfl .first
  revert same
  decide

end HostSystem

end HydraSeat.HostIpc
