import HydraSeat.HostIpc.Session

/-!
# What one request does to the UI leases

A request keeps every UI lease and every stored token, or it stores the
token of a lease that it opened, or it drops the token of a lease that it
closed.  A request about a Seat is answered with anything but an error only
where the session stores the token of that Seat.
-/

namespace HydraSeat.HostIpc

open HydraSeat.Runtime

/-- Every token that the session stores is the current one of its Seat. -/
structure Current (session : HostConnectionSession) (host : RuntimeHost) : Prop where
  numbered : host.controller.Numbered
  held : ∀ seat token, session.uiLeases.get seat = some token → host.heldUiLease seat = some token

theorem Current.of_keeps {session : HostConnectionSession} {before after : RuntimeHost}
    (current : Current session before)
    (keeps : RuntimeHost.KeepsUiLeases before after) :
    Current session after where
  numbered := keeps.numbered current.numbered
  held := by
    intro seat token stored
    rw [keeps.heldUiLease_eq seat]
    exact current.held seat token stored

inductive LeaseChange (session : HostConnectionSession) (host : RuntimeHost)
    (sessionAfter : HostConnectionSession) (hostAfter : RuntimeHost) :
    Prop
  | kept (stored : sessionAfter.uiLeases = session.uiLeases)
      (held : ∀ tested, hostAfter.heldUiLease tested = host.heldUiLease tested)
  | acquired (seat : Seat) (token : ActivationToken) (free : host.heldUiLease seat = none)
      (stored : sessionAfter.uiLeases = session.uiLeases.set seat (some token))
      (held :
        ∀ tested, hostAfter.heldUiLease tested =
          if tested = seat then some token else host.heldUiLease tested)
  | released (seat : Seat) (token : ActivationToken)
      (owned : session.uiLeases.get seat = some token)
      (stored : sessionAfter.uiLeases = session.uiLeases.set seat none)
      (held :
        ∀ tested, hostAfter.heldUiLease tested =
          if tested = seat then none else host.heldUiLease tested)

theorem LeaseChange.after_keeps {session sessionAfter : HostConnectionSession}
    {host reached hostAfter : RuntimeHost}
    (keeps : RuntimeHost.KeepsUiLeases host reached)
    (change : LeaseChange session reached sessionAfter hostAfter) :
    LeaseChange session host sessionAfter hostAfter := by
  have earlier := keeps.heldUiLease_eq
  cases change with
  | kept stored held =>
    apply LeaseChange.kept stored
    intro tested
    rw [held, earlier]
  | acquired seat token free stored held =>
    apply LeaseChange.acquired seat token _ stored
    · intro tested
      rw [held, earlier]
    · rw [← earlier]
      exact free
  | released seat token owned stored held =>
    apply LeaseChange.released seat token owned stored
    intro tested
    rw [held, earlier]

/-- What a request leaves, as far as the UI leases are concerned. -/
structure LeaseEffect (session : HostConnectionSession) (host : RuntimeHost)
    (served : Served) : Prop where
  numbered : served.services.host.controller.Numbered
  change : LeaseChange session host served.session served.services.host

namespace HostConnectionSession

variable {self : HostConnectionSession} {services : HostServices}

theorem uiLease_eq_some {seatId : UInt32} {token : ActivationToken}
    (stored : self.uiLease seatId = some token) :
    ∃ seat, Seat.ofId? seatId = some seat ∧ self.uiLeases.get seat = some token := by
  unfold uiLease at stored
  exact Option.bind_eq_some_iff.mp stored

theorem setUiLease_of_named (self : HostConnectionSession) {seatId : UInt32} {seat : Seat}
    (named : Seat.ofId? seatId = some seat)
    (lease : Option ActivationToken) :
    self.setUiLease seatId lease = { self with uiLeases := self.uiLeases.set seat lease } := by
  unfold setUiLease
  rw [named]

theorem leaseEffect_of_keeps (current : Current self services.host) {served : Served}
    (same : served.session.uiLeases = self.uiLeases)
    (keeps : RuntimeHost.KeepsUiLeases services.host served.services.host) :
    LeaseEffect self services.host served where
  numbered := keeps.numbered current.numbered
  change := .kept same keeps.heldUiLease_eq

structure Reads (session : HostConnectionSession)
    (services : HostServices) (served : Served) : Prop where
  sameSession : served.session = session
  sameServices : served.services = services

theorem Reads.leaseEffect {served : Served} (reads : Reads self services served)
    (current : Current self services.host) :
    LeaseEffect self services.host served := by
  apply leaseEffect_of_keeps current
  · rw [reads.sameSession]
  · rw [reads.sameServices]
    exact RuntimeHost.KeepsUiLeases.refl services.host

theorem reads_refuseWith (request : Frame) (code : ErrorCode) (diagnostic : ByteString) :
    Reads self services (self.refuseWith services request code diagnostic) :=
  ⟨rfl, rfl⟩

theorem reads_refuse (request : Frame) (code : ErrorCode) (text : String) :
    Reads self services (self.refuse services request code text) :=
  ⟨rfl, rfl⟩

theorem reads_answer (request : Frame) (type : MessageType) (payload : ByteString) :
    Reads self services (self.answer services request type payload) :=
  ⟨rfl, rfl⟩

section Queries

variable (self services) (surroundings : Surroundings) (request : Frame)

theorem getSnapshot_reads : Reads self services (self.getSnapshot services request) := by
  unfold getSnapshot
  split
  · exact reads_refuse request _ _
  · exact reads_answer request _ _

theorem getHardwareInventory_reads :
    Reads self services (self.getHardwareInventory services surroundings request) := by
  unfold getHardwareInventory
  split
  · exact reads_refuse request _ _
  split
  · exact reads_refuse request _ _
  · dsimp only
    split
    · exact reads_refuse request _ _
    · exact reads_answer request _ _

theorem getSeatHardware_reads : Reads self services (self.getSeatHardware services request) := by
  unfold getSeatHardware
  split
  · exact reads_refuse request _ _
  split
  · exact reads_refuse request _ _
  · split
    · exact reads_refuse request _ _
    · exact reads_answer request _ _

theorem getGameCatalog_reads :
    Reads self services (self.getGameCatalog services surroundings request) := by
  unfold getGameCatalog
  split
  · exact reads_refuse request _ _
  split
  · exact reads_refuseWith request _ _
  · dsimp only
    split
    · exact reads_refuse request _ _
    · exact reads_answer request _ _

theorem getSeatRuntimeInfo_reads :
    Reads self services (self.getSeatRuntimeInfo services request) := by
  unfold getSeatRuntimeInfo
  split
  · exact reads_refuse request _ _
  split
  · exact reads_refuse request _ _
  · dsimp only
    split
    · exact reads_refuse request _ _
    · exact reads_answer request _ _

theorem getInputActivity_reads : Reads self services (self.getInputActivity services request) := by
  unfold getInputActivity
  split
  · exact reads_refuse request _ _
  split
  · exact reads_refuse request _ _
  · dsimp only
    split
    · exact reads_refuse request _ _
    · exact reads_answer request _ _

theorem ping_reads : Reads self services (self.ping services request) := by
  unfold ping
  split
  · exact reads_refuse request _ _
  · exact reads_answer request _ _

theorem routeAudio_reads : Reads self services (self.routeAudio services surroundings request) := by
  unfold routeAudio
  split
  · exact reads_refuse request _ _
  dsimp only
  split
  · exact reads_refuse request _ _
  split
  · exact reads_refuse request _ _
  · split
    · exact ⟨rfl, rfl⟩
    · exact reads_refuse request _ _

theorem resetAudio_reads : Reads self services (self.resetAudio services surroundings request) := by
  unfold resetAudio
  split
  · exact reads_refuse request _ _
  dsimp only
  split
  · exact reads_refuse request _ _
  · split
    · exact reads_refuse request _ _
    · exact ⟨rfl, rfl⟩

end Queries

section Mutations

variable (current : Current self services.host) (surroundings : Surroundings) (request : Frame)

include current

theorem acquireUiLease_leaseEffect :
    LeaseEffect self services.host (self.acquireUiLease services request) := by
  unfold acquireUiLease
  cases decodeSeatRequest request.payload with
  | none => exact (reads_refuse request _ _).leaseEffect current
  | some requestValue =>
    dsimp only
    by_cases owned : (self.uiLease requestValue.seatId).isSome = true
    · rw [if_pos owned]
      exact (reads_refuse request _ _).leaseEffect current
    rw [if_neg owned]
    cases services.host.acquireUiLease_cases current.numbered requestValue.seatId with
    | inl refused =>
      have invalid := refused.1
      have unchanged := refused.2
      rw [invalid, if_pos Bool.not_false]
      apply leaseEffect_of_keeps current rfl
      apply RuntimeHost.KeepsUiLeases.of_controller_eq
      exact congrArg RuntimeHost.controller unchanged
    | inr accepted =>
      obtain ⟨seat, named, opened⟩ := accepted
      have seatNamed : Seat.ofId? requestValue.seatId = some seat := by
        rw [named]
        exact Seat.ofId?_id seat
      have valid := opened.token_valid
      rw [valid, if_neg (by decide), self.setUiLease_of_named seatNamed]
      exact
        { numbered := opened.numbered
          change := .acquired seat _ opened.free rfl opened.held }

theorem releaseUiLease_leaseEffect :
    LeaseEffect self services.host (self.releaseUiLease services request) := by
  unfold releaseUiLease
  cases decodeSeatRequest request.payload with
  | none => exact (reads_refuse request _ _).leaseEffect current
  | some requestValue =>
    dsimp only
    cases owned : self.uiLease requestValue.seatId with
    | none => exact (reads_refuse request _ _).leaseEffect current
    | some token =>
      obtain ⟨seat, named, stored⟩ := uiLease_eq_some owned
      have held := current.held seat token stored
      obtain ⟨released, numbered, heldAfter⟩ :=
        services.host.releaseUiLease_held current.numbered held
      dsimp only
      rw [released, if_neg (by decide), self.setUiLease_of_named named]
      exact { numbered := numbered, change := .released seat token stored rfl heldAfter }

theorem assignSeatHardware_leaseEffect :
    LeaseEffect self services.host (self.assignSeatHardware services surroundings request) := by
  have configured (lease : ActivationToken) (assignment : SeatHardwareConfiguration) :=
    services.host.configureSeatHardware_keeps lease assignment
      surroundings.detected surroundings.save
  unfold assignSeatHardware
  split
  · exact (reads_refuse request _ _).leaseEffect current
  split
  · exact (reads_refuse request _ _).leaseEffect current
  next assignment _ lease _ =>
    split
    · exact (reads_refuse request _ _).leaseEffect current
    dsimp only
    split
    · exact leaseEffect_of_keeps current rfl (configured _ _)
    split
    · exact leaseEffect_of_keeps current rfl (configured _ _)
    · split
      · exact leaseEffect_of_keeps current rfl (configured _ _)
      · exact leaseEffect_of_keeps current rfl (configured _ _)

theorem pairController_leaseEffect :
    LeaseEffect self services.host (self.pairController services surroundings request) := by
  have paired (lease : ActivationToken) (pair : ControllerPairRequest) :=
    services.host.pairController_keeps lease pair.persistentControllerId
      pair.runtimeXInputSlot surroundings.scanned
  unfold pairController
  split
  · exact (reads_refuse request _ _).leaseEffect current
  split
  · exact (reads_refuse request _ _).leaseEffect current
  · dsimp only
    split
    · exact leaseEffect_of_keeps current rfl (paired _ _)
    · exact leaseEffect_of_keeps current rfl (paired _ _)

theorem launchGame_leaseEffect :
    LeaseEffect self services.host (self.launchGame services surroundings request) := by
  have launched (profile : GameProfile) (seatId : UInt32) :
      RuntimeHost.KeepsUiLeases services.host
        (services.launchGameForWorkspace profile seatId surroundings.detected surroundings.scanned
          surroundings.launch).2.host :=
    services.launchGameForWorkspace_keeps profile seatId
      surroundings.detected surroundings.scanned surroundings.launch
  unfold launchGame
  split
  · exact (reads_refuse request _ _).leaseEffect current
  split
  · exact (reads_refuse request _ _).leaseEffect current
  split
  · exact (reads_refuse request _ _).leaseEffect current
  dsimp only
  split
  · exact (reads_refuse request _ _).leaseEffect current
  · split
    · exact leaseEffect_of_keeps current rfl (launched _ _)
    · apply leaseEffect_of_keeps current rfl
      exact (launched _ _).trans (RuntimeHost.setSeatGamePresentation_keeps _ _ _ _)

theorem stopGame_leaseEffect :
    LeaseEffect self services.host (self.stopGame services surroundings request) := by
  have stopped (seatId : UInt32) :
      RuntimeHost.KeepsUiLeases services.host
        (services.stopWorkspaceGame seatId surroundings.stop).2.host :=
    services.stopWorkspaceGame_keeps seatId surroundings.stop
  unfold stopGame
  split
  · exact (reads_refuse request _ _).leaseEffect current
  split
  · exact (reads_refuse request _ _).leaseEffect current
  split
  · exact (reads_refuse request _ _).leaseEffect current
  · dsimp only
    split
    · exact leaseEffect_of_keeps current rfl (stopped _)
    · exact leaseEffect_of_keeps current rfl (stopped _)

end Mutations

/-- The Seat that a request would change.  An audio request names a process
and is about the Seat that runs it. -/
def requestedSeat (host : RuntimeHost) (request : Frame) : Option Seat :=
  match request.type with
  | .releaseUiLease =>
    (decodeSeatRequest request.payload).bind fun requestValue => Seat.ofId? requestValue.seatId
  | .assignSeatHardware =>
    (decodeSeatHardwareAssignment request.payload).bind
      fun assignment => Seat.ofId? assignment.seatId
  | .pairController =>
    (decodeControllerPairRequest request.payload).bind fun pair => Seat.ofId? pair.seatId
  | .launchGame =>
    (decodeLaunchGameRequest request.payload).bind fun launch => Seat.ofId? launch.seatId
  | .stopGame => (decodeSeatRequest request.payload).bind fun stop => Seat.ofId? stop.seatId
  | .routeAudio =>
    (decodeAudioRouteRequest request.payload).bind fun route =>
      host.seatForProcess
        { pid := route.process.processId, creationIdentity := route.process.creationIdentity }
  | .resetAudio =>
    (decodeProcessRequest request.payload).bind fun reset =>
      host.seatForProcess { pid := reset.processId, creationIdentity := reset.creationIdentity }
  | _ => none

/-- The requests that change a Seat that is leased already. -/
def changesSeat (type : MessageType) : Bool :=
  type == .releaseUiLease || type == .assignSeatHardware ||
    type == .pairController || type == .launchGame ||
    type == .stopGame || type == .routeAudio || type == .resetAudio

/-- The session stores the token of the Seat that the request is about. -/
def HoldsRequestedSeat (self : HostConnectionSession)
    (host : RuntimeHost) (request : Frame) : Prop :=
  ∃ seat token, requestedSeat host request = some seat ∧ self.uiLeases.get seat = some token

/-- Without the token of the Seat the answer is an error. -/
def Guarded (self : HostConnectionSession) (host : RuntimeHost)
    (request : Frame) (served : Served) : Prop :=
  served.response.type ≠ .error → HoldsRequestedSeat self host request

section Guards

variable {request : Frame}

theorem guarded_refuse {code : ErrorCode} {text : String} :
    Guarded self services.host request (self.refuse services request code text) :=
  fun notError => absurd rfl notError

theorem holdsRequestedSeat_of_uiLease {host : RuntimeHost} (seatId : UInt32)
    (asked : requestedSeat host request = Seat.ofId? seatId)
    (owned : (self.uiLease seatId).isSome = true) :
    HoldsRequestedSeat self host request := by
  obtain ⟨token, stored⟩ := Option.isSome_iff_exists.mp owned
  obtain ⟨seat, named, stored⟩ := uiLease_eq_some stored
  exact ⟨seat, token, asked.trans named, stored⟩

theorem holdsRequestedSeat_of_processLease {process : ProcessIdentity} {token : ActivationToken}
    (asked : requestedSeat services.host request = services.host.seatForProcess process)
    (stored : self.processLease services process = some token) :
    HoldsRequestedSeat self services.host request := by
  obtain ⟨seat, owner, stored⟩ := Option.bind_eq_some_iff.mp stored
  exact ⟨seat, token, asked.trans owner, stored⟩

variable (self services) (surroundings : Surroundings)

theorem releaseUiLease_guarded (type : request.type = .releaseUiLease) :
    Guarded self services.host request (self.releaseUiLease services request) := by
  unfold releaseUiLease
  cases decoded : decodeSeatRequest request.payload with
  | none => exact guarded_refuse
  | some requestValue =>
    dsimp only
    cases owned : self.uiLease requestValue.seatId with
    | none => exact guarded_refuse
    | some token =>
      intro _
      apply holdsRequestedSeat_of_uiLease requestValue.seatId
      · simp only [requestedSeat, type, decoded, Option.bind_some]
      · rw [owned]
        rfl

theorem assignSeatHardware_guarded (type : request.type = .assignSeatHardware) :
    Guarded self services.host request (self.assignSeatHardware services surroundings request) := by
  unfold assignSeatHardware
  cases decoded : decodeSeatHardwareAssignment request.payload with
  | none => exact guarded_refuse
  | some assignment =>
    dsimp only
    cases owned : self.uiLease assignment.seatId with
    | none => exact guarded_refuse
    | some token =>
      intro _
      apply holdsRequestedSeat_of_uiLease assignment.seatId
      · simp only [requestedSeat, type, decoded, Option.bind_some]
      · rw [owned]
        rfl

theorem pairController_guarded (type : request.type = .pairController) :
    Guarded self services.host request (self.pairController services surroundings request) := by
  unfold pairController
  cases decoded : decodeControllerPairRequest request.payload with
  | none => exact guarded_refuse
  | some pair =>
    dsimp only
    cases owned : self.uiLease pair.seatId with
    | none => exact guarded_refuse
    | some token =>
      intro _
      apply holdsRequestedSeat_of_uiLease pair.seatId
      · simp only [requestedSeat, type, decoded, Option.bind_some]
      · rw [owned]
        rfl

theorem launchGame_guarded (type : request.type = .launchGame) :
    Guarded self services.host request (self.launchGame services surroundings request) := by
  unfold launchGame
  cases decoded : decodeLaunchGameRequest request.payload with
  | none => exact guarded_refuse
  | some launch =>
    dsimp only
    by_cases missing : (self.uiLease launch.seatId).isNone = true
    · rw [if_pos missing]
      exact guarded_refuse
    · intro _
      apply holdsRequestedSeat_of_uiLease launch.seatId
      · simp only [requestedSeat, type, decoded, Option.bind_some]
      · exact Option.isSome_iff_ne_none.mpr (mt Option.isNone_iff_eq_none.mpr missing)

theorem stopGame_guarded (type : request.type = .stopGame) :
    Guarded self services.host request (self.stopGame services surroundings request) := by
  unfold stopGame
  cases decoded : decodeSeatRequest request.payload with
  | none => exact guarded_refuse
  | some stop =>
    dsimp only
    by_cases missing : (self.uiLease stop.seatId).isNone = true
    · rw [if_pos missing]
      exact guarded_refuse
    · intro _
      apply holdsRequestedSeat_of_uiLease stop.seatId
      · simp only [requestedSeat, type, decoded, Option.bind_some]
      · exact Option.isSome_iff_ne_none.mpr (mt Option.isNone_iff_eq_none.mpr missing)

theorem routeAudio_guarded (type : request.type = .routeAudio) :
    Guarded self services.host request (self.routeAudio services surroundings request) := by
  unfold routeAudio
  cases decoded : decodeAudioRouteRequest request.payload with
  | none => exact guarded_refuse
  | some route =>
    dsimp only
    split
    · exact guarded_refuse
    next owned =>
      intro _
      apply holdsRequestedSeat_of_processLease _ owned
      simp only [requestedSeat, type, decoded, Option.bind_some]

theorem resetAudio_guarded (type : request.type = .resetAudio) :
    Guarded self services.host request (self.resetAudio services surroundings request) := by
  unfold resetAudio
  cases decoded : decodeProcessRequest request.payload with
  | none => exact guarded_refuse
  | some reset =>
    dsimp only
    split
    · exact guarded_refuse
    next owned =>
      intro _
      apply holdsRequestedSeat_of_processLease _ owned
      simp only [requestedSeat, type, decoded, Option.bind_some]

end Guards

section Requests

variable (surroundings : Surroundings) (request : Frame)

theorem serve_leaseEffect (current : Current self services.host) :
    LeaseEffect self services.host (self.serve services surroundings request) := by
  unfold serve
  split
  · exact (reads_refuse request _ _).leaseEffect current
  · exact (self.getSnapshot_reads services request).leaseEffect current
  · exact (self.getHardwareInventory_reads services surroundings request).leaseEffect current
  · exact (self.getSeatHardware_reads services request).leaseEffect current
  · exact (self.getGameCatalog_reads services surroundings request).leaseEffect current
  · exact (self.getSeatRuntimeInfo_reads services request).leaseEffect current
  · exact (self.getInputActivity_reads services request).leaseEffect current
  · exact (self.ping_reads services request).leaseEffect current
  · exact acquireUiLease_leaseEffect current request
  · exact releaseUiLease_leaseEffect current request
  · exact assignSeatHardware_leaseEffect current surroundings request
  · exact pairController_leaseEffect current surroundings request
  · exact (self.routeAudio_reads services surroundings request).leaseEffect current
  · exact (self.resetAudio_reads services surroundings request).leaseEffect current
  · exact launchGame_leaseEffect current surroundings request
  · exact stopGame_leaseEffect current surroundings request
  · exact (reads_refuse request _ _).leaseEffect current

theorem serve_guarded (changes : changesSeat request.type = true) :
    Guarded self services.host request (self.serve services surroundings request) := by
  unfold serve
  cases type : request.type with
  | releaseUiLease => exact self.releaseUiLease_guarded services type
  | assignSeatHardware => exact self.assignSeatHardware_guarded services surroundings type
  | pairController => exact self.pairController_guarded services surroundings type
  | launchGame => exact self.launchGame_guarded services surroundings type
  | stopGame => exact self.stopGame_guarded services surroundings type
  | routeAudio => exact self.routeAudio_guarded services surroundings type
  | resetAudio => exact self.resetAudio_guarded services surroundings type
  | _ =>
    rw [type] at changes
    exact absurd changes (by simp [changesSeat])

theorem serve_reads (query : isMutatingRequest request.type = false) :
    Reads self services (self.serve services surroundings request) := by
  unfold serve
  cases type : request.type with
  | getSnapshot => exact self.getSnapshot_reads services request
  | getHardwareInventory => exact self.getHardwareInventory_reads services surroundings request
  | getSeatHardware => exact self.getSeatHardware_reads services request
  | getGameCatalog => exact self.getGameCatalog_reads services surroundings request
  | getSeatRuntimeInfo => exact self.getSeatRuntimeInfo_reads services request
  | getInputActivity => exact self.getInputActivity_reads services request
  | ping => exact self.ping_reads services request
  | acquireUiLease | releaseUiLease | assignSeatHardware | pairController | routeAudio
  | resetAudio | launchGame | stopGame =>
    rw [type] at query
    cases query
  | _ => exact reads_refuse request _ _

variable (self services)

theorem handleHello_services : (self.handleHello services request).services = services := by
  unfold handleHello
  split
  · rfl
  · split <;> rfl

theorem handleHello_uiLeases :
    (self.handleHello services request).session.uiLeases = self.uiLeases := by
  unfold handleHello
  split
  · rfl
  · split <;> rfl

theorem reconciled_keeps :
    HostServices.KeepsUiLeases services (self.reconciled services surroundings) := by
  unfold reconciled
  split
  · exact services.reapExitedGames_keeps surroundings.reap
  · exact RuntimeHost.KeepsUiLeases.refl services.host

variable {self services}

theorem handle_leaseEffect (current : Current self services.host) :
    LeaseEffect self services.host (self.handle services surroundings request) := by
  have unchanged : RuntimeHost.KeepsUiLeases services.host services.host := .refl services.host
  have reconciled := self.reconciled_keeps services surroundings
  unfold handle
  split
  · exact leaseEffect_of_keeps current rfl unchanged
  split
  · apply leaseEffect_of_keeps current
    · exact self.handleHello_uiLeases services request
    · rw [handleHello_services]
      exact unchanged
  · split
    · exact leaseEffect_of_keeps current rfl unchanged
    · have effect := serve_leaseEffect surroundings request (current.of_keeps reconciled)
      exact ⟨effect.numbered, effect.change.after_keeps reconciled⟩

/-- Only a session in the control role that stores the token of the Seat
gets through to the Seat. -/
theorem handle_authorized (changes : changesSeat request.type = true)
    (accepted : (self.handle services surroundings request).response.type ≠ .error) :
    self.helloComplete = true ∧ self.role = .control ∧
      HoldsRequestedSeat self (self.reconciled services surroundings).host request := by
  have mutating : isMutatingRequest request.type = true := by
    revert changes
    cases request.type with
    | unnamed value => simp [changesSeat]
    | _ => decide
  have notHello : request.type ≠ .hello := by
    intro hello
    rw [hello] at changes
    exact absurd changes (by decide)
  unfold handle at accepted
  by_cases zero : request.correlationId = 0
  · rw [if_pos zero] at accepted
    exact absurd rfl accepted
  rw [if_neg zero] at accepted
  cases complete : self.helloComplete with
  | false =>
    rw [complete, if_pos Bool.not_false] at accepted
    unfold handleHello at accepted
    rw [if_pos notHello] at accepted
    exact absurd rfl accepted
  | true =>
    rw [complete, if_neg (by decide), mutating, Bool.true_and] at accepted
    by_cases control : self.role = .control
    · rw [control, if_neg (by decide)] at accepted
      exact ⟨rfl, control, serve_guarded surroundings request changes accepted⟩
    · rw [if_pos (bne_iff_ne.mpr control)] at accepted
      exact absurd rfl accepted

theorem handle_beforeHello (before : self.helloComplete = false) :
    (self.handle services surroundings request).services = services := by
  unfold handle
  split
  · rfl
  · rw [before, if_pos Bool.not_false]
    exact self.handleHello_services services request

/-- A session in the read-only role only lets exited games be
reconciled. -/
theorem handle_readOnly (complete : self.helloComplete = true) (readOnly : self.role ≠ .control) :
    (self.handle services surroundings request).services = services ∨
      (self.handle services surroundings request).services =
        self.reconciled services surroundings := by
  unfold handle
  split
  · exact Or.inl rfl
  rw [complete, if_neg (by decide)]
  split
  · exact Or.inl rfl
  next allowed =>
    have query : isMutatingRequest request.type = false := by
      rw [bne_iff_ne.mpr readOnly, Bool.and_true] at allowed
      exact Bool.eq_false_iff.mpr allowed
    exact Or.inr (serve_reads surroundings request query).sameServices

end Requests

theorem releaseSeat_held {host : RuntimeHost} {seat : Seat} (numbered : host.controller.Numbered)
    (current : ∀ token, self.uiLeases.get seat = some token → host.heldUiLease seat = some token) :
    (self.releaseSeat host seat).controller.Numbered ∧
      ∀ tested, (self.releaseSeat host seat).heldUiLease tested =
        if tested = seat ∧ (self.uiLeases.get seat).isSome = true then none
        else host.heldUiLease tested := by
  unfold releaseSeat
  cases stored : self.uiLeases.get seat with
  | none =>
    refine ⟨numbered, ?_⟩
    intro tested
    simp
  | some token =>
    have held := current token stored
    obtain ⟨_, numberedAfter, heldAfter⟩ := host.releaseUiLease_held numbered held
    refine ⟨numberedAfter, ?_⟩
    intro tested
    dsimp only
    rw [heldAfter]
    simp

theorem destroy_held (current : Current self services.host) :
    (self.destroy services).host.controller.Numbered ∧
      ∀ seat, (self.destroy services).host.heldUiLease seat =
        if (self.uiLeases.get seat).isSome = true then none
        else services.host.heldUiLease seat := by
  obtain ⟨numberedFirst, heldFirst⟩ := releaseSeat_held current.numbered (current.held .first)
  have currentSecond :
      ∀ token, self.uiLeases.get .second = some token →
        (self.releaseSeat services.host .first).heldUiLease .second = some token := by
    intro token stored
    rw [heldFirst, if_neg (by simp)]
    exact current.held .second token stored
  obtain ⟨numberedSecond, heldSecond⟩ := releaseSeat_held numberedFirst currentSecond
  refine ⟨numberedSecond, ?_⟩
  intro seat
  unfold destroy
  dsimp only
  rw [heldSecond, heldFirst]
  cases seat with
  | first | second => simp

end HostConnectionSession

end HydraSeat.HostIpc
