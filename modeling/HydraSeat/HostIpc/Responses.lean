import HydraSeat.HostIpc.CodecLaws
import HydraSeat.HostIpc.Session
import HydraSeat.Runtime.Coherence
import HydraSeat.UnicodeLaws

/-!
# Responses that their decoder accepts

Every response names its request, has the type that answers it or is an
error, and carries a payload of that type.  An error payload has room for a
bounded diagnostic only, and a stored configuration can be longer than the
protocol allows; both go out as the empty payload.
-/

namespace HydraSeat.HostIpc

section

open Foundation
open HydraSeat.Runtime RuntimeHost

/-- The relations that a snapshot of a Seat has to meet. -/
@[mk_iff]
structure ConsistentSeat (seat : SeatSnapshot) (expectedSeatId : UInt32) : Prop where
  seatId : seat.seatId = expectedSeatId
  lease : seat.active = (seat.uiLeaseActive || seat.gameLeaseActive)
  numbered : seat.active = true → seat.generation ≠ 0
  controller : seat.controllerBound = true → seat.active = true
  process : seat.processOwned = true → seat.gameLeaseActive = true
  window : seat.windowOwned = true → seat.processOwned = true
  present : seat.processOwned = true → seat.processId ≠ 0 ∧ seat.processCreationIdentity ≠ 0
  absent : seat.processOwned = false → seat.processId = 0 ∧ seat.processCreationIdentity = 0
  target : seat.windowOwned = true ↔ seat.targetHwnd ≠ 0

theorem validSeatSnapshot_iff (seat : SeatSnapshot) (expectedSeatId : UInt32) :
    validSeatSnapshot seat expectedSeatId = true ↔ ConsistentSeat seat expectedSeatId := by
  obtain ⟨seatId, generation, active, uiLeaseActive, gameLeaseActive,
    processOwned, windowOwned, controllerBound, processId,
    processCreationIdentity, targetHwnd⟩ := seat
  rw [consistentSeat_iff]
  unfold validSeatSnapshot
  dsimp only
  by_cases same : seatId = expectedSeatId
  · cases active <;> cases uiLeaseActive <;> cases gameLeaseActive <;>
      cases processOwned <;> cases windowOwned <;>
        cases controllerBound <;> simp [same, and_assoc]
  · simp [same]

theorem consistentSeat_of_coherent {seatId : UInt32}
    {runtime : SeatRuntime seatId} (coherent : runtime.Coherent) :
    ConsistentSeat (toHostSnapshot runtime.snapshot) seatId where
  seatId := rfl
  lease := rfl
  numbered := coherent.numbered
  controller := coherent.controller
  process := by
    intro owned
    have present : runtime.process.isSome = true := owned
    obtain ⟨process, held⟩ := Option.isSome_iff_exists.mp present
    exact (coherent.process process held).1
  window := by
    intro owned
    have nonzero : runtime.targetHwnd ≠ 0 := bne_iff_ne.mp owned
    exact coherent.window nonzero
  present := by
    intro owned
    have present : runtime.process.isSome = true := owned
    obtain ⟨process, held⟩ := Option.isSome_iff_exists.mp present
    have valid := (coherent.process process held).2
    rw [ProcessIdentity.valid, Bool.and_eq_true, bne_iff_ne, bne_iff_ne] at valid
    simp only [toHostSnapshot, SeatRuntime.snapshot, held, Option.map_some, Option.getD_some]
    exact valid
  absent := by
    intro free
    have missing : runtime.process = none :=
      Option.isSome_eq_false_iff.mp free |> Option.isNone_iff_eq_none.mp
    simp only [toHostSnapshot, SeatRuntime.snapshot, missing,
      Option.map_none, Option.getD_none, and_self]
  target := bne_iff_ne

/-- A coherent host has a snapshot that its own decoder accepts. -/
structure Sendable (host : RuntimeHost) : Prop where
  encodes : encodeSnapshot host.snapshot ≠ []
  decodes : decodeSnapshot (encodeSnapshot host.snapshot) = some host.snapshot
  seat1 : ConsistentSeat host.snapshot.seat1 1
  seat2 : ConsistentSeat host.snapshot.seat2 2

theorem sendable_of_coherent {host : RuntimeHost} (coherent : host.Coherent) : Sendable host := by
  have seat1 : ConsistentSeat host.snapshot.seat1 1 :=
    consistentSeat_of_coherent (coherent.controller .first)
  have seat2 : ConsistentSeat host.snapshot.seat2 2 :=
    consistentSeat_of_coherent (coherent.controller .second)
  have valid1 := (validSeatSnapshot_iff _ _).mpr seat1
  have valid2 := (validSeatSnapshot_iff _ _).mpr seat2
  have revision : host.snapshot.authorityRevision ≠ 0 := coherent.revision
  have written : encodeSnapshot host.snapshot = writeSnapshot host.snapshot := by
    simp [encodeSnapshot, revision, valid1, valid2]
  have encodes : encodeSnapshot host.snapshot ≠ [] := by
    rw [written]
    apply List.ne_nil_of_length_pos
    simp [writeSnapshot]
  exact
    { encodes := encodes, decodes := snapshot_exact.decode_encode _ encodes, seat1 := seat1
      seat2 := seat2 }

/-- Every state that a host reaches can be sent. -/
theorem runFrom_sendable (seatHardwareStore : Bool) (operations : List HostOperation) :
    Sendable (runFrom step (created seatHardwareStore) operations) := by
  have start := coherent_created seatHardwareStore
  exact sendable_of_coherent (start.runFrom operations)

end

open Foundation
open HydraSeat.Runtime List RuntimeHost

/-- The decoder that a client runs on a response accepts the payload. -/
def decodesAs (type : MessageType) (payload : ByteString) : Bool :=
  match type with
  | .helloAck => (decodeHelloAck payload).isSome
  | .snapshot => (decodeSnapshot payload).isSome
  | .acquireUiLeaseResult => (decodeSnapshot payload).isSome
  | .releaseUiLeaseResult => (decodeSnapshot payload).isSome
  | .pairControllerResult => (decodeSnapshot payload).isSome
  | .launchGameResult => (decodeSnapshot payload).isSome
  | .stopGameResult => (decodeSnapshot payload).isSome
  | .pong => (decodePing payload).isSome
  | .hardwareInventory => (decodeHardwareInventory payload).isSome
  | .seatHardware => (decodeSeatHardwareAssignment payload).isSome
  | .assignSeatHardwareResult => (decodeSeatHardwareAssignment payload).isSome
  | .gameCatalog => (decodeGameCatalog payload).isSome
  | .seatRuntimeInfo => (decodeSeatRuntimeInfo payload).isSome
  | .inputActivity => (decodeInputActivitySnapshot payload).isSome
  | .routeAudioResult => (decodeAudioMutationResult payload).isSome
  | .resetAudioResult => (decodeAudioMutationResult payload).isSome
  | .error => (decodeError payload).isSome
  | _ => false

structure WellFormed (request response : Frame) : Prop where
  correlationId : response.correlationId = request.correlationId
  type : response.type = responseTypeFor request.type ∨ response.type = .error
  payload : decodesAs response.type response.payload = true

def DiagnosticFits (diagnostic : ByteString) : Prop :=
  diagnostic.length ≤ kHostProtocolMaxDiagnosticBytes

/-! ## Error responses -/

theorem isSome_decode {Value : Type} {encode : Value → ByteString}
    {decode : ByteString → Option Value} (exact_ : ExactCodec encode decode)
    {value : Value} (encodes : encode value ≠ []) :
    (decode (encode value)).isSome = true := by
  rw [exact_.decode_encode value encodes]
  rfl

theorem errorFrame_wellFormed_iff (request : Frame) {code : ErrorCode} (known : code ≠ .none)
    (diagnostic : ByteString) :
    WellFormed request (errorFrame request.correlationId code diagnostic) ↔
      DiagnosticFits diagnostic := by
  have decodes :
      (decodeError (encodeError ⟨code, diagnostic⟩)).isSome = true ↔ DiagnosticFits diagnostic := by
    unfold DiagnosticFits
    by_cases long : diagnostic.length > kHostProtocolMaxDiagnosticBytes
    · have empty : encodeError ⟨code, diagnostic⟩ = [] := by
        simp [encodeError, long]
      rw [empty]
      apply iff_of_false
      · decide
      · omega
    · have written : encodeError ⟨code, diagnostic⟩ = writeError ⟨code, diagnostic⟩ := by
        simp [encodeError, known, long]
      apply iff_of_true
      · apply isSome_decode error_exact
        rw [written]
        apply ne_nil_of_length_pos
        simp only [writeError, length_append, writeU16_length]
        omega
      · omega
  constructor
  · intro wellFormed
    exact decodes.mp wellFormed.payload
  · intro fits
    exact { correlationId := rfl, type := Or.inr rfl, payload := decodes.mpr fits }

/-- The texts of the source are literals, and each one fits. -/
theorem literal_fits {characters : List Char}
    (short : characters.length ≤ kHostProtocolMaxDiagnosticBytes) :
    DiagnosticFits (bytesOf (String.ofList characters)) := by
  simpa [DiagnosticFits, bytesOf] using short

theorem literals_fit {first second : List Char}
    (short : (first ++ second).length ≤ kHostProtocolMaxDiagnosticBytes) :
    DiagnosticFits (bytesOf (String.ofList first ++ String.ofList second)) := by
  rw [← String.ofList_append]
  exact literal_fits short

theorem diagnosticOr_fits_iff {text : String}
    (short : DiagnosticFits (bytesOf text)) (diagnostic : ByteString) :
    DiagnosticFits (diagnosticOr diagnostic text) ↔ DiagnosticFits diagnostic := by
  unfold diagnosticOr
  by_cases empty : diagnostic.isEmpty = true
  · rw [if_pos empty]
    apply iff_of_true short
    rw [isEmpty_iff.mp empty]
    exact Nat.zero_le _
  · rw [if_neg empty]

/-- An assignment with valid ids is never too long. -/
theorem encodeSeatHardwareAssignment_ne_nil {assignment : SeatHardwareAssignment}
    (valid : validSeatHardwareAssignment assignment = true) :
    encodeSeatHardwareAssignment assignment ≠ [] := by
  have bounded {value : ByteString}
      (validValue : validUtf8 value kHostProtocolMaxHardwareDeviceIdBytes true = true) :
      value.length ≤ 4096 :=
    validUtf8_length validValue
  have parts := valid
  simp only [validSeatHardwareAssignment, Bool.and_eq_true] at parts
  obtain ⟨⟨⟨⟨_, display⟩, keyboard⟩, mouse⟩, controller⟩ := parts
  have length1 := bounded display
  have length2 := bounded keyboard
  have length3 := bounded mouse
  have length4 := bounded controller
  have short :
      ¬ (writeSeatHardwareAssignment assignment).length > kHostProtocolMaxPayloadBytes := by
    simp [writeSeatHardwareAssignment, kHostProtocolMaxPayloadBytes]
    omega
  have written :
      encodeSeatHardwareAssignment assignment = writeSeatHardwareAssignment assignment := by
    simp [encodeSeatHardwareAssignment, valid, short]
  rw [written]
  apply ne_nil_of_length_pos
  simp only [writeSeatHardwareAssignment, length_append, writeU32_length]
  omega

namespace HostConnectionSession

/-! ## Refusals and answers -/

section Answers

variable (self : HostConnectionSession) (services : HostServices) {request : Frame}
variable {code : ErrorCode} {text : String} {type : MessageType}

theorem refuseWith_wellFormed_iff (known : code ≠ .none)
    (short : DiagnosticFits (bytesOf text)) (diagnostic : ByteString) :
    WellFormed request
        (self.refuseWith services request code (diagnosticOr diagnostic text)).response ↔
      DiagnosticFits diagnostic := by
  rw [← diagnosticOr_fits_iff short diagnostic]
  exact errorFrame_wellFormed_iff request known _

theorem refuse_wellFormed (known : code ≠ .none) (short : DiagnosticFits (bytesOf text)) :
    WellFormed request (self.refuse services request code text).response :=
  (errorFrame_wellFormed_iff request known _).mpr short

theorem refuse_literal {self : HostConnectionSession} {services : HostServices}
    {characters : List Char} (known : code ≠ .none)
    (short : characters.length ≤ kHostProtocolMaxDiagnosticBytes) :
    WellFormed request (self.refuse services request code (String.ofList characters)).response :=
  refuse_wellFormed self services known (literal_fits short)

theorem refuse_literals {self : HostConnectionSession} {services : HostServices}
    {first second : List Char} (known : code ≠ .none)
    (short : (first ++ second).length ≤ kHostProtocolMaxDiagnosticBytes) :
    WellFormed request
      (self.refuse services request code (String.ofList first ++ String.ofList second)).response :=
  refuse_wellFormed self services known (literals_fit short)

theorem answer_wellFormed {payload : ByteString} (answers : type = responseTypeFor request.type)
    (decodes : decodesAs type payload = true) :
    WellFormed request (self.answer services request type payload).response where
  correlationId := rfl
  type := Or.inl answers
  payload := decodes

theorem answerSnapshot_wellFormed (coherent : services.host.Coherent)
    (answers : type = responseTypeFor request.type)
    (snapshot : ∀ payload, decodesAs type payload = (decodeSnapshot payload).isSome) :
    WellFormed request (self.answerSnapshot services request type).response := by
  have sendable := sendable_of_coherent coherent
  apply answer_wellFormed self services answers
  rw [snapshot, sendable.decodes]
  rfl

end Answers

/-! ## What the host and the services may report -/

section Conditions

variable (session : HostConnectionSession) (services : HostServices)
  (surroundings : Surroundings) (request : Frame)

/-- The stored configuration that the request asks for has a spelling in the
protocol, when it has one in UTF-8. -/
def StoredHardwareFits : Prop :=
  ∀ seatRequest configuration stored,
    decodeSeatRequest request.payload = some seatRequest →
      services.host.seatHardwareConfiguration seatRequest.seatId = some configuration →
        toProtocolSeatHardware configuration = some stored →
          validSeatHardwareAssignment stored = true

def DiscoveryErrorFits : Prop :=
  ∀ discoveryError,
    request.payload = [] →
      surroundings.steamCatalog = .error discoveryError → DiagnosticFits discoveryError

structure Assigns (lease : ActivationToken) (assignment : SeatHardwareAssignment)
    (configuration : SeatHardwareConfiguration) : Prop where
  decoded : decodeSeatHardwareAssignment request.payload = some assignment
  owned : session.uiLease assignment.seatId = some lease
  converted : toRuntimeSeatHardware assignment = some configuration

def ConfigurationErrorFits : Prop :=
  ∀ lease assignment configuration configurationError,
    session.Assigns request lease assignment configuration →
      (services.host.configureSeatHardware lease configuration
          surroundings.detected surroundings.save).1 =
        .error configurationError →
        DiagnosticFits configurationError

structure Launches (launch : LaunchGameRequest) (profile : GameProfile) : Prop where
  decoded : decodeLaunchGameRequest request.payload = some launch
  owned : (session.uiLease launch.seatId).isSome = true
  launcher : session.gameLauncher = true
  converted : launchProfile (launchTarget surroundings launch) launch = some profile

def LastErrorFits : Prop :=
  ∀ launch profile after,
    session.Launches surroundings request launch profile →
      services.launchGameForWorkspace profile launch.seatId
          surroundings.detected surroundings.scanned
          surroundings.launch = (false, after) →
        DiagnosticFits after.launcher.lastError

/-- What is reported for a request that is served fits a response. -/
def ReportFits : Prop :=
  match request.type with
  | .getSeatHardware => StoredHardwareFits services request
  | .getGameCatalog => DiscoveryErrorFits surroundings request
  | .assignSeatHardware => session.ConfigurationErrorFits services surroundings request
  | .launchGame => session.LastErrorFits services surroundings request
  | _ => True

/-- The request passes the handshake and the check of the role. -/
def Serves (request : Frame) : Prop :=
  session.helloComplete = true ∧
    (isMutatingRequest request.type && session.role != .control) = false

end Conditions

/-! ## The handlers -/

section Handlers

variable (self : HostConnectionSession) {services : HostServices}
  (surroundings : Surroundings) {request : Frame}
variable {assignment : SeatHardwareAssignment} {configuration : SeatHardwareConfiguration}

theorem handleHello_wellFormed :
    WellFormed request (self.handleHello services request).response := by
  unfold handleHello
  by_cases other : request.type ≠ .hello
  · rw [if_pos other]
    exact refuse_literal (by decide) (by decide)
  rw [if_neg other]
  rw [not_not] at other
  cases decodeHello request.payload with
  | none => exact refuse_literal (by decide) (by decide)
  | some hello =>
    apply answer_wellFormed
    · rw [other]
      rfl
    · apply isSome_decode helloAck_exact
      cases hello.role <;> decide

theorem getSnapshot_wellFormed (coherent : services.host.Coherent)
    (asked : request.type = .getSnapshot) :
    WellFormed request (self.getSnapshot services request).response := by
  unfold getSnapshot
  split
  · exact refuse_literal (by decide) (by decide)
  apply answerSnapshot_wellFormed self services coherent
  · rw [asked]
    rfl
  · intro payload
    rfl

theorem getHardwareInventory_wellFormed (asked : request.type = .getHardwareInventory) :
    WellFormed request (self.getHardwareInventory services surroundings request).response := by
  unfold getHardwareInventory
  split
  · exact refuse_literal (by decide) (by decide)
  split
  · exact refuse_literal (by decide) (by decide)
  next inventory converted =>
    dsimp only
    split
    · exact refuse_literal (by decide) (by decide)
    next encoded =>
      apply answer_wellFormed
      · rw [asked]
        rfl
      apply isSome_decode hardwareInventory_exact
      intro empty
      have devices : inventory.devices = [] := by
        simpa [empty] using encoded
      rw [encodeHardwareInventory, devices] at empty
      revert empty
      decide

theorem getSeatHardware_wellFormed_iff (asked : request.type = .getSeatHardware) :
    WellFormed request (self.getSeatHardware services request).response ↔
      StoredHardwareFits services request := by
  have refused {code : ErrorCode} {text : String} (known : code ≠ .none)
      (short : DiagnosticFits (bytesOf text))
      (nothing : StoredHardwareFits services request) :
      WellFormed request (self.refuse services request code text).response ↔
        StoredHardwareFits services request :=
    iff_of_true (self.refuse_wellFormed services known short) nothing
  unfold getSeatHardware
  cases decoded : decodeSeatRequest request.payload with
  | none =>
    apply refused (by decide) (literal_fits (by decide))
    intro seatRequest configuration stored found
    rw [decoded] at found
    cases found
  | some seatRequest =>
    dsimp only
    cases held : services.host.seatHardwareConfiguration seatRequest.seatId with
    | none =>
      apply refused (by decide) (literal_fits (by decide))
      intro other configuration stored found present
      rw [decoded] at found
      rw [← Option.some.inj found, held] at present
      cases present
    | some configuration =>
      dsimp only
      cases converted : toProtocolSeatHardware configuration with
      | none =>
        apply refused (by decide) (literal_fits (by decide))
        intro other same stored found present spelled
        rw [decoded] at found
        rw [← Option.some.inj found, held] at present
        rw [← Option.some.inj present, converted] at spelled
        cases spelled
      | some stored =>
        dsimp only
        constructor
        · intro wellFormed other same spelling found present spelled
          rw [decoded] at found
          rw [← Option.some.inj found, held] at present
          rw [← Option.some.inj present, converted] at spelled
          rw [← Option.some.inj spelled]
          by_contra invalid
          have empty : encodeSeatHardwareAssignment stored = [] := by
            simp [encodeSeatHardwareAssignment, invalid]
          have accepted := wellFormed.payload
          simp only [answer, empty] at accepted
          revert accepted
          decide
        · intro fits
          have valid := fits seatRequest configuration stored decoded held converted
          apply answer_wellFormed
          · rw [asked]
            rfl
          · apply isSome_decode seatHardwareAssignment_exact
            exact encodeSeatHardwareAssignment_ne_nil valid

theorem getGameCatalog_wellFormed_iff (asked : request.type = .getGameCatalog) :
    WellFormed request (self.getGameCatalog services surroundings request).response ↔
      DiscoveryErrorFits surroundings request := by
  unfold getGameCatalog
  by_cases filled : (!request.payload.isEmpty) = true
  · rw [if_pos filled]
    apply iff_of_true
    · exact refuse_literal (by decide) (by decide)
    · intro discoveryError empty
      rw [empty] at filled
      cases filled
  · rw [if_neg filled]
    have empty : request.payload = [] := by
      simpa using filled
    cases found : surroundings.steamCatalog with
    | error discoveryError =>
      dsimp only
      rw [refuseWith_wellFormed_iff self services (by decide) (literal_fits (by decide))]
      constructor
      · intro fits other _ reported
        rw [found] at reported
        cases reported
        exact fits
      · intro fits
        exact fits discoveryError empty found
    | ok catalog =>
      apply iff_of_true
      · dsimp only
        split
        · exact refuse_literal (by decide) (by decide)
        next encoded =>
          apply answer_wellFormed
          · rw [asked]
            rfl
          apply isSome_decode gameCatalog_exact
          intro nothing
          have games : catalog.games = [] := by
            simpa [nothing] using encoded
          rw [encodeGameCatalog, games] at nothing
          revert nothing
          decide
      · intro discoveryError _ reported
        rw [found] at reported
        cases reported

theorem getSeatRuntimeInfo_wellFormed (asked : request.type = .getSeatRuntimeInfo) :
    WellFormed request (self.getSeatRuntimeInfo services request).response := by
  unfold getSeatRuntimeInfo
  split
  · exact refuse_literal (by decide) (by decide)
  split
  · exact refuse_literal (by decide) (by decide)
  next info held =>
    dsimp only
    split
    · exact refuse_literal (by decide) (by decide)
    next encoded =>
      apply answer_wellFormed
      · rw [asked]
        rfl
      · apply isSome_decode seatRuntimeInfo_exact
        simpa using encoded

theorem getInputActivity_wellFormed (asked : request.type = .getInputActivity) :
    WellFormed request (self.getInputActivity services request).response := by
  unfold getInputActivity
  split
  · exact refuse_literal (by decide) (by decide)
  split
  · exact refuse_literal (by decide) (by decide)
  next activity held =>
    dsimp only
    split
    · exact refuse_literal (by decide) (by decide)
    next encoded =>
      apply answer_wellFormed
      · rw [asked]
        rfl
      · apply isSome_decode inputActivitySnapshot_exact
        simpa using encoded

theorem ping_wellFormed (asked : request.type = .ping) :
    WellFormed request (self.ping services request).response := by
  unfold ping
  cases decoded : decodePing request.payload with
  | none => exact refuse_literal (by decide) (by decide)
  | some nonce =>
    apply answer_wellFormed
    · rw [asked]
      rfl
    · have echoed := ping_exact.encode_decode _ _ decoded
      rw [echoed]
      simp [decodesAs, decoded]

/-! ### Requests that change a Seat -/

section

variable (coherent : services.host.Coherent)
include coherent

theorem acquireUiLease_wellFormed (asked : request.type = .acquireUiLease) :
    WellFormed request (self.acquireUiLease services request).response := by
  unfold acquireUiLease
  split
  · exact refuse_literal (by decide) (by decide)
  next requestValue decoded =>
    split
    · exact refuse_literal (by decide) (by decide)
    dsimp only
    split
    · exact refuse_literal (by decide) (by decide)
    apply answerSnapshot_wellFormed
    · exact coherent.step (.acquireUiLease requestValue.seatId)
    · rw [asked]
      rfl
    · intro payload
      rfl

theorem releaseUiLease_wellFormed (asked : request.type = .releaseUiLease) :
    WellFormed request (self.releaseUiLease services request).response := by
  unfold releaseUiLease
  split
  · exact refuse_literal (by decide) (by decide)
  split
  · exact refuse_literal (by decide) (by decide)
  next token owned =>
    dsimp only
    split
    · exact refuse_literal (by decide) (by decide)
    apply answerSnapshot_wellFormed
    · exact coherent.step (.releaseUiLease token)
    · rw [asked]
      rfl
    · intro payload
      rfl

theorem pairController_wellFormed (asked : request.type = .pairController) :
    WellFormed request (self.pairController services surroundings request).response := by
  unfold pairController
  split
  · exact refuse_literal (by decide) (by decide)
  next pair decoded =>
    split
    · exact refuse_literals (by decide) (by decide)
    next lease owned =>
      dsimp only
      split
      · exact refuse_literals (by decide) (by decide)
      apply answerSnapshot_wellFormed
      · exact coherent.step
          (.pairController lease pair.persistentControllerId
            pair.runtimeXInputSlot surroundings.scanned)
      · rw [asked]
        rfl
      · intro payload
        rfl

theorem stopGame_wellFormed (asked : request.type = .stopGame) :
    WellFormed request (self.stopGame services surroundings request).response := by
  unfold stopGame
  split
  · exact refuse_literal (by decide) (by decide)
  next stop decoded =>
    split
    · exact refuse_literal (by decide) (by decide)
    split
    · exact refuse_literal (by decide) (by decide)
    dsimp only
    split
    · exact refuse_literal (by decide) (by decide)
    have run := services.stopWorkspaceGame_run stop.seatId surroundings.stop
    apply answerSnapshot_wellFormed
    · exact coherent.backendRun run
    · rw [asked]
      rfl
    · intro payload
      rfl

end

theorem audioMutation_decodes (status : AudioMutationStatus) :
    (decodeAudioMutationResult (encodeAudioMutationResult ⟨status⟩)).isSome = true := by
  apply isSome_decode audioMutationResult_exact
  apply ne_nil_of_length_pos
  simp [encodeAudioMutationResult]

theorem routeAudio_wellFormed (asked : request.type = .routeAudio) :
    WellFormed request (self.routeAudio services surroundings request).response := by
  unfold routeAudio
  split
  · exact refuse_literal (by decide) (by decide)
  dsimp only
  split
  · exact refuse_literals (by decide) (by decide)
  split
  · exact refuse_literal (by decide) (by decide)
  split
  · apply answer_wellFormed self services
    · rw [asked]
      rfl
    · exact audioMutation_decodes _
  · exact refuse_literal (by decide) (by decide)

theorem resetAudio_wellFormed (asked : request.type = .resetAudio) :
    WellFormed request (self.resetAudio services surroundings request).response := by
  unfold resetAudio
  split
  · exact refuse_literal (by decide) (by decide)
  dsimp only
  split
  · exact refuse_literals (by decide) (by decide)
  split
  · exact refuse_literal (by decide) (by decide)
  · apply answer_wellFormed self services
    · rw [asked]
      rfl
    · exact audioMutation_decodes _

theorem toProtocolSeatHardware_of_toRuntime
    (converted : toRuntimeSeatHardware assignment = some configuration) :
    configuration.seatId = assignment.seatId ∧
      toProtocolSeatHardware configuration = some assignment := by
  unfold toRuntimeSeatHardware at converted
  simp only [Option.bind_eq_bind, Option.bind_eq_some_iff] at converted
  obtain ⟨displayId, display, keyboardId, keyboard, mouseId, mouse,
    controllerId, controller, same⟩ := converted
  cases same
  refine ⟨rfl, ?_⟩
  simp [toProtocolSeatHardware, wideToUtf8_of_utf8ToWide display,
    wideToUtf8_of_utf8ToWide keyboard, wideToUtf8_of_utf8ToWide mouse,
    wideToUtf8_of_utf8ToWide controller]

/-- A stored assignment is answered with the payload that asked for it. -/
theorem assigned_wellFormed {lease : ActivationToken} (asked : request.type = .assignSeatHardware)
    (assigns : self.Assigns request lease assignment configuration)
    (services : HostServices) :
    WellFormed request
      (self.answer services request .assignSeatHardwareResult
        (encodeSeatHardwareAssignment assignment)).response := by
  have echoed := seatHardwareAssignment_exact.encode_decode _ _ assigns.decoded
  apply answer_wellFormed self services
  · rw [asked]
    rfl
  · rw [echoed]
    simp [decodesAs, assigns.decoded]

theorem assignSeatHardware_wellFormed_iff (asked : request.type = .assignSeatHardware) :
    WellFormed request (self.assignSeatHardware services surroundings request).response ↔
      self.ConfigurationErrorFits services surroundings request := by
  have refused {code : ErrorCode} {text : String} (known : code ≠ .none)
      (short : DiagnosticFits (bytesOf text))
      (nothing :
        ∀ lease assignment configuration, ¬ self.Assigns request lease assignment configuration) :
      WellFormed request (self.refuse services request code text).response ↔
        self.ConfigurationErrorFits services surroundings request := by
    apply iff_of_true (self.refuse_wellFormed services known short)
    intro lease assignment configuration text assigns
    exact absurd assigns (nothing lease assignment configuration)
  unfold assignSeatHardware
  cases decoded : decodeSeatHardwareAssignment request.payload with
  | none =>
    apply refused (by decide) (literal_fits (by decide))
    intro lease assignment configuration assigns
    have found := assigns.decoded
    rw [decoded] at found
    cases found
  | some assignment =>
    dsimp only
    cases owned : self.uiLease assignment.seatId with
    | none =>
      apply refused (by decide) (literals_fit (by decide))
      intro lease other configuration assigns
      have found := assigns.decoded
      have held := assigns.owned
      rw [decoded] at found
      rw [← Option.some.inj found, owned] at held
      cases held
    | some lease =>
      dsimp only
      cases converted : toRuntimeSeatHardware assignment with
      | none =>
        apply refused (by decide) (literal_fits (by decide))
        intro owner other configuration assigns
        have found := assigns.decoded
        have spelled := assigns.converted
        rw [decoded] at found
        rw [← Option.some.inj found, converted] at spelled
        cases spelled
      | some configuration =>
        have assigns : self.Assigns request lease assignment configuration :=
          ⟨decoded, owned, converted⟩
        have only {owner : ActivationToken} {other : SeatHardwareAssignment}
            {same : SeatHardwareConfiguration}
            (again : self.Assigns request owner other same) :
            owner = lease ∧ same = configuration := by
          have found := again.decoded
          have held := again.owned
          have spelled := again.converted
          rw [decoded] at found
          rw [← Option.some.inj found, owned] at held
          rw [← Option.some.inj found, converted] at spelled
          exact ⟨(Option.some.inj held).symm, (Option.some.inj spelled).symm⟩
        dsimp only
        cases answered :
            (services.host.configureSeatHardware lease configuration
              surroundings.detected surroundings.save).1 with
        | error configurationError =>
          dsimp only
          rw [refuseWith_wellFormed_iff self _ (by decide) (literals_fit (by decide))]
          constructor
          · intro fits owner other same text again reported
            obtain ⟨rfl, rfl⟩ := only again
            rw [answered] at reported
            cases reported
            exact fits
          · intro fits
            exact fits lease assignment configuration configurationError assigns answered
        | ok done =>
          apply iff_of_true
          · obtain ⟨named, spelled⟩ := toProtocolSeatHardware_of_toRuntime converted
            have current := configureSeatHardware_stored answered
            rw [named] at current
            dsimp only
            rw [current]
            simp only [spelled]
            exact self.assigned_wellFormed asked assigns _
          · intro owner other same text again reported
            obtain ⟨rfl, rfl⟩ := only again
            rw [answered] at reported
            cases reported

theorem launchGame_wellFormed_iff (coherent : services.host.Coherent)
    (asked : request.type = .launchGame) :
    WellFormed request (self.launchGame services surroundings request).response ↔
      self.LastErrorFits services surroundings request := by
  have refused {code : ErrorCode} {text : String} (known : code ≠ .none)
      (short : DiagnosticFits (bytesOf text))
      (nothing : ∀ launch profile, ¬ self.Launches surroundings request launch profile) :
      WellFormed request (self.refuse services request code text).response ↔
        self.LastErrorFits services surroundings request := by
    apply iff_of_true (self.refuse_wellFormed services known short)
    intro launch profile after launches
    exact absurd launches (nothing launch profile)
  unfold launchGame
  cases decoded : decodeLaunchGameRequest request.payload with
  | none =>
    apply refused (by decide) (literal_fits (by decide))
    intro launch profile launches
    have found := launches.decoded
    rw [decoded] at found
    cases found
  | some launch =>
    dsimp only
    by_cases free : (self.uiLease launch.seatId).isNone = true
    · rw [if_pos free]
      apply refused (by decide) (literal_fits (by decide))
      intro other profile launches
      have found := launches.decoded
      have held := launches.owned
      rw [decoded] at found
      rw [← Option.some.inj found, Option.isSome_iff_ne_none] at held
      exact held (Option.isNone_iff_eq_none.mp free)
    · rw [if_neg free]
      by_cases missing : (!self.gameLauncher) = true
      · rw [if_pos missing]
        apply refused (by decide) (literal_fits (by decide))
        intro other profile launches
        rw [launches.launcher] at missing
        cases missing
      · rw [if_neg missing]
        cases converted : launchProfile (launchTarget surroundings launch) launch with
        | none =>
          apply refused (by decide) (literal_fits (by decide))
          intro other profile launches
          have found := launches.decoded
          have spelled := launches.converted
          rw [decoded] at found
          rw [← Option.some.inj found, converted] at spelled
          cases spelled
        | some profile =>
          have launches : self.Launches surroundings request launch profile :=
            { decoded := decoded
              owned := by
                rw [Option.isSome_iff_ne_none]
                simpa using free
              launcher := by simpa using missing, converted := converted }
          have only {other : LaunchGameRequest} {same : GameProfile}
              (again : self.Launches surroundings request other same) :
              other = launch ∧ same = profile := by
            have found := again.decoded
            have spelled := again.converted
            rw [decoded] at found
            have sameLaunch := Option.some.inj found
            rw [← sameLaunch, converted] at spelled
            exact ⟨sameLaunch.symm, (Option.some.inj spelled).symm⟩
          have run := services.launchGameForWorkspace_run profile launch.seatId
            surroundings.detected surroundings.scanned
            surroundings.launch
          dsimp only
          cases launched :
              services.launchGameForWorkspace profile launch.seatId
                surroundings.detected surroundings.scanned
                surroundings.launch with
          | mk done reached =>
            rw [launched] at run
            cases done with
            | false =>
              have failed : (!(false, reached).1) = true := rfl
              rw [if_pos failed,
                refuseWith_wellFormed_iff self _ (by decide) (literals_fit (by decide))]
              constructor
              · intro fits other same after again failed
                obtain ⟨rfl, rfl⟩ := only again
                rw [launched] at failed
                cases failed
                exact fits
              · intro fits
                exact fits launch profile reached launches launched
            | true =>
              have done : ¬ (!(true, reached).1) = true := Bool.false_ne_true
              rw [if_neg done]
              apply iff_of_true
              · apply answerSnapshot_wellFormed
                · have coherentAfter := coherent.backendRun run
                  exact coherentAfter.step (.setSeatGamePresentation launch.seatId _ _)
                · rw [asked]
                  rfl
                · intro payload
                  rfl
              · intro other same after again failed
                obtain ⟨rfl, rfl⟩ := only again
                rw [launched] at failed
                cases failed

theorem reconciled_coherent (coherent : services.host.Coherent) :
    (self.reconciled services surroundings).host.Coherent := by
  unfold reconciled
  split
  · exact coherent.backendRun (services.reapExitedGames_run _)
  · exact coherent

theorem serve_wellFormed_iff (coherent : services.host.Coherent) :
    WellFormed request (self.serve services surroundings request).response ↔
      self.ReportFits services surroundings request := by
  have unconditional {served : Served} (wellFormed : WellFormed request served.response) :
      WellFormed request served.response ↔ True :=
    iff_of_true wellFormed trivial
  unfold serve ReportFits
  cases asked : request.type with
  | getSeatHardware => exact self.getSeatHardware_wellFormed_iff asked
  | getGameCatalog => exact self.getGameCatalog_wellFormed_iff surroundings asked
  | assignSeatHardware => exact self.assignSeatHardware_wellFormed_iff surroundings asked
  | launchGame => exact self.launchGame_wellFormed_iff surroundings coherent asked
  | getSnapshot => exact unconditional (self.getSnapshot_wellFormed coherent asked)
  | getHardwareInventory =>
    exact unconditional (self.getHardwareInventory_wellFormed surroundings asked)
  | getSeatRuntimeInfo => exact unconditional (self.getSeatRuntimeInfo_wellFormed asked)
  | getInputActivity => exact unconditional (self.getInputActivity_wellFormed asked)
  | ping => exact unconditional (self.ping_wellFormed asked)
  | acquireUiLease => exact unconditional (self.acquireUiLease_wellFormed coherent asked)
  | releaseUiLease => exact unconditional (self.releaseUiLease_wellFormed coherent asked)
  | pairController =>
    exact unconditional (self.pairController_wellFormed surroundings coherent asked)
  | routeAudio => exact unconditional (self.routeAudio_wellFormed surroundings asked)
  | resetAudio => exact unconditional (self.resetAudio_wellFormed surroundings asked)
  | stopGame => exact unconditional (self.stopGame_wellFormed surroundings coherent asked)
  | _ => exact unconditional (refuse_literal (by decide) (by decide))

end Handlers

theorem decodeFrame_correlationId {bytes : ByteString} {request : Frame}
    (decoded : decodeFrame bytes = .ok request) :
    request.correlationId ≠ 0 := by
  unfold decodeFrame at decoded
  obtain ⟨_, decoded⟩ := not_taken decoded (by simp)
  split at decoded
  · cases decoded
  next header payload read =>
    dsimp only at decoded
    obtain ⟨_, decoded⟩ := not_taken decoded (by simp)
    split at decoded
    · cases decoded
    split at decoded
    · cases decoded
    next metadata =>
      obtain ⟨_, decoded⟩ := not_taken decoded (by simp)
      cases decoded
      rw [not_or, not_or] at metadata
      exact metadata.2.1

/-- A decoded request is answered with a well-formed response exactly when
what is reported for it fits. -/
theorem handle_wellFormed_iff (self : HostConnectionSession) (services : HostServices)
    (surroundings : Surroundings)
    {seatHardwareStore : Bool} {operations : List HostOperation}
    (reached : services.host = runFrom step (created seatHardwareStore) operations)
    {bytes : ByteString} {request : Frame}
    (decoded : decodeFrame bytes = .ok request) :
    WellFormed request (self.handle services surroundings request).response ↔
      (self.Serves request →
        self.ReportFits (self.reconciled services surroundings) surroundings request) := by
  have nonzero := decodeFrame_correlationId decoded
  have coherent : services.host.Coherent := by
    rw [reached]
    exact (coherent_created seatHardwareStore).runFrom operations
  unfold handle Serves
  rw [if_neg nonzero]
  by_cases fresh : (!self.helloComplete) = true
  · rw [if_pos fresh]
    apply iff_of_true self.handleHello_wellFormed
    intro serves
    rw [serves.1] at fresh
    cases fresh
  · rw [if_neg fresh]
    by_cases denied : (isMutatingRequest request.type && self.role != .control) = true
    · rw [if_pos denied]
      apply iff_of_true
      · exact refuse_literal (by decide) (by decide)
      · intro serves
        rw [serves.2] at denied
        cases denied
    · rw [if_neg denied]
      rw [self.serve_wellFormed_iff surroundings (self.reconciled_coherent surroundings coherent)]
      have serves :
          self.helloComplete = true ∧
            (isMutatingRequest request.type && self.role != .control) = false := by
        refine ⟨by simpa using fresh, by simpa using denied⟩
      constructor
      · intro fits _
        exact fits
      · intro fits
        exact fits serves

/-- A query of the hardware of the first Seat. -/
def hardwareQuery : Frame where
  type := .getSeatHardware
  correlationId := 1
  payload := encodeSeatRequest ⟨1⟩

/-- A host that has loaded a display id of `units` ideographs. -/
def loadedServices (units : Nat) : HostServices where
  host := runFrom step (created true)
    [.loadPersistentSeatHardware
      (.ok ⟨{ seatId := 1, displayId := replicate units 0x4E00 }, { seatId := 2 }⟩)]

theorem hardwareQuery_answered :
    WellFormed hardwareQuery
        (handle { helloComplete := true } (loadedServices 0) {} hardwareQuery).response ↔
      (Serves { helloComplete := true } hardwareQuery →
        ReportFits { helloComplete := true }
          (reconciled { helloComplete := true } (loadedServices 0) {}) {}
          hardwareQuery) :=
  have decoded : decodeFrame (encodeFrame hardwareQuery) = .ok hardwareQuery := by
    decide
  handle_wellFormed_iff _ _ _ rfl decoded

theorem ideographs_utf8Bytes (units : Nat) :
    wideCodePoints? (replicate units 0x4E00) = some (replicate units 0x4E00) ∧
      ((replicate units 0x4E00).flatMap utf8Bytes).length = 3 * units := by
  induction units with
  | zero => exact ⟨rfl, rfl⟩
  | succ units ih =>
    obtain ⟨read, length⟩ := ih
    constructor
    · rw [replicate_succ, wideCodePoints?.eq_def]
      simp only [read]
      rfl
    · rw [replicate_succ, flatMap_cons, length_append, length]
      have three : (utf8Bytes 0x4E00).length = 3 := rfl
      omega

/-- A stored id of more than 4096 bytes is answered with the empty
payload. -/
theorem ideographs_unanswered {units : Nat} (long : 1365 < units)
    (short : units ≤ maximumConversionLength) :
    ¬ WellFormed hardwareQuery
      (handle { helloComplete := true } (loadedServices units) {} hardwareQuery).response := by
  intro wellFormed
  obtain ⟨read, length⟩ := ideographs_utf8Bytes units
  have fits : StoredHardwareFits (loadedServices units) hardwareQuery :=
    (getSeatHardware_wellFormed_iff _ rfl).mp wellFormed
  have spelled :
      toProtocolSeatHardware { seatId := 1, displayId := replicate units 0x4E00 } =
        some { seatId := 1, displayIdUtf8 := (replicate units 0x4E00).flatMap utf8Bytes } := by
    have converted :
        wideToUtf8 (replicate units 0x4E00) =
          some ((replicate units 0x4E00).flatMap utf8Bytes) := by
      simp [wideToUtf8, read, short]
    simp only [toProtocolSeatHardware, converted]
    rfl
  have valid := fits ⟨1⟩ _ _ (by decide) rfl spelled
  simp only [validSeatHardwareAssignment, Bool.and_eq_true] at valid
  have bounded := validUtf8_length valid.1.1.1.2
  rw [length] at bounded
  unfold kHostProtocolMaxHardwareDeviceIdBytes at bounded
  omega

theorem long_id_unanswered :
    decodeFrame (encodeFrame hardwareQuery) = .ok hardwareQuery ∧
      ¬ WellFormed hardwareQuery
        (handle { helloComplete := true } (loadedServices 1366) {} hardwareQuery).response :=
  ⟨by decide, ideographs_unanswered (by decide) (by decide)⟩

end HostConnectionSession

end HydraSeat.HostIpc
