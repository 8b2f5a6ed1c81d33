import HydraSeat.Profile.ProfileCodec
import HydraSeat.Runtime.SeatHardwareStore

/-!
# The document behind the stored Seat hardware

`SeatHardwareStore` reads its pair of configurations from a document of the
profile layer and writes it back into one.  The profile layer takes ids that
differ in the case of letters for one device; the store compares them as
they are spelled.
-/

namespace HydraSeat.Runtime

open Foundation List
open Profile

/-- What comes of opening the file and reading it to its end. -/
inductive SeatFileContents where
  | unopened | broken
  | bytes (json : ByteString)

/-- What `load` finds at its path; a size that is not known is `none`. -/
inductive SeatFile where
  | uninspected | missing
  | present (size : Option Nat) (contents : SeatFileContents)

namespace SeatFile

/-- The bytes of the file, and nothing for a file that is missing. -/
def read : SeatFile → Except ByteString (Option ByteString)
  | .uninspected => .error "failed to inspect Seat configuration path"
  | .missing => .ok none
  | .present size contents =>
    if size.all (· > kMaximumSchemaDocumentBytes) then
      .error "Seat configuration file is unreadable or too large"
    else
      match contents with
      | .unopened => .error "failed to open Seat configuration file"
      | .broken => .error "failed while reading Seat configuration file"
      | .bytes json => .ok (some json)

/-- The document that the profile layer makes of the bytes. -/
def document? : SeatFile → Option SeatConfigDocument
  | .present _ (.bytes json) => (decodeSeatConfigDocument json).toOption
  | _ => none

end SeatFile

def defaultDocument : SeatConfigDocument where
  managementSeatId := 1
  seats := [{ seatId := 1, name := wideOf "Seat 1" }, { seatId := 2, name := wideOf "Seat 2" }]

structure SeatHardwareStore where
  document : SeatConfigDocument := defaultDocument

namespace SeatHardwareStore

/-- What the store looks at in a Seat of the document. -/
def persisted (seat : Profile.PersistedSeatConfig) : PersistedSeatConfig where
  seatId := seat.seatId
  displayIds := seat.displayIds
  primaryDisplayId := seat.primaryDisplayId
  keyboardIds := seat.keyboardIds
  mouseIds := seat.mouseIds
  controllerIds := seat.controllerIds

def parse (json : ByteString) : Except ByteString SeatConfigDocument :=
  match decodeSeatConfigDocument json with
  | .error diagnostic => .error ("Seat configuration parse failed: " ++ diagnostic.message)
  | .ok document => .ok document

/-- `load` over the bytes of the file. -/
def loadFile (self : SeatHardwareStore) (file : SeatFile) :
    Except ByteString SeatHardwareConfigurations × SeatHardwareStore :=
  match file.read with
  | .error text => (.error text, self)
  | .ok none => (.ok emptyConfigurations, {})
  | .ok (some json) =>
    match parse json with
    | .error text => (.error text, self)
    | .ok document =>
      match toConfigurations (document.seats.map persisted) with
      | .error text => (.error text, self)
      | .ok pair => (.ok pair, { document })

/-- The list of a Seat with one id, or with none. -/
def single (id : WideString) : List WideString :=
  if id.isEmpty then [] else [id]

def assigned (configuration : SeatHardwareConfiguration)
    (seat : Profile.PersistedSeatConfig) : Profile.PersistedSeatConfig :=
  { seat with
    displayIds := single configuration.displayId
    primaryDisplayId := (single configuration.displayId).head?
    keyboardIds := single configuration.keyboardId, mouseIds := single configuration.mouseId
    controllerIds := single configuration.controllerId }

/-- The loop of `applyConfigurations` that finds the Seat. -/
def assign (configuration : SeatHardwareConfiguration) :
    List Profile.PersistedSeatConfig → Except ByteString (List Profile.PersistedSeatConfig)
  | [] => .error "Seat configuration document is missing a Seat"
  | seat :: rest =>
    if seat.seatId = configuration.seatId then .ok (assigned configuration seat :: rest)
    else do
      return seat :: (← assign configuration rest)

def applyConfigurations (pair : SeatHardwareConfigurations) (document : SeatConfigDocument) :
    Except ByteString SeatConfigDocument := do
  validateExclusive pair
  let document :=
    if document.seats.isEmpty then defaultDocument else document
  let seats ← assign pair.first document.seats
  let seats ← assign pair.second seats
  let document := { document with seats }
  match validateSeatConfigDocument document with
  | .error diagnostic => .error ("Seat configuration validation failed: " ++ diagnostic.message)
  | .ok () => .ok document

/-- `save`; `writeAtomically` is the outcome of replacing the file. -/
def saveFile (self : SeatHardwareStore) (writeAtomically : ByteString → Except ByteString Unit)
    (pair : SeatHardwareConfigurations) :
    Except ByteString Unit × SeatHardwareStore :=
  match applyConfigurations pair self.document with
  | .error text => (.error text, self)
  | .ok document =>
    match encodeSeatConfigDocument document with
    | .error diagnostic =>
      (.error ("Seat configuration encoding failed: " ++ diagnostic.message), self)
    | .ok json =>
      if json.isEmpty then (.error "Seat configuration encoding failed: ", self)
      else
        match writeAtomically json with
        | .error text => (.error text, self)
        | .ok () => (.ok (), { document })

theorem saveFile_validPair {self after : SeatHardwareStore}
    {writeAtomically : ByteString → Except ByteString Unit}
    {pair : SeatHardwareConfigurations}
    (saved : self.saveFile writeAtomically pair = (.ok (), after)) :
    ValidPair pair := by
  unfold saveFile at saved
  split at saved
  · cases saved
  next document applied =>
    unfold applyConfigurations at applied
    cases valid : validateExclusive pair with
    | error text =>
      rw [valid] at applied
      cases applied
    | ok => exact (validateExclusive_eq_ok_iff pair).mp valid

end SeatHardwareStore

def SeatHardwareConfiguration.resourceId
    (configuration : SeatHardwareConfiguration) : DeviceType → WideString
  | .display => configuration.displayId
  | .keyboard => configuration.keyboardId
  | .mouse => configuration.mouseId
  | .controller => configuration.controllerId

def resourceIds (seat : Profile.PersistedSeatConfig) : DeviceType → List WideString
  | .display => seat.displayIds
  | .keyboard => seat.keyboardIds
  | .mouse => seat.mouseIds
  | .controller => seat.controllerIds

/-- The profile layer takes the ids for one device and they are spelled
differently. -/
def CaseTwins (left right : WideString) : Prop :=
  equivalentDeviceId left right = true ∧ left ≠ right

/-- No device of the first Seat is one of the second, as the profile layer
compares them. -/
def Exclusive (pair : SeatHardwareConfigurations) : Prop :=
  ∀ kind, pair.first.resourceId kind ≠ [] →
    equivalentDeviceId (pair.first.resourceId kind) (pair.second.resourceId kind) = false

/-- No id of one Seat and id of the same kind of the other differ in the
case of letters only. -/
def TwinFree (pair : SeatHardwareConfigurations) : Prop :=
  ∀ kind, ¬CaseTwins (pair.first.resourceId kind) (pair.second.resourceId kind)

/-- The same of the Seats of a document. -/
def DocumentTwinFree (document : SeatConfigDocument) : Prop :=
  ∀ kind, ∀ first ∈ document.seats, ∀ second ∈ document.seats,
    first.seatId = 1 → second.seatId = 2 →
      ∀ left ∈ resourceIds first kind, ∀ right ∈ resourceIds second kind, ¬CaseTwins left right

theorem CaseTwins.ne_nil {left right : WideString}
    (twins : CaseTwins left right) : left ≠ [] ∧ right ≠ [] := by
  have units := eq_of_beq twins.1
  constructor
  · rintro rfl
    exact twins.2 (map_eq_nil_iff.mp units.symm).symm
  · rintro rfl
    exact twins.2 (map_eq_nil_iff.mp units)

variable {pair : SeatHardwareConfigurations}

theorem exclusive_iff_twinFree
    (valid : SeatHardwareStore.ValidPair pair) :
    Exclusive pair ↔ TwinFree pair := by
  constructor
  · intro exclusive kind twins
    have equivalent := twins.1
    rw [exclusive kind twins.ne_nil.1] at equivalent
    cases equivalent
  intro twinFree kind filled
  rw [← Bool.not_eq_true]
  intro equivalent
  by_cases same : pair.first.resourceId kind = pair.second.resourceId kind
  · cases kind with
    | display => exact filled (valid.separate.display same)
    | keyboard => exact filled (valid.separate.keyboard same)
    | mouse => exact filled (valid.separate.mouse same)
    | controller => exact filled (valid.separate.controller same)
  · exact twinFree kind ⟨equivalent, same⟩

namespace SeatHardwareStore

theorem boundedSingle_eq_ok {values : List WideString} {label : String}
    {id : WideString} (bounded : boundedSingle values label = .ok id) :
    id = [] ∧ values = [] ∨ values = [id] := by
  unfold boundedSingle at bounded
  obtain ⟨few, bounded⟩ := not_taken bounded nofun
  cases bounded
  match values with
  | [] => exact .inl ⟨rfl, rfl⟩
  | [id] => exact .inr rfl
  | _ :: _ :: rest => exact absurd (Nat.succ_le_succ (Nat.succ_pos rest.length)) few

/-- A Seat of the document has the ids of its configuration. -/
def Configures (seat : Profile.PersistedSeatConfig)
    (configuration : SeatHardwareConfiguration) : Prop :=
  configuration.seatId = seat.seatId ∧
    ∀ kind, configuration.resourceId kind = [] ∧ resourceIds seat kind = [] ∨
      resourceIds seat kind = [configuration.resourceId kind]

theorem toConfiguration_configures {seat : Profile.PersistedSeatConfig}
    {configuration : SeatHardwareConfiguration}
    (converted : toConfiguration (persisted seat) = .ok configuration) :
    Configures seat configuration := by
  obtain ⟨_, display, converted⟩ := bind_eq_ok.mp converted
  obtain ⟨_, keyboard, converted⟩ := bind_eq_ok.mp converted
  obtain ⟨_, mouse, converted⟩ := bind_eq_ok.mp converted
  obtain ⟨_, controller, converted⟩ := bind_eq_ok.mp converted
  obtain ⟨_, converted⟩ := not_taken converted nofun
  cases converted
  refine ⟨rfl, fun kind => ?_⟩
  cases kind with
  | display => exact boundedSingle_eq_ok display
  | keyboard => exact boundedSingle_eq_ok keyboard
  | mouse => exact boundedSingle_eq_ok mouse
  | controller => exact boundedSingle_eq_ok controller

theorem readSeats_cons_eq_ok {candidate : SeatHardwareConfigurations}
    {seen : List Seat} {seat : PersistedSeatConfig}
    {rest : List PersistedSeatConfig}
    {result : SeatHardwareConfigurations × List Seat}
    (isRead : readSeats candidate seen (seat :: rest) = .ok result) :
    ∃ named configuration, seat.seatId = named.id ∧ named ∉ seen ∧
      toConfiguration seat = .ok configuration ∧
      readSeats (candidate.set named configuration) (named :: seen) rest = .ok result := by
  unfold readSeats at isRead
  split at isRead
  · cases isRead
  next named isNamed =>
    obtain ⟨configuration, converted, isRead⟩ := bind_eq_ok.mp isRead
    obtain ⟨isNamed, fresh⟩ := Option.filter_eq_some_iff.mp isNamed
    refine ⟨named, configuration, Seat.id_eq_of_ofId? isNamed, ?_, converted, isRead⟩
    simpa using fresh

theorem toConfigurations_seats {seats : List Profile.PersistedSeatConfig}
    (converted : toConfigurations (seats.map persisted) = .ok pair) :
    ∃ first second, (seats = [first, second] ∨ seats = [second, first]) ∧
      first.seatId = 1 ∧ second.seatId = 2 ∧
      Configures first pair.first ∧ Configures second pair.second := by
  unfold toConfigurations at converted
  obtain ⟨two, converted⟩ := not_taken converted nofun
  rw [not_not, length_map] at two
  obtain ⟨left, right, rfl⟩ := length_eq_two.mp two
  obtain ⟨⟨candidate, seen⟩, isRead, converted⟩ := bind_eq_ok.mp converted
  obtain ⟨named, configuration, leftId, _, isLeft, isRead⟩ := readSeats_cons_eq_ok isRead
  obtain ⟨other, second, rightId, fresh, isRight, isRead⟩ := readSeats_cons_eq_ok isRead
  obtain ⟨rfl, rfl⟩ := Prod.mk.inj (Except.ok.inj isRead)
  have kept : ((emptyConfigurations.set named configuration).set other second) = pair := by
    dsimp only at converted
    obtain ⟨_, converted⟩ := not_taken converted nofun
    obtain ⟨_, _, converted⟩ := bind_eq_ok.mp converted
    exact pure_eq_ok converted
  have isLeft := toConfiguration_configures isLeft
  have isRight := toConfiguration_configures isRight
  subst kept
  cases named with
  | first =>
    cases other with
    | first => exact absurd mem_cons_self fresh
    | second => exact ⟨left, right, .inl rfl, leftId, rightId, isLeft, isRight⟩
  | second =>
    cases other with
    | first => exact ⟨right, left, .inr rfl, rightId, leftId, isRight, isLeft⟩
    | second => exact absurd mem_cons_self fresh

end SeatHardwareStore

variable {seat : Profile.PersistedSeatConfig} {configuration : SeatHardwareConfiguration}
  {kind : DeviceType}

theorem SeatHardwareStore.Configures.mem_iff (configures : Configures seat configuration)
    {id : WideString} :
    id ∈ resourceIds seat kind ↔
      id = configuration.resourceId kind ∧ resourceIds seat kind ≠ [] := by
  rcases configures.2 kind with ⟨_, none⟩ | one
  · rw [none]
    exact ⟨nofun, fun ⟨_, filled⟩ => absurd rfl filled⟩
  · rw [one, mem_singleton]
    exact ⟨fun same => ⟨same, cons_ne_nil _ _⟩, And.left⟩

theorem SeatHardwareStore.Configures.mem_of_ne_nil (configures : Configures seat configuration)
    (filled : configuration.resourceId kind ≠ []) :
    configuration.resourceId kind ∈ resourceIds seat kind := by
  rcases configures.2 kind with ⟨none, _⟩ | one
  · exact absurd none filled
  · rw [one]
    exact mem_cons_self

theorem documentTwinFree_iff {document : SeatConfigDocument}
    (converted :
      SeatHardwareStore.toConfigurations
        (document.seats.map SeatHardwareStore.persisted) = .ok pair) :
    DocumentTwinFree document ↔ TwinFree pair := by
  obtain ⟨first, second, seats, firstId, secondId, isFirst, isSecond⟩ :=
    SeatHardwareStore.toConfigurations_seats converted
  have members (seat : Profile.PersistedSeatConfig) :
      seat ∈ document.seats ↔ seat = first ∨ seat = second := by
    rcases seats with order | order
    · rw [order, mem_pair]
    · rw [order, mem_pair, or_comm]
  constructor
  · intro free kind twins
    obtain ⟨leftSome, rightSome⟩ := twins.ne_nil
    exact free kind first ((members first).mpr (.inl rfl)) second
      ((members second).mpr (.inr rfl)) firstId secondId _
      (isFirst.mem_of_ne_nil leftSome) _
      (isSecond.mem_of_ne_nil rightSome) twins
  · intro free kind left isLeft right isRight leftId rightId id member other otherMember twins
    rcases (members left).mp isLeft with rfl | rfl
    · rcases (members right).mp isRight with rfl | rfl
      · rw [leftId] at rightId
        cases rightId
      · rw [isFirst.mem_iff] at member
        rw [isSecond.mem_iff] at otherMember
        rw [member.1, otherMember.1] at twins
        exact free kind twins
    · rw [secondId] at leftId
      cases leftId

namespace SeatHardwareStore

variable {file : SeatFile} {json : ByteString}

theorem read_eq_bytes (isRead : file.read = .ok (some json)) :
    ∃ size, file = .present size (.bytes json) := by
  cases file with
  | uninspected | missing => cases isRead
  | present size contents =>
    change (if _ then _ else _) = _ at isRead
    obtain ⟨_, isRead⟩ := not_taken isRead nofun
    cases contents with
    | unopened | broken => cases isRead
    | bytes _ =>
      cases isRead
      exact ⟨size, rfl⟩

theorem parse_eq_ok {document : SeatConfigDocument} (parsed : parse json = .ok document) :
    decodeSeatConfigDocument json = .ok document := by
  unfold parse at parsed
  split at parsed
  · cases parsed
  next decoded =>
    cases parsed
    exact decoded

/-- A pair that was loaded is the empty one, or comes from the document in
the file. -/
theorem loadFile_eq_ok {self after : SeatHardwareStore}
    (loaded : self.loadFile file = (.ok pair, after)) :
    pair = emptyConfigurations ∧ file.document? = none ∨
      ∃ document, file.document? = some document ∧
        toConfigurations (document.seats.map persisted) = .ok pair := by
  unfold loadFile at loaded
  split at loaded
  · cases loaded
  next missing =>
    cases loaded
    refine .inl ⟨rfl, ?_⟩
    cases file with
    | uninspected | missing => rfl
    | present size contents =>
      change (if _ then _ else _) = _ at missing
      obtain ⟨_, missing⟩ := not_taken missing nofun
      cases contents with
      | unopened | broken => rfl
      | bytes _ => cases missing
  next json isRead =>
    split at loaded
    · cases loaded
    next document parsed =>
      split at loaded
      · cases loaded
      next converted =>
        cases loaded
        obtain ⟨size, rfl⟩ := read_eq_bytes isRead
        refine .inr ⟨document, ?_, converted⟩
        change (decodeSeatConfigDocument json).toOption = some document
        rw [parse_eq_ok parsed]
        rfl

/-- Exclusive devices are told apart as the profile layer compares them if
and only if no two ids differ in the case of letters only: for each file
that is loaded and for each pair that is saved. -/
theorem device_identity_iff (self : SeatHardwareStore) :
    (∀ (file : SeatFile) (pair : SeatHardwareConfigurations) (after : SeatHardwareStore),
      self.loadFile file = (.ok pair, after) →
        (Exclusive pair ↔ ∀ document, file.document? = some document → DocumentTwinFree document)) ∧
      ∀ (writeAtomically : ByteString → Except ByteString Unit)
        (pair : SeatHardwareConfigurations) (after : SeatHardwareStore),
        self.saveFile writeAtomically pair = (.ok (), after) →
          (Exclusive pair ↔ TwinFree pair) := by
  constructor
  · intro file pair after loaded
    rcases loadFile_eq_ok loaded with
      ⟨rfl, missing⟩ | ⟨document, isDocument, converted⟩
    · rw [missing]
      refine ⟨fun _ => nofun, fun _ kind filled => absurd ?_ filled⟩
      cases kind <;> rfl
    rw [exclusive_iff_twinFree (toConfigurations_validPair converted),
      ← documentTwinFree_iff converted, isDocument]
    constructor
    · rintro free _ ⟨⟩
      exact free
    · intro free
      exact free document rfl
  · intro writeAtomically pair after saved
    exact exclusive_iff_twinFree (saveFile_validPair saved)

def writesFile : ByteString → Except ByteString Unit := fun _ => .ok ()

def keyboards (first second : String) : SeatHardwareConfigurations :=
  ⟨{ seatId := 1, keyboardId := wideOf first }, { seatId := 2, keyboardId := wideOf second }⟩

theorem saved_keyboards {first second : String}
    (saved : (({} : SeatHardwareStore).saveFile writesFile (keyboards first second)).1 = .ok ()) :
    ∃ after, ({} : SeatHardwareStore).saveFile writesFile
      (keyboards first second) = (.ok (), after) :=
  ⟨_, Prod.ext saved rfl⟩

theorem saves_two_keyboards :
    ∃ after, ({} : SeatHardwareStore).saveFile writesFile (keyboards "K" "L") = (.ok (), after) :=
  saved_keyboards (by decide +kernel)

theorem two_keyboards_identity : Exclusive (keyboards "K" "L") ↔ TwinFree (keyboards "K" "L") :=
  have ⟨after, saved⟩ := saves_two_keyboards
  (device_identity_iff {}).2 writesFile (keyboards "K" "L") after saved

/-- Both Seats hold one keyboard, in two spellings. -/
theorem two_spellings_saved :
    ¬∀ (self : SeatHardwareStore) (writeAtomically : ByteString → Except ByteString Unit)
      (pair : SeatHardwareConfigurations) (after : SeatHardwareStore),
      self.saveFile writeAtomically pair = (.ok (), after) → Exclusive pair := by
  intro all
  obtain ⟨after, saved⟩ : ∃ after, ({} : SeatHardwareStore).saveFile
      writesFile (keyboards "K" "k") = (.ok (), after) :=
    saved_keyboards (by decide +kernel)
  have apart := all {} writesFile (keyboards "K" "k") after saved .keyboard (by decide)
  exact absurd apart (by decide)

end SeatHardwareStore

end HydraSeat.Runtime
