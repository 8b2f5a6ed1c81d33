import HydraSeat.Profile.DocumentLaw
import HydraSeat.Runtime.SeatHardwareDocument

/-!
# The store and its file agree

A store lives beside the file at its path, which others may replace at any
time.  What it loads or saves is what a new store reads from the file
afterwards, a save touches the ids of the hardware and nothing else, and a
call that fails leaves no trace.
-/

namespace HydraSeat.Runtime

open Foundation List
open Profile

namespace SeatHardwareStore

variable {self : SeatHardwareStore} {pair : SeatHardwareConfigurations}
  {document : SeatConfigDocument}

/-- The document of a save with the text that is put into the file. -/
def prepareSave (self : SeatHardwareStore) (pair : SeatHardwareConfigurations) :
    Option (SeatConfigDocument × ByteString) :=
  match applyConfigurations pair self.document with
  | .error _ => none
  | .ok document =>
    match encodeSeatConfigDocument document with
    | .error _ => none
    | .ok json => if json.isEmpty then none else some (document, json)

theorem saveFile_eq (writeAtomically : ByteString → Except ByteString Unit) :
    match self.prepareSave pair with
    | none => ∃ text, self.saveFile writeAtomically pair = (.error text, self)
    | some (document, json) =>
      self.saveFile writeAtomically pair = match writeAtomically json with
        | .error text => (.error text, self)
        | .ok () => (.ok (), { document }) := by
  unfold prepareSave saveFile
  cases applyConfigurations pair self.document with
  | error text => exact ⟨_, rfl⟩
  | ok document =>
    dsimp only
    cases encodeSeatConfigDocument document with
    | error diagnostic => exact ⟨_, rfl⟩
    | ok json =>
      dsimp only
      by_cases empty : json.isEmpty
      · rw [if_pos empty, if_pos empty]
        exact ⟨_, rfl⟩
      · simp only [if_neg empty] <;> rfl

/-- A store and the file at its path. -/
structure Place where
  store : SeatHardwareStore := {}
  file : SeatFile := .missing

/-- What happens at the path: somebody else replaces the file, or the store
loads or saves.  `written` is the outcome of `writeAtomically`. -/
inductive Event where
  | replaced (file : SeatFile)
  | load
  | save (written : ByteString → Except ByteString Unit) (pair : SeatHardwareConfigurations)

namespace Place

variable {place : Place}

def load (place : Place) : Except ByteString SeatHardwareConfigurations × Place :=
  let (loaded, store) := place.store.loadFile place.file
  (loaded, { place with store })

/-- The file is replaced whole, or it stays. -/
def save (place : Place) (written : ByteString → Except ByteString Unit)
    (pair : SeatHardwareConfigurations) : Except ByteString Unit × Place :=
  let (saved, store) := place.store.saveFile written pair
  match saved, place.store.prepareSave pair with
  | .ok (), some (_, json) => (saved, { store, file := .present json.length (.bytes json) })
  | _, _ => (saved, { place with store })

def step (place : Place) : Event → Place
  | .replaced file => { place with file }
  | .load => place.load.2
  | .save written pair => (place.save written pair).2

/-- What a new store loads from the file. -/
def reloaded (place : Place) : Except ByteString SeatHardwareConfigurations :=
  (({} : SeatHardwareStore).loadFile place.file).1

end Place

/-- Everything but the ids of the hardware is as it was. -/
structure SameSeat (before after : Profile.PersistedSeatConfig) : Prop where
  seatId : after.seatId = before.seatId
  name : after.name = before.name
  active : after.active = before.active
  audioOutput : after.audioOutputEndpointId = before.audioOutputEndpointId
  audioInput : after.audioInputEndpointId = before.audioInputEndpointId

structure SameDocument (before after : SeatConfigDocument) : Prop where
  schemaVersion : after.schemaVersion = before.schemaVersion
  managementSeatId : after.managementSeatId = before.managementSeatId
  seats : List.Forall₂ SameSeat before.seats after.seats

/-- The two Seats of the store, in either order. -/
def TwoSeats (seats : List Profile.PersistedSeatConfig) : Prop :=
  ∃ first second, (seats = [first, second] ∨ seats = [second, first]) ∧
    first.seatId = 1 ∧ second.seatId = 2

theorem SameSeat.assigned (configuration : SeatHardwareConfiguration)
    (seat : Profile.PersistedSeatConfig) : SameSeat seat (assigned configuration seat) :=
  ⟨rfl, rfl, rfl, rfl, rfl⟩

variable {configuration : SeatHardwareConfiguration} {seat : Profile.PersistedSeatConfig}

theorem assign_head (rest : List Profile.PersistedSeatConfig)
    (same : seat.seatId = configuration.seatId) :
    assign configuration (seat :: rest) = .ok (assigned configuration seat :: rest) :=
  if_pos same

theorem assign_second
    {other : Profile.PersistedSeatConfig} (apart : other.seatId ≠ configuration.seatId)
    (same : seat.seatId = configuration.seatId) :
    assign configuration [other, seat] = .ok [other, assigned configuration seat] := by
  unfold assign
  rw [if_neg apart, assign_head [] same]
  rfl

theorem boundedSingle_single (id : WideString) (label : String) :
    boundedSingle (single id) label = .ok id := by
  cases id with
  | nil | cons unit units => rfl

theorem toConfiguration_assigned (same : seat.seatId = configuration.seatId) :
    toConfiguration (persisted (assigned configuration seat)) = .ok configuration := by
  have primary : ((single configuration.displayId).head?).any (· != configuration.displayId) =
      false := by
    unfold single
    split
    · rfl
    · simp
  simp only [toConfiguration, persisted, assigned, boundedSingle_single, ok_bind, primary]
  rw [same]
  rfl

theorem readSeats_cons {candidate : SeatHardwareConfigurations} {seen : List Seat} {named : Seat}
    {seat : PersistedSeatConfig}
    (rest : List PersistedSeatConfig) (isNamed : seat.seatId = named.id) (fresh : named ∉ seen)
    (converted : toConfiguration seat = .ok configuration) :
    readSeats candidate seen (seat :: rest) =
      readSeats (candidate.set named configuration) (named :: seen) rest := by
  have found : (Seat.ofId? seat.seatId).filter (!seen.contains ·) = some named := by
    rw [isNamed, Seat.ofId?_id]
    simp [Option.filter, fresh]
  rw [readSeats, found]
  dsimp only
  rw [converted, ok_bind]

theorem toConfigurations_of {left right : PersistedSeatConfig} (named : Seat)
    (leftId : left.seatId = named.id) (rightId : right.seatId = named.other.id)
    (isLeft : toConfiguration left = .ok (pair.get named))
    (isRight : toConfiguration right = .ok (pair.get named.other)) (valid : ValidPair pair) :
    toConfigurations [left, right] = .ok pair := by
  have isValid := (validateExclusive_eq_ok_iff pair).mpr valid
  have fresh : named.other ∉ [named] := by cases named <;> decide
  unfold toConfigurations
  rw [if_neg (show ¬[left, right].length ≠ 2 from not_not.mpr rfl),
    readSeats_cons _ leftId not_mem_nil isLeft,
    readSeats_cons _ rightId fresh isRight]
  cases named with
  | first | second =>
    change (do validateExclusive pair; return pair) = _
    rw [isValid]
    rfl

theorem seatNodes_assigned (configuration : SeatHardwareConfiguration)
    (seat : Profile.PersistedSeatConfig) : seatNodes (assigned configuration seat) ≤ 15 := by
  have short (id : WideString) : (single id).length ≤ 1 := by
    unfold single
    split
    · exact Nat.zero_le 1
    · exact Nat.le_refl 1
  have display := short configuration.displayId
  have keyboard := short configuration.keyboardId
  have mouse := short configuration.mouseId
  have controller := short configuration.controllerId
  change (single _).length + (single _).length + (single _).length + (single _).length + 11 ≤ 15
  omega

/-- What both Seats are when each has its configuration, where it stands. -/
structure Assigned (pair : SeatHardwareConfigurations)
    (before after : List Profile.PersistedSeatConfig) : Prop where
  two : TwoSeats after
  same : List.Forall₂ SameSeat before after
  configured : toConfigurations (after.map persisted) = .ok pair
  few : (after.map seatNodes).sum ≤ 30

theorem assign_both {seats half done : List Profile.PersistedSeatConfig} (two : TwoSeats seats)
    (valid : ValidPair pair) (first : assign pair.first seats = .ok half)
    (second : assign pair.second half = .ok done) : Assigned pair seats done := by
  obtain ⟨one, other, order, isOne, isOther⟩ := two
  have oneId : one.seatId = pair.first.seatId := isOne.trans (valid.seatId .first).symm
  have otherId : other.seatId = pair.second.seatId := isOther.trans (valid.seatId .second).symm
  have oneConfigured := toConfiguration_assigned oneId
  have otherConfigured := toConfiguration_assigned otherId
  have oneSmall := seatNodes_assigned pair.first one
  have otherSmall := seatNodes_assigned pair.second other
  rcases order with rfl | rfl
  · have separate : (assigned pair.first one).seatId ≠ pair.second.seatId := by
      rw [← otherId, isOther]
      change one.seatId ≠ 2
      rw [isOne]
      decide
    rw [assign_head _ oneId] at first
    cases first
    rw [assign_second separate otherId] at second
    cases second
    refine ⟨⟨_, _, .inl rfl, isOne, isOther⟩, .cons (.assigned _ _) (.cons (.assigned _ _) .nil),
      toConfigurations_of .first isOne isOther oneConfigured otherConfigured valid, ?_⟩
    simp only [map_cons, map_nil, sum_cons, sum_nil]
    omega
  · have separate : other.seatId ≠ pair.first.seatId := by
      rw [← oneId, isOne, isOther]
      decide
    rw [assign_second separate oneId] at first
    cases first
    rw [assign_head _ otherId] at second
    cases second
    refine ⟨⟨_, _, .inr rfl, isOne, isOther⟩, .cons (.assigned _ _) (.cons (.assigned _ _) .nil),
      toConfigurations_of .second isOther isOne otherConfigured oneConfigured valid, ?_⟩
    simp only [map_cons, map_nil, sum_cons, sum_nil]
    omega

/-- A document that a save has prepared, with its text. -/
structure Prepared (store : SeatHardwareStore) (pair : SeatHardwareConfigurations)
    (document : SeatConfigDocument) (json : ByteString) : Prop where
  same : SameDocument store.document document
  two : TwoSeats document.seats
  configured : toConfigurations (document.seats.map persisted) = .ok pair
  decoded : decodeSeatConfigDocument json = .ok document
  short : json.length ≤ kMaximumSchemaDocumentBytes

theorem prepareSave_prepared {json : ByteString} (two : TwoSeats self.document.seats)
    (prepared : self.prepareSave pair = some (document, json)) :
    Prepared self pair document json := by
  unfold prepareSave at prepared
  split at prepared
  · cases prepared
  next applied =>
    split at prepared
    · cases prepared
    next encoded =>
      obtain ⟨_, prepared⟩ := not_taken prepared (by simp)
      cases prepared
      have fits := (Profile.encodeValidated_eq_ok encoded).2.2
      unfold applyConfigurations at applied
      obtain ⟨⟨⟩, exclusive, applied⟩ := bind_eq_ok.mp applied
      have valid := (validateExclusive_eq_ok_iff pair).mp exclusive
      have filled : self.document.seats.isEmpty = false := by
        obtain ⟨_, _, order | order, _⟩ := two
        · rw [order]
          rfl
        · rw [order]
          rfl
      simp only [filled, Bool.false_eq_true, if_false] at applied
      obtain ⟨half, first, applied⟩ := bind_eq_ok.mp applied
      obtain ⟨done, second, applied⟩ := bind_eq_ok.mp applied
      split at applied
      · cases applied
      cases applied
      have both := assign_both two valid first second
      refine ⟨⟨rfl, rfl, both.same⟩, both.two, both.configured, ?_, fits⟩
      refine (Profile.seats_iff encoded).mpr ?_
      have few := both.few
      unfold Profile.seatsNodes Profile.kMaximumNodes
      dsimp only
      omega

theorem Prepared.loaded {json : ByteString} (prepared : Prepared self pair document json) :
    (({} : SeatHardwareStore).loadFile (.present json.length (.bytes json))).1 = .ok pair := by
  have read : (SeatFile.present json.length (.bytes json)).read = .ok (some json) := by
    unfold SeatFile.read
    have fits : ¬(some json.length).all (· > kMaximumSchemaDocumentBytes) = true := by
      simpa using prepared.short
    dsimp only
    rw [if_neg fits]
  have parsed : parse json = .ok document := by
    unfold parse
    rw [prepared.decoded]
  unfold loadFile
  rw [read]
  dsimp only
  rw [parsed]
  dsimp only
  rw [prepared.configured]

theorem loadFile_cases (file : SeatFile) :
    (∃ text, ∀ self : SeatHardwareStore, self.loadFile file = (.error text, self)) ∨
      ∃ pair store, TwoSeats store.document.seats ∧
        ∀ self : SeatHardwareStore, self.loadFile file = (.ok pair, store) := by
  unfold loadFile
  cases file.read with
  | error text => exact .inl ⟨text, fun _ => rfl⟩
  | ok found =>
    cases found with
    | none => exact .inr ⟨emptyConfigurations, {}, ⟨_, _, .inl rfl, rfl, rfl⟩, fun _ => rfl⟩
    | some json =>
      dsimp only
      cases parse json with
      | error text => exact .inl ⟨text, fun _ => rfl⟩
      | ok document =>
        dsimp only
        cases converted : toConfigurations (document.seats.map persisted) with
        | error text => exact .inl ⟨text, fun _ => rfl⟩
        | ok pair =>
          obtain ⟨first, second, order, isFirst, isSecond, _⟩ := toConfigurations_seats converted
          exact .inr ⟨pair, { document }, ⟨first, second, order, isFirst, isSecond⟩, fun _ => rfl⟩

namespace Place

variable {place : Place}

/-- What the store promises of a load and of a save. -/
structure Faithful (place : Place) : Prop where
  loaded : ∀ pair, place.load.1 = .ok pair → place.load.2.reloaded = .ok pair
  notLoaded : ∀ text, place.load.1 = .error text → place.load.2 = place
  saved : ∀ written pair, (place.save written pair).1 = .ok () →
    (place.save written pair).2.reloaded = .ok pair ∧
      SameDocument place.store.document (place.save written pair).2.store.document
  notSaved : ∀ written pair text, (place.save written pair).1 = .error text →
    (place.save written pair).2 = place

theorem load_cases (place : Place) :
    (∃ text, place.load = (.error text, place)) ∨
      ∃ pair store, TwoSeats store.document.seats ∧
        place.load = (.ok pair, { place with store }) ∧ place.reloaded = .ok pair := by
  unfold load reloaded
  rcases loadFile_cases place.file with ⟨text, failed⟩ | ⟨pair, store, two, loaded⟩
  · rw [failed]
    exact .inl ⟨text, rfl⟩
  · rw [loaded, loaded]
    exact .inr ⟨pair, store, two, rfl, rfl⟩

section

variable (two : TwoSeats place.store.document.seats)
include two

theorem save_cases
    (written : ByteString → Except ByteString Unit) (pair : SeatHardwareConfigurations) :
    (∃ text, place.save written pair = (.error text, place)) ∨
      ∃ document json, Prepared place.store pair document json ∧
        place.save written pair = (.ok (), ⟨{ document }, .present json.length (.bytes json)⟩) := by
  have outcome := @saveFile_eq place.store pair written
  unfold save
  cases prepared : place.store.prepareSave pair with
  | none =>
    rw [prepared] at outcome
    obtain ⟨text, failed⟩ := outcome
    rw [failed]
    exact .inl ⟨text, rfl⟩
  | some made =>
    obtain ⟨document, json⟩ := made
    rw [prepared] at outcome
    dsimp only at outcome
    rw [outcome]
    cases written json with
    | error text => exact .inl ⟨text, rfl⟩
    | ok => exact .inr ⟨document, json, prepareSave_prepared two prepared, rfl⟩

theorem faithful : Faithful place where
  loaded := by
    intro pair loaded
    rcases load_cases place with ⟨text, failed⟩ | ⟨found, store, _, isLoaded, reloaded⟩
    · rw [failed] at loaded
      cases loaded
    · rw [isLoaded] at loaded ⊢
      cases loaded
      exact reloaded
  notLoaded := by
    intro text failed
    rcases load_cases place with ⟨_, isFailed⟩ | ⟨_, _, _, loaded, _⟩
    · rw [isFailed]
    · rw [loaded] at failed
      cases failed
  saved := by
    intro written pair saved
    rcases save_cases two written pair with ⟨text, failed⟩ | ⟨document, json, prepared, isSaved⟩
    · rw [failed] at saved
      cases saved
    · rw [isSaved]
      exact ⟨prepared.loaded, prepared.same⟩
  notSaved := by
    intro written pair text failed
    rcases save_cases two written pair with ⟨_, isFailed⟩ | ⟨_, _, _, saved⟩
    · rw [isFailed]
    · rw [saved] at failed
      cases failed

theorem step_two (event : Event) : TwoSeats (place.step event).store.document.seats := by
  cases event with
  | replaced file => exact two
  | load =>
    rcases load_cases place with ⟨text, failed⟩ | ⟨_, store, kept, loaded, _⟩
    · change TwoSeats place.load.2.store.document.seats
      rw [failed]
      exact two
    · change TwoSeats place.load.2.store.document.seats
      rw [loaded]
      exact kept
  | save written pair =>
    change TwoSeats (place.save written pair).2.store.document.seats
    rcases save_cases two written pair with ⟨text, failed⟩ | ⟨document, json, prepared, saved⟩
    · rw [failed]
      exact two
    · rw [saved]
      exact prepared.two

end

/-- In every state of every run of a new store a load or a save that
succeeds is what a new store reads, a save leaves all but the hardware ids
alone, and a failure changes neither the file nor the document. -/
theorem always_faithful (file : SeatFile) (events : List Event) :
    Throughout step Faithful { file } events := by
  have start : TwoSeats defaultDocument.seats := ⟨_, _, .inl rfl, rfl, rfl⟩
  exact throughout_mono (fun _ two => faithful two)
    (throughout_of_preserved (fun _ event two => step_two two event) events start)

end Place

end SeatHardwareStore

end HydraSeat.Runtime
