import HydraSeat.Runtime.RuntimeHost

/-!
# The stored Seat hardware

`SeatHardwareStore` keeps one pair of configurations in a file.  It refuses
to load or to save a pair in which both Seats name one device.  Reading,
parsing and writing the file are outcomes from outside.
-/

namespace HydraSeat.Runtime

open Foundation RuntimeHost

structure PersistedSeatConfig where
  seatId : UInt32 := 0
  displayIds : List WideString := []
  primaryDisplayId : Option WideString := none
  (keyboardIds mouseIds controllerIds : List WideString := [])

namespace SeatHardwareStore

def emptyConfigurations : SeatHardwareConfigurations := ⟨{ seatId := 1 }, { seatId := 2 }⟩

def boundedSingle (values : List WideString) (label : String) : Except ByteString WideString :=
  if values.length > 1 then
    .error ("HydraSeat v1 supports one " ++ bytesOf label ++ " assignment per Seat")
  else .ok (values.headD [])

def validateExclusive (configurations : SeatHardwareConfigurations) : Except ByteString Unit :=
  let first := configurations.first
  let second := configurations.second
  let conflicts := conflicts
  if first.seatId ≠ 1 ∨ second.seatId ≠ 2 then
    .error "Seat hardware store requires exactly Seat 1 and Seat 2"
  else if conflicts first.displayId second.displayId ||
      conflicts first.keyboardId second.keyboardId ||
      conflicts first.mouseId second.mouseId ||
      conflicts first.controllerId second.controllerId then
    .error "one physical device cannot belong to both Seats"
  else .ok ()

/-- One persisted Seat of the loop of `toConfigurations`. -/
def toConfiguration (seat : PersistedSeatConfig) : Except ByteString SeatHardwareConfiguration := do
  let displayId ← boundedSingle seat.displayIds "display"
  let keyboardId ← boundedSingle seat.keyboardIds "keyboard"
  let mouseId ← boundedSingle seat.mouseIds "mouse"
  let controllerId ← boundedSingle seat.controllerIds "controller"
  if seat.primaryDisplayId.any (· != displayId) then
    .error "primary display must match the single v1 display assignment"
  else
    .ok
      { seatId := seat.seatId, displayId := displayId, keyboardId := keyboardId, mouseId := mouseId
        controllerId := controllerId }

/-- The loop of `toConfigurations`: `seen` are the Seats read so far. -/
def readSeats (candidate : SeatHardwareConfigurations) (seen : List Seat) :
    List PersistedSeatConfig → Except ByteString (SeatHardwareConfigurations × List Seat)
  | [] => .ok (candidate, seen)
  | persisted :: rest =>
    match (Seat.ofId? persisted.seatId).filter (!seen.contains ·) with
    | none => .error "Seat configuration contains invalid or duplicate Seat ids"
    | some seat => do
        let configuration ← toConfiguration persisted
        readSeats (candidate.set seat configuration) (seat :: seen) rest

def toConfigurations (seats : List PersistedSeatConfig) :
    Except ByteString SeatHardwareConfigurations :=
  if seats.length ≠ 2 then .error "Seat configuration must contain exactly two Seats"
  else do
    let (candidate, seen) ← readSeats emptyConfigurations [] seats
    if !seen.contains .first || !seen.contains .second then .error []
    else do
      validateExclusive candidate
      return candidate

/-- No device is named by both Seats. -/
structure ShareNothing (left right : SeatHardwareConfiguration) : Prop where
  display : left.displayId = right.displayId → left.displayId = []
  keyboard : left.keyboardId = right.keyboardId → left.keyboardId = []
  mouse : left.mouseId = right.mouseId → left.mouseId = []
  controller : left.controllerId = right.controllerId → left.controllerId = []

theorem ShareNothing.symm {left right : SeatHardwareConfiguration}
    (separate : ShareNothing left right) : ShareNothing right left where
  display := fun same => same.trans (separate.display same.symm)
  keyboard := fun same => same.trans (separate.keyboard same.symm)
  mouse := fun same => same.trans (separate.mouse same.symm)
  controller := fun same => same.trans (separate.controller same.symm)

/-- Each Seat has its own configuration and no device is shared. -/
structure ValidPair (pair : SeatHardwareConfigurations) : Prop where
  seatId : ∀ seat, (pair.get seat).seatId = seat.id
  separate : ShareNothing pair.first pair.second

theorem conflicts_eq_false_iff (requested existing : WideString) :
    conflicts requested existing = false ↔ (requested = existing → requested = []) := by
  unfold conflicts
  by_cases empty : requested = []
  · simp [empty]
  · by_cases same : requested = existing
    · simp [same]
    · simp [same]

theorem validateExclusive_eq_ok_iff (pair : SeatHardwareConfigurations) :
    validateExclusive pair = .ok () ↔ ValidPair pair := by
  unfold validateExclusive
  dsimp only
  constructor
  · intro valid
    by_cases ids : pair.first.seatId ≠ 1 ∨ pair.second.seatId ≠ 2
    · rw [if_pos ids] at valid
      cases valid
    rw [if_neg ids] at valid
    rw [not_or, not_not, not_not] at ids
    obtain ⟨separate, valid⟩ := not_taken valid nofun
    simp only [Bool.or_eq_true, not_or, Bool.not_eq_true, conflicts_eq_false_iff] at separate
    obtain ⟨⟨⟨display, keyboard⟩, mouse⟩, controller⟩ := separate
    refine ⟨?_, display, keyboard, mouse, controller⟩
    intro seat
    cases seat with
    | first => exact ids.1
    | second => exact ids.2
  · intro valid
    have first := valid.seatId .first
    have second := valid.seatId .second
    have separate := valid.separate
    rw [if_neg, if_neg]
    · simp only [Bool.or_eq_true, not_or, Bool.not_eq_true, conflicts_eq_false_iff]
      exact ⟨⟨⟨separate.display, separate.keyboard⟩, separate.mouse⟩, separate.controller⟩
    · rw [not_or, not_not, not_not]
      exact ⟨first, second⟩

theorem validPair_empty : ValidPair emptyConfigurations := by
  rw [← validateExclusive_eq_ok_iff]
  rfl

theorem toConfigurations_validPair {seats : List PersistedSeatConfig}
    {pair : SeatHardwareConfigurations}
    (converted : toConfigurations seats = .ok pair) : ValidPair pair := by
  unfold toConfigurations at converted
  obtain ⟨_, converted⟩ := not_taken converted nofun
  cases read : readSeats emptyConfigurations [] seats with
  | error text =>
    rw [read] at converted
    cases converted
  | ok result =>
    obtain ⟨candidate, seen⟩ := result
    rw [read] at converted
    change (if _ then _ else _) = _ at converted
    obtain ⟨_, converted⟩ := not_taken converted nofun
    cases valid : validateExclusive candidate with
    | error text =>
      rw [valid] at converted
      cases converted
    | ok =>
      rw [valid] at converted
      cases converted
      exact (validateExclusive_eq_ok_iff _).mp valid

end SeatHardwareStore

end HydraSeat.Runtime
