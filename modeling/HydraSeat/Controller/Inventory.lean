import HydraSeat.Strings

namespace HydraSeat.Controller

def kXInputSlotCount : UInt8 := 4

inductive ApiSurface where
  | xInput | directInput | gameInput
  deriving DecidableEq

inductive IdentityQuality where
  | runtimeOnly | stable

structure SourceDescriptor where
  runtimeKey : ByteString := []
  persistentId : Option WideString := none
  displayName : WideString := []
  api : ApiSurface := .xInput
  identityQuality : IdentityQuality := .runtimeOnly
  runtimeXInputSlot : Option UInt8 := none
  connected : Bool := false
  sourceGeneration : UInt64 := 0

structure SeatBinding where
  seatId : UInt32 := 0
  api : ApiSurface := .xInput
  runtimeKey : ByteString := []
  persistentControllerId : Option WideString := none
  runtimeXInputSlot : Option UInt8 := none
  sourceGeneration : UInt64 := 0
  deriving DecidableEq

def sameControllerSource (left right : SeatBinding) : Bool :=
  match left.persistentControllerId, right.persistentControllerId with
  | some leftId, some rightId => canonicalId leftId == canonicalId rightId
  | _, _ => !left.runtimeKey.isEmpty && left.runtimeKey == right.runtimeKey

/-- Both bindings name one XInput runtime source: the same runtime key or
the same runtime slot. -/
def SameXInputRuntimeSource (left right : SeatBinding) : Prop :=
  left.api = .xInput ∧ right.api = .xInput ∧
    (left.runtimeKey = right.runtimeKey ∨
      ∃ slot, left.runtimeXInputSlot = some slot ∧ right.runtimeXInputSlot = some slot)

theorem SameXInputRuntimeSource.symm {left right : SeatBinding}
    (same : SameXInputRuntimeSource left right) :
    SameXInputRuntimeSource right left := by
  obtain ⟨leftApi, rightApi, key | ⟨slot, leftSlot, rightSlot⟩⟩ := same
  · exact ⟨rightApi, leftApi, Or.inl key.symm⟩
  · exact ⟨rightApi, leftApi, Or.inr ⟨slot, rightSlot, leftSlot⟩⟩

structure PhysicalControllerDescriptor where
  (persistentId displayName devicePath : WideString := [])
  (vendorId productId : UInt16 := 0)

structure InventorySnapshot where
  authoritative : Bool := false
  sources : List SourceDescriptor := []
  physicalControllers : List PhysicalControllerDescriptor := []
  error : String := ""

inductive PairingStatus where
  | ok | invalidSeat | invalidPersistentId | physicalControllerNotFound
  | ambiguousPhysicalController | runtimeSlotOutOfRange | runtimeSourceNotFound
  | runtimeSourceDisconnected | pairingGestureNotDetected | pairingGestureAmbiguous
  | inventoryNotAuthoritative

structure PairingResult where
  status : PairingStatus := .invalidPersistentId
  binding : Option SeatBinding := none

def xinputRuntimeKey (slot : UInt8) : ByteString := "xinput-slot:" ++ bytesOf (toString slot.toNat)

/-- What one `XInputGetState` probe of a slot left behind. -/
structure SlotHistory where
  (seen previousConnected : Bool := false)
  generation : UInt64 := 0

def SlotHistory.observe (history : SlotHistory) (connected : Bool) : SlotHistory :=
  if !history.seen then ⟨true, connected, if connected then 1 else 0⟩
  else if history.previousConnected != connected then ⟨true, connected, history.generation + 1⟩
  else history

abbrev ControllerInventory := UInt8 → SlotHistory

def scannedSource (slot : UInt8) (connected : Bool) (generation : UInt64) : SourceDescriptor where
  runtimeKey := xinputRuntimeKey slot
  displayName := wideOf "XInput runtime slot " ++ wideOf (toString slot.toNat)
  api := .xInput
  identityQuality := .runtimeOnly
  runtimeXInputSlot := some slot
  connected := connected
  sourceGeneration := generation

/-- `ControllerInventory::scan` of the Windows build.  `connected` is what
`XInputGetState` answers for each slot and `physical` is the outcome of the
SetupAPI walk `appendPhysicalControllers`. -/
def ControllerInventory.scan (inventory : ControllerInventory) (connected : UInt8 → Bool)
    (physical : Except String (List PhysicalControllerDescriptor)) :
    InventorySnapshot × ControllerInventory :=
  let observed : ControllerInventory := fun slot =>
    if slot < kXInputSlotCount then (inventory slot).observe (connected slot)
    else inventory slot
  match physical with
  | .error text => ({ error := text }, observed)
  | .ok controllers =>
    ({ authoritative := true
       sources :=
         [0, 1, 2, 3].map fun slot => scannedSource slot (connected slot) (observed slot).generation
       physicalControllers := controllers }, observed)

def pairPhysicalControllerToXInput (seatId : UInt32) (persistentControllerId : WideString)
    (runtimeSlot : UInt8) (inventory : InventorySnapshot) :
    PairingResult :=
  if !inventory.authoritative then
    { status := .inventoryNotAuthoritative }
  else if seatId ≠ 1 ∧ seatId ≠ 2 then
    { status := .invalidSeat }
  else if persistentControllerId.isEmpty then
    { status := .invalidPersistentId }
  else if runtimeSlot ≥ kXInputSlotCount then
    { status := .runtimeSlotOutOfRange }
  else
    let wanted := canonicalId persistentControllerId
    match inventory.physicalControllers.filter fun candidate =>
      canonicalId candidate.persistentId == wanted with
    | [] => { status := .physicalControllerNotFound }
    | [physical] =>
      match inventory.sources.filter fun source =>
        source.api == .xInput && source.runtimeXInputSlot == some runtimeSlot with
      | [runtime] =>
        if !runtime.connected then
          { status := .runtimeSourceDisconnected }
        else
          { status := .ok
            binding := some
              { seatId := seatId
                api := .xInput
                runtimeKey := runtime.runtimeKey
                persistentControllerId := some physical.persistentId
                runtimeXInputSlot := some runtimeSlot
                sourceGeneration := runtime.sourceGeneration } }
      | _ => { status := .runtimeSourceNotFound }
    | _ => { status := .ambiguousPhysicalController }

def bindingMatchesInventory (binding : SeatBinding) (inventory : InventorySnapshot) : Bool :=
  if !inventory.authoritative then false
  else
    match inventory.sources.filter fun source =>
      source.api == binding.api && source.runtimeKey == binding.runtimeKey with
    | [runtime] =>
      if !runtime.connected || runtime.sourceGeneration != binding.sourceGeneration ||
          runtime.runtimeXInputSlot != binding.runtimeXInputSlot then
        false
      else
        match binding.persistentControllerId with
        | none => true
        | some persistentId =>
          (inventory.physicalControllers.filter fun physical =>
            canonicalId physical.persistentId == canonicalId persistentId).length == 1
    | _ => false

/-- What a successful pairing has matched. -/
structure PairingMatch (persistentControllerId : WideString)
    (runtimeSlot : UInt8) (inventory : InventorySnapshot)
    (binding : SeatBinding) : Prop where
  physical :
    ∃ physical ∈ inventory.physicalControllers,
      canonicalId physical.persistentId = canonicalId persistentControllerId ∧
        binding.persistentControllerId = some physical.persistentId
  slot : binding.runtimeXInputSlot = some runtimeSlot
  source :
    ∃ source ∈ inventory.sources,
      source.runtimeXInputSlot = some runtimeSlot ∧ source.connected = true ∧
        source.runtimeKey = binding.runtimeKey

theorem mem_of_filter_eq_singleton {Element : Type}
    {keeps : Element → Bool} {elements : List Element} {found : Element}
    (single : elements.filter keeps = [found]) :
    found ∈ elements ∧ keeps found = true := by
  apply List.mem_filter.mp
  rw [single]
  exact List.mem_singleton_self found

theorem pairingMatch_of_ok {seatId : UInt32} {persistentControllerId : WideString}
    {runtimeSlot : UInt8} {inventory : InventorySnapshot}
    {binding : SeatBinding}
    (paired :
      pairPhysicalControllerToXInput seatId persistentControllerId
        runtimeSlot inventory = ⟨.ok, some binding⟩) :
    PairingMatch persistentControllerId runtimeSlot inventory binding := by
  unfold pairPhysicalControllerToXInput at paired
  obtain ⟨_, paired⟩ := Foundation.not_taken paired nofun
  split at paired
  · cases paired
  split at paired
  · cases paired
  split at paired
  · cases paired
  dsimp only at paired
  split at paired
  · cases paired
  next physical onePhysical =>
    split at paired
    next runtime oneRuntime =>
      obtain ⟨connected, paired⟩ := Foundation.not_taken paired nofun
      have matched := mem_of_filter_eq_singleton onePhysical
      have found := mem_of_filter_eq_singleton oneRuntime
      have sameId := beq_iff_eq.mp matched.2
      have sameSlot := beq_iff_eq.mp (Bool.and_eq_true_iff.mp found.2).2
      cases paired
      exact
        { physical := ⟨physical, matched.1, sameId, rfl⟩, slot := rfl
          source := ⟨runtime, found.1, sameSlot, by simpa using connected, rfl⟩ }
    · cases paired
  · cases paired

end HydraSeat.Controller
