import HydraSeat.Json.Pointer
import HydraSeat.Profile.LegacyJsonLaws
import HydraSeat.Profile.LegacyTextLaws
import HydraSeat.Profile.MigrationPlan

/-!
# A plan loses nothing silently

Every member of the legacy document is carried over or reported, and a
diagnostic names the place of the value that it records.  The diagnostics only
grow on the way; what one step of the planner adds is said once for each step.
-/

namespace HydraSeat.Profile.Migration

open Foundation Json List Value
open Json (Value)
open Json.Pointer

/-! ## Diagnostics -/

/-- A diagnostic records the value at the place that it names. -/
def Locates (root : Value) (diagnostic : ProfileMigrationDiagnostic) : Prop :=
  ∃ value, resolve? root diagnostic.jsonPointer = some value ∧
    diagnostic.valueJson = canonicalJson value

/-- So does every diagnostic that is not the notice of a default. -/
def Sound (root : Value) (diagnostic : ProfileMigrationDiagnostic) : Prop :=
  diagnostic.kind = .appliedLegacyDefault ∨ Locates root diagnostic

/-- The value at a place of the document is recorded. -/
def Reported (report : ProfileMigrationReport) (place : List ByteString) (value : Value) : Prop :=
  ∃ diagnostic ∈ report.diagnostics,
    diagnostic.kind ≠ .appliedLegacyDefault ∧ diagnostic.jsonPointer = written place ∧
      diagnostic.valueJson = canonicalJson value

structure Extends (root : Value) (before after : ProfileMigrationReport) : Prop where
  frame : after = { before with diagnostics := after.diagnostics }
  kept : ∀ diagnostic ∈ before.diagnostics, diagnostic ∈ after.diagnostics
  sound : ∀ diagnostic ∈ after.diagnostics, diagnostic ∈ before.diagnostics ∨ Sound root diagnostic

section Reports

variable {root : Value} {before middle after : ProfileMigrationReport}
variable {place : List ByteString} {value : Value}

theorem Extends.refl (root : Value) (report : ProfileMigrationReport) :
    Extends root report report :=
  ⟨rfl, fun _ member => member, fun _ member => .inl member⟩

theorem Extends.trans (first : Extends root before middle)
    (second : Extends root middle after) : Extends root before after := by
  refine ⟨?_, fun diagnostic member =>
    second.kept _ (first.kept _ member), fun diagnostic member => ?_⟩
  · have frame := second.frame
    rw [first.frame] at frame
    exact frame
  · rcases second.sound diagnostic member with earlier | sound
    · exact first.sound diagnostic earlier
    · exact .inr sound

theorem Reported.mono (reported : Reported before place value)
    (kept : ∀ diagnostic ∈ before.diagnostics, diagnostic ∈ after.diagnostics) :
    Reported after place value := by
  obtain ⟨diagnostic, member, records⟩ := reported
  exact ⟨diagnostic, kept _ member, records⟩

variable {kind : ProfileMigrationDiagnosticKind} {path valueJson note : ByteString}

theorem addDiagnostic_eq_ok (added : addDiagnostic before kind path valueJson note = .ok after) :
    after =
      { before with
        diagnostics :=
          before.diagnostics ++ [{ kind, jsonPointer := path, valueJson, note }] } := by
  unfold addDiagnostic at added
  split at added
  · cases added
  · split at added
    · cases added
    · cases added
      rfl

theorem extends_of_addDiagnostic (added : addDiagnostic before kind path valueJson note = .ok after)
    (sound : Sound root ⟨kind, path, valueJson, note⟩) :
    Extends root before after := by
  obtain rfl := addDiagnostic_eq_ok added
  refine ⟨rfl, fun _ member => mem_append_left _ member, fun diagnostic member => ?_⟩
  rcases mem_append.mp member with earlier | last
  · exact .inl earlier
  · rw [mem_singleton.mp last]
    exact .inr sound

theorem record_value (found : resolve? root (written place) = some value)
    (notDefault : kind ≠ .appliedLegacyDefault)
    (added : addDiagnostic before kind (written place) (canonicalJson value) note = .ok after) :
    Extends root before after ∧ Reported after place value := by
  refine ⟨extends_of_addDiagnostic added (.inr ⟨value, found, rfl⟩), ?_⟩
  obtain rfl := addDiagnostic_eq_ok added
  exact ⟨_, mem_append_right _ mem_cons_self, notDefault, rfl, rfl⟩

end Reports

variable {root : Object} {object : Object} {before after : ProfileMigrationReport}
  {value : Value} {items : List Value} {item : Value} {field : String} {text : ByteString}
  {index : Nat} {seat : PersistedSeatConfig} {seatIds : List UInt32} {name : ByteString}
  {seats : List PersistedSeatConfig} {rest : List Value} {resource : ResourceKey}
  {resources : List ResourceKey}

/-! ## Members that nobody knows -/

theorem written_slash (place : List ByteString) (token : ByteString) :
    written place ++ "/" ++ jsonPointerToken token = written (place ++ [token]) := by
  have slash : bytesOf "/" = [0x2F] := by
    decide
  rw [Pointer.written_append, slash, append_assoc]
  rfl

theorem reportUnknownFields_spec {root : Value} {known : List String} {place : List ByteString}
    (found : resolve? root (written place) = some (.object object))
    {entries : Object}
    (each : ∀ entry ∈ entries, object.lookup entry.1 = some entry.2)
    (done : reportUnknownFields known (written place) before entries = .ok after) :
    Extends root before after ∧
      ∀ entry ∈ entries,
        entry.1 ∈ known.map bytesOf ∨ Reported after (place ++ [entry.1]) entry.2 := by
  induction entries generalizing before with
  | nil =>
    cases done
    exact ⟨.refl root _, by simp⟩
  | cons entry rest ih =>
    obtain ⟨here, each⟩ := forall_mem_cons.mp each
    unfold reportUnknownFields at done
    split at done
    next isKnown =>
      obtain ⟨extended, later⟩ := ih each done
      exact ⟨extended, forall_mem_cons.mpr ⟨.inl (contains_iff_mem.mp isKnown), later⟩⟩
    next unknown =>
      obtain ⟨middle, added, done⟩ := bind_eq_ok.mp done
      rw [written_slash] at added
      have here : resolve? root (written (place ++ [entry.1])) = some entry.2 :=
        (Pointer.resolve?_child found entry.1).trans here
      obtain ⟨first, reported⟩ := record_value here (by decide) added
      obtain ⟨second, later⟩ := ih each done
      exact ⟨first.trans second, forall_mem_cons.mpr ⟨.inr (reported.mono second.kept), later⟩⟩

/-! ## Carried values -/

/-- A value is the number that was read from it. -/
def CarriesNumber (number : UInt64) (value : Value) : Prop :=
  ∃ text, unsignedText? value = some text ∧ fromChars text = some number

/-- A value is the string that a wide string stands for. -/
def CarriesText (wide : WideString) (value : Value) : Prop :=
  ∃ text, value = .string text ∧ toUtf8 wide = .ok text

inductive CarriesOptional : Option WideString → Value → Prop
  | none : CarriesOptional none .null
  | some {wide : WideString} {value : Value}
      (text : CarriesText wide value) : CarriesOptional (some wide) value

inductive CarriesList (wides : List WideString) : Value → Prop
  | array {items : List Value} (each : wides.Forall₂ CarriesText items) :
      CarriesList wides (.array items)

theorem asObject_eq_ok (read : asObject value field = .ok object) : value = .object object := by
  cases value with
  | object =>
    cases read
    rfl
  | null | bool | number | string | array => cases read

theorem asArray_eq_ok (read : asArray value field = .ok items) : value = .array items := by
  cases value with
  | array =>
    cases read
    rfl
  | null | bool | number | string | object => cases read

theorem asString_eq_ok (read : asString value field = .ok text) : value = .string text := by
  cases value with
  | string =>
    cases read
    rfl
  | null | bool | number | array | object => cases read

theorem asBool_eq_ok {boolean : Bool}
    (read : asBool value field = .ok boolean) : value = .bool boolean := by
  cases value with
  | bool =>
    cases read
    rfl
  | null | number | string | array | object => cases read

theorem required_eq_ok {key : String} (found : required object key = .ok value) :
    object.lookup (bytesOf key) = some value := by
  unfold required at found
  split at found
  · cases found
  next isValue =>
    cases found
    exact isValue

theorem carriesNumber_of_asUnsigned {number : UInt64} (read : asUnsigned value field = .ok number) :
    CarriesNumber number value := by
  unfold asUnsigned at read
  split at read
  · cases read
  next text isText =>
    split at read
    · cases read
    next isNumber =>
      cases read
      exact ⟨text, isText, isNumber⟩

theorem carriesText (formed : WellFormed (.string text)) :
    CarriesText (fromUtf8 text) (.string text) := by
  cases formed with
  | string valid => exact ⟨text, rfl, toUtf8_fromUtf8 valid⟩

theorem readDevices_carries (formed : ∀ item ∈ items, WellFormed item)
    {normalized wides : List WideString}
    (read : readDevices field normalized items = .ok wides) :
    wides.Forall₂ CarriesText items := by
  induction items generalizing normalized wides with
  | nil =>
    cases read
    exact .nil
  | cons item rest ih =>
    obtain ⟨here, others⟩ := forall_mem_cons.mp formed
    obtain ⟨text, isText, read⟩ := bind_eq_ok.mp read
    obtain ⟨_, read⟩ := check_eq_ok read
    obtain ⟨_, read⟩ := check_eq_ok read
    obtain ⟨output, isOutput, read⟩ := bind_eq_ok.mp read
    obtain rfl := pure_eq_ok read
    obtain rfl := asString_eq_ok isText
    exact .cons (carriesText here) (ih others isOutput)

theorem readDeviceArray_carries (formed : WellFormed value) {wides : List WideString}
    (read : readDeviceArray value field = .ok wides) :
    CarriesList wides value := by
  obtain ⟨items, isArray, read⟩ := bind_eq_ok.mp read
  obtain ⟨_, devices⟩ := check_eq_ok read
  obtain rfl := asArray_eq_ok isArray
  cases formed with
  | array each => exact .array (readDevices_carries each devices)

theorem readOptionalWide_carries (formed : WellFormed value) {wide : Option WideString}
    (read : readOptionalWide value field = .ok wide) :
    CarriesOptional wide value := by
  unfold readOptionalWide at read
  split at read
  · cases read
    exact .none
  obtain ⟨text, isText, read⟩ := bind_eq_ok.mp read
  obtain ⟨_, read⟩ := check_eq_ok read
  obtain rfl := pure_eq_ok read
  obtain rfl := asString_eq_ok isText
  exact .some (carriesText formed)

/-! ## Seats -/

/-- A member of a legacy Seat that the new Seat holds. -/
inductive CarriedInSeat (seat : PersistedSeatConfig) : ByteString → Value → Prop
  | id {value : Value} (number : CarriesNumber seat.seatId.toUInt64 value) :
      CarriedInSeat seat "id" value
  | name {value : Value} (text : CarriesText seat.name value) : CarriedInSeat seat "name" value
  | active : CarriedInSeat seat "active" (.bool seat.active)
  | displays {value : Value} (list : CarriesList seat.displayIds value) :
      CarriedInSeat seat "displays" value
  | primaryDisplay {value : Value} (text : CarriesOptional seat.primaryDisplayId value) :
      CarriedInSeat seat "primary_display" value
  | keyboards {value : Value} (list : CarriesList seat.keyboardIds value) :
      CarriedInSeat seat "keyboards" value
  | mice {value : Value} (list : CarriesList seat.mouseIds value) : CarriedInSeat seat "mice" value
  | controllers {value : Value} (list : CarriesList seat.controllerIds value) :
      CarriedInSeat seat "controllers" value
  | audioOutput {value : Value} (text : CarriesOptional seat.audioOutputEndpointId value) :
      CarriedInSeat seat "audio_output" value
  | audioInput {value : Value} (text : CarriesOptional seat.audioInputEndpointId value) :
      CarriedInSeat seat "audio_input" value

def seatPlace (index : Nat) : List ByteString := ["seats", decimal index]

/-- Every member of a legacy Seat is carried over or reported. -/
def SeatAccounted (report : ProfileMigrationReport) (index : Nat)
    (seat : PersistedSeatConfig) (object : Object) : Prop :=
  ∀ entry ∈ object,
    CarriedInSeat seat entry.1 entry.2 ∨ Reported report (seatPlace index ++ [entry.1]) entry.2

theorem SeatAccounted.mono (accounted : SeatAccounted before index seat object)
    (kept : ∀ diagnostic ∈ before.diagnostics, diagnostic ∈ after.diagnostics) :
    SeatAccounted after index seat object :=
  fun entry member => (accounted entry member).imp id (·.mono kept)

theorem written_item {front name : String} (plain : Pointer.escape (bytesOf name) = bytesOf name)
    (isFront : bytesOf front = 0x2F :: bytesOf name ++ [0x2F])
    (index : Nat) :
    bytesOf front ++ decimal index = written [bytesOf name, decimal index] := by
  unfold written
  rw [flatMap_cons, flatMap_cons, flatMap_nil, plain, Pointer.escape_decimal, isFront, append_nil,
    append_assoc]
  rfl

theorem seatPointer_eq (index : Nat) : seatPointer index = written (seatPlace index) :=
  written_item (by decide) (by decide) index

theorem targetPointer_eq (index : Nat) :
    seatPointer index ++ "/target_hwnd" = written (seatPlace index ++ [bytesOf "target_hwnd"]) := by
  have name : "/target_hwnd" = 0x2F :: Pointer.escape "target_hwnd" := by
    decide
  rw [Pointer.written_append, seatPointer_eq, name]

theorem toUInt64_toUInt32 {rawId : UInt64} (inRange : ¬(rawId = 0 || rawId > 0xFFFFFFFF) = true) :
    rawId.toUInt32.toUInt64 = rawId := by
  rw [Bool.or_eq_true, decide_eq_true_eq, decide_eq_true_eq, not_or,
    gt_iff_lt, UInt64.not_lt, UInt64.le_iff_toNat_le] at inRange
  have atMost : rawId.toNat ≤ 4294967295 := inRange.2
  refine UInt64.toNat_inj.mp ?_
  rw [UInt32.toNat_toUInt64, UInt64.toNat_toUInt32]
  exact Nat.mod_eq_of_lt (by omega)

theorem readSeatId_spec {seatId : UInt32} (read : readSeatId seatIds object = .ok seatId) :
    seatId ∉ seatIds ∧
      ∃ value, object.lookup (bytesOf "id") = some value ∧ CarriesNumber seatId.toUInt64 value := by
  obtain ⟨value, isValue, read⟩ := bind_eq_ok.mp read
  obtain ⟨rawId, isNumber, read⟩ := bind_eq_ok.mp read
  obtain ⟨inRange, read⟩ := check_eq_ok read
  obtain ⟨fresh, read⟩ := check_eq_ok read
  obtain rfl := pure_eq_ok read
  refine ⟨fun member => fresh (contains_iff_mem.mpr member), value, required_eq_ok isValue, ?_⟩
  rw [toUInt64_toUInt32 inRange]
  exact carriesNumber_of_asUnsigned isNumber

theorem readSeat_spec {root : Value} (formed : WellFormed value)
    (found : resolve? root (written (seatPlace index)) = some value)
    (read : readSeat index seatIds before value = .ok (seat, after)) :
    Extends root before after ∧ seat.seatId ∉ seatIds ∧
      ∃ object, value = .object object ∧ SeatAccounted after index seat object := by
  unfold readSeat at read
  obtain ⟨object, isObject, read⟩ := bind_eq_ok.mp read
  obtain ⟨seatId, isId, read⟩ := bind_eq_ok.mp read
  obtain ⟨nameValue, isNameValue, read⟩ := bind_eq_ok.mp read
  obtain ⟨name, isName, read⟩ := bind_eq_ok.mp read
  obtain ⟨_, read⟩ := check_eq_ok read
  obtain ⟨activeValue, isActiveValue, read⟩ := bind_eq_ok.mp read
  obtain ⟨active, isActive, read⟩ := bind_eq_ok.mp read
  obtain ⟨target, isTarget, read⟩ := bind_eq_ok.mp read
  obtain ⟨_, _, read⟩ := bind_eq_ok.mp read
  obtain ⟨middle, recorded, read⟩ := bind_eq_ok.mp read
  obtain ⟨displays, isDisplays, read⟩ := bind_eq_ok.mp read
  obtain ⟨displayIds, isDisplayIds, read⟩ := bind_eq_ok.mp read
  obtain ⟨primary, isPrimary, read⟩ := bind_eq_ok.mp read
  obtain ⟨primaryId, isPrimaryId, read⟩ := bind_eq_ok.mp read
  obtain ⟨keyboards, isKeyboards, read⟩ := bind_eq_ok.mp read
  obtain ⟨keyboardIds, isKeyboardIds, read⟩ := bind_eq_ok.mp read
  obtain ⟨mice, isMice, read⟩ := bind_eq_ok.mp read
  obtain ⟨mouseIds, isMouseIds, read⟩ := bind_eq_ok.mp read
  obtain ⟨controllers, isControllers, read⟩ := bind_eq_ok.mp read
  obtain ⟨controllerIds, isControllerIds, read⟩ := bind_eq_ok.mp read
  obtain ⟨output, isOutput, read⟩ := bind_eq_ok.mp read
  obtain ⟨outputId, isOutputId, read⟩ := bind_eq_ok.mp read
  obtain ⟨input, isInput, read⟩ := bind_eq_ok.mp read
  obtain ⟨inputId, isInputId, read⟩ := bind_eq_ok.mp read
  obtain ⟨_, _, read⟩ := bind_eq_ok.mp read
  obtain ⟨last, reported, read⟩ := bind_eq_ok.mp read
  obtain ⟨rfl, rfl⟩ := Prod.mk.inj (Except.ok.inj read)
  obtain rfl := asObject_eq_ok isObject
  have entries := wellFormed_object_iff.mp formed
  have listed := lookup_eq_some_iff_mem entries.distinct
  have looked : ∀ entry ∈ object, object.lookup entry.1 = some entry.2 :=
    fun entry member => (listed entry.1 entry.2).mpr member
  -- A member is the one that was read under its name.
  have isRead {key : String} {value found : Value} (isFound : required object key = .ok found)
      (member : (bytesOf key, value) ∈ object) : found = value := by
    have second := looked _ member
    rw [required_eq_ok isFound] at second
    exact Option.some.inj second
  have place : resolve? root (written (seatPlace index ++ [bytesOf "target_hwnd"])) = some target :=
    (Pointer.resolve?_child found _).trans (required_eq_ok isTarget)
  rw [targetPointer_eq] at recorded
  obtain ⟨first, targetReported⟩ := record_value place (by decide) recorded
  rw [seatPointer_eq] at reported
  obtain ⟨second, others⟩ := reportUnknownFields_spec found looked reported
  obtain ⟨fresh, idValue, isIdValue, number⟩ := readSeatId_spec isId
  refine ⟨first.trans second, fresh, object, rfl, ?_⟩
  rintro ⟨key, value⟩ member
  refine (others _ member).elim (fun known => ?_) .inr
  have each := entries.values _ member
  simp only [seatFields, map_cons, map_nil, mem_cons, not_mem_nil, or_false] at known
  rcases known with rfl | rfl | rfl | rfl | rfl | rfl | rfl | rfl | rfl | rfl | rfl
  · obtain rfl : idValue = value := Option.some.inj (isIdValue.symm.trans (looked _ member))
    exact .inl (.id number)
  · obtain rfl := isRead isNameValue member
    obtain rfl := asString_eq_ok isName
    exact .inl (.name (carriesText each))
  · obtain rfl := isRead isActiveValue member
    obtain rfl := asBool_eq_ok isActive
    exact .inl .active
  · obtain rfl := isRead isTarget member
    exact .inr (targetReported.mono second.kept)
  · obtain rfl := isRead isDisplays member
    exact .inl (.displays (readDeviceArray_carries each isDisplayIds))
  · obtain rfl := isRead isPrimary member
    exact .inl (.primaryDisplay (readOptionalWide_carries each isPrimaryId))
  · obtain rfl := isRead isKeyboards member
    exact .inl (.keyboards (readDeviceArray_carries each isKeyboardIds))
  · obtain rfl := isRead isMice member
    exact .inl (.mice (readDeviceArray_carries each isMouseIds))
  · obtain rfl := isRead isControllers member
    exact .inl (.controllers (readDeviceArray_carries each isControllerIds))
  · obtain rfl := isRead isOutput member
    exact .inl (.audioOutput (readOptionalWide_carries each isOutputId))
  · obtain rfl := isRead isInput member
    exact .inl (.audioInput (readOptionalWide_carries each isInputId))

/-! ## Lists of the root -/

theorem head_of_drop (isRest : items.drop index = item :: rest) :
    items[index]? = some item ∧ items.drop (index + 1) = rest := by
  constructor
  · have first : (items.drop index)[0]? = items[index + 0]? := getElem?_drop
    rw [isRest] at first
    exact first.symm
  · rw [← tail_drop, isRest]
    rfl

theorem resolve?_member (isValue : root.lookup name = some value) :
    resolve? (.object root) (written [name]) = some value := by
  rw [← isValue]
  exact Pointer.resolve?_child (Pointer.resolve?_nil (.object root)) name

theorem resolve?_item {root : Value} (found : resolve? root (written [name]) = some (.array items))
    (isItem : items[index]? = some item) :
    resolve? root (written [name, decimal index]) = some item := by
  have child := Pointer.resolve?_child found (decimal index)
  rw [Pointer.child?_decimal, isItem] at child
  exact child

/-- The new Seats account for the legacy Seats from an index on. -/
def SeatsAccounted (report : ProfileMigrationReport) (index : Nat)
    (seats : List PersistedSeatConfig) (items : List Value) : Prop :=
  seats.length = items.length ∧
    ∀ offset seat item, seats[offset]? = some seat → items[offset]? = some item →
      ∃ object, item = .object object ∧ SeatAccounted report (index + offset) seat object

theorem SeatsAccounted.cons {report : ProfileMigrationReport}
    (first : SeatAccounted report index seat object)
    (others : SeatsAccounted report (index + 1) seats items) :
    SeatsAccounted report index (seat :: seats) (.object object :: items) := by
  refine ⟨congrArg Nat.succ others.1, ?_⟩
  rintro (_ | offset) found item isSeat isItem
  · cases isSeat
    cases isItem
    exact ⟨object, rfl, first⟩
  · rw [show index + (offset + 1) = index + 1 + offset by omega]
    exact others.2 offset found item isSeat isItem

theorem readSeats_spec {root : Value}
    (found : resolve? root (written ["seats"]) = some (.array items))
    (formed : ∀ item ∈ items, WellFormed item) (isRest : items.drop index = rest)
    {all : List PersistedSeatConfig}
    (distinct : (seats.map (·.seatId)).Nodup)
    (read : readSeats index seats before rest = .ok (all, after)) :
    Extends root before after ∧ (all.map (·.seatId)).Nodup ∧
      ∃ added, all = seats ++ added ∧ SeatsAccounted after index added rest := by
  induction rest generalizing index seats before with
  | nil =>
    cases read
    exact ⟨.refl root _, distinct, [], (append_nil _).symm, rfl, fun _ _ _ => (by simp)⟩
  | cons item rest ih =>
    obtain ⟨isItem, isTail⟩ := head_of_drop isRest
    obtain ⟨⟨seat, middle⟩, isSeat, later⟩ := bind_eq_ok.mp read
    obtain ⟨first, fresh, object, rfl, accounted⟩ :=
      readSeat_spec (formed item (mem_of_getElem? isItem)) (resolve?_item found isItem) isSeat
    have distinctAfter : ((seats ++ [seat]).map (·.seatId)).Nodup := by
      rw [map_append, nodup_append]
      refine ⟨distinct, nodup_singleton _, ?_⟩
      rintro seatId member other isOther rfl
      rw [mem_singleton.mp isOther] at member
      exact fresh member
    obtain ⟨second, allDistinct, added, isAll, others⟩ := ih isTail distinctAfter later
    exact ⟨first.trans second, allDistinct, seat :: added, by rw [isAll, append_assoc]; rfl,
      .cons (accounted.mono second.kept) others⟩

/-! ## Shareable resources -/

/-- A declaration of the legacy document names a resource. -/
def Declares (item : Value) (resource : ResourceKey) : Prop :=
  ∃ object type id, item = .object object ∧ object.lookup (bytesOf "type") = some (.string type) ∧
    object.lookup (bytesOf "id") = some (.string id) ∧
    parseResourceType type = .ok resource.type ∧
    resource.normalizedId = normalizeResourceId (fromUtf8 id)

theorem readShareable_declares
    (read : readShareable item = .ok resource) : Declares item resource := by
  obtain ⟨object, isObject, read⟩ := bind_eq_ok.mp read
  obtain ⟨typeValue, isTypeValue, read⟩ := bind_eq_ok.mp read
  obtain ⟨typeText, isTypeText, read⟩ := bind_eq_ok.mp read
  obtain ⟨type, isType, read⟩ := bind_eq_ok.mp read
  obtain ⟨idValue, isIdValue, read⟩ := bind_eq_ok.mp read
  obtain ⟨id, isId, read⟩ := bind_eq_ok.mp read
  obtain ⟨_, read⟩ := check_eq_ok read
  obtain rfl := pure_eq_ok read
  refine ⟨object, typeText, id, asObject_eq_ok isObject, ?_, ?_, isType, rfl⟩
  · rw [required_eq_ok isTypeValue, asString_eq_ok isTypeText]
  · rw [required_eq_ok isIdValue, asString_eq_ok isId]

theorem readShareables_spec {root : Value}
    (found : resolve? root (written ["shareable_resources"]) = some (.array items))
    (isRest : items.drop index = rest)
    {all : List ResourceKey}
    (read : readShareables index resources before rest = .ok (all, after)) :
    Extends root before after ∧
      (∀ offset item, rest[offset]? = some item →
        Reported after ["shareable_resources", decimal (index + offset)] item) ∧
      ∀ resource ∈ all, resource ∈ resources ∨ ∃ item ∈ rest, Declares item resource := by
  induction rest generalizing index resources before with
  | nil =>
    cases read
    exact ⟨.refl root _, fun _ _ => (by simp), fun _ member => .inl member⟩
  | cons item rest ih =>
    obtain ⟨isItem, isRest⟩ := head_of_drop isRest
    obtain ⟨resource, isResource, read⟩ := bind_eq_ok.mp read
    obtain ⟨middle, recorded, read⟩ := bind_eq_ok.mp read
    have place : "/shareable_resources/" ++ decimal index =
        written ["shareable_resources", decimal index] :=
      written_item (by decide) (by decide) index
    rw [place] at recorded
    obtain ⟨first, reported⟩ := record_value (resolve?_item found isItem) (by decide) recorded
    obtain ⟨second, others, declared⟩ := ih isRest read
    refine ⟨first.trans second, ?_, ?_⟩
    · rintro (_ | offset) other isOther
      · cases isOther
        exact reported.mono second.kept
      · rw [show index + (offset + 1) = index + 1 + offset by omega]
        exact others offset other isOther
    · intro other member
      rcases declared other member with earlier | ⟨later, isLater, here⟩
      · rcases mem_cons.mp earlier with rfl | earlier
        · exact .inr ⟨item, mem_cons_self, readShareable_declares isResource⟩
        · exact .inl earlier
      · exact .inr ⟨later, mem_cons_of_mem _ isLater, here⟩

theorem readShareableResources_spec
    (read : readShareableResources root before = .ok (resources, after)) :
    Extends (.object root) before after ∧
      (∀ value, root.lookup (bytesOf "shareable_resources") = some value →
        ∃ items, value = .array items ∧
          ∀ index item, items[index]? = some item →
            Reported after ["shareable_resources", decimal index] item) ∧
      ∀ resource ∈ resources,
        ∃ items,
          root.lookup (bytesOf "shareable_resources") = some (.array items) ∧
            ∃ item ∈ items, Declares item resource := by
  unfold readShareableResources at read
  split at read
  next absent =>
    cases read
    refine ⟨.refl _ _, fun value isValue => ?_, by simp⟩
    rw [absent] at isValue
    cases isValue
  next value isValue =>
    obtain ⟨items, isArray, read⟩ := bind_eq_ok.mp read
    obtain ⟨_, loop⟩ := check_eq_ok read
    obtain rfl := asArray_eq_ok isArray
    obtain ⟨extended, reported, declared⟩ :=
      readShareables_spec (resolve?_member isValue) drop_zero loop
    refine ⟨extended, ?_, fun resource member => ?_⟩
    · intro other isOther
      rw [isValue] at isOther
      cases isOther
      refine ⟨items, rfl, fun index item isItem => ?_⟩
      rw [← Nat.zero_add index]
      exact reported index item isItem
    · rcases declared resource member with impossible | here
      · cases impossible
      · exact ⟨items, isValue, here⟩

/-! ## Owners -/

def Owns (seat : PersistedSeatConfig) (resource : ResourceKey) : Prop :=
  (resource, seat.seatId) ∈ ownersOf seat

theorem shareable_of_two_owners
    (checked : ¬sharesUndeclared resources (seats.flatMap ownersOf) = true)
    {first second : PersistedSeatConfig} (isFirst : first ∈ seats)
    (isSecond : second ∈ seats) (apart : first.seatId ≠ second.seatId)
    (firstOwns : Owns first resource)
    (secondOwns : Owns second resource) : resource ∈ resources := by
  by_contra undeclared
  refine checked (any_eq_true.mpr
    ⟨(resource, first.seatId), mem_flatMap.mpr ⟨first, isFirst, firstOwns⟩, ?_⟩)
  have shared : ((seats.flatMap ownersOf).any fun owner =>
      owner.1 == resource && owner.2 != first.seatId) = true := by
    refine any_eq_true.mpr
      ⟨(resource, second.seatId), mem_flatMap.mpr ⟨second, isSecond, secondOwns⟩, ?_⟩
    exact Bool.and_eq_true_iff.mpr ⟨beq_self_eq_true resource, bne_iff_ne.mpr (Ne.symm apart)⟩
  have absent : resources.contains resource = false :=
    Bool.eq_false_iff.mpr fun contained => undeclared (contains_iff_mem.mp contained)
  change (List.any _ _ && !resources.contains resource) = true
  rw [shared, absent]
  rfl

/-! ## The whole plan -/

theorem readManagementSeat_spec (document : Value) {managementSeatId : UInt32}
    (read : readManagementSeat root seatIds before = .ok (managementSeatId, after)) :
    Extends document before after ∧
      ∀ value, root.lookup (bytesOf "management_seat_id") = some value →
        CarriesNumber managementSeatId.toUInt64 value := by
  unfold readManagementSeat at read
  split at read
  next value isValue =>
    obtain ⟨rawId, isNumber, read⟩ := bind_eq_ok.mp read
    obtain ⟨inRange, read⟩ := check_eq_ok read
    obtain ⟨rfl, rfl⟩ := Prod.mk.inj (Except.ok.inj read)
    refine ⟨.refl _ _, fun other isOther => ?_⟩
    rw [isValue] at isOther
    cases isOther
    rw [toUInt64_toUInt32 inRange]
    exact carriesNumber_of_asUnsigned isNumber
  next absent =>
    obtain ⟨report, added, read⟩ := bind_eq_ok.mp read
    obtain ⟨rfl, rfl⟩ := Prod.mk.inj (Except.ok.inj read)
    refine ⟨extends_of_addDiagnostic added (.inl rfl), fun _ isValue => ?_⟩
    rw [absent] at isValue
    cases isValue

theorem finishPlan_spec {candidate bundle : ProfileMigrationBundle}
    (finished : finishPlan candidate = .ok bundle) :
    validateSeatConfigDocument bundle.seats = .ok () ∧ bundle.seats = candidate.seats ∧
      bundle.report.legacySchemaVersion = candidate.report.legacySchemaVersion ∧
      bundle.report.diagnostics.Perm candidate.report.diagnostics := by
  unfold finishPlan at finished
  split at finished
  · cases finished
  next valid =>
    obtain ⟨_, _, finished⟩ := bind_eq_ok.mp finished
    obtain ⟨_, _, finished⟩ := bind_eq_ok.mp finished
    split at finished
    · cases finished
    · obtain rfl := pure_eq_ok finished
      exact ⟨valid, rfl, rfl, perm_insertionSort _ _⟩

/-- A member of the legacy root that the bundle holds. -/
inductive CarriedInRoot (bundle : ProfileMigrationBundle) : ByteString → Value → Prop
  | schemaVersion {value : Value}
      (number : CarriesNumber bundle.report.legacySchemaVersion.toUInt64 value) :
      CarriedInRoot bundle "schema_version" value
  | managementSeat {value : Value}
      (number : CarriesNumber bundle.seats.managementSeatId.toUInt64 value) :
      CarriedInRoot bundle "management_seat_id" value
  | shareableResources {items : List Value}
      (each :
        ∀ index item, items[index]? = some item →
          Reported bundle.report ["shareable_resources", decimal index] item) :
      CarriedInRoot bundle "shareable_resources" (.array items)
  | seats {items : List Value} {seats : List PersistedSeatConfig}
      (same : seats.Perm bundle.seats.seats)
      (accounted : SeatsAccounted bundle.report 0 seats items) :
      CarriedInRoot bundle "seats" (.array items)

/-- What holds of a bundle that was made of a legacy root. -/
structure Lossless (root : Object) (bundle : ProfileMigrationBundle) : Prop where
  accounted :
    ∀ entry ∈ root, CarriedInRoot bundle entry.1 entry.2 ∨ Reported bundle.report [entry.1] entry.2
  sound : ∀ diagnostic ∈ bundle.report.diagnostics, Sound (.object root) diagnostic
  distinct : (bundle.seats.seats.map (·.seatId)).Nodup
  declared :
    ∀ first ∈ bundle.seats.seats, ∀ second ∈ bundle.seats.seats, first.seatId ≠ second.seatId →
      ∀ resource, Owns first resource → Owns second resource →
        ∃ items,
          root.lookup (bytesOf "shareable_resources") = some (.array items) ∧
            ∃ item ∈ items, Declares item resource
  valid : validateSeatConfigDocument bundle.seats = .ok ()

theorem planRoot_lossless (formed : WellFormed (.object root)) {byteCount : Nat}
    {fingerprint : UInt64} {bundle : ProfileMigrationBundle}
    (planned : planRoot byteCount fingerprint root = .ok bundle) :
    Lossless root bundle := by
  unfold planRoot at planned
  obtain ⟨version, isVersion, planned⟩ := bind_eq_ok.mp planned
  obtain ⟨versionNumber, isNumber, planned⟩ := bind_eq_ok.mp planned
  obtain ⟨supported, planned⟩ := check_eq_ok planned
  obtain ⟨unknown, reported, planned⟩ := bind_eq_ok.mp planned
  obtain ⟨⟨resources, shared⟩, isShared, planned⟩ := bind_eq_ok.mp planned
  obtain ⟨seatsValue, isSeatsValue, planned⟩ := bind_eq_ok.mp planned
  obtain ⟨items, isItems, planned⟩ := bind_eq_ok.mp planned
  obtain ⟨_, planned⟩ := check_eq_ok planned
  obtain ⟨⟨seats, withSeats⟩, isSeats, planned⟩ := bind_eq_ok.mp planned
  obtain ⟨checked, planned⟩ := check_eq_ok planned
  obtain ⟨⟨management, last⟩, isManagement, planned⟩ := bind_eq_ok.mp planned
  obtain ⟨_, finished⟩ := check_eq_ok planned
  obtain rfl := asArray_eq_ok isItems
  have entries := wellFormed_object_iff.mp formed
  have listed := lookup_eq_some_iff_mem entries.distinct
  have looked : ∀ entry ∈ root, root.lookup entry.1 = some entry.2 :=
    fun entry member => (listed entry.1 entry.2).mpr member
  have seatsFound := required_eq_ok isSeatsValue
  have seatsFormed : ∀ item ∈ items, WellFormed item := by
    cases entries.values _ ((listed _ _).mp seatsFound) with
    | array each => exact each
  -- What each step adds to the report.
  obtain ⟨first, unknownFields⟩ := reportUnknownFields_spec (Pointer.resolve?_nil _) looked reported
  obtain ⟨second, shareables, declared⟩ := readShareableResources_spec isShared
  have noSeats : (([] : List PersistedSeatConfig).map (·.seatId)).Nodup := nodup_nil
  obtain ⟨third, distinct, added, rfl, seatsAccounted⟩ :=
    readSeats_spec (resolve?_member seatsFound) seatsFormed drop_zero noSeats isSeats
  obtain ⟨fourth, managementNumber⟩ := readManagementSeat_spec (.object root) isManagement
  obtain ⟨valid, isSeatDocument, isVersionNumber, sameDiagnostics⟩ := finishPlan_spec finished
  have kept : ∀ diagnostic ∈ last.diagnostics, diagnostic ∈ bundle.report.diagnostics :=
    fun diagnostic member => sameDiagnostics.mem_iff.mpr member
  have whole := ((first.trans second).trans third).trans fourth
  have sameSeats : seats.Perm bundle.seats.seats := by
    rw [isSeatDocument]
    exact (perm_insertionSort _ _).symm
  have isOwner : ∀ seat ∈ bundle.seats.seats, seat ∈ seats :=
    fun seat member => sameSeats.mem_iff.mpr member
  have carriedVersion : CarriesNumber bundle.report.legacySchemaVersion.toUInt64 version := by
    rw [isVersionNumber, whole.frame]
    have number := carriesNumber_of_asUnsigned isNumber
    rw [not_not.mp supported] at number
    exact number
  refine
    { accounted := ?_
      sound := fun diagnostic member =>
        (whole.sound diagnostic (sameDiagnostics.mem_iff.mp member)).resolve_left not_mem_nil
      distinct := ((sameSeats.map _).nodup_iff).mp distinct
      declared := fun one isOne other isOther apart resource oneOwns otherOwns =>
        declared resource
          (shareable_of_two_owners checked (isOwner one isOne)
            (isOwner other isOther) apart oneOwns otherOwns)
      valid }
  rintro ⟨key, value⟩ member
  refine (unknownFields _ member).elim (fun known => ?_) fun here =>
    .inr (((here.mono second.kept).mono third.kept).mono
      (fun _ inReport => kept _ (fourth.kept _ inReport)))
  have found := looked _ member
  simp only [rootFields, map_cons, map_nil, mem_cons, not_mem_nil, or_false] at known
  rcases known with rfl | rfl | rfl | rfl
  · obtain rfl : version = value := Option.some.inj ((required_eq_ok isVersion).symm.trans found)
    exact .inl (.schemaVersion carriedVersion)
  · have number := managementNumber value found
    refine .inl (.managementSeat ?_)
    rw [isSeatDocument]
    exact number
  · obtain ⟨declarations, rfl, each⟩ := shareables value found
    exact .inl (.shareableResources fun index item isItem =>
      ((each index item isItem).mono third.kept).mono
        fun _ inReport => kept _ (fourth.kept _ inReport))
  · obtain rfl : array items = value := Option.some.inj (seatsFound.symm.trans found)
    refine .inl (.seats sameSeats ⟨seatsAccounted.1, ?_⟩)
    intro index seat item isSeat isItem
    obtain ⟨object, isObject, accounted⟩ := seatsAccounted.2 index seat item isSeat isItem
    exact ⟨object, isObject, accounted.mono fun _ inReport => kept _ (fourth.kept _ inReport)⟩

/-! ## Failures -/

/-- A computation that fails does not claim success. -/
abbrev Honest {Item : Type} (attempt : Attempt Item) : Prop :=
  Fails (fun exception => exception.result ≠ .success) attempt

section Failures

variable {Item : Type}
variable {result : ProfileMigrationResult}

theorem fail_honest {message : ByteString} (notSuccess : result ≠ .success) :
    Honest (fail result message : Attempt Item) :=
  .error notSuccess

theorem check_honest {condition : Prop} [Decidable condition] {message : ByteString}
    {next : Unit → Attempt Item} (notSuccess : result ≠ .success)
    (late : Honest (next ())) :
    Honest (if condition then fail result message >>= next else next ()) :=
  .check notSuccess late

theorem parseLegacy_honest (text : ByteString) : Honest (parseLegacy text) := by
  unfold parseLegacy
  split
  · exact .ok _
  · exact fail_honest (by decide)

theorem asObject_honest : Honest (asObject value field) := by
  unfold asObject
  split
  · exact .ok _
  · exact fail_honest (by decide)

theorem asArray_honest : Honest (asArray value field) := by
  unfold asArray
  split
  · exact .ok _
  · exact fail_honest (by decide)

theorem asString_honest : Honest (asString value field) := by
  unfold asString
  split
  · exact .ok _
  · exact fail_honest (by decide)

theorem asBool_honest (value : Value) (field : String) : Honest (asBool value field) := by
  unfold asBool
  split
  · exact .ok _
  · exact fail_honest (by decide)

theorem asUnsigned_honest : Honest (asUnsigned value field) := by
  unfold asUnsigned
  split
  · exact fail_honest (by decide)
  · split
    · exact fail_honest (by decide)
    · exact .ok _

theorem required_honest {key : String} : Honest (required object key) := by
  unfold required
  split
  · exact fail_honest (by decide)
  · exact .ok _

theorem addDiagnostic_honest {report : ProfileMigrationReport}
    {kind : ProfileMigrationDiagnosticKind}
    {path valueJson note : ByteString} :
    Honest (addDiagnostic report kind path valueJson note) := by
  unfold addDiagnostic
  split
  · exact fail_honest (by decide)
  · split
    · exact fail_honest (by decide)
    · exact .ok _

theorem reportUnknownFields_honest (known : List String)
    (basePointer : ByteString) (report : ProfileMigrationReport)
    (entries : Object) :
    Honest (reportUnknownFields known basePointer report entries) := by
  induction entries generalizing report with
  | nil => exact .ok _
  | cons entry rest ih =>
    unfold reportUnknownFields
    split
    · exact ih report
    · exact .bind addDiagnostic_honest ih

theorem readDevices_honest (field : String) (normalized : List WideString) (items : List Value) :
    Honest (readDevices field normalized items) := by
  induction items generalizing normalized with
  | nil => exact .ok _
  | cons item rest ih =>
    exact .bind asString_honest fun text =>
      check_honest (by decide) (check_honest (by decide) (.bind (ih _) fun _ => .ok _))

theorem readDeviceArray_honest :
    Honest (readDeviceArray value field) :=
  .bind asArray_honest fun _ => check_honest (by decide) (readDevices_honest _ _ _)

theorem readOptionalWide_honest :
    Honest (readOptionalWide value field) := by
  unfold readOptionalWide
  split
  · exact .ok _
  · exact .bind asString_honest fun _ => check_honest (by decide) (.ok _)

theorem parseResourceType_honest (type : ByteString) : Honest (parseResourceType type) := by
  unfold parseResourceType
  split
  · exact .ok _
  split
  · exact .ok _
  split
  · exact .ok _
  split
  · exact .ok _
  split
  · exact .ok _
  · split
    · exact .ok _
    · exact fail_honest (by decide)

theorem readShareable_honest (value : Value) : Honest (readShareable value) :=
  .bind asObject_honest fun _ =>
    .bind required_honest fun _ =>
      .bind asString_honest fun _ =>
        .bind (parseResourceType_honest _) fun _ =>
          .bind required_honest fun _ =>
            .bind asString_honest fun _ => check_honest (by decide) (.ok _)

theorem readShareables_honest (index : Nat) (resources : List ResourceKey)
    (report : ProfileMigrationReport) (items : List Value) :
    Honest (readShareables index resources report items) := by
  induction items generalizing index resources report with
  | nil => exact .ok _
  | cons item rest ih =>
    exact .bind (readShareable_honest _) fun _ => .bind addDiagnostic_honest fun _ => ih _ _ _

theorem readShareableResources_honest (root : Object) (report : ProfileMigrationReport) :
    Honest (readShareableResources root report) := by
  unfold readShareableResources
  split
  · exact .ok _
  · exact .bind asArray_honest fun _ => check_honest (by decide) (readShareables_honest _ _ _ _)

theorem checkPrimaryDisplay_honest (seat : PersistedSeatConfig) :
    Honest (checkPrimaryDisplay seat) := by
  unfold checkPrimaryDisplay
  split
  · dsimp only
    split
    · exact fail_honest (by decide)
    · exact .ok _
  · split
    · exact fail_honest (by decide)
    · exact .ok _

theorem readSeatId_honest (seatIds : List UInt32) (object : Object) :
    Honest (readSeatId seatIds object) :=
  .bind required_honest fun _ =>
    .bind asUnsigned_honest fun _ => check_honest (by decide) (check_honest (by decide) (.ok _))

theorem readSeat_honest (index : Nat) (seatIds : List UInt32)
    (report : ProfileMigrationReport) (value : Value) :
    Honest (readSeat index seatIds report value) :=
  .bind asObject_honest fun object =>
  .bind (readSeatId_honest _ _) fun _ =>
  .bind required_honest fun _ =>
  .bind asString_honest fun _ => check_honest (by decide) <|
  .bind required_honest fun _ => .bind (asBool_honest _ _) fun _ =>
  .bind required_honest fun _ =>
  .bind asUnsigned_honest fun _ =>
  .bind addDiagnostic_honest fun _ =>
  .bind required_honest fun _ =>
  .bind readDeviceArray_honest fun _ =>
  .bind required_honest fun _ =>
  .bind readOptionalWide_honest fun _ =>
  .bind required_honest fun _ =>
  .bind readDeviceArray_honest fun _ =>
  .bind required_honest fun _ =>
  .bind readDeviceArray_honest fun _ =>
  .bind required_honest fun _ =>
  .bind readDeviceArray_honest fun _ =>
  .bind required_honest fun _ =>
  .bind readOptionalWide_honest fun _ =>
  .bind required_honest fun _ =>
  .bind readOptionalWide_honest fun _ =>
  .bind (checkPrimaryDisplay_honest _) fun _ =>
  .bind (reportUnknownFields_honest _ _ _ object) fun _ => .ok _

theorem readSeats_honest (index : Nat) (seats : List PersistedSeatConfig)
    (report : ProfileMigrationReport) (items : List Value) :
    Honest (readSeats index seats report items) := by
  induction items generalizing index seats report with
  | nil => exact .ok _
  | cons item rest ih => exact .bind (readSeat_honest _ _ _ _) fun _ => ih _ _ _

theorem readManagementSeat_honest (root : Object)
    (seatIds : List UInt32) (report : ProfileMigrationReport) :
    Honest (readManagementSeat root seatIds report) := by
  unfold readManagementSeat
  split
  · exact .bind asUnsigned_honest fun _ => check_honest (by decide) (.ok _)
  · exact .bind addDiagnostic_honest fun _ => .ok _

theorem validateReport_honest (report : ProfileMigrationReport) :
    Honest (validateReport report) := by
  unfold validateReport
  split
  · exact fail_honest (by decide)
  split
  · exact fail_honest (by decide)
  · split
    · exact fail_honest (by decide)
    · exact .ok _

theorem finishPlan_honest (candidate : ProfileMigrationBundle) : Honest (finishPlan candidate) := by
  unfold finishPlan
  split
  · exact fail_honest (by decide)
  refine .bind ?_ fun _ => .bind (validateReport_honest _) fun _ => ?_
  · unfold checkEmptyDocuments
    dsimp only
    split
    · exact .ok _
    · exact fail_honest (by decide)
  · split
    · exact fail_honest (by decide)
    · exact .ok _

theorem planRoot_honest (byteCount : Nat) (fingerprint : UInt64) (root : Object) :
    Honest (planRoot byteCount fingerprint root) := by
  unfold planRoot
  refine .bind required_honest fun _ => .bind asUnsigned_honest fun _ => check_honest (by decide) ?_
  refine .bind (reportUnknownFields_honest _ _ _ _) fun _ =>
    .bind (readShareableResources_honest _ _) fun _ => ?_
  refine .bind required_honest fun _ => .bind asArray_honest fun _ => check_honest (by decide) ?_
  refine .bind (readSeats_honest _ _ _ _) fun _ => check_honest (by decide) ?_
  exact .bind (readManagementSeat_honest _ _ _) fun _ =>
    check_honest (by decide) (finishPlan_honest _)

theorem planBundle_honest (text : ByteString) : Honest (planBundle text) := by
  unfold planBundle
  exact check_honest (by decide) <| .bind (parseLegacy_honest _) fun _ =>
    .bind asObject_honest fun _ => planRoot_honest _ _ _

end Failures

/-- Every member of the legacy document is carried into the bundle or
reported, and a failure leaves the bundle as it was. -/
theorem planLegacyWorkspaceMigration_lossless (text : ByteString)
    (bundle : ProfileMigrationBundle) :
    let (outcome, after) := planLegacyWorkspaceMigration text bundle
    (outcome.result ≠ .success → after = bundle) ∧
      (outcome.result = .success →
        outcome.report = after.report ∧
          ∃ root, parseLegacy text = .ok (.object root) ∧ Lossless root after) := by
  unfold planLegacyWorkspaceMigration
  cases planned : planBundle text with
  | error exception =>
    exact ⟨fun _ => rfl, fun success => absurd success (planBundle_honest text exception planned)⟩
  | ok candidate =>
    refine ⟨fun failed => absurd rfl failed, fun _ => ⟨rfl, ?_⟩⟩
    unfold planBundle at planned
    obtain ⟨_, planned⟩ := check_eq_ok planned
    obtain ⟨value, parsed, planned⟩ := bind_eq_ok.mp planned
    obtain ⟨root, isRoot, planned⟩ := bind_eq_ok.mp planned
    obtain rfl := asObject_eq_ok isRoot
    exact ⟨root, parsed, planRoot_lossless (parseLegacy_wellFormed parsed) planned⟩

end HydraSeat.Profile.Migration
