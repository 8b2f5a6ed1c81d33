import HydraSeat.Plan.ProviderLaunchPlan
import Mathlib.Data.List.Pairwise

/-!
# The identity of devices in a plan

The profile layer takes two ids for one device when they differ in the case
of ASCII letters only.  The planner compares the ids as they are spelled.
-/

namespace HydraSeat.Plan

open Foundation
open Profile Bool List PlanningInput
open Provider

variable {left right : PersistedSeatConfig} {values : List WideString} {seat : PersistedSeatConfig}
  {seats : List PersistedSeatConfig} {document : SeatConfigDocument}
  {assigned after : AssignedHardware}

/-! ## Devices of a Seat -/

inductive DeviceKind where
  | display | keyboard | mouse | controller | audioOutput

def DeviceKind.ids (seat : PersistedSeatConfig) : DeviceKind → List WideString
  | .display => seat.displayIds
  | .keyboard => seat.keyboardIds
  | .mouse => seat.mouseIds
  | .controller => seat.controllerIds
  | .audioOutput => seat.audioOutputEndpointId.toList

def SharesDevice (left right : PersistedSeatConfig) : Prop :=
  ∃ kind, ∃ leftId ∈ DeviceKind.ids left kind,
    ∃ rightId ∈ DeviceKind.ids right kind, equivalentDeviceId leftId rightId = true

/-- Two Seats hold one id, spelled the same. -/
def SharesId (left right : PersistedSeatConfig) : Prop :=
  ∃ kind, ∃ id ∈ DeviceKind.ids left kind, id ∈ DeviceKind.ids right kind

/-- The primary display is a member of the display group. -/
def PrimaryInGroup (seat : PersistedSeatConfig) : Prop :=
  ∃ primary, seat.primaryDisplayId = some primary ∧
    ∃ id ∈ seat.displayIds, equivalentDeviceId id primary = true

theorem equivalentDeviceId_refl (id : WideString) : equivalentDeviceId id id = true :=
  beq_self_eq_true _

theorem equivalentDeviceId_symm {left right : WideString}
    (same : equivalentDeviceId left right = true) :
    equivalentDeviceId right left = true :=
  beq_iff_eq.mpr (beq_iff_eq.mp same).symm

theorem SharesDevice.symm (shares : SharesDevice left right) : SharesDevice right left := by
  obtain ⟨kind, leftId, inLeft, rightId, inRight, same⟩ := shares
  exact ⟨kind, rightId, inRight, leftId, inLeft, equivalentDeviceId_symm same⟩

theorem SharesId.symm (shares : SharesId left right) : SharesId right left := by
  obtain ⟨kind, id, inLeft, inRight⟩ := shares
  exact ⟨kind, id, inRight, inLeft⟩

/-! ## What a valid Seat document says -/

theorem nodup_of_not_repeatsDevice (single : repeatsDevice values = false) : values.Nodup := by
  induction values with
  | nil => exact nodup_nil
  | cons value rest ih =>
    obtain ⟨noOther, later⟩ := Bool.or_eq_false_iff.mp single
    refine nodup_cons.mpr ⟨fun member => ?_, ih later⟩
    exact false_ne_true
      (noOther.symm.trans (any_eq_true.mpr ⟨value, member, equivalentDeviceId_refl value⟩))

theorem nodup_of_validateDeviceList
    {field : String} (valid : validateDeviceList values field = .ok ()) :
    values.Nodup := by
  unfold validateDeviceList at valid
  obtain ⟨_, valid⟩ := check_eq_ok valid
  obtain ⟨_, _, valid⟩ := bind_eq_ok.mp valid
  split at valid
  · cases valid
  next single => exact nodup_of_not_repeatsDevice (not_eq_true _ ▸ single)

/-- The ids of every kind are distinct, and the primary display is in the
group. -/
structure SoundSeat (seat : PersistedSeatConfig) : Prop where
  nodup : ∀ kind, (DeviceKind.ids seat kind).Nodup
  primary : ∀ primary, seat.primaryDisplayId = some primary → PrimaryInGroup seat

theorem soundSeat_of_validateSeat (valid : validateSeat seat = .ok ()) : SoundSeat seat := by
  unfold validateSeat at valid
  obtain ⟨_, _, valid⟩ := bind_eq_ok.mp valid
  obtain ⟨_, displays, valid⟩ := bind_eq_ok.mp valid
  obtain ⟨_, keyboards, valid⟩ := bind_eq_ok.mp valid
  obtain ⟨_, mice, valid⟩ := bind_eq_ok.mp valid
  obtain ⟨_, controllers, valid⟩ := bind_eq_ok.mp valid
  obtain ⟨_, _, valid⟩ := bind_eq_ok.mp valid
  obtain ⟨inGroup, _⟩ := check_eq_ok valid
  refine ⟨fun kind => ?_, fun primary isPrimary => ?_⟩
  · cases kind with
    | display => exact nodup_of_validateDeviceList displays
    | keyboard => exact nodup_of_validateDeviceList keyboards
    | mouse => exact nodup_of_validateDeviceList mice
    | controller => exact nodup_of_validateDeviceList controllers
    | audioOutput =>
      show seat.audioOutputEndpointId.toList.Nodup
      cases seat.audioOutputEndpointId with
      | none => exact nodup_nil
      | some endpoint => exact nodup_singleton endpoint
  · rw [isPrimary, Option.any_some, not_eq_true', not_eq_false] at inGroup
    obtain ⟨id, member, same⟩ := any_eq_true.mp inGroup
    exact ⟨primary, isPrimary, id, member, same⟩

theorem validateSeats_spec {seatIds : List UInt32} (valid : validateSeats seatIds seats = .ok ()) :
    (∀ seat ∈ seats, SoundSeat seat ∧ seat.seatId ∉ seatIds) ∧ (seats.map (·.seatId)).Nodup := by
  induction seats generalizing seatIds with
  | nil => exact ⟨nofun, nodup_nil⟩
  | cons seat rest ih =>
    unfold validateSeats at valid
    obtain ⟨_, valid⟩ := check_eq_ok valid
    obtain ⟨fresh, valid⟩ := check_eq_ok valid
    obtain ⟨_, isSeat, valid⟩ := bind_eq_ok.mp valid
    obtain ⟨others, distinct⟩ := ih valid
    refine ⟨?_, nodup_cons.mpr ⟨?_, distinct⟩⟩
    · intro other member
      rcases mem_cons.mp member with rfl | later
      · exact ⟨soundSeat_of_validateSeat isSeat, fresh⟩
      · obtain ⟨sound, notSeen⟩ := others other later
        exact ⟨sound, fun seen => notSeen (mem_cons_of_mem _ seen)⟩
    · intro member
      obtain ⟨other, later, sameId⟩ := mem_map.mp member
      exact (others other later).2 (sameId ▸ mem_cons_self)

/-- What the planner relies on in a Seat document. -/
structure SoundSeats (document : SeatConfigDocument) : Prop where
  sound : ∀ seat ∈ document.seats, SoundSeat seat
  distinct : (document.seats.map (·.seatId)).Nodup

theorem soundSeats_of_validate (valid : validateSeatConfigDocument document = .ok ()) :
    SoundSeats document := by
  unfold validateSeatConfigDocument at valid
  obtain ⟨_, valid⟩ := check_eq_ok valid
  obtain ⟨_, valid⟩ := check_eq_ok valid
  obtain ⟨_, seats, _⟩ := bind_eq_ok.mp valid
  obtain ⟨sound, distinct⟩ := validateSeats_spec seats
  exact ⟨fun seat member => (sound seat member).1, distinct⟩

theorem findSeat_eq_some (sound : SoundSeats document) (member : seat ∈ document.seats) :
    findSeat document seat.seatId = some seat := by
  obtain ⟨_, _, seats⟩ := document
  have distinct := sound.distinct
  unfold findSeat
  dsimp only at member distinct ⊢
  clear sound
  induction seats with
  | nil => cases member
  | cons first rest ih =>
    obtain ⟨fresh, later⟩ := nodup_cons.mp distinct
    rcases mem_cons.mp member with rfl | inRest
    · exact find?_cons_of_pos (beq_self_eq_true _)
    rw [find?_cons_of_neg]
    · exact ih inRest later
    · intro sameId
      have known : seat.seatId ∈ rest.map (·.seatId) := mem_map_of_mem inRest
      rw [← beq_iff_eq.mp sameId] at known
      exact fresh known

/-! ## The exclusive hardware -/

def AssignedHardware.ids (assigned : AssignedHardware) : DeviceKind → List WideString
  | .display => assigned.displays
  | .keyboard => assigned.keyboards
  | .mouse => assigned.mice
  | .controller => assigned.controllers
  | .audioOutput => assigned.audio

theorem assign_eq_some_iff {seen ids after : List WideString} :
    assign seen ids = some after ↔
      ids.Nodup ∧ (∀ id ∈ ids, id ∉ seen) ∧ after = ids.reverse ++ seen := by
  induction ids generalizing seen with
  | nil =>
    rw [assign, Option.some.injEq]
    exact ⟨fun same => ⟨nodup_nil, nofun, same.symm⟩, fun ⟨_, _, same⟩ => same.symm⟩
  | cons id rest ih =>
    rw [assign]
    split
    next member =>
      refine ⟨nofun, fun ⟨_, fresh, _⟩ => ?_⟩
      exact absurd member (fresh id mem_cons_self)
    next fresh =>
      rw [ih, nodup_cons, forall_mem_cons, reverse_cons, append_assoc, singleton_append]
      constructor
      · rintro ⟨nodup, others, same⟩
        refine ⟨⟨fun member => ?_, nodup⟩, ⟨fresh, fun other member => ?_⟩, same⟩
        · exact others id member mem_cons_self
        · exact fun seen => others other member (mem_cons_of_mem _ seen)
      rintro ⟨⟨single, nodup⟩, ⟨_, others⟩, same⟩
      refine ⟨nodup, fun other member known => ?_, same⟩
      rcases mem_cons.mp known with rfl | seen
      · exact single member
      · exact others other member seen

variable {seatId : UInt32} {detail : ByteString}

theorem assignFor_eq_ok_iff
    {seen ids after : List WideString} :
    assignFor seatId detail seen ids = .ok after ↔
      ids.Nodup ∧ (∀ id ∈ ids, id ∉ seen) ∧ after = ids.reverse ++ seen := by
  rw [← assign_eq_some_iff]
  unfold assignFor
  cases assign seen ids with
  | none => exact ⟨nofun, nofun⟩
  | some found => rw [Except.ok.injEq, Option.some.injEq]

theorem assignSeat_eq_ok_iff :
    assignSeat assigned seat = .ok after ↔
      ∀ kind, (DeviceKind.ids seat kind).Nodup ∧
        (∀ id ∈ DeviceKind.ids seat kind, id ∉ assigned.ids kind) ∧
        after.ids kind = (DeviceKind.ids seat kind).reverse ++ assigned.ids kind := by
  constructor
  · intro passed
    unfold assignSeat at passed
    obtain ⟨_, displays, passed⟩ := bind_eq_ok.mp passed
    obtain ⟨_, keyboards, passed⟩ := bind_eq_ok.mp passed
    obtain ⟨_, mice, passed⟩ := bind_eq_ok.mp passed
    obtain ⟨_, controllers, passed⟩ := bind_eq_ok.mp passed
    obtain ⟨_, audio, passed⟩ := bind_eq_ok.mp passed
    cases passed
    intro kind
    cases kind with
    | display => exact assignFor_eq_ok_iff.mp displays
    | keyboard => exact assignFor_eq_ok_iff.mp keyboards
    | mouse => exact assignFor_eq_ok_iff.mp mice
    | controller => exact assignFor_eq_ok_iff.mp controllers
    | audioOutput => exact assignFor_eq_ok_iff.mp audio
  · intro each
    obtain ⟨displays, keyboards, mice, controllers, audio⟩ := after
    exact
      bind_eq_ok.mpr ⟨_, assignFor_eq_ok_iff.mpr (each .display),
        bind_eq_ok.mpr ⟨_, assignFor_eq_ok_iff.mpr (each .keyboard),
          bind_eq_ok.mpr ⟨_, assignFor_eq_ok_iff.mpr (each .mouse),
            bind_eq_ok.mpr ⟨_, assignFor_eq_ok_iff.mpr (each .controller),
              bind_eq_ok.mpr ⟨_, assignFor_eq_ok_iff.mpr (each .audioOutput), rfl⟩⟩⟩⟩⟩

theorem exists_assignSeat (assigned : AssignedHardware)
    (nodup : ∀ kind, (DeviceKind.ids seat kind).Nodup)
    (fresh : ∀ kind, ∀ id ∈ DeviceKind.ids seat kind, id ∉ assigned.ids kind) :
    ∃ after, assignSeat assigned seat = .ok after ∧
      ∀ kind, after.ids kind = (DeviceKind.ids seat kind).reverse ++ assigned.ids kind := by
  let joined (kind : DeviceKind) : List WideString :=
    (DeviceKind.ids seat kind).reverse ++ assigned.ids kind
  let after : AssignedHardware :=
    { displays := joined .display, keyboards := joined .keyboard, mice := joined .mouse
      controllers := joined .controller, audio := joined .audioOutput }
  have isJoined : ∀ kind, after.ids kind = joined kind := by
    intro kind
    cases kind <;> rfl
  exact ⟨after, assignSeat_eq_ok_iff.mpr fun kind => ⟨nodup kind, fresh kind, isJoined kind⟩,
    isJoined⟩

/-- What was assigned holds an id of the Seat. -/
def Holds (assigned : AssignedHardware) (seat : PersistedSeatConfig) : Prop :=
  ∃ kind, ∃ id ∈ DeviceKind.ids seat kind, id ∈ assigned.ids kind

theorem foldlM_assignSeat (passed : seats.foldlM assignSeat assigned = .ok after) :
    (∀ seat ∈ seats, ¬Holds assigned seat) ∧
      seats.Pairwise fun left right => ¬SharesId left right := by
  induction seats generalizing assigned with
  | nil => exact ⟨nofun, .nil⟩
  | cons seat rest ih =>
    rw [foldlM_cons] at passed
    obtain ⟨next, isNext, passed⟩ := bind_eq_ok.mp passed
    have next_ids := assignSeat_eq_ok_iff.mp isNext
    obtain ⟨fresh, apart⟩ := ih passed
    refine ⟨fun other member holds => ?_, .cons (fun other member => ?_) apart⟩
    · obtain ⟨kind, id, inSeat, known⟩ := holds
      rcases mem_cons.mp member with rfl | later
      · exact (next_ids kind).2.1 id inSeat known
      · refine fresh other later ⟨kind, id, inSeat, ?_⟩
        rw [(next_ids kind).2.2]
        exact mem_append_right _ known
    · rintro ⟨kind, id, inSeat, inOther⟩
      refine fresh other member ⟨kind, id, inOther, ?_⟩
      rw [(next_ids kind).2.2]
      exact mem_append_left _ (mem_reverse.mpr inSeat)

theorem preflightExclusiveHardware_apart (passed : preflightExclusiveHardware seats = .ok ()) :
    seats.Pairwise fun left right => ¬SharesId left right := by
  obtain ⟨_, passed, _⟩ := bind_eq_ok.mp passed
  exact (foldlM_assignSeat passed).2

/-! ## The identity of devices -/

/-- No plan gives one device to two Seats, and no Seat is refused for a
primary display that is in its group. -/
structure RespectsDevices (input : PlanningInput) : Prop where
  noneShared :
    ∀ plan, input.compileProviderAwareLaunchPlan = .ok plan →
      ∀ first ∈ plan.seats, ∀ second ∈ plan.seats, first.seatId ≠ second.seatId →
        ∀ left right, findSeat input.seats first.seatId = some left →
          findSeat input.seats second.seatId = some right →
          ¬SharesDevice left right
  noneRefused :
    ∀ issue, input.compileProviderAwareLaunchPlan = .error issue → issue.code = .missingDisplay →
      ∀ seat, findSeat input.seats issue.seatId = some seat → ¬PrimaryInGroup seat

/-- Among the active Seats a primary display is spelled as in its group, and
two Seats that hold one device hold one id spelled the same. -/
structure SpelledAlike (document : SeatConfigDocument) : Prop where
  primary :
    ∀ seat ∈ document.seats, seat.active = true →
      ∀ primary, seat.primaryDisplayId = some primary → primary ∈ seat.displayIds
  devices :
    ∀ left ∈ document.seats, ∀ right ∈ document.seats, left.active = true → right.active = true →
      left.seatId ≠ right.seatId → SharesDevice left right →
      SharesId left right

section Sufficiency

variable {input : PlanningInput}
variable {validation : Schema Unit} {code : PlanIssueCode} {seat : PersistedSeatConfig}
  {seats : List PersistedSeatConfig} {issue : PlanIssue}

/-- What the selection of the Seats says of them. -/
structure Selected (input : PlanningInput) (seats : List PersistedSeatConfig) : Prop where
  valid : validateSeatConfigDocument input.seats = .ok ()
  found : input.bindings.mapM input.selectSeat = .ok seats
  apart : preflightExclusiveHardware seats = .ok ()

theorem checked_eq_ok {label : String}
    (passed : PlanningInput.checked validation code label = .ok ()) :
    validation = .ok () := by
  cases validation with
  | error diagnostic => cases passed
  | ok => rfl

theorem selected_of_selectSeats
    (selected : input.selectSeats = .ok seats) : Selected input seats := by
  obtain ⟨_, documents, selected⟩ := bind_eq_ok.mp selected
  obtain ⟨_, valid, _⟩ := bind_eq_ok.mp documents
  obtain ⟨_, _, selected⟩ := bind_eq_ok.mp selected
  obtain ⟨found, isFound, selected⟩ := bind_eq_ok.mp selected
  obtain ⟨_, apart, selected⟩ := bind_eq_ok.mp selected
  cases selected
  exact ⟨checked_eq_ok valid, isFound, apart⟩

theorem selectSeat_eq_ok {binding : RuntimeBinding}
    (selected : input.selectSeat binding = .ok seat) :
    findSeat input.seats binding.seatId = some seat ∧ seat.active = true := by
  unfold PlanningInput.selectSeat at selected
  split at selected
  · cases selected
  next seat isFound =>
    obtain ⟨active, selected⟩ := not_taken selected nofun
    cases selected
    rw [not_eq_true', not_eq_false] at active
    exact ⟨isFound, active⟩

theorem findSeat_spec
    (found : findSeat document seatId = some seat) :
    seat ∈ document.seats ∧ seat.seatId = seatId := by
  unfold findSeat at found
  have same := find?_some found
  exact ⟨mem_of_find?_eq_some found, beq_iff_eq.mp same⟩

theorem planSeat_seatId {selected : RuntimeBinding × PersistedSeatConfig}
    {planned : SeatProviderLaunchPlan}
    (isPlanned : input.planSeat selected = .ok planned) :
    planned.seatId = selected.1.seatId := by
  obtain ⟨⟨player, game, requirement⟩, _, isPlanned⟩ := bind_eq_ok.mp isPlanned
  obtain ⟨_, _, isPlanned⟩ := bind_eq_ok.mp isPlanned
  obtain ⟨_, _, isPlanned⟩ := bind_eq_ok.mp isPlanned
  obtain ⟨_, _, isPlanned⟩ := bind_eq_ok.mp isPlanned
  obtain ⟨_, _, isPlanned⟩ := bind_eq_ok.mp isPlanned
  obtain ⟨_, _, isPlanned⟩ := bind_eq_ok.mp isPlanned
  cases isPlanned
  rfl

theorem planned_selected {planned : List SeatProviderLaunchPlan} (selected : Selected input seats)
    (isPlanned : (input.bindings.zip seats).mapM input.planSeat = .ok planned)
    {plan : SeatProviderLaunchPlan} (member : plan ∈ planned)
    (found : findSeat input.seats plan.seatId = some seat) :
    seat ∈ seats ∧ seat.active = true := by
  obtain ⟨⟨binding, other⟩, inPairs, isPlan⟩ := mem_of_mapM isPlanned plan member
  have sameId := planSeat_seatId isPlan
  obtain ⟨isOther, active⟩ := selectSeat_eq_ok (zip_of_mapM selected.found _ inPairs)
  rw [sameId, isOther] at found
  cases found
  exact ⟨(of_mem_zip inPairs).2, active⟩

/-- A failure that does not speak of a display. -/
def NotDisplay (issue : PlanIssue) : Prop := issue.code ≠ .missingDisplay

theorem fails_failure {α : Type}
    (other : code ≠ .missingDisplay) :
    Fails NotDisplay (failure code seatId detail : Planned α) :=
  .error other

theorem fails_checked (other : code ≠ .missingDisplay) (label : String) :
    Fails NotDisplay (checked validation code label) := by
  cases validation with
  | error diagnostic => exact fails_failure other
  | ok => exact .ok ()

theorem fails_assignFor {seen ids : List WideString} :
    Fails NotDisplay (assignFor seatId detail seen ids) := by
  unfold assignFor
  cases assign seen ids with
  | none => exact fails_failure (by decide)
  | some after => exact .ok after

theorem fails_assignSeat (assigned : AssignedHardware) (seat : PersistedSeatConfig) :
    Fails NotDisplay (assignSeat assigned seat) :=
  .bind fails_assignFor fun _ =>
    .bind fails_assignFor fun _ =>
      .bind fails_assignFor fun _ =>
        .bind fails_assignFor fun _ => .bind fails_assignFor fun _ => .ok _

theorem fails_validateDocuments : Fails NotDisplay input.validateDocuments := by
  unfold validateDocuments
  refine .bind (fails_checked (by decide) _) fun _ => ?_
  refine .bind (fails_checked (by decide) _) fun _ => ?_
  refine .bind (fails_checked (by decide) _) fun _ => ?_
  refine .bind (fails_checked (by decide) _) fun _ => ?_
  refine .bind (fails_checked (by decide) _) fun _ => ?_
  split
  · exact fails_failure (by decide)
  · exact .ok ()

theorem fails_validatePair : Fails NotDisplay input.validatePair := by
  unfold validatePair
  split
  · split
    · split
      · exact fails_failure (by decide)
      · split
        · exact fails_failure (by decide)
        · exact .ok ()
    · split
      · exact fails_failure (by decide)
      · exact .ok ()
  · exact .ok ()

theorem fails_selectSeat (binding : RuntimeBinding) :
    Fails NotDisplay (input.selectSeat binding) := by
  unfold selectSeat
  split
  · exact fails_failure (by decide)
  · split
    · exact fails_failure (by decide)
    · exact .ok _

theorem fails_selectSeats : Fails NotDisplay input.selectSeats := by
  refine .bind fails_validateDocuments fun _ => ?_
  refine .bind fails_validatePair fun _ => ?_
  refine .bind (.mapM fun binding _ => fails_selectSeat binding) fun _ => ?_
  refine .bind (.bind (.foldlM fails_assignSeat) fun _ => .ok ()) fun _ => ?_
  exact .ok _

theorem fails_selectGame (binding : RuntimeBinding) :
    Fails NotDisplay (input.selectGame binding) := by
  unfold selectGame
  split
  · exact fails_failure (by decide)
  split
  · exact fails_failure (by decide)
  split
  · exact fails_failure (by decide)
  · exact fails_failure (by decide)
  dsimp only
  split
  · exact fails_failure (by decide)
  split
  · exact fails_failure (by decide)
  · exact .ok _

theorem fails_planGame (binding : RuntimeBinding)
    (seat : PersistedSeatConfig) (player : PlayerProfile)
    (game : GameRecord) (requirement : GameRuntimeRequirement) :
    Fails NotDisplay (input.planGame binding seat player game requirement) := by
  have adapter : Fails NotDisplay (input.selectAdapter binding game) := by
    unfold selectAdapter
    split
    · exact fails_failure (by decide)
    · exact fails_failure (by decide)
    · split
      · exact fails_failure (by decide)
      · exact .ok _
  have account : Fails NotDisplay (resolveAccount binding player game.providerId) := by
    unfold resolveAccount
    split
    · exact .ok _
    · exact .ok _
    · exact fails_failure (by decide)
  have recipe : Fails NotDisplay (input.selectRecipe binding game) := by
    unfold selectRecipe
    split
    · exact .ok _
    split
    · exact fails_failure (by decide)
    split
    · exact fails_failure (by decide)
    split
    · exact fails_failure (by decide)
    · exact .ok _
  refine .bind adapter fun adapter => ?_
  refine .bind account fun account => ?_
  refine .bind recipe fun recipe => ?_
  refine .bind ?_ fun _ => .ok _
  unfold requestFor
  split
  · exact .ok _
  · exact fails_failure (by decide)

/-- A refusal of a display: the group is empty, or the primary display is
not spelled as in it. -/
theorem preflightSeat_display {requirement : GameRuntimeRequirement}
    (refused : preflightSeat seat requirement = .error issue)
    (display : issue.code = .missingDisplay) :
    issue.seatId = seat.seatId ∧
      (seat.displayIds = [] ∨
        ∃ primary, seat.primaryDisplayId = some primary ∧ primary ∉ seat.displayIds) := by
  unfold preflightSeat at refused
  dsimp only at refused
  split at refused
  next empty =>
    cases refused
    exact ⟨rfl, .inl (isEmpty_iff.mp (and_eq_true_iff.mp empty).2)⟩
  split at refused
  next outside =>
    cases refused
    obtain ⟨primary, isPrimary, notMember⟩ := (Option.any_eq_true _ _).mp outside
    rw [not_eq_true', ← not_eq_true, contains_iff_mem] at notMember
    exact ⟨rfl, .inr ⟨primary, isPrimary, notMember⟩⟩
  -- the other refusals speak of something else
  refine absurd display ((.ite ?_ ?_ : Fails NotDisplay _) issue refused)
  · exact fails_failure (by decide)
  refine .ite (fails_failure (by decide)) ?_
  refine .ite (fails_failure (by decide)) ?_
  refine .ite (fails_failure (by decide)) ?_
  refine .ite (fails_failure (by decide)) ?_
  exact .ite (fails_failure (by decide)) (.ok ())

theorem compile_display (refused : input.compileProviderAwareLaunchPlan = .error issue)
    (display : issue.code = .missingDisplay) :
    ∃ seats, Selected input seats ∧ ∃ seat ∈ seats,
      seat.active = true ∧ seat ∈ input.seats.seats ∧
        issue.seatId = seat.seatId ∧
          (seat.displayIds = [] ∨
            ∃ primary, seat.primaryDisplayId = some primary ∧ primary ∉ seat.displayIds) := by
  unfold compileProviderAwareLaunchPlan at refused
  cases isSelected : input.selectSeats with
  | error early =>
    rw [isSelected] at refused
    cases refused
    exact absurd display (fails_selectSeats issue isSelected)
  | ok seats =>
    rw [isSelected, ok_bind] at refused
    have selected := selected_of_selectSeats isSelected
    cases isPlanned : (input.bindings.zip seats).mapM input.planSeat with
    | ok planned =>
      rw [isPlanned] at refused
      cases refused
    | error late =>
      rw [isPlanned] at refused
      cases refused
      obtain ⟨⟨binding, seat⟩, inPairs, isSeat⟩ := error_of_mapM isPlanned
      obtain ⟨found, active⟩ := selectSeat_eq_ok (zip_of_mapM selected.found _ inPairs)
      unfold planSeat at isSeat
      cases isGame : input.selectGame binding with
      | error early =>
        rw [isGame] at isSeat
        cases isSeat
        exact absurd display (fails_selectGame binding issue isGame)
      | ok game =>
        rw [isGame, ok_bind] at isSeat
        dsimp only at isSeat
        cases isChecked : preflightSeat seat game.2.2 with
        | error early =>
          rw [isChecked] at isSeat
          cases isSeat
          obtain ⟨sameId, why⟩ := preflightSeat_display isChecked display
          exact ⟨seats, selected, seat, (of_mem_zip inPairs).2, active,
            (findSeat_spec found).1, sameId, why⟩
        | ok =>
          rw [isChecked, ok_bind] at isSeat
          exact absurd display (fails_planGame _ _ _ _ _ issue isSeat)

theorem respectsDevices_of_spelledAlike
    (alike :
      validateSeatConfigDocument input.seats = .ok () →
        SpelledAlike input.seats) : RespectsDevices input := by
  constructor
  · intro plan compiled first inFirst second inSecond different left right isLeft isRight shares
    obtain ⟨seats, isSelected, compiled⟩ := bind_eq_ok.mp compiled
    obtain ⟨planned, isPlanned, compiled⟩ := bind_eq_ok.mp compiled
    cases compiled
    have selected := selected_of_selectSeats isSelected
    obtain ⟨inLeft, leftActive⟩ := planned_selected selected isPlanned inFirst isLeft
    obtain ⟨inRight, rightActive⟩ := planned_selected selected isPlanned inSecond isRight
    obtain ⟨leftMember, leftId⟩ := findSeat_spec isLeft
    obtain ⟨rightMember, rightId⟩ := findSeat_spec isRight
    have apart : left.seatId ≠ right.seatId := by
      rw [leftId, rightId]
      exact different
    have symmetric : Std.Symm fun left right => ¬SharesId left right :=
      ⟨fun _ _ notShared shared => notShared shared.symm⟩
    have noId : ¬SharesId left right :=
      (preflightExclusiveHardware_apart selected.apart).forall inLeft inRight
        fun same => apart (same ▸ rfl)
    exact noId
      ((alike selected.valid).devices left leftMember right rightMember
        leftActive rightActive apart shares)
  · intro issue refused display seat found inGroup
    obtain ⟨seats, selected, refusedSeat, _, active, member, sameId, why⟩ :=
      compile_display refused display
    rw [sameId, findSeat_eq_some (soundSeats_of_validate selected.valid) member] at found
    cases found
    obtain ⟨primary, isPrimary, id, inDisplays, _⟩ := inGroup
    rcases why with empty | ⟨other, isOther, outside⟩
    · rw [empty] at inDisplays
      cases inDisplays
    · exact outside ((alike selected.valid).primary seat member active other isOther)

end Sufficiency

/-! ## Selections of one or two Seats -/

section Necessity

variable {bindings : List RuntimeBinding} {primary : WideString} {seat : PersistedSeatConfig}
  {left right : PersistedSeatConfig}

def trialPlayer (name : UInt8) : PlayerProfile where
  playerId := [name]
  displayName := [65]

def trialGame (name : UInt8) : GameRecord where
  gameId := [name]
  providerId := [80]
  title := [65]
  installRoot := [65]
  executableCandidates := [[65]]

def trialBinding (seat : PersistedSeatConfig) (name : UInt8) : RuntimeBinding where
  seatId := seat.seatId
  playerId := [name]
  gameId := [name]

def trialRequirement (name : UInt8) : GameRuntimeRequirement where
  gameId := [name]
  revision := 1
  validatedSeatCount := 1
  requirements :=
    { display := false, windowOwnership := false, recovery := false }

/-- An adapter that launches one executable for every game. -/
def trialAdapter : LauncherProviderAdapter where
  descriptor :=
    { providerId := [80], availability := .available, metadataRevision := 1
      capabilities := { launchRequests := true } }
  buildLaunchRequest := fun selection =>
    { request :=
        { providerId := selection.providerId, gameId := selection.gameId
          providerAppId := selection.providerAppId, accountRef := selection.accountRef
          metadataRevision := 1, target := [67, 58, 92], launchCorrelationId := [67] } }

def trialPlayers : PlayerProfileDocument where
  players := [trialPlayer 65, trialPlayer 66]

def trialGames : GameRecordDocument where
  games := [trialGame 65, trialGame 66]

def trialInput (document : SeatConfigDocument)
    (bindings : List RuntimeBinding) : PlanningInput where
  seats := document
  players := trialPlayers
  games := trialGames
  setups := {}
  selection := { bindings }
  providers := [{ providerId := [80], adapter := some trialAdapter }]
  requirements := [trialRequirement 65, trialRequirement 66]

variable {document : SeatConfigDocument}

theorem validate_trialPlayers : validatePlayerProfileDocument trialPlayers = .ok () := by
  decide

theorem validate_trialGames : validateGameRecordDocument trialGames = .ok () := by
  decide

theorem trial_plans (document : SeatConfigDocument) (bindings : List RuntimeBinding)
    (seat : PersistedSeatConfig) (name : UInt8)
    (isName : name = 65 ∨ name = 66) :
    ∃ planned,
      (trialInput document bindings).planGame (trialBinding seat name) seat
        (trialPlayer name) (trialGame name) (trialRequirement name) = .ok planned := by
  rcases isName with rfl | rfl
  · exact ⟨_, rfl⟩
  · exact ⟨_, rfl⟩

theorem trial_selectGame (seat : PersistedSeatConfig) (name : UInt8)
    (isName : name = 65 ∨ name = 66)
    (count :
      (trialInput document bindings).bindings.countP
        (·.gameId == (trialBinding seat name).gameId) = 1) :
    (trialInput document bindings).selectGame (trialBinding seat name) =
      .ok (trialPlayer name, trialGame name, trialRequirement name) := by
  unfold selectGame
  rw [count]
  rcases isName with rfl | rfl
  · rfl
  · rfl

/-- Such a Seat is planned exactly when its primary display is spelled as in
its group. -/
theorem trial_planSeat (seat : PersistedSeatConfig) (name : UInt8) (isName : name = 65 ∨ name = 66)
    (count :
      (trialInput document bindings).bindings.countP
        (·.gameId == (trialBinding seat name).gameId) = 1)
    (spelled : ∀ primary, seat.primaryDisplayId = some primary → primary ∈ seat.displayIds) :
    ∃ planned,
      (trialInput document bindings).planSeat (trialBinding seat name, seat) = .ok planned := by
  obtain ⟨planned, isPlanned⟩ := trial_plans document bindings seat name isName
  refine ⟨planned, ?_⟩
  have checked : preflightSeat seat (trialRequirement name) = .ok () := by
    unfold preflightSeat
    have inGroup :
        ¬(seat.primaryDisplayId.any fun primary => !seat.displayIds.contains primary) = true := by
      intro outside
      obtain ⟨primary, isPrimary, notMember⟩ := (Option.any_eq_true _ _).mp outside
      rw [not_eq_true', ← not_eq_true, contains_iff_mem] at notMember
      exact notMember (spelled primary isPrimary)
    dsimp only
    rw [if_neg (fun isTrue => nomatch isTrue), if_neg inGroup]
    rfl
  unfold planSeat
  rw [trial_selectGame seat name isName count, ok_bind]
  dsimp only
  rw [checked, ok_bind]
  exact isPlanned

theorem trial_refuses (document : SeatConfigDocument)
    (bindings : List RuntimeBinding) (seat : PersistedSeatConfig)
    (count :
      (trialInput document bindings).bindings.countP
        (·.gameId == (trialBinding seat 65).gameId) = 1)
    (isPrimary : seat.primaryDisplayId = some primary)
    (outside : primary ∉ seat.displayIds) :
    ∃ detail,
      (trialInput document bindings).planSeat (trialBinding seat 65, seat) =
        .error ⟨.missingDisplay, seat.seatId, detail⟩ := by
  refine ⟨"primary display is outside the Seat display group", ?_⟩
  have refused :
      preflightSeat seat (trialRequirement 65) =
        .error
          ⟨.missingDisplay, seat.seatId, "primary display is outside the Seat display group"⟩ := by
    unfold preflightSeat
    have notInGroup :
        (seat.primaryDisplayId.any fun primary => !seat.displayIds.contains primary) = true := by
      rw [isPrimary, Option.any_some, not_eq_true', ← not_eq_true, contains_iff_mem]
      exact outside
    dsimp only
    rw [if_neg (fun isTrue => nomatch isTrue), if_pos notInGroup]
    rfl
  unfold planSeat
  rw [trial_selectGame seat 65 (.inl rfl) count, ok_bind]
  dsimp only
  rw [refused]
  rfl

theorem trial_selectSeat (seat : PersistedSeatConfig) (name : UInt8)
    (found : findSeat document seat.seatId = some seat)
    (active : seat.active = true) :
    (trialInput document bindings).selectSeat (trialBinding seat name) = .ok seat := by
  unfold selectSeat
  have isFound :
      findSeat (trialInput document bindings).seats
        (trialBinding seat name).seatId = some seat := found
  rw [isFound]
  dsimp only
  rw [active]
  rfl

theorem trial_binding_valid {seen : SelectionSeen} (seat : PersistedSeatConfig) (name : UInt8)
    (isName : name = 65 ∨ name = 66)
    (found : findSeat document seat.seatId = some seat)
    (active : seat.active = true) (newSeat : seat.seatId ∉ seen.seatIds)
    (newPlayer : [name] ∉ seen.playerIds) :
    validateSelectedBinding document trialPlayers trialGames {} seen (trialBinding seat name) =
      .ok
        { seen with
          seatIds := seat.seatId :: seen.seatIds, playerIds := [name] :: seen.playerIds } := by
  have identified :
      ¬(!validIdentifier (trialBinding seat name).playerId ||
        !validIdentifier (trialBinding seat name).gameId) = true := by
    rcases isName with rfl | rfl <;> exact false_ne_true
  have unbound : (trialBinding seat name).seatId ∉ seen.seatIds := newSeat
  have unplayed : (trialBinding seat name).playerId ∉ seen.playerIds := newPlayer
  have isActive :
      ¬(!(document.seats.find? (·.seatId == (trialBinding seat name).seatId)).any (·.active)) =
        true := by
    have isFound :
        document.seats.find? (·.seatId == (trialBinding seat name).seatId) = some seat := found
    rw [isFound, Option.any_some, active]
    exact false_ne_true
  have isPlayer :
      ¬(!trialPlayers.players.any (·.playerId == (trialBinding seat name).playerId)) = true := by
    rcases isName with rfl | rfl <;> exact false_ne_true
  have isGame : ¬(!trialGames.games.any (·.gameId == (trialBinding seat name).gameId)) = true := by
    rcases isName with rfl | rfl <;> exact false_ne_true
  unfold validateSelectedBinding
  rw [if_neg identified, if_neg unbound, if_neg unplayed, if_neg isActive,
    if_neg isPlayer, if_neg isGame]
  rfl

theorem trial_documents (valid : validateSeatConfigDocument document = .ok ())
    (few : bindings.isEmpty = false ∧ bindings.length ≤ 2)
    (selected :
      ∃ seen,
        bindings.foldlM (validateSelectedBinding document trialPlayers trialGames {}) {} =
          .ok seen) :
    (trialInput document bindings).validateDocuments = .ok () := by
  obtain ⟨seen, selected⟩ := selected
  have few' : ¬(bindings.isEmpty || decide (bindings.length > 2)) = true := by
    rw [few.1, Bool.false_or, decide_eq_true_eq]
    exact Nat.not_lt.mpr few.2
  have selection :
      validateRuntimeSessionSelection { bindings } document trialPlayers
        trialGames {} = .ok () := by
    unfold validateRuntimeSessionSelection
    rw [if_neg (not_not.mpr rfl), valid, ok_bind, validate_trialPlayers,
      ok_bind, validate_trialGames, ok_bind]
    change
      (if (bindings.isEmpty || decide (bindings.length > 2)) = true then _
        else _) = _
    rw [if_neg few', selected, ok_bind]
    rfl
  unfold validateDocuments trialInput
  dsimp only
  rw [valid, validate_trialPlayers, validate_trialGames, selection, if_neg few']
  rfl

theorem preflight_solo (sound : SoundSeat seat) : preflightExclusiveHardware [seat] = .ok () := by
  obtain ⟨after, isAfter, _⟩ :=
    exists_assignSeat {} sound.nodup fun kind id _ known => by
      cases kind <;> cases known
  unfold preflightExclusiveHardware
  rw [foldlM_cons, isAfter]
  rfl

theorem preflight_pair (leftSound : SoundSeat left) (rightSound : SoundSeat right)
    (apart : ¬SharesId left right) :
    preflightExclusiveHardware [left, right] = .ok () := by
  obtain ⟨middle, isMiddle, middleIds⟩ := exists_assignSeat {} leftSound.nodup
    fun kind id _ known => by cases kind <;> cases known
  obtain ⟨after, isAfter, _⟩ := exists_assignSeat middle rightSound.nodup
    fun kind id inRight known => by
      rw [middleIds kind, mem_append, mem_reverse] at known
      rcases known with inLeft | inNone
      · exact apart ⟨kind, id, inLeft, inRight⟩
      · cases kind <;> cases inNone
  unfold preflightExclusiveHardware
  rw [foldlM_cons, isMiddle, ok_bind, foldlM_cons, isAfter]
  rfl

/-- A document for which every selection respects devices spells the primary
display of an active Seat as in its group. -/
theorem primary_spelled (valid : validateSeatConfigDocument document = .ok ())
    (respects : ∀ input : PlanningInput, input.seats = document → RespectsDevices input)
    (member : seat ∈ document.seats)
    (active : seat.active = true)
    (isPrimary : seat.primaryDisplayId = some primary) :
    primary ∈ seat.displayIds := by
  by_contra outside
  have sound := soundSeats_of_validate valid
  have found := findSeat_eq_some sound member
  obtain ⟨detail, refused⟩ :=
    trial_refuses document [trialBinding seat 65] seat rfl isPrimary outside
  have documents : (trialInput document [trialBinding seat 65]).validateDocuments = .ok () := by
    refine
      trial_documents valid ⟨rfl, Nat.le_succ 1⟩
        ⟨{ seatIds := [seat.seatId], playerIds := [[65]] }, ?_⟩
    rw [foldlM_cons, trial_binding_valid seat 65 (.inl rfl) found active (by nofun) (by nofun)]
    rfl
  have selected : (trialInput document [trialBinding seat 65]).selectSeats = .ok [seat] := by
    have single : (trialInput document [trialBinding seat 65]).validatePair = .ok () := rfl
    unfold selectSeats
    rw [documents, ok_bind, single, ok_bind]
    change
      (([trialBinding seat 65].mapM
        (trialInput document [trialBinding seat 65]).selectSeat) >>= fun _ => _) = _
    rw [mapM_cons, trial_selectSeat seat 65 found active, ok_bind, mapM_nil]
    change (preflightExclusiveHardware [seat] >>= fun _ => _) = _
    rw [preflight_solo (sound.sound seat member)]
    rfl
  have compiled :
      (trialInput document [trialBinding seat 65]).compileProviderAwareLaunchPlan =
        .error ⟨.missingDisplay, seat.seatId, detail⟩ := by
    unfold compileProviderAwareLaunchPlan
    rw [selected, ok_bind]
    change
      (([(trialBinding seat 65, seat)].mapM
        (trialInput document [trialBinding seat 65]).planSeat) >>= fun _ => _) = _
    rw [mapM_cons, refused]
    rfl
  exact (respects _ rfl).noneRefused _ compiled rfl seat found
    ((sound.sound seat member).primary primary isPrimary)

theorem devices_spelled_of_lt (valid : validateSeatConfigDocument document = .ok ())
    (respects : ∀ input : PlanningInput, input.seats = document → RespectsDevices input)
    (inLeft : left ∈ document.seats)
    (inRight : right ∈ document.seats) (leftActive : left.active = true)
    (rightActive : right.active = true)
    (ordered : left.seatId < right.seatId)
    (shares : SharesDevice left right) : SharesId left right := by
  by_contra apart
  have sound := soundSeats_of_validate valid
  have isLeft := findSeat_eq_some sound inLeft
  have isRight := findSeat_eq_some sound inRight
  have different : left.seatId ≠ right.seatId := UInt32.ne_of_lt ordered
  let input := trialInput document [trialBinding left 65, trialBinding right 66]
  have sorted : input.bindings = [trialBinding left 65, trialBinding right 66] :=
    if_pos (UInt32.le_of_lt ordered)
  have documents : input.validateDocuments = .ok () := by
    refine
      trial_documents valid ⟨rfl, Nat.le_refl 2⟩
        ⟨{ seatIds := [right.seatId, left.seatId], playerIds := [[66], [65]] }, ?_⟩
    rw [foldlM_cons, trial_binding_valid left 65 (.inl rfl) isLeft leftActive (by nofun) (by nofun),
      ok_bind, foldlM_cons,
      trial_binding_valid right 66 (.inr rfl) isRight rightActive
        (by exact fun member => different (mem_singleton.mp member).symm)
        (by show ([66] : ByteString) ∉ [[65]]; decide)]
    rfl
  have pair : input.validatePair = .ok () := by
    unfold validatePair
    rw [sorted]
    rfl
  have selected : input.selectSeats = .ok [left, right] := by
    unfold selectSeats
    rw [documents, ok_bind, pair, ok_bind, sorted, mapM_cons,
      trial_selectSeat left 65 isLeft leftActive, ok_bind, mapM_cons,
      trial_selectSeat right 66 isRight rightActive, ok_bind,
      mapM_nil]
    change (preflightExclusiveHardware [left, right] >>= fun _ => _) = _
    rw [preflight_pair (sound.sound left inLeft) (sound.sound right inRight) apart]
    rfl
  have leftCount : input.bindings.countP (·.gameId == (trialBinding left 65).gameId) = 1 := by
    rw [sorted]
    rfl
  have rightCount : input.bindings.countP (·.gameId == (trialBinding right 66).gameId) = 1 := by
    rw [sorted]
    rfl
  obtain ⟨leftPlan, leftPlanned⟩ :=
    trial_planSeat left 65 (.inl rfl) leftCount fun primary isPrimary =>
      primary_spelled valid respects inLeft leftActive isPrimary
  obtain ⟨rightPlan, rightPlanned⟩ :=
    trial_planSeat right 66 (.inr rfl) rightCount fun primary isPrimary =>
      primary_spelled valid respects inRight rightActive isPrimary
  have compiled :
      input.compileProviderAwareLaunchPlan =
        .ok
          { fingerprint := fingerprint [leftPlan, rightPlan], seats := [leftPlan, rightPlan] } := by
    unfold compileProviderAwareLaunchPlan
    rw [selected, ok_bind, sorted]
    change
      (([(trialBinding left 65, left), (trialBinding right 66, right)].mapM
        input.planSeat) >>= fun _ => _) = _
    rw [mapM_cons, leftPlanned, ok_bind, mapM_cons, rightPlanned, ok_bind, mapM_nil]
    rfl
  have leftId : leftPlan.seatId = left.seatId := planSeat_seatId leftPlanned
  have rightId : rightPlan.seatId = right.seatId := planSeat_seatId rightPlanned
  refine
    (respects input rfl).noneShared _ compiled leftPlan mem_cons_self
      rightPlan (mem_cons_of_mem _ mem_cons_self) ?_ left right ?_ ?_
      shares
  · rw [leftId, rightId]
    exact different
  · rw [leftId]
    exact isLeft
  · rw [rightId]
    exact isRight

end Necessity

/-- The planner respects devices, whatever is selected and whatever the other
documents say, exactly for the Seat documents that are not valid or whose
active Seats spell their ids alike. -/
theorem respectsDevices_iff (document : SeatConfigDocument) :
    (∀ input : PlanningInput, input.seats = document → RespectsDevices input) ↔
      (validateSeatConfigDocument document = .ok () → SpelledAlike document) := by
  constructor
  · intro respects valid
    constructor
    · intro seat member active primary isPrimary
      exact primary_spelled valid respects member active isPrimary
    intro left inLeft right inRight leftActive rightActive different shares
    have apart : left.seatId.toNat ≠ right.seatId.toNat :=
      fun same => different (UInt32.toNat_inj.mp same)
    rcases Nat.lt_or_gt_of_ne apart with before | behind
    · exact devices_spelled_of_lt valid respects inLeft inRight leftActive
        rightActive (UInt32.lt_iff_toNat_lt.mpr before) shares
    · exact (devices_spelled_of_lt valid respects inRight inLeft
        rightActive leftActive (UInt32.lt_iff_toNat_lt.mpr behind)
        shares.symm).symm
  · rintro alike input rfl
    exact respectsDevices_of_spelledAlike alike

/-! ## Two spellings of one keyboard -/

def spellingSeat (seatId : UInt32) (keyboard : UInt16) : PersistedSeatConfig where
  seatId := seatId
  name := [65]
  keyboardIds := [[keyboard]]

def spellingSeats : SeatConfigDocument where
  seats := [spellingSeat 1 75, spellingSeat 2 107]

/-- One keyboard under two spellings is planned for both Seats. -/
theorem two_spellings_planned : ¬∀ input : PlanningInput, RespectsDevices input := by
  intro respects
  have shares : SharesDevice (spellingSeat 1 75) (spellingSeat 2 107) :=
    ⟨.keyboard, [75], mem_singleton_self _, [107], mem_singleton_self _, by decide⟩
  have valid : validateSeatConfigDocument spellingSeats = .ok () := by
    decide
  obtain ⟨kind, id, inFirst, inSecond⟩ :=
    devices_spelled_of_lt valid (fun input _ => respects input) mem_cons_self
      (mem_cons_of_mem _ mem_cons_self) rfl rfl (by decide) shares
  cases kind with
  | display | mouse | controller | audioOutput => cases inFirst
  | keyboard =>
    obtain rfl := mem_singleton.mp inFirst
    exact absurd (mem_singleton.mp inSecond) (by decide)

end HydraSeat.Plan
