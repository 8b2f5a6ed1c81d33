import HydraSeat.GateC.RawAgreement
import HydraSeat.GateC.VirtualInputLaw

/-!
# Input through the adapter

The adapter applies an event to the virtual input state and then queues it
for raw input.  The state is not put back when the raw half refuses.
-/

namespace HydraSeat.GateC

open Foundation

variable {message : InputEventMessage} {sequence : UInt64}

inductive HydraGateCAdapterResult where
  | ok | invalidArgument | structVersionMismatch | staleSequence | invalidState | bufferTooSmall
  | rawInputFailure
  deriving DecidableEq

structure HydraGateCAdapterInputEventV1 where
  structSize : UInt32 := 36
  (kind keyTransition isTouchpad reserved0 : UInt8 := 0)
  timestampMicros : UInt64 := 0
  vkey : UInt32 := 0
  (scanCode keyboardFlags : UInt16 := 0)
  (deltaX deltaY : Int32 := 0)
  mouseButtonFlags : UInt16 := 0
  wheelDelta : Int16 := 0

def hydraGateCAdapterInputEventV1Bytes : UInt32 := 36

def hydraGateCAdapterInputKeyboard : UInt8 := 1

def hydraGateCAdapterInputMouse : UInt8 := 2

def hydraGateCAdapterKeyNone : UInt8 := 0

def hydraGateCAdapterKeyDown : UInt8 := 1

def hydraGateCAdapterKeyUp : UInt8 := 2

def mapRawResult : VirtualRawResult → HydraGateCAdapterResult
  | .success => .ok
  | .invalidArgument | .unsupportedUsage | .invalidFlags | .invalidTarget | .unsupportedCommand =>
    .invalidArgument
  | .bufferTooSmall => .bufferTooSmall
  | .registrationMissing => .invalidState
  | _ => .rawInputFailure

def validateInput : Option HydraGateCAdapterInputEventV1 → HydraGateCAdapterResult
  | none => .invalidArgument
  | some eventData =>
    if eventData.structSize ≠ hydraGateCAdapterInputEventV1Bytes then .structVersionMismatch
    else if eventData.reserved0 ≠ 0 ∨ ¬ eventData.isTouchpad ≤ 1 then .invalidState
    else if eventData.kind = hydraGateCAdapterInputKeyboard then
      if 256 ≤ eventData.vkey ∨
          (eventData.keyTransition ≠ hydraGateCAdapterKeyDown ∧
            eventData.keyTransition ≠ hydraGateCAdapterKeyUp) then
        .invalidState
      else .ok
    else if eventData.kind = hydraGateCAdapterInputMouse then
      if eventData.keyTransition ≠ hydraGateCAdapterKeyNone then .invalidState else .ok
    else .invalidState

/-- Validated events carry one of the three declared transitions. -/
def toMessage (eventData : HydraGateCAdapterInputEventV1) : InputEventMessage where
  kind := if eventData.kind = hydraGateCAdapterInputKeyboard then .keyboard else .mouse
  keyTransition :=
    if eventData.keyTransition = hydraGateCAdapterKeyDown then .down
    else if eventData.keyTransition = hydraGateCAdapterKeyUp then .up
    else .none
  isTouchpad := eventData.isTouchpad ≠ 0
  timestampMicros := eventData.timestampMicros
  vkey := eventData.vkey
  scanCode := eventData.scanCode
  keyboardFlags := eventData.keyboardFlags
  deltaX := eventData.deltaX
  deltaY := eventData.deltaY
  mouseButtonFlags := eventData.mouseButtonFlags
  wheelDelta := eventData.wheelDelta

structure AdapterContext where
  state : VirtualInputState := {}
  raw : VirtualRawInputContext
  pendingRawDeliveries : List VirtualRawDelivery := []
  rawEnabled : Bool := false

namespace AdapterContext

variable (self : AdapterContext)

/-- The raw half of `hydra_gate_c_adapter_apply_input`. -/
def deliver (sequence : UInt64) (message : InputEventMessage) :
    HydraGateCAdapterResult × AdapterContext :=
  let (delivery, raw) := self.raw.enqueueInput sequence message
  if delivery.result = .success then
    if kVirtualRawMaximumPackets ≤ self.pendingRawDeliveries.length then
      (.rawInputFailure, { self with raw := (raw.completeDelivery delivery.token false false).2 })
    else (.ok, { self with raw, pendingRawDeliveries := self.pendingRawDeliveries ++ [delivery] })
  else if delivery.result ≠ .registrationMissing then (mapRawResult delivery.result, { self with raw })
  else (.ok, { self with raw })

/-- `hydra_gate_c_adapter_apply_input` on an open handle. -/
def applyInput (sequence : UInt64) (eventData : Option HydraGateCAdapterInputEventV1) :
    Option (HydraGateCAdapterResult × AdapterContext) :=
  if sequence = 0 then some (.invalidArgument, self)
  else
    match eventData, validateInput eventData with
    | some eventData, .ok =>
      if sequence ≤ self.state.lastAppliedSequence then some (.staleSequence, self)
      else do
        let message := toMessage eventData
        let (applied, state) ← self.state.applyInput sequence message
        if !applied then return (.invalidState, { self with state })
        else if self.rawEnabled then return { self with state }.deliver sequence message
        else return (.ok, { self with state })
    | _, validation => some (validation, self)

end AdapterContext

theorem VirtualInputState.applyInput_accepts {self : VirtualInputState} (clipped : self.Clipped)
    (fresh : self.lastAppliedSequence < sequence)
    (valid : message.kind = .keyboard → message.vkey.toNat < 256 ∧ message.keyTransition ≠ .none) :
    ∃ after,
      self.applyInput sequence message = some (true, after) ∧
        after.lastAppliedSequence = sequence := by
  obtain ⟨applied, after, answered, _⟩ := applyInput_law clipped sequence message
  refine ⟨after, ?_⟩
  rw [answered]
  have new : ¬ (sequence = 0 ∨ sequence ≤ self.lastAppliedSequence) := by
    rintro (rfl | stale)
    · exact UInt64.not_lt_zero fresh
    · exact UInt64.not_le.mpr fresh stale
  rw [VirtualInputState.applyInput, if_neg new] at answered
  cases kind : message.kind with
  | keyboard =>
    obtain ⟨inside, moves⟩ := valid kind
    simp only [kind, if_neg (Nat.not_le.mpr inside)] at answered
    cases transition : message.keyTransition with
    | none => exact absurd transition moves
    | down | up =>
      rw [transition] at answered
      cases answered
      exact ⟨rfl, rfl⟩
  | mouse =>
    simp only [kind, Option.bind_eq_bind, Option.bind_eq_some_iff] at answered
    obtain ⟨_, _, _, _, _, _, _, _, rest⟩ := answered
    cases rest
    exact ⟨rfl, rfl⟩

namespace SyntheticRawHandleTable

variable {self : SyntheticRawHandleTable} {packet : VirtualRawPacket}

theorem allocateFrom_takes {indices : List RawHandleIndex} {index : RawHandleIndex}
    {generation : UInt32} (bounded : self.Bounded) (listed : index ∈ indices)
    (takes : Takes self (self.slots index) generation) :
    (self.allocateFrom packet indices).1.result = .success := by
  have ready :
      ¬ ((self.slots index).state = .retired ∨ (self.slots index).active = true) ∧
        ¬ (((self.slots index).state = .consumed ∨ (self.slots index).state = .expired) ∧
          self.maximumGeneration ≤ (self.slots index).generation.toUInt64) := by
    rw [le_toUInt64_iff]
    cases takes with
    | free state => simp [state, SyntheticRawHandleSlot.active]
    | ended state room =>
      rcases state with state | state <;> simp [state, SyntheticRawHandleSlot.active, room]
  induction indices generalizing self with
  | nil => cases listed
  | cons first rest ih =>
    unfold allocateFrom
    dsimp only
    split
    next busy =>
      have other : index ≠ first := fun same => ready.1 (same ▸ busy)
      exact ih bounded ((List.mem_cons.mp listed).resolve_left other) takes ready
    next idle =>
      split
      next exhausted =>
        have other : index ≠ first := fun same => ready.2 (same ▸ exhausted)
        have kept :
            (self.setSlot first ((self.slots first).releaseSlot .retired)).slots index =
              self.slots index :=
          Function.update_of_ne other _ _
        refine ih (bounded.setSlot (bounded first)) ((List.mem_cons.mp listed).resolve_left other)
          ?_ ?_
        · rw [kept]
          cases takes with
          | free state => exact .free state
          | ended state room => exact .ended state room
        · rw [kept]
          exact ready
      next room =>
        have inRange := (takes_renewed (not_or.mp idle).1 (not_or.mp idle).2 room).inRange
          (bounded first)
        rw [if_neg (inRange_checks inRange), if_neg (encode_ne_zero inRange)]

/-- A table refuses a packet exactly when no slot can take another handle. -/
theorem allocate_refused_iff (bounded : self.Bounded) :
    (self.allocate packet).1.result ≠ .success ↔
      ∀ index generation, ¬ Takes self (self.slots index) generation := by
  constructor
  · intro refused index generation takes
    exact refused (allocateFrom_takes bounded (List.mem_finRange index) takes)
  intro spent succeeded
  have outcome := allocate_outcome bounded packet
  generalize self.allocate packet = answered at outcome succeeded
  cases outcome with
  | full => cases succeeded
  | issued _ index generation takes => exact spent index generation takes

end SyntheticRawHandleTable

namespace VirtualRawInputContext

open SyntheticRawHandleTable

variable {self : VirtualRawInputContext}

/-- The context has no place for the packet of the event. -/
def Refuses (self : VirtualRawInputContext) (sequence : UInt64) (message : InputEventMessage) :
    Prop :=
  self.configured = false ∨ self.stopping = true ∨
    ∃ registration,
      self.registrations (usageIndex (inputUsage message)) = some registration ∧
        (validVirtualRawPacket (self.serializePacket sequence message registration)
            self.architecture = false ∨
          (∀ index generation, ¬ Takes self.handles (self.handles.slots index) generation) ∨
          kVirtualRawMaximumPackets ≤ self.queue.tokens.length)

theorem enqueue_refused_iff {token : UInt64} (wellFormed : self.WellFormed) (issued : token ≠ 0) :
    (self.queue.enqueue token self.architecture.rawInputBytes.toNat).1 =
      if kVirtualRawMaximumPackets ≤ self.queue.tokens.length then .queueFull else .success := by
  have size :
      self.architecture.rawInputBytes.toNat ≠ 0 ∧ self.architecture.rawInputBytes.toNat ≤ 48 := by
    cases self.architecture with
    | x86 | x64 => decide
  have counted := wellFormed.measured.counted
  have small :
      ¬ (token = 0 ∨ self.architecture.rawInputBytes.toNat = 0 ∨
        kVirtualRawMaximumPayloadBytes < self.architecture.rawInputBytes.toNat) := by
    simp only [issued, size.1, kVirtualRawMaximumPayloadBytes, false_or]
    omega
  unfold VirtualRawInputQueue.enqueue
  rw [if_neg small]
  by_cases full : kVirtualRawMaximumPackets ≤ self.queue.tokens.length
  · rw [if_pos (Or.inl full), if_pos full]
  have payload : self.queue.tokens.length * self.architecture.rawInputBytes.toNat ≤ 127 * 48 := by
    unfold kVirtualRawMaximumPackets at full
    exact Nat.mul_le_mul (by omega) size.2
  rw [if_neg full, if_neg]
  rw [counted, not_or, Nat.not_lt, kVirtualRawMaximumPayloadBytes]
  exact ⟨full, by omega⟩

inductive Answers (self : VirtualRawInputContext) (sequence : UInt64)
    (message : InputEventMessage) : VirtualRawResult → Prop
  | refused {result : VirtualRawResult} (refuses : self.Refuses sequence message)
      (failed : result ≠ .success) (registered : result ≠ .registrationMissing) :
      Answers self sequence message result
  | unregistered (accepts : ¬ self.Refuses sequence message)
      (missing : self.registrations (usageIndex (inputUsage message)) = none) :
      Answers self sequence message .registrationMissing
  | queued (accepts : ¬ self.Refuses sequence message)
      (registered : self.registrations (usageIndex (inputUsage message)) ≠ none) :
      Answers self sequence message .success

theorem WellFormed.enqueueInput_answers (wellFormed : self.WellFormed)
    (message : InputEventMessage) (numbered : sequence ≠ 0) :
    self.Answers sequence message (self.enqueueInput sequence message).1.result := by
  unfold enqueueInput
  split
  next unready =>
    simp only [Bool.or_eq_true, Bool.not_eq_true', beq_iff_eq, numbered, or_false] at unready
    exact .refused (Or.inl unready) (by nofun) (by nofun)
  next ready =>
    simp only [Bool.or_eq_true, Bool.not_eq_true', beq_iff_eq, numbered, or_false] at ready
    split
    next stopping => exact .refused (Or.inr (Or.inl stopping)) (by nofun) (by nofun)
    next running =>
      split
      next missing =>
        refine .unregistered ?_ missing
        rintro (unready | stopping | ⟨registration, registered, _⟩)
        · exact ready unready
        · exact running stopping
        · rw [missing] at registered
          cases registered
      next registration registered =>
        have refused {result : VirtualRawResult} (failed : result ≠ .success)
            (present : result ≠ .registrationMissing)
            (why : validVirtualRawPacket (self.serializePacket sequence message registration)
                  self.architecture = false ∨
                (∀ index generation, ¬ Takes self.handles (self.handles.slots index) generation) ∨
                kVirtualRawMaximumPackets ≤ self.queue.tokens.length) :
            self.Answers sequence message result :=
          .refused (Or.inr (Or.inr ⟨registration, registered, why⟩)) failed present
        dsimp only
        split
        next malformed => exact refused (by nofun) (by nofun) (Or.inl (by simpa using malformed))
        next valid =>
          rw [Bool.not_eq_true', Bool.not_eq_false] at valid
          split
          next full =>
            rw [(allocate_full wellFormed.bounded _ full).1]
            exact refused (by nofun) (by nofun)
              (Or.inr (Or.inl ((allocate_refused_iff wellFormed.bounded).mp full)))
          next allocated =>
            have succeeded := not_not.mp allocated
            have issued :
                (self.handles.allocate
                  (self.serializePacket sequence message registration)).1.token ≠ 0 := by
              obtain ⟨_, _, inRange, spelled, _⟩ := allocate_issues wellFormed.bounded _ succeeded
              rw [spelled]
              exact encode_ne_zero inRange
            rw [allocated_resolve wellFormed _ succeeded]
            dsimp only
            rw [valid_length valid, enqueue_refused_iff wellFormed issued]
            by_cases full : kVirtualRawMaximumPackets ≤ self.queue.tokens.length
            · rw [if_pos full, if_pos (by nofun)]
              exact refused (by nofun) (by nofun) (Or.inr (Or.inr full))
            rw [if_neg full, if_neg (not_not.mpr rfl)]
            refine .queued ?_ (by simp [registered])
            rintro (unready | stopping | ⟨other, same, malformed | spent | crowded⟩)
            · exact ready unready
            · exact running stopping
            · cases registered.symm.trans same
              rw [valid] at malformed
              cases malformed
            · exact (allocate_refused_iff wellFormed.bounded).mpr spent succeeded
            · exact full crowded

end VirtualRawInputContext

theorem toMessage_valid {eventData : HydraGateCAdapterInputEventV1}
    (valid : validateInput (some eventData) = .ok)
    (keyboard : (toMessage eventData).kind = .keyboard) :
    (toMessage eventData).vkey.toNat < 256 ∧ (toMessage eventData).keyTransition ≠ .none := by
  unfold validateInput at valid
  dsimp only [toMessage] at keyboard ⊢
  split at keyboard
  next keyed =>
    obtain ⟨_, valid⟩ := not_taken valid nofun
    obtain ⟨_, valid⟩ := not_taken valid nofun
    rw [if_pos keyed] at valid
    obtain ⟨inside, _⟩ := not_taken valid nofun
    rw [not_or, UInt32.not_le, UInt32.lt_iff_toNat_lt] at inside
    refine ⟨inside.1, ?_⟩
    split_ifs with down up
    · nofun
    · nofun
    · exact absurd ⟨down, up⟩ inside.2
  next => cases keyboard

namespace AdapterContext

open VirtualRawInputContext

variable {self : AdapterContext} {eventData : Option HydraGateCAdapterInputEventV1}

/-- The two halves are as operations on new ones leave them. -/
structure Reached (context : AdapterContext) : Prop where
  state :
    Relation.ReflTransGen
      (fun before after => ∃ operation answer,
        VirtualInputState.step before operation = some (answer, after))
      {} context.state
  raw :
    ∃ architecture discriminator operations,
      context.raw =
        runFrom VirtualRawInputContext.step
          (VirtualRawInputContext.create architecture discriminator) operations

theorem Reached.clipped (reached : self.Reached) : self.state.Clipped := by
  obtain ⟨run, _⟩ := reached
  generalize self.state = state at run ⊢
  induction run with
  | refl => exact VirtualInputState.initial_clipped
  | tail _ last clipped =>
    obtain ⟨operation, answer, answered⟩ := last
    obtain ⟨_, _, given, law⟩ := VirtualInputState.step_law clipped operation
    rw [answered] at given
    cases given
    exact law.clipped

theorem Reached.wellFormed (reached : self.Reached) : self.raw.WellFormed := by
  obtain ⟨architecture, discriminator, operations, raw⟩ := reached.raw
  rw [raw]
  exact runFrom_preserves VirtualRawInputContext.step_wellFormed operations
    (VirtualRawInputContext.create_wellFormed architecture discriminator)

/-- A failed call leaves the state and the raw queue as they were. -/
def Undone (self : AdapterContext) (answered : HydraGateCAdapterResult × AdapterContext) : Prop :=
  answered.1 ≠ .ok → answered.2.state = self.state ∧ answered.2.raw.queue = self.raw.queue

/-- A valid event with a fresh number finds no place in the raw half. -/
def RefusesLate (self : AdapterContext) (sequence : UInt64) :
    Option HydraGateCAdapterInputEventV1 → Prop
  | none => False
  | some eventData =>
    validateInput (some eventData) = .ok ∧ self.state.lastAppliedSequence < sequence ∧
      self.rawEnabled = true ∧
      (self.raw.Refuses sequence (toMessage eventData) ∨
        (self.raw.registrations (usageIndex (inputUsage (toMessage eventData))) ≠ none ∧
          kVirtualRawMaximumPackets ≤ self.pendingRawDeliveries.length))

theorem mapRawResult_eq_ok_iff (result : VirtualRawResult) :
    mapRawResult result = .ok ↔ result = .success := by
  cases result <;> simp [mapRawResult]

theorem deliver_refused_iff (self : AdapterContext) (message : InputEventMessage)
    (wellFormed : self.raw.WellFormed) (numbered : sequence ≠ 0) :
    (self.deliver sequence message).1 ≠ .ok ↔
      self.raw.Refuses sequence message ∨
        (self.raw.registrations (usageIndex (inputUsage message)) ≠ none ∧
          kVirtualRawMaximumPackets ≤ self.pendingRawDeliveries.length) := by
  have answers := wellFormed.enqueueInput_answers message numbered
  unfold deliver
  generalize self.raw.enqueueInput sequence message = answered at answers ⊢
  generalize resultIs : answered.1.result = result at answers
  simp only [resultIs]
  cases answers with
  | refused refuses failed registered =>
    rw [if_neg failed, if_pos registered, ne_eq, mapRawResult_eq_ok_iff]
    exact iff_of_true failed (Or.inl refuses)
  | unregistered accepts missing => simp [accepts, missing]
  | queued accepts registered =>
    by_cases full : kVirtualRawMaximumPackets ≤ self.pendingRawDeliveries.length
    · simp [registered, full]
    · simp [accepts, full]

theorem deliver_state : (self.deliver sequence message).2.state = self.state := by
  unfold deliver
  dsimp only
  split_ifs <;> rfl

theorem applyInput_undone_iff (reached : self.Reached) (sequence : UInt64)
    (eventData : Option HydraGateCAdapterInputEventV1) :
    ∃ answered,
      self.applyInput sequence eventData = some answered ∧
        (self.Undone answered ↔ ¬ self.RefusesLate sequence eventData) := by
  have untouched {result : HydraGateCAdapterResult}
      (early : ¬ self.RefusesLate sequence eventData) :
      self.Undone (result, self) ↔ ¬ self.RefusesLate sequence eventData :=
    iff_of_true (fun _ => ⟨rfl, rfl⟩) early
  unfold applyInput
  by_cases unnumbered : sequence = 0
  · rw [if_pos unnumbered]
    refine ⟨_, rfl, untouched ?_⟩
    cases eventData with
    | none => exact id
    | some eventData => exact fun late => UInt64.not_lt_zero (unnumbered ▸ late.2.1)
  rw [if_neg unnumbered]
  cases eventData with
  | none => exact ⟨_, rfl, untouched id⟩
  | some eventData =>
    by_cases valid : validateInput (some eventData) = .ok
    · rw [valid]
      dsimp only
      by_cases stale : sequence ≤ self.state.lastAppliedSequence
      · rw [if_pos stale]
        exact ⟨_, rfl, untouched fun late => UInt64.not_le.mpr late.2.1 stale⟩
      have fresh := UInt64.not_le.mp stale
      obtain ⟨state, accepted, applied⟩ :=
        VirtualInputState.applyInput_accepts reached.clipped fresh (toMessage_valid valid)
      rw [if_neg stale, accepted]
      dsimp only [Option.bind_eq_bind, Option.bind_some]
      rw [if_neg (by nofun)]
      by_cases enabled : self.rawEnabled = true
      · rw [if_pos enabled]
        refine ⟨_, rfl, ?_⟩
        have refused := deliver_refused_iff { self with state } (toMessage eventData)
          reached.wellFormed unnumbered
        constructor
        · intro undone late
          have same := (undone (refused.mpr late.2.2.2)).1
          rw [deliver_state] at same
          have number := congrArg (·.lastAppliedSequence) same
          rw [applied] at number
          exact UInt64.ne_of_lt fresh number.symm
        · intro early failed
          exact absurd ⟨valid, fresh, enabled, refused.mp failed⟩ early
      · rw [if_neg enabled]
        refine ⟨_, rfl, iff_of_true (fun failed => absurd rfl failed) ?_⟩
        exact fun late => enabled late.2.2.1
    · refine ⟨(validateInput (some eventData), self), ?_, untouched fun late => valid late.1⟩
      split
      next given _ ok =>
        cases given
        exact absurd ok valid
      next => rfl

section LostKey

/-- The raw half is configured and the session is stopping. -/
def stoppingAdapter : AdapterContext where
  raw := runFrom VirtualRawInputContext.step (.create .x64 1) [.configure 1 7, .beginStopping]
  rawEnabled := true

def keyDownEvent : HydraGateCAdapterInputEventV1 where
  kind := hydraGateCAdapterInputKeyboard
  keyTransition := hydraGateCAdapterKeyDown
  vkey := 65

theorem stoppingAdapter_reached : stoppingAdapter.Reached :=
  ⟨.refl, .x64, 1, [.configure 1 7, .beginStopping], rfl⟩

theorem stoppingAdapter_undone_iff :
    ∃ answered,
      stoppingAdapter.applyInput 1 (some keyDownEvent) = some answered ∧
        (stoppingAdapter.Undone answered ↔ ¬ stoppingAdapter.RefusesLate 1 (some keyDownEvent)) :=
  applyInput_undone_iff stoppingAdapter_reached 1 (some keyDownEvent)

/-- The call fails with the key down and its number used up. -/
theorem stoppingAdapter_keepsKey :
    stoppingAdapter.Reached ∧
      ∃ answered,
        stoppingAdapter.applyInput 1 (some keyDownEvent) = some answered ∧
          ¬ stoppingAdapter.Undone answered := by
  refine ⟨stoppingAdapter_reached, _, rfl, ?_⟩
  intro undone
  have same := (undone (by decide)).1
  exact absurd (congrArg (·.lastAppliedSequence) same) (by decide)

end LostKey

end AdapterContext

end HydraSeat.GateC
